import CrudScaffold.Definition.Fault
import CrudScaffold.Entity.Document
import CrudScaffold.Files.Fault
import CrudScaffold.Template.Basic
import CrudScaffold.Text.Utf8

/-!
# Failures

Everything that can end a script early, as causes. The words that are shown to the user are in
`Failure.message`; which failures a command reports and which end the whole program is decided by
`Failure.isReported`.
-/

namespace CrudScaffold

/-- Why a script ended early. -/
inductive Failure
  /-- A definition was refused. -/
  | definition (fault : DefinitionFault)
  /-- A document of entities was refused. -/
  | document (fault : DocumentFault)
  /-- A document of settings was refused. -/
  | settings (fault : Mismatch)
  /-- The named entity, or a batch, has violations. -/
  | invalid (entity : Option String) (messages : List String)
  /-- There is no schema to add a model to. -/
  | noSchema (path : Path)
  /-- A file action was refused. -/
  | file (fault : FileFault)
  /-- A file is no text. -/
  | encoding (fault : Text.Utf8Fault)
  /-- A template gave no text. -/
  | template (fault : TemplateFault)
  /-- An answer was expected, and the input had ended. -/
  | endOfInput
deriving DecidableEq, Repr

namespace Failure

/-- Who was judged: the entity, if it has a name, or the batch. -/
def subject : Option String → String
  | none => "Entity batch"
  | some name => if name.isEmpty then "Entity batch" else "Entity " ++ name

/-- The words for a failure. -/
def message : Failure → String
  | .definition fault => fault.message
  | .document fault => fault.message
  | .settings fault => fault.message
  | .invalid entity messages =>
    subject entity ++ " validation failed:\n" ++ "\n".intercalate messages
  | .noSchema path => "Prisma schema not found: " ++ path.text
  | .file fault => fault.message
  | .encoding fault => fault.message
  | .template fault => fault.message
  | .endOfInput => "EOF when reading a line"

/-- Whether a command reports a failure and ends in order. Templates never fail for an entity,
without an answer there is nobody to report to, and documents whose values hold each other without
end are not expected. -/
def isReported : Failure → Bool
  | .template _ | .endOfInput | .document (.json (.deepNesting _)) => false
  | _ => true

end Failure

end CrudScaffold
