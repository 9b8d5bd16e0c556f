import CrudScaffold.Definition.FieldList
import CrudScaffold.Entity.Document
import CrudScaffold.Script.Files
import CrudScaffold.Text.Case

/-!
# Specifications in files

A specification is a file of entities: a JSON document if the name of the file ends so, and a
definition document otherwise.
-/

namespace CrudScaffold

/-- Whether a path is that of a JSON document. -/
def Path.isJson (path : Path) : Bool := Text.lowered path.ending == ".json"

/-- The entities in the text of a specification. -/
def loadEntities (path : Path) (text : String) : Script (List Entity) :=
  if path.isJson then Script.ofExcept .document (Entity.loadDocument text)
  else Script.ofExcept .definition (Entity.parseDocument text)

/-- The entities of a specification. -/
def loadSpecification (path : Path) : Script (List Entity) := do
  loadEntities path (← Script.readText path)

/-- The entity that a file defines. -/
def loadEntityDefinition (path : Path) : Script Entity := do
  Script.ofExcept .definition (Entity.parse (← Script.readText path))

/-- The entities that a file defines. -/
def loadDefinitions (path : Path) : Script (List Entity) := do
  Script.ofExcept .definition (Entity.parseDocument (← Script.readText path))

end CrudScaffold
