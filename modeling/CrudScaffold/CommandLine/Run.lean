import CrudScaffold.CommandLine.Command
import CrudScaffold.CommandLine.Report
import CrudScaffold.Definition.FieldList
import CrudScaffold.Settings.Environment
import CrudScaffold.Specification

/-!
# Running commands

A command reads its entities before it does anything with them, so a specification that is refused
changes no file. A failure is reported on the console and ends the program with a status of its own;
only the end of the input at a question, and a template that gives no text, are not.
-/

namespace CrudScaffold

/-- The fields of an entity when none are named. -/
def defaultFields : String :=
  "id:uuid@id@default(cuid()),email:string@unique,name:string?," ++
    "createdAt:datetime@default(now()),updatedAt:datetime@default(now())"

/-- The entities, of which there has to be one at least. -/
def requireEntities (entities : List Entity) : Script (List Entity) :=
  if entities.isEmpty then .fail (.definition .empty) else return entities

/-- The entities of the specification of a name, at least one. -/
def loadNamed (path : String) : Script (List Entity) := do
  requireEntities (← loadSpecification (.ofText path))

/-- Ask for the fields of an entity. An empty line stands for the default ones. -/
def askFields (entity : String) : Script String := do
  Console.prompt ("Enter fields for " ++ entity ++ " (comma-separated, format: name:type[?]) (" ++
    defaultFields ++ "): ")
  match ← Script.ask .readLine with
  | none => .fail .endOfInput
  | some line => return if line.isEmpty then defaultFields else Text.trimmed line

namespace AddOptions

/-- The settings, those of the environment and what the options say over them. -/
def settings (options : AddOptions) (environment : Environment) : Settings :=
  let usual := environment.settings
  let root := options.projectRoot.getD ""
  { usual with
    projectRoot := if root.isEmpty then usual.projectRoot else .ofText root
    skipTests := options.skipTests || usual.skipTests
    overwrite := options.overwrite || usual.overwrite
    verbose := options.verbose || usual.verbose }

/-- The entities to generate from: those of a specification, a named one, or those of the input. -/
def entities (options : AddOptions) : Script (List Entity) := do
  let spec := options.spec.getD ""
  let entity := options.entity.getD ""
  if !spec.isEmpty then loadNamed spec
  else if !entity.isEmpty then
    let fields ←
      match options.fields with
      | some fields => pure fields
      | none => askFields entity
    return [← Script.ofExcept .definition (Entity.ofFieldList entity fields)]
  else
    let text ← Script.ask .readRest
    requireEntities (← Script.ofExcept .definition (Entity.parseDocument text))

end AddOptions

/-- Generate from entities: a single one, or a batch. -/
def generateFrom (settings : Settings) : List Entity → Script (List Generated)
  | [entity] => return [← generate settings entity]
  | entities => generateAll settings entities

/-- Show an entity as a table, and its model where that is wanted. -/
def showEntity (model : Bool) (entity : Entity) : Script Unit := do
  Console.say entity.table.text
  if model then Console.saySource entity.model

/-- Judge entities: each by itself, and several also between each other. -/
def judgeAll (entities : List Entity) : Script Unit := do
  let messages :=
    batchMessages entities ++ if 1 < entities.length then referenceMessages entities else []
  unless messages.isEmpty do Script.fail (.invalid none messages)

/-- Run a command. -/
def Command.run (environment : Environment) : Command → Script Unit
  | .add options => do
    let settings := options.settings environment
    let entities ← options.entities
    reportGenerated settings (← generateFrom settings entities)
  | .parse path json model => do
    let entities ← loadNamed path
    if json then Console.sayDocument (entitiesDocument entities)
    else entities.forM (showEntity model)
  | .validate path => do
    let entities ← loadNamed path
    judgeAll entities
    Console.say (Nat.repr entities.length ++ " entities valid")

/-- How the program ended. -/
inductive Outcome
  | finished
  /-- A failure was reported. -/
  | failed (failure : Failure)
  /-- Help was asked for, or the arguments were refused. -/
  | halted (halt : Halt)
deriving DecidableEq, Repr

namespace Outcome

/-- The status that the program ends with. -/
def status : Outcome → Nat
  | .finished => 0
  | .failed _ => 1
  | .halted .help => 0
  | .halted (.fault _ _) => 2

/-- The last line of what is written about refused arguments. -/
def complaint? : Outcome → Option String
  | .halted (.fault program fault) => some (program ++ ": error: " ++ fault.message)
  | _ => none

end Outcome

/-- Run a command, and report the failure that it ends with. -/
def Command.runReported (environment : Environment) (command : Command) : Script Outcome := do
  match ← (command.run environment).attempt with
  | .ok () => return .finished
  | .error failure =>
    if failure.isReported then
      Console.sayError failure.message
      return .failed failure
    else .fail failure

/-- Run the program. -/
def runProgram (arguments : List String) (environment : Environment) : Script Outcome :=
  match Command.ofArguments arguments with
  | .ok command => command.runReported environment
  | .error halt => return .halted halt

end CrudScaffold
