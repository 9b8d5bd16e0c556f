import CrudScaffold.Console.Message
import CrudScaffold.Console.Table
import CrudScaffold.Entity.Document
import CrudScaffold.Generation.Run
import CrudScaffold.Json.Printer
import CrudScaffold.Schema.Model

/-!
# Reports

What the commands print about entities: a table of their fields, the document of a list of them, and
a summary of what was generated.
-/

namespace CrudScaffold

/-- The word for a flag that is set. -/
def flagWord (flag : Bool) : String := if flag then "yes" else ""

/-- The words for the reference of a field. -/
def Field.relationWords (field : Field) : String :=
  match field.relationTarget, field.relationType with
  | some target, some cardinality => target ++ " (" ++ cardinality.token ++ ")"
  | _, _ => ""

/-- The cells of a field. -/
def Field.cells (field : Field) : List String := [
  field.name, field.type.token, flagWord field.optional, flagWord field.unique,
  flagWord field.isId, field.defaultValue.getD "", field.relationWords]

/-- The table of the fields of an entity. -/
def Entity.table (entity : Entity) : Console.Table where
  title := entity.name
  header := ["Field", "Type", "Optional", "Unique", "Id", "Default", "Relation"]
  rows := entity.fields.map Field.cells

/-- The document of a list of entities. -/
def entitiesDocument (entities : List Entity) : String :=
  (Json.array (entities.map Entity.toJson)).indented

/-- The table that sums up what was generated for an entity. -/
def Generated.table (settings : Settings) (generated : Generated) : Console.Table where
  title := generated.entity
  header := ["Item", "Value"]
  rows :=
    let name := Name.kebabCase generated.entity
    [["Prisma model", if generated.modelAdded then "appended" else "already present"],
      ["Module", (settings.modulesDir.child name).text],
      ["Files written", Nat.repr generated.files.written.length],
      ["Files kept", Nat.repr generated.files.kept.length]] ++
      if settings.skipTests then [] else [["Tests", (settings.testsDir.child name).text]]

/-- Report what was generated for an entity. -/
def Generated.report (settings : Settings) (generated : Generated) : Script Unit := do
  Console.say ("CRUD operations generated for " ++ generated.entity ++ "!")
  Console.say (generated.table settings).text
  Console.say ""

/-- Report what was generated, and what is left to be done. -/
def reportGenerated (settings : Settings) (results : List Generated) : Script Unit := do
  results.forM (Generated.report settings)
  Console.say "Next steps:"
  Console.say "  1. Review the generated files"
  Console.say "  2. Run prisma generate and create a migration"
  Console.say "  3. Run the tests"

end CrudScaffold
