import CrudScaffold.Console.Message
import CrudScaffold.Entity.Validity
import CrudScaffold.Generation.Parts

/-!
# Generating

For each entity its model is added to the schema, and the files of its module and of its tests are
placed. Nothing is written before all entities have been judged, so entities with violations leave
the project as it was. The schema comes first, so that a run that is broken off can be taken up
again: what was done is then found done.
-/

namespace CrudScaffold

/-- What was generated for an entity. -/
structure Generated where
  /-- The entity. -/
  entity : String
  /-- Whether its model was added. -/
  modelAdded : Bool
  /-- What became of its files. -/
  files : Placement
deriving DecidableEq, Repr

/-- Generate what belongs to an entity that has been judged. -/
def generateJudged (settings : Settings) (entity : Entity) : Script Generated := do
  let modelAdded ← addModel settings entity
  unless modelAdded do
    Console.say ("Model " ++ entity.name ++ " already exists in " ++ settings.schemaFile.text ++
      "; left unchanged")
  let moduleFiles ← placeModule settings entity
  let testFiles ← if settings.skipTests then pure {} else placeTests settings entity
  let files := moduleFiles ++ testFiles
  if settings.verbose then
    files.written.forM fun path => Console.say ("wrote " ++ path.text)
    files.kept.forM fun path => Console.say ("kept  " ++ path.text)
  return ⟨entity.name, modelAdded, files⟩

/-- Generate what belongs to an entity. -/
def generate (settings : Settings) (entity : Entity) : Script Generated := do
  let violations := entity.violations
  unless violations.isEmpty do
    Script.fail (.invalid (some entity.name) (violations.map Violation.message))
  generateJudged settings entity

/-- The violations of the entities of a batch, each with the name of its entity in front. -/
def batchMessages (batch : List Entity) : List String :=
  batch.flatMap fun entity =>
    entity.violations.map fun violation => entity.name ++ ": " ++ violation.message

/-- The violations between the entities of a batch. -/
def referenceMessages (batch : List Entity) : List String :=
  (referenceViolations batch).map ReferenceViolation.message

/-- Generate what belongs to the entities of a batch, in order. -/
def generateAll (settings : Settings) (batch : List Entity) : Script (List Generated) := do
  let messages :=
    batchMessages batch ++ if settings.checkReferences then referenceMessages batch else []
  unless messages.isEmpty do Script.fail (.invalid none messages)
  batch.mapM (generateJudged settings)

end CrudScaffold
