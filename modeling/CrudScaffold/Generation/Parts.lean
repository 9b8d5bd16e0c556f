import CrudScaffold.Schema.Declaration
import CrudScaffold.Script.Files
import CrudScaffold.Settings.Basic
import CrudScaffold.Source.Files

/-!
# The parts of a generation

The schema that the settings name is read, and the model of an entity is added to it once.

The files of an entity go to two directories, one for its module and one for its tests. A file that
is there already is kept, unless the settings say that it is replaced. A file is written only after
its whole text is known.
-/

namespace CrudScaffold

/-! ### The schema -/

/-- The text of the schema. -/
def readSchema (settings : Settings) : Script String := do
  if ← Script.isFile settings.schemaFile then Script.readText settings.schemaFile
  else .fail (.noSchema settings.schemaFile)

/-- Add the model of an entity to the schema, unless the schema declares one of that name. The
answer says whether it was added. -/
def addModel (settings : Settings) (entity : Entity) : Script Bool := do
  match appendModel? (← readSchema settings) entity with
  | none => return false
  | some schema => do
    Script.writeText settings.schemaFile schema
    return true

/-! ### Placing files -/

/-- What became of files, in the order in which they were placed. -/
structure Placement where
  /-- The files that were written. -/
  written : List Path := []
  /-- The files that were kept. -/
  kept : List Path := []
deriving DecidableEq, Repr

/-- What became of files and then of further ones. -/
def Placement.append (first second : Placement) : Placement :=
  ⟨first.written ++ second.written, first.kept ++ second.kept⟩

instance : Append Placement := ⟨Placement.append⟩

/-- The directory of the module of an entity. -/
def Settings.moduleDirectory (settings : Settings) (entity : Entity) : Path :=
  settings.modulesPath.child (Name.kebabCase entity.name)

/-- The directory of the tests of an entity. -/
def Settings.testDirectory (settings : Settings) (entity : Entity) : Path :=
  settings.testsPath.child (Name.kebabCase entity.name)

/-- The path of a file of an entity in a directory. -/
def SourceFile.pathIn (directory : Path) (kebab : String) (file : SourceFile) : Path :=
  directory ++ file.place kebab

/-- The paths of the files of an entity, in the order in which they are placed. -/
def Settings.outputs (settings : Settings) (entity : Entity) : List Path :=
  let kebab := Name.kebabCase entity.name
  SourceFile.ofModule.map (SourceFile.pathIn (settings.moduleDirectory entity) kebab) ++
    if settings.skipTests then []
    else SourceFile.ofTests.map (SourceFile.pathIn (settings.testDirectory entity) kebab)

/-- Place one file of an entity in a directory. -/
def placeFile (overwrite : Bool) (context : Context) (directory : Path) (file : SourceFile) :
    Script Placement := do
  let path := file.pathIn directory context.nameKebab
  let there ← Script.isThere path
  if there && !overwrite then return ⟨[], [path]⟩
  let content ← Script.ofExcept .template (file.render context.members)
  Script.writeTextWithin path content
  return ⟨[path], []⟩

/-- Place files of an entity in a directory. -/
def placeFiles (overwrite : Bool) (context : Context) (directory : Path) :
    List SourceFile → Script Placement
  | [] => return {}
  | file :: files => do
    let first ← placeFile overwrite context directory file
    let further ← placeFiles overwrite context directory files
    return first ++ further

/-- Place the files of the module of an entity. -/
def placeModule (settings : Settings) (entity : Entity) : Script Placement :=
  placeFiles settings.overwrite (.ofEntity entity) (settings.moduleDirectory entity)
    SourceFile.ofModule

/-- Place the files of the tests of an entity. -/
def placeTests (settings : Settings) (entity : Entity) : Script Placement :=
  placeFiles settings.overwrite (.ofEntity entity) (settings.testDirectory entity)
    SourceFile.ofTests

end CrudScaffold
