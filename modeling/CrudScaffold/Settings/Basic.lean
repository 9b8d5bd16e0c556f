import CrudScaffold.Files.Path

/-!
# Settings

Where files are generated and how: four paths and four flags, each with a default. The paths of the
schema, the modules and the tests start at the root of the project.
-/

namespace CrudScaffold

/-- Where files are generated and how. -/
structure Settings where
  /-- The directory of the project. -/
  projectRoot : Path := .current
  /-- The schema, from the directory of the project. -/
  schemaPath : Path := .ofText "prisma/schema.prisma"
  /-- What holds the modules, from the directory of the project. -/
  modulesDir : Path := .ofText "src/modules"
  /-- What holds the tests, from the directory of the project. -/
  testsDir : Path := .ofText "test"
  /-- Whether tests are left out. -/
  skipTests : Bool := false
  /-- Whether the entities of a batch have to know each other. -/
  checkReferences : Bool := true
  /-- Whether files that are there are replaced. -/
  overwrite : Bool := false
  /-- Whether every file is reported. -/
  verbose : Bool := false
deriving DecidableEq, Repr, Inhabited

namespace Settings

/-- The schema. -/
def schemaFile (settings : Settings) : Path := settings.projectRoot ++ settings.schemaPath

/-- What holds the modules. -/
def modulesPath (settings : Settings) : Path := settings.projectRoot ++ settings.modulesDir

/-- What holds the tests. -/
def testsPath (settings : Settings) : Path := settings.projectRoot ++ settings.testsDir

end Settings

end CrudScaffold
