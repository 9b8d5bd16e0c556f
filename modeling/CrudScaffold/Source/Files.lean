import CrudScaffold.Files.Path
import CrudScaffold.Source.Context
import CrudScaffold.Source.ModuleFiles
import CrudScaffold.Source.RecordFiles
import CrudScaffold.Source.TestFiles

/-!
# The files of an entity

The eight files that are generated for every entity: the template of each, where it stands among all
templates, and the place of the file in the directory of the entity.
-/

namespace CrudScaffold

/-- The files that are generated for an entity. -/
inductive SourceFile
  | module
  | controller
  | service
  | create
  | update
  | record
  | serviceTest
  | requestTest
deriving DecidableEq, Repr

namespace SourceFile

/-- The files of the module, in the order in which they are written. -/
def ofModule : List SourceFile := [.module, .controller, .service, .create, .update, .record]

/-- The files of the tests, in the order in which they are written. -/
def ofTests : List SourceFile := [.serviceTest, .requestTest]

/-- Every file. -/
def all : List SourceFile := ofModule ++ ofTests

/-- The template of a file. -/
def template : SourceFile → Template
  | .module => Source.moduleFile
  | .controller => Source.controllerFile
  | .service => Source.serviceFile
  | .create => Source.createFile
  | .update => Source.updateFile
  | .record => Source.recordFile
  | .serviceTest => Source.serviceTestFile
  | .requestTest => Source.requestTestFile

/-- The steps to the template of a file among all templates. -/
def templateSteps : SourceFile → List String
  | .module => ["module", "module.ts.j2"]
  | .controller => ["module", "controller.ts.j2"]
  | .service => ["module", "service.ts.j2"]
  | .create => ["module", "dto", "create-dto.ts.j2"]
  | .update => ["module", "dto", "update-dto.ts.j2"]
  | .record => ["module", "entities", "entity.ts.j2"]
  | .serviceTest => ["tests", "service.spec.ts.j2"]
  | .requestTest => ["tests", "e2e-spec.ts.j2"]

/-- The place of a file in the directory of an entity whose files have a name. -/
def place (kebab : String) : SourceFile → Path
  | .module => .ofText (kebab ++ ".module.ts")
  | .controller => .ofText (kebab ++ ".controller.ts")
  | .service => .ofText (kebab ++ ".service.ts")
  | .create => .ofText ("dto/create-" ++ kebab ++ ".dto.ts")
  | .update => .ofText ("dto/update-" ++ kebab ++ ".dto.ts")
  | .record => .ofText ("entities/" ++ kebab ++ ".entity.ts")
  | .serviceTest => .ofText (kebab ++ ".service.spec.ts")
  | .requestTest => .ofText (kebab ++ ".e2e-spec.ts")

/-- The text of a file for named values. -/
def render (file : SourceFile) (members : List (String × Json)) : Except TemplateFault String :=
  file.template.render members

end SourceFile

end CrudScaffold
