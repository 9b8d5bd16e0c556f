import CrudScaffold.Json.Bounded.Reader
import CrudScaffold.Json.Checked
import CrudScaffold.Json.Printer
import CrudScaffold.Script.Files
import CrudScaffold.Settings.Basic

/-!
# Settings in files

Settings are exchanged as a JSON object whose members may be left out. They are kept in a file of
their own and read back from there.
-/

namespace CrudScaffold.Settings

/-- A path as a JSON value. -/
def pathJson (path : Path) : Json := .string path.text

/-- Settings as the members of an object. -/
def members (settings : Settings) : List (String × Json) := [
  ("project_root", pathJson settings.projectRoot),
  ("schema_path", pathJson settings.schemaPath),
  ("modules_dir", pathJson settings.modulesDir),
  ("tests_dir", pathJson settings.testsDir),
  ("skip_tests", .bool settings.skipTests),
  ("check_references", .bool settings.checkReferences),
  ("overwrite", .bool settings.overwrite),
  ("verbose", .bool settings.verbose)]

/-- Settings as the text of a file. -/
def document (settings : Settings) : String := (Json.object settings.members).indented

/-- A path from a JSON value. -/
def checkPath : Json → Checked Path
  | .string text => .passed (.ofText text)
  | _ => .issue .notPath

/-- Settings from the members of an object; what is left out stays as it was. -/
def checkMembers (settings : Settings) (members : List (String × Json)) : Checked Settings :=
  Settings.mk
    <$> Json.withDefault members (.single "project_root") settings.projectRoot checkPath
    <*> Json.withDefault members (.single "schema_path") settings.schemaPath checkPath
    <*> Json.withDefault members (.single "modules_dir") settings.modulesDir checkPath
    <*> Json.withDefault members (.single "tests_dir") settings.testsDir checkPath
    <*> Json.withDefault members (.single "skip_tests") settings.skipTests Json.checkFlag
    <*> Json.withDefault members (.single "check_references") settings.checkReferences
      Json.checkFlag
    <*> Json.withDefault members (.single "overwrite") settings.overwrite Json.checkFlag
    <*> Json.withDefault members (.single "verbose") settings.verbose Json.checkFlag

/-- The name of the model of settings. -/
def modelName : String := "GeneratorConfig"

/-- Settings after the members of an object were laid over them. -/
def overlay (settings : Settings) (members : List (String × Json)) : Except Mismatch Settings :=
  (settings.checkMembers members).toExcept modelName

/-- Settings from a JSON value. -/
def check : Json → Checked Settings
  | .object members => checkMembers {} members
  | _ => .issue .notObject

/-- Settings from the text of a file. -/
def ofDocument (text : String) : Except Mismatch Settings :=
  match Json.Bounded.read text with
  | .ok value => (check value).toExcept modelName
  | .error fault => .error ⟨modelName, [⟨[], .notJson fault⟩]⟩

/-- Write settings to a file, in a directory that is made if it is missing. -/
def save (settings : Settings) (path : Path) : Script Unit :=
  Script.writeTextWithin path settings.document

/-- Read settings from a file. -/
def load (path : Path) : Script Settings := do
  Script.ofExcept .settings (ofDocument (← Script.readText path))

end CrudScaffold.Settings
