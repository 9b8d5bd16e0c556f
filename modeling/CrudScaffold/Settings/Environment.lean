import CrudScaffold.Settings.File
import CrudScaffold.Text.Blank
import CrudScaffold.Text.Case

/-!
# Settings from the environment

Each setting has a variable of the environment. An empty variable is the same as none; a flag is
also unset by blanks, is turned on by a few words, and is turned off by all others.
-/

namespace CrudScaffold

/-- The variables of the environment. -/
abbrev Environment := List (String × String)

/-- The words that turn a flag on. -/
def affirmations : List String := ["1", "true", "yes", "on"]

/-- The flag that the text of a variable stands for. -/
def flagOfVariable? (text : String) : Option Bool :=
  let word := Text.trim text.toList
  if word.isEmpty then none else some (affirmations.contains (String.ofList (Text.lower word)))

namespace Environment

/-- The path in a variable. -/
def path? (environment : Environment) (key : String) : Option Path :=
  match environment.lookup key with
  | some text => if text.isEmpty then none else some (.ofText text)
  | none => none

/-- The flag in a variable. -/
def flag? (environment : Environment) (key : String) : Option Bool :=
  (environment.lookup key).bind flagOfVariable?

/-- The settings that an environment asks for. -/
def settings (environment : Environment) : Settings :=
  let usual : Settings := {}
  { projectRoot := (environment.path? "BG_PROJECT_ROOT").getD usual.projectRoot
    schemaPath := (environment.path? "BG_SCHEMA_PATH").getD usual.schemaPath
    modulesDir := (environment.path? "BG_MODULES_DIR").getD usual.modulesDir
    testsDir := (environment.path? "BG_TESTS_DIR").getD usual.testsDir
    skipTests := (environment.flag? "BG_SKIP_TESTS").getD usual.skipTests
    checkReferences := (environment.flag? "BG_CHECK_REFERENCES").getD usual.checkReferences
    overwrite := (environment.flag? "BG_OVERWRITE").getD usual.overwrite
    verbose := (environment.flag? "BG_VERBOSE").getD usual.verbose }

/-- The variables that settings look at. -/
def keys : List String := [
  "BG_PROJECT_ROOT", "BG_SCHEMA_PATH", "BG_MODULES_DIR", "BG_TESTS_DIR", "BG_SKIP_TESTS",
  "BG_CHECK_REFERENCES", "BG_OVERWRITE", "BG_VERBOSE"]

end Environment

end CrudScaffold
