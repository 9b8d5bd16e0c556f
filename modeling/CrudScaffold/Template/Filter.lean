import CrudScaffold.Name.Plural
import CrudScaffold.Template.Basic
import CrudScaffold.Text.Blank

/-!
# Filters

A filter turns the text of a value into another spelling. Filters have names, and a register of
names may give the six usual spellings further names or other meanings. A chain of names is applied
from the left; every name in it has to be known before any is applied.
-/

namespace CrudScaffold

/-- The ways to spell a name. -/
inductive Spelling
  | kebab
  | pascal
  | camel
  | snake
  | plural
  | singular
deriving DecidableEq, Repr

namespace Spelling

/-- The usual name of a spelling. -/
def token : Spelling → String
  | .kebab => "kebab_case"
  | .pascal => "pascal_case"
  | .camel => "camel_case"
  | .snake => "snake_case"
  | .plural => "pluralize"
  | .singular => "singularize"

/-- Every spelling. -/
def all : List Spelling := [.kebab, .pascal, .camel, .snake, .plural, .singular]

/-- The spelling of a usual name. -/
def ofToken? (name : String) : Option Spelling := all.find? fun spelling => spelling.token == name

/-- A name in a spelling. -/
def apply : Spelling → String → String
  | .kebab => Name.kebabCase
  | .pascal => Name.pascalCase
  | .camel => Name.camelCase
  | .snake => Name.snakeCase
  | .plural => Name.pluralize
  | .singular => Name.singularize

end Spelling

/-- Names of filters; the first entry of a name counts. -/
abbrev FilterRegister := List (String × Spelling)

namespace FilterRegister

/-- Every spelling under its usual name. -/
def usual : FilterRegister := Spelling.all.map fun spelling => (spelling.token, spelling)

/-- A register after more names were given, later ones over earlier ones. -/
def add (register : FilterRegister) (names : List (String × Spelling)) : FilterRegister :=
  names.reverse ++ register

/-- The names in a chain of filters. -/
def chainNames (chain : String) : List String :=
  (chain.toList.splitOn '|').map fun name => String.ofList (Text.trim name)

/-- A value after a chain of filters. Of several unknown names the last one is reported. -/
def apply (register : FilterRegister) (chain value : String) : Except TemplateFault String :=
  let names := chainNames chain
  match names.reverse.find? fun name => (register.lookup name).isNone with
  | some name => .error (.unknownFilter name)
  | none =>
    .ok ((names.filterMap fun name => register.lookup name).foldl
      (fun text spelling => spelling.apply text) value)

end FilterRegister

end CrudScaffold
