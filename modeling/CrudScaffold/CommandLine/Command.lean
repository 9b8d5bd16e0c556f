import CrudScaffold.CommandLine.Arguments

/-!
# Commands

The commands of the program, each with what its arguments say: generate what belongs to entities,
show the entities of a specification, or judge them.
-/

namespace CrudScaffold

/-- What to generate from, and how. -/
structure AddOptions where
  /-- The specification. -/
  spec : Option String := none
  /-- The name of a single entity. -/
  entity : Option String := none
  /-- The fields of that entity. -/
  fields : Option String := none
  /-- Whether tests are left out. -/
  skipTests : Bool := false
  /-- Whether files that are there are replaced. -/
  overwrite : Bool := false
  /-- The directory of the project. -/
  projectRoot : Option String := none
  /-- Whether every file is reported. -/
  verbose : Bool := false
deriving DecidableEq, Repr

/-- The commands. -/
inductive Command
  /-- Generate what belongs to entities. -/
  | add (options : AddOptions)
  /-- Show the entities of a specification, as a document or as tables. -/
  | parse (path : String) (json model : Bool)
  /-- Judge the entities of a specification. -/
  | validate (path : String)
deriving DecidableEq, Repr

namespace Command

/-- The name of the program. -/
def program : String := "backend-generator"

/-- The option that asks for help. -/
def helpRule : OptionRule := { names := ["-h", "--help"], kind := .help }

/-- The names of the commands. -/
def names : List String := ["add-crud", "parse", "validate"]

/-- How the program is used. -/
def usage : String :=
  "usage: " ++ program ++ " [-h] \x7b" ++ ",".intercalate names ++ "\x7d ..."

/-- What the program takes: a command, and the arguments of it. -/
def grammar : Grammar where
  program := program
  options := [helpRule]
  operand := .rest "command"

/-- What the command that generates takes. -/
def addGrammar : Grammar where
  program := program ++ " add-crud"
  options := [
    helpRule,
    { names := ["--spec", "-s"], kind := .value, rivals := ["--entity"] },
    { names := ["--entity", "-e"], kind := .value, rivals := ["--spec"] },
    { names := ["--fields"], kind := .value },
    { names := ["--skip-tests"], kind := .flag },
    { names := ["--overwrite"], kind := .flag },
    { names := ["--project-root", "-C"], kind := .value },
    { names := ["--verbose", "-v"], kind := .flag }]
  operand := .none

/-- What the command that shows entities takes. -/
def parseGrammar : Grammar where
  program := program ++ " parse"
  options := [
    helpRule,
    { names := ["--json"], kind := .flag },
    { names := ["--model"], kind := .flag }]
  operand := .one "path"

/-- What the command that judges entities takes. -/
def validateGrammar : Grammar where
  program := program ++ " validate"
  options := [helpRule]
  operand := .one "path"

/-- The command that generates, from its options. -/
def ofAddOptions (given : Given) : Command :=
  .add {
    spec := given.value? "--spec"
    entity := given.value? "--entity"
    fields := given.value? "--fields"
    skipTests := given.has "--skip-tests"
    overwrite := given.has "--overwrite"
    projectRoot := given.value? "--project-root"
    verbose := given.has "--verbose" }

/-- A command, provided that no argument is left over. -/
def complete (outer inner : Given) (command : Command) : Except Halt Command :=
  let surplus := outer.surplus ++ inner.surplus
  if surplus.isEmpty then .ok command else .error (.fault program (.unrecognized surplus))

/-- A command whose options go together: fields belong to a named entity. -/
def consistent : Command → Except Halt Command
  | .add options =>
    if options.fields.isSome && (options.entity.getD "").isEmpty then
      .error (.fault program .fieldsAlone)
    else .ok (.add options)
  | command => .ok command

/-- The command of a name, from what was given to it. -/
def ofName (outer : Given) : (name : String) → Except Halt Command
  | "add-crud" => do
    let inner ← addGrammar.read outer.rest
    complete outer inner (ofAddOptions inner)
  | "parse" => do
    let inner ← parseGrammar.read outer.rest
    complete outer inner
      (.parse (inner.operand.getD "") (inner.has "--json") (inner.has "--model"))
  | "validate" => do
    let inner ← validateGrammar.read outer.rest
    complete outer inner (.validate (inner.operand.getD ""))
  | name => .error (.fault program (.notChoice "command" name names))

/-- The command that arguments ask for. -/
def ofArguments (arguments : List String) : Except Halt Command := do
  let outer ← grammar.read arguments
  (← ofName outer (outer.operand.getD "")).consistent

end Command

end CrudScaffold
