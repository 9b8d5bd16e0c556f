import CrudScaffold.Text.Quoted

/-!
# Faults of a command line

What can be wrong with the arguments of a command, as causes.
-/

namespace CrudScaffold

/-- Why arguments are refused. An option is given by all of its names. -/
inductive UsageFault
  /-- The start of an option fits several. -/
  | ambiguous (argument : String) (fitting : List String)
  /-- An option has no value. -/
  | noValue (option : List String)
  /-- An option that takes no value has one. -/
  | surplusValue (option : List String) (value : String)
  /-- Two options exclude each other. -/
  | excluded (option other : List String)
  /-- An operand is missing. -/
  | missing (operand : String)
  /-- An operand is none of those that there are. -/
  | notChoice (operand value : String) (choices : List String)
  /-- Nobody asked for these arguments. -/
  | unrecognized (arguments : List String)
  /-- Fields are given, and no entity that has them. -/
  | fieldsAlone
deriving DecidableEq, Repr

namespace UsageFault

/-- The words for a fault of one option. -/
def ofOption (option : List String) (problem : String) : String :=
  "argument " ++ "/".intercalate option ++ ": " ++ problem

/-- The words for a fault. -/
def message : UsageFault → String
  | .ambiguous argument fitting =>
    "ambiguous option: " ++ argument ++ " could match " ++ ", ".intercalate fitting
  | .noValue option => ofOption option "expected one argument"
  | .surplusValue option value =>
    ofOption option ("ignored explicit argument " ++ Text.quoted value)
  | .excluded option other =>
    ofOption option ("not allowed with argument " ++ "/".intercalate other)
  | .missing operand => "the following arguments are required: " ++ operand
  | .notChoice operand value choices =>
    ofOption [operand] ("invalid choice: " ++ Text.quoted value ++ " (choose from " ++
      ", ".intercalate (choices.map Text.quoted) ++ ")")
  | .unrecognized arguments => "unrecognized arguments: " ++ " ".intercalate arguments
  | .fieldsAlone => "--fields requires --entity"

end UsageFault

end CrudScaffold
