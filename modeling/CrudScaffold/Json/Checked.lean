import CrudScaffold.Json.Bounded.Fault
import CrudScaffold.Json.Double

/-!
# Checking values against a shape

A value that has to be an entity, a field or a set of settings is checked part by part, and all
faults are reported together: each with the place in the value and what was expected there. A
`Checked` result therefore collects issues where two parts are combined, in the order of the parts.
-/

namespace CrudScaffold

/-- One step from a value to a part of it. -/
inductive Step
  | key (name : String)
  | index (position : Nat)
deriving DecidableEq, Repr

/-- What is wrong with a part. -/
inductive IssueKind
  /-- A member is required and not there. -/
  | missing
  | notString
  /-- The value is of a kind that is never a flag. -/
  | notFlag
  /-- The value is of a kind that may be a flag, and is none. -/
  | unreadableFlag
  /-- The value is none of the names listed. -/
  | notChoice (choices : List String)
  | notList
  /-- The value is no object, where the named model was expected. -/
  | notRecord (model : String)
  /-- The whole document is no object. -/
  | notObject
  | notPath
  /-- The text of the document is no JSON. -/
  | notJson (fault : BoundedFault)
deriving DecidableEq, Repr

/-- A fault of a value. -/
structure Issue where
  /-- The way to the part at fault. -/
  location : List Step
  /-- What is wrong with it. -/
  kind : IssueKind
deriving DecidableEq, Repr

/-- All faults of a value that was expected to be of a model. -/
structure Mismatch where
  /-- The model. -/
  model : String
  /-- The faults, at least one. -/
  issues : List Issue
deriving DecidableEq, Repr

/-- A list of names in a sentence: separated by commas, with a word before the last one. -/
def enumerate (names : List String) : String :=
  match names.reverse with
  | [] => ""
  | [name] => name
  | last :: others => ", ".intercalate others.reverse ++ " or " ++ last

namespace IssueKind

/-- The short name of a kind of issue. -/
def code : IssueKind → String
  | .missing => "missing"
  | .notString => "string_type"
  | .notFlag => "bool_type"
  | .unreadableFlag => "bool_parsing"
  | .notChoice _ => "enum"
  | .notList => "tuple_type"
  | .notRecord _ => "model_type"
  | .notObject => "model_type"
  | .notPath => "path_type"
  | .notJson _ => "json_invalid"

/-- The words for an issue. -/
def message : IssueKind → String
  | .missing => "Field required"
  | .notString => "Input should be a valid string"
  | .notFlag => "Input should be a valid boolean"
  | .unreadableFlag => "Input should be a valid boolean, unable to interpret input"
  | .notChoice choices =>
    "Input should be " ++ enumerate (choices.map fun choice => "'" ++ choice ++ "'")
  | .notList => "Input should be a valid tuple"
  | .notRecord model => "Input should be a valid dictionary or instance of " ++ model
  | .notObject => "Input should be an object"
  | .notPath => "Input is not a valid path for <class 'pathlib.Path'>"
  | .notJson fault => "Invalid JSON: " ++ fault.message

end IssueKind

/-- The text of a step. -/
def Step.text : Step → String
  | .key name => name
  | .index position => Nat.repr position

/-- The report of all issues: a count, then two lines for each. -/
def Mismatch.message (mismatch : Mismatch) : String :=
  let count := mismatch.issues.length
  let head :=
    Nat.repr count ++ " validation error" ++ (if count = 1 then "" else "s") ++ " for " ++
      mismatch.model
  "\n".intercalate (head :: mismatch.issues.flatMap fun issue =>
    [".".intercalate (issue.location.map Step.text),
      "  " ++ issue.kind.message ++ " [type=" ++ issue.kind.code ++ "]"])

/-- A value that passed its checks, or the issues that were found. -/
inductive Checked (α : Type) where
  | passed (value : α)
  | failed (issues : List Issue)
deriving Repr

namespace Checked

variable {α β : Type}

/-- Apply a function to a value that passed. -/
def map (f : α → β) : Checked α → Checked β
  | .passed value => .passed (f value)
  | .failed issues => .failed issues

/-- Combine two parts; the issues of both are kept, those of the first in front. -/
def seq : Checked (α → β) → Checked α → Checked β
  | .passed f, .passed value => .passed (f value)
  | .passed _, .failed issues => .failed issues
  | .failed issues, .passed _ => .failed issues
  | .failed issues, .failed further => .failed (issues ++ further)

instance : Functor Checked where
  map := Checked.map

instance : Applicative Checked where
  pure := .passed
  seq f value := seq f (value ())

/-- A single issue with the value itself. -/
def issue (kind : IssueKind) : Checked α := .failed [⟨[], kind⟩]

/-- Place the issues of a part one step further in. -/
def under (step : Step) : Checked α → Checked α
  | .passed value => .passed value
  | .failed issues =>
    .failed (issues.map fun issue => { issue with location := step :: issue.location })

/-- Check every item of a list whose first item stands at a position. -/
def itemsFrom (check : Json → Checked α) : (position : Nat) → List Json → Checked (List α)
  | _, [] => .passed []
  | position, item :: rest =>
    seq (((check item).under (.index position)).map List.cons) (itemsFrom check (position + 1) rest)

/-- The value, or all issues as the fault of a model. -/
def toExcept (model : String) : Checked α → Except Mismatch α
  | .passed value => .ok value
  | .failed issues => .error ⟨model, issues⟩

end Checked

/-- The two names of a member: the one that is written and the one that is also read. -/
structure MemberName where
  /-- The name that is written, and that wins if both are there. -/
  written : String
  /-- The other name. -/
  alternative : String
deriving DecidableEq, Repr

/-- A member whose two names are the same. -/
def MemberName.single (name : String) : MemberName := ⟨name, name⟩

namespace Json

variable {α : Type}

/-- The member of a name, with the spelling that was found. -/
def find? (members : List (String × Json)) (name : MemberName) : Option (String × Json) :=
  match member? members name.written with
  | some value => some (name.written, value)
  | none => (member? members name.alternative).map fun value => (name.alternative, value)

/-- A text. -/
def checkString : Json → Checked String
  | .string text => .passed text
  | _ => .issue .notString

/-- A flag written as a word, in any mix of capitals. -/
def flagOfWord? (word : String) : Option Bool :=
  let lowered := word.toList.map Char.toLower
  if ["0", "off", "f", "false", "n", "no"].any fun name => name.toList == lowered then some false
  else if ["1", "on", "t", "true", "y", "yes"].any fun name => name.toList == lowered then some true
  else none

/-- A flag from a whole number: zero or one. Another one of 64 bits is unreadable, like a word that
is no name of a flag; a larger one is no flag at all. -/
def checkWholeFlag (least value : Int) : Checked Bool :=
  if value = 0 then .passed false
  else if value = 1 then .passed true
  else if least ≤ value && value < 9223372036854775808 then .issue .unreadableFlag
  else .issue .notFlag

/-- A flag: true, false, a whole number or a word. Of the whole numbers that are written with a
fraction or an exponent, the least one of 64 bits is too large already. -/
def checkFlag : Json → Checked Bool
  | .bool value => .passed value
  | .integer value => checkWholeFlag (-9223372036854775808) value
  | .decimal value =>
    match value.whole? with
    | some value => checkWholeFlag (-9223372036854775807) value
    | none => .issue .notFlag
  | .string word =>
    match flagOfWord? word with
    | some value => .passed value
    | none => .issue .unreadableFlag
  | _ => .issue .notFlag

/-- One of a closed set of names. -/
def checkChoice (choices : List String) (ofName? : String → Option α) : Json → Checked α
  | .string name =>
    match ofName? name with
    | some value => .passed value
    | none => .issue (.notChoice choices)
  | _ => .issue (.notChoice choices)

/-- A value that may be null. -/
def checkNullable (check : Json → Checked α) : Json → Checked (Option α)
  | .null => .passed none
  | value => (check value).map some

/-- A list of values. -/
def checkList (check : Json → Checked α) : Json → Checked (List α)
  | .array items => Checked.itemsFrom check 0 items
  | _ => .issue .notList

/-- An object of a model. -/
def checkRecord (model : String) (check : List (String × Json) → Checked α) : Json → Checked α
  | .object members => check members
  | _ => .issue (.notRecord model)

/-- A member that has to be there. -/
def required (members : List (String × Json)) (name : MemberName) (check : Json → Checked α) :
    Checked α :=
  match find? members name with
  | some (spelling, value) => (check value).under (.key spelling)
  | none => .failed [⟨[.key name.written], .missing⟩]

/-- A member with a value for its absence. -/
def withDefault (members : List (String × Json)) (name : MemberName) (absent : α)
    (check : Json → Checked α) : Checked α :=
  match find? members name with
  | some (spelling, value) => (check value).under (.key spelling)
  | none => .passed absent

end Json

end CrudScaffold
