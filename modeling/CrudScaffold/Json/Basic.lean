/-!
# JSON values

The values of a JSON document. Numbers are kept exactly as written: an integer, or a decimal number
if a fraction or an exponent was written, or one of the three marks `NaN`, `Infinity` and
`-Infinity` that some writers emit. The members of an object keep the order of their first
appearance and have distinct names when they come from `insertMember`.
-/

namespace CrudScaffold

/-- A number written with a fraction or an exponent: `digits` times ten to the `exponent`. -/
structure Decimal where
  /-- Whether a minus sign was written. -/
  negative : Bool
  /-- The digits before and after the point, read as one number. -/
  digits : Nat
  /-- The power of ten that the digits are multiplied with. -/
  exponent : Int
deriving DecidableEq, Repr, Inhabited

/-- The marks for results that are no number. -/
inductive NonFinite
  | notANumber
  | infinity
  | negativeInfinity
deriving DecidableEq, Repr, Inhabited

/-- A JSON value. -/
inductive Json
  | null
  | bool (value : Bool)
  | integer (value : Int)
  | decimal (value : Decimal)
  | nonFinite (mark : NonFinite)
  | string (text : String)
  | array (items : List Json)
  | object (members : List (String × Json))
deriving Repr, Inhabited

namespace Json

/-- Give a member a value: at its old place if the name is there, at the end if it is new. -/
def insertMember (name : String) (value : Json) :
    List (String × Json) → List (String × Json)
  | [] => [(name, value)]
  | (other, old) :: rest =>
    if other = name then (name, value) :: rest else (other, old) :: insertMember name value rest

/-- The members of an object in the order of their first appearance, each with its last value. -/
def ofMembers (members : List (String × Json)) : List (String × Json) :=
  members.foldl (fun kept member => insertMember member.1 member.2 kept) []

/-- The member of a name. -/
def member? (members : List (String × Json)) (name : String) : Option Json :=
  members.lookup name

/-- The value of an optional text, absent or not. -/
def ofOption : Option String → Json
  | none => .null
  | some text => .string text

end Json

end CrudScaffold
