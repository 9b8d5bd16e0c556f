import CrudScaffold.Json.Printer
import CrudScaffold.Text.Quoted

/-!
# Values in templates

Templates work on JSON values. A value put into a text is shown in a form of its own: a text is
shown as it is, and within an array or an object it stands between quotes. A condition holds unless
the value is empty or zero.
-/

namespace CrudScaffold.Json

/-- The name of the kind of a value. -/
def kindName : Json → String
  | .null => "NoneType"
  | .bool _ => "bool"
  | .integer _ => "int"
  | .decimal _ => "float"
  | .nonFinite _ => "float"
  | .string _ => "str"
  | .array _ => "list"
  | .object _ => "dict"

/-- What a value is called when a member of it is missed. -/
def ownerName : Json → String
  | .null => "None"
  | value => value.kindName ++ " object"

/-- Whether a value makes a condition hold. -/
def isTruthy : Json → Bool
  | .null => false
  | .bool value => value
  | .integer value => value != 0
  | .decimal value => !value.isZero
  | .nonFinite _ => true
  | .string text => !text.isEmpty
  | .array items => !items.isEmpty
  | .object members => !members.isEmpty

/-- The values that a loop visits: the items of an array, the names of an object, the characters of
a text. -/
def elements? : Json → Option (List Json)
  | .array items => some items
  | .object members => some (members.map fun member => .string member.1)
  | .string text => some (text.toList.map fun c => .string (String.ofList [c]))
  | _ => none

mutual

/-- A value within another one. -/
def showInner : Json → String
  | .null => "None"
  | .bool true => "True"
  | .bool false => "False"
  | .integer value => String.ofList (writeInteger value)
  | .decimal value => String.ofList (value.shown "inf".toList)
  | .nonFinite .notANumber => "nan"
  | .nonFinite .infinity => "inf"
  | .nonFinite .negativeInfinity => "-inf"
  | .string text => Text.quoted text
  | .array items => "[" ++ ", ".intercalate (showItems items) ++ "]"
  | .object members => "\x7b" ++ ", ".intercalate (showMembers members) ++ "\x7d"

/-- The items of an array. -/
def showItems : List Json → List String
  | [] => []
  | item :: items => showInner item :: showItems items

/-- The members of an object. -/
def showMembers : List (String × Json) → List String
  | [] => []
  | (name, value) :: members => (Text.quoted name ++ ": " ++ showInner value) :: showMembers members

end

/-- The text that a template puts for a value. -/
def shown : Json → String
  | .string text => text
  | value => showInner value

end CrudScaffold.Json
