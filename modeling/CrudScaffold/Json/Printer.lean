import CrudScaffold.Json.Double
import CrudScaffold.Text.Digits

/-!
# Writing JSON

Two layouts of one value. The compact layout stands on one line, with a space after each comma and
colon, and writes every character outside printable ASCII as a code. The indented layout puts each
item and member on a line of its own, two spaces deeper than what holds it, keeps an empty array or
object on one line, and writes only control characters as codes.
-/

namespace CrudScaffold.Json

/-- Which characters of a string are written as codes. -/
inductive Charset
  /-- All but printable ASCII. -/
  | ascii
  /-- The control characters below the space. -/
  | unicode
deriving DecidableEq, Repr

/-- Whether a character without an escape of its own is written as a code. -/
def Charset.needsCode : Charset → Char → Bool
  | .ascii, c => c.toNat < 32 || 126 < c.toNat
  | .unicode, c => c.toNat < 32

/-- One code of four hexadecimal digits. -/
def writeCode (code : Nat) : List Char := '\\' :: 'u' :: Text.hexDigits 4 code

/-- The codes of a character: one, or a pair of halves beyond the first 65536 characters. -/
def writeCodes (c : Char) : List Char :=
  let code := c.toNat
  if code < 0x10000 then writeCode code
  else
    writeCode (0xD800 + (code - 0x10000) / 0x400) ++ writeCode (0xDC00 + (code - 0x10000) % 0x400)

/-- One character of a string. -/
def writeChar (charset : Charset) (c : Char) : List Char :=
  if c = '"' then ['\\', '"']
  else if c = '\\' then ['\\', '\\']
  else if c = '\n' then ['\\', 'n']
  else if c = '\r' then ['\\', 'r']
  else if c = '\t' then ['\\', 't']
  else if c = '\x08' then ['\\', 'b']
  else if c = '\x0c' then ['\\', 'f']
  else if charset.needsCode c then writeCodes c
  else [c]

/-- A string with its quotes. -/
def writeString (charset : Charset) (text : String) : List Char :=
  '"' :: text.toList.flatMap (writeChar charset) ++ ['"']

/-- An integer. -/
def writeInteger (value : Int) : List Char :=
  if value < 0 then '-' :: (Nat.repr value.natAbs).toList else (Nat.repr value.natAbs).toList

/-- A decimal number, by the shortest text that leads back to it. -/
def writeDecimal (value : Decimal) : List Char := value.shown "Infinity".toList

/-- A mark for a result that is no number. -/
def writeNonFinite : NonFinite → List Char
  | .notANumber => "NaN".toList
  | .infinity => "Infinity".toList
  | .negativeInfinity => "-Infinity".toList

mutual

/-- A value on one line. -/
def writeCompact : Json → List Char
  | .null => "null".toList
  | .bool true => "true".toList
  | .bool false => "false".toList
  | .integer value => writeInteger value
  | .decimal value => writeDecimal value
  | .nonFinite mark => writeNonFinite mark
  | .string text => writeString .ascii text
  | .array [] => ['[', ']']
  | .array (item :: items) => '[' :: writeCompact item ++ writeCompactItems items
  | .object [] => ['\x7b', '\x7d']
  | .object ((name, value) :: members) =>
    '\x7b' :: writeString .ascii name ++ ':' :: ' ' :: writeCompact value ++
      writeCompactMembers members

/-- The items after the first, and the closing bracket. -/
def writeCompactItems : List Json → List Char
  | [] => [']']
  | item :: items => ',' :: ' ' :: writeCompact item ++ writeCompactItems items

/-- The members after the first, and the closing brace. -/
def writeCompactMembers : List (String × Json) → List Char
  | [] => ['\x7d']
  | (name, value) :: members =>
    ',' :: ' ' :: writeString .ascii name ++ ':' :: ' ' :: writeCompact value ++
      writeCompactMembers members

end

/-- The break before a line at a depth. -/
def newLine (depth : Nat) : List Char := '\n' :: List.replicate (2 * depth) ' '

mutual

/-- A value whose own lines stand at a depth. -/
def writeIndented (depth : Nat) : Json → List Char
  | .null => "null".toList
  | .bool true => "true".toList
  | .bool false => "false".toList
  | .integer value => writeInteger value
  | .decimal value => writeDecimal value
  | .nonFinite mark => writeNonFinite mark
  | .string text => writeString .unicode text
  | .array [] => ['[', ']']
  | .array (item :: items) =>
    '[' :: newLine (depth + 1) ++ writeIndented (depth + 1) item ++
      writeIndentedItems depth items
  | .object [] => ['\x7b', '\x7d']
  | .object ((name, value) :: members) =>
    '\x7b' :: newLine (depth + 1) ++ writeString .unicode name ++ ':' :: ' ' ::
      writeIndented (depth + 1) value ++ writeIndentedMembers depth members

/-- The items after the first, and the closing bracket at the depth of the array. -/
def writeIndentedItems (depth : Nat) : List Json → List Char
  | [] => newLine depth ++ [']']
  | item :: items =>
    ',' :: newLine (depth + 1) ++ writeIndented (depth + 1) item ++ writeIndentedItems depth items

/-- The members after the first, and the closing brace at the depth of the object. -/
def writeIndentedMembers (depth : Nat) : List (String × Json) → List Char
  | [] => newLine depth ++ ['\x7d']
  | (name, value) :: members =>
    ',' :: newLine (depth + 1) ++ writeString .unicode name ++ ':' :: ' ' ::
      writeIndented (depth + 1) value ++ writeIndentedMembers depth members

end

/-- The compact layout of a value. -/
def compact (value : Json) : String := String.ofList (writeCompact value)

/-- The indented layout of a value. -/
def indented (value : Json) : String := String.ofList (writeIndented 0 value)

end CrudScaffold.Json
