/-!
# Faults of a JSON text

What can be wrong with a text that should be a JSON document, and where. A position counts the
characters before it; lines and columns count from one, and only the line feed ends a line. A
well-formed text may still hold more than is read: integers of too many digits, or too many arrays
and objects within each other.
-/

namespace CrudScaffold

/-- What is wrong at a place of the text. -/
inductive JsonCause
  | byteOrderMark
  | expectingValue
  | expectingName
  | expectingColon
  | expectingComma
  | unterminatedString
  | controlCharacter
  | invalidEscape
  | invalidCodeEscape
  | extraData
deriving DecidableEq, Repr

/-- The first place at which a text is malformed. -/
structure MalformedJson where
  /-- What is wrong. -/
  cause : JsonCause
  /-- The number of characters before the place. -/
  position : Nat
  /-- The line of the place. -/
  line : Nat
  /-- The place within its line. -/
  column : Nat
deriving DecidableEq, Repr

/-- The words for a cause. -/
def JsonCause.text : JsonCause → String
  | .byteOrderMark => "Unexpected UTF-8 BOM (decode using utf-8-sig)"
  | .expectingValue => "Expecting value"
  | .expectingName => "Expecting property name enclosed in double quotes"
  | .expectingColon => "Expecting ':' delimiter"
  | .expectingComma => "Expecting ',' delimiter"
  | .unterminatedString => "Unterminated string starting at"
  | .controlCharacter => "Invalid control character at"
  | .invalidEscape => "Invalid \\escape"
  | .invalidCodeEscape => "Invalid \\uXXXX escape"
  | .extraData => "Extra data"

/-- The fault at a position of a text. -/
def MalformedJson.ofPosition (text : List Char) (cause : JsonCause) (position : Nat) :
    MalformedJson :=
  let before := text.take position
  { cause
    position
    line := before.count '\n' + 1
    column := (before.reverse.takeWhile (· != '\n')).length + 1 }

/-- The message for a malformed text. -/
def MalformedJson.message (fault : MalformedJson) : String :=
  fault.cause.text ++ ": line " ++ Nat.repr fault.line ++ " column " ++ Nat.repr fault.column ++
    " (char " ++ Nat.repr fault.position ++ ")"

/-- The values that hold others. -/
inductive JsonPart
  | array
  | object
deriving DecidableEq, Repr

/-- The name of a value that holds others. -/
def JsonPart.name : JsonPart → String
  | .array => "array"
  | .object => "object"

/-- Why a text is not read as a JSON document. -/
inductive JsonFault
  | malformed (fault : MalformedJson)
  /-- An integer has too many digits. -/
  | longInteger (digits : Nat)
  /-- Too many values hold each other; the last one is of this kind. -/
  | deepNesting (part : JsonPart)
deriving DecidableEq, Repr

/-- The message for a fault. -/
def JsonFault.message : JsonFault → String
  | .malformed fault => fault.message
  | .longInteger digits =>
    "Exceeds the limit (4300 digits) for integer string conversion: value has " ++
      Nat.repr digits ++ " digits; use sys.set_int_max_str_digits() to increase the limit"
  | .deepNesting part =>
    "maximum recursion depth exceeded while decoding a JSON " ++ part.name ++
      " from a unicode string"

end CrudScaffold
