/-!
# Faults of a bounded JSON text

What can be wrong with a JSON text that is read within bounds, and where. A place is told by the
bytes of the text in UTF-8: lines count from one, and the column is the number of bytes of the line
up to the one at fault, which counts. A line feed belongs to the line that it opens, so a line feed
at fault stands in column zero. A text that ends too early is at fault behind its last byte.
-/

namespace CrudScaffold

/-- What is wrong at a place of the text. -/
inductive BoundedCause
  | endInArray
  | endInObject
  | endInString
  | endInValue
  | expectedColon
  | expectedItemEnd
  | expectedMemberEnd
  | expectedName
  | expectedValue
  | invalidEscape
  | invalidNumber
  | numberTooLong
  | controlCharacter
  | keyNotString
  | loneSurrogate
  | secondSurrogateMissing
  | trailingComma
  | trailingCharacters
  | nestedTooDeep
deriving DecidableEq, Repr

/-- The words for a cause. -/
def BoundedCause.text : BoundedCause → String
  | .endInArray => "EOF while parsing a list"
  | .endInObject => "EOF while parsing an object"
  | .endInString => "EOF while parsing a string"
  | .endInValue => "EOF while parsing a value"
  | .expectedColon => "expected `:`"
  | .expectedItemEnd => "expected `,` or `]`"
  | .expectedMemberEnd => "expected `,` or `\x7d`"
  | .expectedName => "expected ident"
  | .expectedValue => "expected value"
  | .invalidEscape => "invalid escape"
  | .invalidNumber => "invalid number"
  | .numberTooLong => "number out of range"
  | .controlCharacter => "control character (\\u0000-\\u001F) found while parsing a string"
  | .keyNotString => "key must be a string"
  | .loneSurrogate => "lone leading surrogate in hex escape"
  | .secondSurrogateMissing => "unexpected end of hex escape"
  | .trailingComma => "trailing comma"
  | .trailingCharacters => "trailing characters"
  | .nestedTooDeep => "recursion limit exceeded"

/-- The first fault of a text. -/
structure BoundedFault where
  /-- What is wrong. -/
  cause : BoundedCause
  /-- The line of the place. -/
  line : Nat
  /-- The place within its line. -/
  column : Nat
deriving DecidableEq, Repr

namespace BoundedFault

/-- The number of bytes of a text. -/
def byteLength (text : List Char) : Nat := text.foldr (fun c count => c.utf8Size + count) 0

/-- The fault at the place behind some characters and in front of others. -/
def between (cause : BoundedCause) (before behind : List Char) : BoundedFault :=
  let line := before.count '\n' + 1
  let bytes := byteLength (before.reverse.takeWhile (· != '\n'))
  match behind with
  | [] => ⟨cause, line, bytes⟩
  | c :: _ => if c = '\n' then ⟨cause, line + 1, 0⟩ else ⟨cause, line, bytes + 1⟩

/-- The message for a fault. -/
def message (fault : BoundedFault) : String :=
  fault.cause.text ++ " at line " ++ Nat.repr fault.line ++ " column " ++ Nat.repr fault.column

end BoundedFault

end CrudScaffold
