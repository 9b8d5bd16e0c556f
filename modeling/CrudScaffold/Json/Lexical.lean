/-!
# Parts of JSON texts

What every reader of JSON needs to know about characters: which of them are space, what the escapes
of strings stand for, and what digits write.
-/

namespace CrudScaffold.Json

/-- The characters that may stand between the parts of a value. -/
def isSpace (c : Char) : Bool := c == ' ' || c == '\t' || c == '\n' || c == '\r'

/-- Pass over the space before the next part. -/
def skipSpace (text : List Char) : List Char := text.dropWhile isSpace

/-- The character that a letter after a backslash stands for. -/
def shortEscape? : Char → Option Char
  | '"' => some '"'
  | '\\' => some '\\'
  | '/' => some '/'
  | 'b' => some '\x08'
  | 'f' => some '\x0c'
  | 'n' => some '\n'
  | 'r' => some '\r'
  | 't' => some '\t'
  | _ => none

/-- Whether a character may not stand in a string as itself. -/
def isControl (c : Char) : Bool := c.toNat < 32

/-- The first half of a pair of codes that write one character beyond the first 65536. -/
def isHighSurrogate (code : Nat) : Bool := 0xD800 ≤ code && code ≤ 0xDBFF

/-- The second half of such a pair. -/
def isLowSurrogate (code : Nat) : Bool := 0xDC00 ≤ code && code ≤ 0xDFFF

/-- The code point of a pair of halves. -/
def joinSurrogates (high low : Nat) : Nat := 0x10000 + (high - 0xD800) * 0x400 + (low - 0xDC00)

/-- The number that decimal digits write. -/
def decimalNumber (digits : List Char) : Nat :=
  digits.foldl (fun number c => number * 10 + (c.toNat - '0'.toNat)) 0

/-- The digits at the start of a text and what follows them. -/
def takeDigits (text : List Char) : List Char × List Char :=
  (text.takeWhile Char.isDigit, text.dropWhile Char.isDigit)

/-- The number that digits write, with a sign. -/
def signed (negative : Bool) (digits : List Char) : Int :=
  if negative then -(decimalNumber digits : Int) else decimalNumber digits

end CrudScaffold.Json
