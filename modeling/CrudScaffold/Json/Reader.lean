import CrudScaffold.Json.Basic
import CrudScaffold.Json.Fault
import CrudScaffold.Json.Lexical
import CrudScaffold.Text.Digits

/-!
# Reading JSON

`Json.read` reads a whole text as one value and reports the first fault otherwise. Beside the
standard it takes the three marks for non-finite numbers; it takes no integer of more than
`digitLimit` digits, and no more than `nestingLimit` arrays and objects within each other. The parts
of the reader take the text from their place to its end and return what follows the value; a fault
names its place by the number of characters from there to the end, and `Json.read` turns that into
a position.

The readers that call each other count down a bound on the number of calls. Two calls take at
least one character, so twice the length of the text is never used up.
-/

namespace CrudScaffold.Json

/-- A fault; a place is given by the number of characters that remain. -/
inductive Stop
  | malformed (cause : JsonCause) (remaining : Nat)
  | longInteger (digits : Nat)
  | deepNesting (part : JsonPart)
deriving DecidableEq, Repr

/-- Stop where so many characters remain. -/
def stopAt {α : Type} (cause : JsonCause) (remaining : Nat) : Except Stop α :=
  .error (.malformed cause remaining)

/-- Stop at the first character of a text. -/
def stop {α : Type} (cause : JsonCause) (text : List Char) : Except Stop α :=
  stopAt cause text.length

/-- The character of a code. Half of a surrogate pair without its partner is no character, and the
replacement character stands in for it. A document with such a half is therefore read as another
one, and nothing that is said of entities and files covers it. -/
def charOfCode (code : Nat) : Char :=
  if isHighSurrogate code || isLowSurrogate code then '\uFFFD' else Char.ofNat code

/-- Read a string from behind its opening quote, which stood `opening` characters before the end.
Four digits of a code must be followed by one more character, since the string does not end with
them. -/
def readString (opening : Nat) : List Char → Except Stop (List Char × List Char)
  | [] => stopAt .unterminatedString opening
  | '"' :: rest => .ok ([], rest)
  | ['\\'] => stopAt .unterminatedString opening
  | '\\' :: 'u' :: a :: b :: c :: d :: next :: rest =>
    let place := rest.length + 6
    match Text.hexNumber? [a, b, c, d] with
    | none => stopAt .invalidCodeEscape place
    | some code =>
      let alone := do
        let (tail, rest) ← readString opening (next :: rest)
        return (charOfCode code :: tail, rest)
      if isHighSurrogate code && next == '\\' then
        match rest with
        | 'u' :: e :: f :: g :: h :: last :: rest =>
          match Text.hexNumber? [e, f, g, h] with
          | none => stopAt .invalidCodeEscape (rest.length + 6)
          | some second =>
            if isLowSurrogate second then do
              let (tail, rest) ← readString opening (last :: rest)
              return (Char.ofNat (joinSurrogates code second) :: tail, rest)
            else alone
        | _ => alone
      else alone
  | '\\' :: 'u' :: rest => stop .invalidCodeEscape ('u' :: rest)
  | '\\' :: letter :: rest =>
    match shortEscape? letter with
    | none => stop .invalidEscape ('\\' :: letter :: rest)
    | some c => do
      let (tail, rest) ← readString opening rest
      return (c :: tail, rest)
  | c :: rest =>
    if isControl c then stop .controlCharacter (c :: rest)
    else do
      let (tail, rest) ← readString opening rest
      return (c :: tail, rest)

/-- The digits of a whole part: a zero alone, or digits that start with another one. -/
def takeWhole? : List Char → Option (List Char × List Char)
  | '0' :: rest => some (['0'], rest)
  | c :: rest => if c.isDigit then some (takeDigits (c :: rest)) else none
  | [] => none

/-- The digits after a point, or none if no digit follows a point here. -/
def takeFraction : List Char → List Char × List Char
  | '.' :: c :: rest => if c.isDigit then takeDigits (c :: rest) else ([], '.' :: c :: rest)
  | text => ([], text)

/-- The sign and the digits of an exponent, if a whole one stands here. -/
def takeExponent (text : List Char) : Option Int × List Char :=
  match text with
  | [] => (none, text)
  | mark :: rest =>
    if mark != 'e' && mark != 'E' then (none, text)
    else
      let (negative, rest) :=
        match rest with
        | '-' :: rest => (true, rest)
        | '+' :: rest => (false, rest)
        | rest => (false, rest)
      match takeDigits rest with
      | ([], _) => (none, text)
      | (digits, rest) => (some (signed negative digits), rest)

/-- Read a number: as an integer if neither a fraction nor an exponent is written. -/
def readNumber? (text : List Char) : Option (Json × List Char) := do
  let (negative, unsigned) :=
    match text with
    | '-' :: rest => (true, rest)
    | rest => (false, rest)
  let (whole, rest) ← takeWhole? unsigned
  let (fraction, rest) := takeFraction rest
  let (exponent, rest) := takeExponent rest
  if fraction.isEmpty && exponent.isNone then
    return (.integer (signed negative whole), rest)
  else
    let digits := decimalNumber (whole ++ fraction)
    return (.decimal ⟨negative, digits, exponent.getD 0 - fraction.length⟩, rest)

/-- The names of values, each with the value it stands for. -/
def literals : List (List Char × Json) := [
  ("null".toList, .null),
  ("true".toList, .bool true),
  ("false".toList, .bool false),
  ("NaN".toList, .nonFinite .notANumber),
  ("Infinity".toList, .nonFinite .infinity),
  ("-Infinity".toList, .nonFinite .negativeInfinity)]

/-- Read a named value. -/
def readLiteral? (text : List Char) : Option (Json × List Char) :=
  (literals.find? fun entry => entry.1.isPrefixOf text).map fun entry =>
    (entry.2, text.drop entry.1.length)

/-- The greatest number of digits of an integer. -/
def digitLimit : Nat := 4300

/-- The number of digits at the start of a text, a sign aside. -/
def countDigits : List Char → Nat
  | '-' :: rest => (rest.takeWhile Char.isDigit).length
  | text => (text.takeWhile Char.isDigit).length

/-- Read a value without parts: a named value or a number. -/
def readScalar (text : List Char) : Except Stop (Json × List Char) :=
  match (readLiteral? text).or (readNumber? text) with
  | some (.integer value, rest) =>
    if value ≠ 0 && digitLimit < countDigits text then .error (.longInteger (countDigits text))
    else .ok (.integer value, rest)
  | some found => .ok found
  | none => stop .expectingValue text

/-- The greatest depth of arrays and objects within each other. -/
def nestingLimit : Nat := 985

mutual

/-- Read one value, which stands within so many arrays and objects. -/
def readValue : (calls depth : Nat) → List Char → Except Stop (Json × List Char)
  | 0, _, text => stop .expectingValue text
  | calls + 1, depth, text =>
    match text with
    | '"' :: rest => do
      let (value, rest) ← readString text.length rest
      return (.string (String.ofList value), rest)
    | '{' :: rest =>
      if nestingLimit ≤ depth then .error (.deepNesting .object)
      else
        match skipSpace rest with
        | '}' :: rest => .ok (.object [], rest)
        | rest => do
          let (members, rest) ← readMembers calls (depth + 1) rest
          return (.object (ofMembers members), rest)
    | '[' :: rest =>
      if nestingLimit ≤ depth then .error (.deepNesting .array)
      else
        match skipSpace rest with
        | ']' :: rest => .ok (.array [], rest)
        | rest => do
          let (items, rest) ← readItems calls (depth + 1) rest
          return (.array items, rest)
    | text => readScalar text

/-- Read the items of an array up to its closing bracket. -/
def readItems : (calls depth : Nat) → List Char → Except Stop (List Json × List Char)
  | 0, _, text => stop .expectingValue text
  | calls + 1, depth, text => do
    let (item, rest) ← readValue calls depth text
    match skipSpace rest with
    | ']' :: rest => return ([item], rest)
    | ',' :: rest =>
      let (items, rest) ← readItems calls depth (skipSpace rest)
      return (item :: items, rest)
    | rest => stop .expectingComma rest

/-- Read the members of an object up to its closing brace. -/
def readMembers : (calls depth : Nat) → List Char → Except Stop (List (String × Json) × List Char)
  | 0, _, text => stop .expectingName text
  | calls + 1, depth, text =>
    match text with
    | '"' :: rest => do
      let (name, rest) ← readString text.length rest
      match skipSpace rest with
      | ':' :: rest =>
        let (value, rest) ← readValue calls depth (skipSpace rest)
        let member := (String.ofList name, value)
        match skipSpace rest with
        | '}' :: rest => return ([member], rest)
        | ',' :: rest =>
          let (members, rest) ← readMembers calls depth (skipSpace rest)
          return (member :: members, rest)
        | rest => stop .expectingComma rest
      | rest => stop .expectingColon rest
    | text => stop .expectingName text

end

/-- Read a text that holds one value and nothing else. -/
def readWhole (text : List Char) : Except Stop Json :=
  if text.head? = some '\uFEFF' then stop .byteOrderMark text
  else do
    let (value, rest) ← readValue (2 * text.length + 2) 0 (skipSpace text)
    match skipSpace rest with
    | [] => return value
    | rest => stop .extraData rest

/-- The fault of a text at which its reader stopped. -/
def Stop.toFault (text : List Char) : Stop → JsonFault
  | .malformed cause remaining =>
    .malformed (.ofPosition text cause (text.length - remaining))
  | .longInteger digits => .longInteger digits
  | .deepNesting part => .deepNesting part

/-- Read a document. -/
def read (document : String) : Except JsonFault Json :=
  (readWhole document.toList).mapError (Stop.toFault document.toList)

end CrudScaffold.Json
