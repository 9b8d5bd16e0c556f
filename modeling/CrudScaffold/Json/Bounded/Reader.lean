import CrudScaffold.Json.Basic
import CrudScaffold.Json.Bounded.Fault
import CrudScaffold.Json.Lexical
import CrudScaffold.Text.Digits

/-!
# Reading JSON within bounds

`Json.Bounded.read` reads a whole text as one value, within bounds: a number has at most
`lengthLimit` characters in front of its point, and a value stands in at most `depthLimit` arrays
and objects that hold something. The three marks for non-finite numbers are taken too. Other than
with `Json.read`, every number that is begun has to be finished, both halves of a pair of codes have
to be there, and a fault is told at the place where the text stopped making sense, for example at
its end and not at the start of the string that is open there.

The readers take the text from their place to its end and return what follows the value; a fault
names its place by the number of characters from there to the end. Readers that call each other
count down a bound on the number of calls; two calls take at least one character.
-/

namespace CrudScaffold.Json.Bounded

/-- A fault, located by the number of characters that remain. -/
structure Stop where
  /-- What is wrong. -/
  cause : BoundedCause
  /-- The number of characters from the place to the end. -/
  remaining : Nat
deriving DecidableEq, Repr

/-- Stop at the first character of a text. -/
def stop {α : Type} (cause : BoundedCause) (text : List Char) : Except Stop α :=
  .error ⟨cause, text.length⟩

/-- The greatest number of characters of a number in front of its point, with its sign. -/
def lengthLimit : Nat := 4300

/-- The greatest number of arrays and objects around a value. -/
def depthLimit : Nat := 200

/-- Read the rest of a name. -/
def readName (expected text : List Char) : Except Stop (List Char) :=
  match expected, text with
  | [], rest => .ok rest
  | _ :: _, [] => stop .endInValue []
  | letter :: expected, c :: rest =>
    if c = letter then readName expected rest else stop .expectedName (c :: rest)

/-- Read the four digits of a code. A text with fewer bytes ends too early, whatever they are. -/
def readCode (text : List Char) : Except Stop (Nat × List Char) :=
  if BoundedFault.byteLength text < 4 then stop .endInString []
  else
    match (text.take 4).dropWhile fun c => (Text.hexValue? c).isSome with
    | [] => .ok ((Text.hexNumber? (text.take 4)).getD 0, text.drop 4)
    | wrong => .error ⟨.invalidEscape, (text.drop 4).length + wrong.length⟩

/-- Read the character of a code from behind the letter of its escape. The first half of a pair has
to be followed by the second one. -/
def readCodedChar (text : List Char) : Except Stop (Char × List Char) := do
  let (code, rest) ← readCode text
  if isLowSurrogate code then .error ⟨.loneSurrogate, rest.length + 1⟩
  else if isHighSurrogate code then
    match rest with
    | '\\' :: 'u' :: rest =>
      let (second, rest) ← readCode rest
      if isLowSurrogate second then return (Char.ofNat (joinSurrogates code second), rest)
      else .error ⟨.loneSurrogate, rest.length + 1⟩
    | [] => stop .endInString []
    | ['\\'] => stop .endInString []
    | '\\' :: rest => stop .secondSurrogateMissing rest
    | rest => stop .secondSurrogateMissing rest
  else return (Char.ofNat code, rest)

/-- Read a string from behind its opening quote. An escape takes two characters at least, so the
length of the text bounds the number of characters. -/
def readString : (bound : Nat) → List Char → Except Stop (List Char × List Char)
  | 0, _ => stop .endInString []
  | _, [] => stop .endInString []
  | _ + 1, '"' :: rest => .ok ([], rest)
  | _ + 1, ['\\'] => stop .endInString []
  | bound + 1, '\\' :: letter :: rest =>
    if letter = 'u' then do
      let (c, rest) ← readCodedChar rest
      let (tail, rest) ← readString bound rest
      return (c :: tail, rest)
    else
      match shortEscape? letter with
      | none => stop .invalidEscape (letter :: rest)
      | some c => do
        let (tail, rest) ← readString bound rest
        return (c :: tail, rest)
  | bound + 1, c :: rest =>
    if isControl c then stop .controlCharacter (c :: rest)
    else do
      let (tail, rest) ← readString bound rest
      return (c :: tail, rest)

/-- Read digits, of which there has to be one at least. -/
def readDigits (text : List Char) : Except Stop (List Char × List Char) :=
  match takeDigits text with
  | ([], []) => stop .endInValue []
  | ([], rest) => stop .invalidNumber rest
  | found => .ok found

/-- Read the exponent of a number from behind its mark. -/
def readExponent : List Char → Except Stop (Int × List Char)
  | '-' :: rest => do
    let (digits, rest) ← readDigits rest
    return (signed true digits, rest)
  | '+' :: rest => do
    let (digits, rest) ← readDigits rest
    return (signed false digits, rest)
  | text => do
    let (digits, rest) ← readDigits text
    return (signed false digits, rest)

/-- The mark of an exponent. -/
def isExponentMark (c : Char) : Bool := c == 'e' || c == 'E'

/-- Read what follows the fraction of a number. -/
def readAfterFraction (negative : Bool) (whole fraction : List Char) (text : List Char) :
    Except Stop (Json × List Char) :=
  let digits := decimalNumber (whole ++ fraction)
  match text with
  | c :: rest =>
    if isExponentMark c then do
      let (exponent, rest) ← readExponent rest
      return (.decimal ⟨negative, digits, exponent - fraction.length⟩, rest)
    else .ok (.decimal ⟨negative, digits, -fraction.length⟩, c :: rest)
  | [] => .ok (.decimal ⟨negative, digits, -fraction.length⟩, [])

/-- Read what follows the whole part of a number. -/
def readAfterWhole (negative : Bool) (whole : List Char) (text : List Char) :
    Except Stop (Json × List Char) :=
  match text with
  | '.' :: rest => do
    let (fraction, rest) ← readDigits rest
    readAfterFraction negative whole fraction rest
  | c :: _ =>
    if isExponentMark c then readAfterFraction negative whole [] text
    else .ok (.integer (signed negative whole), text)
  | [] => .ok (.integer (signed negative whole), text)

/-- Read a number from behind its sign. -/
def readUnsigned (negative : Bool) (text : List Char) : Except Stop (Json × List Char) :=
  match text with
  | [] => stop .endInValue []
  | 'I' :: rest => do
    let rest ← readName "nfinity".toList rest
    return (.nonFinite (if negative then .negativeInfinity else .infinity), rest)
  | '0' :: rest =>
    match takeDigits rest with
    | ([], _) => readAfterWhole negative ['0'] rest
    | _ => stop .invalidNumber rest
  | text =>
    match takeDigits text with
    | ([], rest) => stop .invalidNumber rest
    | (whole, rest) =>
      let limit := lengthLimit - (if negative then 1 else 0)
      if limit < whole.length then stop .numberTooLong (text.drop (limit + 1))
      else readAfterWhole negative whole rest

/-- Read a value without parts: a named value or a number. -/
def readScalar (text : List Char) : Except Stop (Json × List Char) :=
  match text with
  | 'n' :: rest => do return (.null, ← readName "ull".toList rest)
  | 't' :: rest => do return (.bool true, ← readName "rue".toList rest)
  | 'f' :: rest => do return (.bool false, ← readName "alse".toList rest)
  | 'N' :: rest => do return (.nonFinite .notANumber, ← readName "aN".toList rest)
  | '-' :: rest => readUnsigned true rest
  | [] => stop .endInValue []
  | c :: _ => if c.isDigit || c == 'I' then readUnsigned false text else stop .expectedValue text

mutual

/-- Read one value, which stands within so many arrays and objects. -/
def readValue : (calls depth : Nat) → List Char → Except Stop (Json × List Char)
  | 0, _, text => stop .expectedValue text
  | calls + 1, depth, text =>
    match text with
    | '"' :: rest => do
      let (value, rest) ← readString text.length rest
      return (.string (String.ofList value), rest)
    | '\x7b' :: rest =>
      match skipSpace rest with
      | [] => stop .endInObject []
      | '\x7d' :: rest => .ok (.object [], rest)
      | rest => do
        let (members, rest) ← readMembers calls (depth + 1) rest
        return (.object (ofMembers members), rest)
    | '[' :: rest =>
      match skipSpace rest with
      | [] => stop .endInArray []
      | ']' :: rest => .ok (.array [], rest)
      | rest =>
        if depthLimit ≤ depth then stop .nestedTooDeep rest
        else do
          let (items, rest) ← readItems calls (depth + 1) rest
          return (.array items, rest)
    | text => readScalar text

/-- Read the items of an array up to its closing bracket. -/
def readItems : (calls depth : Nat) → List Char → Except Stop (List Json × List Char)
  | 0, _, text => stop .expectedValue text
  | calls + 1, depth, text => do
    let (item, rest) ← readValue calls depth text
    match skipSpace rest with
    | [] => stop .endInArray []
    | ']' :: rest => return ([item], rest)
    | ',' :: rest =>
      match skipSpace rest with
      | [] => stop .endInValue []
      | ']' :: rest => stop .trailingComma (']' :: rest)
      | rest =>
        let (items, rest) ← readItems calls depth rest
        return (item :: items, rest)
    | rest => stop .expectedItemEnd rest

/-- Read the members of an object up to its closing brace. -/
def readMembers : (calls depth : Nat) → List Char → Except Stop (List (String × Json) × List Char)
  | 0, _, text => stop .keyNotString text
  | calls + 1, depth, text =>
    match text with
    | '"' :: rest => do
      let (name, rest) ← readString text.length rest
      match skipSpace rest with
      | [] => stop .endInObject []
      | ':' :: rest =>
        match skipSpace rest with
        | [] => stop .endInValue []
        | rest =>
          if depthLimit < depth then stop .nestedTooDeep rest
          else
            let (value, rest) ← readValue calls depth rest
            let member := (String.ofList name, value)
            match skipSpace rest with
            | [] => stop .endInObject []
            | '\x7d' :: rest => return ([member], rest)
            | ',' :: rest =>
              match skipSpace rest with
              | [] => stop .endInValue []
              | '\x7d' :: rest => stop .trailingComma ('\x7d' :: rest)
              | rest =>
                let (members, rest) ← readMembers calls depth rest
                return (member :: members, rest)
            | rest => stop .expectedMemberEnd rest
      | rest => stop .expectedColon rest
    | text => stop .keyNotString text

end

/-- Read a text that holds one value and nothing else. -/
def readWhole (text : List Char) : Except Stop Json := do
  match skipSpace text with
  | [] => stop .endInValue []
  | start =>
    let (value, rest) ← readValue (2 * text.length + 2) 0 start
    match skipSpace rest with
    | [] => return value
    | rest => stop .trailingCharacters rest

/-- The fault of a text at which its reader stopped. -/
def Stop.toFault (text : List Char) (stop : Stop) : BoundedFault :=
  let (before, behind) := text.splitAt (text.length - stop.remaining)
  .between stop.cause before behind

/-- Read a document. -/
def read (document : String) : Except BoundedFault Json :=
  (readWhole document.toList).mapError (Stop.toFault document.toList)

end CrudScaffold.Json.Bounded
