import CrudScaffold.Text.Digits

/-!
# UTF-8

Files hold bytes and everything else works on text. Writing is total, since half of a surrogate
pair, the one thing that has no bytes, is no character and so in no text: what an attempt to write
it would leave behind is outside of this library. Reading stops at the first byte sequence that is
no character and says where it is, how long it is and what is wrong with it: a byte that starts
nothing, a byte that does not continue what was started, or an end too early. The span of a fault
covers the bytes that were still acceptable, and at least one.
-/

namespace CrudScaffold.Text

/-- Why a byte sequence is no character. -/
inductive Utf8Reason
  | invalidStart
  | invalidContinuation
  | unexpectedEnd
deriving DecidableEq, Repr

/-- The first sequence of bytes that is no character. -/
structure Utf8Fault where
  /-- The number of bytes before it. -/
  position : Nat
  /-- The number of its bytes. -/
  length : Nat
  /-- Its first byte. -/
  byte : UInt8
  /-- What is wrong with it. -/
  reason : Utf8Reason
deriving DecidableEq, Repr

/-- The words for a reason. -/
def Utf8Reason.text : Utf8Reason → String
  | .invalidStart => "invalid start byte"
  | .invalidContinuation => "invalid continuation byte"
  | .unexpectedEnd => "unexpected end of data"

/-- The message for a fault: a single byte is shown, a longer sequence is located by its ends. -/
def Utf8Fault.message (fault : Utf8Fault) : String :=
  let place :=
    if fault.length = 1 then
      "byte 0x" ++ String.ofList (hexDigits 2 fault.byte.toNat) ++ " in position " ++
        Nat.repr fault.position
    else
      "bytes in position " ++ Nat.repr fault.position ++ "-" ++
        Nat.repr (fault.position + fault.length - 1)
  "'utf-8' codec can't decode " ++ place ++ ": " ++ fault.reason.text

/-- The bytes of a text. -/
def encodeUtf8 (text : List Char) : List UInt8 := text.flatMap String.utf8EncodeChar

/-- A byte that continues a character. -/
def isContinuation (byte : UInt8) : Bool := 0x80 ≤ byte && byte ≤ 0xBF

/-- Whether a byte may follow the first one. Four first bytes narrow the choice, so that no
character is written longer than needed, none is a surrogate, and none exceeds the last one. -/
def isSecond (first second : UInt8) : Bool :=
  isContinuation second && (first != 0xE0 || 0xA0 ≤ second) && (first != 0xED || second < 0xA0) &&
    (first != 0xF0 || 0x90 ≤ second) && (first != 0xF4 || second < 0x90)

/-- The six bits that a continuing byte adds to a code point. -/
def extendCode (code : Nat) (byte : UInt8) : Nat := code * 64 + (byte.toNat - 0x80)

/-- Read bytes that stand at a position of a file. -/
def decodeUtf8From (position : Nat) : List UInt8 → Except Utf8Fault (List Char)
  | [] => .ok []
  | first :: rest =>
    let fault length reason := .error ⟨position, length, first, reason⟩
    if first < 0x80 then
      (decodeUtf8From (position + 1) rest).map (Char.ofNat first.toNat :: ·)
    else if first < 0xC2 || 0xF4 < first then fault 1 .invalidStart
    else
      match rest with
      | [] => fault 1 .unexpectedEnd
      | second :: rest =>
        if !isSecond first second then fault 1 .invalidContinuation
        else if first < 0xE0 then
          (decodeUtf8From (position + 2) rest).map
            (Char.ofNat (extendCode (first.toNat - 0xC0) second) :: ·)
        else
          match rest with
          | [] => fault 2 .unexpectedEnd
          | third :: rest =>
            if !isContinuation third then fault 2 .invalidContinuation
            else if first < 0xF0 then
              (decodeUtf8From (position + 3) rest).map
                (Char.ofNat (extendCode (extendCode (first.toNat - 0xE0) second) third) :: ·)
            else
              match rest with
              | [] => fault 3 .unexpectedEnd
              | fourth :: rest =>
                if !isContinuation fourth then fault 3 .invalidContinuation
                else
                  (decodeUtf8From (position + 4) rest).map
                    (Char.ofNat (extendCode
                      (extendCode (extendCode (first.toNat - 0xF0) second) third) fourth) :: ·)

/-- The text of a file. -/
def decodeUtf8 (bytes : List UInt8) : Except Utf8Fault (List Char) := decodeUtf8From 0 bytes

end CrudScaffold.Text
