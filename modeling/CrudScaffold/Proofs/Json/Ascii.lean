import CrudScaffold.Proofs.Json.Strings
import Mathlib.Data.Nat.Digits.Defs

/-!
# Characters of written values

The compact layout writes every character outside printable ASCII as a code, and codes, numbers,
names of values and the signs between them are printable ASCII themselves. So is the compact layout
of every value (`isPrintable_writeCompact`), whatever stands in its strings: no line break, no
control character, and no character that takes more than one byte. The indented layout ends its
lines with line feeds alone (`return_notMem_writeIndented`), so it is the same text however line
ends are read.
-/

namespace CrudScaffold.Json

/-- Whether all characters are printable ASCII. -/
def IsPrintable (text : List Char) : Prop := ∀ c ∈ text, 32 ≤ c.toNat ∧ c.toNat < 127

instance (text : List Char) : Decidable (IsPrintable text) :=
  List.decidableBAll (fun c : Char => 32 ≤ c.toNat ∧ c.toNat < 127) text

@[simp]
theorem isPrintable_nil : IsPrintable [] := List.forall_mem_nil _

@[simp]
theorem isPrintable_cons {c : Char} {text : List Char} :
    IsPrintable (c :: text) ↔ (32 ≤ c.toNat ∧ c.toNat < 127) ∧ IsPrintable text :=
  List.forall_mem_cons

@[simp]
theorem isPrintable_append {front back : List Char} :
    IsPrintable (front ++ back) ↔ IsPrintable front ∧ IsPrintable back :=
  List.forall_mem_append

/-- Copies of a printable character are printable. -/
theorem isPrintable_replicate {c : Char} (printable : 32 ≤ c.toNat ∧ c.toNat < 127) (count : Nat) :
    IsPrintable (List.replicate count c) := by
  intro d member
  rwa [List.eq_of_mem_replicate member]

/-- A part of a printable text is printable. -/
theorem IsPrintable.of_subset {part text : List Char} (printable : IsPrintable text)
    (inside : part ⊆ text) : IsPrintable part :=
  fun c member => printable c (inside member)

/-! ### Strings -/

/-- Hexadecimal digits are printable. -/
theorem isPrintable_hexDigits (width number : Nat) : IsPrintable (Text.hexDigits width number) := by
  have digit : ∀ value : Fin 16, IsPrintable [Nat.digitChar value.val] := by decide
  induction width generalizing number with
  | zero => exact isPrintable_nil
  | succ width ih =>
    exact isPrintable_append.mpr ⟨ih _, digit ⟨number % 16, Nat.mod_lt _ (by decide)⟩⟩

/-- A code is printable. -/
theorem isPrintable_writeCode (code : Nat) : IsPrintable (writeCode code) :=
  isPrintable_cons.mpr ⟨by decide, isPrintable_cons.mpr ⟨by decide, isPrintable_hexDigits 4 code⟩⟩

/-- The codes of a character are printable. -/
theorem isPrintable_writeCodes (c : Char) : IsPrintable (writeCodes c) := by
  unfold writeCodes
  dsimp only
  split
  · exact isPrintable_writeCode _
  · exact isPrintable_append.mpr ⟨isPrintable_writeCode _, isPrintable_writeCode _⟩

/-- Whatever a character is, what is written for it is printable. -/
theorem isPrintable_writeChar (c : Char) : IsPrintable (writeChar .ascii c) := by
  unfold writeChar
  iterate 7
    split
    · decide
  split
  · exact isPrintable_writeCodes c
  · rename_i plain
    simp only [Charset.needsCode, Bool.or_eq_true, decide_eq_true_eq, not_or] at plain
    exact isPrintable_cons.mpr ⟨by omega, isPrintable_nil⟩

/-- A string is written in printable characters. -/
theorem isPrintable_writeString (text : String) : IsPrintable (writeString .ascii text) := by
  have characters : IsPrintable (text.toList.flatMap (writeChar .ascii)) := by
    intro d member
    obtain ⟨c, -, inside⟩ := List.mem_flatMap.mp member
    exact isPrintable_writeChar c d inside
  exact isPrintable_append.mpr ⟨isPrintable_cons.mpr ⟨by decide, characters⟩, by decide⟩

/-! ### Numbers -/

/-- Decimal digits are printable. -/
theorem isPrintable_repr (number : Nat) : IsPrintable (Nat.repr number).toList := by
  intro c member
  rw [Nat.toList_repr] at member
  have digit := Nat.isDigit_of_mem_toDigits (by decide) (by decide) member
  simp only [Char.isDigit, Bool.and_eq_true, decide_eq_true_eq] at digit
  have least : (48 : Nat) ≤ c.toNat := digit.1
  have most : c.toNat ≤ 57 := digit.2
  omega

/-- An integer is written in printable characters. -/
theorem isPrintable_writeInteger (value : Int) : IsPrintable (writeInteger value) := by
  unfold writeInteger
  split
  · exact isPrintable_cons.mpr ⟨by decide, isPrintable_repr _⟩
  · exact isPrintable_repr _

/-- Digits with a point are printable. -/
theorem isPrintable_positional {digits : List Char} (printable : IsPrintable digits)
    (place : Int) : IsPrintable (Double.positional digits place) := by
  have zeros := isPrintable_replicate (c := '0') (by decide)
  unfold Double.positional
  split
  · simp only [isPrintable_append, isPrintable_cons]
    exact ⟨⟨by decide, by decide, zeros _⟩, printable⟩
  · have front := printable.of_subset (List.take_subset place.toNat digits)
    have behind : IsPrintable
        (if (digits.drop place.toNat).isEmpty then ['0'] else digits.drop place.toNat) := by
      split
      · decide
      · exact printable.of_subset (List.drop_subset place.toNat digits)
    simp only [isPrintable_append, isPrintable_cons]
    exact ⟨⟨front, zeros _⟩, by decide, behind⟩

/-- Digits with a power of ten are printable. -/
theorem isPrintable_scientific {digits : List Char} (printable : IsPrintable digits)
    (place : Int) : IsPrintable (Double.scientific digits place) := by
  have zeros := isPrintable_replicate (c := '0') (by decide)
  have power := isPrintable_repr (place - 1).natAbs
  have front := printable.of_subset (List.take_subset 1 digits)
  have point : IsPrintable
      (if (digits.drop 1).isEmpty then [] else '.' :: digits.drop 1) := by
    split
    · exact isPrintable_nil
    · exact isPrintable_cons.mpr ⟨by decide, printable.of_subset (List.drop_subset 1 digits)⟩
  have sign : 32 ≤ (if place ≤ 0 then '-' else '+').toNat ∧
      (if place ≤ 0 then '-' else '+').toNat < 127 := by
    split <;> decide
  simp only [Double.scientific, isPrintable_append, isPrintable_cons]
  exact ⟨⟨⟨front, point⟩, by decide, sign, zeros _⟩, power⟩

/-- A double-precision number is shown in printable characters. -/
theorem isPrintable_shown (value : Double) : IsPrintable value.shown := by
  unfold Double.shown
  split
  · decide
  · have all := isPrintable_repr value.shortest.1
    have digits : IsPrintable
        ((Nat.repr value.shortest.1).toList.reverse.dropWhile (· == '0')).reverse := by
      refine all.of_subset fun c member => ?_
      exact List.mem_reverse.mp ((List.dropWhile_sublist _).subset (List.mem_reverse.mp member))
    dsimp only
    split
    · exact isPrintable_positional digits _
    · exact isPrintable_scientific digits _

/-- A decimal number is written in printable characters. -/
theorem isPrintable_writeDecimal (value : Decimal) : IsPrintable (writeDecimal value) := by
  have magnitude : IsPrintable ((value.nearest?.map Double.shown).getD "Infinity".toList) := by
    cases value.nearest? with
    | none => decide
    | some double => exact isPrintable_shown double
  unfold writeDecimal Decimal.shown
  refine isPrintable_append.mpr ⟨?_, magnitude⟩
  split <;> decide

/-! ### Compact values -/

mutual

/-- A value stands on one line in printable characters. -/
theorem isPrintable_writeCompact (value : Json) : IsPrintable (writeCompact value) := by
  cases value with
  | null => decide
  | bool value => cases value <;> decide
  | integer value => exact isPrintable_writeInteger value
  | decimal value => exact isPrintable_writeDecimal value
  | nonFinite mark => cases mark <;> decide
  | string text => exact isPrintable_writeString text
  | array items =>
    cases items with
    | nil => decide
    | cons item items =>
      change IsPrintable ('[' :: writeCompact item ++ writeCompactItems items)
      simp only [isPrintable_append, isPrintable_cons]
      exact ⟨⟨by decide, isPrintable_writeCompact item⟩, isPrintable_writeCompactItems items⟩
  | object members =>
    cases members with
    | nil => decide
    | cons member members =>
      obtain ⟨name, value⟩ := member
      change IsPrintable ('\x7b' :: writeString .ascii name ++ ':' :: ' ' :: writeCompact value ++
        writeCompactMembers members)
      simp only [isPrintable_append, isPrintable_cons]
      exact ⟨⟨⟨by decide, isPrintable_writeString name⟩, by decide, by decide,
        isPrintable_writeCompact value⟩, isPrintable_writeCompactMembers members⟩

/-- Further items and their bracket are printable. -/
theorem isPrintable_writeCompactItems (items : List Json) :
    IsPrintable (writeCompactItems items) := by
  cases items with
  | nil => decide
  | cons item items =>
    change IsPrintable (',' :: ' ' :: writeCompact item ++ writeCompactItems items)
    simp only [isPrintable_append, isPrintable_cons]
    exact ⟨⟨by decide, by decide, isPrintable_writeCompact item⟩,
      isPrintable_writeCompactItems items⟩

/-- Further members and their brace are printable. -/
theorem isPrintable_writeCompactMembers (members : List (String × Json)) :
    IsPrintable (writeCompactMembers members) := by
  cases members with
  | nil => decide
  | cons member members =>
    obtain ⟨name, value⟩ := member
    change IsPrintable (',' :: ' ' :: writeString .ascii name ++ ':' :: ' ' ::
      writeCompact value ++ writeCompactMembers members)
    simp only [isPrintable_append, isPrintable_cons]
    exact ⟨⟨⟨by decide, by decide, isPrintable_writeString name⟩, by decide, by decide,
      isPrintable_writeCompact value⟩, isPrintable_writeCompactMembers members⟩

end

/-! ### Indented values -/

/-- No line ends in a printable text. -/
theorem IsPrintable.return_notMem {text : List Char} (printable : IsPrintable text) :
    '\r' ∉ text :=
  fun member => absurd (printable '\r' member).1 (by decide)

/-- Whatever a character is, no carriage return is written for it. -/
theorem return_notMem_writeChar (charset : Charset) (c : Char) : '\r' ∉ writeChar charset c := by
  rcases writeChar_cases charset c with ⟨letter, same, known⟩ | same | ⟨same, -, -, plain⟩
  · rw [same, List.mem_cons, List.mem_singleton, not_or]
    refine ⟨by decide, ?_⟩
    rintro rfl
    nomatch known
  · rw [same]
    exact (isPrintable_writeCodes c).return_notMem
  · rw [same, List.mem_singleton]
    rintro rfl
    exact absurd plain (by decide)

/-- A string is written without carriage returns. -/
theorem return_notMem_writeString (charset : Charset) (text : String) :
    '\r' ∉ writeString charset text := by
  have characters : '\r' ∉ text.toList.flatMap (writeChar charset) := by
    intro member
    obtain ⟨c, -, inside⟩ := List.mem_flatMap.mp member
    exact return_notMem_writeChar charset c inside
  simp only [writeString, List.mem_append, List.mem_cons, not_or]
  exact ⟨⟨by decide, characters⟩, by decide, List.not_mem_nil⟩

/-- A line breaks without a carriage return. -/
theorem return_notMem_newLine (depth : Nat) : '\r' ∉ newLine depth := by
  rw [newLine, List.mem_cons, not_or]
  refine ⟨by decide, fun member => ?_⟩
  exact absurd (List.eq_of_mem_replicate member) (by decide)

mutual

/-- A value on lines of its own has no carriage return. -/
theorem return_notMem_writeIndented (depth : Nat) (value : Json) :
    '\r' ∉ writeIndented depth value := by
  cases value with
  | null => exact (isPrintable_writeCompact .null).return_notMem
  | bool value =>
    cases value with
    | true => exact (isPrintable_writeCompact (.bool true)).return_notMem
    | false => exact (isPrintable_writeCompact (.bool false)).return_notMem
  | integer value => exact (isPrintable_writeInteger value).return_notMem
  | decimal value => exact (isPrintable_writeDecimal value).return_notMem
  | nonFinite mark => exact (isPrintable_writeCompact (.nonFinite mark)).return_notMem
  | string text => exact return_notMem_writeString .unicode text
  | array items =>
    cases items with
    | nil => exact (isPrintable_writeCompact (.array [])).return_notMem
    | cons item items =>
      change '\r' ∉ '[' :: newLine (depth + 1) ++ writeIndented (depth + 1) item ++
        writeIndentedItems depth items
      simp only [List.mem_append, List.mem_cons, not_or]
      exact ⟨⟨⟨by decide, return_notMem_newLine _⟩, return_notMem_writeIndented _ item⟩,
        return_notMem_writeIndentedItems depth items⟩
  | object members =>
    cases members with
    | nil => exact (isPrintable_writeCompact (.object [])).return_notMem
    | cons member members =>
      obtain ⟨name, value⟩ := member
      change '\r' ∉ '\x7b' :: newLine (depth + 1) ++ writeString .unicode name ++ ':' :: ' ' ::
        writeIndented (depth + 1) value ++ writeIndentedMembers depth members
      simp only [List.mem_append, List.mem_cons, not_or]
      exact ⟨⟨⟨⟨by decide, return_notMem_newLine _⟩, return_notMem_writeString _ name⟩,
        by decide, by decide, return_notMem_writeIndented _ value⟩,
        return_notMem_writeIndentedMembers depth members⟩

/-- Nor have further items. -/
theorem return_notMem_writeIndentedItems (depth : Nat) (items : List Json) :
    '\r' ∉ writeIndentedItems depth items := by
  cases items with
  | nil =>
    simp only [writeIndentedItems, List.mem_append, List.mem_singleton, not_or]
    exact ⟨return_notMem_newLine depth, by decide⟩
  | cons item items =>
    change '\r' ∉ ',' :: newLine (depth + 1) ++ writeIndented (depth + 1) item ++
      writeIndentedItems depth items
    simp only [List.mem_append, List.mem_cons, not_or]
    exact ⟨⟨⟨by decide, return_notMem_newLine _⟩, return_notMem_writeIndented _ item⟩,
      return_notMem_writeIndentedItems depth items⟩

/-- Nor have further members. -/
theorem return_notMem_writeIndentedMembers (depth : Nat) (members : List (String × Json)) :
    '\r' ∉ writeIndentedMembers depth members := by
  cases members with
  | nil =>
    simp only [writeIndentedMembers, List.mem_append, List.mem_singleton, not_or]
    exact ⟨return_notMem_newLine depth, by decide⟩
  | cons member members =>
    obtain ⟨name, value⟩ := member
    change '\r' ∉ ',' :: newLine (depth + 1) ++ writeString .unicode name ++ ':' :: ' ' ::
      writeIndented (depth + 1) value ++ writeIndentedMembers depth members
    simp only [List.mem_append, List.mem_cons, not_or]
    exact ⟨⟨⟨⟨by decide, return_notMem_newLine _⟩, return_notMem_writeString _ name⟩,
      by decide, by decide, return_notMem_writeIndented _ value⟩,
      return_notMem_writeIndentedMembers depth members⟩

end

end CrudScaffold.Json
