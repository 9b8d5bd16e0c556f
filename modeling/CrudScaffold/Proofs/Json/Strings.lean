import CrudScaffold.Json.Printer
import CrudScaffold.Json.Reader

/-!
# Strings are read back

A string is written character by character, and each character is read back from what was written
for it: as itself, from an escape, from a code, or from the pair of codes that stands for a
character beyond the first 65536. No character has the code of a half, so a code alone is never
mistaken for the first of a pair.
-/

namespace CrudScaffold.Text

/-- The value of a written hexadecimal digit. -/
theorem hexValue?_digitChar {digit : Nat} (small : digit < 16) :
    hexValue? (Nat.digitChar digit) = some digit := by
  have all : ∀ digit : Fin 16, hexValue? (Nat.digitChar digit.val) = some digit.val := by decide
  exact all ⟨digit, small⟩

/-- Written hexadecimal digits are read as the number, as far as they reach. -/
theorem hexNumber?_hexDigits (width number : Nat) :
    hexNumber? (hexDigits width number) = some (number % Nat.pow 16 width) := by
  induction width generalizing number with
  | zero => exact congrArg some (Nat.mod_one number).symm
  | succ width ih =>
    have front := ih (number / 16)
    have last := hexValue?_digitChar (Nat.mod_lt number (by decide : 0 < 16))
    have split : number % (16 * Nat.pow 16 width) =
        number % 16 + 16 * (number / 16 % Nat.pow 16 width) := Nat.mod_mul
    rw [hexNumber?] at front
    rw [hexDigits, hexNumber?, List.foldl_append, front, List.foldl_cons, List.foldl_nil, last]
    change some (number / 16 % Nat.pow 16 width * 16 + number % 16) =
      some (number % (Nat.pow 16 width * 16))
    rw [Nat.mul_comm (Nat.pow 16 width), split, Nat.add_comm, Nat.mul_comm 16]

end CrudScaffold.Text

namespace CrudScaffold.Json

/-- Read the rest of a string behind a character. -/
def readBehind (c : Char) (opening : Nat) (text : List Char) :
    Except Stop (List Char × List Char) := do
  let (tail, rest) ← readString opening text
  return (c :: tail, rest)

/-- An escape is read as the character that it stands for. -/
theorem readString_escape {letter c : Char} (known : shortEscape? letter = some c)
    (opening : Nat) (text : List Char) :
    readString opening ('\\' :: letter :: text) = readBehind c opening text := by
  have notCode : letter ≠ 'u' := by
    rintro rfl
    nomatch known
  rw [readString]
  · rw [known]
    rfl
  · exact fun _ _ _ _ _ _ same _ => notCode same
  · exact notCode

/-- A character without an escape is read as itself. -/
theorem readString_plain {c : Char} (quote : c ≠ '"') (slash : c ≠ '\\')
    (printable : isControl c = false) (opening : Nat) (text : List Char) :
    readString opening (c :: text) = readBehind c opening text := by
  rw [readString]
  · rw [printable]
    rfl
  · exact quote
  · exact fun same _ => slash same
  · exact fun _ _ _ _ _ _ same _ => slash same
  · exact fun _ same _ => slash same
  · exact fun _ _ same _ => slash same

/-- A code that is no half is read as its character. -/
theorem readString_code {a b c d : Char} {code : Nat}
    (number : Text.hexNumber? [a, b, c, d] = some code)
    (whole : isHighSurrogate code = false) (opening : Nat) (next : Char) (text : List Char) :
    readString opening ('\\' :: 'u' :: a :: b :: c :: d :: next :: text) =
      readBehind (charOfCode code) opening (next :: text) := by
  rw [readString, number]
  dsimp only
  rw [whole]
  rfl

/-- Two halves are read as the character of the pair. -/
theorem readString_pair {a b c d e f g h : Char} {high low : Nat}
    (first : Text.hexNumber? [a, b, c, d] = some high)
    (second : Text.hexNumber? [e, f, g, h] = some low) (upper : isHighSurrogate high = true)
    (lower : isLowSurrogate low = true) (opening : Nat) (next : Char) (text : List Char) :
    readString opening
        ('\\' :: 'u' :: a :: b :: c :: d :: '\\' :: 'u' :: e :: f :: g :: h :: next :: text) =
      readBehind (Char.ofNat (joinSurrogates high low)) opening (next :: text) := by
  rw [readString, first]
  dsimp only
  simp only [upper, beq_self_eq_true, Bool.and_self, if_true, second, lower]
  rfl

/-- A character is no half, and its code is one of Unicode. -/
theorem toNat_valid (c : Char) :
    c.toNat < 0xD800 ∨ 0xDFFF < c.toNat ∧ c.toNat < 0x110000 := c.valid

/-- A written code is four digits that are read as it. -/
theorem exists_writeCode (code : Nat) (small : code < 0x10000) :
    ∃ a b c d, writeCode code = ['\\', 'u', a, b, c, d] ∧
      Text.hexNumber? [a, b, c, d] = some code := by
  refine ⟨_, _, _, _, rfl, ?_⟩
  have number := Text.hexNumber?_hexDigits 4 code
  rwa [Nat.mod_eq_of_lt small] at number

/-- A character is written as its code, which is no half, or as a pair of halves that join to it. -/
theorem writeCodes_cases (c : Char) :
    (writeCodes c = writeCode c.toNat ∧ c.toNat < 0x10000 ∧ isHighSurrogate c.toNat = false ∧
        isLowSurrogate c.toNat = false) ∨
      ∃ high low, writeCodes c = writeCode high ++ writeCode low ∧ high < 0x10000 ∧
        low < 0x10000 ∧ isHighSurrogate high = true ∧ isLowSurrogate high = false ∧
        isLowSurrogate low = true ∧ joinSurrogates high low = c.toNat := by
  have valid := toNat_valid c
  unfold writeCodes
  dsimp only
  split
  · rename_i small
    refine .inl ⟨rfl, small, ?_, ?_⟩
    · simp only [isHighSurrogate, Bool.and_eq_false_iff, decide_eq_false_iff_not]
      omega
    · simp only [isLowSurrogate, Bool.and_eq_false_iff, decide_eq_false_iff_not]
      omega
  · rename_i large
    refine .inr ⟨_, _, rfl, by omega, by omega, ?_, ?_, ?_, ?_⟩
    · simp only [isHighSurrogate, Bool.and_eq_true, decide_eq_true_eq]
      omega
    · simp only [isLowSurrogate, Bool.and_eq_false_iff, decide_eq_false_iff_not]
      omega
    · simp only [isLowSurrogate, Bool.and_eq_true, decide_eq_true_eq]
      omega
    · unfold joinSurrogates
      omega

/-- A character is read back from its codes, wherever the string goes on. -/
theorem readString_writeCodes (c : Char) (opening : Nat) (next : Char) (text : List Char) :
    readString opening (writeCodes c ++ next :: text) = readBehind c opening (next :: text) := by
  rcases writeCodes_cases c with ⟨one, small, whole, notLow⟩ |
    ⟨high, low, two, first, second, upper, -, lower, joined⟩
  · obtain ⟨a, b, d, e, digits, number⟩ := exists_writeCode c.toNat small
    have same : charOfCode c.toNat = c := by
      rw [charOfCode, whole, notLow]
      exact Char.ofNat_toNat c
    have read := readString_code number whole opening next text
    rw [same] at read
    rw [one, digits]
    exact read
  · obtain ⟨a, b, d, e, front, highNumber⟩ := exists_writeCode high first
    obtain ⟨f, g, h, i, back, lowNumber⟩ := exists_writeCode low second
    have read := readString_pair highNumber lowNumber upper lower opening next text
    rw [joined, Char.ofNat_toNat] at read
    rw [two, front, back]
    exact read

/-- A character is written as an escape, as codes, or as itself. -/
theorem writeChar_cases (charset : Charset) (c : Char) :
    (∃ letter, writeChar charset c = ['\\', letter] ∧ shortEscape? letter = some c) ∨
      writeChar charset c = writeCodes c ∨
      writeChar charset c = [c] ∧ c ≠ '"' ∧ c ≠ '\\' ∧ isControl c = false := by
  unfold writeChar
  iterate 7
    split
    · rename_i same
      exact .inl ⟨_, rfl, by rw [same]; rfl⟩
  rename_i quote slash _ _ _ _ _
  split
  · exact .inr (.inl rfl)
  · rename_i plain
    refine .inr (.inr ⟨rfl, quote, slash, ?_⟩)
    cases charset <;> simp only [Charset.needsCode, Bool.not_eq_true, Bool.or_eq_false_iff] at plain
    · exact plain.1
    · exact plain

/-- A character is read back from what is written for it, wherever the string goes on. -/
theorem readString_writeChar (charset : Charset) (c : Char) (opening : Nat) (next : Char)
    (text : List Char) :
    readString opening (writeChar charset c ++ next :: text) =
      readBehind c opening (next :: text) := by
  rcases writeChar_cases charset c with ⟨letter, same, known⟩ | same | ⟨same, quote, slash, plain⟩
  · rw [same]
    exact readString_escape known opening (next :: text)
  · rw [same]
    exact readString_writeCodes c opening next text
  · rw [same]
    exact readString_plain quote slash plain opening (next :: text)

/-- A text is read back from what is written for its characters and a closing quote. -/
theorem readString_written (charset : Charset) (opening : Nat) (chars rest : List Char) :
    readString opening (chars.flatMap (writeChar charset) ++ '"' :: rest) = .ok (chars, rest) := by
  induction chars with
  | nil => rfl
  | cons c chars ih =>
    have goesOn : ∃ next text, chars.flatMap (writeChar charset) ++ '"' :: rest = next :: text :=
      List.exists_cons_of_ne_nil (List.append_ne_nil_of_right_ne_nil _ (List.cons_ne_nil _ _))
    obtain ⟨next, text, same⟩ := goesOn
    rw [List.flatMap_cons, List.append_assoc, same, readString_writeChar, readBehind, ← same, ih]
    rfl

/-- A written string with its quotes, and what follows it. -/
theorem writeString_append (charset : Charset) (text : String) (rest : List Char) :
    writeString charset text ++ rest =
      '"' :: (text.toList.flatMap (writeChar charset) ++ '"' :: rest) := by
  rw [writeString, List.append_assoc, List.cons_append]
  rfl

end CrudScaffold.Json
