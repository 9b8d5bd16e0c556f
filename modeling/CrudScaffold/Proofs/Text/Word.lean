import CrudScaffold.Proofs.Text.Trim
import CrudScaffold.Text.Lines
import CrudScaffold.Text.Word

/-!
# Words and what stands around them

No word character is blank, so a word is trimmed and stands on one line, and a word is read whole
wherever a character follows it that is no word character.
-/

namespace CrudScaffold.Text

/-- The codes of the blank characters beyond ASCII. -/
def wideBlanks : List Nat :=
  [0x85, 0xA0, 0x1680, 0x2000, 0x2001, 0x2002, 0x2003, 0x2004, 0x2005, 0x2006, 0x2007, 0x2008,
    0x2009, 0x200A, 0x2028, 0x2029, 0x202F, 0x205F, 0x3000]

/-- No range of word characters holds a blank. -/
theorem not_inRanges_wideBlanks : ∀ code ∈ wideBlanks, inRanges wordRanges code = false := by
  decide +kernel

/-- These are the codes of the blank characters beyond ASCII. -/
theorem mem_wideBlanks {c : Char} (blank : isBlank c) (beyond : 128 ≤ c.toNat) :
    c.toNat ∈ wideBlanks := by
  simp only [isBlank, Bool.or_eq_true, Bool.and_eq_true, decide_eq_true_eq, beq_iff_eq] at blank
  simp only [wideBlanks, List.mem_cons, List.not_mem_nil, or_false]
  omega

/-- No word character is blank. -/
theorem isBlank_of_isWordChar {c : Char} (word : isWordChar c) : isBlank c = false := by
  by_contra other
  have blank : isBlank c = true := by simpa using other
  rw [isWordChar] at word
  by_cases ascii : c.toNat < 128
  · simp only [isBlank, Bool.or_eq_true, Bool.and_eq_true, decide_eq_true_eq, beq_iff_eq] at blank
    rw [if_pos ascii] at word
    delta Char.isAlphanum Char.isAlpha Char.isUpper Char.isLower Char.isDigit at word
    simp only [Bool.or_eq_true, beq_iff_eq, Bool.and_eq_true, decide_eq_true_eq,
      UInt32.le_iff_toNat_le, ge_iff_le] at word
    change ((((65 ≤ c.toNat ∧ c.toNat ≤ 90) ∨ (97 ≤ c.toNat ∧ c.toNat ≤ 122)) ∨
      (48 ≤ c.toNat ∧ c.toNat ≤ 57)) ∨ c = '_') at word
    rcases word with letter | rfl
    · omega
    · revert blank
      decide
  · rw [if_neg ascii, not_inRanges_wideBlanks _ (mem_wideBlanks blank (by omega))] at word
    contradiction

/-- No blank is a word character. -/
theorem isWordChar_of_isBlank {c : Char} (blank : isBlank c) : isWordChar c = false := by
  by_contra other
  have solid := isBlank_of_isWordChar (c := c) (by simpa using other)
  rw [solid] at blank
  contradiction

/-- No word character ends a line. -/
theorem isLineBreak_of_isWordChar {c : Char} (word : isWordChar c) : isLineBreak c = false := by
  by_contra other
  have blank := isBlank_of_isLineBreak (c := c) (by simpa using other)
  rw [isBlank_of_isWordChar word] at blank
  contradiction

/-- A word has characters, and all of them are word characters. -/
theorem isWord_iff {text : List Char} : isWord text ↔ text ≠ [] ∧ ∀ c ∈ text, isWordChar c := by
  simp [isWord]

/-- A word is not empty. -/
theorem ne_nil_of_isWord {text : List Char} (word : isWord text) : text ≠ [] :=
  (isWord_iff.mp word).1

/-- The characters of a word are word characters. -/
theorem isWordChar_of_mem {text : List Char} (word : isWord text) {c : Char} (member : c ∈ text) :
    isWordChar c :=
  (isWord_iff.mp word).2 c member

/-- A text of word characters is trimmed. -/
theorem trim_wordChars {text : List Char} (word : ∀ c ∈ text, isWordChar c) : trim text = text :=
  trim_eq_self (fun c rest same => isBlank_of_isWordChar (word c (by simp [same])))
    (fun c rest same => isBlank_of_isWordChar (word c (List.mem_reverse.mp (by simp [same]))))

/-- A word is read whole where no word character follows it. -/
theorem takeWord_wordChars_append {text rest : List Char} (word : ∀ c ∈ text, isWordChar c)
    (stop : ∀ c more, rest = c :: more → isWordChar c = false) :
    takeWord (text ++ rest) = (text, rest) := by
  rw [takeWord, List.takeWhile_append_of_pos word, List.dropWhile_append_of_pos word]
  cases rest with
  | nil => simp
  | cons c more =>
    have after := stop c more rfl
    rw [List.takeWhile_cons_of_neg (by simp [after]), List.dropWhile_cons_of_neg (by simp [after]),
      List.append_nil]

/-- A text is cut behind its word characters at the start. -/
theorem takeWord_eq_iff {text word rest : List Char} :
    takeWord text = (word, rest) ↔ text = word ++ rest ∧ (∀ c ∈ word, isWordChar c) ∧
      ∀ c more, rest = c :: more → isWordChar c = false := by
  constructor
  · intro cut
    obtain ⟨rfl, rfl⟩ := Prod.mk.inj cut
    refine ⟨(takeWord_append text).symm, fun c member => List.mem_takeWhile_imp member, ?_⟩
    intro c more same
    have head := List.head?_dropWhile_not isWordChar text
    rw [same] at head
    exact head
  · rintro ⟨rfl, chars, stop⟩
    exact takeWord_wordChars_append chars stop

end CrudScaffold.Text
