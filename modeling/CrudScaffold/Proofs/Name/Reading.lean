import CrudScaffold.Proofs.Name.Words
import CrudScaffold.Proofs.Text.Lower

/-!
# Words read back

Words are read back from a text in which the reader of names finds them apart: with a separator
between them, or where its two passes put a space between them (`words_of_spaced`). The words of a
name hold no capital and no separator and are in lower case, so with any separator between them they
are read as they are (`words_intercalate`).
-/

namespace CrudScaffold.Name

/-! ### Texts without capitals -/

/-- No capital starts a text without capitals. -/
theorem startsCapital_eq_false {text : List Char} (small : ∀ c ∈ text, isCapital c = false) :
    startsCapital text = false ∧ startsCapitalized text = false := by
  cases text with
  | nil => exact ⟨rfl, rfl⟩
  | cons c rest =>
    have here := small c List.mem_cons_self
    refine ⟨here, ?_⟩
    cases rest with
    | nil => rfl
    | cons d rest => rw [startsCapitalized, here, Bool.false_and]

/-- No space is put into a text without capitals by the first pass. -/
theorem spaceCapitalized_eq_self {text : List Char} (small : ∀ c ∈ text, isCapital c = false)
    (stage : Stage) : spaceCapitalized stage text = text := by
  induction text generalizing stage with
  | nil => rfl
  | cons c rest ih =>
    have later : ∀ d ∈ rest, isCapital d = false := fun d member =>
      small d (List.mem_cons_of_mem _ member)
    unfold spaceCapitalized
    rw [(startsCapital_eq_false later).2, Bool.and_false, if_neg Bool.false_ne_true, ih later,
      ih later, ite_self, ite_self]

/-- Nor by the second one. -/
theorem spaceHumps_eq_self {text : List Char} (small : ∀ c ∈ text, isCapital c = false) :
    spaceHumps text = text := by
  induction text with
  | nil => rfl
  | cons c rest ih =>
    have later : ∀ d ∈ rest, isCapital d = false := fun d member =>
      small d (List.mem_cons_of_mem _ member)
    rw [spaceHumps, (startsCapital_eq_false later).1, Bool.and_false, if_neg Bool.false_ne_true,
      ih later]

/-! ### Pieces with a separator between them -/

/-- A separator is a hyphen, an underscore or a blank. -/
theorem isSeparator_iff {c : Char} :
    isSeparator c = true ↔ c = '-' ∨ c = '_' ∨ Text.isBlank c = true := by
  simp only [isSeparator, Bool.or_eq_true, beq_iff_eq, or_assoc]

/-- No separator is made by a change to lower case. -/
theorem not_isImage_of_isSeparator {c : Char} (separates : isSeparator c = true) :
    ¬Text.IsImage 97 122 c := by
  rcases isSeparator_iff.mp separates with rfl | rfl | blank
  · decide
  · decide
  · exact Text.not_isImage_of_isBlank blank (by decide) (by decide)

/-- No separator is a capital. -/
theorem isCapital_of_isSeparator {c : Char} (separates : isSeparator c = true) :
    isCapital c = false := by
  rcases isSeparator_iff.mp separates with rfl | rfl | blank
  · rfl
  · rfl
  · have outside : ¬Text.IsImage 65 90 c :=
      Text.not_isImage_of_isBlank blank (by decide) (by decide)
    rw [Bool.eq_false_iff]
    intro capital
    simp only [isCapital, Bool.and_eq_true, decide_eq_true_eq] at capital
    exact outside (.inl ⟨UInt32.le_iff_toNat_le.mp capital.1, UInt32.le_iff_toNat_le.mp capital.2⟩)

/-- Texts that hold no separator, with one between them, are cut into the texts again. -/
theorem splitOnP_intercalate {separates : Char → Bool} {separator : Char}
    (between : separates separator = true) {texts : List (List Char)} (some : texts ≠ [])
    (solid : ∀ text ∈ texts, ∀ c ∈ text, separates c = false) :
    ([separator].intercalate texts).splitOnP separates = texts := by
  induction texts with
  | nil => contradiction
  | cons text texts ih =>
    obtain ⟨here, later⟩ := List.forall_mem_cons.mp solid
    cases texts with
    | nil => rw [List.intercalate_singleton, List.splitOnP_eq_singleton here]
    | cons next texts =>
      rw [List.intercalate_cons_cons, List.append_assoc, List.singleton_append,
        List.splitOnP_append_cons _ _ between, List.splitOnP_eq_singleton here,
        ih (List.cons_ne_nil _ _) later, List.singleton_append]

/-- A text of characters that are not blank, with others behind it, does not start with a blank. -/
theorem startsSolid_append {text : List Char} (some : text ≠ [])
    (solid : ∀ c ∈ text, Text.isBlank c = false) (rest : List Char) :
    Text.StartsSolid (text ++ rest) := by
  cases text with
  | nil => contradiction
  | cons d text =>
    intro c tail same
    rw [← (List.cons.inj same).1]
    exact solid d List.mem_cons_self

/-- Texts without blanks are trimmed with a separator between them, whatever it is. -/
theorem trim_intercalate (separator : Char) {texts : List (List Char)}
    (solid : ∀ text ∈ texts, text ≠ [] ∧ ∀ c ∈ text, Text.isBlank c = false) :
    Text.trim ([separator].intercalate texts) = [separator].intercalate texts := by
  have ends : Text.StartsSolid ([separator].intercalate texts).reverse := by
    induction texts with
    | nil => exact fun c rest same => absurd same (by simp)
    | cons text texts ih =>
      obtain ⟨⟨some, plain⟩, later⟩ := List.forall_mem_cons.mp solid
      cases texts with
      | nil =>
        rw [List.intercalate_singleton, ← List.append_nil text.reverse]
        exact startsSolid_append (by simpa using some) (by simpa using plain) []
      | cons next texts =>
        have starts := ih later
        rw [List.intercalate_cons_cons, List.reverse_append]
        cases back : ([separator].intercalate (next :: texts)).reverse with
        | nil =>
          have one := (List.forall_mem_cons.mp later).1.1
          cases texts <;> simp [List.intercalate_cons_cons, one] at back
        | cons c rest =>
          rw [back] at starts
          rw [List.cons_append]
          rintro d more same
          exact starts d rest (by rw [(List.cons.inj same).1])
  refine Text.trim_eq_self ?_ ends
  cases texts with
  | nil => exact fun c rest same => absurd same (by simp)
  | cons text texts =>
    obtain ⟨some, plain⟩ := solid text List.mem_cons_self
    cases texts with
    | nil =>
      rw [List.intercalate_singleton, ← List.append_nil text]
      exact startsSolid_append some plain []
    | cons next texts =>
      rw [List.intercalate_cons_cons, List.append_assoc]
      exact startsSolid_append some plain _

/-! ### Words -/

/-- Some characters of which none separates words. -/
structure IsPiece (text : List Char) : Prop where
  /-- There are some. -/
  some : text ≠ []
  /-- None of them separates words. -/
  solid : ∀ c ∈ text, isSeparator c = false

/-- No character of a piece is blank. -/
theorem IsPiece.not_blank {text : List Char} (piece : IsPiece text) :
    ∀ c ∈ text, Text.isBlank c = false := by
  intro c member
  have plain := piece.solid c member
  unfold isSeparator at plain
  simp only [Bool.or_eq_false_iff] at plain
  exact plain.2

/-- The words of a text into which the two passes put separators only between pieces. -/
theorem words_of_spaced {separator : Char} (separates : isSeparator separator = true)
    {text : List Char} {texts : List (List Char)} (pieces : ∀ piece ∈ texts, IsPiece piece)
    (trimmed : Text.trim text = text)
    (spaced : spaceHumps (spaceCapitalized .outside text) = [separator].intercalate texts) :
    words text = texts.map Text.lower := by
  unfold words
  rw [Name.pieces, trimmed, spaced]
  by_cases some : texts = []
  · rw [some, List.intercalate_nil, List.splitOnP_nil]
    rfl
  rw [splitOnP_intercalate separates some fun piece member => (pieces piece member).solid,
    List.filter_eq_self.mpr fun piece member => by simpa using (pieces piece member).some]

/-- A word as names have them. -/
structure IsPlainWord (word : List Char) : Prop extends IsPiece word where
  /-- It is in lower case. -/
  lowered : ∀ c ∈ word, Text.IsLowered c

/-- The words of a name are of that kind. -/
theorem isPlainWord_of_mem_words {name word : List Char} (inside : word ∈ words name) :
    IsPlainWord word := by
  refine ⟨⟨ne_nil_of_mem_words inside, fun c member => ?_⟩, fun c member => ?_⟩
  · rcases mem_words inside member with ⟨-, solid⟩ | letter
    · exact solid
    · rw [Bool.eq_false_iff]
      exact fun separates => not_isImage_of_isSeparator separates letter
  · obtain ⟨piece, -, rfl⟩ := List.mem_map.mp inside
    exact Text.isLowered_of_mem_lowerFrom member

/-- No capital is in a plain word. -/
theorem IsPlainWord.not_capital {word : List Char} (plain : IsPlainWord word) :
    ∀ c ∈ word, isCapital c = false := by
  intro c member
  rw [Bool.eq_false_iff]
  intro capital
  unfold isCapital at capital
  simp only [Bool.and_eq_true, decide_eq_true_eq] at capital
  exact Text.not_isLowered_of_capital capital (plain.lowered c member)

/-- Plain words with a separator between them are read back. -/
theorem words_intercalate {separator : Char} (separates : isSeparator separator = true)
    {texts : List (List Char)} (plain : ∀ word ∈ texts, IsPlainWord word) :
    words ([separator].intercalate texts) = texts := by
  have small : ∀ c ∈ [separator].intercalate texts, isCapital c = false := by
    intro c member
    rcases Text.mem_intercalate member with between | ⟨word, inside, here⟩
    · rw [List.mem_singleton.mp between]
      exact isCapital_of_isSeparator separates
    · exact (plain word inside).not_capital c here
  have lowered : texts.map Text.lower = texts :=
    (List.map_congr_left fun word inside =>
      Text.lowerFrom_eq_self (plain word inside).lowered false).trans (List.map_id texts)
  have read := @words_of_spaced separator separates ([separator].intercalate texts) texts
    (fun word inside => (plain word inside).toIsPiece)
    (trim_intercalate separator fun word inside =>
      ⟨(plain word inside).some, (plain word inside).not_blank⟩)
    (by rw [spaceCapitalized_eq_self small, spaceHumps_eq_self small])
  rw [read, lowered]

end CrudScaffold.Name
