import CrudScaffold.Text.Blank
import Mathlib.Data.List.DropRight

/-!
# Trimmed texts

Trimming removes the blanks at the two ends and nothing else. A text is trimmed exactly when it is
empty or both its first and its last character are not blank, which is how the lines and the
modifiers of a definition are recognized as their own trimmed forms.
-/

namespace CrudScaffold.Text

/-- The first character of a text, if there is one, is not blank. -/
def StartsSolid (text : List Char) : Prop := ∀ c rest, text = c :: rest → isBlank c = false

/-- A text is blank if its first character and the rest are. -/
@[simp] theorem isBlankText_cons (c : Char) (text : List Char) :
    isBlankText (c :: text) = (isBlank c && isBlankText text) := rfl

/-- Blank texts one after the other are a blank text. -/
@[simp] theorem isBlankText_append (left right : List Char) :
    isBlankText (left ++ right) = (isBlankText left && isBlankText right) := by
  simp [isBlankText]

/-- Trimming at the end is the library's removal from the right. -/
theorem trimEnd_eq_rdropWhile (text : List Char) : trimEnd text = text.rdropWhile isBlank := by
  induction text with
  | nil => rfl
  | cons c rest ih =>
    rw [trimEnd, ih]
    simp only [List.rdropWhile, List.reverse_cons, List.dropWhile_append]
    cases kept : rest.reverse.dropWhile isBlank with
    | nil => by_cases blank : isBlank c <;> simp [blank]
    | cons last others =>
      cases both : (last :: others).reverse with
      | nil => simp at both
      | cons first more => simp [← both]

/-- A text of blanks trims to nothing, and no other text does. -/
theorem trim_eq_nil_iff {text : List Char} : trim text = [] ↔ isBlankText text := by
  rw [trim, trimEnd_eq_nil_iff, trimStart, isBlankText, isBlankText, List.all_eq_true,
    List.all_eq_true]
  constructor
  · intro blank c member
    rw [← List.takeWhile_append_dropWhile (p := isBlank) (l := text), List.mem_append] at member
    rcases member with front | back
    · exact List.mem_takeWhile_imp front
    · exact blank c back
  · exact fun blank c member => blank c (List.dropWhile_subset _ member)

/-- A blank at the start does not matter. -/
theorem trim_cons_blank {c : Char} (blank : isBlank c) (text : List Char) :
    trim (c :: text) = trim text := by
  rw [trim, trim, trimStart, trimStart, List.dropWhile_cons_of_pos blank]

/-- A blank at the end does not matter. -/
theorem trim_concat_blank {c : Char} (blank : isBlank c) (text : List Char) :
    trim (text ++ [c]) = trim text := by
  rw [trim, trim, trimStart, trimStart, List.dropWhile_append]
  cases front : text.dropWhile isBlank with
  | nil => simp [blank, trimEnd]
  | cons first rest =>
    simp only [List.isEmpty_cons, Bool.false_eq_true, if_false, trimEnd_eq_rdropWhile]
    exact List.rdropWhile_concat_pos _ _ _ blank

/-- Blanks at the start do not matter. -/
theorem trim_blank_append {gap : List Char} (blank : isBlankText gap) (text : List Char) :
    trim (gap ++ text) = trim text := by
  induction gap with
  | nil => rfl
  | cons c gap ih =>
    rw [isBlankText_cons, Bool.and_eq_true] at blank
    rw [List.cons_append, trim_cons_blank blank.1, ih blank.2]

/-- Blanks at the end do not matter. -/
theorem trim_append_blank {gap : List Char} (blank : isBlankText gap) (text : List Char) :
    trim (text ++ gap) = trim text := by
  induction gap generalizing text with
  | nil => rw [List.append_nil]
  | cons c gap ih =>
    rw [isBlankText_cons, Bool.and_eq_true] at blank
    rw [List.append_cons, ih blank.2, trim_concat_blank blank.1]

/-- A text whose first and last characters are not blank is trimmed. -/
theorem trim_eq_self {text : List Char} (first : StartsSolid text)
    (last : StartsSolid text.reverse) : trim text = text := by
  have front : trimStart text = text := by
    cases text with
    | nil => rfl
    | cons c rest => rw [trimStart, List.dropWhile_cons_of_neg (by simp [first c rest rfl])]
  have back : text.reverse.dropWhile isBlank = text.reverse := by
    cases same : text.reverse with
    | nil => rfl
    | cons c rest => rw [List.dropWhile_cons_of_neg (by simp [last c rest same])]
  rw [trim, front, trimEnd_eq_rdropWhile, List.rdropWhile, back, List.reverse_reverse]

/-- What trimming leaves does not start with a blank. -/
theorem startsSolid_trim (text : List Char) : StartsSolid (trim text) := by
  intro c rest same
  have start : (trimStart text).rdropWhile isBlank = c :: rest := by
    rw [← trimEnd_eq_rdropWhile]
    exact same
  obtain ⟨tail, whole⟩ := List.rdropWhile_prefix (p := isBlank) (l := trimStart text)
  rw [start, List.cons_append] at whole
  have kept := List.head?_dropWhile_not isBlank text
  rw [trimStart] at whole
  rw [← whole] at kept
  simpa using kept

/-- What trimming leaves does not end with a blank. -/
theorem startsSolid_reverse_trim (text : List Char) : StartsSolid (trim text).reverse := by
  intro c rest same
  rw [trim, trimEnd_eq_rdropWhile, List.rdropWhile, List.reverse_reverse] at same
  have kept := List.head?_dropWhile_not isBlank (trimStart text).reverse
  rw [same] at kept
  simpa using kept

/-- Trimming twice is trimming once. -/
theorem trim_trim (text : List Char) : trim (trim text) = trim text :=
  trim_eq_self (startsSolid_trim text) (startsSolid_reverse_trim text)

/-- Two texts behind each other start with a character that is not blank if both do. -/
theorem StartsSolid.append {left right : List Char} (first : StartsSolid left)
    (second : StartsSolid right) : StartsSolid (left ++ right) := by
  cases left with
  | nil => exact second
  | cons d left =>
    intro c rest same
    exact first c left (congrArg (· :: left) (List.cons.inj same).1)

/-- Two trimmed texts behind each other are trimmed. -/
theorem trim_append {left right : List Char} (first : trim left = left)
    (second : trim right = right) : trim (left ++ right) = left ++ right := by
  apply trim_eq_self
  · rw [← first, ← second]
    exact (startsSolid_trim left).append (startsSolid_trim right)
  · rw [← first, ← second, List.reverse_append]
    exact (startsSolid_reverse_trim right).append (startsSolid_reverse_trim left)

/-- A text is what trimming leaves, with blanks around it. -/
theorem exists_trim (text : List Char) :
    ∃ before after,
      text = before ++ trim text ++ after ∧ isBlankText before ∧ isBlankText after := by
  refine ⟨text.takeWhile isBlank, (trimStart text).rtakeWhile isBlank, ?_, ?_, ?_⟩
  · rw [trim, trimEnd_eq_rdropWhile, List.append_assoc, List.rdropWhile_append_rtakeWhile,
      trimStart, List.takeWhile_append_dropWhile]
  · simp [isBlankText, List.all_takeWhile]
  · exact List.all_eq_true.mpr fun c member => List.mem_rtakeWhile_imp member

/-- A trimmed text is a piece of the text. -/
theorem trim_isInfix (text : List Char) : trim text <:+: text := by
  obtain ⟨before, after, parts, -⟩ := exists_trim text
  exact ⟨before, after, parts.symm⟩

/-- A trimmed text ends with no blanks. -/
theorem eq_nil_of_trim_append {text gap : List Char} (blank : isBlankText gap)
    (trimmed : trim (text ++ gap) = text ++ gap) : gap = [] := by
  rw [trim_append_blank blank] at trimmed
  have shorter := (trim_isInfix text).length_le
  rw [trimmed, List.length_append] at shorter
  exact List.length_eq_zero_iff.mp (by omega)

end CrudScaffold.Text
