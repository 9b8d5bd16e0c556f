import CrudScaffold.Text.Lines

/-!
# Line feeds in read texts

A text that was read holds no carriage return, and a text without carriage returns is read as it is.
What stands in front of a part with carriage returns is kept as well. And lines with a line feed
behind each are the lines of the whole text.
-/

namespace CrudScaffold.Text

/-- A character other than a carriage return is kept. -/
theorem unifyNewlines_cons {c : Char} (other : c ≠ '\r') (text : List Char) :
    unifyNewlines (c :: text) = c :: unifyNewlines text := by
  rw [unifyNewlines]
  · rintro rest rfl
    contradiction
  · rintro rfl
    contradiction

/-- A text that was read holds no carriage return. -/
theorem return_notMem_unifyNewlines (text : List Char) : '\r' ∉ unifyNewlines text := by
  fun_induction unifyNewlines text with
  | case1 => exact List.not_mem_nil
  | case2 rest ih => exact fun member => ih (by simpa using member)
  | case3 rest _ ih => exact fun member => ih (by simpa using member)
  | case4 c rest _ other ih =>
    intro member
    rcases List.mem_cons.mp member with same | member
    · exact other same.symm
    · exact ih member

/-- What has no carriage return is kept in front of any text. -/
theorem unifyNewlines_append {front : List Char} (plain : '\r' ∉ front) (back : List Char) :
    unifyNewlines (front ++ back) = front ++ unifyNewlines back := by
  induction front with
  | nil => rfl
  | cons c front ih =>
    rw [List.mem_cons, not_or] at plain
    obtain ⟨first, rest⟩ := plain
    rw [List.cons_append, unifyNewlines_cons (Ne.symm first), ih rest, List.cons_append]

/-- A text without carriage returns is read as it is. -/
theorem unifyNewlines_eq_self {text : List Char} (plain : '\r' ∉ text) :
    unifyNewlines text = text := by
  have whole := unifyNewlines_append plain []
  rwa [List.append_nil, unifyNewlines, List.append_nil] at whole

/-- A carriage return is read as a line feed. -/
theorem exists_unifyNewlines_return (text : List Char) :
    ∃ rest, unifyNewlines ('\r' :: text) = '\n' :: rest := by
  cases text with
  | nil => exact ⟨_, rfl⟩
  | cons c text =>
    by_cases feed : c = '\n'
    · subst feed
      exact ⟨_, rfl⟩
    · refine ⟨unifyNewlines (c :: text), ?_⟩
      rw [unifyNewlines]
      rintro rest same
      exact feed (List.cons.inj same).1

/-- Whether a text is blank does not depend on its line breaks. -/
theorem isBlankText_unifyNewlines (text : List Char) :
    isBlankText (unifyNewlines text) = isBlankText text := by
  fun_induction unifyNewlines text with
  | case1 => rfl
  | case2 rest ih => exact ih
  | case3 rest _ ih => exact ih
  | case4 c rest _ _ ih => exact congrArg (isBlank c && ·) ih

/-- A line with a line feed behind it is the first line of a text. -/
theorem splitLines_line_append {line : List Char} (unbroken : ∀ c ∈ line, isLineBreak c = false)
    (rest : List Char) : splitLines (line ++ '\n' :: rest) = line :: splitLines rest := by
  induction line with
  | nil =>
    rw [List.nil_append, splitLines, if_pos (by decide)]
    exact fun _ same => absurd same (by decide)
  | cons c line ih =>
    obtain ⟨first, others⟩ := List.forall_mem_cons.mp unbroken
    have other : c ≠ '\r' := by
      rintro rfl
      exact absurd first (by decide)
    rw [List.cons_append, splitLines, if_neg (by simp [first]), ih others]
    exact fun _ same => absurd same other

/-- Lines with a line feed behind each are the lines of the text. -/
theorem splitLines_flatMap {lines : List (List Char)}
    (unbroken : ∀ line ∈ lines, ∀ c ∈ line, isLineBreak c = false) :
    splitLines (lines.flatMap (· ++ ['\n'])) = lines := by
  induction lines with
  | nil => rfl
  | cons line lines ih =>
    obtain ⟨first, others⟩ := List.forall_mem_cons.mp unbroken
    rw [List.flatMap_cons, List.append_assoc, List.singleton_append, splitLines_line_append first,
      ih others]

end CrudScaffold.Text
