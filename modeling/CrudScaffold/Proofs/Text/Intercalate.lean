import Mathlib.Data.List.Basic

/-!
# Texts with separators

What a row of texts with a separator between them holds, how it grows at its end, and how it is cut
into the texts again.
-/

namespace CrudScaffold.Text

/-- An element of lists with a separator between them is in the separator or in one of the lists. -/
theorem mem_intercalate {α : Type} {c : α} {separator : List α} {texts : List (List α)}
    (member : c ∈ separator.intercalate texts) : c ∈ separator ∨ ∃ text ∈ texts, c ∈ text := by
  induction texts with
  | nil => exact absurd member List.not_mem_nil
  | cons text texts ih =>
    cases texts with
    | nil =>
      rw [List.intercalate_singleton] at member
      exact .inr ⟨text, List.mem_cons_self, member⟩
    | cons next texts =>
      rw [List.intercalate_cons_cons, List.append_assoc, List.mem_append, List.mem_append] at member
      rcases member with here | between | there
      · exact .inr ⟨text, List.mem_cons_self, here⟩
      · exact .inl between
      · exact (ih there).imp_right fun ⟨other, inside, found⟩ =>
          ⟨other, List.mem_cons_of_mem _ inside, found⟩

/-- What is kept of texts with a separator between them. -/
theorem filter_intercalate (keep : Char → Bool) (separator : List Char)
    (texts : List (List Char)) :
    (separator.intercalate texts).filter keep =
      (separator.filter keep).intercalate (texts.map (·.filter keep)) := by
  induction texts with
  | nil => rfl
  | cons text texts ih =>
    cases texts with
    | nil => simp only [List.map_cons, List.map_nil, List.intercalate_singleton]
    | cons next texts =>
      simp only [List.map_cons, List.intercalate_cons_cons, List.filter_append] at ih ⊢
      rw [ih]

/-- Texts with a separator between them, changed character by character. -/
theorem map_intercalate (change : Char → Char) (separator : List Char)
    (texts : List (List Char)) :
    (separator.intercalate texts).map change =
      (separator.map change).intercalate (texts.map (·.map change)) := by
  induction texts with
  | nil => rfl
  | cons text texts ih =>
    cases texts with
    | nil => simp only [List.map_cons, List.map_nil, List.intercalate_singleton]
    | cons next texts =>
      simp only [List.map_cons, List.intercalate_cons_cons, List.map_append] at ih ⊢
      rw [ih]

/-- What is read off lines in blocks, with a line between two blocks off which nothing is read. -/
theorem filterMap_intercalate {α β : Type} {read : α → Option β} {separator : α}
    (plain : read separator = none) (blocks : List (List α)) :
    ([separator].intercalate blocks).filterMap read = blocks.flatMap (·.filterMap read) := by
  induction blocks with
  | nil => rfl
  | cons block blocks ih =>
    cases blocks with
    | nil => simp
    | cons next blocks =>
      rw [List.intercalate_cons_cons, List.filterMap_append, List.filterMap_append, ih,
        List.filterMap_cons_none plain, List.filterMap_nil, List.append_nil]
      rfl

/-- Texts with a separator between them, and a further text behind them. -/
theorem intercalate_concat {separator : List Char} {texts : List (List Char)} (some : texts ≠ [])
    (last : List Char) :
    separator.intercalate (texts ++ [last]) =
      separator.intercalate texts ++ (separator ++ last) := by
  induction texts with
  | nil => contradiction
  | cons first texts ih =>
    cases texts with
    | nil => simp [List.intercalate_cons_cons]
    | cons second texts =>
      have rest := ih (by simp)
      rw [List.cons_append] at rest ⊢
      rw [List.cons_append, List.intercalate_cons_cons, rest, List.intercalate_cons_cons]
      simp only [List.append_assoc]

/-- Texts with a separator behind each are the pieces between the separators. -/
theorem splitOn_flatMap {separator : Char} {texts : List (List Char)}
    (plain : ∀ text ∈ texts, separator ∉ text) (rest : List Char) :
    (texts.flatMap (· ++ [separator]) ++ rest).splitOn separator =
      texts ++ rest.splitOn separator := by
  induction texts with
  | nil => rfl
  | cons text texts ih =>
    obtain ⟨first, others⟩ := List.forall_mem_cons.mp plain
    rw [List.flatMap_cons, List.append_assoc, List.append_assoc, List.singleton_append,
      List.splitOn_append_cons_self, List.splitOn_eq_singleton first, ih others]
    rfl

end CrudScaffold.Text
