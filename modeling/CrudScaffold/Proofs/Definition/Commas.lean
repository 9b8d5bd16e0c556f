import CrudScaffold.Definition.FieldList
import CrudScaffold.Proofs.Definition.Document
import CrudScaffold.Proofs.Text.Intercalate

/-!
# Commas outside parentheses

A field list is cut at the commas outside parentheses, and quotes do not matter there. The cut
gives joined texts back exactly when parentheses alone keep them apart (`Separable`). The blanks
around the pieces are dropped behind the cut. That changes nothing here: it only ever makes the
pieces lighter, so pieces that are found as they were joined have lost no blank.
-/

namespace CrudScaffold

open Text

/-- The number of open parentheses behind a character. -/
def depthStep (depth : Nat) (c : Char) : Nat :=
  if c = '(' then depth + 1 else if c = ')' then depth - 1 else depth

/-- The number of open parentheses behind a text. -/
def depthAfter (depth : Nat) (text : List Char) : Nat := text.foldl depthStep depth

/-- Whether a comma stands outside parentheses. -/
def hasOuterComma : (depth : Nat) → List Char → Bool
  | _, [] => false
  | depth, c :: rest => (c = ',' && depth == 0) || hasOuterComma (depthStep depth c) rest

/-- The pieces of a text with a character in front. -/
theorem cutFields_cons (depth : Nat) (c : Char) (rest : List Char) :
    cutFields depth (c :: rest) =
      if c = ',' && depth == 0 then [] :: cutFields depth rest
      else consBlock c (cutFields (depthStep depth c) rest) := rfl

/-- Cutting always leaves a piece. -/
theorem cutFields_ne_nil (depth : Nat) (text : List Char) : cutFields depth text ≠ [] := by
  cases text with
  | nil => exact List.cons_ne_nil _ _
  | cons c rest =>
    rw [cutFields_cons]
    split
    · exact List.cons_ne_nil _ _
    · cases cutFields (depthStep depth c) rest <;> exact List.cons_ne_nil _ _

/-- A text without an outer comma stays in one piece with what follows it. -/
theorem cutFields_append {depth : Nat} {text rest piece : List Char} {pieces : List (List Char)}
    (plain : hasOuterComma depth text = false)
    (cut : cutFields (depthAfter depth text) rest = piece :: pieces) :
    cutFields depth (text ++ rest) = (text ++ piece) :: pieces := by
  induction text generalizing depth with
  | nil => exact cut
  | cons c text ih =>
    rw [hasOuterComma, Bool.or_eq_false_iff] at plain
    rw [List.cons_append, cutFields_cons, plain.1, ih plain.2 cut]
    rfl

/-- A text without an outer comma is one piece. -/
theorem cutFields_eq_singleton {depth : Nat} {text : List Char}
    (plain : hasOuterComma depth text = false) : cutFields depth text = [text] := by
  have cut := cutFields_append plain (rfl : cutFields _ [] = [] :: [])
  rwa [List.append_nil] at cut

/-- A list is cut at a comma behind a text that has no outer comma and closes its parentheses. -/
theorem cutFields_append_comma {text : List Char} (plain : hasOuterComma 0 text = false)
    (closed : depthAfter 0 text = 0) (rest : List Char) :
    cutFields 0 (text ++ ',' :: rest) = text :: cutFields 0 rest := by
  have comma : cutFields (depthAfter 0 text) (',' :: rest) = [] :: cutFields 0 rest := by
    rw [closed, cutFields_cons]
    rfl
  rw [cutFields_append plain comma, List.append_nil]

/-- The first piece is what stands before the first outer comma. -/
theorem of_cutFields {depth : Nat} {text piece : List Char} {pieces : List (List Char)}
    (cut : cutFields depth text = piece :: pieces) :
    hasOuterComma depth piece = false ∧ ((pieces = [] ∧ text = piece) ∨
      ∃ rest, text = piece ++ ',' :: rest ∧ depthAfter depth piece = 0 ∧
        cutFields 0 rest = pieces) := by
  induction text generalizing depth piece with
  | nil =>
    obtain ⟨rfl, rfl⟩ := List.cons.inj cut
    exact ⟨rfl, .inl ⟨rfl, rfl⟩⟩
  | cons c text ih =>
    rw [cutFields_cons] at cut
    split at cut
    · rename_i comma
      obtain ⟨rfl, rfl⟩ : c = ',' ∧ depth = 0 := by simpa using comma
      obtain ⟨rfl, rest⟩ := List.cons.inj cut
      exact ⟨rfl, .inr ⟨text, rfl, rfl, rest⟩⟩
    · rename_i plain
      cases inner : cutFields (depthStep depth c) text with
      | nil => exact absurd inner (cutFields_ne_nil _ _)
      | cons first others =>
        rw [inner] at cut
        obtain ⟨rfl, rfl⟩ := List.cons.inj cut
        obtain ⟨clear, ends⟩ := ih inner
        refine ⟨by rw [hasOuterComma, clear, Bool.or_false]; simpa using plain, ?_⟩
        rcases ends with ⟨rfl, rfl⟩ | ⟨rest, rfl, closed, cut⟩
        · exact .inl ⟨rfl, rfl⟩
        · exact .inr ⟨rest, rfl, closed, cut⟩

/-- The characters of a piece stand in the text. -/
theorem subset_of_mem_cutFields {depth : Nat} {text piece : List Char}
    (member : piece ∈ cutFields depth text) : piece ⊆ text := by
  induction text generalizing depth piece with
  | nil => rw [List.mem_singleton.mp member]; exact List.nil_subset _
  | cons c text ih =>
    rw [cutFields_cons] at member
    split at member
    · rcases List.mem_cons.mp member with rfl | later
      · exact List.nil_subset _
      · exact List.subset_cons_of_subset _ (ih later)
    · cases inner : cutFields (depthStep depth c) text with
      | nil => exact absurd inner (cutFields_ne_nil _ _)
      | cons first others =>
        rw [inner, consBlock, List.mem_cons] at member
        rcases member with rfl | later
        · exact List.cons_subset_cons _ (ih (by rw [inner]; exact List.mem_cons_self))
        · have among := ih (by rw [inner]; exact List.mem_cons_of_mem _ later)
          exact List.subset_cons_of_subset _ among

/-- The pieces with commas between them are the text. -/
theorem intercalate_cutFields (depth : Nat) (text : List Char) :
    [','].intercalate (cutFields depth text) = text := by
  induction text generalizing depth with
  | nil => rfl
  | cons c text ih =>
    rw [cutFields_cons]
    split
    · rename_i comma
      obtain ⟨rfl, rfl⟩ : c = ',' ∧ depth = 0 := by simpa using comma
      have rest := ih 0
      cases inner : cutFields 0 text with
      | nil => exact absurd inner (cutFields_ne_nil _ _)
      | cons first others =>
        rw [inner] at rest
        rw [List.intercalate_cons_cons, rest]
        rfl
    · have rest := ih (depthStep depth c)
      cases inner : cutFields (depthStep depth c) text with
      | nil => exact absurd inner (cutFields_ne_nil _ _)
      | cons first others =>
        rw [inner] at rest
        rw [← rest, consBlock]
        cases others with
        | nil => rw [List.intercalate_singleton, List.intercalate_singleton]
        | cons next others =>
          rw [List.intercalate_cons_cons, List.intercalate_cons_cons]
          rfl

/-- Deeper parentheses hide no fewer commas. -/
theorem hasOuterComma_of_le {low high : Nat} {text : List Char} (le : low ≤ high)
    (plain : hasOuterComma low text = false) : hasOuterComma high text = false := by
  induction text generalizing low high with
  | nil => rfl
  | cons c text ih =>
    rw [hasOuterComma, Bool.or_eq_false_iff] at plain
    have deeper : depthStep low c ≤ depthStep high c := by
      unfold depthStep
      split
      · omega
      · split <;> omega
    rw [hasOuterComma, ih deeper plain.2, Bool.or_false]
    have first : ¬(c = ',' ∧ low = 0) := by simpa using plain.1
    have : ¬(c = ',' ∧ high = 0) := fun both => first ⟨both.1, by omega⟩
    simpa using this

/-- A declaration that leaves a parenthesis open takes the next one in. -/
theorem cutFields_open {text : List Char} (plain : hasOuterComma 0 text = false)
    (deep : depthAfter 0 text ≠ 0) :
    cutFields 0 ([','].intercalate [text, text]) = [text ++ ',' :: text] := by
  have inner := cutFields_append (hasOuterComma_of_le (Nat.zero_le (depthAfter 0 text)) plain)
    (rfl : cutFields _ [] = [] :: [])
  rw [List.append_nil] at inner
  have cut : cutFields (depthAfter 0 text) (',' :: text) = [',' :: text] := by
    have closed : (decide (',' = ',') && depthAfter 0 text == 0) = false := by simpa using deep
    have step : depthStep (depthAfter 0 text) ',' = depthAfter 0 text := rfl
    rw [cutFields_cons, closed, step, inner]
    rfl
  rw [List.intercalate_cons_cons, List.intercalate_singleton, List.append_assoc,
    List.singleton_append, cutFields_append plain cut]

/-- Parentheses alone keep the declarations of a list apart: none holds an outer comma, and every
one but the last closes its parentheses. -/
def Separable (declarations : List (List Char)) : Prop :=
  (∀ declaration ∈ declarations, hasOuterComma 0 declaration = false) ∧
    ∀ declaration ∈ declarations.dropLast, depthAfter 0 declaration = 0

/-- Parentheses keep a declaration apart from those behind it if it has no outer comma and closes
its parentheses. -/
theorem separable_cons_cons {first next : List Char} {others : List (List Char)} :
    Separable (first :: next :: others) ↔
      (hasOuterComma 0 first = false ∧ depthAfter 0 first = 0) ∧ Separable (next :: others) := by
  unfold Separable
  have plain := List.forall_mem_cons (a := first) (l := next :: others)
    (p := fun declaration => hasOuterComma 0 declaration = false)
  have closed := List.forall_mem_cons (a := first) (l := (next :: others).dropLast)
    (p := fun declaration => depthAfter 0 declaration = 0)
  rw [List.dropLast_cons_cons, plain, closed]
  exact and_and_and_comm

/-- Declarations are cut where they were joined exactly when parentheses keep them apart. -/
theorem cutFields_intercalate_iff {declarations : List (List Char)} (some : declarations ≠ []) :
    cutFields 0 ([','].intercalate declarations) = declarations ↔ Separable declarations := by
  induction declarations with
  | nil => exact absurd rfl some
  | cons first others ih =>
    cases others with
    | nil =>
      rw [List.intercalate_singleton]
      constructor
      · intro cut
        exact ⟨List.forall_mem_singleton.mpr (of_cutFields cut).1, List.forall_mem_nil _⟩
      · exact fun apart => cutFields_eq_singleton (apart.1 first List.mem_cons_self)
    | cons next others =>
      rw [List.intercalate_cons_cons, List.append_assoc, List.singleton_append,
        separable_cons_cons, ← ih (List.cons_ne_nil _ _)]
      constructor
      · intro cut
        obtain ⟨plain, ⟨none, -⟩ | ⟨rest, same, closed, later⟩⟩ := of_cutFields cut
        · contradiction
        · obtain rfl := (List.cons.inj (List.append_cancel_left same)).2
          exact ⟨⟨plain, closed⟩, later⟩
      · rintro ⟨⟨plain, closed⟩, later⟩
        rw [cutFields_append_comma plain closed, later]

/-- The length of a list of texts, where each counts one more. -/
def weight : List (List Char) → Nat
  | [] => 0
  | line :: lines => line.length + 1 + weight lines

/-- Lists of texts one after the other weigh as much as both. -/
theorem weight_append (left right : List (List Char)) :
    weight (left ++ right) = weight left + weight right := by
  induction left with
  | nil => exact (Nat.zero_add _).symm
  | cons line left ih =>
    rw [List.cons_append, weight, weight, ih]
    omega

/-- Joined texts are one shorter than they weigh. -/
theorem length_intercalate_comma {lines : List (List Char)} (some : lines ≠ []) :
    ([','].intercalate lines).length + 1 = weight lines := by
  induction lines with
  | nil => exact absurd rfl some
  | cons line lines ih =>
    cases lines with
    | nil => rw [List.intercalate_singleton]; rfl
    | cons next lines =>
      have rest := ih (List.cons_ne_nil _ _)
      rw [List.intercalate_cons_cons, List.append_assoc, List.length_append, List.length_append,
        weight, ← rest]
      simp only [List.length_singleton]
      omega

/-- Trimming a line and dropping it if it is blank does not make it heavier, and leaves it as it is
if it keeps its weight. -/
theorem weight_solidLines_singleton (line : List Char) :
    weight (solidLines [line]) ≤ line.length + 1 ∧
      (weight (solidLines [line]) = line.length + 1 → solidLines [line] = [line]) := by
  by_cases blank : trim line = []
  · have none : solidLines [line] = [] := by rw [solidLines_singleton, if_pos blank]
    rw [none]
    refine ⟨Nat.zero_le _, fun same => ?_⟩
    contradiction
  · have one : solidLines [line] = [trim line] := by rw [solidLines_singleton, if_neg blank]
    have shorter := (trim_isInfix line).length_le
    rw [one]
    refine ⟨by change (trim line).length + 1 + 0 ≤ _; omega, fun same => ?_⟩
    rw [(trim_isInfix line).eq_of_length (by change (trim line).length + 1 + 0 = _ at same; omega)]

/-- Trimming lines and dropping blank ones makes a list lighter, unless it changes nothing. -/
theorem weight_solidLines (lines : List (List Char)) :
    weight (solidLines lines) ≤ weight lines ∧
      (weight (solidLines lines) = weight lines → solidLines lines = lines) := by
  induction lines with
  | nil => exact ⟨Nat.le_refl _, fun _ => rfl⟩
  | cons line lines ih =>
    have first := weight_solidLines_singleton line
    have split : weight (solidLines (line :: lines)) =
        weight (solidLines [line]) + weight (solidLines lines) := by
      rw [solidLines_cons, weight_append]
    rw [split, weight]
    refine ⟨by omega, fun same => ?_⟩
    rw [solidLines_cons, first.2 (by omega), ih.2 (by omega)]
    rfl

/-- Solid lines are not changed by trimming and dropping. -/
theorem solidLines_of_solid {lines : List (List Char)} (solid : ∀ line ∈ lines, SolidLine line) :
    solidLines lines = lines := by
  have same : lines.map trim = lines :=
    (List.map_congr_left fun line member => (solid line member).trimmed).trans (List.map_id _)
  rw [solidLines, same]
  exact List.filter_eq_self.mpr fun line member => by simpa using (solid line member).some

/-- Declarations are found in the list that joins them exactly when parentheses keep them apart. -/
theorem solidLines_cutFields_iff {declarations : List (List Char)}
    (solid : ∀ declaration ∈ declarations, SolidLine declaration) :
    solidLines (cutFields 0 ([','].intercalate declarations)) = declarations ↔
      Separable declarations := by
  cases declarations with
  | nil => exact ⟨fun _ => ⟨List.forall_mem_nil _, List.forall_mem_nil _⟩, fun _ => rfl⟩
  | cons first others =>
    have some : first :: others ≠ [] := List.cons_ne_nil _ _
    rw [← cutFields_intercalate_iff some]
    constructor
    · intro found
      -- The pieces and the declarations have the same text, so trimming can have lost nothing.
      have pieces := length_intercalate_comma
        (cutFields_ne_nil 0 ([','].intercalate (first :: others)))
      rw [intercalate_cutFields, length_intercalate_comma some] at pieces
      have same := (weight_solidLines (cutFields 0 ([','].intercalate (first :: others)))).2
        (by rw [found, pieces])
      rw [← same, found]
    · intro cut
      rw [cut, solidLines_of_solid solid]

/-- A declaration that may stand anywhere in a field list: it holds no comma outside parentheses and
closes its parentheses. -/
def CommaSafe (declaration : List Char) : Prop :=
  hasOuterComma 0 declaration = false ∧ depthAfter 0 declaration = 0

/-- Declarations that are safe are kept apart. -/
theorem separable_of_commaSafe {declarations : List (List Char)}
    (safe : ∀ declaration ∈ declarations, CommaSafe declaration) : Separable declarations :=
  ⟨fun declaration member => (safe declaration member).1, fun declaration member =>
    (safe declaration (List.dropLast_subset _ member)).2⟩

/-- A line with a character that is not blank leaves a solid line. -/
theorem trim_mem_solidLines {lines : List (List Char)} {line : List Char} (member : line ∈ lines)
    {c : Char} (inside : c ∈ line) (solid : isBlank c = false) : trim line ∈ solidLines lines := by
  refine List.mem_filter.mpr ⟨List.mem_map_of_mem member, ?_⟩
  have some : trim line ≠ [] := fun empty => by
    have blank : isBlank c := List.all_eq_true.mp (trim_eq_nil_iff.mp empty) c inside
    rw [solid] at blank
    contradiction
  simpa using some

end CrudScaffold
