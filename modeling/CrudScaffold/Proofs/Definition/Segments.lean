import CrudScaffold.Definition.Modifier
import CrudScaffold.Proofs.Text.Trim

/-!
# The segments of a row of modifiers

A row is cut before every `@` outside parentheses and quotes. A text in which no character starts a
modifier is quiet; every segment is an `@` with a quiet text behind it (`quiet_of_mem_segments`),
and a row of such segments, each of which closes what it opens, is cut into them again
(`CutsInto.segments`).
-/

namespace CrudScaffold

open Text

namespace Nesting

/-- The place behind a text. -/
def run (place : Nesting) (text : List Char) : Nesting := text.foldl step place

/-- Whether no character of a text that stands at a place starts a modifier. -/
def quiet : Nesting → List Char → Bool
  | _, [] => true
  | place, c :: rest => !place.startsModifier c && (place.step c).quiet rest

/-- The place behind two texts. -/
theorem run_append (place : Nesting) (left right : List Char) :
    place.run (left ++ right) = (place.run left).run right := List.foldl_append

/-- Two texts are quiet one after the other if each is quiet where it stands. -/
theorem quiet_append (place : Nesting) (left right : List Char) :
    place.quiet (left ++ right) = (place.quiet left && (place.run left).quiet right) := by
  induction left generalizing place with
  | nil => rfl
  | cons c left ih => rw [List.cons_append, quiet, quiet, ih, Bool.and_assoc]; rfl

/-- Only outside parentheses and quotes does an `@` start a modifier. -/
theorem startsModifier_iff {place : Nesting} {c : Char} :
    place.startsModifier c = true ↔ c = '@' ∧ place = outside := by
  obtain ⟨depth, quote⟩ := place
  simp [startsModifier, outside, and_assoc]

/-- An `@` leaves the place as it is. -/
theorem step_outside_at : outside.step '@' = outside := rfl

/-- The characters that open or close parentheses and quotes. -/
def isMark (c : Char) : Bool := c == '\'' || c == '"' || c == '(' || c == ')'

/-- Outside quotes, only marks change the place. -/
theorem step_of_not_mark {depth : Nat} {c : Char} (plain : isMark c = false) :
    step ⟨depth, none⟩ c = ⟨depth, none⟩ := by
  simp only [isMark, Bool.or_eq_false_iff, beq_eq_false_iff_ne] at plain
  simp [step, plain]

/-- Outside quotes, a text without marks does not change the place. -/
theorem run_of_not_mark {depth : Nat} {text : List Char} (plain : ∀ c ∈ text, isMark c = false) :
    run ⟨depth, none⟩ text = ⟨depth, none⟩ := by
  induction text with
  | nil => rfl
  | cons c text ih =>
    obtain ⟨first, others⟩ := List.forall_mem_cons.mp plain
    rw [run, List.foldl_cons, step_of_not_mark first]
    exact ih others

/-- A text without an `@` is quiet. -/
theorem quiet_of_not_at {place : Nesting} {text : List Char} (plain : '@' ∉ text) :
    place.quiet text = true := by
  induction text generalizing place with
  | nil => rfl
  | cons c text ih =>
    rw [List.mem_cons, not_or] at plain
    have first : place.startsModifier c = false := by
      rw [← Bool.not_eq_true, startsModifier_iff]
      exact fun both => plain.1 both.1.symm
    rw [quiet, first, ih plain.2]
    rfl

end Nesting

/-- Cutting always leaves a piece. -/
theorem cutModifiers_ne_nil (place : Nesting) (text : List Char) :
    cutModifiers place text ≠ [] := by
  cases text with
  | nil => exact List.cons_ne_nil _ _
  | cons c rest =>
    rw [cutModifiers]
    split
    · exact List.cons_ne_nil _ _
    · split <;> exact List.cons_ne_nil _ _

/-- A quiet text stays in one piece with what follows it. -/
theorem cutModifiers_quiet_append {place : Nesting} {text rest piece : List Char}
    {pieces : List (List Char)} (quiet : place.quiet text = true)
    (cut : cutModifiers (place.run text) rest = piece :: pieces) :
    cutModifiers place (text ++ rest) = (text ++ piece) :: pieces := by
  induction text generalizing place with
  | nil => exact cut
  | cons c text ih =>
    rw [Nesting.quiet, Bool.and_eq_true, Bool.not_eq_true'] at quiet
    rw [List.cons_append, cutModifiers, ih quiet.2 cut, quiet.1]
    rfl

/-- An `@` outside parentheses and quotes starts a piece. -/
theorem cutModifiers_at {text piece : List Char} {pieces : List (List Char)}
    (cut : cutModifiers .outside text = piece :: pieces) :
    cutModifiers .outside ('@' :: text) = [] :: ('@' :: piece) :: pieces := by
  rw [cutModifiers, Nesting.step_outside_at, cut]
  rfl

/-- The first piece is quiet, and every further one is an `@` with a quiet text behind it. -/
theorem quiet_of_cutModifiers {place : Nesting} {text piece : List Char}
    {pieces : List (List Char)} (cut : cutModifiers place text = piece :: pieces) :
    place.quiet piece = true ∧
      ∀ other ∈ pieces, ∃ body, other = '@' :: body ∧ Nesting.outside.quiet body = true := by
  induction text generalizing place piece pieces with
  | nil =>
    obtain ⟨rfl, rfl⟩ := List.cons.inj cut
    exact ⟨rfl, fun _ member => absurd member List.not_mem_nil⟩
  | cons c text ih =>
    rw [cutModifiers] at cut
    cases rest : cutModifiers (place.step c) text with
    | nil => exact absurd rest (cutModifiers_ne_nil _ _)
    | cons first others =>
      obtain ⟨quiet, started⟩ := ih rest
      rw [rest] at cut
      dsimp only at cut
      cases starts : place.startsModifier c with
      | true =>
        rw [starts] at cut
        obtain ⟨rfl, rfl⟩ := List.cons.inj cut
        obtain ⟨rfl, rfl⟩ := Nesting.startsModifier_iff.mp starts
        exact ⟨rfl, List.forall_mem_cons.mpr ⟨⟨first, rfl, quiet⟩, started⟩⟩
      | false =>
        rw [starts] at cut
        obtain ⟨rfl, rfl⟩ := List.cons.inj cut
        exact ⟨by rw [Nesting.quiet, starts, quiet]; rfl, started⟩

/-- No blank is a mark. -/
theorem isMark_of_isBlank {c : Char} (blank : isBlank c) : Nesting.isMark c = false := by
  by_contra other
  have mark : Nesting.isMark c = true := by simpa using other
  simp only [Nesting.isMark, Bool.or_eq_true, beq_iff_eq] at mark
  rcases mark with ((rfl | rfl) | rfl) | rfl <;> revert blank <;> decide

/-- Blanks outside parentheses and quotes leave the place as it is. -/
theorem Nesting.run_of_isBlankText {gap : List Char} (blank : isBlankText gap) :
    outside.run gap = outside :=
  run_of_not_mark fun c member => isMark_of_isBlank (List.all_eq_true.mp blank c member)

/-- What stands behind the `@` of a segment is quiet. -/
theorem quiet_of_mem_segments {row body : List Char} (member : '@' :: body ∈ segments row) :
    Nesting.outside.quiet body = true := by
  obtain ⟨whole, cut, same⟩ := List.mem_map.mp (List.mem_filter.mp member).1
  obtain ⟨before, after, parts, blank, -⟩ := exists_trim whole
  rw [same] at parts
  cases pieces : cutModifiers .outside row with
  | nil => exact absurd pieces (cutModifiers_ne_nil _ _)
  | cons first others =>
    rw [pieces, List.mem_cons] at cut
    obtain ⟨quiet, started⟩ := quiet_of_cutModifiers pieces
    rcases cut with rfl | further
    · -- The first piece holds no `@` outside, so it cannot be trimmed to one in front.
      rw [parts, Nesting.quiet_append, Nesting.quiet_append, Nesting.run_of_isBlankText blank,
        Nesting.quiet] at quiet
      simp [Nesting.startsModifier, Nesting.outside] at quiet
    · obtain ⟨rest, rfl, quiet⟩ := started whole further
      cases before with
      | nil =>
        have tail : rest = body ++ after := (List.cons.inj parts).2
        rw [tail, Nesting.quiet_append, Bool.and_eq_true] at quiet
        exact quiet.1
      | cons c before =>
        obtain ⟨rfl, -⟩ := List.cons.inj parts
        simp [show isBlank '@' = false by decide] at blank

/-- Cutting loses nothing. -/
theorem flatten_cutModifiers (place : Nesting) (text : List Char) :
    (cutModifiers place text).flatten = text := by
  induction text generalizing place with
  | nil => rfl
  | cons c text ih =>
    rw [cutModifiers]
    cases rest : cutModifiers (place.step c) text with
    | nil => exact absurd rest (cutModifiers_ne_nil _ _)
    | cons piece pieces =>
      have whole := ih (place.step c)
      rw [rest, List.flatten_cons] at whole
      dsimp only
      split <;> simp [whole]

/-- The characters of a segment stand in the row. -/
theorem subset_of_mem_segments {row segment : List Char} (member : segment ∈ segments row) :
    segment ⊆ row := by
  obtain ⟨whole, cut, rfl⟩ := List.mem_map.mp (List.mem_filter.mp member).1
  intro c inside
  rw [← flatten_cutModifiers .outside row]
  exact List.mem_flatten.mpr ⟨whole, cut, (trim_isInfix whole).subset inside⟩

/-- A text that is empty or starts a modifier outside parentheses and quotes, cut into pieces. -/
def CutsInto (text : List Char) (pieces : List (List Char)) : Prop :=
  cutModifiers .outside text = [] :: pieces

/-- A modifier that leaves nothing open is cut off from what follows it. -/
theorem CutsInto.cons {body text : List Char} {pieces : List (List Char)}
    (rest : CutsInto text pieces) (quiet : Nesting.outside.quiet body = true)
    (closed : Nesting.outside.run body = .outside) :
    CutsInto ('@' :: body ++ text) (('@' :: body) :: pieces) := by
  rw [CutsInto, List.cons_append, cutModifiers_at (cutModifiers_quiet_append quiet (by
    rw [closed]
    exact rest)), List.append_nil]

/-- The last modifier need not close what it opens. -/
theorem CutsInto.last {body : List Char} (quiet : Nesting.outside.quiet body = true) :
    CutsInto ('@' :: body) [('@' :: body)] := by
  have cut := cutModifiers_quiet_append quiet (rfl : cutModifiers _ [] = [] :: [])
  rw [List.append_nil] at cut
  exact cutModifiers_at cut

/-- Pieces that are not empty and trimmed are segments. -/
theorem CutsInto.segments {text : List Char} {pieces : List (List Char)}
    (cut : CutsInto text pieces) (trimmed : ∀ piece ∈ pieces, piece ≠ [] ∧ trim piece = piece) :
    segments text = pieces := by
  have same : pieces.map trim = pieces :=
    (List.map_congr_left fun piece member => (trimmed piece member).2).trans (List.map_id _)
  have kept : pieces.filter (· ≠ []) = pieces :=
    List.filter_eq_self.mpr fun piece member => by simpa using (trimmed piece member).1
  rw [CrudScaffold.segments, cut, List.map_cons, same]
  exact kept

end CrudScaffold
