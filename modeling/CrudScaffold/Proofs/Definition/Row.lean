import CrudScaffold.Proofs.Definition.Segments

/-!
# The form of a row of modifiers

A row is blanks and segments: every segment is trimmed, starts with an `@` and goes on up to the
next `@` outside parentheses and quotes, or up to the end (`Row`). Text before the first `@` that is
not blank makes a row stray. Every text is one or the other (`row_or_stray`), and `segments` finds
the segments of a row (`Row.segments`), so that they are unique.
-/

namespace CrudScaffold

open Text

/-- A text of blanks and segments, given its segments. -/
inductive Row : List Char → List (List Char) → Prop
  | blank {gap : List Char} (blank : isBlankText gap) : Row gap []
  /-- A segment ends outside parentheses and quotes, unless it is the last. -/
  | segment {gap body rest : List Char} {pieces : List (List Char)} (blank : isBlankText gap)
      (trimmed : trim ('@' :: body) = '@' :: body) (quiet : Nesting.outside.quiet body = true)
      (closed : pieces ≠ [] → Nesting.outside.run body = .outside) (others : Row rest pieces) :
      Row (gap ++ ('@' :: body ++ rest)) (('@' :: body) :: pieces)

/-- A text that is not blank and does not start with an `@` after its blanks. -/
def Stray (text : List Char) : Prop :=
  ∃ gap c rest, text = gap ++ c :: rest ∧ isBlankText gap ∧ isBlank c = false ∧ c ≠ '@'

/-- No blank is an `@`. -/
theorem not_at_of_isBlankText {gap : List Char} (blank : isBlankText gap) : '@' ∉ gap := by
  intro member
  have := List.all_eq_true.mp blank '@' member
  revert this
  decide

/-- Only a quote is ever open. -/
theorem Nesting.isMark_of_quote {place : Nesting} (marked : ∀ q ∈ place.quote, isMark q)
    (text : List Char) : ∀ q ∈ (place.run text).quote, isMark q := by
  induction text generalizing place with
  | nil => exact marked
  | cons c text ih =>
    refine ih fun q found => ?_
    unfold step at found
    split at found
    · rename_i quote opened
      split at found
      · nomatch found
      · exact marked q found
    · split at found
      · rename_i mark
        obtain rfl := Option.some.inj found
        rw [Bool.or_eq_true, decide_eq_true_eq, decide_eq_true_eq] at mark
        rcases mark with rfl | rfl <;> rfl
      · split at found
        · exact marked q found
        · split at found <;> exact marked q found

/-- In a quote, only the quote itself changes something. -/
theorem Nesting.step_of_ne_quote {depth : Nat} {quote c : Char} (other : quote ≠ c) :
    step ⟨depth, some quote⟩ c = ⟨depth, some quote⟩ := if_neg (Ne.symm other)

/-- Blanks leave the place as it is, inside quotes and parentheses too. -/
theorem Nesting.run_append_blank (text : List Char) {gap : List Char} (blank : isBlankText gap) :
    outside.run (text ++ gap) = outside.run text := by
  have start : ∀ q ∈ outside.quote, isMark q := fun _ found => nomatch found
  have marked := isMark_of_quote start text
  rw [run_append]
  generalize outside.run text = place at marked
  obtain ⟨depth, quote⟩ := place
  cases quote with
  | none =>
    exact run_of_not_mark fun c member => isMark_of_isBlank (List.all_eq_true.mp blank c member)
  | some q =>
    have mark : isMark q = true := marked q rfl
    induction gap with
    | nil => rfl
    | cons c gap ih =>
      rw [isBlankText_cons, Bool.and_eq_true] at blank
      have plain : q ≠ c := by
        rintro rfl
        rw [isMark_of_isBlank blank.1] at mark
        exact Bool.false_ne_true mark
      rw [run, List.foldl_cons, step_of_ne_quote plain]
      exact ih blank.2

/-- A quiet text is one piece. -/
theorem cutModifiers_quiet {place : Nesting} {text : List Char} (quiet : place.quiet text = true) :
    cutModifiers place text = [text] := by
  have cut := cutModifiers_quiet_append quiet (rfl : cutModifiers _ [] = [] :: [])
  rwa [List.append_nil] at cut

/-- What stands behind a quiet text is cut as if it stood alone. -/
theorem cutModifiers_of_quiet_append {place : Nesting} {text rest piece : List Char}
    {pieces : List (List Char)} (quiet : place.quiet text = true)
    (cut : cutModifiers place (text ++ rest) = (text ++ piece) :: pieces) :
    cutModifiers (place.run text) rest = piece :: pieces := by
  cases alone : cutModifiers (place.run text) rest with
  | nil => exact absurd alone (cutModifiers_ne_nil _ _)
  | cons other others =>
    rw [cutModifiers_quiet_append quiet alone] at cut
    obtain ⟨first, rfl⟩ := List.cons.inj cut
    rw [List.append_cancel_left first]

/-- A cut lies before an `@` outside parentheses and quotes. -/
theorem exists_of_cutModifiers {place : Nesting} {text piece next : List Char}
    {pieces : List (List Char)} (cut : cutModifiers place text = piece :: next :: pieces) :
    ∃ body rest, next = '@' :: body ∧ text = piece ++ '@' :: rest ∧ place.run piece = .outside ∧
      cutModifiers .outside rest = body :: pieces := by
  induction text generalizing place piece with
  | nil => exact absurd (List.cons.inj cut).2 (List.cons_ne_nil _ _).symm
  | cons c text ih =>
    rw [cutModifiers] at cut
    cases rest : cutModifiers (place.step c) text with
    | nil => exact absurd rest (cutModifiers_ne_nil _ _)
    | cons first others =>
      rw [rest] at cut
      dsimp only at cut
      cases starts : place.startsModifier c with
      | true =>
        rw [starts] at cut
        obtain ⟨rfl, same⟩ := List.cons.inj cut
        obtain ⟨rfl, rfl⟩ := List.cons.inj same
        obtain ⟨rfl, rfl⟩ := Nesting.startsModifier_iff.mp starts
        exact ⟨first, text, rfl, rfl, rfl, rest⟩
      | false =>
        rw [starts] at cut
        obtain ⟨rfl, rfl⟩ := List.cons.inj cut
        obtain ⟨body, tail, rfl, rfl, behind, cut⟩ := ih rest
        exact ⟨body, tail, rfl, rfl, behind, cut⟩

/-- A row without segments is blank. -/
theorem Row.isBlankText {text : List Char} (row : Row text []) : isBlankText text := by
  cases row with
  | blank blank => exact blank

/-- A row is cut into blanks and its segments, each with the blanks behind it. -/
theorem Row.cutModifiers {text : List Char} {pieces : List (List Char)} (row : Row text pieces) :
    ∃ gap others, CrudScaffold.cutModifiers .outside text = gap :: others ∧
      Text.isBlankText gap ∧ others.map trim = pieces := by
  induction row with
  | blank blank =>
    exact ⟨_, [], cutModifiers_quiet (Nesting.quiet_of_not_at (not_at_of_isBlankText blank)),
      blank, rfl⟩
  | @segment gap body rest pieces blank trimmed quiet closed others ih =>
    have behind : ∃ next tail, CrudScaffold.cutModifiers (Nesting.outside.run body) rest =
        next :: tail ∧ Text.isBlankText next ∧ tail.map trim = pieces := by
      by_cases last : pieces = []
      · -- Nothing but blanks follows, so it does not matter what the segment leaves open.
        subst last
        have after := others.isBlankText
        exact ⟨rest, [], cutModifiers_quiet (Nesting.quiet_of_not_at
          (not_at_of_isBlankText after)), after, rfl⟩
      · rw [closed last]
        exact ih
    obtain ⟨next, tail, cut, after, same⟩ := behind
    refine ⟨gap, ('@' :: (body ++ next)) :: tail, ?_, blank, ?_⟩
    · have start := cutModifiers_at (cutModifiers_quiet_append quiet cut)
      rw [← Nesting.run_of_isBlankText blank] at start
      have whole := cutModifiers_quiet_append
        (Nesting.quiet_of_not_at (not_at_of_isBlankText blank)) start
      rwa [List.append_nil] at whole
    · rw [List.map_cons, same, ← List.cons_append, trim_append_blank after, trimmed]

/-- Trimming a text that starts with an `@` removes blanks at its end. -/
theorem exists_trim_at (text : List Char) : ∃ body after, text = body ++ after ∧
    trim ('@' :: text) = '@' :: body ∧ Text.isBlankText after := by
  have solid : isBlank '@' = false := by decide
  obtain ⟨before, after, parts, front, blank⟩ := exists_trim ('@' :: text)
  cases before with
  | nil =>
    cases kept : trim ('@' :: text) with
    | nil => simpa [solid] using trim_eq_nil_iff.mp kept
    | cons c body =>
      rw [kept, List.nil_append, List.cons_append] at parts
      obtain ⟨rfl, same⟩ := List.cons.inj parts
      exact ⟨body, after, same, rfl, blank⟩
  | cons c before =>
    obtain ⟨rfl, -⟩ := List.cons.inj parts
    simp [solid] at front

/-- A text whose first piece is blank is a row of the others. -/
theorem Row.of_cutModifiers {text gap : List Char} {others : List (List Char)}
    (cut : CrudScaffold.cutModifiers .outside text = gap :: others)
    (blank : Text.isBlankText gap) : Row text (others.map trim) := by
  induction others generalizing text gap with
  | nil =>
    have whole := flatten_cutModifiers .outside text
    rw [cut, List.flatten_singleton] at whole
    exact whole ▸ .blank blank
  | cons next others ih =>
    obtain ⟨whole, rest, rfl, rfl, -, behind⟩ := exists_of_cutModifiers cut
    have quiet := (quiet_of_cutModifiers behind).1
    obtain ⟨body, after, same, trimmed, closing⟩ := exists_trim_at whole
    subst same
    rw [List.map_cons, trimmed]
    have front : Nesting.outside.quiet body = true := by
      rw [Nesting.quiet_append, Bool.and_eq_true] at quiet
      exact quiet.1
    -- The text behind the segment starts with the blanks that were trimmed off.
    obtain ⟨tail, rfl⟩ : ∃ tail, rest = body ++ tail := by
      have parts := flatten_cutModifiers .outside rest
      rw [behind, List.flatten_cons, List.append_assoc] at parts
      exact ⟨_, parts.symm⟩
    have alone := cutModifiers_of_quiet_append front behind
    have twice : trim ('@' :: body) = '@' :: body := by rw [← trimmed, trim_trim]
    cases others with
    | nil =>
      have parts := flatten_cutModifiers (Nesting.outside.run body) tail
      rw [alone, List.flatten_singleton] at parts
      exact .segment blank twice front (absurd rfl) (parts ▸ .blank closing)
    | cons following others =>
      obtain ⟨-, -, -, -, closed, -⟩ := exists_of_cutModifiers behind
      rw [Nesting.run_append_blank body closing] at closed
      rw [closed] at alone
      exact .segment blank twice front (fun _ => closed) (ih alone closing)

/-- A segment of a row starts with an `@`. -/
theorem Row.exists_of_mem {text segment : List Char} {pieces : List (List Char)}
    (row : Row text pieces) (member : segment ∈ pieces) :
    ∃ body, segment = '@' :: body ∧ trim segment = segment := by
  induction row with
  | blank => nomatch member
  | segment _ trimmed _ _ _ ih =>
    rcases List.mem_cons.mp member with rfl | later
    · exact ⟨_, rfl, trimmed⟩
    · exact ih later

/-- The segments of a row are found. -/
theorem Row.segments {text : List Char} {pieces : List (List Char)} (row : Row text pieces) :
    segments text = pieces := by
  obtain ⟨gap, others, cut, blank, same⟩ := row.cutModifiers
  have kept : pieces.filter (· ≠ []) = pieces := List.filter_eq_self.mpr fun piece member => by
    obtain ⟨body, rfl, -⟩ := row.exists_of_mem member
    rfl
  rw [CrudScaffold.segments, cut, List.map_cons, same, trim_eq_nil_iff.mpr blank]
  exact kept

/-- The first segment of a stray text does not start with an `@`. -/
theorem Stray.segments {text : List Char} (stray : Stray text) :
    ∃ c rest others, segments text = (c :: rest) :: others ∧ c ≠ '@' := by
  obtain ⟨gap, c, rest, rfl, blank, solid, other⟩ := stray
  have quiet : Nesting.outside.quiet (gap ++ [c]) = true :=
    Nesting.quiet_of_not_at fun member => by
      rcases List.mem_append.mp member with front | here
      · exact not_at_of_isBlankText blank front
      · exact other (List.mem_singleton.mp here).symm
  cases behind : CrudScaffold.cutModifiers (Nesting.outside.run (gap ++ [c])) rest with
  | nil => exact absurd behind (cutModifiers_ne_nil _ _)
  | cons piece others =>
    have cut := cutModifiers_quiet_append quiet behind
    rw [← List.append_cons, ← List.append_cons] at cut
    obtain ⟨kept, same⟩ : ∃ kept, trim (gap ++ c :: piece) = c :: kept := by
      have start : trimStart (c :: piece) = c :: piece :=
        List.dropWhile_cons_of_neg (by simp [solid])
      rw [trim_blank_append blank, trim, start, trimEnd]
      split
      · exact ⟨[], by rw [solid]; rfl⟩
      · exact ⟨_, rfl⟩
    refine ⟨c, kept, (others.map trim).filter (· ≠ []), ?_, other⟩
    rw [CrudScaffold.segments, cut, List.map_cons, same]
    rfl

/-- Every text is a row of segments or stray. -/
theorem row_or_stray (text : List Char) : (∃ pieces, Row text pieces) ∨ Stray text := by
  have gap : isBlankText (text.takeWhile isBlank) := by simp [isBlankText, List.all_takeWhile]
  have whole := List.takeWhile_append_dropWhile (p := isBlank) (l := text)
  cases rest : text.dropWhile isBlank with
  | nil =>
    rw [rest, List.append_nil] at whole
    exact .inl ⟨[], .blank (whole ▸ gap)⟩
  | cons c rest' =>
    have solid : isBlank c = false := by
      have head := List.head?_dropWhile_not isBlank text
      simpa [rest] using head
    rw [rest] at whole
    by_cases at_sign : c = '@'
    · subst at_sign
      cases behind : cutModifiers .outside rest' with
      | nil => exact absurd behind (cutModifiers_ne_nil _ _)
      | cons piece others =>
        have start := cutModifiers_at behind
        rw [← Nesting.run_of_isBlankText gap] at start
        have cut := cutModifiers_quiet_append
          (Nesting.quiet_of_not_at (not_at_of_isBlankText gap)) start
        rw [whole, List.append_nil] at cut
        exact .inl ⟨_, Row.of_cutModifiers cut gap⟩
    · exact .inr ⟨_, c, rest', whole.symm, gap, solid, at_sign⟩

end CrudScaffold
