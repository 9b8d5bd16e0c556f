import CrudScaffold.Proofs.Definition.Content
import CrudScaffold.Proofs.Definition.Row

/-!
# Segments joined again

Cutting a row of modifiers and trimming the pieces loses nothing but blanks (`spreadOut_segments`).
A row is only ever cut where nothing is open, so a row that closes what it opens is cut apart from a
modifier behind it (`segments_append`), and segments that are joined again are cut where they were
joined (`segments_intercalate`). Trimming does not interfere: a blank neither opens nor closes
anything, so a trimmed piece leaves open what the whole one does, inside quotes as well.
-/

namespace CrudScaffold

open Text

/-! ### What is lost -/

/-- A text that is pieces in their order, with nothing but blanks before, between and after them. -/
inductive SpreadOut : List (List Char) → List Char → Prop
  | nil {gap : List Char} (blank : isBlankText gap) : SpreadOut [] gap
  | cons {gap piece rest : List Char} {pieces : List (List Char)} (blank : isBlankText gap)
      (others : SpreadOut pieces rest) : SpreadOut (piece :: pieces) (gap ++ (piece ++ rest))

/-- Blanks in front do not matter. -/
theorem SpreadOut.blank_append {gap text : List Char} {pieces : List (List Char)}
    (blank : isBlankText gap) (spread : SpreadOut pieces text) : SpreadOut pieces (gap ++ text) := by
  cases spread with
  | @nil other behind => exact .nil (by rw [isBlankText_append, blank, behind]; rfl)
  | @cons other piece rest pieces behind others =>
    have both : isBlankText (gap ++ other) := by rw [isBlankText_append, blank, behind]; rfl
    rw [← List.append_assoc]
    exact .cons both others

/-- The lines of a list that are not blank, trimmed, are spread out in all of them together. -/
theorem spreadOut_solidLines (lines : List (List Char)) :
    SpreadOut (solidLines lines) lines.flatten := by
  induction lines with
  | nil => exact .nil rfl
  | cons line lines ih =>
    rw [List.flatten_cons, solidLines_cons, solidLines_singleton]
    by_cases blank : trim line = []
    · rw [if_pos blank]
      exact ih.blank_append (trim_eq_nil_iff.mp blank)
    · obtain ⟨before, after, parts, first, second⟩ := exists_trim line
      have whole : line ++ lines.flatten =
          before ++ (trim line ++ (after ++ lines.flatten)) := by
        conv_lhs => rw [parts]
        simp only [List.append_assoc]
      rw [if_neg blank, whole]
      exact .cons first (ih.blank_append second)

/-- The segments of a row are its pieces that are not blank, trimmed. -/
theorem segments_eq (row : List Char) : segments row = solidLines (cutModifiers .outside row) := rfl

/-- A row is its segments, with nothing but blanks before, between and after them. -/
theorem spreadOut_segments (row : List Char) : SpreadOut (segments row) row := by
  have spread := spreadOut_solidLines (cutModifiers .outside row)
  rwa [flatten_cutModifiers] at spread

/-- A segment is a trimmed text that is not empty. -/
theorem solid_of_mem_segments {row segment : List Char} (member : segment ∈ segments row) :
    segment ≠ [] ∧ trim segment = segment := by
  obtain ⟨cut, some⟩ := List.mem_filter.mp member
  obtain ⟨piece, -, rfl⟩ := List.mem_map.mp cut
  exact ⟨by simpa using some, trim_trim piece⟩

/-! ### Rows behind each other -/

/-- A text is cut by itself if what follows starts a modifier. -/
theorem cutModifiers_append {place : Nesting} {front back : List Char} {pieces : List (List Char)}
    (cut : cutModifiers (place.run front) back = [] :: pieces) :
    cutModifiers place (front ++ back) = cutModifiers place front ++ pieces := by
  induction front generalizing place with
  | nil => exact cut
  | cons c front ih =>
    have behind : cutModifiers (place.step c) (front ++ back) =
        cutModifiers (place.step c) front ++ pieces := ih cut
    rw [List.cons_append, cutModifiers, behind, cutModifiers]
    cases first : cutModifiers (place.step c) front with
    | nil => exact absurd first (cutModifiers_ne_nil _ _)
    | cons piece others =>
      dsimp only [List.cons_append]
      split <;> rfl

/-- A row that closes what it opens is cut apart from a modifier behind it. -/
theorem segments_append {front back : List Char} (closed : Nesting.outside.run front = .outside)
    (starts : back.head? = some '@') : segments (front ++ back) = segments front ++ segments back := by
  obtain ⟨rest, rfl⟩ := List.head?_eq_some_iff.mp starts
  cases behind : cutModifiers .outside rest with
  | nil => exact absurd behind (cutModifiers_ne_nil _ _)
  | cons piece others =>
    have cut := cutModifiers_at behind
    have whole : cutModifiers .outside (front ++ '@' :: rest) =
        cutModifiers .outside front ++ ('@' :: piece) :: others :=
      cutModifiers_append (by rw [closed, cut])
    rw [segments_eq, segments_eq, segments_eq, whole, cut, solidLines_append]
    rfl

/-! ### Segments that are joined -/

/-- Blanks in front of a row do not matter. -/
theorem Row.blank_append {gap text : List Char} {pieces : List (List Char)}
    (blank : Text.isBlankText gap) (row : Row text pieces) : Row (gap ++ text) pieces := by
  cases row with
  | @blank other behind => exact .blank (by rw [isBlankText_append, blank, behind]; rfl)
  | @segment other body rest pieces behind trimmed quiet closed others =>
    have both : Text.isBlankText (gap ++ other) := by rw [isBlankText_append, blank, behind]; rfl
    rw [← List.append_assoc]
    exact .segment both trimmed quiet closed others

/-- The segments of a row with blanks between them are a row of the same segments. -/
theorem Row.intercalate {gap text : List Char} {pieces : List (List Char)}
    (blank : Text.isBlankText gap) (row : Row text pieces) :
    Row (gap.intercalate pieces) pieces := by
  induction row with
  | blank => exact .blank rfl
  | @segment other body rest pieces behind trimmed quiet closed others ih =>
    cases pieces with
    | nil =>
      have alone : Row ([] ++ ('@' :: body ++ [])) ['@' :: body] :=
        .segment rfl trimmed quiet closed (.blank rfl)
      rw [List.intercalate_singleton]
      rwa [List.nil_append, List.append_nil] at alone
    | cons next pieces =>
      have whole : Row ([] ++ ('@' :: body ++ (gap ++ gap.intercalate (next :: pieces)))) _ :=
        .segment rfl trimmed quiet closed (ih.blank_append blank)
      rwa [List.nil_append, ← List.append_assoc, ← List.intercalate_cons_cons] at whole

/-- The segments of a row with segments start, joined, with an `@`. -/
theorem Row.head?_intercalate {text : List Char} {pieces : List (List Char)} (row : Row text pieces)
    (proper : pieces ≠ []) (gap : List Char) : (gap.intercalate pieces).head? = some '@' := by
  cases row with
  | blank => exact absurd rfl proper
  | @segment other body rest pieces =>
    cases pieces with
    | nil => rw [List.intercalate_singleton]; rfl
    | cons next pieces => rw [List.intercalate_cons_cons]; rfl

/-- A text in which no modifier starts is at most one segment. -/
theorem segments_of_quiet {text : List Char} (quiet : Nesting.outside.quiet text = true) :
    segments text = solidLines [text] := by
  rw [segments_eq, cutModifiers_quiet quiet]

/-- A row is a text in which no modifier starts and a row of segments. There are segments behind the
text only if it leaves nothing open. -/
theorem exists_front (row : List Char) : ∃ front rest pieces, row = front ++ rest ∧
    Nesting.outside.quiet front = true ∧ Row rest pieces ∧
    segments row = solidLines [front] ++ pieces ∧
    (pieces ≠ [] → Nesting.outside.run front = .outside) := by
  cases cut : cutModifiers .outside row with
  | nil => exact absurd cut (cutModifiers_ne_nil _ _)
  | cons front others =>
    have quiet := (quiet_of_cutModifiers cut).1
    cases others with
    | nil =>
      have whole := flatten_cutModifiers .outside row
      rw [cut, List.flatten_singleton] at whole
      refine ⟨front, [], [], ?_, quiet, .blank rfl, ?_, fun proper => absurd rfl proper⟩
      · rw [List.append_nil, whole]
      · rw [List.append_nil, segments_eq, cut]
    | cons next others =>
      obtain ⟨body, rest, -, rfl, closed, behind⟩ := exists_of_cutModifiers cut
      have pieces := Row.of_cutModifiers (cutModifiers_at behind) rfl
      refine ⟨front, '@' :: rest, _, rfl, quiet, pieces, ?_, fun _ => closed⟩
      rw [segments_append closed rfl, segments_of_quiet quiet, pieces.segments]

/-- Trimming takes no character that opens or closes something. -/
theorem Nesting.run_trim (text : List Char) : outside.run (trim text) = outside.run text := by
  obtain ⟨before, after, parts, first, second⟩ := exists_trim text
  conv_rhs => rw [parts, run_append_blank _ second, run_append, run_of_isBlankText first]

/-- Nor does it take one that starts a modifier. -/
theorem Nesting.quiet_trim {text : List Char} (quiet : outside.quiet text = true) :
    outside.quiet (trim text) = true := by
  obtain ⟨before, after, parts, first, -⟩ := exists_trim text
  rw [parts, quiet_append, quiet_append, run_of_isBlankText first, Bool.and_eq_true,
    Bool.and_eq_true] at quiet
  exact quiet.1.2

/-- Segments with the same blanks between them are the segments of what they make. -/
theorem segments_intercalate {gap : List Char} (blank : isBlankText gap) (row : List Char) :
    segments (gap.intercalate (segments row)) = segments row := by
  obtain ⟨front, rest, pieces, -, quiet, others, same, closed⟩ := exists_front row
  have joined := (others.intercalate blank).segments
  rw [same, solidLines_singleton]
  by_cases none : trim front = []
  · rw [if_pos none, List.nil_append, joined]
  · rw [if_neg none, List.singleton_append]
    cases pieces with
    | nil =>
      rw [List.intercalate_singleton, segments_of_quiet (Nesting.quiet_trim quiet),
        solidLines_singleton, trim_trim, if_neg none]
    | cons piece pieces =>
      -- What stands in front closes what it opens, and so do the blanks behind it.
      have outside : Nesting.outside.run (trim front ++ gap) = .outside := by
        rw [Nesting.run_append_blank _ blank, Nesting.run_trim, closed (List.cons_ne_nil _ _)]
      have calm : Nesting.outside.quiet (trim front ++ gap) = true := by
        rw [Nesting.quiet_append, Nesting.quiet_trim quiet,
          Nesting.quiet_of_not_at (not_at_of_isBlankText blank)]
        rfl
      have spaced : segments (trim front ++ gap) = [trim front] := by
        rw [segments_of_quiet calm, solidLines_singleton, trim_append_blank blank, trim_trim,
          if_neg none]
      have starts := others.head?_intercalate (List.cons_ne_nil _ _) gap
      rw [List.intercalate_cons_cons, segments_append outside starts, spaced, joined]
      rfl

/-- Every segment but the first starts with an `@`. -/
theorem head?_of_mem_tail_segments {row segment : List Char}
    (member : segment ∈ (segments row).tail) : segment.head? = some '@' := by
  obtain ⟨front, rest, pieces, -, -, others, same, -⟩ := exists_front row
  have later : segment ∈ pieces := by
    rw [same, solidLines_singleton] at member
    split at member
    · exact List.mem_of_mem_tail member
    · exact member
  obtain ⟨body, rfl, -⟩ := others.exists_of_mem later
  rfl

/-- A row is its segments, with nothing but blanks before, between and after them. The segments are
not empty and trimmed, and all but the first start with an `@`. Joined, directly or with blanks
between them, they are cut into themselves again. A row that closes what it opens is cut apart from
a modifier behind it. -/
theorem segments_lossless (row : List Char) :
    SpreadOut (segments row) row ∧
    (∀ segment ∈ segments row, segment ≠ [] ∧ trim segment = segment) ∧
    (∀ segment ∈ (segments row).tail, segment.head? = some '@') ∧
    (∀ gap, isBlankText gap → segments (gap.intercalate (segments row)) = segments row) ∧
    ∀ back, Nesting.outside.run row = .outside → back.head? = some '@' →
      segments (row ++ back) = segments row ++ segments back :=
  ⟨spreadOut_segments row, fun _ => solid_of_mem_segments, fun _ => head?_of_mem_tail_segments,
    fun _ blank => segments_intercalate blank row, fun _ closed starts =>
      segments_append closed starts⟩

/-- Text in front of the first modifier is a segment too, and an `@` and a parenthesis in quotes are
part of theirs. -/
theorem segments_lossless_quoted :
    "note".toList ∈ segments "note @default(\"@(\") ".toList ∧
    "@default(\"@(\")".toList ∈ (segments "note @default(\"@(\") ".toList).tail ∧
    isBlankText [' '] ∧
    Nesting.outside.run "note @default(\"@(\") ".toList = .outside ∧
    "@unique@id".toList.head? = some '@' ∧
    segments ([' '].intercalate (segments "note @default(\"@(\") ".toList)) =
      ["note".toList, "@default(\"@(\")".toList] ∧
    segments ("note @default(\"@(\") ".toList ++ "@unique@id".toList) =
      ["note".toList, "@default(\"@(\")".toList, "@unique".toList, "@id".toList] := by
  have cut : segments "note @default(\"@(\") ".toList =
      ["note".toList, "@default(\"@(\")".toList] := by decide
  obtain ⟨-, -, -, joined, behind⟩ := segments_lossless "note @default(\"@(\") ".toList
  refine ⟨by decide, by decide, rfl, rfl, rfl, ?_, ?_⟩
  · rw [joined [' '] rfl, cut]
  · rw [behind "@unique@id".toList rfl rfl, cut]
    decide

end CrudScaffold
