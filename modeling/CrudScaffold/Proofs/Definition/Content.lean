import CrudScaffold.Definition.FieldList
import CrudScaffold.Proofs.Text.Trim

/-!
# The lines of a block that are not blank

A block matters only through its content: its trimmed lines without the blank ones. Content is cut
at every line break (`contentLines_append_break`), and since blank lines are dropped, a carriage
return with its line feed needs no case of its own. Blanks at the ends of a block do not change its
content, and a block without content is blank.
-/

namespace CrudScaffold

open Text

/-- The trimmed lines of a list that are not blank. -/
def solidLines (lines : List (List Char)) : List (List Char) := (lines.map trim).filter (· ≠ [])

/-- A line that is not blank counts once, and a blank one not at all. -/
theorem solidLines_cons (line : List Char) (lines : List (List Char)) :
    solidLines (line :: lines) = solidLines [line] ++ solidLines lines := by
  by_cases blank : trim line = [] <;> simp [solidLines, blank]

/-- A line is dropped if it is blank, and trimmed if it is not. -/
theorem solidLines_singleton (line : List Char) :
    solidLines [line] = if trim line = [] then [] else [trim line] := by
  by_cases blank : trim line = [] <;> simp [solidLines, blank]

/-- Lines behind each other leave what each of them leaves. -/
theorem solidLines_append (front back : List (List Char)) :
    solidLines (front ++ back) = solidLines front ++ solidLines back := by
  rw [solidLines, List.map_append, List.filter_append, solidLines, solidLines]

/-- The lines of a text and its pieces between line breaks start alike and have the same content. -/
theorem splitLines_alike (text : List Char) (some : text ≠ []) :
    ∃ line lines pieces, splitLines text = line :: lines ∧
      text.splitOnP isLineBreak = line :: pieces ∧ solidLines lines = solidLines pieces := by
  fun_induction splitLines text with
  | case1 => exact absurd rfl some
  | case2 rest ih =>
    refine ⟨[], splitLines rest, [] :: rest.splitOnP isLineBreak, rfl, ?_, ?_⟩
    · rw [List.splitOnP_cons_eq_if_modifyHead, if_pos (by decide),
        List.splitOnP_cons_eq_if_modifyHead, if_pos (by decide)]
    · rw [solidLines_cons]
      cases rest with
      | nil => rfl
      | cons c rest =>
        obtain ⟨line, lines, pieces, first, second, same⟩ := ih (by simp)
        rw [first, second, solidLines_cons, same, ← solidLines_cons]
        rfl
  | case3 c rest _ ends ih =>
    refine ⟨[], splitLines rest, rest.splitOnP isLineBreak, rfl, ?_, ?_⟩
    · rw [List.splitOnP_cons_eq_if_modifyHead, if_pos ends]
    · cases rest with
      | nil => rfl
      | cons d rest =>
        obtain ⟨line, lines, pieces, first, second, same⟩ := ih (by simp)
        rw [first, second, solidLines_cons, same, ← solidLines_cons]
  | case4 c rest _ ends none ih =>
    cases rest with
    | nil =>
      refine ⟨[c], [], [], rfl, ?_, rfl⟩
      rw [List.splitOnP_cons_eq_if_modifyHead, if_neg ends]
      rfl
    | cons d rest =>
      obtain ⟨line, lines, pieces, first, -⟩ := ih (by simp)
      rw [none] at first
      contradiction
  | case5 c rest _ ends line lines found ih =>
    cases rest with
    | nil => contradiction
    | cons d rest =>
      obtain ⟨line', lines', pieces, first, second, same⟩ := ih (by simp)
      rw [found] at first
      obtain ⟨rfl, rfl⟩ := List.cons.inj first
      refine ⟨c :: line, lines, pieces, rfl, ?_, same⟩
      rw [List.splitOnP_cons_eq_if_modifyHead, if_neg ends, second]
      rfl

/-- The content of a text by its pieces between line breaks. -/
theorem contentLines_eq_splitOnP (text : List Char) :
    contentLines text = solidLines (text.splitOnP isLineBreak) := by
  cases text with
  | nil => rfl
  | cons c rest =>
    obtain ⟨line, lines, pieces, first, second, same⟩ := splitLines_alike (c :: rest) (by simp)
    change solidLines (splitLines (c :: rest)) = _
    rw [first, second, solidLines_cons, same, ← solidLines_cons]

/-- Content is cut at every line break. -/
theorem contentLines_append_break {c : Char} (ends : isLineBreak c) (left right : List Char) :
    contentLines (left ++ c :: right) = contentLines left ++ contentLines right := by
  simp only [contentLines_eq_splitOnP, List.splitOnP_append_cons left right ends, solidLines,
    List.map_append, List.filter_append]

/-- The content of a text without line breaks is the trimmed text, unless that is empty. -/
theorem contentLines_line {line : List Char} (unbroken : ∀ c ∈ line, isLineBreak c = false) :
    contentLines line = [trim line].filter (· ≠ []) := by
  rw [contentLines_eq_splitOnP, List.splitOnP_eq_singleton unbroken]
  rfl

/-- A text is a line, or a line with a line break and a text behind it. -/
theorem line_induction {motive : List Char → Prop}
    (last : ∀ line, (∀ c ∈ line, isLineBreak c = false) → motive line)
    (next : ∀ line c rest, (∀ d ∈ line, isLineBreak d = false) → isLineBreak c → motive rest →
      motive (line ++ c :: rest)) (text : List Char) : motive text := by
  induction size : text.length using Nat.strongRecOn generalizing text with
  | ind size ih =>
    cases found : text.find? isLineBreak with
    | none => exact last text (by simpa using found)
    | some c =>
      obtain ⟨ends, line, rest, rfl, before⟩ := List.find?_eq_some_iff_append.mp found
      refine next line c rest (fun d member => by simpa using before d member) ends
        (ih rest.length ?_ rest rfl)
      rw [← size, List.length_append, List.length_cons]
      omega

/-- A blank in front does not change the content. -/
theorem contentLines_cons_blank {c : Char} (blank : isBlank c) (text : List Char) :
    contentLines (c :: text) = contentLines text := by
  by_cases ends : isLineBreak c
  · exact contentLines_append_break ends [] text
  · rw [contentLines_eq_splitOnP, contentLines_eq_splitOnP, List.splitOnP_cons_eq_if_modifyHead,
      if_neg ends]
    cases pieces : text.splitOnP isLineBreak with
    | nil => exact absurd pieces (List.splitOnP_ne_nil _ _)
    | cons line lines =>
      have first : solidLines [c :: line] = solidLines [line] := by
        simp only [solidLines, List.map_singleton, trim_cons_blank blank]
      rw [List.modifyHead_cons, solidLines_cons, first, ← solidLines_cons]

/-- A blank at the end does not change the content. -/
theorem contentLines_concat_blank {c : Char} (blank : isBlank c) (text : List Char) :
    contentLines (text ++ [c]) = contentLines text := by
  by_cases ends : isLineBreak c
  · rw [contentLines_append_break ends, show contentLines [] = [] from rfl, List.append_nil]
  · induction text using line_induction with
    | last line unbroken =>
      have whole : ∀ d ∈ line ++ [c], isLineBreak d = false := by
        intro d member
        rcases List.mem_append.mp member with inside | final
        · exact unbroken d inside
        · simpa [List.mem_singleton.mp final] using ends
      rw [contentLines_line whole, contentLines_line unbroken, trim_concat_blank blank]
    | next line d rest unbroken closes ih =>
      rw [List.append_assoc, List.cons_append, contentLines_append_break closes,
        contentLines_append_break closes, ih]

/-- A line has no content exactly when it is blank. -/
theorem contentLines_line_eq_nil_iff {line : List Char}
    (unbroken : ∀ c ∈ line, isLineBreak c = false) :
    contentLines line = [] ↔ isBlankText line := by
  rw [contentLines_line unbroken, ← trim_eq_nil_iff]
  by_cases blank : trim line = [] <;> simp [blank]

/-- A text has no content exactly when it is blank. -/
theorem contentLines_eq_nil_iff {text : List Char} : contentLines text = [] ↔ isBlankText text := by
  induction text using line_induction with
  | last line unbroken => exact contentLines_line_eq_nil_iff unbroken
  | next line c rest unbroken ends ih =>
    rw [contentLines_append_break ends, List.append_eq_nil_iff,
      contentLines_line_eq_nil_iff unbroken, ih]
    simp [isBlankText, isBlank_of_isLineBreak ends]

/-- A line that is its own content: it is not empty, trimmed, and holds no line break. -/
structure SolidLine (line : List Char) : Prop where
  /-- There is something on the line. -/
  some : line ≠ []
  /-- No blank stands at its ends. -/
  trimmed : trim line = line
  /-- It is one line. -/
  unbroken : ∀ c ∈ line, isLineBreak c = false

/-- A search that finds no line break shows that a text is one line. -/
theorem unbroken_of_any {text : List Char} (none : text.any isLineBreak = false) :
    ∀ c ∈ text, isLineBreak c = false := by
  simpa using none

/-- A solid line is its own content. -/
theorem SolidLine.contentLines {line : List Char} (solid : SolidLine line) :
    contentLines line = [line] := by
  rw [contentLines_line solid.unbroken, solid.trimmed]
  simp [solid.some]

/-- The content of a line is a solid line. -/
theorem solidLine_of_mem_line {line whole : List Char}
    (unbroken : ∀ c ∈ whole, isLineBreak c = false) (member : line ∈ contentLines whole) :
    SolidLine line := by
  rw [contentLines_line unbroken, List.mem_filter, List.mem_singleton] at member
  obtain ⟨rfl, some⟩ := member
  exact ⟨by simpa using some, trim_trim whole,
    fun c inside => unbroken c ((trim_isInfix whole).subset inside)⟩

/-- All content is in solid lines. -/
theorem solidLine_of_mem_contentLines {line text : List Char}
    (member : line ∈ contentLines text) : SolidLine line := by
  induction text using line_induction with
  | last whole unbroken => exact solidLine_of_mem_line unbroken member
  | next whole c rest unbroken ends ih =>
    rw [contentLines_append_break ends, List.mem_append] at member
    rcases member with front | back
    · exact solidLine_of_mem_line unbroken front
    · exact ih back

/-- Solid lines with line feeds between them are their own content. -/
theorem contentLines_intercalate {lines : List (List Char)}
    (solid : ∀ line ∈ lines, SolidLine line) :
    contentLines (['\n'].intercalate lines) = lines := by
  induction lines with
  | nil => rfl
  | cons line lines ih =>
    obtain ⟨first, others⟩ := List.forall_mem_cons.mp solid
    cases lines with
    | nil => rw [List.intercalate_singleton, first.contentLines]
    | cons next lines =>
      rw [List.intercalate_cons_cons, List.append_assoc, List.singleton_append,
        contentLines_append_break (by decide), first.contentLines, ih others,
        List.singleton_append]

end CrudScaffold
