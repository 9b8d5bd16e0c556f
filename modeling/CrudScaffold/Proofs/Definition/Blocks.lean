import CrudScaffold.Proofs.Definition.Content

/-!
# The content of the blocks of a document

A document matters only through the content of its blocks. `blockContents` reads it from left to
right: the characters of the block that is open are pending, and a line feed behind which only
blanks stand up to the next line feed closes the block. Three equations say how it goes on, and
everything else follows from them: a separator ends a block whatever stands around it
(`blockContents_append_separator`), a text without a separator inside is one block
(`blockContents_unbroken`), and carriage returns before line feeds do not matter
(`blockContents_joinReturns`).
-/

namespace CrudScaffold

open Text

/-- A blank text with two line feeds, which divides a document into blocks. -/
def IsSeparator (gap : List Char) : Prop := isBlankText gap ∧ 2 ≤ gap.count '\n'

/-- No two characters of a text that are not blank have a separator between them. -/
def Unbroken (text : List Char) : Prop :=
  ∀ before c gap d after, text = before ++ c :: gap ++ d :: after →
    isBlank c = false → isBlank d = false → ¬IsSeparator gap

/-- The content of a list of blocks, without the blocks that have none. -/
def solidBlocks (blocks : List (List Char)) : List (List (List Char)) :=
  (blocks.map contentLines).filter (· ≠ [])

/-- The contents of the blocks of a text, where the characters of the open block are pending. -/
def blockContents (pending text : List Char) : List (List (List Char)) :=
  solidBlocks (pending.foldr consBlock (blocksFrom false text))

/-- A block counts by its content. -/
theorem solidBlocks_cons (block : List Char) (blocks : List (List Char)) :
    solidBlocks (block :: blocks) = [contentLines block].filter (· ≠ []) ++ solidBlocks blocks := by
  by_cases blank : contentLines block = [] <;> simp [solidBlocks, blank]

/-- A blank put in front of the first block does not change the contents. -/
theorem solidBlocks_consBlock {c : Char} (blank : isBlank c) (blocks : List (List Char)) :
    solidBlocks (consBlock c blocks) = solidBlocks blocks := by
  cases blocks with
  | nil =>
    rw [consBlock, solidBlocks_cons, contentLines_cons_blank blank]
    rfl
  | cons block blocks =>
    rw [consBlock, solidBlocks_cons, solidBlocks_cons, contentLines_cons_blank blank]

/-- Pending characters stand in front of the first block. -/
theorem foldr_consBlock (pending block : List Char) (blocks : List (List Char)) :
    pending.foldr consBlock (block :: blocks) = (pending ++ block) :: blocks := by
  induction pending with
  | nil => rfl
  | cons c pending ih => rw [List.foldr_cons, ih, consBlock, List.cons_append]

/-- Whether a line feed stands among the blanks ahead, one character at a time. -/
theorem newlineAhead_cons (c : Char) (text : List Char) :
    newlineAhead (c :: text) = (isBlank c && (c == '\n' || newlineAhead text)) := by
  cases blank : isBlank c with
  | true =>
    rw [newlineAhead, List.takeWhile_cons_of_pos blank, List.contains_cons, newlineAhead,
      Bool.true_and, BEq.comm]
  | false =>
    rw [newlineAhead, List.takeWhile_cons_of_neg (by simp [blank])]
    rfl

/-- What follows a text that is not blank does not matter for the blanks at its start. -/
theorem newlineAhead_append {text : List Char} (solid : isBlankText text = false)
    (rest : List Char) : newlineAhead (text ++ rest) = newlineAhead text := by
  induction text with
  | nil => contradiction
  | cons c text ih =>
    rw [List.cons_append, newlineAhead_cons, newlineAhead_cons]
    cases blank : isBlank c with
    | true => rw [ih (by simpa [blank] using solid)]
    | false => rw [Bool.false_and, Bool.false_and]

/-- A line feed among blanks is ahead, whatever follows them. -/
theorem newlineAhead_of_mem {gap : List Char} (blank : isBlankText gap) (member : '\n' ∈ gap)
    (rest : List Char) : newlineAhead (gap ++ rest) = true := by
  rw [newlineAhead, List.takeWhile_append_of_pos (by simpa [isBlankText] using blank)]
  simp [member]

/-- In a separator that goes on, nothing counts before the line feed that ends it. A blank in front
of a text can therefore be left out; `skipped` is the first statement for the text itself. -/
theorem solidBlocks_cons_blank_of {c : Char} (blank : isBlank c) (text : List Char)
    (skipped : newlineAhead text = true →
      solidBlocks (blocksFrom true text) = solidBlocks (blocksFrom false text)) :
    solidBlocks (blocksFrom false (c :: text)) = solidBlocks (blocksFrom false text) := by
  by_cases closes : c = '\n' ∧ newlineAhead text = true
  · rw [blocksFrom, if_pos (by simpa using closes), solidBlocks_cons, ← skipped closes.2]
    rfl
  · rw [blocksFrom, if_neg (by simpa using closes), solidBlocks_consBlock blank]

/-- Inside a separator the reader finds the same contents as behind it. -/
theorem solidBlocks_skipping (text : List Char) (ahead : newlineAhead text = true) :
    solidBlocks (blocksFrom true text) = solidBlocks (blocksFrom false text) := by
  induction text with
  | nil => contradiction
  | cons c text ih =>
    rw [newlineAhead_cons, Bool.and_eq_true] at ahead
    rw [blocksFrom, solidBlocks_cons_blank_of ahead.1 text ih]
    cases further : newlineAhead text with
    | true => exact ih further
    | false => rfl

/-- At the end of a text the open block is the last one. -/
theorem blockContents_nil (pending : List Char) :
    blockContents pending [] = [contentLines pending].filter (· ≠ []) := by
  rw [blockContents, blocksFrom, foldr_consBlock, List.append_nil, solidBlocks_cons]
  exact List.append_nil _

/-- A line feed with another one ahead closes the open block. -/
theorem blockContents_close (pending : List Char) {text : List Char}
    (ahead : newlineAhead text = true) :
    blockContents pending ('\n' :: text) = blockContents pending [] ++ blockContents [] text := by
  rw [blockContents, blocksFrom, if_pos (by simpa using ahead), foldr_consBlock, List.append_nil,
    solidBlocks_cons, solidBlocks_skipping text ahead, blockContents_nil]
  rfl

/-- Every other character is pending. -/
theorem blockContents_cons (pending : List Char) {c : Char} {text : List Char}
    (open_ : ¬(c = '\n' ∧ newlineAhead text = true)) :
    blockContents pending (c :: text) = blockContents (pending ++ [c]) text := by
  rw [blockContents, blocksFrom, if_neg (by simpa using open_), blockContents, List.foldr_append]
  rfl

/-- A pending text that is blank at its end has the content of what stands before. -/
theorem blockContents_concat_blank {c : Char} (blank : isBlank c) (pending : List Char) :
    blockContents (pending ++ [c]) [] = blockContents pending [] := by
  rw [blockContents_nil, blockContents_nil, contentLines_concat_blank blank]

/-- Blanks at the start of a document do not matter. -/
theorem blockContents_blank_append {gap : List Char} (blank : isBlankText gap)
    (text : List Char) : blockContents [] (gap ++ text) = blockContents [] text := by
  induction gap with
  | nil => rfl
  | cons c gap ih =>
    obtain ⟨first, others⟩ : isBlank c ∧ isBlankText gap := by simpa using blank
    rw [← ih others]
    exact solidBlocks_cons_blank_of first _ (solidBlocks_skipping _)

/-- Blanks at the end of a document do not matter. -/
theorem blockContents_blank {gap : List Char} (blank : isBlankText gap) (pending : List Char) :
    blockContents pending gap = blockContents pending [] := by
  induction gap generalizing pending with
  | nil => rfl
  | cons c gap ih =>
    obtain ⟨first, others⟩ : isBlank c ∧ isBlankText gap := by simpa using blank
    by_cases closes : c = '\n' ∧ newlineAhead gap = true
    · rw [closes.1, blockContents_close pending closes.2, ih others]
      exact List.append_nil _
    · rw [blockContents_cons pending closes, ih others, blockContents_concat_blank first]

/-- A separator closes the open block. -/
theorem blockContents_separator {gap : List Char} (separator : IsSeparator gap)
    (pending text : List Char) :
    blockContents pending (gap ++ text) = blockContents pending [] ++ blockContents [] text := by
  induction gap generalizing pending with
  | nil => exact absurd separator.2 (by simp)
  | cons c gap ih =>
    obtain ⟨blank, breaks⟩ := separator
    obtain ⟨first, others⟩ : isBlank c ∧ isBlankText gap := by simpa using blank
    by_cases feed : c = '\n'
    · subst feed
      rw [List.count_cons_self] at breaks
      have ahead := newlineAhead_of_mem others (List.count_pos_iff.mp (by omega)) text
      rw [List.cons_append, blockContents_close pending ahead, blockContents_blank_append others]
    · rw [List.count_cons_of_ne (by simpa using feed)] at breaks
      rw [List.cons_append, blockContents_cons pending (fun closes => feed closes.1),
        ih ⟨others, breaks⟩, blockContents_concat_blank first]

/-- A separator divides a document, whatever blanks stand before and behind it. -/
theorem blockContents_append_separator {gap : List Char} (separator : IsSeparator gap)
    (pending left right : List Char) :
    blockContents pending (left ++ gap ++ right) =
      blockContents pending left ++ blockContents [] right := by
  induction left generalizing pending with
  | nil => exact blockContents_separator separator pending right
  | cons c left ih =>
    by_cases blank : isBlankText (c :: left)
    · have whole : IsSeparator (c :: left ++ gap) :=
        ⟨by rw [isBlankText_append, blank, separator.1]; rfl,
          by rw [List.count_append]; have := separator.2; omega⟩
      rw [blockContents_separator whole, blockContents_blank blank]
    · -- The blanks behind a line feed of `left` end within `left`, so both sides see the same ones.
      have same : c = '\n' → newlineAhead (left ++ gap ++ right) = newlineAhead left := by
        rintro rfl
        rw [List.append_assoc]
        exact newlineAhead_append (by simpa [show isBlank '\n' = true by decide] using blank) _
      by_cases closes : c = '\n' ∧ newlineAhead left = true
      · obtain ⟨rfl, ahead⟩ := closes
        rw [List.cons_append, List.cons_append,
          blockContents_close pending (by rw [same rfl, ahead]),
          blockContents_close pending ahead, ih, List.append_assoc]
      · have further : ¬(c = '\n' ∧ newlineAhead (left ++ gap ++ right) = true) :=
          fun both => closes ⟨both.1, same both.1 ▸ both.2⟩
        rw [List.cons_append, List.cons_append, blockContents_cons pending further,
          blockContents_cons pending closes, ih]

/-- A text that is not blank has a last character that is not. -/
theorem exists_last_solid {text : List Char} (solid : isBlankText text = false) :
    ∃ before c gap, text = before ++ c :: gap ∧ isBlank c = false ∧ isBlankText gap := by
  induction text with
  | nil => contradiction
  | cons c text ih =>
    cases blank : isBlankText text with
    | true => exact ⟨[], c, text, rfl, by simpa [blank] using solid, blank⟩
    | false =>
      obtain ⟨before, d, gap, rfl, last, rest⟩ := ih blank
      exact ⟨c :: before, d, gap, rfl, last, rest⟩

/-- In an unbroken text, two line feeds with only blanks between them have nothing but blanks on one
side. -/
theorem isBlankText_of_unbroken {before text : List Char}
    (unbroken : Unbroken (before ++ '\n' :: text)) (solid : isBlankText before = false)
    (ahead : newlineAhead text = true) : isBlankText text := by
  have gapBlank : isBlankText (text.takeWhile isBlank) := by
    simp [isBlankText, List.all_takeWhile]
  have parts := List.takeWhile_append_dropWhile (p := isBlank) (l := text)
  cases rest : text.dropWhile isBlank with
  | nil =>
    rw [rest, List.append_nil] at parts
    exact parts ▸ gapBlank
  | cons e after =>
    obtain ⟨front, d, gap, rfl, last, tail⟩ := exists_last_solid solid
    have next : isBlank e = false := by simpa [rest] using List.head?_dropWhile_not isBlank text
    refine absurd ⟨?_, ?_⟩ (unbroken front d (gap ++ '\n' :: text.takeWhile isBlank) e after
      (by rw [← rest]; simp) last next)
    · rw [isBlankText_append, isBlankText_cons, tail, gapBlank]
      decide
    · have feed : 0 < (text.takeWhile isBlank).count '\n' :=
        List.count_pos_iff.mpr (by simpa [newlineAhead] using ahead)
      rw [List.count_append, List.count_cons_self]
      omega

/-- A text without a separator between its characters is one block. -/
theorem blockContents_unbroken {pending text : List Char} (unbroken : Unbroken (pending ++ text)) :
    blockContents pending text = blockContents (pending ++ text) [] := by
  induction text generalizing pending with
  | nil => rw [List.append_nil]
  | cons c text ih =>
    by_cases closes : c = '\n' ∧ newlineAhead text = true
    · obtain ⟨rfl, ahead⟩ := closes
      have whole : blockContents (pending ++ '\n' :: text) [] =
          [contentLines pending ++ contentLines text].filter (· ≠ []) := by
        rw [blockContents_nil, contentLines_append_break (by decide)]
      rw [whole, blockContents_close pending ahead, blockContents_nil]
      cases solid : isBlankText pending with
      | true =>
        have inner : Unbroken ([] ++ text) := fun before d gap e after same =>
          unbroken (pending ++ '\n' :: before) d gap e after (by simp_all)
        rw [contentLines_eq_nil_iff.mpr solid, ih inner, blockContents_nil]
        rfl
      | false =>
        have blank := isBlankText_of_unbroken unbroken solid ahead
        rw [contentLines_eq_nil_iff.mpr blank, List.append_nil, blockContents_blank blank,
          blockContents_nil]
        exact List.append_nil _
    · rw [blockContents_cons pending closes, ih (by simpa using unbroken), List.append_assoc,
        List.singleton_append]

/-- The open block of a text that has ended counts exactly when it is not blank. -/
theorem blockContents_nil_eq_nil_iff (pending : List Char) :
    blockContents pending [] = [] ↔ isBlankText pending := by
  rw [blockContents_nil, ← contentLines_eq_nil_iff]
  by_cases none : contentLines pending = [] <;> simp [none]

/-- A document without contents is blank. -/
theorem blockContents_eq_nil_iff (pending text : List Char) :
    blockContents pending text = [] ↔ isBlankText (pending ++ text) := by
  induction text generalizing pending with
  | nil => rw [blockContents_nil_eq_nil_iff, List.append_nil]
  | cons c text ih =>
    by_cases closes : c = '\n' ∧ newlineAhead text = true
    · obtain ⟨rfl, ahead⟩ := closes
      rw [blockContents_close pending ahead, List.append_eq_nil_iff, blockContents_nil_eq_nil_iff,
        ih []]
      simp [show isBlank '\n' = true by decide]
    · rw [blockContents_cons pending closes, ih (pending ++ [c]), List.append_assoc,
        List.singleton_append]

/-- Carriage returns before line feeds do not matter for the blanks at the start of a text. -/
theorem newlineAhead_joinReturns (text : List Char) :
    newlineAhead (joinReturns text) = newlineAhead text := by
  fun_induction joinReturns text with
  | case1 => rfl
  | case2 rest ih => simp [newlineAhead_cons, show isBlank '\n' = true by decide,
      show isBlank '\r' = true by decide]
  | case3 c rest _ ih => rw [newlineAhead_cons, newlineAhead_cons, ih]

/-- Two beginnings of a block that mean the same whatever follows them. -/
def Alike (left right : List Char) : Prop :=
  ∀ rest, contentLines (left ++ rest) = contentLines (right ++ rest)

/-- Beginnings that mean the same have the same content. -/
theorem Alike.contents {left right : List Char} (alike : Alike left right) :
    blockContents left [] = blockContents right [] := by
  rw [blockContents_nil, blockContents_nil, ← List.append_nil left, alike, List.append_nil]

/-- Beginnings that mean the same do so with one more character. -/
theorem Alike.concat {left right : List Char} (alike : Alike left right) (c : Char) :
    Alike (left ++ [c]) (right ++ [c]) := by
  intro rest
  rw [List.append_assoc, alike, List.append_assoc]

/-- Beginnings that mean the same do so with a line feed behind one and a carriage return and a line
feed behind the other. -/
theorem Alike.feed {left right : List Char} (alike : Alike left right) :
    Alike (left ++ ['\n']) (right ++ ['\r'] ++ ['\n']) := by
  intro rest
  rw [List.append_assoc, alike, List.append_assoc, List.append_assoc, List.singleton_append,
    List.singleton_append, contentLines_append_break (by decide),
    contentLines_append_break (by decide), contentLines_cons_blank (by decide)]

/-- A text has the same contents with and without carriage returns before line feeds, behind
beginnings that mean the same. -/
theorem blockContents_joinReturns (text : List Char) {joined raw : List Char}
    (alike : Alike joined raw) :
    blockContents joined (joinReturns text) = blockContents raw text := by
  fun_induction joinReturns text generalizing joined raw with
  | case1 => exact alike.contents
  | case2 rest ih =>
    rw [blockContents_cons raw (by simp)]
    cases ahead : newlineAhead rest with
    | true =>
      rw [blockContents_close joined (by rw [newlineAhead_joinReturns, ahead]),
        blockContents_close _ ahead, blockContents_concat_blank (by decide), alike.contents,
        ih (fun _ => rfl)]
    | false =>
      rw [blockContents_cons joined (by simp [newlineAhead_joinReturns, ahead]),
        blockContents_cons _ (by simp [ahead]), ih alike.feed]
  | case3 c rest _ ih =>
    by_cases closes : c = '\n' ∧ newlineAhead rest = true
    · obtain ⟨rfl, ahead⟩ := closes
      rw [blockContents_close joined (by rw [newlineAhead_joinReturns, ahead]),
        blockContents_close raw ahead, alike.contents, ih (fun _ => rfl)]
    · rw [blockContents_cons joined (by rwa [newlineAhead_joinReturns]),
        blockContents_cons raw closes, ih (alike.concat c)]

end CrudScaffold
