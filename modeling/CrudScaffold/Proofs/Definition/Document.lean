import CrudScaffold.Proofs.Definition.Blocks
import CrudScaffold.Proofs.Traversal

/-!
# Documents of several blocks

Reading a document is reading its blocks one after the other. Whatever stands between two blocks is
a separator if it is blank and holds two line feeds, with carriage returns or any other blanks among
them; the blocks themselves hold none between their characters. Every document is laid out in this
way, so the main statement `parseDocument_layOut` covers all of them.
-/

namespace CrudScaffold

open Text

/-- Read the lines of one block, trimmed and without the blank ones. -/
def Entity.ofLines : List (List Char) → Except DefinitionFault Entity
  | [] => .error .empty
  | name :: lines => do
    let fields ← lines.mapM Field.parseChars
    return Entity.ofFields (String.ofList name) fields

/-- A name and lines are read exactly when each line is read as a field. -/
theorem Entity.ofLines_eq_ok_iff {name : List Char} {lines : List (List Char)} {entity : Entity} :
    Entity.ofLines (name :: lines) = .ok entity ↔ ∃ fields,
      lines.mapM Field.parseChars = .ok fields ∧
        Entity.ofFields (String.ofList name) fields = entity := by
  rw [Entity.ofLines]
  cases lines.mapM Field.parseChars with
  | error fault =>
    constructor
    · exact fun refused => nomatch refused
    · exact fun ⟨_, refused, _⟩ => nomatch refused
  | ok fields =>
    constructor
    · exact fun read => ⟨fields, rfl, Except.ok.inj read⟩
    · rintro ⟨others, same, rfl⟩
      rw [Except.ok.inj same]
      rfl

/-- A block is read by its content. -/
theorem Entity.parseBlock_eq (block : List Char) :
    Entity.parseBlock block = Entity.ofLines (contentLines block) := by
  rw [Entity.parseBlock]
  cases contentLines block <;> rfl

/-- Reading the contents of blocks is reading the blocks that are not blank. -/
theorem mapM_solidBlocks (blocks : List (List Char)) :
    (solidBlocks blocks).mapM Entity.ofLines =
      (blocks.filter fun block => !isBlankText block).mapM Entity.parseBlock := by
  have kept : ((fun lines => decide (lines ≠ [])) ∘ contentLines) =
      fun block => !isBlankText block := by
    funext block
    rw [Bool.eq_iff_iff]
    simp [contentLines_eq_nil_iff]
  have read : Entity.ofLines ∘ contentLines = Entity.parseBlock :=
    (funext Entity.parseBlock_eq).symm
  rw [solidBlocks, List.filter_map, List.mapM_map, kept, read]

/-- A document is read by the contents of its blocks. -/
theorem Entity.parseDocument_eq (text : String) :
    Entity.parseDocument text = (blockContents [] text.toList).mapM Entity.ofLines := by
  rw [← blockContents_joinReturns text.toList (fun _ => rfl : Alike [] []), blockContents,
    mapM_solidBlocks]
  rfl

/-- A document written as a first block and further blocks, each behind what divides it from the one
before. -/
def layOut : (first : String) → (later : List (String × String)) → String
  | first, [] => first
  | first, (gap, block) :: later => first ++ gap ++ layOut block later

/-- Two layouts with a separator between them are one. -/
theorem layOut_append (first gap second : String) (early late : List (String × String)) :
    layOut first (early ++ (gap, second) :: late) =
      layOut first early ++ gap ++ layOut second late := by
  induction early generalizing first with
  | nil => rfl
  | cons part early ih =>
    rw [List.cons_append, layOut, layOut, ih]
    simp only [String.append_assoc]

/-- The contents of a laid out document are those of its blocks. -/
theorem blockContents_layOut (first : String) (later : List (String × String))
    (one : Unbroken first.toList)
    (more : ∀ part ∈ later, IsSeparator part.1.toList ∧ Unbroken part.2.toList) :
    blockContents [] (layOut first later).toList =
      solidBlocks ((first :: later.map Prod.snd).map String.toList) := by
  induction later generalizing first with
  | nil =>
    rw [layOut, blockContents_unbroken one, blockContents_nil, List.map_nil, List.map_singleton,
      solidBlocks_cons]
    exact (List.append_nil _).symm
  | cons part later ih =>
    obtain ⟨separator, next⟩ := more part List.mem_cons_self
    have rest := ih part.2 next fun other member => more other (List.mem_cons_of_mem _ member)
    rw [layOut, String.toList_append, String.toList_append,
      blockContents_append_separator separator, rest, blockContents_unbroken one,
      blockContents_nil, ← solidBlocks_cons]
    rfl

/-- A text of at most one line feed is unbroken. -/
theorem unbroken_of_count_lt {text : List Char} (few : text.count '\n' < 2) : Unbroken text := by
  rintro before c gap d after rfl - - separator
  have breaks := separator.2
  simp only [List.count_append, List.count_cons] at few
  omega

/-- Every text is laid out in unbroken blocks with separators between them. -/
theorem exists_layOut (text : String) :
    ∃ first later, text = layOut first later ∧ Unbroken first.toList ∧
      ∀ part ∈ later, IsSeparator part.1.toList ∧ Unbroken part.2.toList := by
  induction size : text.length using Nat.strongRecOn generalizing text with
  | ind size ih =>
    by_cases unbroken : Unbroken text.toList
    · exact ⟨text, [], rfl, unbroken, fun _ member => absurd member List.not_mem_nil⟩
    · simp only [Unbroken, not_forall, not_not] at unbroken
      obtain ⟨before, c, gap, d, after, same, -, -, separator⟩ := unbroken
      have whole : text = String.ofList (before ++ [c]) ++ String.ofList gap ++
          String.ofList (d :: after) := by
        rw [← String.toList_inj, same]
        simp
      have sizes := congrArg List.length same
      rw [String.length_toList, size] at sizes
      simp only [List.length_append, List.length_cons] at sizes
      obtain ⟨first, later, left, one, more⟩ :=
        ih (before.length + 1) (by omega) (String.ofList (before ++ [c])) (by simp)
      obtain ⟨first', later', right, one', more'⟩ :=
        ih (after.length + 1) (by omega) (String.ofList (d :: after)) (by simp; omega)
      refine ⟨first, later ++ (String.ofList gap, first') :: later', ?_, one, ?_⟩
      · rw [whole, left, right, layOut_append]
      · intro part member
        rcases List.mem_append.mp member with early | late
        · exact more part early
        · rcases List.mem_cons.mp late with rfl | late
          · exact ⟨by simpa using separator, one'⟩
          · exact more' part late

/-- A modifier is never refused for being empty. -/
theorem Modifier.parse_ne_empty (line segment : List Char) :
    Modifier.parse line segment ≠ .error .empty := by
  unfold Modifier.parse
  dsimp only
  intro refused
  repeat' split at refused
  all_goals nomatch refused

/-- A field line is never refused for being empty. -/
theorem Field.parseChars_ne_empty (line : List Char) : Field.parseChars line ≠ .error .empty := by
  intro refused
  unfold Field.parseChars at refused
  split at refused
  · nomatch refused
  · rename_i parts _
    split at refused
    · nomatch refused
    · cases read : (segments parts.row).mapM (Modifier.parse line) with
      | ok modifiers =>
        rw [read] at refused
        nomatch refused
      | error fault =>
        rw [read] at refused
        obtain ⟨segment, -, same⟩ := exists_of_mapM_eq_error read
        obtain rfl : fault = .empty := Except.error.inj refused
        exact Modifier.parse_ne_empty line segment same

/-- Lines are refused for being empty only if there are none. -/
theorem Entity.ofLines_ne_empty {lines : List (List Char)} (some : lines ≠ []) :
    Entity.ofLines lines ≠ .error .empty := by
  cases lines with
  | nil => exact absurd rfl some
  | cons name lines =>
    intro refused
    rw [Entity.ofLines] at refused
    cases read : lines.mapM Field.parseChars with
    | ok fields =>
      rw [read] at refused
      nomatch refused
    | error fault =>
      rw [read] at refused
      obtain ⟨line, -, same⟩ := exists_of_mapM_eq_error read
      obtain rfl : fault = .empty := Except.error.inj refused
      exact Field.parseChars_ne_empty line same

/-- No block of a document is without content. -/
theorem ne_nil_of_mem_blockContents {pending text : List Char} {lines : List (List Char)}
    (member : lines ∈ blockContents pending text) : lines ≠ [] := by
  simpa using (List.mem_filter.mp member).2

/-- A document is the row of its blocks: they are read in order without the blank ones, and the
first fault of a block is the fault of the document. It defines no entity exactly when it is blank,
and it is never refused for being empty. -/
theorem Entity.parseDocument_layOut :
    (∀ first later, Unbroken first.toList →
      (∀ part ∈ later, IsSeparator part.1.toList ∧ Unbroken part.2.toList) →
      Entity.parseDocument (layOut first later) =
        ((first :: later.map Prod.snd).filter fun block => !isBlankText block.toList).mapM
          Entity.parse) ∧
    (∀ text, Entity.parseDocument text = .ok [] ↔ isBlankText text.toList) ∧
    ∀ text, Entity.parseDocument text ≠ .error .empty := by
  refine ⟨fun first later one more => ?_, fun text => ?_, fun text refused => ?_⟩
  · rw [Entity.parseDocument_eq, blockContents_layOut first later one more, mapM_solidBlocks,
      List.filter_map, List.mapM_map]
    rfl
  · rw [Entity.parseDocument_eq, mapM_eq_ok_iff, List.forall₂_nil_right_iff,
      blockContents_eq_nil_iff, List.nil_append]
  · rw [Entity.parseDocument_eq] at refused
    obtain ⟨lines, member, same⟩ := exists_of_mapM_eq_error refused
    exact Entity.ofLines_ne_empty (ne_nil_of_mem_blockContents member) same

/-- A document of three blocks, the second of them blank and the third one at fault, with line ends
of several kinds. -/
theorem Entity.parseDocument_layOut_at_fault :
    Unbroken "Post\nid:int@id".toList ∧ IsSeparator "\r\n \r\n".toList ∧
    Unbroken "\u3000\n".toList ∧ IsSeparator "\n\u2028\n".toList ∧
    Unbroken "Tag\nname:strin".toList ∧
    Entity.parseDocument (layOut "Post\nid:int@id"
        [("\r\n \r\n", "\u3000\n"), ("\n\u2028\n", "Tag\nname:strin")]) =
      .error (.fieldType "strin" "name:strin") := by
  have post : Unbroken "Post\nid:int@id".toList := unbroken_of_count_lt (by decide)
  have middle : Unbroken "\u3000\n".toList := unbroken_of_count_lt (by decide)
  have tag : Unbroken "Tag\nname:strin".toList := unbroken_of_count_lt (by decide)
  have first : IsSeparator "\r\n \r\n".toList := ⟨by decide, by decide⟩
  have second : IsSeparator "\n\u2028\n".toList := ⟨by decide, by decide⟩
  refine ⟨post, first, middle, second, tag, ?_⟩
  have rows := Entity.parseDocument_layOut.1 "Post\nid:int@id"
    [("\r\n \r\n", "\u3000\n"), ("\n\u2028\n", "Tag\nname:strin")] post
    (List.forall_mem_cons.mpr
      ⟨⟨first, middle⟩, List.forall_mem_cons.mpr ⟨⟨second, tag⟩, List.forall_mem_nil _⟩⟩)
  exact rows.trans rfl

end CrudScaffold
