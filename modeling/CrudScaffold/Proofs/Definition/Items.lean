import CrudScaffold.Proofs.Definition.FieldList
import Mathlib.Data.List.Infix

/-!
# Items of a field list

A field list may hold any blanks and any further commas around its items. Items in which every
parenthesis has its partner and every comma stands inside parentheses are found as they are
(`solidLines_cutFields_spellList`). Whatever is found in a list, with or without partners, is kept
apart by its parentheses, since a list is cut only where none is open; so it is found again when it
is joined (`solidLines_cutFields_intercalate`).
-/

namespace CrudScaffold

open Text

/-! ### Depths -/

/-- The depth behind two texts. -/
theorem depthAfter_append (depth : Nat) (front back : List Char) :
    depthAfter depth (front ++ back) = depthAfter (depthAfter depth front) back :=
  List.foldl_append

/-- A comma stands outside parentheses in two texts if it does in one of them, where that stands. -/
theorem hasOuterComma_append (depth : Nat) (front back : List Char) :
    hasOuterComma depth (front ++ back) =
      (hasOuterComma depth front || hasOuterComma (depthAfter depth front) back) := by
  induction front generalizing depth with
  | nil => rfl
  | cons c front ih =>
    rw [List.cons_append, hasOuterComma, hasOuterComma, ih, Bool.or_assoc]
    rfl

/-- A comma outside parentheses has a text before it that leaves none open. -/
theorem exists_of_hasOuterComma {depth : Nat} {text : List Char}
    (comma : hasOuterComma depth text = true) :
    ∃ front, front ++ [','] <+: text ∧ depthAfter depth front = 0 := by
  induction text generalizing depth with
  | nil => contradiction
  | cons c text ih =>
    rw [hasOuterComma, Bool.or_eq_true] at comma
    rcases comma with here | later
    · obtain ⟨rfl, rfl⟩ : c = ',' ∧ depth = 0 := by simpa using here
      exact ⟨[], ⟨text, rfl⟩, rfl⟩
    · obtain ⟨front, before, closed⟩ := ih later
      exact ⟨c :: front, (List.prefix_cons_inj c).mpr before, closed⟩

/-- A blank is no parenthesis and no comma. -/
theorem ne_of_isBlank {c : Char} (blank : isBlank c) : c ≠ '(' ∧ c ≠ ')' ∧ c ≠ ',' := by
  refine ⟨?_, ?_, ?_⟩ <;> rintro rfl <;> revert blank <;> decide

/-- Blanks open and close nothing and hold no comma. -/
theorem depthAfter_of_isBlankText {gap : List Char} (blank : isBlankText gap) (depth : Nat) :
    depthAfter depth gap = depth ∧ hasOuterComma depth gap = false := by
  induction gap with
  | nil => exact ⟨rfl, rfl⟩
  | cons c gap ih =>
    rw [isBlankText_cons, Bool.and_eq_true] at blank
    obtain ⟨opens, closes, comma⟩ := ne_of_isBlank blank.1
    have step : depthStep depth c = depth := by
      rw [depthStep, if_neg opens, if_neg closes]
    obtain ⟨same, plain⟩ := ih blank.2
    refine ⟨?_, ?_⟩
    · rw [depthAfter, List.foldl_cons, step]
      exact same
    · rw [hasOuterComma, step, plain, decide_eq_false comma]
      rfl

/-- Trimming changes no depth and takes no comma. -/
theorem depthAfter_trim (text : List Char) (depth : Nat) :
    depthAfter depth (trim text) = depthAfter depth text ∧
      hasOuterComma depth (trim text) = hasOuterComma depth text := by
  obtain ⟨before, after, parts, first, second⟩ := exists_trim text
  obtain ⟨start, none⟩ := depthAfter_of_isBlankText first depth
  obtain ⟨stop, last⟩ := depthAfter_of_isBlankText second (depthAfter depth (trim text))
  have depths : depthAfter depth text = depthAfter depth (trim text) := by
    conv_lhs => rw [parts]
    rw [depthAfter_append, depthAfter_append, start, stop]
  have commas : hasOuterComma depth text = hasOuterComma depth (trim text) := by
    conv_lhs => rw [parts]
    rw [hasOuterComma_append, hasOuterComma_append, depthAfter_append, start, none, last,
      Bool.false_or, Bool.or_false]
  exact ⟨depths.symm, commas.symm⟩

/-! ### Items -/

/-- An item of a field list: a trimmed text whose parentheses all have partners and whose commas all
stand inside parentheses. -/
structure ListItem (item : List Char) : Prop where
  /-- It is not empty. -/
  proper : item ≠ []
  /-- No blank stands at its ends. -/
  trimmed : trim item = item
  /-- Every closing parenthesis closes one before it. -/
  closes : ∀ front ∈ item.inits, front.count ')' ≤ front.count '('
  /-- Every parenthesis is closed. -/
  closed : item.count ')' = item.count '('
  /-- Up to every comma a parenthesis is left open. -/
  inside : ∀ front ∈ item.inits, front.getLast? = some ',' → front.count ')' < front.count '('

instance (item : List Char) : Decidable (ListItem item) :=
  decidable_of_iff ((item ≠ [] ∧ trim item = item) ∧
      (∀ front ∈ item.inits, front.count ')' ≤ front.count '(') ∧
      item.count ')' = item.count '(' ∧
      ∀ front ∈ item.inits, front.getLast? = some ',' → front.count ')' < front.count '(')
    ⟨fun ⟨⟨proper, trimmed⟩, closes, closed, inside⟩ => ⟨proper, trimmed, closes, closed, inside⟩,
      fun ⟨proper, trimmed, closes, closed, inside⟩ =>
        ⟨⟨proper, trimmed⟩, closes, closed, inside⟩⟩

/-- Where every closing parenthesis closes one, the depth is the number of those that are left
open. -/
theorem depthAfter_add_count {text : List Char}
    (closes : ∀ front, front <+: text → front.count ')' ≤ front.count '(') :
    depthAfter 0 text + text.count ')' = text.count '(' := by
  induction text using List.reverseRecOn with
  | nil => rfl
  | append_singleton text c ih =>
    have whole := closes _ (List.prefix_refl _)
    have before := ih fun front within => closes front (within.trans (List.prefix_append _ _))
    rw [List.count_append, List.count_append] at whole
    rw [List.count_append, List.count_append, depthAfter_append]
    change depthStep (depthAfter 0 text) c + _ = _
    by_cases opens : c = '('
    · subst opens
      have one : List.count '(' ['('] = 1 := rfl
      have none : List.count ')' ['('] = 0 := rfl
      rw [depthStep, if_pos rfl, one, none]
      omega
    · have none : List.count '(' [c] = 0 := List.count_eq_zero.mpr (by simpa using Ne.symm opens)
      rw [depthStep, if_neg opens, none]
      by_cases shuts : c = ')'
      · subst shuts
        have one : List.count ')' [')'] = 1 := rfl
        rw [if_pos rfl, one]
        rw [none, one] at whole
        omega
      · have neither : List.count ')' [c] = 0 :=
          List.count_eq_zero.mpr (by simpa using Ne.symm shuts)
        rw [if_neg shuts, neither]
        omega

/-- An item may stand anywhere in a field list. -/
theorem ListItem.commaSafe {item : List Char} (listed : ListItem item) : CommaSafe item := by
  have closes : ∀ front, front <+: item → front.count ')' ≤ front.count '(' :=
    fun front within => listed.closes front ((List.mem_inits _ _).mpr within)
  constructor
  · by_contra comma
    obtain ⟨front, before, closed⟩ := exists_of_hasOuterComma (by simpa using comma)
    have within : front <+: item := (List.prefix_append _ _).trans before
    have depth := depthAfter_add_count fun other first => closes other (first.trans within)
    have nested := listed.inside _ ((List.mem_inits _ _).mpr before) List.getLast?_concat
    have opening : List.count '(' [','] = 0 := rfl
    have closing : List.count ')' [','] = 0 := rfl
    rw [List.count_append, List.count_append, opening, closing] at nested
    omega
  · have depth := depthAfter_add_count closes
    have closed := listed.closed
    omega

/-! ### Lists with blanks and commas around their items -/

/-- Blanks and commas. -/
def IsFiller (gap : List Char) : Prop := ∀ c ∈ gap, isBlank c = true ∨ c = ','

instance (gap : List Char) : Decidable (IsFiller gap) :=
  List.decidableBAll (fun c => isBlank c = true ∨ c = ',') gap

/-- A field list, given what stands before its first item, and its items, each with what stands
behind it. -/
def spellList (before : List Char) : List (List Char × List Char) → List Char
  | [] => before
  | (item, behind) :: others => before ++ (item ++ spellList behind others)

/-- Blanks and commas in front of a list do not matter. -/
theorem solidLines_cutFields_filler {gap : List Char} (filler : IsFiller gap) (rest : List Char) :
    solidLines (cutFields 0 (gap ++ rest)) = solidLines (cutFields 0 rest) := by
  induction gap with
  | nil => rfl
  | cons c gap ih =>
    obtain ⟨first, others⟩ := List.forall_mem_cons.mp filler
    rw [← ih others, List.cons_append, cutFields_cons]
    rcases first with blank | rfl
    · obtain ⟨opens, closes, comma⟩ := ne_of_isBlank blank
      have step : depthStep 0 c = 0 := by rw [depthStep, if_neg opens, if_neg closes]
      rw [decide_eq_false comma, step]
      cases cut : cutFields 0 (gap ++ rest) with
      | nil => exact absurd cut (cutFields_ne_nil _ _)
      | cons piece pieces =>
        change solidLines ((c :: piece) :: pieces) = _
        rw [solidLines_cons, solidLines_singleton, trim_cons_blank blank, ← solidLines_singleton,
          ← solidLines_cons]
    · change solidLines ([] :: cutFields 0 (gap ++ rest)) = _
      rw [solidLines_cons]
      rfl

/-- Blanks and commas are blanks, or blanks with a comma and others behind them. -/
theorem IsFiller.cases {gap : List Char} (filler : IsFiller gap) : isBlankText gap ∨
    ∃ blanks rest, gap = blanks ++ ',' :: rest ∧ isBlankText blanks ∧ IsFiller rest := by
  induction gap with
  | nil => exact .inl rfl
  | cons c gap ih =>
    obtain ⟨first, others⟩ := List.forall_mem_cons.mp filler
    rcases first with blank | rfl
    · rcases ih others with all | ⟨blanks, rest, rfl, front, back⟩
      · exact .inl (by rw [isBlankText_cons, blank, all]; rfl)
      · exact .inr ⟨c :: blanks, rest, rfl, by rw [isBlankText_cons, blank, front]; rfl, back⟩
    · exact .inr ⟨[], gap, rfl, rfl, others⟩

/-- An item with blanks behind it is found alone, and may stand anywhere in a list. -/
theorem ListItem.append_blank {item gap : List Char} (listed : ListItem item)
    (blank : isBlankText gap) :
    CommaSafe (item ++ gap) ∧ solidLines [item ++ gap] = [item] := by
  have safe := listed.commaSafe
  obtain ⟨depth, plain⟩ := depthAfter_of_isBlankText blank 0
  refine ⟨⟨?_, ?_⟩, ?_⟩
  · rw [hasOuterComma_append, safe.1, safe.2, plain]
    rfl
  · rw [depthAfter_append, safe.2, depth]
  · rw [solidLines_singleton, trim_append_blank blank, listed.trimmed, if_neg listed.proper]

/-- Items are found in a list, whatever blanks and commas stand around them. -/
theorem solidLines_cutFields_spellList {before : List Char} {items : List (List Char × List Char)}
    (filler : IsFiller before) (listed : ∀ part ∈ items, ListItem part.1 ∧ IsFiller part.2)
    (apart : ∀ part ∈ items.dropLast, ',' ∈ part.2) :
    solidLines (cutFields 0 (spellList before items)) = items.map Prod.fst := by
  induction items generalizing before with
  | nil =>
    have none := solidLines_cutFields_filler filler []
    rw [List.append_nil] at none
    rw [spellList, none]
    rfl
  | cons part others ih =>
    obtain ⟨item, behind⟩ := part
    obtain ⟨⟨first, gap⟩, more⟩ := List.forall_mem_cons.mp listed
    rw [spellList, solidLines_cutFields_filler filler, List.map_cons]
    rcases gap.cases with blank | ⟨blanks, rest, rfl, blank, beyond⟩
    · -- Without a comma behind it, the item is the last.
      cases others with
      | nil =>
        obtain ⟨safe, one⟩ := first.append_blank blank
        rw [spellList, cutFields_eq_singleton safe.1, one]
        rfl
      | cons next others =>
        have comma : ',' ∈ behind := apart (item, behind) List.mem_cons_self
        exact absurd rfl (ne_of_isBlank (List.all_eq_true.mp blank ',' comma)).2.2
    · obtain ⟨safe, one⟩ := first.append_blank blank
      have tail : ∀ part ∈ others.dropLast, ',' ∈ part.2 := by
        cases others with
        | nil => exact fun _ member => absurd member List.not_mem_nil
        | cons next others => exact (List.forall_mem_cons.mp apart).2
      have spelled : item ++ spellList (blanks ++ ',' :: rest) others =
          item ++ blanks ++ ',' :: spellList rest others := by
        cases others with
        | nil => rw [spellList, spellList, List.append_assoc]
        | cons next others =>
          rw [spellList, spellList]
          simp only [List.append_assoc, List.cons_append]
      rw [spelled, cutFields_append_comma safe.1 safe.2, solidLines_cons, one, ih beyond more tail]
      rfl

/-! ### Lists of what was found -/

/-- Trimmed lines without blank ones are all kept. -/
theorem solidLines_solidLines (lines : List (List Char)) :
    solidLines (solidLines lines) = solidLines lines := by
  induction lines with
  | nil => rfl
  | cons line lines ih =>
    rw [solidLines_cons, solidLines_append, ih, solidLines_singleton]
    by_cases blank : trim line = []
    · rw [if_pos blank]
      rfl
    · rw [if_neg blank, solidLines_singleton, trim_trim, if_neg blank]

/-- Every line of a list that is kept is a line of the list, trimmed, and if it is not the last one
kept it is not the last one there. -/
theorem exists_of_mem_solidLines {lines : List (List Char)} {line : List Char} :
    (line ∈ solidLines lines → ∃ whole ∈ lines, line = trim whole) ∧
      (line ∈ (solidLines lines).dropLast → ∃ whole ∈ lines.dropLast, line = trim whole) := by
  have found {lines : List (List Char)} (member : line ∈ solidLines lines) :
      ∃ whole ∈ lines, line = trim whole := by
    obtain ⟨whole, inside, rfl⟩ := List.mem_map.mp (List.mem_filter.mp member).1
    exact ⟨whole, inside, rfl⟩
  refine ⟨found, fun member => ?_⟩
  rcases List.eq_nil_or_concat' lines with rfl | ⟨front, last, rfl⟩
  · exact absurd member List.not_mem_nil
  · rw [solidLines_append, solidLines_singleton] at member
    rw [List.dropLast_concat]
    apply found
    split at member
    · rw [List.append_nil] at member
      exact List.dropLast_subset _ member
    · rwa [List.dropLast_concat] at member

/-- Parentheses that keep lines apart keep apart what is left of them. -/
theorem Separable.solidLines {lines : List (List Char)} (apart : Separable lines) :
    Separable (solidLines lines) := by
  constructor
  · intro line member
    obtain ⟨whole, inside, rfl⟩ := exists_of_mem_solidLines.1 member
    rw [(depthAfter_trim whole 0).2]
    exact apart.1 whole inside
  · intro line member
    obtain ⟨whole, inside, rfl⟩ := exists_of_mem_solidLines.2 member
    rw [(depthAfter_trim whole 0).1]
    exact apart.2 whole inside

/-- What is found in a list is found again when it is joined. -/
theorem solidLines_cutFields_intercalate (text : List Char) :
    solidLines (cutFields 0 ([','].intercalate (solidLines (cutFields 0 text)))) =
      solidLines (cutFields 0 text) := by
  have pieces : Separable (cutFields 0 text) :=
    (cutFields_intercalate_iff (cutFields_ne_nil 0 text)).mp (by rw [intercalate_cutFields])
  by_cases none : solidLines (cutFields 0 text) = []
  · rw [none]
    rfl
  · rw [(cutFields_intercalate_iff none).mpr pieces.solidLines, solidLines_solidLines]

/-- Items whose parentheses have partners and whose commas stand inside parentheses are found in a
field list, whatever blanks and commas stand around them. Whatever is found in a text, it is found
again when it is joined with commas. -/
theorem splitFieldList_joined :
    (∀ (before : List Char) (items : List (List Char × List Char)), IsFiller before →
      (∀ part ∈ items, ListItem part.1 ∧ IsFiller part.2) →
      (∀ part ∈ items.dropLast, ',' ∈ part.2) →
      splitFieldList (String.ofList (spellList before items)) =
        items.map fun part => String.ofList part.1) ∧
    ∀ list, splitFieldList (",".intercalate (splitFieldList list)) = splitFieldList list := by
  constructor
  · intro before items filler listed apart
    rw [splitFieldList_eq, String.toList_ofList,
      solidLines_cutFields_spellList filler listed apart, List.map_map]
    rfl
  · intro list
    have lists := map_ofList_eq_iff.mp (splitFieldList_eq list).symm
    have joined : (",".intercalate (splitFieldList list)).toList =
        [','].intercalate (solidLines (cutFields 0 list.toList)) := by
      rw [String.toList_intercalate, lists]
      rfl
    rw [splitFieldList_eq, joined, solidLines_cutFields_intercalate, ← splitFieldList_eq]

/-- Two items with blanks and further commas around them, one of which holds a comma. -/
theorem splitFieldList_joined_commas :
    IsFiller " ,".toList ∧
    (∀ part ∈ [("id:int".toList, "\t,, ".toList),
        ("authorId:uuid@relation(User,many-to-one)".toList, "\n".toList)],
      ListItem part.1 ∧ IsFiller part.2) ∧
    ',' ∈ "\t,, ".toList ∧
    splitFieldList " ,id:int\t,, authorId:uuid@relation(User,many-to-one)\n" =
      ["id:int", "authorId:uuid@relation(User,many-to-one)"] := by
  have filler : IsFiller " ,".toList := by decide
  have listed : ∀ part ∈ [("id:int".toList, "\t,, ".toList),
      ("authorId:uuid@relation(User,many-to-one)".toList, "\n".toList)],
      ListItem part.1 ∧ IsFiller part.2 := by decide +kernel
  have comma : ',' ∈ "\t,, ".toList := by decide
  have spelled : spellList " ,".toList [("id:int".toList, "\t,, ".toList),
      ("authorId:uuid@relation(User,many-to-one)".toList, "\n".toList)] =
      " ,id:int\t,, authorId:uuid@relation(User,many-to-one)\n".toList := by decide +kernel
  have found := splitFieldList_joined.1 _ _ filler listed (List.forall_mem_singleton.mpr comma)
  rw [spelled] at found
  simp only [String.ofList_toList, List.map_cons, List.map_nil] at found
  exact ⟨filler, listed, comma, found⟩

end CrudScaffold
