import CrudScaffold.Proofs.Text.Word
import CrudScaffold.Schema.Declaration

/-!
# Declarations and texts

The decision `hasModel` is the property `Declares`. A declaration ends with its brace, so whether a
text declares a model is settled brace by brace, by what stands in front of the brace (`Opens`): in
front of a brace the text ends with a line that opens a model, whose name is the last word on it.
-/

namespace CrudScaffold

open Text

/-! ### Deciding -/

section

variable {name text : List Char}

/-- A body opens where blanks and a brace come first. -/
theorem opensBody_iff : opensBody text = true ↔
    ∃ space after, isBlankText space = true ∧ text = space ++ '\x7b' :: after := by
  unfold opensBody
  rw [decide_eq_true_eq]
  constructor
  · intro first
    obtain ⟨after, rest⟩ := List.head?_eq_some_iff.mp first
    refine ⟨text.takeWhile isBlank, after, ?_, ?_⟩
    · simp [isBlankText, List.all_takeWhile]
    · rw [← rest, trimStart, List.takeWhile_append_dropWhile]
  · rintro ⟨space, after, blank, rfl⟩
    rw [trimStart, List.dropWhile_append_of_pos (List.all_eq_true.mp blank),
      List.dropWhile_cons_of_neg (by decide), List.head?_cons]

/-- A model is named where the name comes first and a body opens behind it. -/
theorem namesModel_iff : namesModel name text = true ↔
    ∃ space after, isBlankText space = true ∧ text = name ++ (space ++ '\x7b' :: after) := by
  unfold namesModel
  rw [Bool.and_eq_true, List.isPrefixOf_iff_prefix, opensBody_iff]
  constructor
  · rintro ⟨⟨rest, rfl⟩, space, after, blank, same⟩
    rw [List.drop_left] at same
    exact ⟨space, after, blank, by rw [same]⟩
  · rintro ⟨space, after, blank, rfl⟩
    exact ⟨List.prefix_append _ _, space, after, blank, List.drop_left⟩

/-- A model is named behind blanks where some of the first blanks may be cut for it. -/
theorem namesModelAfterBlanks_iff : namesModelAfterBlanks name text = true ↔
    ∃ gap space after, gap ≠ [] ∧ isBlankText gap = true ∧ isBlankText space = true ∧
      text = gap ++ (name ++ (space ++ '\x7b' :: after)) := by
  induction text with
  | nil =>
    refine ⟨fun named => absurd named (by simp [namesModelAfterBlanks]), ?_⟩
    rintro ⟨gap, space, after, -, -, -, same⟩
    exact absurd same.symm (by simp)
  | cons c rest ih =>
    rw [namesModelAfterBlanks, Bool.and_eq_true, Bool.or_eq_true, namesModel_iff, ih]
    constructor
    · rintro ⟨blank, ⟨space, after, spaced, same⟩ | ⟨gap, space, after, -, gapped, spaced, same⟩⟩
      · have single : isBlankText [c] = true := by rw [isBlankText_cons, blank]; rfl
        exact ⟨[c], space, after, by simp, single, spaced, by rw [same]; rfl⟩
      · have longer : isBlankText (c :: gap) = true := by rw [isBlankText_cons, blank, gapped]; rfl
        exact ⟨c :: gap, space, after, by simp, longer, spaced, by rw [same]; rfl⟩
    · rintro ⟨gap, space, after, some, gapped, spaced, same⟩
      cases gap with
      | nil => contradiction
      | cons d gap =>
        obtain ⟨rfl, back⟩ := List.cons.inj same
        rw [isBlankText_cons, Bool.and_eq_true] at gapped
        refine ⟨gapped.1, ?_⟩
        cases gap with
        | nil => exact .inl ⟨space, after, spaced, back⟩
        | cons e gap => exact .inr ⟨e :: gap, space, after, by simp, gapped.2, spaced, back⟩

/-- A declaration starts where blanks, the word and a named body come first. -/
theorem startsDeclaration_iff : startsDeclaration name text = true ↔
    ∃ blanks gap space after, isBlankText blanks = true ∧ gap ≠ [] ∧ isBlankText gap = true ∧
      isBlankText space = true ∧
      text = blanks ++ ("model".toList ++ (gap ++ (name ++ (space ++ '\x7b' :: after)))) := by
  unfold startsDeclaration
  dsimp only
  rw [Bool.and_eq_true, List.isPrefixOf_iff_prefix, namesModelAfterBlanks_iff]
  constructor
  · rintro ⟨⟨rest, content⟩, gap, space, after, some, gapped, spaced, same⟩
    refine ⟨text.takeWhile isBlank, gap, space, after, ?_, some, gapped, spaced, ?_⟩
    · simp [isBlankText, List.all_takeWhile]
    · have behind : ("model".toList ++ rest).drop 5 = rest := List.drop_left' (by decide)
      rw [← content, behind] at same
      rw [← same, content, trimStart, List.takeWhile_append_dropWhile]
  · rintro ⟨blanks, gap, space, after, blank, some, gapped, spaced, rfl⟩
    have content : trimStart
        (blanks ++ ("model".toList ++ (gap ++ (name ++ (space ++ '\x7b' :: after))))) =
          "model".toList ++ (gap ++ (name ++ (space ++ '\x7b' :: after))) := by
      rw [trimStart, List.dropWhile_append_of_pos (List.all_eq_true.mp blank)]
      exact List.dropWhile_cons_of_neg (by decide)
    rw [content]
    exact ⟨List.prefix_append _ _, gap, space, after, some, gapped, spaced,
      List.drop_left' (by decide)⟩

/-- A declaration starts below where it starts behind a line feed. -/
theorem declaresBelow_iff : declaresBelow name text = true ↔
    ∃ front rest, text = front ++ '\n' :: rest ∧ startsDeclaration name rest = true := by
  induction text with
  | nil =>
    refine ⟨fun declared => absurd declared (by simp [declaresBelow]), ?_⟩
    rintro ⟨front, rest, same, -⟩
    exact absurd same.symm (by simp)
  | cons c text ih =>
    rw [declaresBelow, Bool.or_eq_true, Bool.and_eq_true, decide_eq_true_eq, ih]
    constructor
    · rintro (⟨rfl, here⟩ | ⟨front, rest, rfl, there⟩)
      · exact ⟨[], text, rfl, here⟩
      · exact ⟨c :: front, rest, rfl, there⟩
    · rintro ⟨front, rest, same, found⟩
      cases front with
      | nil =>
        obtain ⟨rfl, rfl⟩ := List.cons.inj same
        exact .inl ⟨rfl, found⟩
      | cons d front =>
        obtain ⟨rfl, rfl⟩ := List.cons.inj same
        exact .inr ⟨front, rest, rfl, found⟩

end

/-! ### What stands in front of a brace -/

/-- A text after which a brace opens a model of a name: a line, or several blank ones, with the word
`model` and the name. -/
def Opens (front name : List Char) : Prop :=
  ∃ before blanks gap space : List Char,
    (before = [] ∨ before.getLast? = some '\n') ∧ isBlankText blanks = true ∧ gap ≠ [] ∧
    isBlankText gap = true ∧ isBlankText space = true ∧
    front = before ++ (blanks ++ ("model".toList ++ (gap ++ (name ++ space))))

section

variable {schema name : List Char}

/-- A schema declares a model exactly if one of its braces opens it. -/
theorem declares_iff : Declares schema name ↔
    ∃ front after, schema = front ++ '\x7b' :: after ∧ Opens front name := by
  constructor
  · rintro ⟨before, blanks, gap, space, after, starts, blank, some, gapped, spaced, rfl⟩
    exact ⟨_, after, by simp only [List.append_assoc], before, blanks, gap, space, starts, blank,
      some, gapped, spaced, rfl⟩
  · rintro ⟨_, after, rfl, before, blanks, gap, space, starts, blank, some, gapped, spaced, rfl⟩
    exact ⟨before, blanks, gap, space, after, starts, blank, some, gapped, spaced,
      by simp only [List.append_assoc]⟩

/-- The decision is the property. -/
theorem hasModel_iff {schema name : String} :
    hasModel schema name = true ↔ Declares schema.toList name.toList := by
  unfold hasModel
  rw [Bool.or_eq_true, declaresBelow_iff]
  constructor
  · rintro (top | ⟨front, rest, same, below⟩)
    · obtain ⟨blanks, gap, space, after, blank, some, gapped, spaced, same⟩ :=
        startsDeclaration_iff.mp top
      exact ⟨[], blanks, gap, space, after, .inl rfl, blank, some, gapped, spaced,
        by simpa only [List.append_assoc, List.nil_append] using same⟩
    · obtain ⟨blanks, gap, space, after, blank, some, gapped, spaced, rfl⟩ :=
        startsDeclaration_iff.mp below
      refine ⟨front ++ ['\n'], blanks, gap, space, after, .inr List.getLast?_concat, blank, some,
        gapped, spaced, ?_⟩
      simp only [List.append_assoc, List.singleton_append]
      exact same
  · rintro ⟨before, blanks, gap, space, after, starts, blank, some, gapped, spaced, same⟩
    simp only [List.append_assoc] at same
    rcases starts with rfl | feed
    · exact .inl (startsDeclaration_iff.mpr
        ⟨blanks, gap, space, after, blank, some, gapped, spaced, same⟩)
    · obtain ⟨front, rfl⟩ := List.getLast?_eq_some_iff.mp feed
      rw [List.append_assoc, List.singleton_append] at same
      exact .inr ⟨front, _, same, startsDeclaration_iff.mpr
        ⟨blanks, gap, space, after, blank, some, gapped, spaced, rfl⟩⟩

/-- The parts of a declaration are texts of their own. -/
theorem declares_toList_iff {schema name : String} : Declares schema.toList name.toList ↔
    ∃ before blanks gap space after : String,
      (before = "" ∨ before.toList.getLast? = some '\n') ∧ isBlankText blanks.toList = true ∧
      gap ≠ "" ∧ isBlankText gap.toList = true ∧ isBlankText space.toList = true ∧
      schema = before ++ blanks ++ "model" ++ gap ++ name ++ space ++ "\x7b" ++ after := by
  constructor
  · rintro ⟨before, blanks, gap, space, after, starts, blank, some, gapped, spaced, same⟩
    refine ⟨String.ofList before, String.ofList blanks, String.ofList gap, String.ofList space,
      String.ofList after, ?_, ?_, ?_, ?_, ?_, ?_⟩
    · rw [String.toList_ofList, ← String.toList_eq_nil_iff, String.toList_ofList]
      exact starts
    · rwa [String.toList_ofList]
    · rwa [Ne, ← String.toList_eq_nil_iff, String.toList_ofList]
    · rwa [String.toList_ofList]
    · rwa [String.toList_ofList]
    · rw [← String.toList_inj, same]
      simp only [String.toList_append, String.toList_ofList, List.append_assoc]
      rfl
  · rintro ⟨before, blanks, gap, space, after, starts, blank, some, gapped, spaced, rfl⟩
    refine ⟨before.toList, blanks.toList, gap.toList, space.toList, after.toList, ?_, blank, ?_,
      gapped, spaced, ?_⟩
    · rwa [String.toList_eq_nil_iff]
    · rwa [Ne, String.toList_eq_nil_iff]
    · simp only [String.toList_append, List.append_assoc]
      rfl

/-- The last word of a text: blanks at its end are passed over. -/
def lastWord (text : List Char) : List Char :=
  ((text.reverse.dropWhile isBlank).takeWhile isWordChar).reverse

/-- A word behind a blank, with blanks after it, is the last word. -/
theorem lastWord_append {gap : List Char} (some : gap ≠ []) (gapped : isBlankText gap = true)
    (word : isWord name) {space : List Char} (spaced : isBlankText space = true)
    (before : List Char) : lastWord (before ++ (gap ++ (name ++ space))) = name := by
  have wordChars : ∀ c ∈ name.reverse, isWordChar c = true := fun c member =>
    isWordChar_of_mem word (List.mem_reverse.mp member)
  have blanks : ∀ c ∈ space.reverse, isBlank c = true := fun c member =>
    List.all_eq_true.mp spaced c (List.mem_reverse.mp member)
  obtain ⟨start, last, rfl⟩ := List.eq_nil_or_concat gap |>.resolve_left some
  have stop : isWordChar last = false :=
    isWordChar_of_isBlank (List.all_eq_true.mp gapped last (by simp))
  unfold lastWord
  simp only [List.concat_eq_append, List.reverse_append, List.append_assoc]
  rw [List.dropWhile_append_of_pos blanks]
  obtain ⟨c, rest, letters⟩ := List.exists_cons_of_ne_nil
    (List.reverse_eq_nil_iff.not.mpr (ne_nil_of_isWord word))
  have solid : isBlank c = false := isBlank_of_isWordChar (wordChars c (by simp [letters]))
  have kept : (name.reverse ++ ([last].reverse ++ (start.reverse ++ before.reverse))).dropWhile
      isBlank = name.reverse ++ ([last].reverse ++ (start.reverse ++ before.reverse)) := by
    rw [letters, List.cons_append, List.dropWhile_cons_of_neg (by simp [solid])]
  rw [kept, List.takeWhile_append_of_pos wordChars, List.reverse_singleton, List.singleton_append,
    List.takeWhile_cons_of_neg (by simp [stop]), List.append_nil, List.reverse_reverse]

/-- A text that opens a model of a word ends with the word. -/
theorem Opens.lastWord_eq {front : List Char} (opens : Opens front name) (word : isWord name) :
    lastWord front = name := by
  obtain ⟨before, blanks, gap, space, -, -, some, gapped, spaced, rfl⟩ := opens
  have whole : before ++ (blanks ++ ("model".toList ++ (gap ++ (name ++ space)))) =
      (before ++ (blanks ++ "model".toList)) ++ (gap ++ (name ++ space)) := by
    simp only [List.append_assoc]
  rw [whole]
  exact lastWord_append some gapped word spaced _

/-! ### Texts in a row -/

/-- What a text declares is declared when more follows. -/
theorem Declares.append (declared : Declares schema name) (more : List Char) :
    Declares (schema ++ more) name := by
  obtain ⟨before, blanks, gap, space, after, starts, blank, some, gapped, spaced, rfl⟩ := declared
  exact ⟨before, blanks, gap, space, after ++ more, starts, blank, some, gapped, spaced,
    by simp only [List.append_assoc, List.cons_append]⟩

/-- A brace of a text in two parts is in the first or in the second. -/
theorem declares_append_iff {left right : List Char} : Declares (left ++ right) name ↔
    Declares left name ∨
      ∃ front after, right = front ++ '\x7b' :: after ∧ Opens (left ++ front) name := by
  constructor
  · intro declared
    obtain ⟨front, after, same, opens⟩ := declares_iff.mp declared
    rcases List.append_eq_append_iff.mp same with ⟨middle, rfl, rest⟩ | ⟨middle, rest, back⟩
    · exact .inr ⟨middle, after, rest, opens⟩
    · cases middle with
      | nil =>
        rw [List.append_nil] at rest
        subst rest
        exact .inr ⟨[], after, by rw [List.nil_append]; exact back.symm, by rwa [List.append_nil]⟩
      | cons c middle =>
        obtain ⟨rfl, -⟩ := List.cons.inj back
        exact .inl (declares_iff.mpr ⟨front, middle, rest, opens⟩)
  · rintro (first | ⟨front, after, rfl, opens⟩)
    · exact first.append right
    · exact declares_iff.mpr ⟨left ++ front, after, by rw [List.append_assoc], opens⟩

/-- A text without braces adds no declaration. -/
theorem declares_append_of_notMem {left right : List Char} (plain : '\x7b' ∉ right) :
    Declares (left ++ right) name ↔ Declares left name := by
  rw [declares_append_iff, or_iff_left]
  rintro ⟨front, after, rfl, -⟩
  exact plain (by simp)

/-- A blank text declares nothing. -/
theorem not_declares_of_isBlankText (blank : isBlankText schema = true) :
    ¬ Declares schema name := by
  intro declared
  obtain ⟨front, after, rfl, -⟩ := declares_iff.mp declared
  have brace := List.all_eq_true.mp blank '\x7b' (by simp)
  contradiction

end

end CrudScaffold
