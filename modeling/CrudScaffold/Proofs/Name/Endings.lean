import CrudScaffold.Proofs.Name.Humps
import CrudScaffold.Proofs.Name.Singular

/-!
# Names with another ending

Where the end of a name is exchanged for other small letters, only its last word changes, and that
in the same way (`exists_pieces_append`). So the plural of a name that ends with a small letter or a
digit has the words of the name, the last one in the plural (`exists_words_pluralChars`). Behind a
capital or a separator the ending of the plural may start a word of its own.
-/

namespace CrudScaffold.Name

/-- Two endings of small letters and digits, both with a letter in front or both with a digit. -/
structure Endings (first second : List Char) : Prop where
  /-- The characters in front. -/
  heads : ∃ c rest d more, first = c :: rest ∧ second = d :: more ∧ isSmall c = isSmall d
  /-- The characters of the one. -/
  chars : ∀ c ∈ first, isSmallOrDigit c = true
  /-- The characters of the other. -/
  charsToo : ∀ c ∈ second, isSmallOrDigit c = true

section

variable {first second : List Char}

/-- No space is put into an ending. -/
theorem Endings.spaced (endings : Endings first second) (stage : Stage) :
    spaceCapitalized stage first = first ∧ spaceCapitalized stage second = second ∧
      spaceHumps first = first ∧ spaceHumps second = second := by
  have small : ∀ c ∈ first, isCapital c = false := fun c member =>
    isCapital_of_isSmallOrDigit (endings.chars c member)
  have smallToo : ∀ c ∈ second, isCapital c = false := fun c member =>
    isCapital_of_isSmallOrDigit (endings.charsToo c member)
  exact ⟨spaceCapitalized_eq_self small stage, spaceCapitalized_eq_self smallToo stage,
    spaceHumps_eq_self small, spaceHumps_eq_self smallToo⟩

/-- Whether a text starts with a capital, or with a capitalized word, does not depend on its ending,
and an ending alone does not. -/
theorem Endings.startsCapital (endings : Endings first second) (front : List Char) :
    startsCapital (front ++ first) = startsCapital (front ++ second) ∧
      startsCapitalized (front ++ first) = startsCapitalized (front ++ second) ∧
      (front = [] → Name.startsCapital first = false ∧ Name.startsCapitalized first = false) := by
  have alone := startsCapital_eq_false fun c member =>
    isCapital_of_isSmallOrDigit (endings.chars c member)
  have aloneToo := startsCapital_eq_false fun c member =>
    isCapital_of_isSmallOrDigit (endings.charsToo c member)
  obtain ⟨c, rest, d, more, rfl, rfl, same⟩ := endings.heads
  match front with
  | [] => exact ⟨alone.1.trans aloneToo.1.symm, alone.2.trans aloneToo.2.symm, fun _ => alone⟩
  | [k] =>
    refine ⟨rfl, ?_, fun none => absurd none (List.cons_ne_nil _ _)⟩
    change (isCapital k && isSmall c) = (isCapital k && isSmall d)
    rw [same]
  | k :: l :: front => exact ⟨rfl, rfl, fun none => absurd none (List.cons_ne_nil _ _)⟩

/-- A space that is put into a text does not change its last character. -/
theorem getLast?_spaced (c : Char) {spaced front : List Char}
    (last : spaced.getLast? = front.getLast?) (some : front ≠ []) :
    (c :: ' ' :: spaced).getLast? = (c :: front).getLast? := by
  cases front with
  | nil => contradiction
  | cons d front =>
    rw [List.getLast?_cons, List.getLast?_cons, last, List.getLast?_cons_cons]
    simp [List.getLast?_cons]

/-- The first pass does not see which ending a text has. -/
theorem exists_spaceCapitalized_append (endings : Endings first second) (stage : Stage)
    (front : List Char) :
    ∃ spaced, spaced.getLast? = front.getLast? ∧
      spaceCapitalized stage (front ++ first) = spaced ++ first ∧
      spaceCapitalized stage (front ++ second) = spaced ++ second := by
  induction front generalizing stage with
  | nil =>
    obtain ⟨one, other, -⟩ := endings.spaced stage
    exact ⟨[], rfl, one, other⟩
  | cons c front ih =>
    obtain ⟨-, starts, alone⟩ := endings.startsCapital front
    have kept (other : Stage) : ∃ spaced, spaced.getLast? = (c :: front).getLast? ∧
        c :: spaceCapitalized other (front ++ first) = spaced ++ first ∧
        c :: spaceCapitalized other (front ++ second) = spaced ++ second := by
      obtain ⟨spaced, last, one, two⟩ := ih other
      exact ⟨c :: spaced, by rw [List.getLast?_cons, last, List.getLast?_cons],
        by rw [one]; rfl, by rw [two]; rfl⟩
    rw [List.cons_append, List.cons_append, spaceCapitalized, spaceCapitalized, ← starts]
    split
    · exact kept _
    · split
      · exact kept _
      · split
        next spaces =>
          obtain ⟨spaced, last, one, two⟩ := ih .capital
          refine ⟨_, getLast?_spaced c last ?_, by rw [one]; rfl, by rw [two]; rfl⟩
          rintro rfl
          rw [List.nil_append, (alone rfl).2, Bool.and_false] at spaces
          contradiction
        · exact kept _

/-- Nor does the second one. -/
theorem exists_spaceHumps_append (endings : Endings first second) (front : List Char) :
    ∃ spaced, spaced.getLast? = front.getLast? ∧
      spaceHumps (front ++ first) = spaced ++ first ∧
      spaceHumps (front ++ second) = spaced ++ second := by
  induction front with
  | nil =>
    obtain ⟨-, -, one, other⟩ := endings.spaced .outside
    exact ⟨[], rfl, one, other⟩
  | cons c front ih =>
    obtain ⟨starts, -, alone⟩ := endings.startsCapital front
    obtain ⟨spaced, last, one, two⟩ := ih
    rw [List.cons_append, List.cons_append, spaceHumps, spaceHumps, ← starts, one, two]
    split
    next spaces =>
      refine ⟨_, getLast?_spaced c last ?_, rfl, rfl⟩
      rintro rfl
      rw [List.nil_append, (alone rfl).1, Bool.and_false] at spaces
      contradiction
    · exact ⟨c :: spaced, by rw [List.getLast?_cons, last, List.getLast?_cons], rfl, rfl⟩

/-- The last piece of a text takes up whatever is put behind it without separators. -/
theorem exists_splitOnP_append (separates : Char → Bool) (front : List Char) :
    ∃ before last, ∀ text : List Char, (∀ c ∈ text, separates c = false) →
      (front ++ text).splitOnP separates = before ++ [last ++ text] := by
  induction front with
  | nil => exact ⟨[], [], fun text solid => List.splitOnP_eq_singleton solid⟩
  | cons c front ih =>
    obtain ⟨before, last, cut⟩ := ih
    by_cases separator : separates c = true
    · refine ⟨[] :: before, last, fun text solid => ?_⟩
      rw [List.cons_append, List.splitOnP_cons_eq_if_modifyHead, if_pos separator, cut text solid]
      rfl
    · cases before with
      | nil =>
        refine ⟨[], c :: last, fun text solid => ?_⟩
        rw [List.cons_append, List.splitOnP_cons_eq_if_modifyHead, if_neg separator, cut text solid]
        rfl
      | cons piece before =>
        refine ⟨(c :: piece) :: before, last, fun text solid => ?_⟩
        rw [List.cons_append, List.splitOnP_cons_eq_if_modifyHead, if_neg separator, cut text solid]
        rfl

/-- The part of a text that is in its last piece ends like the text, if the text ends with no
separator; else there is no such part. -/
def EndsPiece (front last : List Char) : Prop :=
  (last = [] ∧ ∀ c, front.getLast? = some c → isSeparator c = true) ∨
    last.getLast? = front.getLast?

/-- The last piece of a text in that respect. -/
theorem exists_endsPiece (front : List Char) :
    ∃ before last, EndsPiece front last ∧
      ∀ text : List Char, (∀ c ∈ text, isSeparator c = false) →
        (front ++ text).splitOnP isSeparator = before ++ [last ++ text] := by
  rcases List.eq_nil_or_concat front with rfl | ⟨front, c, rfl⟩
  · exact ⟨[], [], .inr rfl, fun text solid => List.splitOnP_eq_singleton solid⟩
  rw [List.concat_eq_append]
  by_cases separator : isSeparator c = true
  · refine ⟨front.splitOnP isSeparator, [], .inl ⟨rfl, fun d last => ?_⟩, fun text solid => ?_⟩
    · rw [List.getLast?_concat, Option.some.injEq] at last
      exact last ▸ separator
    · rw [List.append_assoc, List.singleton_append, List.splitOnP_append_cons _ _ separator,
        List.splitOnP_eq_singleton solid]
      rfl
  · obtain ⟨before, last, cut⟩ := exists_splitOnP_append isSeparator front
    refine ⟨before, last ++ [c], .inr ?_, fun text solid => ?_⟩
    · rw [List.getLast?_concat, List.getLast?_concat]
    · rw [List.append_assoc, List.append_assoc]
      refine cut _ fun d member => ?_
      rcases List.mem_cons.mp member with rfl | later
      · exact Bool.eq_false_iff.mpr separator
      · exact solid d later

/-- Only the end of the text matters for that. -/
theorem EndsPiece.congr {front other last : List Char} (ends : EndsPiece front last)
    (same : front.getLast? = other.getLast?) : EndsPiece other last := by
  unfold EndsPiece at ends ⊢
  rwa [← same]

/-- Nor do blanks in front of the text. -/
theorem EndsPiece.of_trimStart {front last : List Char}
    (ends : EndsPiece (Text.trimStart front) last) : EndsPiece front last := by
  have parts := List.takeWhile_append_dropWhile (p := Text.isBlank) (l := front)
  by_cases none : Text.trimStart front = []
  · have empty : last = [] := by
      rw [none] at ends
      exact ends.elim And.left fun same => List.getLast?_eq_none_iff.mp same
    refine .inl ⟨empty, fun c last => ?_⟩
    unfold Text.trimStart at none
    rw [none, List.append_nil] at parts
    rw [← parts] at last
    exact isSeparator_iff.mpr
      (.inr (.inr (List.mem_takeWhile_imp (List.mem_of_getLast? last))))
  · refine ends.congr ?_
    rw [← List.getLast?_append_of_ne_nil (front.takeWhile Text.isBlank) none]
    exact congrArg List.getLast? parts

/-- A text with an ending is trimmed in front only. -/
theorem trim_append_ending {front text : List Char} (some : text ≠ [])
    (solid : ∀ c ∈ text, Text.isBlank c = false) :
    Text.trim (front ++ text) = Text.trimStart front ++ text := by
  have blank : Text.isBlankText (front.takeWhile Text.isBlank) = true :=
    List.all_eq_true.mpr fun c member => List.mem_takeWhile_imp member
  have parts : front ++ text =
      front.takeWhile Text.isBlank ++ (Text.trimStart front ++ text) := by
    rw [← List.append_assoc, Text.trimStart, List.takeWhile_append_dropWhile]
  have starts : Text.StartsSolid (Text.trimStart front) := by
    intro c rest same
    have head := List.head?_dropWhile_not Text.isBlank front
    rw [Text.trimStart] at same
    rw [same] at head
    simpa using head
  have alone := startsSolid_append some solid []
  rw [List.append_nil] at alone
  rw [parts, Text.trim_blank_append blank]
  refine Text.trim_eq_self (starts.append alone) ?_
  rw [List.reverse_append]
  exact startsSolid_append (by simpa using some) (by simpa using solid) _

/-- The pieces of a name with one ending and with another one differ in the last piece only. -/
theorem exists_pieces_append (endings : Endings first second) (front : List Char) :
    ∃ before last, EndsPiece front last ∧
      pieces (front ++ first) = before ++ [last ++ first] ∧
      pieces (front ++ second) = before ++ [last ++ second] := by
  have solid {text : List Char} (chars : ∀ c ∈ text, isSmallOrDigit c = true) :
      ∀ c ∈ text, isSeparator c = false := fun c member =>
    isSeparator_of_code (.inr (isSmallOrDigit_iff.mp (chars c member)))
  obtain ⟨c, rest, d, more, one, two, -⟩ := endings.heads
  have piece : IsPiece first := ⟨by simp [one], solid endings.chars⟩
  have pieceToo : IsPiece second := ⟨by simp [two], solid endings.charsToo⟩
  obtain ⟨middle, lastMiddle, passed, passedToo⟩ :=
    exists_spaceCapitalized_append endings .outside (Text.trimStart front)
  obtain ⟨spaced, lastSpaced, read, readToo⟩ := exists_spaceHumps_append endings middle
  obtain ⟨before, last, ends, cut⟩ := exists_endsPiece spaced
  have kept {text : List Char} (piece : IsPiece text) :
      (before ++ [last ++ text]).filter (· ≠ []) = before.filter (· ≠ []) ++ [last ++ text] := by
    rw [List.filter_append, List.filter_cons_of_pos (by simp [piece.some]), List.filter_nil]
  refine ⟨before.filter (· ≠ []), last,
    (ends.congr (lastSpaced.trans lastMiddle)).of_trimStart, ?_, ?_⟩
  · rw [pieces, trim_append_ending piece.some piece.not_blank, passed, read, cut _ piece.solid,
      kept piece]
  · rw [pieces, trim_append_ending pieceToo.some pieceToo.not_blank, passedToo, readToo,
      cut _ pieceToo.solid, kept pieceToo]

/-! ### Lower case before an ending -/

/-- The rule of the final sigma looks through no small letter or digit, and takes letters for
letters and digits for none. -/
theorem casedAhead_cons {c : Char} (small : isSmallOrDigit c = true) (rest : List Char) :
    (c :: rest).dropWhile Text.isCaseIgnorable = c :: rest ∧
      Text.casedAhead (c :: rest) = isSmall c := by
  have letters : ∀ code < 128, isSmallOrDigit (Char.ofNat code) = true →
      Text.isCaseIgnorable (Char.ofNat code) = false ∧
        Text.isCased (Char.ofNat code) = isSmall (Char.ofNat code) := by decide +kernel
  have code := isSmallOrDigit_iff.mp small
  have found := letters c.toNat (by omega)
  rw [Char.ofNat_toNat] at found
  obtain ⟨stops, cased⟩ := found small
  have dropped : (c :: rest).dropWhile Text.isCaseIgnorable = c :: rest :=
    List.dropWhile_cons_of_neg (by simp [stops])
  refine ⟨dropped, ?_⟩
  rw [Text.casedAhead, dropped]
  exact cased

/-- So it does not see which ending a text has. -/
theorem casedAhead_append (endings : Endings first second) (front : List Char) :
    Text.casedAhead (front ++ first) = Text.casedAhead (front ++ second) := by
  have chars := endings.chars
  have charsToo := endings.charsToo
  obtain ⟨c, rest, d, more, rfl, rfl, same⟩ := endings.heads
  obtain ⟨dropped, cased⟩ := casedAhead_cons (chars c List.mem_cons_self) rest
  obtain ⟨droppedToo, casedToo⟩ := casedAhead_cons (charsToo d List.mem_cons_self) more
  rw [Text.casedAhead] at cased casedToo ⊢
  rw [Text.casedAhead, List.dropWhile_append, List.dropWhile_append]
  cases front.dropWhile Text.isCaseIgnorable with
  | nil =>
    rw [List.isEmpty_nil, if_pos rfl, if_pos rfl]
    exact cased.trans (same.trans casedToo.symm)
  | cons e front => rfl

/-- The lower case of a character has characters, whatever stands around it, and it ends with an
ASCII letter only if that of the character alone does. -/
theorem getLast?_lowerAt (casedBefore : Bool) (c : Char) (rest : List Char) :
    Text.lowerAt casedBefore c rest ≠ [] ∧ ∀ letter, isSmall letter = true →
      ((Text.lowerAt casedBefore c rest).getLast? = some letter ↔
        (Text.lowerChar c).getLast? = some letter) := by
  unfold Text.lowerAt
  split
  next sigma =>
    subst sigma
    refine ⟨List.cons_ne_nil _ _, fun letter small => iff_of_false ?_ ?_⟩
    · split <;> rintro same <;> rw [← Option.some.inj same] at small <;> revert small <;> decide
    · rw [show Text.lowerChar 'Σ' = ['σ'] by decide +kernel]
      rintro same
      rw [← Option.some.inj same] at small
      revert small
      decide
  · exact ⟨Text.lowerChar_ne_nil c, fun _ _ => Iff.rfl⟩

/-- An ending is in lower case already, and of the text before it the lower case does not depend on
the ending; it ends with an ASCII letter only if that of the last character of the text does. -/
theorem exists_lowerFrom_append (endings : Endings first second) (casedBefore : Bool)
    (front : List Char) :
    ∃ lowered, (front ≠ [] → lowered ≠ []) ∧
      Text.lowerFrom casedBefore (front ++ first) = lowered ++ first ∧
      Text.lowerFrom casedBefore (front ++ second) = lowered ++ second ∧
      ∀ letter, isSmall letter = true → (lowered.getLast? = some letter ↔
        ∃ c, front.getLast? = some c ∧ (Text.lowerChar c).getLast? = some letter) := by
  induction front generalizing casedBefore with
  | nil =>
    refine ⟨[], fun some => absurd rfl some, ?_, ?_, by simp⟩
    · exact Text.lowerFrom_eq_self (fun c member =>
        isLowered_of_isSmallOrDigit (endings.chars c member)) casedBefore
    · exact Text.lowerFrom_eq_self (fun c member =>
        isLowered_of_isSmallOrDigit (endings.charsToo c member)) casedBefore
  | cons c front ih =>
    obtain ⟨lowered, some, one, two, ends⟩ := ih
      (if Text.isCaseIgnorable c then casedBefore else Text.isCased c)
    obtain ⟨someHere, endsHere⟩ := getLast?_lowerAt casedBefore c (front ++ first)
    have same : Text.lowerAt casedBefore c (front ++ second) =
        Text.lowerAt casedBefore c (front ++ first) := by
      rw [Text.lowerAt, Text.lowerAt, casedAhead_append endings]
    refine ⟨Text.lowerAt casedBefore c (front ++ first) ++ lowered,
      fun _ => List.append_ne_nil_of_left_ne_nil someHere _, ?_, ?_, fun letter small => ?_⟩
    · rw [List.cons_append, Text.lowerFrom, one, List.append_assoc]
    · rw [List.cons_append, Text.lowerFrom, two, same, List.append_assoc]
    · cases front with
      | nil =>
        have none : lowered = [] := by
          have alone := Text.lowerFrom_eq_self (fun d member =>
            isLowered_of_isSmallOrDigit (endings.chars d member))
            (if Text.isCaseIgnorable c then casedBefore else Text.isCased c)
          rw [List.nil_append, alone] at one
          exact List.append_left_eq_self.mp one.symm
        rw [none, List.append_nil, endsHere letter small]
        simp
      | cons d front =>
        rw [List.getLast?_append_of_ne_nil _ (some (List.cons_ne_nil _ _)), ends letter small,
          List.getLast?_cons_cons]

end

/-! ### Plurals -/

/-- One character, or two of which the first is an ASCII small letter. -/
def isShortEnding : List Char → Bool
  | [_] => true
  | [letter, _] => isSmall letter
  | _ => false

/-- Tests for short endings see the last character of a text, and which ASCII small letter stands
before it. -/
theorem endsWithAny_concat {front other : List Char} {c : Char}
    (same : ∀ letter, isSmall letter = true →
      (front.getLast? = some letter ↔ other.getLast? = some letter)) {endings : List String}
    (short : ∀ ending ∈ endings, isShortEnding ending.toList = true) :
    endsWithAny endings (front ++ [c]) = endsWithAny endings (other ++ [c]) := by
  have each : ∀ ending ∈ endings,
      (ending.toList <:+ front ++ [c] ↔ ending.toList <:+ other ++ [c]) := by
    intro ending member
    have short := short ending member
    match spelled : ending.toList with
    | [last] =>
      rw [List.singleton_suffix_iff_getLast?_eq_some, List.getLast?_concat,
        List.singleton_suffix_iff_getLast?_eq_some, List.getLast?_concat]
    | [letter, last] =>
      have cut (text : List Char) : [letter, last] <:+ text ++ [c] ↔
          text.getLast? = some letter ∧ [last] = [c] := by
        rw [← List.singleton_suffix_iff_getLast?_eq_some]
        exact @List.suffix_append_inj_of_length_eq _ [letter] text [last] [c] rfl
      rw [spelled] at short
      rw [cut, cut, same letter short]
    | [] =>
      rw [spelled] at short
      contradiction
    | _ :: _ :: _ :: _ =>
      rw [spelled] at short
      contradiction
  rw [Bool.eq_iff_iff, endsWithAny_iff, endsWithAny_iff]
  exact exists_congr fun ending => and_congr_right (each ending)

/-- What stands in the plural for the last character of a name, told from the lower case of the
name. -/
def pluralEnding (c : Char) (lowered : List Char) : List Char :=
  if endsWithAny ["y"] lowered && !endsWithAny ["ay", "ey", "iy", "oy", "uy"] lowered then
    "ies".toList
  else if endsWithAny ["s", "sh", "ch", "x", "z"] lowered then [c] ++ "es".toList
  else [c] ++ "s".toList

/-- The plural exchanges the last character for that. -/
theorem pluralChars_concat (front : List Char) (c : Char) :
    pluralChars (front ++ [c]) = front ++ pluralEnding c (Text.lower (front ++ [c])) := by
  unfold pluralChars pluralEnding
  rw [if_neg (by simp)]
  split
  · rw [List.dropLast_concat]
  · split <;> rw [List.append_assoc]

/-- It is an ending like the character itself. -/
theorem endings_pluralEnding {c : Char} (small : isSmallOrDigit c = true) (front : List Char) :
    Endings [c] (pluralEnding c (front ++ [c])) := by
  have single : ∀ d ∈ [c], isSmallOrDigit d = true := fun d member =>
    List.mem_singleton.mp member ▸ small
  unfold pluralEnding
  split
  next y =>
    have last : c = 'y' := by
      obtain ⟨ending, member, ends⟩ := endsWithAny_iff.mp (Bool.and_eq_true_iff.mp y).1
      rw [List.mem_singleton.mp member] at ends
      have same := getLast?_of_suffix rfl ends
      rw [List.getLast?_concat] at same
      exact Option.some.inj same
    exact ⟨⟨c, [], 'i', ['e', 's'], rfl, rfl, by rw [last]; rfl⟩, single,
      List.all_eq_true.mp (by decide)⟩
  · split
    · refine ⟨⟨c, [], c, _, rfl, rfl, rfl⟩, single, ?_⟩
      exact List.forall_mem_append.mpr ⟨single, List.all_eq_true.mp (by decide)⟩
    · refine ⟨⟨c, [], c, _, rfl, rfl, rfl⟩, single, ?_⟩
      exact List.forall_mem_append.mpr ⟨single, List.all_eq_true.mp (by decide)⟩

/-- It sees of the lower case what the tests see. -/
theorem pluralEnding_concat {front other : List Char} (c : Char)
    (same : ∀ letter, isSmall letter = true →
      (front.getLast? = some letter ↔ other.getLast? = some letter)) :
    pluralEnding c (front ++ [c]) = pluralEnding c (other ++ [c]) := by
  unfold pluralEnding
  rw [endsWithAny_concat same (by decide), endsWithAny_concat same (by decide),
    endsWithAny_concat same (by decide)]

/-- Lower case keeps a separator. -/
theorem isLowered_of_isSeparator {c : Char} (separates : isSeparator c = true) :
    Text.IsLowered c := by
  have wide : ∀ code ∈ Text.wideBlanks, Text.IsUnmapped code := by decide +kernel
  refine Text.IsUnmapped.isLowered ?_
  rcases isSeparator_iff.mp separates with rfl | rfl | blank
  · exact Text.isUnmapped_ascii (by decide) (by decide)
  · exact Text.isUnmapped_ascii (by decide) (by decide)
  · by_cases ascii : c.toNat < 128
    · refine Text.isUnmapped_ascii ascii (.inl ?_)
      simp only [Text.isBlank, Bool.or_eq_true, Bool.and_eq_true, decide_eq_true_eq, beq_iff_eq]
        at blank
      omega
    · exact wide _ (Text.mem_wideBlanks blank (by omega))

/-- The letter before the ending of a text is that before the ending of its last piece. -/
theorem EndsPiece.letter_iff {front last : List Char} (ends : EndsPiece front last) {letter : Char}
    (small : isSmall letter = true) :
    (∃ c, last.getLast? = some c ∧ (Text.lowerChar c).getLast? = some letter) ↔
      ∃ c, front.getLast? = some c ∧ (Text.lowerChar c).getLast? = some letter := by
  rcases ends with ⟨rfl, separated⟩ | same
  · refine iff_of_false (by simp) ?_
    rintro ⟨c, found, kept⟩
    have separates := separated c found
    have still := ((getLast?_lowerAt false c []).2 letter small).mpr kept
    rw [isLowered_of_isSeparator separates false [], List.getLast?_singleton] at still
    obtain rfl := Option.some.inj still
    have code := isSmallOrDigit_iff.mp (show isSmallOrDigit c = true by
      rw [isSmallOrDigit, small, Bool.true_or])
    have solid := isSeparator_of_code (.inr code)
    rw [separates] at solid
    contradiction
  · rw [same]

/-- The plural of a name that ends with a small letter or a digit has the words of the name, the
last one in the plural. -/
theorem exists_words_pluralChars {name : List Char} {c : Char} (last : name.getLast? = some c)
    (small : isSmallOrDigit c = true) :
    ∃ before word, words name = before ++ [word] ∧
      words (pluralChars name) = before ++ [pluralChars word] := by
  obtain ⟨front, rfl⟩ : ∃ front, name = front ++ [c] :=
    ⟨name.dropLast, (List.dropLast_append_getLast? c last).symm⟩
  obtain ⟨whole, -, lower, -, ends⟩ :=
    exists_lowerFrom_append (endings_pluralEnding small front) false front
  have endings := endings_pluralEnding small whole
  obtain ⟨before, back, piece, one, other⟩ := exists_pieces_append endings front
  obtain ⟨word, -, lowerWord, lowerPlural, endsWord⟩ := exists_lowerFrom_append endings false back
  have still : Text.lower (word ++ [c]) = word ++ [c] := by
    rw [← lowerWord]
    exact Text.lower_lower _
  have same : pluralEnding c (whole ++ [c]) = pluralEnding c (word ++ [c]) := by
    refine pluralEnding_concat c fun letter small => ?_
    rw [ends letter small, endsWord letter small, piece.letter_iff small]
  refine ⟨before.map Text.lower, word ++ [c], ?_, ?_⟩
  · rw [words, one, List.map_append, List.map_singleton, Text.lower, lowerWord]
  · have plural : Text.lower (back ++ pluralEnding c (whole ++ [c])) =
        word ++ pluralEnding c (whole ++ [c]) := lowerPlural
    have ending : Text.lower (front ++ [c]) = whole ++ [c] := lower
    rw [pluralChars_concat, ending, pluralChars_concat, still, words, other, List.map_append,
      List.map_singleton, plural, same]

end CrudScaffold.Name
