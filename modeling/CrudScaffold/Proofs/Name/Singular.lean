import CrudScaffold.Name.Plural
import CrudScaffold.Proofs.Text.Lower

/-!
# The singular of a plural

The singular looks at the ending that the plural has made, and not at the rule that made it. So it
gives back most names but not all: some endings of a plural come from two rules, an `ies` that is
the whole plural is taken for another ending, and the `y` that it puts is always small
(`singularize_pluralize_iff`).
-/

namespace CrudScaffold.Name

variable {name : List Char}

/-! ### Endings -/

/-- A text ends with one of some endings if one of them is its suffix. -/
theorem endsWithAny_iff {endings : List String} {text : List Char} :
    endsWithAny endings text = true ↔ ∃ ending ∈ endings, ending.toList <:+ text := by
  simp [endsWithAny]

/-- The same letters behind the text and behind the endings do not matter. -/
theorem endsWithAny_append (endings : List String) (tail : String) (text : List Char) :
    endsWithAny (endings.map (· ++ tail)) (text ++ tail.toList) = endsWithAny endings text := by
  rw [Bool.eq_iff_iff, endsWithAny_iff, endsWithAny_iff]
  simp [String.toList_append, List.suffix_append_self_iff]

/-- The name ends with a `y` that no vowel precedes. -/
def EndsInY (name : List Char) : Prop :=
  ['y'] <:+ Text.lower name ∧ ∀ vowel ∈ "aeiou".toList, ¬[vowel, 'y'] <:+ Text.lower name

/-- The name ends with a hissing sound. -/
def Hisses (name : List Char) : Prop :=
  ∃ ending ∈ ["s", "sh", "ch", "x", "z"], ending.toList <:+ Text.lower name

/-- The last character of an ending is that of the text. -/
theorem getLast?_of_suffix {ending text : List Char} {c : Char} (last : ending.getLast? = some c)
    (ends : ending <:+ text) : text.getLast? = some c := by
  obtain ⟨front, rfl⟩ := ends
  have some : ending ≠ [] := by
    rintro rfl
    contradiction
  rw [List.getLast?_append_of_ne_nil front some, last]

/-- A hissing sound ends with one of four letters. -/
theorem Hisses.getLast? (hisses : Hisses name) :
    ∃ c ∈ ['s', 'h', 'x', 'z'], (Text.lower name).getLast? = some c := by
  obtain ⟨ending, member, ends⟩ := hisses
  have letters : ∀ ending ∈ ["s", "sh", "ch", "x", "z"],
      ending.toList.getLast? ∈ ['s', 'h', 'x', 'z'].map some := by decide
  obtain ⟨c, among, last⟩ := List.mem_map.mp (letters ending member)
  exact ⟨c, among, getLast?_of_suffix last.symm ends⟩

/-- A name with a letter at its end does not hiss if the letter is none of the four. -/
theorem not_hisses_of_suffix {ending : List Char} {c : Char} (ends : ending <:+ Text.lower name)
    (last : ending.getLast? = some c) (other : c ∉ ['s', 'h', 'x', 'z']) : ¬Hisses name := by
  intro hisses
  obtain ⟨letter, among, same⟩ := hisses.getLast?
  rw [getLast?_of_suffix last ends, Option.some.injEq] at same
  exact other (same ▸ among)

/-! ### The rules of the plural -/

/-- The test for a `y` says what it should. -/
theorem endsInY_iff : (endsWithAny ["y"] (Text.lower name) &&
    !endsWithAny ["ay", "ey", "iy", "oy", "uy"] (Text.lower name)) = true ↔ EndsInY name := by
  rw [Bool.and_eq_true, Bool.not_eq_true', Bool.eq_false_iff, ne_eq, endsWithAny_iff,
    endsWithAny_iff, EndsInY]
  simp

/-- The plural of a name that ends with a `y`. -/
theorem pluralChars_of_endsInY (ends : EndsInY name) :
    pluralChars name = name.dropLast ++ "ies".toList := by
  have some : name ≠ [] := by
    rintro rfl
    exact absurd ends.1 (by decide)
  unfold pluralChars
  dsimp only
  rw [if_neg (by simpa using some), if_pos (endsInY_iff.mpr ends)]

/-- The plural of a name that hisses. -/
theorem pluralChars_of_hisses (hisses : Hisses name) :
    pluralChars name = name ++ "es".toList := by
  have some : name ≠ [] := by
    rintro rfl
    obtain ⟨c, -, last⟩ := hisses.getLast?
    exact absurd last (by simp [Text.lower, Text.lowerFrom])
  have other : ¬EndsInY name := fun ends =>
    not_hisses_of_suffix ends.1 rfl (by decide) hisses
  unfold pluralChars
  dsimp only
  rw [if_neg (by simpa using some), if_neg (mt endsInY_iff.mp other),
    if_pos (endsWithAny_iff.mpr hisses)]

/-- The plural of any other name. -/
theorem pluralChars_of_other (some : name ≠ []) (noY : ¬EndsInY name) (silent : ¬Hisses name) :
    pluralChars name = name ++ "s".toList := by
  unfold pluralChars
  dsimp only
  rw [if_neg (by simpa using some), if_neg (mt endsInY_iff.mp noY),
    if_neg (mt endsWithAny_iff.mp silent)]

/-! ### The way back -/

/-- Whether a text is ASCII can be worked out. -/
theorem ascii_of_all {text : List Char} (all : text.all (·.toNat < 128) = true) :
    ∀ c ∈ text, c.toNat < 128 := by
  simpa using all

/-- An ASCII text behind another one is taken to lower case apart. -/
theorem lower_append_ascii {front back : List Char} (ascii : ∀ c ∈ front, c.toNat < 128)
    (asciiToo : ∀ c ∈ back, c.toNat < 128) :
    Text.lower (front ++ back) = Text.lower front ++ Text.lower back := by
  rw [Text.lower_ascii ascii, Text.lower_ascii asciiToo, ← List.map_append,
    Text.lower_ascii fun c member => (List.mem_append.mp member).elim (ascii c) (asciiToo c)]

/-- From `ies` the singular comes back with a small `y`, if anything stands before it. -/
theorem singularChars_ies {front : List Char} (ascii : ∀ c ∈ front, c.toNat < 128)
    (some : front ≠ []) : singularChars (front ++ "ies".toList) = front ++ ['y'] := by
  have longer := List.length_pos_iff.mpr some
  have ends : endsWithAny ["ies"] (Text.lower (front ++ "ies".toList)) = true := by
    rw [lower_append_ascii ascii (ascii_of_all (by decide)), endsWithAny_iff]
    exact ⟨"ies", by simp, List.suffix_append _ _⟩
  have length : (front ++ "ies".toList).length = front.length + 3 := List.length_append
  unfold singularChars
  dsimp only
  rw [ends, length, if_pos (by simpa using by omega), Nat.add_sub_cancel, List.take_left]

/-- So a name that ends with a `y` comes back if the `y` is small and not the whole name. -/
theorem singularChars_pluralChars_y_iff (ascii : ∀ c ∈ name, c.toNat < 128)
    (ends : EndsInY name) :
    singularChars (pluralChars name) = name ↔ ¬(name.length = 1 ∨ ['Y'] <:+ name) := by
  rw [pluralChars_of_endsInY ends]
  rcases List.eq_nil_or_concat name with rfl | ⟨front, c, rfl⟩
  · exact absurd ends.1 (by decide)
  rw [List.concat_eq_append] at ascii ends ⊢
  rw [List.dropLast_concat]
  have asciiFront : ∀ d ∈ front, d.toNat < 128 := fun d member =>
    ascii d (List.mem_append_left _ member)
  have asciiLast : c.toNat < 128 := ascii c (List.mem_append_right _ (List.mem_singleton_self c))
  by_cases none : front = []
  · subst none
    refine iff_of_false (fun same => ?_) fun lost => lost (.inl rfl)
    have two : (singularChars ([] ++ "ies".toList)).length = 2 := by decide
    rw [same] at two
    exact absurd two (by simp)
  rw [singularChars_ies asciiFront none, List.append_cancel_left_eq]
  have small : c.toLower = 'y' := by
    have last := getLast?_of_suffix rfl ends.1
    rw [Text.lower_ascii ascii, List.map_append, List.map_singleton, List.getLast?_concat] at last
    exact Option.some.inj last
  have letters : ∀ code < 128, (Char.ofNat code).toLower = 'y' →
      Char.ofNat code = 'y' ∨ Char.ofNat code = 'Y' := by decide +kernel
  have either := letters _ asciiLast
  rw [Char.ofNat_toNat] at either
  have longer := List.length_pos_iff.mpr none
  rw [List.length_append, List.length_singleton, List.singleton_suffix_iff_getLast?_eq_some,
    List.getLast?_concat]
  rcases either small with rfl | rfl
  · exact iff_of_true rfl fun lost => lost.elim (by omega) (by decide)
  · exact iff_of_false (by decide) fun lost => lost (.inr rfl)

/-- From `es` behind a hissing sound the name comes back. -/
theorem singularChars_es (ascii : ∀ c ∈ name, c.toNat < 128) (hisses : Hisses name) :
    singularChars (name ++ "es".toList) = name := by
  have noIes : endsWithAny ["ies"] (Text.lower name ++ "es".toList) = false := by
    rw [show ["ies"] = ["i"].map (· ++ "es") by decide, endsWithAny_append, Bool.eq_false_iff,
      ne_eq, endsWithAny_iff]
    rintro ⟨ending, member, ends⟩
    rw [List.mem_singleton.mp member] at ends
    exact not_hisses_of_suffix ends rfl (by decide) hisses
  have hissing : endsWithAny ["ses", "shes", "ches", "xes", "zes"]
      (Text.lower name ++ "es".toList) = true := by
    rw [show ["ses", "shes", "ches", "xes", "zes"] =
      ["s", "sh", "ch", "x", "z"].map (· ++ "es") by decide, endsWithAny_append, endsWithAny_iff]
    exact hisses
  have length : (name ++ "es".toList).length = name.length + 2 := List.length_append
  unfold singularChars
  dsimp only
  rw [lower_append_ascii ascii (ascii_of_all (by decide)),
    show Text.lower "es".toList = "es".toList by decide, noIes, Bool.false_and,
    if_neg Bool.false_ne_true, if_pos hissing, length, Nat.add_sub_cancel, List.take_left]

/-- What the singular makes of a name to which an `s` is added: it takes `ies` and `es` where it sees
them, whether the plural has added them or not. -/
theorem singularChars_append_s (ascii : ∀ c ∈ name, c.toNat < 128) (silent : ¬Hisses name) :
    singularChars (name ++ "s".toList) =
      if "ie".toList <:+ Text.lower name ∧ 3 ≤ name.length then
        name.take (name.length - 2) ++ ['y']
      else if ∃ ending ∈ ["se", "she", "che", "xe", "ze"], ending.toList <:+ Text.lower name then
        name.dropLast
      else name := by
  have ies : endsWithAny ["ies"] (Text.lower name ++ "s".toList) = true ↔
      "ie".toList <:+ Text.lower name := by
    rw [show ["ies"] = ["ie"].map (· ++ "s") by decide, endsWithAny_append, endsWithAny_iff]
    simp
  have hissing : endsWithAny ["ses", "shes", "ches", "xes", "zes"]
      (Text.lower name ++ "s".toList) = true ↔
        ∃ ending ∈ ["se", "she", "che", "xe", "ze"], ending.toList <:+ Text.lower name := by
    rw [show ["ses", "shes", "ches", "xes", "zes"] =
      ["se", "she", "che", "xe", "ze"].map (· ++ "s") by decide, endsWithAny_append,
      endsWithAny_iff]
  have single : (endsWithAny ["s"] (Text.lower name ++ "s".toList) &&
      !endsWithAny ["ss"] (Text.lower name ++ "s".toList)) = true := by
    have noS : endsWithAny ["s"] (Text.lower name) = false := by
      rw [Bool.eq_false_iff, ne_eq, endsWithAny_iff]
      rintro ⟨ending, member, ends⟩
      exact silent ⟨"s", by simp, List.mem_singleton.mp member ▸ ends⟩
    rw [show ["ss"] = ["s"].map (· ++ "s") by decide, endsWithAny_append, noS, Bool.not_false,
      Bool.and_true, endsWithAny_iff]
    exact ⟨"s", by simp, List.suffix_append _ _⟩
  have length : (name ++ "s".toList).length = name.length + 1 := List.length_append
  have cut : (endsWithAny ["ies"] (Text.lower name ++ "s".toList) &&
      decide (3 < (name ++ "s".toList).length)) = true ↔
        "ie".toList <:+ Text.lower name ∧ 3 ≤ name.length := by
    rw [Bool.and_eq_true, ies, length, decide_eq_true_eq, Nat.lt_succ_iff]
  have three : (name ++ "s".toList).take ((name ++ "s".toList).length - 3) =
      name.take (name.length - 2) := by
    rw [length, List.take_append_of_le_length (by omega)]
    rfl
  have two : (name ++ "s".toList).take ((name ++ "s".toList).length - 2) = name.dropLast := by
    rw [length, List.take_append_of_le_length (by omega), List.dropLast_eq_take]
    rfl
  have one : (name ++ "s".toList).dropLast = name := List.dropLast_concat
  unfold singularChars
  dsimp only
  rw [lower_append_ascii ascii (ascii_of_all (by decide)),
    show Text.lower "s".toList = "s".toList by decide]
  simp only [cut, hissing, single, if_true, three, two, one]

/-- A name to which an `s` is added comes back unless another rule is taken for the one that added
it. -/
theorem singularChars_s_eq_iff (ascii : ∀ c ∈ name, c.toNat < 128) (silent : ¬Hisses name) :
    singularChars (name ++ "s".toList) = name ↔
      ¬(∃ ending ∈ ["se", "she", "che", "xe", "ze"], ending.toList <:+ Text.lower name) ∧
        ¬("ie".toList <:+ Text.lower name ∧ 3 ≤ name.length) := by
  rw [singularChars_append_s ascii silent]
  by_cases ie : "ie".toList <:+ Text.lower name ∧ 3 ≤ name.length
  · -- the last two characters give way to one
    rw [if_pos ie]
    refine iff_of_false (fun same => ?_) fun both => both.2 ie
    have shorter := congrArg List.length same
    rw [List.length_append, List.length_take, List.length_singleton] at shorter
    omega
  rw [if_neg ie]
  by_cases hiss : ∃ ending ∈ ["se", "she", "che", "xe", "ze"], ending.toList <:+ Text.lower name
  · -- the last character goes, and it was the name's
    rw [if_pos hiss]
    refine iff_of_false (fun same => ?_) fun both => both.1 hiss
    have shorter := congrArg List.length same
    obtain ⟨ending, member, ends⟩ := hiss
    have some : name ≠ [] := by
      rintro rfl
      have none := List.suffix_nil.mp ends
      revert member
      rw [show ending = "" from String.toList_inj.mp none]
      decide
    have longer := List.length_pos_iff.mpr some
    rw [List.length_dropLast] at shorter
    omega
  · rw [if_neg hiss]
    exact iff_of_true rfl ⟨hiss, ie⟩

/-! ### The names that come back -/

/-- The names that are not given back. -/
inductive Unrecovered (name : List Char) : Prop
  /-- The `y` that is put back is no capital, and it is not put back where nothing stands before. -/
  | ofY (ends : EndsInY name) (lost : name.length = 1 ∨ ['Y'] <:+ name)
  /-- An `e` behind a hissing sound is taken for one that the plural has added. -/
  | ofHiss {ending : String} (member : ending ∈ ["se", "she", "che", "xe", "ze"])
      (ends : ending.toList <:+ Text.lower name)
  /-- An `ie` is taken for the one that a `y` has become. -/
  | ofIe (ends : "ie".toList <:+ Text.lower name) (long : 3 ≤ name.length)

/-- They end with a `y` or with an `e`. -/
theorem Unrecovered.ends (unrecovered : Unrecovered name) :
    (EndsInY name ∧ (name.length = 1 ∨ ['Y'] <:+ name)) ∨
      (Text.lower name).getLast? = some 'e' := by
  cases unrecovered with
  | ofY ends lost => exact .inl ⟨ends, lost⟩
  | ofHiss member ends =>
    have letters : ∀ ending ∈ ["se", "she", "che", "xe", "ze"],
        ending.toList.getLast? = some 'e' := by decide
    exact .inr (getLast?_of_suffix (letters _ member) ends)
  | ofIe ends long => exact .inr (getLast?_of_suffix rfl ends)

/-- The singular of the plural of an ASCII name is the name, but for the names of three kinds. -/
theorem singularize_pluralize_iff (name : String) (ascii : ∀ c ∈ name.toList, c.toNat < 128) :
    singularize (pluralize name) = name ↔ ¬Unrecovered name.toList := by
  rw [singularize, pluralize, String.toList_ofList, ← String.toList_inj, String.toList_ofList]
  generalize name.toList = name at ascii ⊢
  by_cases endsInY : EndsInY name
  · rw [singularChars_pluralChars_y_iff ascii endsInY, not_iff_not]
    refine ⟨.ofY endsInY, fun unrecovered => ?_⟩
    rcases unrecovered.ends with ⟨-, lost⟩ | last
    · exact lost
    · exact absurd (last.symm.trans (getLast?_of_suffix rfl endsInY.1)) (by decide)
  by_cases hisses : Hisses name
  · rw [pluralChars_of_hisses hisses]
    refine iff_of_true (singularChars_es ascii hisses) fun unrecovered => ?_
    obtain ⟨c, member, last⟩ := hisses.getLast?
    rcases unrecovered.ends with ⟨ends, -⟩ | lastToo
    · exact endsInY ends
    · rw [Option.some.inj (last.symm.trans lastToo)] at member
      exact absurd member (by decide)
  by_cases none : name = []
  · subst none
    refine iff_of_true (by decide) fun unrecovered => ?_
    exact unrecovered.ends.elim (fun y => endsInY y.1) (by decide)
  rw [pluralChars_of_other none endsInY hisses, singularChars_s_eq_iff ascii hisses, ← not_or,
    not_iff_not]
  constructor
  · rintro (⟨ending, member, ends⟩ | ⟨ends, long⟩)
    · exact .ofHiss member ends
    · exact .ofIe ends long
  · intro unrecovered
    cases unrecovered with
    | ofY ends lost => exact absurd ends endsInY
    | ofHiss member ends => exact .inl ⟨_, member, ends⟩
    | ofIe ends long => exact .inr ⟨ends, long⟩

/-- A movie does not come back, and it is one of those names. -/
theorem singularize_pluralize_iff_movie :
    (∀ c ∈ "Movie".toList, c.toNat < 128) ∧ singularize (pluralize "Movie") ≠ "Movie" ∧
      Unrecovered "Movie".toList := by
  have ascii : ∀ c ∈ "Movie".toList, c.toNat < 128 := ascii_of_all (by decide)
  have unrecovered : Unrecovered "Movie".toList := .ofIe (by decide) (by decide)
  refine ⟨ascii, fun same => ?_, unrecovered⟩
  exact (singularize_pluralize_iff "Movie" ascii).mp same unrecovered

end CrudScaffold.Name
