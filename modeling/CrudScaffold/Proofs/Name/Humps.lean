import CrudScaffold.Proofs.Name.Reading

/-!
# Words joined with capitals

In a text whose capitals stand behind small letters and digits the second pass of the reader finds
every boundary, and what the first pass does before it makes no difference
(`spaceHumps_spaceCapitalized`). So words of small letters and digits are read back from all of
their spellings, and each spelling of a name can be made from every other one (`respell`).
-/

namespace CrudScaffold.Name

/-! ### The two passes -/

/-- Every capital but the first character stands behind a small letter or a digit. -/
def Humped : List Char → Prop
  | [] => True
  | c :: rest => (startsCapital rest = true → isSmallOrDigit c = true) ∧ Humped rest

/-- A capital and a small letter start with a capital. -/
theorem startsCapital_of_startsCapitalized {text : List Char}
    (capitalized : startsCapitalized text = true) : startsCapital text = true := by
  match text with
  | [] => contradiction
  | [_] => contradiction
  | c :: d :: rest => exact (Bool.and_eq_true_iff.mp capitalized).1

/-- The first pass keeps the first character. -/
theorem startsCapital_spaceCapitalized (stage : Stage) (text : List Char) :
    startsCapital (spaceCapitalized stage text) = startsCapital text := by
  cases text with
  | nil => rfl
  | cons c rest =>
    unfold spaceCapitalized
    split
    · rfl
    · split
      · rfl
      · split <;> rfl

/-- What the first pass does makes no difference to the second one: it puts spaces only where the
other would. -/
theorem spaceHumps_spaceCapitalized {text : List Char} (humped : Humped text) (stage : Stage) :
    spaceHumps (spaceCapitalized stage text) = spaceHumps text := by
  induction text generalizing stage with
  | nil => rfl
  | cons c rest ih =>
    obtain ⟨here, later⟩ := humped
    have kept (other : Stage) :
        spaceHumps (c :: spaceCapitalized other rest) = spaceHumps (c :: rest) := by
      rw [spaceHumps, spaceHumps, startsCapital_spaceCapitalized, ih later]
    unfold spaceCapitalized
    split
    · exact kept _
    · split
      · exact kept _
      · split
        next spaced =>
          -- the space that is put here is the one that the second pass would put
          have starts := startsCapital_of_startsCapitalized (Bool.and_eq_true_iff.mp spaced).2
          have both : (isSmallOrDigit c && startsCapital rest) = true :=
            Bool.and_eq_true_iff.mpr ⟨here starts, starts⟩
          rw [spaceHumps, if_neg (by simp [startsCapital, isCapital]), spaceHumps,
            if_neg (by simp [isSmallOrDigit, isSmall]), ih later, spaceHumps, if_pos both]
        · exact kept _

/-! ### Humps -/

/-- A letter and some small letters and digits behind it. -/
structure IsHump (text : List Char) : Prop where
  /-- The letter in front. -/
  head : ∃ c rest, text = c :: rest ∧ (isCapital c = true ∨ isSmall c = true) ∧ rest ≠ []
  /-- What stands behind it. -/
  tail : ∀ d ∈ text.tail, isSmallOrDigit d = true

/-- The code of a small letter or a digit. -/
theorem isSmallOrDigit_iff {c : Char} : isSmallOrDigit c = true ↔
    (97 ≤ c.toNat ∧ c.toNat ≤ 122) ∨ (48 ≤ c.toNat ∧ c.toNat ≤ 57) := by
  simp only [isSmallOrDigit, isSmall, Bool.or_eq_true, Bool.and_eq_true, decide_eq_true_eq]
  rfl

/-- The code of a capital. -/
theorem isCapital_iff {c : Char} : isCapital c = true ↔ 65 ≤ c.toNat ∧ c.toNat ≤ 90 := by
  simp only [isCapital, Bool.and_eq_true, decide_eq_true_eq]
  rfl

/-- No small letter or digit is a capital. -/
theorem isCapital_of_isSmallOrDigit {c : Char} (small : isSmallOrDigit c = true) :
    isCapital c = false := by
  rw [isSmallOrDigit_iff] at small
  rw [Bool.eq_false_iff, ne_eq, isCapital_iff]
  omega

/-- An ASCII letter or digit separates no words. -/
theorem isSeparator_of_code {c : Char}
    (code : (65 ≤ c.toNat ∧ c.toNat ≤ 90) ∨ (97 ≤ c.toNat ∧ c.toNat ≤ 122) ∨
      (48 ≤ c.toNat ∧ c.toNat ≤ 57)) : isSeparator c = false := by
  rw [Bool.eq_false_iff, ne_eq, isSeparator_iff]
  rintro (rfl | rfl | blank)
  · revert code
    decide
  · revert code
    decide
  · simp only [Text.isBlank, Bool.or_eq_true, Bool.and_eq_true, decide_eq_true_eq, beq_iff_eq]
      at blank
    omega

/-- A hump is a piece. -/
theorem IsHump.isPiece {text : List Char} (hump : IsHump text) : IsPiece text := by
  obtain ⟨c, rest, rfl, letter, -⟩ := hump.head
  refine ⟨List.cons_ne_nil _ _, fun d member => ?_⟩
  rcases List.mem_cons.mp member with rfl | behind
  · rcases letter with capital | small
    · exact isSeparator_of_code (.inl (isCapital_iff.mp capital))
    · have code := isSmallOrDigit_iff.mp (by rw [isSmallOrDigit, small, Bool.true_or])
      exact isSeparator_of_code (.inr code)
  · exact isSeparator_of_code (.inr (isSmallOrDigit_iff.mp (hump.tail d behind)))

/-- A text of small letters and digits in front of a text with humps is one too, and the second pass
puts a space between them if a capital follows. -/
theorem humped_append {front back : List Char} (small : ∀ c ∈ front, isSmallOrDigit c = true)
    (humped : Humped back) :
    Humped (front ++ back) ∧ (front ≠ [] → startsCapital back = true →
      spaceHumps (front ++ back) = front ++ ' ' :: spaceHumps back) := by
  induction front with
  | nil => exact ⟨humped, fun none => absurd rfl none⟩
  | cons c front ih =>
    obtain ⟨here, later⟩ := List.forall_mem_cons.mp small
    obtain ⟨inside, spaced⟩ := ih later
    refine ⟨⟨fun _ => here, inside⟩, fun _ capital => ?_⟩
    cases front with
    | nil =>
      rw [List.singleton_append, spaceHumps, here, capital, Bool.and_self, if_pos rfl]
      rfl
    | cons d front =>
      have noCapital := isCapital_of_isSmallOrDigit (later d List.mem_cons_self)
      rw [List.cons_append, spaceHumps, if_neg (by simp [startsCapital, noCapital]),
        spaced (List.cons_ne_nil _ _) capital]
      rfl

/-- A text that starts with a small letter or a digit starts with no capital. -/
theorem startsCapital_append {front : List Char} (some : front ≠ [])
    (small : ∀ c ∈ front, isSmallOrDigit c = true) (back : List Char) :
    startsCapital (front ++ back) = false := by
  cases front with
  | nil => contradiction
  | cons c front => exact isCapital_of_isSmallOrDigit (small c List.mem_cons_self)

/-- Humps of which all but the first start with a capital are found by the second pass. -/
theorem spaceHumps_humps {first : List Char} {others : List (List Char)} (hump : IsHump first)
    (humps : ∀ text ∈ others, IsHump text ∧ startsCapital text = true) :
    Humped (first ++ others.flatten) ∧
      spaceHumps (first ++ others.flatten) = [' '].intercalate (first :: others) := by
  induction others generalizing first with
  | nil =>
    obtain ⟨c, rest, rfl, -, some⟩ := hump.head
    have small : ∀ d ∈ rest, isSmallOrDigit d = true := hump.tail
    have noCapital := startsCapital_append some small []
    have plain := spaceHumps_eq_self fun d member => isCapital_of_isSmallOrDigit (small d member)
    have humped := (@humped_append rest [] small trivial).1
    rw [List.append_nil] at noCapital humped
    rw [List.flatten_nil, List.append_nil, List.intercalate_singleton, spaceHumps, noCapital,
      Bool.and_false, if_neg Bool.false_ne_true, plain]
    exact ⟨⟨fun capital => absurd capital (by simp [noCapital]), humped⟩, rfl⟩
  | cons next others ih =>
    obtain ⟨⟨humpToo, starts⟩, later⟩ := List.forall_mem_cons.mp humps
    obtain ⟨humped, read⟩ := ih humpToo later
    have capital : startsCapital (next ++ others.flatten) = true := by
      obtain ⟨c, rest, rfl, -⟩ := humpToo.head
      exact starts
    obtain ⟨c, rest, rfl, -, some⟩ := hump.head
    have small : ∀ d ∈ rest, isSmallOrDigit d = true := hump.tail
    obtain ⟨inside, spaced⟩ := humped_append small humped
    have noCapital := startsCapital_append some small (next ++ others.flatten)
    rw [List.flatten_cons, List.cons_append, spaceHumps, noCapital, Bool.and_false,
      if_neg Bool.false_ne_true, spaced some capital, read, List.intercalate_cons_cons]
    refine ⟨⟨fun capital => absurd capital (by simp [noCapital]), inside⟩, ?_⟩
    simp

/-- Humps of which all but the first start with a capital are the words of their text. -/
theorem words_humps {first : List Char} {others : List (List Char)} (hump : IsHump first)
    (humps : ∀ text ∈ others, IsHump text ∧ startsCapital text = true) :
    words (first ++ others.flatten) = (first :: others).map Text.lower := by
  obtain ⟨humped, spaced⟩ := spaceHumps_humps hump humps
  have pieces : ∀ piece ∈ first :: others, IsPiece piece :=
    List.forall_mem_cons.mpr ⟨hump.isPiece, fun text member => (humps text member).1.isPiece⟩
  have whole : IsPiece (first ++ others.flatten) := by
    refine ⟨List.append_ne_nil_of_left_ne_nil hump.isPiece.some _, fun c member => ?_⟩
    rw [← List.flatten_cons] at member
    obtain ⟨piece, inside, here⟩ := List.mem_flatten.mp member
    exact (pieces piece inside).solid c here
  have trimmed := @trim_intercalate ' ' [first ++ others.flatten]
    fun text member => List.mem_singleton.mp member ▸ ⟨whole.some, whole.not_blank⟩
  rw [List.intercalate_singleton] at trimmed
  exact @words_of_spaced ' ' (by decide) _ _ pieces trimmed
    (by rw [spaceHumps_spaceCapitalized humped, spaced])

/-! ### Simple words -/

/-- A small letter and at least one small letter or digit behind it. -/
def isSimpleWord : List Char → Bool
  | c :: d :: rest => isSmall c && (d :: rest).all isSmallOrDigit
  | _ => false

/-- The parts of a simple word. -/
theorem isSimpleWord_iff {word : List Char} : isSimpleWord word = true ↔
    ∃ c rest, word = c :: rest ∧ isSmall c = true ∧ rest ≠ [] ∧
      ∀ d ∈ rest, isSmallOrDigit d = true := by
  constructor
  · intro simple
    match word with
    | [] => contradiction
    | [_] => contradiction
    | c :: d :: rest =>
      obtain ⟨small, chars⟩ := Bool.and_eq_true_iff.mp simple
      exact ⟨c, d :: rest, rfl, small, List.cons_ne_nil _ _, List.all_eq_true.mp chars⟩
  · rintro ⟨c, rest, rfl, small, some, chars⟩
    cases rest with
    | nil => contradiction
    | cons d rest => exact Bool.and_eq_true_iff.mpr ⟨small, List.all_eq_true.mpr chars⟩

/-- A word with a capital in front. -/
def capitalized : List Char → List Char
  | [] => []
  | c :: rest => c.toUpper :: rest

/-- The spellings of a list of words. -/
inductive Spelling
  | snake
  | kebab
  | spaced
  | pascal
  | camel
deriving DecidableEq, Repr

/-- The words in a spelling. -/
def Spelling.write : Spelling → List (List Char) → List Char
  | .snake, texts => ['_'].intercalate texts
  | .kebab, texts => ['-'].intercalate texts
  | .spaced, texts => [' '].intercalate texts
  | .pascal, texts => texts.flatMap capitalized
  | .camel, [] => []
  | .camel, first :: others => first ++ others.flatMap capitalized

/-- Lower case keeps small letters and digits. -/
theorem isLowered_of_isSmallOrDigit {c : Char} (small : isSmallOrDigit c = true) :
    Text.IsLowered c := by
  rw [isSmallOrDigit_iff] at small
  exact (Text.isUnmapped_ascii (by omega) (by omega)).isLowered

/-- A small letter has a capital, and is the small letter of it. -/
theorem toUpper_small {c : Char} (small : isSmall c = true) :
    c.toNat < 128 ∧ isCapital c.toUpper = true ∧ c.toUpper.toNat < 128 ∧
      c.toUpper.toLower = c := by
  have ascii : c.toNat < 128 := by
    have code := isSmallOrDigit_iff.mp (by rw [isSmallOrDigit, small, Bool.true_or])
    omega
  have letters : ∀ code < 128, isSmall (Char.ofNat code) = true →
      isCapital (Char.ofNat code).toUpper = true ∧ (Char.ofNat code).toUpper.toNat < 128 ∧
        (Char.ofNat code).toUpper.toLower = Char.ofNat code := by decide +kernel
  have found := letters _ ascii
  rw [Char.ofNat_toNat] at found
  exact ⟨ascii, found small⟩

section

variable {word : List Char} {texts : List (List Char)}

/-- A simple word is a hump. -/
theorem isHump_of_isSimpleWord (simple : isSimpleWord word = true) : IsHump word := by
  obtain ⟨c, rest, rfl, small, some, chars⟩ := isSimpleWord_iff.mp simple
  exact ⟨⟨c, rest, rfl, .inr small, some⟩, chars⟩

/-- A simple word is one that a name may have. -/
theorem isPlainWord_of_isSimpleWord (simple : isSimpleWord word = true) : IsPlainWord word := by
  refine ⟨(isHump_of_isSimpleWord simple).isPiece, ?_⟩
  obtain ⟨c, rest, rfl, small, -, chars⟩ := isSimpleWord_iff.mp simple
  refine List.forall_mem_cons.mpr ⟨?_, fun d member => isLowered_of_isSmallOrDigit (chars d member)⟩
  exact isLowered_of_isSmallOrDigit (by rw [isSmallOrDigit, small, Bool.true_or])

/-- A simple word with a capital is a hump as well, and the word in another case. -/
theorem isHump_capitalized (simple : isSimpleWord word = true) :
    IsHump (capitalized word) ∧ startsCapital (capitalized word) = true ∧
      Text.lower (capitalized word) = word ∧ capitalize word = capitalized word := by
  obtain ⟨c, rest, rfl, small, some, chars⟩ := isSimpleWord_iff.mp simple
  obtain ⟨ascii, capital, asciiToo, back⟩ := toUpper_small small
  refine ⟨⟨⟨_, _, rfl, .inl capital, some⟩, chars⟩, capital, ?_, ?_⟩
  · have kept := Text.lowerFrom_eq_self fun d member => isLowered_of_isSmallOrDigit (chars d member)
    rw [capitalized, Text.lower, Text.lowerFrom, Text.lowerAt_ascii asciiToo, back, kept]
    rfl
  · rw [capitalize, Text.upperChar, if_pos ascii]
    rfl

/-- Simple words with capitals are those of the words. -/
theorem map_lower_capitalized (simple : ∀ word ∈ texts, isSimpleWord word = true) :
    (texts.map capitalized).map Text.lower = texts := by
  rw [List.map_map]
  exact (List.map_congr_left fun word member => (isHump_capitalized (simple word member)).2.2.1)
    |>.trans (List.map_id texts)

/-- Simple words are read back from all of their spellings. -/
theorem words_write (simple : ∀ word ∈ texts, isSimpleWord word = true) (spelling : Spelling) :
    words (spelling.write texts) = texts := by
  have plain : ∀ word ∈ texts, IsPlainWord word := fun word member =>
    isPlainWord_of_isSimpleWord (simple word member)
  have humps {others : List (List Char)} (inside : ∀ word ∈ others, isSimpleWord word = true) :
      ∀ text ∈ others.map capitalized, IsHump text ∧ startsCapital text = true := by
    intro text member
    obtain ⟨word, among, rfl⟩ := List.mem_map.mp member
    obtain ⟨hump, capital, -⟩ := isHump_capitalized (inside word among)
    exact ⟨hump, capital⟩
  cases spelling with
  | snake => exact words_intercalate (by decide) plain
  | kebab => exact words_intercalate (by decide) plain
  | spaced => exact words_intercalate (by decide) plain
  | pascal =>
    cases texts with
    | nil => rfl
    | cons first others =>
      obtain ⟨here, later⟩ := List.forall_mem_cons.mp simple
      rw [Spelling.write, List.flatMap_cons, List.flatMap_def,
        words_humps (isHump_capitalized here).1 (humps later), ← List.map_cons,
        map_lower_capitalized simple]
  | camel =>
    cases texts with
    | nil => rfl
    | cons first others =>
      obtain ⟨here, later⟩ := List.forall_mem_cons.mp simple
      have kept := Text.lowerFrom_eq_self (plain first List.mem_cons_self).lowered false
      rw [Spelling.write, List.flatMap_def, words_humps (isHump_of_isSimpleWord here) (humps later),
        List.map_cons, map_lower_capitalized later, Text.lower, kept]

/-- A name in simple words has the spellings of its words. -/
theorem spellings_of_words {name : String} (read : words name.toList = texts)
    (simple : ∀ word ∈ texts, isSimpleWord word = true) :
    snakeCase name = String.ofList (Spelling.snake.write texts) ∧
      kebabCase name = String.ofList (Spelling.kebab.write texts) ∧
      pascalCase name = String.ofList (Spelling.pascal.write texts) ∧
      camelCase name = String.ofList (Spelling.camel.write texts) := by
  have joined : joined name.toList = Spelling.pascal.write texts := by
    rw [Name.joined, read]
    exact List.flatMap_congr fun word member => (isHump_capitalized (simple word member)).2.2.2
  refine ⟨by rw [snakeCase, separated, read]; rfl, by rw [kebabCase, separated, read]; rfl,
    by rw [pascalCase, joined], ?_⟩
  rw [camelCase, joined]
  cases texts with
  | nil => rfl
  | cons first others =>
    obtain ⟨c, rest, rfl, small, -⟩ := isSimpleWord_iff.mp (simple first List.mem_cons_self)
    obtain ⟨-, -, ascii, back⟩ := toUpper_small small
    rw [Spelling.write, List.flatMap_cons, capitalized, List.cons_append, uncapitalize, Text.lower,
      Text.lowerFrom, Text.lowerAt_ascii ascii, back]
    rfl

end

/-- Every spelling of simple words has the words, and it can be turned into every other one. -/
theorem respell (texts : List (List Char)) (simple : ∀ word ∈ texts, isSimpleWord word = true)
    (spelling : Spelling) :
    let name := String.ofList (spelling.write texts)
    words name.toList = texts ∧
      snakeCase name = String.ofList (Spelling.snake.write texts) ∧
      kebabCase name = String.ofList (Spelling.kebab.write texts) ∧
      pascalCase name = String.ofList (Spelling.pascal.write texts) ∧
      camelCase name = String.ofList (Spelling.camel.write texts) ∧
      pascalCase (pascalCase name) = pascalCase name ∧
      camelCase (camelCase name) = camelCase name := by
  intro name
  have read (other : Spelling) : words (String.ofList (other.write texts)).toList = texts := by
    rw [String.toList_ofList, words_write simple other]
  obtain ⟨snake, kebab, pascal, camel⟩ := spellings_of_words (read spelling) simple
  refine ⟨read spelling, snake, kebab, pascal, camel, ?_, ?_⟩
  · rw [pascal, (spellings_of_words (read .pascal) simple).2.2.1]
  · rw [camel, (spellings_of_words (read .camel) simple).2.2.2]

/-- Words whose boundaries in Pascal case are found by the one pass and by the other. -/
theorem respell_api_keys :
    (∀ word ∈ ["oauth2".toList, "api".toList, "k8s".toList], isSimpleWord word = true) ∧
      snakeCase "Oauth2ApiK8s" = "oauth2_api_k8s" ∧
      camelCase "oauth2-api-k8s" = "oauth2ApiK8s" := by
  have simple : ∀ word ∈ ["oauth2".toList, "api".toList, "k8s".toList],
      isSimpleWord word = true := by decide
  refine ⟨simple, ?_, ?_⟩
  · exact (respell _ simple .pascal).2.1
  · exact (respell _ simple .kebab).2.2.2.2.1

end CrudScaffold.Name
