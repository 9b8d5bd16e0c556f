import CrudScaffold.Name.Plural
import CrudScaffold.Proofs.Text.Case
import CrudScaffold.Proofs.Text.Intercalate
import CrudScaffold.Proofs.Text.Word

/-!
# Characters of a spelling

The spellings in small letters hold the characters of the name, the separator and letters. So they
are free of line feeds, dots and slashes where the name is a word. And they tell the words that they
are made of, so two names share their files, or their tables, only if they share words.
-/

namespace CrudScaffold.Name

/-- Spaces are all that is put in front of capitalized words. -/
theorem mem_spaceCapitalized {stage : Stage} {text : List Char} {d : Char}
    (member : d ∈ spaceCapitalized stage text) : d ∈ text ∨ d = ' ' := by
  induction text generalizing stage with
  | nil => exact absurd member (by simp [spaceCapitalized])
  | cons c rest ih =>
    have later {other : Stage} (inside : d ∈ spaceCapitalized other rest) :
        d ∈ c :: rest ∨ d = ' ' := (ih inside).imp_left (List.mem_cons_of_mem _)
    unfold spaceCapitalized at member
    split at member
    · rcases List.mem_cons.mp member with rfl | inside
      · exact .inl List.mem_cons_self
      · exact later inside
    · split at member
      · rcases List.mem_cons.mp member with rfl | inside
        · exact .inl List.mem_cons_self
        · exact later inside
      · split at member
        · rcases List.mem_cons.mp member with rfl | behind
          · exact .inl List.mem_cons_self
          · rcases List.mem_cons.mp behind with rfl | inside
            · exact .inr rfl
            · exact later inside
        · rcases List.mem_cons.mp member with rfl | inside
          · exact .inl List.mem_cons_self
          · exact later inside

/-- Spaces are all that is put in front of capitals. -/
theorem mem_spaceHumps {text : List Char} {d : Char} (member : d ∈ spaceHumps text) :
    d ∈ text ∨ d = ' ' := by
  induction text with
  | nil => exact .inl member
  | cons c rest ih =>
    unfold spaceHumps at member
    split at member
    · rcases List.mem_cons.mp member with rfl | behind
      · exact .inl List.mem_cons_self
      · rcases List.mem_cons.mp behind with rfl | inside
        · exact .inr rfl
        · exact (ih inside).imp_left (List.mem_cons_of_mem _)
    · rcases List.mem_cons.mp member with rfl | inside
      · exact .inl List.mem_cons_self
      · exact (ih inside).imp_left (List.mem_cons_of_mem _)

/-- The pieces of a split text are made of its characters that separate nothing. -/
theorem mem_of_mem_splitOnP {separates : Char → Bool} {text piece : List Char} {d : Char}
    (inside : piece ∈ text.splitOnP separates) (member : d ∈ piece) :
    d ∈ text ∧ separates d = false := by
  induction text generalizing piece with
  | nil =>
    rw [List.splitOnP_nil, List.mem_singleton] at inside
    rw [inside] at member
    contradiction
  | cons c rest ih =>
    rw [List.splitOnP_cons_eq_if_modifyHead] at inside
    split at inside
    · rcases List.mem_cons.mp inside with rfl | later
      · contradiction
      · exact (ih later member).imp_left (List.mem_cons_of_mem _)
    next keeps =>
      cases pieces : rest.splitOnP separates with
      | nil =>
        rw [pieces] at inside
        contradiction
      | cons first others =>
        rw [pieces] at inside ih
        rcases List.mem_cons.mp inside with rfl | later
        · rcases List.mem_cons.mp member with rfl | back
          · exact ⟨List.mem_cons_self, by simpa using keeps⟩
          · exact (ih List.mem_cons_self back).imp_left (List.mem_cons_of_mem _)
        · exact (ih (List.mem_cons_of_mem _ later) member).imp_left (List.mem_cons_of_mem _)

/-- A word of a name is made of its characters, the separators aside, and of small letters. -/
theorem mem_words {name word : List Char} {d : Char} (inside : word ∈ words name)
    (member : d ∈ word) : d ∈ name ∧ isSeparator d = false ∨ Text.IsImage 97 122 d := by
  obtain ⟨piece, taken, rfl⟩ := List.mem_map.mp inside
  rcases Text.mem_lowerFrom member with kept | letter
  · obtain ⟨spaced, plain⟩ := mem_of_mem_splitOnP (List.mem_filter.mp taken).1 kept
    have noSpace : d ≠ ' ' := by
      rintro rfl
      exact absurd plain (by decide)
    have spaced := (mem_spaceHumps spaced).resolve_right noSpace
    have trimmed := (mem_spaceCapitalized spaced).resolve_right noSpace
    exact .inl ⟨(Text.trim_isInfix name).subset trimmed, plain⟩
  · exact .inr letter

/-- A word of a name has characters. -/
theorem ne_nil_of_mem_words {name word : List Char} (inside : word ∈ words name) : word ≠ [] := by
  obtain ⟨piece, taken, rfl⟩ := List.mem_map.mp inside
  have kept := (List.mem_filter.mp taken).2
  exact Text.lower_ne_nil (by simpa using kept)

/-- The words of a name with a separator between them are made of its characters, of the separator
and of small letters. -/
theorem mem_separated {separator : Char} {name : List Char} {d : Char}
    (member : d ∈ separated separator name) :
    d = separator ∨ d ∈ name ∨ Text.IsImage 97 122 d := by
  rcases Text.mem_intercalate member with same | ⟨word, inside, here⟩
  · exact .inl (List.mem_singleton.mp same)
  · exact .inr ((mem_words inside here).imp_left And.left)

/-- A text without a character has none of it in its spellings, if the character is no separator
and no small letter. -/
theorem notMem_separated {separator : Char} {name : List Char} {d : Char} (absent : d ∉ name)
    (other : d ≠ separator) (small : ¬Text.IsImage 97 122 d) : d ∉ separated separator name := by
  intro member
  rcases mem_separated member with same | kept | letter
  · exact other same
  · exact absent kept
  · exact small letter

/-- The plural of a name is made of its characters and of small letters. -/
theorem mem_pluralChars {name : List Char} {d : Char} (member : d ∈ pluralChars name) :
    d ∈ name ∨ Text.IsImage 97 122 d := by
  unfold pluralChars at member
  dsimp only at member
  split at member
  · exact .inl member
  · split at member
    · rcases List.mem_append.mp member with kept | ending
      · exact .inl ((List.dropLast_sublist name).mem kept)
      · exact .inr (by simp at ending; rcases ending with rfl | rfl | rfl <;> decide)
    · split at member
      · rcases List.mem_append.mp member with kept | ending
        · exact .inl kept
        · exact .inr (by simp at ending; rcases ending with rfl | rfl <;> decide)
      · rcases List.mem_append.mp member with kept | ending
        · exact .inl kept
        · exact .inr (by simp at ending; subst ending; decide)

/-- The name of a table holds nothing that the name of its entity does not, but underscores and
letters. -/
theorem notMem_tableName {name : String} {d : Char} (absent : d ∉ name.toList) (other : d ≠ '_')
    (small : ¬Text.IsImage 97 122 d) : d ∉ (tableName name).toList := by
  rw [tableName, snakeCase, String.toList_ofList, pluralize, String.toList_ofList]
  refine notMem_separated (fun member => ?_) other small
  exact (mem_pluralChars member).elim absent small

/-- The name of the files of an entity holds nothing that the name of the entity does not, but
hyphens and letters. -/
theorem notMem_kebabCase {name : String} {d : Char} (absent : d ∉ name.toList) (other : d ≠ '-')
    (small : ¬Text.IsImage 97 122 d) : d ∉ (kebabCase name).toList := by
  rw [kebabCase, String.toList_ofList]
  exact notMem_separated absent other small

/-- The name of the classes of an entity holds nothing that the name of the entity does not, but
letters and characters beyond ASCII. -/
theorem notMem_pascalCase {name : String} {d : Char} (absent : d ∉ name.toList)
    (capital : ¬Text.IsImage 65 90 d) (small : ¬Text.IsImage 97 122 d) :
    d ∉ (pascalCase name).toList := by
  rw [pascalCase, String.toList_ofList]
  intro member
  obtain ⟨word, inside, here⟩ := List.mem_flatMap.mp member
  have outside {c : Char} (found : c ∈ word) : d ≠ c := by
    rintro rfl
    rcases mem_words inside found with ⟨kept, -⟩ | letter
    · exact absent kept
    · exact small letter
  cases word with
  | nil => exact absurd here List.not_mem_nil
  | cons c rest =>
    rcases List.mem_append.mp here with first | later
    · rcases Text.mem_upperChar first with same | letter
      · exact outside List.mem_cons_self same
      · exact capital letter
    · exact outside (List.mem_cons_of_mem _ later) rfl

/-- A spelling tells the words, if the character between them comes before the letters and is one
that separates words. -/
theorem separated_eq_iff {separator : Char} (separates : isSeparator separator = true)
    (before : separator.toNat < 97) {name other : List Char} :
    separated separator name = separated separator other ↔ words name = words other := by
  have absent (name : List Char) : ∀ word ∈ words name, separator ∉ word := by
    intro word inside member
    rcases mem_words inside member with ⟨-, plain⟩ | letter
    · rw [separates] at plain
      contradiction
    · have := letter.le (by decide)
      omega
  have empty {name : List Char} (none : separated separator name = []) : words name = [] := by
    by_contra some
    have split := List.splitOn_intercalate separator (absent name) some
    rw [show [separator].intercalate (words name) = [] from none, List.splitOn_nil] at split
    exact ne_nil_of_mem_words (split ▸ List.mem_singleton_self []) rfl
  refine ⟨fun same => ?_, fun same => by rw [separated, separated, same]⟩
  by_cases none : words name = []
  · rw [separated, none, List.intercalate_nil] at same
    rw [none, empty same.symm]
  by_cases also : words other = []
  · rw [separated, separated, also, List.intercalate_nil] at same
    exact absurd (empty same) none
  · rw [← List.splitOn_intercalate separator (absent name) none,
      ← List.splitOn_intercalate separator (absent other) also]
    exact congrArg _ same

/-- The files of two names have the same name exactly if the names have the same words. -/
theorem kebabCase_eq_iff {name other : String} :
    kebabCase name = kebabCase other ↔ words name.toList = words other.toList := by
  rw [kebabCase, kebabCase, String.ofList_inj]
  exact separated_eq_iff (by decide) (by decide)

/-- Two names have the same table exactly if their plurals have the same words. -/
theorem tableName_eq_iff {name other : String} :
    tableName name = tableName other ↔
      words (pluralChars name.toList) = words (pluralChars other.toList) := by
  rw [tableName, tableName, snakeCase, snakeCase, String.ofList_inj, pluralize, pluralize,
    String.toList_ofList, String.toList_ofList]
  exact separated_eq_iff (by decide) (by decide)

end CrudScaffold.Name
