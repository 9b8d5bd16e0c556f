import CrudScaffold.Proofs.Name.Endings

/-!
# Names with the same words

A separated spelling has the words of the name, so it has the other spellings of the name, and two
names with the same words have all four spellings in common (`separated_spellings`). The plural is
made of the text and not of the words: names with the same words have the same plural names where
both end with a small letter or a digit.
-/

namespace CrudScaffold.Name

/-- Two names that are spelled alike in all four ways. -/
structure SameSpellings (name other : String) : Prop where
  /-- Separated by underscores. -/
  snake : snakeCase name = snakeCase other
  /-- Separated by hyphens. -/
  kebab : kebabCase name = kebabCase other
  /-- Joined. -/
  pascal : pascalCase name = pascalCase other
  /-- Joined, the first word small. -/
  camel : camelCase name = camelCase other

/-- A name whose last character is a small ASCII letter or a digit. -/
def EndsSmall (name : String) : Prop :=
  ∃ c, name.toList.getLast? = some c ∧ isSmallOrDigit c = true

/-- The spellings are made of the words alone. -/
theorem sameSpellings_of_words {name other : String}
    (same : words name.toList = words other.toList) : SameSpellings name other where
  snake := by rw [snakeCase, snakeCase, separated, separated, same]
  kebab := by rw [kebabCase, kebabCase, separated, separated, same]
  pascal := by rw [pascalCase, pascalCase, joined, joined, same]
  camel := by rw [camelCase, camelCase, joined, joined, same]

/-- A separated spelling has the words of the name. -/
theorem words_separated {separator : Char} (separates : isSeparator separator = true)
    (name : List Char) : words (separated separator name) = words name :=
  words_intercalate separates fun _ => isPlainWord_of_mem_words

/-- No word of a name has a hyphen, so the two separated spellings differ in the separator only. -/
theorem snakeCase_eq_map (name : String) :
    snakeCase name = (kebabCase name).map fun c => if c = '-' then '_' else c := by
  have plain : (words name.toList).map (·.map fun c => if c = '-' then '_' else c) =
      words name.toList := by
    refine (List.map_congr_left fun word inside => ?_).trans (List.map_id _)
    refine (List.map_congr_left fun c member => if_neg ?_).trans (List.map_id _)
    rintro rfl
    exact absurd ((isPlainWord_of_mem_words inside).solid '-' member) (by decide)
  rw [String.map_eq_internal, kebabCase, String.toList_ofList, separated, Text.map_intercalate,
    plain]
  rfl

/-- Two names with the same words that end with small letters or digits have plurals with the same
words. -/
theorem words_pluralize_eq {name other : String} (same : words name.toList = words other.toList)
    (ends : EndsSmall name) (endsToo : EndsSmall other) :
    words (pluralize name).toList = words (pluralize other).toList := by
  obtain ⟨c, last, small⟩ := ends
  obtain ⟨d, lastToo, smallToo⟩ := endsToo
  obtain ⟨before, word, read, plural⟩ := exists_words_pluralChars last small
  obtain ⟨beforeToo, wordToo, readToo, pluralToo⟩ := exists_words_pluralChars lastToo smallToo
  obtain ⟨rfl, one⟩ := List.append_inj' (read.symm.trans (same.trans readToo)) rfl
  obtain rfl := (List.cons.inj one).1
  rw [pluralize, pluralize, String.toList_ofList, String.toList_ofList, plural, pluralToo]

/-- A separated spelling carries exactly the words of the name. -/
theorem separated_spellings (name : String) :
    words (snakeCase name).toList = words name.toList ∧
      words (kebabCase name).toList = words name.toList ∧
      words ([' '].intercalate (words name.toList)) = words name.toList ∧
      SameSpellings (snakeCase name) name ∧ SameSpellings (kebabCase name) name ∧
      snakeCase name = (kebabCase name).map (fun c => if c = '-' then '_' else c) ∧
      ∀ other, (kebabCase name = kebabCase other ↔ words name.toList = words other.toList) ∧
        (kebabCase name = kebabCase other → SameSpellings name other ∧
          (EndsSmall name → EndsSmall other →
            SameSpellings (pluralize name) (pluralize other))) := by
  have snake : words (snakeCase name).toList = words name.toList := by
    rw [snakeCase, String.toList_ofList, words_separated (by decide)]
  have kebab : words (kebabCase name).toList = words name.toList := by
    rw [kebabCase, String.toList_ofList, words_separated (by decide)]
  refine ⟨snake, kebab, words_separated (by decide) _, sameSpellings_of_words snake,
    sameSpellings_of_words kebab, snakeCase_eq_map name, fun other => ⟨kebabCase_eq_iff, ?_⟩⟩
  intro alike
  have same := kebabCase_eq_iff.mp alike
  exact ⟨sameSpellings_of_words same, fun ends endsToo =>
    sameSpellings_of_words (words_pluralize_eq same ends endsToo)⟩

/-- A class name and a table name with the same words, whose plural changes the last letter. -/
theorem separated_spellings_category :
    pascalCase (pluralize "BlogCategory") = pascalCase (pluralize "blog_category") ∧
      pascalCase (pluralize "blog_category") = "BlogCategories" := by
  have alike : kebabCase "BlogCategory" = kebabCase "blog_category" := by decide +kernel
  have plurals := ((separated_spellings "BlogCategory").2.2.2.2.2.2 "blog_category").2 alike
  exact ⟨(plurals.2 ⟨'y', by decide, rfl⟩ ⟨'y', by decide, rfl⟩).pascal, by decide +kernel⟩

/-- Behind a capital the ending of the plural starts a word of its own. -/
theorem not_sameSpellings_pluralize :
    kebabCase "Box" = kebabCase "BOX" ∧
      kebabCase (pluralize "Box") ≠ kebabCase (pluralize "BOX") := by
  decide +kernel

end CrudScaffold.Name
