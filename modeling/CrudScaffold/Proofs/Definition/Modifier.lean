import CrudScaffold.Proofs.Definition.Segments
import CrudScaffold.Proofs.Text.Word

/-!
# Reading and writing one modifier

A modifier is read from what stands behind its `@`: a word, and arguments for a default or a
relation. `Modifier.body` is its shortest text. A value that was read can be written
(`Modifier.writable_of_parse`): a default is quiet inside its parentheses, whatever else it holds,
and a target is a word. What can be written is read back (`Modifier.parse_body`).
-/

namespace CrudScaffold

open Text

/-- The shortest text of a modifier, without its `@`. -/
def Modifier.body : Modifier → List Char
  | .unique => "unique".toList
  | .id => "id".toList
  | .default value => "default".toList ++ '(' :: (value.toList ++ [')'])
  | .relation target cardinality =>
    "relation".toList ++ '(' :: (target.toList ++ ',' :: cardinality.token.toList ++ [')'])

/-- What the text behind an `@` means if it is read as a modifier. -/
def Modifier.Reads (rest : List Char) : Modifier → Prop
  | .unique => (takeWord rest).1 = "unique".toList ∧ trim (takeWord rest).2 = []
  | .id => (takeWord rest).1 = "id".toList ∧ trim (takeWord rest).2 = []
  | .default value => (takeWord rest).1 = "default".toList ∧
      parenthesized? (trim (takeWord rest).2) = some value.toList
  | .relation target cardinality => (takeWord rest).1 = "relation".toList ∧
      (parenthesized? (trim (takeWord rest).2)).bind relationArguments? = some (target, cardinality)

/-- A modifier that a line can hold. -/
def Modifier.Writable : Modifier → Prop
  | .unique => True
  | .id => True
  | .default value => Nesting.quiet ⟨1, none⟩ value.toList = true ∧
      ∀ c ∈ value.toList, isLineBreak c = false
  | .relation target _ => isWord target.toList

/-- A segment that is read as a modifier is an `@` and a text that means it. -/
theorem Modifier.reads_of_parse {line segment : List Char} {modifier : Modifier}
    (read : Modifier.parse line segment = .ok modifier) :
    ∃ rest, segment = '@' :: rest ∧ modifier.Reads rest := by
  unfold Modifier.parse at read
  dsimp only at read
  split at read
  · rename_i rest
    refine ⟨rest, rfl, ?_⟩
    have bare {word : List Char}
        (both : (decide ((takeWord rest).1 = word) && (trim (takeWord rest).2).isEmpty) = true) :
        (takeWord rest).1 = word ∧ trim (takeWord rest).2 = [] := by
      rw [Bool.and_eq_true] at both
      exact ⟨of_decide_eq_true both.1, List.isEmpty_iff.mp both.2⟩
    split at read
    · obtain rfl := Except.ok.inj read
      exact bare ‹_›
    · split at read
      · obtain rfl := Except.ok.inj read
        exact bare ‹_›
      · split at read
        · split at read
          · obtain rfl := Except.ok.inj read
            rename_i named _ value inside
            exact ⟨named, inside.trans (congrArg some String.toList_ofList.symm)⟩
          · nomatch read
        · split at read
          · split at read
            · obtain rfl := Except.ok.inj read
              exact ⟨‹_›, ‹_›⟩
            · nomatch read
          · nomatch read
  · nomatch read

/-- An `@` and a text that means a modifier are read as the modifier. -/
theorem Modifier.Reads.parse {line rest : List Char} {modifier : Modifier}
    (told : modifier.Reads rest) : Modifier.parse line ('@' :: rest) = .ok modifier := by
  obtain ⟨name, tail, cut⟩ : ∃ name tail, takeWord rest = (name, tail) := ⟨_, _, rfl⟩
  have other {word : List Char} (differs : name ≠ word) :
      ¬(decide (name = word) && (trim tail).isEmpty) = true := by
    rw [Bool.and_eq_true]
    exact fun both => differs (of_decide_eq_true both.1)
  cases modifier with
  | unique =>
    simp only [Modifier.Reads, cut] at told
    obtain ⟨rfl, blank⟩ := told
    simp only [Modifier.parse, cut, blank]
    rfl
  | id =>
    simp only [Modifier.Reads, cut] at told
    obtain ⟨rfl, blank⟩ := told
    simp only [Modifier.parse, cut, blank]
    rfl
  | default value =>
    simp only [Modifier.Reads, cut] at told
    obtain ⟨rfl, inside⟩ := told
    simp only [Modifier.parse, cut]
    rw [if_neg (other (by decide)), if_neg (other (by decide)), if_pos trivial, inside]
    exact congrArg (fun text => Except.ok (Modifier.default text)) String.ofList_toList
  | relation target cardinality =>
    simp only [Modifier.Reads, cut] at told
    obtain ⟨rfl, inside⟩ := told
    simp only [Modifier.parse, cut]
    rw [if_neg (other (by decide)), if_neg (other (by decide)), if_neg (by decide),
      if_pos trivial, inside]

/-- A segment is read as a modifier exactly when it is an `@` and a text that means it. -/
theorem Modifier.parse_eq_ok_iff {line segment : List Char} {modifier : Modifier} :
    Modifier.parse line segment = .ok modifier ↔
      ∃ rest, segment = '@' :: rest ∧ modifier.Reads rest := by
  constructor
  · exact Modifier.reads_of_parse
  · rintro ⟨rest, rfl, told⟩
    exact told.parse

/-- Text is parenthesized exactly when a parenthesis stands at either end. -/
theorem parenthesized?_eq_some_iff {arguments value : List Char} :
    parenthesized? arguments = some value ↔ arguments = '(' :: (value ++ [')']) := by
  constructor
  · intro found
    unfold parenthesized? at found
    split at found
    · split at found
      · rename_i rest last
        obtain ⟨front, rfl⟩ := List.getLast?_eq_some_iff.mp last
        rw [List.dropLast_concat, Option.some.injEq] at found
        rw [found]
      · contradiction
    · contradiction
  · rintro rfl
    simp [parenthesized?]

/-- The target of a relation is a word. -/
theorem isWord_of_relationArguments? {arguments : List Char} {target : String}
    {cardinality : Cardinality}
    (found : relationArguments? arguments = some (target, cardinality)) :
    isWord target.toList := by
  unfold relationArguments? at found
  split at found
  · split at found
    · rename_i word
      obtain ⟨kind, -, same⟩ := Option.map_eq_some_iff.mp found
      rw [← (Prod.mk.inj same).1, String.toList_ofList]
      exact word
    · contradiction
  · contradiction

/-- The name of a cardinality holds no comma, and its ends are not blank. -/
theorem Cardinality.token_chars (cardinality : Cardinality) :
    ',' ∉ cardinality.token.toList ∧ trim cardinality.token.toList = cardinality.token.toList := by
  cases cardinality <;> decide

/-- A target and a cardinality are read from their text. -/
theorem relationArguments?_text {target : String} (word : isWord target.toList)
    (cardinality : Cardinality) :
    relationArguments? (target.toList ++ ',' :: cardinality.token.toList) =
      some (target, cardinality) := by
  have comma : ',' ∉ target.toList := fun member => by
    have := isWordChar_of_mem word member
    revert this
    decide
  have pieces : (target.toList ++ ',' :: cardinality.token.toList).splitOn ',' =
      [target.toList, cardinality.token.toList] := by
    rw [List.splitOn_append_cons_self, List.splitOn_eq_singleton comma,
      List.splitOn_eq_singleton cardinality.token_chars.1]
    rfl
  rw [relationArguments?, pieces, List.map_cons, List.map_singleton,
    trim_wordChars fun c member => isWordChar_of_mem word member, cardinality.token_chars.2]
  simp [word, Cardinality.ofToken?_token]

/-- What was read from a segment can be written. -/
theorem Modifier.writable_of_parse {line row segment : List Char} {modifier : Modifier}
    (member : segment ∈ segments row) (unbroken : ∀ c ∈ row, isLineBreak c = false)
    (read : Modifier.parse line segment = .ok modifier) : modifier.Writable := by
  obtain ⟨rest, rfl, told⟩ := Modifier.parse_eq_ok_iff.mp read
  cases modifier with
  | unique => trivial
  | id => trivial
  | default value =>
    obtain ⟨before, after, parts, blank, -⟩ := exists_trim (takeWord rest).2
    rw [parenthesized?_eq_some_iff.mp told.2] at parts
    have whole := takeWord_append rest
    rw [parts, told.1] at whole
    have quiet := quiet_of_mem_segments member
    have word : Nesting.outside.run "default".toList = .outside := by decide
    rw [← whole, Nesting.quiet_append, word, Nesting.quiet_append, Nesting.quiet_append,
      Nesting.run_of_isBlankText blank, Nesting.quiet, Nesting.quiet_append] at quiet
    simp only [Bool.and_eq_true] at quiet
    refine ⟨quiet.2.1.2.2.1, fun c inside => unbroken c (subset_of_mem_segments member ?_)⟩
    rw [← whole]
    simp [inside]
  | relation target cardinality =>
    obtain ⟨arguments, -, found⟩ := Option.bind_eq_some_iff.mp told.2
    exact isWord_of_relationArguments? found

/-- A parenthesized text is trimmed. -/
theorem trim_parenthesized (value : List Char) :
    trim ('(' :: (value ++ [')'])) = '(' :: (value ++ [')']) := by
  apply trim_eq_self
  · intro c rest same
    obtain ⟨rfl, -⟩ := List.cons.inj same
    decide
  · intro c rest same
    rw [List.reverse_cons, List.reverse_append] at same
    obtain ⟨rfl, -⟩ := List.cons.inj same
    decide

/-- A word with parentheses behind it is read as the two. -/
theorem takeWord_parenthesized {name : List Char} (word : isWord name) (value : List Char) :
    takeWord (name ++ '(' :: (value ++ [')'])) = (name, '(' :: (value ++ [')'])) :=
  takeWord_wordChars_append (fun c member => isWordChar_of_mem word member) fun c more same => by
    obtain ⟨rfl, -⟩ := List.cons.inj same
    decide

/-- A modifier is read back from its shortest text. -/
theorem Modifier.parse_body {modifier : Modifier} (writable : modifier.Writable)
    (line : List Char) : Modifier.parse line ('@' :: modifier.body) = .ok modifier := by
  refine Modifier.parse_eq_ok_iff.mpr ⟨modifier.body, rfl, ?_⟩
  cases modifier with
  | unique => exact ⟨by decide, by decide⟩
  | id => exact ⟨by decide, by decide⟩
  | default value =>
    have read : takeWord (Modifier.default value).body =
        ("default".toList, '(' :: (value.toList ++ [')'])) :=
      takeWord_parenthesized (by decide) value.toList
    refine ⟨congrArg Prod.fst read, ?_⟩
    rw [read, trim_parenthesized]
    exact parenthesized?_eq_some_iff.mpr rfl
  | relation target cardinality =>
    have read : takeWord (Modifier.relation target cardinality).body = ("relation".toList,
        '(' :: (target.toList ++ ',' :: cardinality.token.toList ++ [')'])) :=
      takeWord_parenthesized (by decide) (target.toList ++ ',' :: cardinality.token.toList)
    refine ⟨congrArg Prod.fst read, ?_⟩
    rw [read, trim_parenthesized, parenthesized?_eq_some_iff.mpr rfl]
    exact relationArguments?_text writable cardinality

end CrudScaffold
