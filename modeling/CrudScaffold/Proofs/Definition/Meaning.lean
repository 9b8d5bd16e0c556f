import CrudScaffold.Proofs.Definition.Grammar

/-!
# What a row of modifiers means

A default whose quotes and parentheses are closed (`Bracketed`) leaves nothing open, and no other
modifier does, so a row of such modifiers in any order and number is cut into just these
(`Modifiers.exists_row`). Each mark counts wherever it stands, and the last default and the last
relation win (`Field.Means`). The blanks inside a relation may hold a line feed as far as the
modifier alone is concerned, but a line of a definition may not.
-/

namespace CrudScaffold

open Text

/-- A text in which every parenthesis and every quote is closed, and no parenthesis is closed that
was not opened. What stands in quotes does not count. -/
inductive Bracketed : List Char → Prop
  | nil : Bracketed []
  | plain {c : Char} {rest : List Char} (plain : Nesting.isMark c = false)
      (others : Bracketed rest) : Bracketed (c :: rest)
  | quoted {quote : Char} {text rest : List Char} (mark : quote = '\'' ∨ quote = '"')
      (inside : quote ∉ text) (others : Bracketed rest) :
      Bracketed (quote :: (text ++ quote :: rest))
  | nested {text rest : List Char} (inside : Bracketed text) (others : Bracketed rest) :
      Bracketed ('(' :: (text ++ ')' :: rest))

/-- A text without marks is bracketed. -/
theorem Bracketed.of_not_mark {text : List Char}
    (plain : ∀ c ∈ text, Nesting.isMark c = false) : Bracketed text := by
  induction text with
  | nil => exact .nil
  | cons c text ih =>
    obtain ⟨first, others⟩ := List.forall_mem_cons.mp plain
    exact .plain first (ih others)

namespace Nesting

/-- In a quote, a text without the quote changes nothing. -/
theorem run_of_not_mem_quote {depth : Nat} {quote : Char} {text : List Char}
    (inside : quote ∉ text) : run ⟨depth, some quote⟩ text = ⟨depth, some quote⟩ := by
  induction text with
  | nil => rfl
  | cons c text ih =>
    rw [List.mem_cons, not_or] at inside
    rw [run, List.foldl_cons, step_of_ne_quote inside.1]
    exact ih inside.2

/-- In a quote, no modifier starts before the quote is closed. -/
theorem quiet_of_not_mem_quote {depth : Nat} {quote : Char} {text : List Char}
    (inside : quote ∉ text) : quiet ⟨depth, some quote⟩ text = true := by
  induction text with
  | nil => rfl
  | cons c text ih =>
    rw [List.mem_cons, not_or] at inside
    rw [quiet, step_of_ne_quote inside.1, ih inside.2]
    simp [startsModifier]

/-- A quote opens outside quotes. -/
theorem step_quote {depth : Nat} {quote : Char} (mark : quote = '\'' ∨ quote = '"') :
    step ⟨depth, none⟩ quote = ⟨depth, some quote⟩ := by
  rcases mark with rfl | rfl <;> rfl

/-- A quote closes itself. -/
theorem step_same_quote {depth : Nat} {quote : Char} :
    step ⟨depth, some quote⟩ quote = ⟨depth, none⟩ := if_pos rfl

/-- No modifier starts inside parentheses. -/
theorem startsModifier_succ {depth : Nat} {quote : Option Char} (c : Char) :
    startsModifier ⟨depth + 1, quote⟩ c = false := by
  simp [startsModifier]

end Nesting

/-- A bracketed text closes what it opens, at every depth. -/
theorem Bracketed.run {text : List Char} (bracketed : Bracketed text) (depth : Nat) :
    Nesting.run ⟨depth, none⟩ text = ⟨depth, none⟩ := by
  induction bracketed generalizing depth with
  | nil => rfl
  | plain plain _ ih =>
    rw [Nesting.run, List.foldl_cons, Nesting.step_of_not_mark plain]
    exact ih depth
  | quoted mark inside _ ih =>
    rw [Nesting.run, List.foldl_cons, Nesting.step_quote mark, ← Nesting.run, Nesting.run_append,
      Nesting.run_of_not_mem_quote inside, Nesting.run, List.foldl_cons, Nesting.step_same_quote]
    exact ih depth
  | @nested text rest _ _ within ih =>
    change Nesting.run ⟨depth + 1, none⟩ (text ++ ')' :: rest) = _
    rw [Nesting.run_append, within (depth + 1)]
    exact ih depth

/-- Inside parentheses, no modifier starts in a bracketed text. -/
theorem Bracketed.quiet {text : List Char} (bracketed : Bracketed text) (depth : Nat) :
    Nesting.quiet ⟨depth + 1, none⟩ text = true := by
  induction bracketed generalizing depth with
  | nil => rfl
  | plain plain _ ih =>
    rw [Nesting.quiet, Nesting.startsModifier_succ, Nesting.step_of_not_mark plain, ih]
    rfl
  | quoted mark inside _ ih =>
    rw [Nesting.quiet, Nesting.startsModifier_succ, Nesting.step_quote mark, Nesting.quiet_append,
      Nesting.quiet_of_not_mem_quote inside, Nesting.run_of_not_mem_quote inside, Nesting.quiet,
      Nesting.startsModifier_succ, Nesting.step_same_quote, ih]
    rfl
  | @nested text rest opened _ within ih =>
    have closing : Nesting.step ⟨depth + 1 + 1, none⟩ ')' = ⟨depth + 1, none⟩ := rfl
    rw [Nesting.quiet, Nesting.startsModifier_succ]
    change (!false && Nesting.quiet ⟨depth + 1 + 1, none⟩ (text ++ ')' :: rest)) = true
    rw [Nesting.quiet_append, within, opened.run, Nesting.quiet, Nesting.startsModifier_succ,
      closing, ih]
    rfl

/-- A modifier that leaves nothing open. Only a default can leave something open. -/
def Modifier.Closed : Modifier → Prop
  | .default value => Bracketed value.toList
  | _ => True

/-- A row of modifiers in written forms that leave nothing open, with blanks around them. -/
inductive Modifiers : List Modifier → List Char → Prop
  | nil {gap : List Char} (blank : isBlankText gap) : Modifiers [] gap
  | cons {gap segment rest : List Char} {modifier : Modifier} {modifiers : List Modifier}
      (blank : isBlankText gap) (written : modifier.WrittenAs segment) (closed : modifier.Closed)
      (others : Modifiers modifiers rest) :
      Modifiers (modifier :: modifiers) (gap ++ (segment ++ rest))

/-- The arguments of a relation are bracketed, for they hold no marks. -/
theorem RelationText.bracketed {target : String} {cardinality : Cardinality}
    {arguments : List Char} (inside : RelationText target cardinality arguments) :
    Bracketed arguments := by
  obtain ⟨word, left, right, rfl, first, second⟩ := inside
  have chars := relationArguments_chars word cardinality
  refine .of_not_mark fun c member => ?_
  by_cases blank : isBlank c
  · exact isMark_of_isBlank blank
  · rw [Bool.not_eq_true] at blank
    refine (chars c ?_).1
    rw [List.mem_append, List.mem_cons] at member ⊢
    exact member.imp (first.mem blank) (Or.imp_right (second.mem blank))

/-- A bracketed text in parentheses, behind a word and blanks, is quiet and leaves nothing open. -/
theorem Bracketed.arguments {word gap value : List Char} (bracketed : Bracketed value)
    (chars : ∀ c ∈ word, isWordChar c) (blank : isBlankText gap) :
    Nesting.outside.quiet (word ++ (gap ++ '(' :: (value ++ [')']))) = true ∧
    Nesting.outside.run (word ++ (gap ++ '(' :: (value ++ [')']))) = .outside := by
  have named : Nesting.outside.run word = .outside :=
    Nesting.run_of_not_mark fun c member => isMark_of_isWordChar (chars c member)
  have plain : '@' ∉ word := fun member => by
    have := chars '@' member
    revert this
    decide
  have opened : Nesting.outside.step '(' = ⟨1, none⟩ := rfl
  constructor
  · rw [Nesting.quiet_append, Nesting.quiet_append, Nesting.quiet_of_not_at plain, named,
      Nesting.quiet_of_not_at (not_at_of_isBlankText blank), Nesting.run_of_isBlankText blank,
      Nesting.quiet, opened, Nesting.quiet_append, bracketed.quiet, bracketed.run]
    decide
  · rw [Nesting.run_append, Nesting.run_append, named, Nesting.run_of_isBlankText blank,
      Nesting.run, List.foldl_cons, opened, ← Nesting.run, Nesting.run_append, bracketed.run]
    rfl

/-- A text between an `@` and a closing parenthesis is trimmed. -/
theorem trim_at_parenthesis (text : List Char) :
    trim ('@' :: (text ++ [')'])) = '@' :: (text ++ [')']) := by
  apply trim_eq_self
  · intro c rest same
    obtain ⟨rfl, -⟩ := List.cons.inj same
    decide
  · intro c rest same
    rw [List.reverse_cons, List.reverse_append] at same
    obtain ⟨rfl, -⟩ := List.cons.inj same
    decide

/-- A closed modifier in a written form is a segment of its own: an `@` with a text behind it that
is quiet and leaves nothing open. -/
theorem Modifier.WrittenAs.segment {modifier : Modifier} {text : List Char}
    (written : modifier.WrittenAs text) (closed : modifier.Closed) :
    ∃ body, text = '@' :: body ∧ trim text = text ∧ Nesting.outside.quiet body = true ∧
      Nesting.outside.run body = .outside := by
  cases written with
  | unique => exact ⟨"unique".toList, rfl, by decide⟩
  | id => exact ⟨"id".toList, rfl, by decide⟩
  | @default gap value blank =>
    refine ⟨"default".toList ++ (gap ++ '(' :: (value.toList ++ [')'])), rfl, ?_,
      closed.arguments (fun _ => isWordChar_of_mem (by decide)) blank⟩
    have whole := trim_at_parenthesis ("default".toList ++ (gap ++ '(' :: value.toList))
    simpa using whole
  | @relation gap arguments target cardinality blank inside =>
    refine ⟨"relation".toList ++ (gap ++ '(' :: (arguments ++ [')'])), rfl, ?_,
      inside.bracketed.arguments (fun _ => isWordChar_of_mem (by decide)) blank⟩
    have whole := trim_at_parenthesis ("relation".toList ++ (gap ++ '(' :: arguments))
    simpa using whole

/-- A row of modifiers is a row whose segments are their written forms. -/
theorem Modifiers.exists_row {modifiers : List Modifier} {text : List Char}
    (row : Modifiers modifiers text) : ∃ pieces, Row text pieces ∧
      List.Forall₂ (fun piece modifier => Modifier.WrittenAs modifier piece) pieces modifiers := by
  induction row with
  | nil blank => exact ⟨[], .blank blank, .nil⟩
  | cons blank written closed _ ih =>
    obtain ⟨pieces, others, each⟩ := ih
    obtain ⟨body, rfl, trimmed, quiet, ends⟩ := written.segment closed
    exact ⟨_, .segment blank trimmed quiet (fun _ => ends) others, .cons written each⟩

/-- The value of a default. -/
def Modifier.value? : Modifier → Option String
  | .default value => some value
  | _ => none

/-- The target and the cardinality of a relation. -/
def Modifier.link? : Modifier → Option (String × Cardinality)
  | .relation target cardinality => some (target, cardinality)
  | _ => none

/-- The value of the last default of a row, if there is one and it is not empty. -/
def lastValue (modifiers : List Modifier) : Option String :=
  (modifiers.filterMap Modifier.value?).getLast?.filter (· ≠ "")

/-- The target and the cardinality of the last relation of a row. -/
def lastLink (modifiers : List Modifier) : Option (String × Cardinality) :=
  (modifiers.filterMap Modifier.link?).getLast?

/-- A field is what its name, its type and its modifiers say. -/
structure Field.Means (field : Field) (name : String) (type : FieldType) (optional : Bool)
    (modifiers : List Modifier) : Prop where
  /-- The field has the name. -/
  name : field.name = name
  /-- The field has the type. -/
  type : field.type = type
  /-- The question mark counts. -/
  optional : field.optional = optional
  /-- The field is unique if some modifier says so. -/
  unique : field.unique = true ↔ Modifier.unique ∈ modifiers
  /-- The field identifies the record if some modifier says so. -/
  id : field.isId = true ↔ Modifier.id ∈ modifiers
  /-- The last default counts. -/
  default : field.defaultValue = lastValue modifiers
  /-- The last relation counts for the target. -/
  target : field.relationTarget = (lastLink modifiers).map Prod.fst
  /-- The last relation counts for the cardinality. -/
  cardinality : field.relationType = (lastLink modifiers).map Prod.snd

/-- A further modifier at the end changes what it speaks of and nothing else. -/
theorem Field.Means.concat {field : Field} {name : String} {type : FieldType} {optional : Bool}
    {modifiers : List Modifier} (means : field.Means name type optional modifiers)
    (modifier : Modifier) : (field.apply modifier).Means name type optional
      (modifiers ++ [modifier]) := by
  obtain ⟨named, typed, marked, unique, id, default, target, cardinality⟩ := means
  cases modifier with
  | unique =>
    refine ⟨named, typed, marked, ?_, ?_, ?_, ?_, ?_⟩ <;>
      simp [Field.apply, id, default, target, cardinality, lastValue, lastLink, Modifier.value?,
        Modifier.link?]
  | id =>
    refine ⟨named, typed, marked, ?_, ?_, ?_, ?_, ?_⟩ <;>
      simp [Field.apply, unique, default, target, cardinality, lastValue, lastLink,
        Modifier.value?, Modifier.link?]
  | default value =>
    refine ⟨named, typed, marked, ?_, ?_, ?_, ?_, ?_⟩
    · simp [Field.apply, unique]
    · simp [Field.apply, id]
    · by_cases empty : value = "" <;>
        simp [Field.apply, lastValue, Modifier.value?, Option.filter, empty]
    · simp [Field.apply, target, lastLink, Modifier.link?]
    · simp [Field.apply, cardinality, lastLink, Modifier.link?]
  | relation other kind =>
    refine ⟨named, typed, marked, ?_, ?_, ?_, ?_, ?_⟩ <;>
      simp [Field.apply, unique, id, default, lastValue, lastLink, Modifier.value?,
        Modifier.link?]

/-- The modifiers of a row leave a field that is what they say. -/
theorem Field.means_foldl (name : String) (type : FieldType) (optional : Bool)
    (modifiers : List Modifier) :
    (modifiers.foldl Field.apply { name, type, optional }).Means name type optional modifiers := by
  induction modifiers using List.reverseRecOn with
  | nil => exact ⟨rfl, rfl, rfl, by simp, by simp, rfl, rfl, rfl⟩
  | append_singleton modifiers modifier ih =>
    rw [List.foldl_append]
    exact ih.concat modifier

/-- A row of modifiers starts with a blank or an `@`. -/
theorem Modifiers.stop {modifiers : List Modifier} {text : List Char}
    (row : Modifiers modifiers text) {c : Char} {rest : List Char} (same : text = c :: rest) :
    isWordChar c = false ∧ c ≠ '?' := by
  have start : isBlank c ∨ c = '@' := by
    cases row with
    | nil blank => exact .inl (List.all_eq_true.mp blank c (same ▸ List.mem_cons_self))
    | @cons gap segment rest' _ _ blank written closed _ =>
      cases gap with
      | nil =>
        obtain ⟨body, rfl, -⟩ := written.segment closed
        exact .inr (List.cons.inj same).1.symm
      | cons d gap =>
        obtain ⟨rfl, -⟩ := List.cons.inj same
        rw [isBlankText_cons, Bool.and_eq_true] at blank
        exact .inl blank.1
  rcases start with blank | rfl
  · refine ⟨isWordChar_of_isBlank blank, ?_⟩
    rintro rfl
    revert blank
    decide
  · decide

/-- The name of a type is a word. -/
theorem FieldType.isWord_token (type : FieldType) : isWord type.token.toList := by
  cases type <;> decide

/-- The characters of a line that declares a field. -/
theorem toList_declaration (name row : String) (type : FieldType) (optional : Bool) :
    (name ++ ":" ++ type.token ++ (if optional then "?" else "") ++ row).toList =
      FieldLine.text ⟨name.toList, type.token.toList, optional, row.toList⟩ := by
  cases optional <;> simp [FieldLine.text, optionalMark]

/-- A row of modifiers in any order and number is read if it stays on its line, and the field is
what the modifiers say. With a line feed before its last character it is refused. -/
theorem Field.parse_modifiers {name row : String} (type : FieldType) (optional : Bool)
    {modifiers : List Modifier} (word : isWord name.toList)
    (written : Modifiers modifiers row.toList) :
    ('\n' ∉ row.toList →
      ∃ field,
        Field.parse (name ++ ":" ++ type.token ++ (if optional then "?" else "") ++ row) =
          .ok field ∧ field.Means name type optional modifiers) ∧
    ('\n' ∈ row.toList.dropLast →
      Field.parse (name ++ ":" ++ type.token ++ (if optional then "?" else "") ++ row) =
        .error (.fieldFormat
          (name ++ ":" ++ type.token ++ (if optional then "?" else "") ++ row))) := by
  have stop : optional = false → ∀ c rest, row.toList = c :: rest →
      isWordChar c = false ∧ c ≠ '?' := fun _ c rest same => written.stop same
  constructor
  · intro unbroken
    obtain ⟨pieces, cut, each⟩ := written.exists_row
    refine ⟨_, ?_, Field.means_foldl name type optional modifiers⟩
    rw [Field.parse, toList_declaration]
    refine Field.DeclaredBy.parseChars ⟨_, type, pieces, modifiers,
      ⟨⟨word, type.isWord_token, unbroken, stop, .inl rfl⟩, ?_⟩, cut, each, ?_⟩
    · exact String.ofList_toList
    · rw [String.ofList_toList]
  · intro broken
    have none : singleLine? row.toList = none := by
      cases single : singleLine? row.toList with
      | none => rfl
      | some line =>
        obtain ⟨unbroken, same | same⟩ := singleLine?_eq_some_iff.mp single
        · exact absurd (List.dropLast_subset _ (same ▸ broken)) unbroken
        · rw [same, List.dropLast_concat] at broken
          exact absurd broken unbroken
    have split := FieldLine.split?_eq_map word type.isWord_token optional stop
    rw [none] at split
    rw [Field.parse, toList_declaration, Field.parseChars, FieldLine.text, split]
    change Except.error (DefinitionFault.fieldFormat (String.ofList
      (FieldLine.text ⟨name.toList, type.token.toList, optional, row.toList⟩))) = _
    rw [← toList_declaration, String.ofList_toList]

/-- A row of four modifiers; the second default holds an `@` and a parenthesis in quotes. -/
theorem parse_title_modifiers :
    isWord "title".toList ∧
    Modifiers [.default "a", .unique, .default "f(\"@id)\")", .relation "User" .manyToOne]
      " @default(a)@unique\t@default(f(\"@id)\"))@relation( User,many-to-one)".toList ∧
    ∃ field, Field.parse ("title" ++ ":" ++ FieldType.string.token ++ (if true then "?" else "") ++
        " @default(a)@unique\t@default(f(\"@id)\"))@relation( User,many-to-one)") = .ok field ∧
      field.Means "title" .string true
        [.default "a", .unique, .default "f(\"@id)\")", .relation "User" .manyToOne] := by
  have nested : Bracketed "f(\"@id)\")".toList :=
    .plain rfl (@Bracketed.nested "\"@id)\"".toList [] (@Bracketed.quoted '"' "@id)".toList []
      (.inr rfl) (by decide) .nil) .nil)
  have relation : RelationText "User" .manyToOne " User,many-to-one".toList :=
    ⟨by decide, " User".toList, "many-to-one".toList, rfl, ⟨[' '], [], rfl, rfl, rfl⟩,
      ⟨[], [], rfl, rfl, rfl⟩⟩
  have row : Modifiers [.default "a", .unique, .default "f(\"@id)\")", .relation "User" .manyToOne]
      " @default(a)@unique\t@default(f(\"@id)\"))@relation( User,many-to-one)".toList :=
    @Modifiers.cons [' '] _ _ _ _ rfl (@Modifier.WrittenAs.default [] "a" rfl)
      (.plain rfl .nil) <|
    @Modifiers.cons [] _ _ _ _ rfl .unique trivial <|
    @Modifiers.cons ['\t'] _ _ _ _ rfl (@Modifier.WrittenAs.default [] "f(\"@id)\")" rfl) nested <|
    @Modifiers.cons [] _ _ _ _ rfl (@Modifier.WrittenAs.relation [] _ _ _ rfl relation) trivial <|
    @Modifiers.nil [] rfl
  exact ⟨by decide, row, (Field.parse_modifiers .string true (by decide) row).1 (by decide)⟩

/-- A line feed between the parenthesis of a relation and its target: the row is one modifier, but
the line is refused. -/
theorem relation_line_feed_refused :
    Modifiers [.relation "User" .manyToOne] "@relation(\nUser,many-to-one)".toList ∧
    Field.parse "authorId:uuid@relation(\nUser,many-to-one)" =
      .error (.fieldFormat "authorId:uuid@relation(\nUser,many-to-one)") := by
  have relation : RelationText "User" .manyToOne "\nUser,many-to-one".toList :=
    ⟨by decide, "\nUser".toList, "many-to-one".toList, rfl, ⟨['\n'], [], rfl, rfl, rfl⟩,
      ⟨[], [], rfl, rfl, rfl⟩⟩
  constructor
  · exact @Modifiers.cons [] _ _ _ _ rfl (@Modifier.WrittenAs.relation [] _ _ _ rfl relation)
      trivial (@Modifiers.nil [] rfl)
  · decide +kernel

end CrudScaffold
