import CrudScaffold.Proofs.Source.Imports
import CrudScaffold.Proofs.Source.RecordFiles
import CrudScaffold.Proofs.Text.Intercalate

/-!
# The validators of a class

What is sent to make a record is a class whose properties have decorators, most of which come from a
library of validators. The file imports those that stand in the class, each once and in alphabetical
order, and nothing else from the library (`Entity.imports_validators`). Both sides are read from the
text of the file: the imports from the statements at its head, and the decorators from the lines of
the class body, which the layout of the file gives (`Entity.classBody_createFile`).
-/

namespace CrudScaffold

open Text

/-! ### Reading a class -/

/-- The names that a file imports from a module. -/
def importedFrom (source : String) (text : List Char) : List String :=
  ((importsOf text).filter (·.source = source)).flatMap Import.names

/-- The lines of a file between the one that opens a class and the brace that closes the class. -/
def classBody (text : List Char) : List (List Char) :=
  let opened := (text.splitOn '\n').dropWhile fun line => !"export class ".toList.isPrefixOf line
  (opened.drop 1).takeWhile (· ≠ ['\x7d'])

/-- The name of the decorator on a line, if there is one: the word behind an at sign. -/
def decoratorName? (line : List Char) : Option String :=
  match trimStart line with
  | '@' :: rest => some (String.ofList (takeWord rest).1)
  | _ => none

/-- The names of the decorators in the class of a file. -/
def decoratorNames (text : List Char) : List String := (classBody text).filterMap decoratorName?

/-- An indent does not matter. -/
theorem decoratorName?_indent (text : String) :
    decoratorName? ("  " ++ text).toList = decoratorName? text.toList := by
  rw [String.toList_append]
  rfl

/-! ### The decorators of a field -/

namespace Field

variable (field : Field)

/-- The validators of a field. -/
def validators : List String :=
  field.type.validator?.toList ++ if field.optional then [optionalValidator] else []

/-- The decorators of a field are its validators and its description. -/
theorem decorators_eq : field.decorators =
    (field.validators.map fun validator => "@" ++ validator ++ "()") ++ [field.description] := by
  unfold decorators description
  rw [validators, List.map_append]
  cases field.type.validator? <;> cases field.optional <;> rfl

/-- A field uses its validators. -/
theorem mem_validators {validator : String} :
    validator ∈ field.validators ↔ field.usesValidator validator = true := by
  unfold validators usesValidator
  rw [List.mem_append, Bool.or_eq_true, Bool.and_eq_true, beq_iff_eq, beq_iff_eq,
    Option.mem_toList]
  cases field.optional <;> simp [eq_comm]

/-- The validators of a field are among all validators. -/
theorem validators_subset : field.validators ⊆ allValidators := by
  have ofType : ∀ validator ∈ field.type.validator?.toList, validator ∈ allValidators := by
    cases field.type <;> decide
  have ofAbsence : ∀ validator ∈ if field.optional then [optionalValidator] else [],
      validator ∈ allValidators := by
    cases field.optional <;> decide
  intro validator member
  rcases List.mem_append.mp member with found | found
  · exact ofType validator found
  · exact ofAbsence validator found

/-- The name of the decorator that describes a field. -/
theorem decoratorName?_description :
    decoratorName? field.description.toList = some "ApiProperty" := by
  have front : ∃ rest, field.description.toList = '@' :: ("ApiProperty".toList ++ '(' :: rest) := by
    rw [field.description_eq, String.toList_append]
    exact ⟨_, rfl⟩
  obtain ⟨rest, front⟩ := front
  have letters : "ApiProperty".toList.all isWordChar = true := rfl
  have word : takeWord ("ApiProperty".toList ++ '(' :: rest) =
      ("ApiProperty".toList, '(' :: rest) := by
    apply takeWord_wordChars_append (List.all_eq_true.mp letters)
    intro c more same
    obtain ⟨rfl, -⟩ := List.cons.inj same
    decide
  rw [front, decoratorName?]
  show some (String.ofList (takeWord ("ApiProperty".toList ++ '(' :: rest)).1) = _
  rw [word, String.ofList_toList]

/-- No decorator stands on the line that declares a property. -/
theorem decoratorName?_declaration (word : isWord field.name.toList = true) :
    decoratorName? field.declaration.toList = none := by
  obtain ⟨c, rest, name⟩ := List.exists_cons_of_ne_nil (ne_nil_of_isWord word)
  have letter : isWordChar c = true := by
    apply isWordChar_of_mem word
    rw [name]
    exact List.mem_cons_self
  have line : ∃ more, field.declaration.toList = c :: more := by
    refine ⟨rest ++ ((if field.optional then "?" else "") ++
      (": " ++ (field.type.propertyType ++ ";"))).toList, ?_⟩
    rw [← List.cons_append, ← name, ← String.toList_append, field.declaration_eq]
  obtain ⟨more, line⟩ := line
  have start : trimStart (c :: more) = c :: more := by
    rw [trimStart, List.dropWhile_cons_of_neg (by rw [isBlank_of_isWordChar letter]; decide)]
  have other : c ≠ '@' := by
    rintro rfl
    exact absurd letter (by decide)
  rw [line, decoratorName?, start]
  split
  · next same => exact absurd (List.cons.inj same).1 other
  · rfl

/-- The decorators on the lines of a field. -/
theorem filterMap_createLines (word : isWord field.name.toList = true) :
    (field.createLines.map String.toList).filterMap decoratorName? =
      field.validators ++ ["ApiProperty"] := by
  have validators : ∀ validator ∈ field.validators,
      decoratorName? ("@" ++ validator ++ "()").toList = some validator := by
    have fixed : ∀ validator ∈ allValidators,
        decoratorName? ("@" ++ validator ++ "()").toList = some validator := by decide
    intro validator member
    exact fixed validator (field.validators_subset member)
  have read : (field.validators.map fun validator => "@" ++ validator ++ "()").filterMap
      (fun line => decoratorName? line.toList) = field.validators := by
    rw [List.filterMap_map]
    exact (List.filterMap_congr validators).trans List.filterMap_some
  have indented : decoratorName? ∘ String.toList ∘ ("  " ++ ·) =
      fun line => decoratorName? line.toList := funext decoratorName?_indent
  rw [createLines, List.map_map, List.filterMap_map, indented, List.filterMap_append,
    field.decorators_eq, List.filterMap_append, read]
  simp only [List.filterMap_cons, List.filterMap_nil, field.decoratorName?_description,
    field.decoratorName?_declaration word, List.append_nil]

end Field

/-! ### Characters that end a line or join words -/

section

variable {c : Char} (outside : c = '\n' ∨ c = '-')

include outside

/-- No word holds a line feed or a hyphen. -/
theorem notMem_of_isWord {text : List Char} (word : isWord text = true) : c ∉ text := by
  intro member
  have letter := isWordChar_of_mem word member
  rcases outside with rfl | rfl
  · exact absurd letter (by decide)
  · exact absurd letter (by decide)

/-- The line of a validator of a field holds neither. -/
theorem Field.notMem_validator {field : Field} :
    ∀ validator ∈ field.validators, c ∉ ("@" ++ validator ++ "()").toList := by
  have fixed : ∀ validator ∈ allValidators, c ∉ ("@" ++ validator ++ "()").toList := by
    rcases outside with rfl | rfl <;> decide
  exact fun validator member => fixed validator (field.validators_subset member)

/-- The description of a field holds neither. -/
theorem Field.notMem_description {field : Field} (word : isWord field.name.toList = true) :
    c ∉ field.description.toList := by
  have name := notMem_of_isWord outside word
  have fixed : c ∉ "@ApiProperty(\x7b description: '".toList ∧ c ∉ "'".toList ∧
      c ∉ " \x7d)".toList := by
    rcases outside with rfl | rfl <;> decide
  have mark : c ∉ (if field.optional then ", required: false" else "").toList := by
    rcases outside with rfl | rfl <;> cases field.optional <;> decide
  rw [field.description_eq]
  simp only [String.toList_append, List.mem_append, not_or]
  exact ⟨fixed.1, name, fixed.2.1, mark, fixed.2.2⟩

/-- The declaration of a field holds neither. -/
theorem Field.notMem_declaration {field : Field} (word : isWord field.name.toList = true) :
    c ∉ field.declaration.toList := by
  have name := notMem_of_isWord outside word
  have fixed : c ∉ ": ".toList ∧ c ∉ ";".toList := by
    rcases outside with rfl | rfl <;> decide
  have mark : c ∉ (if field.optional then "?" else "").toList := by
    rcases outside with rfl | rfl <;> cases field.optional <;> decide
  have type : c ∉ field.type.propertyType.toList := by
    rcases outside with rfl | rfl <;> cases field.type <;> decide
  rw [field.declaration_eq]
  simp only [String.toList_append, List.mem_append, not_or]
  exact ⟨name, mark, fixed.1, type, fixed.2⟩

/-- The lines of a field hold neither. -/
theorem Field.notMem_createLines {field : Field} (word : isWord field.name.toList = true) :
    ∀ line ∈ field.createLines, c ∉ line.toList := by
  have texts : ∀ text ∈ field.decorators ++ [field.declaration], c ∉ text.toList := by
    rw [field.decorators_eq, List.forall_mem_append, List.forall_mem_append, List.forall_mem_map,
      List.forall_mem_singleton, List.forall_mem_singleton]
    exact ⟨⟨Field.notMem_validator outside, Field.notMem_description outside word⟩,
      Field.notMem_declaration outside word⟩
  have indent : c ∉ "  ".toList := by
    rcases outside with rfl | rfl <;> decide
  rw [createLines, List.forall_mem_map]
  intro text member
  rw [String.toList_append, List.mem_append, not_or]
  exact ⟨indent, texts text member⟩

variable {entity : Entity}

/-- The line that opens the class holds neither. -/
theorem Context.notMem_createOpening (named : isWord entity.name.toList = true) :
    c ∉ (Context.ofEntity entity).createOpening.toList := by
  have letters : ¬IsImage 65 90 c ∧ ¬IsImage 97 122 c := by
    rcases outside with rfl | rfl <;> decide
  have name : c ∉ (Context.ofEntity entity).namePascal.toList :=
    Name.notMem_pascalCase (notMem_of_isWord outside named) letters.1 letters.2
  have fixed : c ∉ "export class Create".toList ∧ c ∉ "Dto \x7b".toList := by
    rcases outside with rfl | rfl <;> decide
  unfold createOpening
  simp only [String.toList_append, List.mem_append, not_or]
  exact ⟨⟨fixed.1, name⟩, fixed.2⟩

end

/-- The line that imports validators holds no line feed. -/
theorem Context.feed_notMem_validatorLine (entity : Entity) :
    '\n' ∉ (Context.ofEntity entity).validatorLine.toList := by
  have fixed : ∀ validator ∈ allValidators, '\n' ∉ validator.toList := by decide
  unfold validatorLine
  simp only [String.toList_append, List.mem_append, not_or, String.toList_intercalate]
  refine ⟨⟨by decide, ?_⟩, by decide⟩
  intro member
  rcases mem_intercalate member with comma | ⟨text, inside, found⟩
  · exact absurd comma (by decide)
  · obtain ⟨validator, used, rfl⟩ := List.mem_map.mp inside
    exact fixed validator (List.mem_filter.mp used).1 found

/-! ### The lines of the class -/

section

variable {entity : Entity}

/-- The validators of an entity are those of the fields that a new record is given. -/
theorem Entity.mem_validators {validator : String} : validator ∈ entity.validators ↔
    ∃ field ∈ entity.createFields, validator ∈ field.validators := by
  unfold validators
  rw [List.mem_filter, List.any_eq_true]
  constructor
  · rintro ⟨-, field, member, used⟩
    exact ⟨field, member, field.mem_validators.mpr used⟩
  · rintro ⟨field, member, used⟩
    exact ⟨field.validators_subset used, field, member, field.mem_validators.mp used⟩

/-- The lines of the class body. -/
def Entity.createBody (entity : Entity) : List String :=
  [""].intercalate (entity.createFields.map Field.createLines)

/-- The lines of the file of the class. -/
def Entity.createFileLines (entity : Entity) : List String :=
  classLines (Context.ofEntity entity).createHead (entity.createFields.map Field.createLines)

/-- The lines of the file are the imports, the line that opens the class, its body and its end. -/
theorem Entity.createFileLines_eq : entity.createFileLines =
    (Context.ofEntity entity).createImports ++
      (Context.ofEntity entity).createOpening :: (entity.createBody ++ ["\x7d"]) := by
  show (Context.ofEntity entity).createImports ++ [(Context.ofEntity entity).createOpening] ++
    entity.createBody ++ ["\x7d"] = _
  simp only [List.append_assoc, List.cons_append, List.nil_append]

/-- A line of the class body is empty, or one of a field. -/
theorem Entity.mem_createBody {line : String} (member : line ∈ entity.createBody) :
    line = "" ∨ ∃ field ∈ entity.createFields, line ∈ field.createLines := by
  rcases mem_intercalate member with empty | ⟨lines, block, inside⟩
  · exact .inl (List.mem_singleton.mp empty)
  · obtain ⟨field, given, rfl⟩ := List.mem_map.mp block
    exact .inr ⟨field, given, inside⟩

/-- The file holds line feeds at the ends of its lines only, and no hyphen unless validators are
imported. -/
theorem Entity.notMem_createFileLines (named : isWord entity.name.toList = true)
    (words : ∀ field ∈ entity.createFields, isWord field.name.toList = true) {c : Char}
    (outside : c = '\n' ∨ c = '-' ∧ entity.validators = []) :
    ∀ line ∈ entity.createFileLines, c ∉ line.toList := by
  have either : c = '\n' ∨ c = '-' := outside.imp_right And.left
  have imports : ∀ line ∈ (Context.ofEntity entity).createImports, c ∉ line.toList := by
    have first : c ∉ "import \x7b ApiProperty \x7d from '@nestjs/swagger';".toList := by
      rcases either with rfl | rfl <;> decide
    have validators : ∀ line ∈ (Context.ofEntity entity).validatorLines, c ∉ line.toList := by
      intro line member
      obtain ⟨some, rfl⟩ := Context.mem_validatorLines.mp member
      rcases outside with rfl | ⟨-, none⟩
      · exact Context.feed_notMem_validatorLine entity
      · exact absurd none some
    unfold Context.createImports
    rw [List.forall_mem_append, List.forall_mem_append, List.forall_mem_singleton,
      List.forall_mem_singleton]
    exact ⟨⟨first, validators⟩, List.not_mem_nil⟩
  have body : ∀ line ∈ entity.createBody, c ∉ line.toList := by
    intro line member
    rcases entity.mem_createBody member with rfl | ⟨field, given, inside⟩
    · exact List.not_mem_nil
    · exact Field.notMem_createLines either (words field given) line inside
  have brace : c ∉ "\x7d".toList := by
    rcases either with rfl | rfl <;> decide
  rw [entity.createFileLines_eq, List.forall_mem_append, List.forall_mem_cons,
    List.forall_mem_append, List.forall_mem_singleton]
  exact ⟨imports, Context.notMem_createOpening either named, body, brace⟩

/-- No import looks like the line that opens a class. -/
theorem Context.not_opens_of_mem_createImports {context : Context} :
    ∀ line ∈ context.createImports, "export class ".toList.isPrefixOf line.toList = false := by
  unfold createImports
  rw [List.forall_mem_append, List.forall_mem_append, List.forall_mem_singleton,
    List.forall_mem_singleton]
  refine ⟨⟨by decide, ?_⟩, by decide⟩
  intro line member
  obtain ⟨-, rfl⟩ := mem_validatorLines.mp member
  rw [validatorLine, String.toList_append, String.toList_append]
  rfl

/-- The class body is read off the file. -/
theorem Entity.classBody_createFile
    (plain : ∀ line ∈ entity.createFileLines, '\n' ∉ line.toList) :
    classBody (textOfLines entity.createFileLines).toList =
      entity.createBody.map String.toList := by
  have pieces : (textOfLines entity.createFileLines).toList.splitOn '\n' =
      entity.createFileLines.map String.toList ++ [[]] := by
    have cut := splitOn_flatMap (List.forall_mem_map.mpr plain) []
    rwa [List.append_nil, List.splitOn_nil, ← toList_textOfLines] at cut
  have lines : entity.createFileLines.map String.toList ++ [[]] =
      (Context.ofEntity entity).createImports.map String.toList ++
        (Context.ofEntity entity).createOpening.toList ::
          (entity.createBody.map String.toList ++ [['\x7d'], []]) := by
    rw [entity.createFileLines_eq]
    simp only [List.map_append, List.map_cons, List.map_nil, List.append_assoc, List.cons_append,
      List.nil_append]
    rfl
  have above : ∀ line ∈ (Context.ofEntity entity).createImports.map String.toList,
      (!"export class ".toList.isPrefixOf line) = true := by
    rw [List.forall_mem_map]
    intro line member
    rw [Context.not_opens_of_mem_createImports line member]
    rfl
  have opening : "export class ".toList.isPrefixOf
      (Context.ofEntity entity).createOpening.toList = true := by
    unfold Context.createOpening
    rw [String.toList_append, String.toList_append]
    rfl
  have body : ∀ line ∈ entity.createBody.map String.toList, decide (line ≠ ['\x7d']) = true := by
    rw [List.forall_mem_map]
    intro line member
    apply decide_eq_true
    rcases entity.mem_createBody member with rfl | ⟨field, -, inside⟩
    · decide
    · -- the lines of a field have an indent
      obtain ⟨text, -, rfl⟩ := List.mem_map.mp inside
      rw [String.toList_append]
      intro same
      exact absurd (List.cons.inj same).1 (by decide)
  rw [classBody, pieces, lines, List.dropWhile_append_of_pos above,
    List.dropWhile_cons_of_neg (by rw [opening]; decide)]
  show (entity.createBody.map String.toList ++ [['\x7d'], []]).takeWhile (· ≠ ['\x7d']) = _
  rw [List.takeWhile_append_of_pos body, List.takeWhile_cons_of_neg (by decide), List.append_nil]

/-- The decorators of the class are those of the fields that a new record is given. -/
theorem Entity.decoratorNames_createFile
    (words : ∀ field ∈ entity.createFields, isWord field.name.toList = true)
    (plain : ∀ line ∈ entity.createFileLines, '\n' ∉ line.toList) :
    decoratorNames (textOfLines entity.createFileLines).toList =
      entity.createFields.flatMap fun field => field.validators ++ ["ApiProperty"] := by
  have none : (decoratorName? ∘ String.toList) "" = none := rfl
  have each : ∀ field ∈ entity.createFields,
      field.createLines.filterMap (decoratorName? ∘ String.toList) =
        field.validators ++ ["ApiProperty"] := by
    intro field given
    rw [← List.filterMap_map]
    exact field.filterMap_createLines (words field given)
  rw [decoratorNames, entity.classBody_createFile plain, List.filterMap_map, createBody,
    filterMap_intercalate none, List.flatMap_map]
  exact List.flatMap_congr each

/-- The file imports the validators of the entity from their library. -/
theorem Entity.importedFrom_createFile (named : isWord entity.name.toList = true)
    {content : String}
    (rendered : SourceFile.create.render (Context.ofEntity entity).members = .ok content) :
    importedFrom "class-validator" content.toList = entity.validators := by
  have imports : importsOf content.toList = ⟨["ApiProperty"], "@nestjs/swagger"⟩ ::
      ((if entity.validators.isEmpty then [] else [⟨entity.validators, "class-validator"⟩]) ++
        []) := SourceFile.importsOf_of_render (Context.plain_ofEntity named) rendered
  rw [importedFrom, imports, List.append_nil, List.filter_cons_of_neg (by decide)]
  cases ends : entity.validators with
  | nil => rfl
  | cons validator others => simp

/-- The line that imports validators stands in the file exactly if there are any. -/
theorem Entity.import_isInfix_createFile (named : isWord entity.name.toList = true)
    (words : ∀ field ∈ entity.createFields, isWord field.name.toList = true) :
    "from 'class-validator'".toList <:+: (textOfLines entity.createFileLines).toList ↔
      entity.validators ≠ [] := by
  constructor
  · -- the name of the library has a hyphen, and without validators the file has none
    intro inside empty
    have plain : ∀ line ∈ entity.createFileLines, '-' ∉ line.toList :=
      entity.notMem_createFileLines named words (.inr ⟨rfl, empty⟩)
    have hyphen : '-' ∈ (textOfLines entity.createFileLines).toList := inside.subset (by decide)
    rw [toList_textOfLines, List.mem_flatMap] at hyphen
    obtain ⟨line, member, found⟩ := hyphen
    obtain ⟨text, there, rfl⟩ := List.mem_map.mp member
    rcases List.mem_append.mp found with here | feed
    · exact plain text there here
    · exact absurd feed (by decide)
  · intro some
    have imported : (Context.ofEntity entity).validatorLine ∈
        (Context.ofEntity entity).validatorLines := Context.mem_validatorLines.mpr ⟨some, rfl⟩
    have member : (Context.ofEntity entity).validatorLine ∈ entity.createFileLines := by
      rw [entity.createFileLines_eq, Context.createImports]
      exact List.mem_append_left _ (List.mem_append_left _ (List.mem_append_right _ imported))
    have inside : "from 'class-validator'".toList <:+: " \x7d from 'class-validator';".toList :=
      ⟨" \x7d ".toList, [';'], rfl⟩
    have line : " \x7d from 'class-validator';".toList <:+:
        (Context.ofEntity entity).validatorLine.toList := by
      rw [Context.validatorLine, String.toList_append]
      exact (List.suffix_append _ _).isInfix
    exact (inside.trans line).trans (isInfix_textOfLines member)

/-- What is sent to make a record imports the validators that decorate its properties. -/
theorem Entity.imports_validators (entity : Entity) (named : isWord entity.name.toList = true)
    (words : ∀ field ∈ entity.fields, isWord field.name.toList = true) :
    ∃ content, SourceFile.create.render (Context.ofEntity entity).members = .ok content ∧
      (importedFrom "class-validator" content.toList).Pairwise (· < ·) ∧
      (∀ name, name ∈ importedFrom "class-validator" content.toList ↔
        name ∈ decoratorNames content.toList ∧ name ≠ "ApiProperty") ∧
      ("from 'class-validator'".toList <:+: content.toList ↔
        ∃ name ∈ decoratorNames content.toList, name ≠ "ApiProperty") := by
  have given : ∀ field ∈ entity.createFields, isWord field.name.toList = true :=
    fun field member => words field (List.mem_of_mem_filter member)
  have plain : ∀ line ∈ entity.createFileLines, '\n' ∉ line.toList :=
    entity.notMem_createFileLines named given (.inl rfl)
  have rendered : SourceFile.create.render (Context.ofEntity entity).members =
      .ok (textOfLines entity.createFileLines) := render_createFile entity
  have imported := entity.importedFrom_createFile named rendered
  have other : "ApiProperty" ∉ allValidators := by decide
  have used (name : String) : name ∈ entity.validators ↔
      name ∈ decoratorNames (textOfLines entity.createFileLines).toList ∧ name ≠ "ApiProperty" := by
    rw [entity.decoratorNames_createFile given plain, List.mem_flatMap, entity.mem_validators]
    constructor
    · rintro ⟨field, member, found⟩
      refine ⟨⟨field, member, List.mem_append_left _ found⟩, ?_⟩
      rintro rfl
      exact other (field.validators_subset found)
    · rintro ⟨⟨field, member, found⟩, different⟩
      rcases List.mem_append.mp found with validator | description
      · exact ⟨field, member, validator⟩
      · exact absurd (List.mem_singleton.mp description) different
  refine ⟨_, rendered, ?_, ?_, ?_⟩
  · rw [imported]
    have sorted : allValidators.Pairwise (· < ·) := by decide
    exact sorted.filter _
  · rw [imported]
    exact used
  · rw [entity.import_isInfix_createFile named given]
    constructor
    · intro some
      obtain ⟨name, member⟩ := List.exists_mem_of_ne_nil _ some
      exact ⟨name, (used name).mp member⟩
    · rintro ⟨name, found⟩
      exact List.ne_nil_of_mem ((used name).mpr found)

/-- A field of JSON values has no validator of its own, but is marked as one that may be absent. The
identifying field is not in the class, and its validator is not imported. -/
theorem Entity.imports_validators_optional_json :
    let entity : Entity := { name := "Post", fields := [
      { name := "id", type := .uuid, isId := true },
      { name := "title", type := .string },
      { name := "meta", type := .json, optional := true }] }
    ∃ content, SourceFile.create.render (Context.ofEntity entity).members = .ok content ∧
      importedFrom "class-validator" content.toList = ["IsOptional", "IsString"] ∧
      ∀ name, name ∈ ["IsOptional", "IsString"] ↔
        name ∈ decoratorNames content.toList ∧ name ≠ "ApiProperty" := by
  intro entity
  have named : isWord entity.name.toList = true := by decide
  have words : ∀ field ∈ entity.fields, isWord field.name.toList = true := by decide
  obtain ⟨content, rendered, -, used, -⟩ := entity.imports_validators named words
  have imported : importedFrom "class-validator" content.toList = ["IsOptional", "IsString"] :=
    entity.importedFrom_createFile named rendered
  rw [imported] at used
  exact ⟨content, rendered, imported, used⟩

end

end CrudScaffold
