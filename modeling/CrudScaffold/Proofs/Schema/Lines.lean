import CrudScaffold.Proofs.Schema.Members

/-!
# The lines of a model

A model from a definition has a line for each of its parts, whatever its defaults hold: nothing that
a definition can name or give as a default ends a line, by any of the characters that end one
(`Entity.model_lines_of_parse`).
-/

namespace CrudScaffold

open Text

/-- A text that stands on one line. -/
def OneLine (text : String) : Prop := ∀ c ∈ text.toList, isLineBreak c = false

/-- A search that finds no line break shows that a text stands on one line. -/
theorem OneLine.of_any {text : String} (none : text.toList.any isLineBreak = false) :
    OneLine text := unbroken_of_any none

/-- Two texts on one line, one behind the other, stand on one line. -/
theorem OneLine.append {left right : String} (first : OneLine left) (second : OneLine right) :
    OneLine (left ++ right) := by
  intro c member
  rw [String.toList_append, List.mem_append] at member
  exact member.elim (first c) (second c)

/-- A text of word characters stands on one line. -/
theorem OneLine.word {text : String} (letters : ∀ c ∈ text.toList, isWordChar c) : OneLine text :=
  fun c member => isLineBreak_of_isWordChar (letters c member)

/-- The line of a field that can be written is one line. -/
theorem Field.Writable.oneLine {field : Field} (writable : field.Writable) :
    OneLine field.modelLine := by
  have name : OneLine field.name := .word fun c => isWordChar_of_mem writable.word
  have space : OneLine " " := .of_any (by decide)
  have base : OneLine field.type.column.base := by cases field.type <;> exact .of_any (by decide)
  have mark : OneLine (if field.optional then "?" else "") := by
    cases field.optional <;> exact .of_any (by decide)
  have unique : OneLine (if field.unique then " @unique" else "") := by
    cases field.unique <;> exact .of_any (by decide)
  have identifies : OneLine (if field.isId then " @id" else "") := by
    cases field.isId <;> exact .of_any (by decide)
  have default : OneLine field.modelDefault := by
    unfold modelDefault
    split
    next value found =>
      obtain ⟨some, -, plain⟩ := writable.default value found
      have opening : OneLine " @default(" := .of_any (by decide)
      have closing : OneLine ")" := .of_any (by decide)
      have inside : OneLine value := plain
      rw [if_neg (by simpa using some)]
      exact (opening.append inside).append closing
    · exact .of_any (by decide)
  have native : OneLine field.modelMark := by
    unfold modelMark
    cases field.type <;> exact .of_any (by decide)
  have front : OneLine field.modelFront :=
    ((((name.append space).append base).append mark).append unique).append identifies
  rw [modelLine_eq]
  exact (front.append default).append native

/-- The line of a relationship from a definition is one line. -/
theorem Entity.Writable.oneLine_relationship {entity : Entity} (writable : entity.Writable)
    {relationship : Relationship} (member : relationship ∈ entity.relationships) :
    OneLine relationship.modelLine := by
  have name : OneLine relationship.name := .word (writable.relationship_chars member)
  have target : OneLine relationship.target := by
    rw [writable.relationships] at member
    obtain ⟨field, inside, found⟩ := List.mem_filterMap.mp member
    have targeted := (Field.relationship?_eq_some_iff.mp found).2.1
    exact .word fun c => isWordChar_of_mem ((writable.fields field inside).target _ targeted)
  have space : OneLine " " := .of_any (by decide)
  have named : OneLine (relationship.name ++ " " ++ relationship.target) :=
    (name.append space).append target
  unfold Relationship.modelLine
  split
  · have opening : OneLine "[] @relation(\"" := .of_any (by decide)
    have between : OneLine "To" := .of_any (by decide)
    have closing : OneLine "\")" := .of_any (by decide)
    exact ((((named.append opening).append name).append between).append target).append closing
  · have mark : OneLine (if relationship.optional then "?" else "") := by
      cases relationship.optional <;> exact .of_any (by decide)
    exact named.append mark

/-- The line of the table of an entity is one line if the name of the entity is. -/
theorem Entity.oneLine_tableLine {entity : Entity} (name : OneLine entity.name) :
    OneLine entity.tableLine := by
  have table : OneLine (Name.tableName entity.name) := by
    intro c member
    by_contra other
    have ends : isLineBreak c = true := by simpa using other
    have absent : c ∉ entity.name.toList := fun inside => other (name c inside)
    have underscore : c ≠ '_' := by
      rintro rfl
      exact absurd ends (by decide)
    have small : ¬ IsImage 97 122 c :=
      not_isImage_of_isBlank (isBlank_of_isLineBreak ends) (by decide) (by decide)
    exact Name.notMem_tableName absent underscore small member
  have opening : OneLine "  @@map(\"" := .of_any (by decide)
  have closing : OneLine "\")" := .of_any (by decide)
  unfold tableLine
  exact (opening.append table).append closing

/-- The lines of a model from a definition are lines. -/
theorem Entity.Writable.oneLine_modelLines {entity : Entity} (writable : entity.Writable) :
    ∀ line ∈ entity.modelLines, OneLine line := by
  have name : OneLine entity.name := writable.name.unbroken
  have opening : OneLine "model " := .of_any (by decide)
  have brace : OneLine " \x7b" := .of_any (by decide)
  have indent : OneLine "  " := .of_any (by decide)
  simp only [modelLines, List.mem_cons, List.mem_append, List.mem_map, List.not_mem_nil, or_false]
  rintro line (((rfl | ⟨field, inside, rfl⟩) | ⟨relationship, inside, rfl⟩) | rfl | rfl | rfl)
  · exact (opening.append name).append brace
  · exact indent.append (writable.fields field inside).oneLine
  · exact indent.append (writable.oneLine_relationship inside)
  · exact .of_any (by decide)
  · exact oneLine_tableLine name
  · exact .of_any (by decide)

/-- A model whose lines are lines has them, and no others. -/
theorem Entity.splitLines_model {entity : Entity} (lines : ∀ line ∈ entity.modelLines, OneLine line) :
    splitLines entity.model.toList = entity.modelLines.map String.toList := by
  have whole : entity.model.toList =
      (entity.modelLines.map String.toList).flatMap (· ++ ['\n']) := by
    have some : entity.modelLines.map String.toList ≠ [] := by simp [modelLines]
    rw [model, String.toList_append, String.toList_intercalate]
    exact intercalate_append_feed some
  rw [whole, splitLines_flatMap]
  intro line member
  obtain ⟨text, inside, rfl⟩ := List.mem_map.mp member
  exact lines text inside

/-- The model of an entity from a definition, cut at every line break, has a line with the name of
the entity, a line for each field in the order of the lines that declare them, a line for each
relationship in the order of the fields, an empty line, a line with the name of the table, and a
closing brace. So it has four lines more than members, and the line of a field starts with its
name. -/
theorem Entity.model_lines_of_parse {text : String} {entity : Entity}
    (read : Entity.parse text = .ok entity) :
    (∃ declarations, contentLines text.toList = entity.name.toList :: declarations ∧
      List.Forall₂ (fun line field => Field.parseChars line = .ok field) declarations
        entity.fields) ∧
    entity.relationships = entity.fields.filterMap Field.relationship? ∧
    splitLines entity.model.toList =
      (("model " ++ entity.name ++ " \x7b") ::
        (entity.fields.map fun field => "  " ++ field.modelLine) ++
        (entity.relationships.map fun relationship => "  " ++ relationship.modelLine) ++
        ["", "  @@map(\"" ++ Name.tableName entity.name ++ "\")", "\x7d"]).map String.toList ∧
    (splitLines entity.model.toList).length =
      4 + entity.fields.length + entity.relationships.length ∧
    ∀ position field, entity.fields[position]? = some field →
      ∃ rest : String, (splitLines entity.model.toList)[position + 1]? =
        some ("  " ++ field.name ++ " " ++ rest).toList := by
  have writable := Entity.writable_of_parse read
  have lines := splitLines_model writable.oneLine_modelLines
  refine ⟨?_, writable.relationships, lines, ?_, fun position field found => ?_⟩
  · rw [Entity.parse, Entity.parseBlock_eq] at read
    cases content : contentLines text.toList with
    | nil =>
      rw [content] at read
      contradiction
    | cons name declarations =>
      rw [content] at read
      obtain ⟨fields, declared, rfl⟩ := Entity.ofLines_eq_ok_iff.mp read
      exact ⟨declarations, by simp [Entity.ofFields], mapM_eq_ok_iff.mp declared⟩
  · rw [lines, List.length_map, modelLines]
    simp only [List.length_cons, List.length_append, List.length_map, List.length_nil]
    omega
  · have inside : position < entity.fields.length := (List.getElem?_eq_some_iff.mp found).1
    have line : entity.modelLines[position + 1]? = some ("  " ++ field.modelLine) := by
      rw [modelLines, List.append_assoc, List.cons_append, List.getElem?_cons_succ,
        List.getElem?_append_left (by simpa using inside), List.getElem?_map, found]
      rfl
    have parts : ∃ rest : String, "  " ++ field.modelLine = "  " ++ field.name ++ " " ++ rest := by
      unfold Field.modelLine
      simp only [String.append_assoc]
      exact ⟨_, rfl⟩
    obtain ⟨rest, same⟩ := parts
    exact ⟨rest, by rw [lines, List.getElem?_map, line, same]; rfl⟩

/-- Lines that a vertical tab and a line separator end, and a default that looks like the line of a
table, with a parenthesis that closes it early. -/
theorem Entity.model_lines_of_parse_separators :
    let entity := Entity.ofFields "Post"
      [{ name := "note", type := .text, defaultValue := some "'x) @@map(y)\"'" },
       { name := "teamId", type := .uuid, optional := true, relationTarget := some "Team",
         relationType := some .manyToOne }]
    Entity.parse
      "Post\x0bnote:text@default('x) @@map(y)\"')\u2028teamId:uuid?@relation(Team,many-to-one)" =
        .ok entity ∧
    splitLines entity.model.toList =
      ["model Post \x7b", "  note String @default('x) @@map(y)\"') @db.Text",
       "  teamId String? @db.Uuid", "  team Team?", "", "  @@map(\"posts\")", "\x7d"].map
        String.toList := by
  intro entity
  have read : Entity.parse
      "Post\x0bnote:text@default('x) @@map(y)\"')\u2028teamId:uuid?@relation(Team,many-to-one)" =
        .ok entity := by
    decide +kernel
  obtain ⟨-, -, lines, -⟩ := Entity.model_lines_of_parse read
  refine ⟨read, lines.trans ?_⟩
  decide +kernel

end CrudScaffold
