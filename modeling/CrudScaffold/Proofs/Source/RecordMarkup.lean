import CrudScaffold.Proofs.Schema.Model
import CrudScaffold.Proofs.Source.RecordFiles
import CrudScaffold.Proofs.Template.Markup

/-!
# The classes of records as marked-up texts

The texts of the two classes are written as marked-up texts, with loops, conditions, and tags on
lines of their own. Such a text is read (`Markup.read_create`, `Markup.read_record`), and rendering
what was read gives the lines that the templates render to. Both classes and the model of the
database put a question mark at the same fields (`Entity.renders_classes`).
-/

namespace CrudScaffold

/-- What is sent to make a record, as a marked-up text. -/
def createMarkup : List String := [
  "import \x7b ApiProperty \x7d from '@nestjs/swagger';",
  "\x7b% if validators %\x7d",
  "import \x7b \x7b\x7b validators | join(', ') \x7d\x7d \x7d from 'class-validator';",
  "\x7b% endif %\x7d",
  "",
  "export class Create\x7b\x7b name_pascal \x7d\x7dDto \x7b",
  "\x7b% for field in create_fields %\x7d",
  "\x7b% for decorator in field.decorators %\x7d",
  "  \x7b\x7b decorator \x7d\x7d",
  "\x7b% endfor %\x7d",
  "  \x7b\x7b field.name \x7d\x7d\x7b\x7b '?' if field.optional else '' \x7d\x7d" ++
    ": \x7b\x7b field.ts_type \x7d\x7d;",
  "\x7b% if not loop.last %\x7d",
  "",
  "\x7b% endif %\x7d",
  "\x7b% endfor %\x7d",
  "\x7d"]

/-- A record, as a marked-up text. -/
def recordMarkup : List String := [
  "import \x7b ApiProperty \x7d from '@nestjs/swagger';",
  "",
  "export class \x7b\x7b name_pascal \x7d\x7d \x7b",
  "\x7b% for field in fields %\x7d",
  "  @ApiProperty(\x7b description: '\x7b\x7b field.name \x7d\x7d'" ++
    "\x7b\x7b ', required: false' if field.optional else '' \x7d\x7d \x7d)",
  "  \x7b\x7b field.name \x7d\x7d\x7b\x7b '?' if field.optional else '' \x7d\x7d" ++
    ": \x7b\x7b field.ts_type \x7d\x7d;",
  "\x7b% if not loop.last %\x7d",
  "",
  "\x7b% endif %\x7d",
  "\x7b% endfor %\x7d",
  "\x7d"]

namespace Markup

/-- The declaration of the property of a field, and an empty line unless the field is the last
one. -/
def declaration : Markup :=
  .place (.value (.member "field" "name")) <|
  .place (.choice (.member "field" "optional") "?" "") <| .text ": " <|
  .place (.value (.member "field" "ts_type")) <| .text ";\n" <|
  .given (.member "loop" "last") false (.text "\n" .done) .done

/-- A decorator on a line of its own. -/
def decorator : Markup :=
  .text "  " <| .place (.value (.named "decorator")) <| .text "\n" .done

/-- A property of what is sent to make a record. -/
def createProperty : Markup :=
  .each "decorator" (.member "field" "decorators") decorator <| .text "  " declaration

/-- A property of a record. -/
def recordProperty : Markup :=
  .text "  @ApiProperty(\x7b description: '" <| .place (.value (.member "field" "name")) <|
  .text "'" <| .place (.choice (.member "field" "optional") ", required: false" "") <|
  .text " \x7d)\n  " declaration

/-- What is sent to make a record, as it is read. -/
def create : Markup :=
  .text "import \x7b ApiProperty \x7d from '@nestjs/swagger';\n" <|
  .given (.named "validators") true
    (.text "import \x7b " <| .place (.joined (.named "validators") ", ") <|
      .text " \x7d from 'class-validator';\n" .done) <|
  .text "\nexport class Create" <| .place (.value (.named "name_pascal")) <|
  .text "Dto \x7b\n" <|
  .each "field" (.named "create_fields") createProperty <|
  .text "\x7d\n" .done

/-- A record, as it is read. -/
def record : Markup :=
  .text "import \x7b ApiProperty \x7d from '@nestjs/swagger';\n\nexport class " <|
  .place (.value (.named "name_pascal")) <| .text " \x7b\n" <|
  .each "field" (.named "fields") recordProperty <|
  .text "\x7d\n" .done

set_option maxRecDepth 8000 in
/-- The first text is read. -/
theorem read_create : read (textOfLines createMarkup) = some create := by
  -- the characters of each line are spelled out first, and what is left is computation
  rw [read, toList_textOfLines, createMarkup]
  simp only [List.map_cons, List.map_nil, List.flatMap_cons, List.flatMap_nil, String.toList_append]
  repeat rw [String.toList_ofList]
  rfl

set_option maxRecDepth 8000 in
/-- The second text is read. -/
theorem read_record : read (textOfLines recordMarkup) = some record := by
  rw [read, toList_textOfLines, recordMarkup]
  simp only [List.map_cons, List.map_nil, List.flatMap_cons, List.flatMap_nil, String.toList_append]
  repeat rw [String.toList_ofList]
  rfl

section

variable {scope : List (String × Json)} (field : Field)

/-- The declaration of the property of a field. -/
theorem render_declaration (last : Bool) :
    declaration.render (inLoop scope "field" (field.property.toJson, last)) =
      .ok (field.declaration ++ ("\n" ++ if last then "" else "\n")) := by
  have parts : declaration.render (inLoop scope "field" (field.property.toJson, last)) =
      .ok (field.name ++ ((if field.optional then "?" else "") ++ (": " ++
        (field.type.propertyType ++ (";\n" ++ ((if (Json.bool last).isTruthy = false then
          "\n" ++ "" else "") ++ "")))))) :=
    render_place (Expression.render_value rfl) (render_place (Expression.render_choice _ _ rfl)
      (render_text _ (render_place (Expression.render_value rfl) (render_text _
      (render_given rfl (render_text _ rfl) rfl)))))
  have feed : ";\n" = ";" ++ "\n" := rfl
  rw [parts, field.declaration_eq]
  simp only [feed, String.append_assoc, String.append_empty]
  cases last <;> rfl

/-- A property of what is sent to make a record, with an empty line unless it is the last one. -/
theorem render_createProperty (last : Bool) :
    createProperty.render (inLoop scope "field" (field.property.toJson, last)) =
      .ok (textOfLines field.createLines ++ if last then "" else "\n") := by
  have line (name : String) (final : Bool) :
      decorator.render (inLoop (inLoop scope "field" (field.property.toJson, last)) "decorator"
        (.string name, final)) = .ok ("  " ++ (name ++ "\n") ++ if final then "" else "") := by
    have parts : decorator.render (inLoop (inLoop scope "field" (field.property.toJson, last))
        "decorator" (.string name, final)) = .ok ("  " ++ (name ++ ("\n" ++ ""))) :=
      render_text _ (render_place (Expression.render_value rfl) (render_text _ rfl))
    rw [parts]
    simp only [ite_self, String.append_empty]
  have parts : createProperty.render (inLoop scope "field" (field.property.toJson, last)) =
      .ok ("".intercalate (field.decorators.map fun name => "  " ++ (name ++ "\n")) ++
        ("  " ++ (field.declaration ++ ("\n" ++ if last then "" else "\n")))) :=
    render_between rfl line (render_text _ (render_declaration field last))
  rw [parts, ← textOfLines_indented, Field.createLines, List.map_append, textOfLines_append]
  simp only [List.map_cons, List.map_nil, textOfLines_cons, textOfLines_nil, String.append_assoc,
    String.append_empty]

/-- A property of a record, with an empty line unless it is the last one. -/
theorem render_recordProperty (last : Bool) :
    recordProperty.render (inLoop scope "field" (field.property.toJson, last)) =
      .ok (textOfLines field.recordLines ++ if last then "" else "\n") := by
  have parts : recordProperty.render (inLoop scope "field" (field.property.toJson, last)) =
      .ok ("  @ApiProperty(\x7b description: '" ++ (field.name ++ ("'" ++
        ((if field.optional then ", required: false" else "") ++ (" \x7d)\n  " ++
          (field.declaration ++ ("\n" ++ if last then "" else "\n"))))))) :=
    render_text _ (render_place (Expression.render_value rfl) (render_text _
      (render_place (Expression.render_choice _ _ rfl)
      (render_text _ (render_declaration field last)))))
  have front : "  @ApiProperty(\x7b description: '" =
      "  " ++ "@ApiProperty(\x7b description: '" := rfl
  have back : " \x7d)\n  " = " \x7d)" ++ ("\n" ++ "  ") := rfl
  rw [parts, Field.recordLines, field.description_eq]
  simp only [front, back, List.map_cons, List.map_nil, textOfLines_cons, textOfLines_nil,
    String.append_assoc, String.append_empty]

end

section

variable (entity : Entity)

/-- The text of what is sent to make a record. -/
theorem render_create :
    create.render (Context.ofEntity entity).members =
      .ok (textOfLines (classLines (Context.ofEntity entity).createHead
        (entity.createFields.map Field.createLines))) := by
  have found : (Lookup.named "validators").find (Context.ofEntity entity).members =
      .ok (.array (entity.validators.map .string)) := rfl
  have elements : (Lookup.named "validators").elements (Context.ofEntity entity).members =
      .ok (entity.validators.map .string) := rfl
  have parts : create.render (Context.ofEntity entity).members =
      .ok ("import \x7b ApiProperty \x7d from '@nestjs/swagger';\n" ++
        ((if (Json.array (entity.validators.map .string)).isTruthy = true then
          "import \x7b " ++ (", ".intercalate entity.validators ++
            (" \x7d from 'class-validator';\n" ++ "")) else "") ++
        ("\nexport class Create" ++ ((Context.ofEntity entity).namePascal ++ ("Dto \x7b\n" ++
          ("\n".intercalate (entity.createFields.map fun field => textOfLines field.createLines) ++
            ("\x7d\n" ++ ""))))))) :=
    render_text _ (render_given found
      (render_text _ (render_place (Expression.render_joined _ elements) (render_text _ rfl)))
      (render_text _ (render_place (Expression.render_value rfl) (render_text _
      (render_between (elements_createFields entity) render_createProperty
      (render_text _ rfl))))))
  have first : "\nexport class Create" = "\n" ++ "export class Create" := rfl
  rw [parts, textOfLines_classLines, Context.textOfLines_createHead,
    Context.textOfLines_validatorLines, List.map_map]
  simp only [first, Json.isTruthy, List.isEmpty_map, String.append_assoc, String.append_empty]
  show _ = Except.ok (_ ++ ((if entity.validators.isEmpty = true then _ else _) ++ _))
  cases entity.validators.isEmpty <;> rfl

/-- The text of a record. -/
theorem render_record :
    record.render (Context.ofEntity entity).members =
      .ok (textOfLines (classLines (Context.ofEntity entity).recordHead
        (entity.fields.map Field.recordLines))) := by
  have parts : record.render (Context.ofEntity entity).members =
      .ok ("import \x7b ApiProperty \x7d from '@nestjs/swagger';\n\nexport class " ++
        ((Context.ofEntity entity).namePascal ++ (" \x7b\n" ++
          ("\n".intercalate (entity.fields.map fun field => textOfLines field.recordLines) ++
            ("\x7d\n" ++ ""))))) :=
    render_text _ (render_place (Expression.render_value rfl) (render_text _
      (render_between (elements_fields entity) render_recordProperty (render_text _ rfl))))
  have first : "import \x7b ApiProperty \x7d from '@nestjs/swagger';\n\nexport class " =
      "import \x7b ApiProperty \x7d from '@nestjs/swagger';\n" ++ ("\n" ++ "export class ") := rfl
  rw [parts, textOfLines_classLines, Context.textOfLines_recordHead, List.map_map]
  simp only [first, String.append_assoc, String.append_empty]
  rfl

end

end Markup

/-! ### Marks of absence -/

/-- Whether a question mark follows on the first part of a line. -/
def MarkedAfter (front line : String) : Prop := (front ++ "?").toList <+: line.toList

/-- A question mark follows where the rest of the line starts with one. -/
theorem markedAfter_append {front rest : String} :
    MarkedAfter front (front ++ rest) ↔ rest.toList.head? = some '?' := by
  unfold MarkedAfter
  rw [String.toList_append, String.toList_append, List.prefix_append_right_inj]
  show ['?'] <+: rest.toList ↔ _
  cases rest.toList with
  | nil => simp
  | cons c text => simp [eq_comm]

namespace Field

variable (field : Field)

/-- A property has a question mark exactly if its field may be absent. -/
theorem markedAfter_declaration :
    MarkedAfter ("  " ++ field.name) ("  " ++ field.declaration) ↔ field.optional = true := by
  rw [field.declaration_eq, ← String.append_assoc, markedAfter_append]
  cases field.optional with
  | true => simp [String.toList_append]
  | false => simp [String.toList_append]

/-- No default starts with a question mark. -/
theorem head_modelDefault : field.modelDefault.toList.head? ≠ some '?' := by
  unfold modelDefault
  cases field.defaultValue with
  | none => decide
  | some value =>
    show (if value.isEmpty then "" else " @default(" ++ value ++ ")").toList.head? ≠ some '?'
    by_cases none : value.isEmpty = true
    · rw [if_pos none]
      decide
    · rw [if_neg none]
      simp [String.toList_append]

/-- No mark of the database starts with a question mark. -/
theorem head_modelMark : field.modelMark.toList.head? ≠ some '?' := by
  unfold modelMark
  cases field.type.column.native with
  | none => decide
  | some mark => simp [String.toList_append]

/-- A line of a model has a question mark exactly if its field may be absent. -/
theorem markedAfter_modelLine :
    MarkedAfter ("  " ++ (field.name ++ (" " ++ field.type.column.base)))
      ("  " ++ field.modelLine) ↔ field.optional = true := by
  have line : "  " ++ field.modelLine = ("  " ++ (field.name ++ (" " ++ field.type.column.base))) ++
      ((if field.optional then "?" else "") ++ ((if field.unique then " @unique" else "") ++
        ((if field.isId then " @id" else "") ++ (field.modelDefault ++ field.modelMark)))) := by
    rw [modelLine_eq, modelFront]
    simp only [String.append_assoc]
  have append {front back : String} (first : front.toList.head? ≠ some '?')
      (second : back.toList.head? ≠ some '?') : (front ++ back).toList.head? ≠ some '?' := by
    rw [String.toList_append, List.head?_append]
    cases ends : front.toList.head? with
    | none => exact second
    | some c =>
      rw [ends] at first
      exact first
  have unique : (if field.unique then " @unique" else "").toList.head? ≠ some '?' := by
    cases field.unique <;> decide
  have id : (if field.isId then " @id" else "").toList.head? ≠ some '?' := by
    cases field.isId <;> decide
  have rest := append unique (append id (append field.head_modelDefault field.head_modelMark))
  rw [line, markedAfter_append]
  cases field.optional with
  | true => simp [String.toList_append]
  | false =>
    show ("" ++ _).toList.head? = some '?' ↔ false = true
    rw [String.empty_append]
    exact iff_of_false rest Bool.false_ne_true

end Field

/-! ### The classes and the model of an entity -/

/-- The lines of a model. -/
theorem Entity.model_eq_textOfLines (entity : Entity) :
    entity.model = textOfLines entity.modelLines := by
  rw [← String.toList_inj, toList_textOfLines, model, String.toList_append,
    String.toList_intercalate]
  exact intercalate_append_feed (by simp [modelLines])

/-- Whether a file of an entity has a text, both by the template of the file and by a marked-up
text. -/
structure Entity.Renders (entity : Entity) (file : SourceFile) (markup : List String)
    (text : String) : Prop where
  /-- The template renders to it. -/
  template : file.render (Context.ofEntity entity).members = .ok text
  /-- The marked-up text can be read, and renders to it. -/
  markup : ∃ tree, Markup.read (textOfLines markup) = some tree ∧
    tree.render (Context.ofEntity entity).members = .ok text

/-- The classes of records have a head, the lines of each field in order with one empty line between
two fields, and a closing brace: the first class for the fields that do not identify the record, the
second one for all. Both declare a field in the same way, with a question mark exactly if it may be
absent, and so does the line of the field in the model. -/
theorem Entity.renders_classes (entity : Entity) :
    entity.Renders .create createMarkup (textOfLines (classLines
      (Context.ofEntity entity).createHead (entity.createFields.map Field.createLines))) ∧
    entity.Renders .record recordMarkup (textOfLines (classLines
      (Context.ofEntity entity).recordHead (entity.fields.map Field.recordLines))) ∧
    entity.model = textOfLines (entity.modelHeader ::
      (entity.fields.map fun field => "  " ++ field.modelLine) ++
      (entity.relationships.map fun relationship => "  " ++ relationship.modelLine) ++
      ["", entity.tableLine, "\x7d"]) ∧
    ∀ field ∈ entity.fields,
      (MarkedAfter ("  " ++ field.name) ("  " ++ field.declaration) ↔ field.optional = true) ∧
      (MarkedAfter ("  " ++ (field.name ++ (" " ++ field.type.column.base)))
        ("  " ++ field.modelLine) ↔ field.optional = true) := by
  refine ⟨⟨?_, Markup.create, ?_, ?_⟩, ⟨?_, Markup.record, ?_, ?_⟩, ?_, ?_⟩
  · exact render_createFile entity
  · exact Markup.read_create
  · exact Markup.render_create entity
  · exact render_recordFile entity
  · exact Markup.read_record
  · exact Markup.render_record entity
  · exact entity.model_eq_textOfLines
  · intro field _
    exact ⟨field.markedAfter_declaration, field.markedAfter_modelLine⟩

end CrudScaffold
