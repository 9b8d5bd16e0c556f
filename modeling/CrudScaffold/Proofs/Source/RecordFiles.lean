import CrudScaffold.Proofs.Template.Parts
import CrudScaffold.Source.Files
import CrudScaffold.Schema.Model

/-!
# The layout of the classes of records

Two of the source files declare a class with a property for each field: what is sent to make a
record, and a record. Each is a head, the lines of each property with one empty line between two
properties, and a closing brace (`classLines`). The templates of the two files render to exactly
these lines (`render_createFile`, `render_recordFile`), whatever the entity.
-/

namespace CrudScaffold

/-! ### Lines -/

/-- Lines with a line feed behind each. -/
def textOfLines (lines : List String) : String := String.join (lines.map (· ++ "\n"))

/-- No lines. -/
theorem textOfLines_nil : textOfLines [] = "" := rfl

/-- A line and further lines. -/
theorem textOfLines_cons (line : String) (lines : List String) :
    textOfLines (line :: lines) = line ++ ("\n" ++ textOfLines lines) := by
  rw [textOfLines, List.map_cons, String.join_cons, String.append_assoc]
  rfl

/-- Further lines stand behind the first ones. -/
theorem textOfLines_append (front back : List String) :
    textOfLines (front ++ back) = textOfLines front ++ textOfLines back := by
  rw [textOfLines, List.map_append, String.join_append]
  rfl

/-- The characters of lines with a line feed behind each. -/
theorem toList_textOfLines (lines : List String) :
    (textOfLines lines).toList = (lines.map String.toList).flatMap (· ++ ['\n']) := by
  induction lines with
  | nil => rfl
  | cons line lines ih =>
    rw [textOfLines_cons, String.toList_append, String.toList_append, ih, List.map_cons,
      List.flatMap_cons, List.append_assoc]
    rfl

/-- The text of lines holds each of them. -/
theorem isInfix_textOfLines {line : String} {lines : List String} (member : line ∈ lines) :
    line.toList <:+: (textOfLines lines).toList := by
  obtain ⟨front, back, rfl⟩ := List.append_of_mem member
  rw [textOfLines_append, textOfLines_cons, String.toList_append, String.toList_append,
    ← List.append_assoc]
  exact List.infix_append _ _ _

/-- Lines with an indent. -/
theorem textOfLines_indented (lines : List String) :
    textOfLines (lines.map ("  " ++ ·)) =
      "".intercalate (lines.map fun line => "  " ++ (line ++ "\n")) := by
  have indented : ((· ++ "\n") ∘ ("  " ++ ·)) = fun line => "  " ++ (line ++ "\n") :=
    funext fun line => String.append_assoc
  rw [intercalate_empty, textOfLines, List.map_map, indented]

/-- Blocks of lines with an empty line between two are their texts with a line feed between. -/
theorem textOfLines_intercalate (blocks : List (List String)) :
    textOfLines ([""].intercalate blocks) = "\n".intercalate (blocks.map textOfLines) := by
  induction blocks with
  | nil => rfl
  | cons block blocks ih =>
    cases blocks with
    | nil => rw [List.intercalate_singleton, List.map_singleton, String.intercalate_singleton]
    | cons next blocks =>
      rw [List.intercalate_cons_cons, textOfLines_append, textOfLines_append, ih]
      exact String.intercalate_cons_cons.symm

/-- The lines of a file with one class: its head, the lines of each property with one empty line
between two properties, and the brace that closes the class. -/
def classLines (head : List String) (properties : List (List String)) : List String :=
  head ++ [""].intercalate properties ++ ["\x7d"]

/-- The text of a class. -/
theorem textOfLines_classLines (head : List String) (properties : List (List String)) :
    textOfLines (classLines head properties) =
      textOfLines head ++ ("\n".intercalate (properties.map textOfLines) ++ "\x7d\n") := by
  rw [classLines, textOfLines_append, textOfLines_append, textOfLines_intercalate,
    String.append_assoc]
  rfl

/-! ### Properties -/

namespace Field

/-- The decorator that describes a field. -/
def description (field : Field) : String :=
  "@ApiProperty(\x7b description: '" ++ field.name ++ "'" ++
    (if field.optional then ", required: false" else "") ++ " \x7d)"

/-- The declaration of the property of a field. -/
def declaration (field : Field) : String :=
  field.name ++ (if field.optional then "?" else "") ++ ": " ++ field.type.propertyType ++ ";"

/-- The parts of the description. -/
theorem description_eq (field : Field) : field.description =
    "@ApiProperty(\x7b description: '" ++ (field.name ++ ("'" ++
      ((if field.optional then ", required: false" else "") ++ " \x7d)"))) := by
  show "@ApiProperty(\x7b description: '" ++ field.name ++ "'" ++
    (if field.optional then ", required: false" else "") ++ " \x7d)" = _
  simp only [String.append_assoc]

/-- The parts of the declaration. -/
theorem declaration_eq (field : Field) : field.declaration =
    field.name ++ ((if field.optional then "?" else "") ++
      (": " ++ (field.type.propertyType ++ ";"))) := by
  show field.name ++ (if field.optional then "?" else "") ++ ": " ++ field.type.propertyType ++
    ";" = _
  simp only [String.append_assoc]

/-- The lines of a field that a new record is given. -/
def createLines (field : Field) : List String :=
  (field.decorators ++ [field.declaration]).map ("  " ++ ·)

/-- The lines of a field of a record. -/
def recordLines (field : Field) : List String :=
  [field.description, field.declaration].map ("  " ++ ·)

end Field

namespace Context

/-- The line that imports the validators. -/
def validatorLine (context : Context) : String :=
  "import \x7b " ++ ", ".intercalate context.validators ++ " \x7d from 'class-validator';"

/-- The lines that import the validators: one, or none if there are no validators. -/
def validatorLines (context : Context) : List String :=
  if context.validators.isEmpty then [] else [context.validatorLine]

/-- The lines with the imports of the class of what makes a record. -/
def createImports (context : Context) : List String :=
  ["import \x7b ApiProperty \x7d from '@nestjs/swagger';"] ++ context.validatorLines ++ [""]

/-- The line that opens that class. -/
def createOpening (context : Context) : String :=
  "export class Create" ++ context.namePascal ++ "Dto \x7b"

/-- The lines above the fields that a new record is given. -/
def createHead (context : Context) : List String :=
  context.createImports ++ [context.createOpening]

/-- The lines above the fields of a record. -/
def recordHead (context : Context) : List String :=
  ["import \x7b ApiProperty \x7d from '@nestjs/swagger';", "",
    "export class " ++ context.namePascal ++ " \x7b"]

/-- Validators are imported on one line if there are any. -/
theorem mem_validatorLines {context : Context} {line : String} :
    line ∈ context.validatorLines ↔ context.validators ≠ [] ∧ line = context.validatorLine := by
  unfold validatorLines
  by_cases none : context.validators.isEmpty = true
  · rw [if_pos none]
    exact iff_of_false List.not_mem_nil fun found => found.1 (List.isEmpty_iff.mp none)
  · rw [if_neg none, List.mem_singleton]
    exact (and_iff_right fun empty => none (List.isEmpty_iff.mpr empty)).symm

/-- The text above the fields that a new record is given. -/
theorem textOfLines_createHead (context : Context) : textOfLines context.createHead =
    "import \x7b ApiProperty \x7d from '@nestjs/swagger';\n" ++
      (textOfLines context.validatorLines ++
        ("\n" ++ ("export class Create" ++ (context.namePascal ++ "Dto \x7b\n")))) := by
  have first : "import \x7b ApiProperty \x7d from '@nestjs/swagger';\n" =
      "import \x7b ApiProperty \x7d from '@nestjs/swagger';" ++ "\n" := rfl
  have last : "Dto \x7b\n" = "Dto \x7b" ++ "\n" := rfl
  have lines : textOfLines context.createHead =
      textOfLines ["import \x7b ApiProperty \x7d from '@nestjs/swagger';"] ++
        textOfLines context.validatorLines ++ textOfLines [""] ++
          textOfLines ["export class Create" ++ context.namePascal ++ "Dto \x7b"] := by
    rw [← textOfLines_append, ← textOfLines_append, ← textOfLines_append]
    rfl
  rw [lines]
  simp only [first, last, textOfLines_cons, textOfLines_nil, String.append_assoc,
    String.append_empty, String.empty_append]

/-- The text above the fields of a record. -/
theorem textOfLines_recordHead (context : Context) : textOfLines context.recordHead =
    "import \x7b ApiProperty \x7d from '@nestjs/swagger';\n" ++
      ("\n" ++ ("export class " ++ (context.namePascal ++ " \x7b\n"))) := by
  have first : "import \x7b ApiProperty \x7d from '@nestjs/swagger';\n" =
      "import \x7b ApiProperty \x7d from '@nestjs/swagger';" ++ "\n" := rfl
  have last : " \x7b\n" = " \x7b" ++ "\n" := rfl
  have lines : textOfLines context.recordHead =
      textOfLines ["import \x7b ApiProperty \x7d from '@nestjs/swagger';", "",
        "export class " ++ context.namePascal ++ " \x7b"] := rfl
  rw [lines]
  simp only [first, last, textOfLines_cons, textOfLines_nil, String.append_assoc,
    String.append_empty, String.empty_append]

end Context

/-! ### Rendering -/

section

variable (field : Field) (scope : List (String × Json))

/-- The lines of the decorators of a field. -/
theorem render_decoratorLines :
    Source.decoratorLines.render (("field", field.property.toJson) :: scope) =
      .ok (textOfLines (field.decorators.map ("  " ++ ·))) := by
  have line (decorator : String) : (Template.concat ["  ", Source.place "decorator", "\n"]).render
      (("decorator", .string decorator) :: ("field", field.property.toJson) :: scope) =
        .ok ("  " ++ (decorator ++ "\n")) := rfl
  have lines : Source.decoratorLines.render (("field", field.property.toJson) :: scope) =
      .ok ("".intercalate (field.decorators.map fun decorator => "  " ++ (decorator ++ "\n")) ++
        "") := Template.render_each rfl line rfl
  rw [lines, textOfLines_indented, String.append_empty]

/-- The line of the property of a field. -/
theorem render_propertyLine :
    Source.propertyLine.render (("field", field.property.toJson) :: scope) =
      .ok (textOfLines ["  " ++ field.declaration]) := by
  have parts : Source.propertyLine.render (("field", field.property.toJson) :: scope) =
      .ok (String.join ["  ", field.name, if field.optional then "?" else "", ": ",
        field.type.propertyType, ";\n"]) :=
    Template.render_concat (.cons (Template.render_text _) (.cons (Template.render_value rfl)
      (.cons (Template.render_mark _ rfl) (.cons (Template.render_text _)
      (.cons (Template.render_value rfl) (.cons (Template.render_text _) .nil))))))
  have last : ";\n" = ";" ++ "\n" := rfl
  rw [parts, field.declaration_eq]
  simp only [last, textOfLines_cons, textOfLines_nil, String.join_cons, String.join_nil,
    String.append_assoc, String.append_empty]

/-- The line that describes a field. -/
theorem render_descriptionLine :
    Source.descriptionLine.render (("field", field.property.toJson) :: scope) =
      .ok (textOfLines ["  " ++ field.description]) := by
  have parts : Source.descriptionLine.render (("field", field.property.toJson) :: scope) =
      .ok (String.join ["  @ApiProperty(\x7b description: '", field.name, "'",
        if field.optional then ", required: false" else "", " \x7d)\n"]) :=
    Template.render_concat (.cons (Template.render_text _) (.cons (Template.render_value rfl)
      (.cons (Template.render_text _) (.cons (Template.render_mark _ rfl)
      (.cons (Template.render_text _) .nil)))))
  -- the template holds the indent and the line feed together with the words around the places
  have front : "  @ApiProperty(\x7b description: '" =
      "  " ++ "@ApiProperty(\x7b description: '" := rfl
  have back : " \x7d)\n" = " \x7d)" ++ "\n" := rfl
  rw [parts, field.description_eq]
  simp only [front, back, textOfLines_cons, textOfLines_nil, String.join_cons, String.join_nil,
    String.append_assoc, String.append_empty]

end

/-- The text of the line that imports validators. -/
theorem Context.textOfLines_validatorLines (context : Context) :
    textOfLines context.validatorLines =
      if context.validators.isEmpty then "" else
        "import \x7b " ++ (", ".intercalate context.validators ++
          " \x7d from 'class-validator';\n") := by
  have last : " \x7d from 'class-validator';\n" = " \x7d from 'class-validator';" ++ "\n" := rfl
  unfold validatorLines
  by_cases none : context.validators.isEmpty = true
  · rw [if_pos none, if_pos none, textOfLines_nil]
  · rw [if_neg none, if_neg none, validatorLine]
    simp only [last, textOfLines_cons, textOfLines_nil, String.append_assoc, String.append_empty]

/-- The line that imports validators. -/
theorem render_validatorImport (context : Context) :
    (Template.given (.named "validators") Source.validatorImport .done).render context.members =
      .ok (textOfLines context.validatorLines) := by
  have line : Source.validatorImport.render context.members =
      .ok (String.join ["import \x7b ", ", ".intercalate context.validators,
        " \x7d from 'class-validator';\n"]) :=
    Template.render_concat (.cons (Template.render_text _) (.cons (Template.render_joined rfl)
      (.cons (Template.render_text _) .nil)))
  have found : (Lookup.named "validators").find context.members =
      .ok (.array (context.validators.map .string)) := rfl
  rw [Template.render_given found line, context.textOfLines_validatorLines]
  simp only [Json.isTruthy, List.isEmpty_map, String.join_cons, String.join_nil,
    String.append_empty]
  cases context.validators.isEmpty <;> rfl

/-- The fields that a new record is given are found in the context of an entity. -/
theorem elements_createFields (entity : Entity) :
    (Lookup.named "create_fields").elements (Context.ofEntity entity).members =
      .ok (entity.createFields.map fun field => field.property.toJson) := by
  show Except.ok ((entity.createFields.map Field.property).map Property.toJson) = _
  rw [List.map_map]
  rfl

/-- The fields are found in the context of an entity. -/
theorem elements_fields (entity : Entity) :
    (Lookup.named "fields").elements (Context.ofEntity entity).members =
      .ok (entity.fields.map fun field => field.property.toJson) := by
  show Except.ok ((entity.fields.map Field.property).map Property.toJson) = _
  rw [List.map_map]
  rfl

/-- What is sent to make a record has a property for each field that does not identify it. -/
theorem render_createFile (entity : Entity) :
    Source.createFile.render (Context.ofEntity entity).members =
      .ok (textOfLines (classLines (Context.ofEntity entity).createHead
        (entity.createFields.map Field.createLines))) := by
  have property (field : Field) :
      (Template.concat [Source.decoratorLines, Source.propertyLine]).render
        (("field", field.property.toJson) :: (Context.ofEntity entity).members) =
          .ok (textOfLines field.createLines) := by
    rw [Template.render_concat (.cons (render_decoratorLines field _)
      (.cons (render_propertyLine field _) .nil)), Field.createLines, List.map_append,
      textOfLines_append, String.join_cons, String.join_cons, String.join_nil, String.append_empty]
    rfl
  have properties : (Template.each "field" (.named "create_fields") "\n"
      (.concat [Source.decoratorLines, Source.propertyLine]) .done).render
        (Context.ofEntity entity).members =
          .ok ("\n".intercalate (entity.createFields.map fun field =>
            textOfLines field.createLines) ++ "") :=
    Template.render_each (elements_createFields entity) property rfl
  have name : Source.namePascal.render (Context.ofEntity entity).members =
      .ok (Context.ofEntity entity).namePascal := Template.render_value rfl
  have parts := Template.render_concat (.cons (Template.render_text
      "import \x7b ApiProperty \x7d from '@nestjs/swagger';\n")
    (.cons (render_validatorImport (Context.ofEntity entity)) (.cons (Template.render_text "\n")
    (.cons (Template.render_text "export class Create") (.cons name
    (.cons (Template.render_text "Dto \x7b\n") (.cons properties
    (.cons (Template.render_text "\x7d\n") .nil))))))))
  refine parts.trans (congrArg Except.ok ?_)
  rw [textOfLines_classLines, Context.textOfLines_createHead, List.map_map]
  simp only [String.join_cons, String.join_nil, String.append_empty, String.append_assoc]
  rfl

/-- A record has a property for each field. -/
theorem render_recordFile (entity : Entity) :
    Source.recordFile.render (Context.ofEntity entity).members =
      .ok (textOfLines (classLines (Context.ofEntity entity).recordHead
        (entity.fields.map Field.recordLines))) := by
  have property (field : Field) :
      (Template.concat [Source.descriptionLine, Source.propertyLine]).render
        (("field", field.property.toJson) :: (Context.ofEntity entity).members) =
          .ok (textOfLines field.recordLines) := by
    have lines : field.recordLines =
        ["  " ++ field.description] ++ ["  " ++ field.declaration] := rfl
    rw [Template.render_concat (.cons (render_descriptionLine field _)
      (.cons (render_propertyLine field _) .nil)), lines, textOfLines_append,
      String.join_cons, String.join_cons, String.join_nil, String.append_empty]
  have properties : (Template.each "field" (.named "fields") "\n"
      (.concat [Source.descriptionLine, Source.propertyLine]) .done).render
        (Context.ofEntity entity).members =
          .ok ("\n".intercalate (entity.fields.map fun field =>
            textOfLines field.recordLines) ++ "") :=
    Template.render_each (elements_fields entity) property rfl
  have name : Source.namePascal.render (Context.ofEntity entity).members =
      .ok (Context.ofEntity entity).namePascal := Template.render_value rfl
  have parts := Template.render_concat (.cons (Template.render_text
      "import \x7b ApiProperty \x7d from '@nestjs/swagger';\n")
    (.cons (Template.render_text "\n") (.cons (Template.render_text "export class ") (.cons name
    (.cons (Template.render_text " \x7b\n") (.cons properties
    (.cons (Template.render_text "\x7d\n") .nil)))))))
  refine parts.trans (congrArg Except.ok ?_)
  rw [textOfLines_classLines, Context.textOfLines_recordHead, List.map_map]
  simp only [String.join_cons, String.join_nil, String.append_empty, String.append_assoc]
  rfl

end CrudScaffold
