import CrudScaffold.Definition.Modifier

/-!
# Field lines

A field is declared on one line: its name, a colon, its type, a question mark if it is optional,
and a row of modifiers. The line may end with one line feed and holds no other. In the canonical
line of a field the modifiers come in a fixed order with the default last, since a default may hold
any text that the reader takes.
-/

namespace CrudScaffold

/-- The parts of a field line before its type and its modifiers are judged. -/
structure FieldLine where
  /-- The name. -/
  name : List Char
  /-- The word in the place of the type. -/
  type : List Char
  /-- Whether a question mark follows. -/
  optional : Bool
  /-- The row of modifiers. -/
  row : List Char
deriving DecidableEq, Repr

/-- A text without the line feed at its end, if that is its only one. -/
def singleLine? (text : List Char) : Option (List Char) :=
  match text.getLast? with
  | some '\n' => if text.dropLast.contains '\n' then none else some text.dropLast
  | _ => if text.contains '\n' then none else some text

/-- The parts of a line that has the form of a field declaration. -/
def FieldLine.split? (line : List Char) : Option FieldLine :=
  let (name, rest) := Text.takeWord line
  match rest with
  | ':' :: rest =>
    let (type, rest) := Text.takeWord rest
    if name.isEmpty || type.isEmpty then none
    else
      match rest with
      | '?' :: rest => (singleLine? rest).map fun row => { name, type, optional := true, row }
      | rest => (singleLine? rest).map fun row => { name, type, optional := false, row }
  | _ => none

/-- Read a field line. The form of the line is judged first, then its type, then the modifiers from
the left; the first fault is reported. -/
def Field.parseChars (line : List Char) : Except DefinitionFault Field := do
  match FieldLine.split? line with
  | none => throw (.fieldFormat (String.ofList line))
  | some parts =>
    match FieldType.ofToken? (String.ofList parts.type) with
    | none => throw (.fieldType (String.ofList parts.type) (String.ofList line))
    | some type =>
      let modifiers ← (segments parts.row).mapM (Modifier.parse line)
      let field : Field := { name := String.ofList parts.name, type, optional := parts.optional }
      return modifiers.foldl Field.apply field

/-- Read a field line. -/
def Field.parse (line : String) : Except DefinitionFault Field := Field.parseChars line.toList

/-- The line of a field. -/
def Field.definition (field : Field) : String :=
  field.name ++ ":" ++ field.type.token ++ (if field.optional then "?" else "") ++
    (if field.unique then "@unique" else "") ++ (if field.isId then "@id" else "") ++
    (match field.relationTarget, field.relationType with
      | some target, some cardinality => "@relation(" ++ target ++ "," ++ cardinality.token ++ ")"
      | _, _ => "") ++
    (match field.defaultValue with
      | some value => "@default(" ++ value ++ ")"
      | none => "")

end CrudScaffold
