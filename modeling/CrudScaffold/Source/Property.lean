import CrudScaffold.Entity.Basic
import CrudScaffold.Json.Basic
import CrudScaffold.Text.Case

/-!
# Fields as properties of classes

How a field appears in the source files written for its entity: the TypeScript type of the property,
the decorators that check and describe it, and a sample value for tests.
-/

namespace CrudScaffold

/-- The TypeScript type of a kind of value. -/
def FieldType.propertyType : FieldType → String
  | .string | .text | .uuid => "string"
  | .int | .bigint | .float | .decimal => "number"
  | .boolean => "boolean"
  | .date | .datetime => "Date"
  | .json => "any"

/-- The TypeScript type for a name of a kind; a name that is none gets a string. -/
def propertyTypeOfToken (token : String) : String :=
  match FieldType.ofToken? token with
  | some kind => kind.propertyType
  | none => "string"

/-- The decorator that checks values of a kind; any value will do for the last one. -/
def FieldType.validator? : FieldType → Option String
  | .string | .text => some "IsString"
  | .int | .bigint | .float | .decimal => some "IsNumber"
  | .boolean => some "IsBoolean"
  | .date | .datetime => some "IsDateString"
  | .uuid => some "IsUUID"
  | .json => none

/-- The decorator of a property that may be absent. -/
def optionalValidator : String := "IsOptional"

/-- The decorators of the property of a field. -/
def Field.decorators (field : Field) : List String :=
  (match field.type.validator? with
    | some validator => ["@" ++ validator ++ "()"]
    | none => []) ++
    (if field.optional then ["@" ++ optionalValidator ++ "()"] else []) ++
    ["@ApiProperty(\x7b description: '" ++ field.name ++ "'" ++
      (if field.optional then ", required: false" else "") ++ " \x7d)"]

/-- Whether one text stands somewhere in another. -/
def containsText (part : List Char) : List Char → Bool
  | [] => part.isEmpty
  | c :: rest => part.isPrefixOf (c :: rest) || containsText part rest

/-- A value of a kind for the field of a name. -/
def FieldType.sample (name : String) : FieldType → Json
  | .int | .bigint => .integer 42
  | .float | .decimal => .decimal ⟨false, 9999, -2⟩
  | .boolean => .bool true
  | .date | .datetime => .string "2025-01-01T00:00:00.000Z"
  | .uuid => .string "00000000-0000-4000-8000-000000000001"
  | .json => .object [("key", .string "value")]
  | .string | .text => .string ("test-" ++ name)

/-- A value for a field. The name tells mail addresses and links apart from other values. -/
def Field.sample (field : Field) : Json :=
  let name := Text.lower field.name.toList
  if containsText "email".toList name then .string "test@example.com"
  else if containsText "url".toList name || containsText "link".toList name then
    .string "https://example.com/test"
  else field.type.sample field.name

end CrudScaffold
