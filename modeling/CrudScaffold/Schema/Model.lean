import CrudScaffold.Entity.Basic
import CrudScaffold.Name.Plural

/-!
# Models of a database schema

An entity becomes a `model` block of a Prisma schema: a line for each field, a line for each
relationship, and the name of the table. The text is made from the entity alone, and nothing is
judged here.
-/

namespace CrudScaffold

/-- The type of a column: the scalar type, and the attribute of the database if it needs one. -/
structure ColumnType where
  /-- The scalar type. -/
  base : String
  /-- The attribute that selects another type of the database. -/
  native : Option String := none
deriving DecidableEq, Repr

/-- The column type of a kind of value. -/
def FieldType.column : FieldType → ColumnType
  | .string => ⟨"String", none⟩
  | .text => ⟨"String", some "@db.Text"⟩
  | .int => ⟨"Int", none⟩
  | .bigint => ⟨"BigInt", none⟩
  | .float => ⟨"Float", none⟩
  | .decimal => ⟨"Decimal", none⟩
  | .boolean => ⟨"Boolean", none⟩
  | .date => ⟨"DateTime", some "@db.Date"⟩
  | .datetime => ⟨"DateTime", none⟩
  | .json => ⟨"Json", none⟩
  | .uuid => ⟨"String", some "@db.Uuid"⟩

/-- The column type for a name of a kind; a name that is none gets plain text. -/
def ColumnType.ofToken (token : String) : ColumnType :=
  match FieldType.ofToken? token with
  | some kind => kind.column
  | none => ⟨"String", none⟩

/-- The line of a field, without its indent. -/
def Field.modelLine (field : Field) : String :=
  field.name ++ " " ++ field.type.column.base ++ (if field.optional then "?" else "") ++
    (if field.unique then " @unique" else "") ++ (if field.isId then " @id" else "") ++
    (match field.defaultValue with
      | some value => if value.isEmpty then "" else " @default(" ++ value ++ ")"
      | none => "") ++
    (match field.type.column.native with
      | some mark => " " ++ mark
      | none => "")

/-- The line of a relationship, without its indent. A list of records carries the name of the
relation, so that several relations between two models can be told apart. -/
def Relationship.modelLine (relationship : Relationship) : String :=
  if relationship.cardinality.isToMany then
    relationship.name ++ " " ++ relationship.target ++ "[] @relation(\"" ++ relationship.name ++
      "To" ++ relationship.target ++ "\")"
  else
    relationship.name ++ " " ++ relationship.target ++ (if relationship.optional then "?" else "")

/-- The line that opens the model of an entity. -/
def Entity.modelHeader (entity : Entity) : String := "model " ++ entity.name ++ " \x7b"

/-- The line that names the table of an entity. -/
def Entity.tableLine (entity : Entity) : String :=
  "  @@map(\"" ++ Name.tableName entity.name ++ "\")"

/-- The lines of the model of an entity. -/
def Entity.modelLines (entity : Entity) : List String :=
  entity.modelHeader ::
    (entity.fields.map fun field => "  " ++ field.modelLine) ++
    (entity.relationships.map fun relationship => "  " ++ relationship.modelLine) ++
    ["", entity.tableLine, "\x7d"]

/-- The model of an entity. -/
def Entity.model (entity : Entity) : String := "\n".intercalate entity.modelLines ++ "\n"

end CrudScaffold
