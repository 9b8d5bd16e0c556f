/-!
# Entities

An entity is a named record type: its fields in the order of declaration, the relationships that
some of the fields give rise to, two flags, and the rules that say who may act on its records.
Every later stage, from the judgement of an entity to the files written for it, works on these
values and never changes them.
-/

namespace CrudScaffold

/-- The kinds of value that a field can hold. -/
inductive FieldType
  | string
  | text
  | int
  | bigint
  | float
  | decimal
  | boolean
  | date
  | datetime
  | json
  | uuid
deriving DecidableEq, Repr, Inhabited

namespace FieldType

/-- The name of a kind in definitions and documents. -/
def token : FieldType → String
  | .string => "string"
  | .text => "text"
  | .int => "int"
  | .bigint => "bigint"
  | .float => "float"
  | .decimal => "decimal"
  | .boolean => "boolean"
  | .date => "date"
  | .datetime => "datetime"
  | .json => "json"
  | .uuid => "uuid"

/-- Every kind, in the order in which messages list them. -/
def all : List FieldType :=
  [.string, .text, .int, .bigint, .float, .decimal, .boolean, .date, .datetime, .json, .uuid]

/-- The kind of a name. -/
def ofToken? (name : String) : Option FieldType := all.find? fun kind => kind.token == name

/-- No kind is missing from the list. -/
theorem mem_all (kind : FieldType) : kind ∈ all := by cases kind <;> decide

/-- The name of a kind finds the kind. -/
theorem ofToken?_token (kind : FieldType) : ofToken? kind.token = some kind := by
  cases kind <;> decide

end FieldType

/-- How many records of one entity belong to how many of another. -/
inductive Cardinality
  | oneToOne
  | oneToMany
  | manyToOne
  | manyToMany
deriving DecidableEq, Repr, Inhabited

namespace Cardinality

/-- The name of a cardinality in definitions and documents. -/
def token : Cardinality → String
  | .oneToOne => "one-to-one"
  | .oneToMany => "one-to-many"
  | .manyToOne => "many-to-one"
  | .manyToMany => "many-to-many"

/-- Every cardinality, in the order in which messages list them. -/
def all : List Cardinality := [.oneToOne, .oneToMany, .manyToOne, .manyToMany]

/-- The cardinality of a name. -/
def ofToken? (name : String) : Option Cardinality := all.find? fun kind => kind.token == name

/-- Whether one record is related to a list of others. -/
def isToMany : Cardinality → Bool
  | .oneToMany | .manyToMany => true
  | .oneToOne | .manyToOne => false

/-- No cardinality is missing from the list. -/
theorem mem_all (kind : Cardinality) : kind ∈ all := by cases kind <;> decide

/-- The name of a cardinality finds the cardinality. -/
theorem ofToken?_token (kind : Cardinality) : ofToken? kind.token = some kind := by
  cases kind <;> decide

end Cardinality

/-- One typed attribute of an entity. A document may name a relation target without a relation
type or the other way round, so the two are separate. -/
structure Field where
  /-- The name, which should be unique within the entity. -/
  name : String
  /-- The kind of value. -/
  type : FieldType
  /-- Whether the value may be absent. -/
  optional : Bool := false
  /-- Whether no two records may have the same value. -/
  unique : Bool := false
  /-- Whether the field identifies the record. -/
  isId : Bool := false
  /-- The expression for the value of a new record, kept as it was written. -/
  defaultValue : Option String := none
  /-- The entity that the field refers to. -/
  relationTarget : Option String := none
  /-- The cardinality of that reference. -/
  relationType : Option Cardinality := none
deriving DecidableEq, Repr, Inhabited

/-- A named association with another entity. -/
structure Relationship where
  /-- The name under which the other record is reached. -/
  name : String
  /-- The other entity. -/
  target : String
  /-- The cardinality. -/
  cardinality : Cardinality
  /-- Whether the other record may be absent. -/
  optional : Bool := false
deriving DecidableEq, Repr, Inhabited

/-- A rule that grants one action on the records of an entity. -/
structure Policy where
  /-- The action. -/
  action : String
  /-- The resource acted on. -/
  resource : String
  /-- The conditions, any one of which grants access. -/
  conditions : List String := []
deriving DecidableEq, Repr, Inhabited

/-- A named record type. -/
structure Entity where
  /-- The name. -/
  name : String
  /-- The fields in the order of declaration. -/
  fields : List Field := []
  /-- The associations with other entities. -/
  relationships : List Relationship := []
  /-- Whether deleted records are kept with a mark. -/
  softDelete : Bool := false
  /-- Whether changes are recorded. -/
  auditing : Bool := true
  /-- The rules of access. -/
  policies : List Policy := []
deriving DecidableEq, Repr, Inhabited

/-- Whether a field refers to an entity in a known cardinality. -/
def Field.hasRelation (field : Field) : Bool :=
  field.relationTarget.isSome && field.relationType.isSome

/-- The names of the fields, in order. -/
def Entity.fieldNames (entity : Entity) : List String := entity.fields.map Field.name

/-- The first field that identifies a record. -/
def Entity.idField? (entity : Entity) : Option Field := entity.fields.find? Field.isId

end CrudScaffold
