import CrudScaffold.Json.Printer
import CrudScaffold.Name.Plural
import CrudScaffold.Source.Property

/-!
# The context of an entity

What the templates of the source files say about an entity: its name in several spellings, its
fields as properties, the validators that have to be imported, and a sample of the values that a new
record needs.
-/

namespace CrudScaffold

/-- A field as the templates see it. -/
structure Property where
  /-- The name. -/
  name : String
  /-- The name of the kind of value. -/
  type : String
  /-- Whether the value may be absent. -/
  optional : Bool
  /-- Whether the field identifies the record. -/
  isId : Bool
  /-- The TypeScript type. -/
  propertyType : String
  /-- The decorators of the property. -/
  decorators : List String
deriving DecidableEq, Repr

/-- What the templates say about an entity. -/
structure Context where
  /-- The name. -/
  name : String
  /-- The name of its classes. -/
  namePascal : String
  /-- The name of its files and its route. -/
  nameKebab : String
  /-- The name of its variables. -/
  nameCamel : String
  /-- The plural for headings. -/
  pluralPascal : String
  /-- The plural for descriptions. -/
  pluralKebab : String
  /-- Every field, in order. -/
  fields : List Property
  /-- The fields that a new record is given. -/
  createFields : List Property
  /-- The validators of those fields, in alphabetical order. -/
  validators : List String
  /-- Values for a new record. -/
  samplePayload : String
  /-- The first name among those values. -/
  sampleKey : String
deriving DecidableEq, Repr

/-- The property of a field. -/
def Field.property (field : Field) : Property :=
  { name := field.name
    type := field.type.token
    optional := field.optional
    isId := field.isId
    propertyType := field.type.propertyType
    decorators := field.decorators }

/-- The fields that a new record is given: all that do not identify it. -/
def Entity.createFields (entity : Entity) : List Field :=
  entity.fields.filter fun field => !field.isId

/-- Every validator, in alphabetical order. -/
def allValidators : List String :=
  ["IsBoolean", "IsDateString", "IsNumber", "IsOptional", "IsString", "IsUUID"]

/-- Whether a field uses a validator. -/
def Field.usesValidator (field : Field) (validator : String) : Bool :=
  field.type.validator? == some validator || (field.optional && validator == optionalValidator)

/-- The validators that some field of a new record uses. -/
def Entity.validators (entity : Entity) : List String :=
  allValidators.filter fun validator =>
    entity.createFields.any fun field => field.usesValidator validator

/-- The fields that a new record cannot do without. -/
def Entity.requiredFields (entity : Entity) : List Field :=
  entity.createFields.filter fun field => !field.optional && field.defaultValue.isNone

/-- Sample values for the required fields, by name; a name without fields stands in if there are
none. A repeated name keeps its first place and takes its last value. -/
def Entity.sampleMembers (entity : Entity) : List (String × Json) :=
  let samples := entity.requiredFields.foldl
    (fun members field => Json.insertMember field.name field.sample members) []
  if samples.isEmpty then [("name", .string ("Test " ++ entity.name))] else samples

/-- The context of an entity. -/
def Context.ofEntity (entity : Entity) : Context :=
  { name := entity.name
    namePascal := Name.pascalCase entity.name
    nameKebab := Name.kebabCase entity.name
    nameCamel := Name.camelCase entity.name
    pluralPascal := Name.pascalCase (Name.pluralize entity.name)
    pluralKebab := Name.kebabCase (Name.pluralize entity.name)
    fields := entity.fields.map Field.property
    createFields := entity.createFields.map Field.property
    validators := entity.validators
    samplePayload := (Json.object entity.sampleMembers).compact
    sampleKey := ((entity.sampleMembers.map Prod.fst).head?).getD "" }

/-- A property as the members that templates look up. -/
def Property.toJson (property : Property) : Json := .object [
  ("name", .string property.name),
  ("type", .string property.type),
  ("optional", .bool property.optional),
  ("is_id", .bool property.isId),
  ("ts_type", .string property.propertyType),
  ("decorators", .array (property.decorators.map .string))]

/-- A context as the members that templates look up. -/
def Context.members (context : Context) : List (String × Json) := [
  ("name", .string context.name),
  ("name_pascal", .string context.namePascal),
  ("name_kebab", .string context.nameKebab),
  ("name_camel", .string context.nameCamel),
  ("plural_pascal", .string context.pluralPascal),
  ("plural_kebab", .string context.pluralKebab),
  ("fields", .array (context.fields.map Property.toJson)),
  ("create_fields", .array (context.createFields.map Property.toJson)),
  ("validators", .array (context.validators.map .string)),
  ("sample_payload", .string context.samplePayload),
  ("sample_key", .string context.sampleKey)]

end CrudScaffold
