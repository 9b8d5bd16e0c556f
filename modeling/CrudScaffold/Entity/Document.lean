import CrudScaffold.Entity.Derivation
import CrudScaffold.Json.Checked
import CrudScaffold.Json.Reader

/-!
# Entities as JSON documents

Beside the text notation, entities are exchanged as JSON. Writing puts every member under its
written name. Reading also takes the alternative names, fills absent members, and reports every
fault of an entity at once. A document is one entity or an array of them; its relationships are
always those that the fields give rise to, and an array of relationships that says otherwise is
refused.
-/

namespace CrudScaffold

/-- A field as a JSON object. -/
def Field.toJson (field : Field) : Json := .object [
  ("name", .string field.name),
  ("type", .string field.type.token),
  ("optional", .bool field.optional),
  ("unique", .bool field.unique),
  ("isId", .bool field.isId),
  ("defaultValue", .ofOption field.defaultValue),
  ("relationTarget", .ofOption field.relationTarget),
  ("relationType", .ofOption (field.relationType.map Cardinality.token))]

/-- A relationship as a JSON object. -/
def Relationship.toJson (relationship : Relationship) : Json := .object [
  ("name", .string relationship.name),
  ("targetEntity", .string relationship.target),
  ("type", .string relationship.cardinality.token),
  ("optional", .bool relationship.optional)]

/-- A policy as a JSON object. -/
def Policy.toJson (policy : Policy) : Json := .object [
  ("action", .string policy.action),
  ("resource", .string policy.resource),
  ("conditions", .array (policy.conditions.map .string))]

/-- An entity as a JSON object. -/
def Entity.toJson (entity : Entity) : Json := .object [
  ("name", .string entity.name),
  ("fields", .array (entity.fields.map Field.toJson)),
  ("relationships", .array (entity.relationships.map Relationship.toJson)),
  ("softDelete", .bool entity.softDelete),
  ("auditing", .bool entity.auditing),
  ("abacPolicies", .array (entity.policies.map Policy.toJson))]

/-- The name of a cardinality. -/
def Cardinality.check : Json → Checked Cardinality :=
  Json.checkChoice (Cardinality.all.map Cardinality.token) Cardinality.ofToken?

/-- The name of a field type. -/
def FieldType.check : Json → Checked FieldType :=
  Json.checkChoice (FieldType.all.map FieldType.token) FieldType.ofToken?

/-- A field from the members of an object. -/
def Field.checkMembers (members : List (String × Json)) : Checked Field :=
  Field.mk
    <$> Json.required members (.single "name") Json.checkString
    <*> Json.required members (.single "type") FieldType.check
    <*> Json.withDefault members (.single "optional") false Json.checkFlag
    <*> Json.withDefault members (.single "unique") false Json.checkFlag
    <*> Json.withDefault members ⟨"isId", "is_id"⟩ false Json.checkFlag
    <*> Json.withDefault members ⟨"defaultValue", "default_value"⟩ none
      (Json.checkNullable Json.checkString)
    <*> Json.withDefault members ⟨"relationTarget", "relation_target"⟩ none
      (Json.checkNullable Json.checkString)
    <*> Json.withDefault members ⟨"relationType", "relation_type"⟩ none
      (Json.checkNullable Cardinality.check)

/-- A field from a JSON value. -/
def Field.check : Json → Checked Field := Json.checkRecord "EntityField" Field.checkMembers

/-- A relationship from the members of an object. -/
def Relationship.checkMembers (members : List (String × Json)) : Checked Relationship :=
  Relationship.mk
    <$> Json.required members (.single "name") Json.checkString
    <*> Json.required members ⟨"targetEntity", "target_entity"⟩ Json.checkString
    <*> Json.required members (.single "type") Cardinality.check
    <*> Json.withDefault members (.single "optional") false Json.checkFlag

/-- A relationship from a JSON value. -/
def Relationship.check : Json → Checked Relationship :=
  Json.checkRecord "Relationship" Relationship.checkMembers

/-- A policy from the members of an object. -/
def Policy.checkMembers (members : List (String × Json)) : Checked Policy :=
  Policy.mk
    <$> Json.required members (.single "action") Json.checkString
    <*> Json.required members (.single "resource") Json.checkString
    <*> Json.withDefault members (.single "conditions") [] (Json.checkList Json.checkString)

/-- A policy from a JSON value. -/
def Policy.check : Json → Checked Policy := Json.checkRecord "AbacPolicy" Policy.checkMembers

/-- The two names of the member that holds the policies. -/
def policiesName : MemberName := ⟨"abacPolicies", "abac_policies"⟩

/-- An entity from the members of an object. -/
def Entity.checkMembers (members : List (String × Json)) : Checked Entity :=
  Entity.mk
    <$> Json.required members (.single "name") Json.checkString
    <*> Json.withDefault members (.single "fields") [] (Json.checkList Field.check)
    <*> Json.withDefault members (.single "relationships") []
      (Json.checkList Relationship.check)
    <*> Json.withDefault members ⟨"softDelete", "soft_delete"⟩ false Json.checkFlag
    <*> Json.withDefault members (.single "auditing") true Json.checkFlag
    <*> Json.withDefault members policiesName [] (Json.checkList Policy.check)

/-- An entity from a JSON value. -/
def Entity.check : Json → Checked Entity := Json.checkRecord "Entity" Entity.checkMembers

/-- Read a field as it stands. -/
def Field.ofJson (value : Json) : Except Mismatch Field :=
  (Field.check value).toExcept "EntityField"

/-- Read a relationship as it stands. -/
def Relationship.ofJson (value : Json) : Except Mismatch Relationship :=
  (Relationship.check value).toExcept "Relationship"

/-- Read an entity as it stands, with the relationships and policies that the value gives. -/
def Entity.ofJson (value : Json) : Except Mismatch Entity :=
  (Entity.check value).toExcept "Entity"

/-- Why a document is refused. -/
inductive DocumentFault
  | json (fault : JsonFault)
  | mismatch (fault : Mismatch)
  /-- The relationships given for the named entity are not those of its fields. -/
  | underived (entity : String)
deriving DecidableEq, Repr

/-- The words for a fault. -/
def DocumentFault.message : DocumentFault → String
  | .json fault => fault.message
  | .mismatch fault => fault.message
  | .underived entity =>
    "Entity " ++ entity ++ ": relationships must be derived from relation fields"

/-- The members of a value, if it is an object. -/
def Json.members : Json → List (String × Json)
  | .object members => members
  | _ => []

/-- Read one item of a document: its relationships are derived, and its policies are the default
ones unless it gives any. -/
def Entity.load (item : Json) : Except DocumentFault Entity := do
  let entity ← (Entity.ofJson item).mapError .mismatch
  let relationships := deriveRelationships entity.fields
  if (Json.member? item.members "relationships").isSome && entity.relationships ≠ relationships then
    throw (.underived entity.name)
  let policies :=
    if (Json.find? item.members policiesName).isSome then entity.policies
    else defaultPolicies entity.name
  return { entity with relationships, policies }

/-- The items of a document: those of an array, or the value itself. -/
def Json.documentItems : Json → List Json
  | .array items => items
  | item => [item]

/-- Read a document. The first item with a fault decides the answer. -/
def Entity.loadDocument (text : String) : Except DocumentFault (List Entity) := do
  let document ← (Json.read text).mapError .json
  document.documentItems.mapM Entity.load

end CrudScaffold
