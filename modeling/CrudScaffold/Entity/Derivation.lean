import CrudScaffold.Entity.Basic
import CrudScaffold.Text.Case

/-!
# What the fields and the name of an entity determine

A field whose name holds `Id` and that refers to another entity gives rise to a relationship, named
like the field without its first `Id`. The name of the entity alone determines five rules of access,
one for each action.
-/

namespace CrudScaffold

/-- A name without its first `Id`, if it holds one. -/
def dropFirstId? : List Char → Option (List Char)
  | [] => none
  | 'I' :: 'd' :: rest => some rest
  | c :: rest => (dropFirstId? rest).map (c :: ·)

/-- The relationship that a field gives rise to. -/
def Field.relationship? (field : Field) : Option Relationship := do
  let name ← dropFirstId? field.name.toList
  let target ← field.relationTarget
  let cardinality ← field.relationType
  return { name := String.ofList name, target, cardinality, optional := field.optional }

/-- The relationships of a list of fields, in the order of the fields. -/
def deriveRelationships (fields : List Field) : List Relationship :=
  fields.filterMap Field.relationship?

/-- An action, the role that may take it, and whether the creator of a record may take it too. -/
structure AccessRule where
  /-- The action. -/
  action : String
  /-- The role, without the resource it is for. -/
  role : String
  /-- Whether the creator of a record may act on it. -/
  creatorMayAct : Bool
deriving DecidableEq, Repr

/-- The rules that hold for every entity unless a document replaces them. -/
def accessRules : List AccessRule := [
  ⟨"create", "creator", false⟩,
  ⟨"read", "reader", true⟩,
  ⟨"update", "updater", true⟩,
  ⟨"delete", "deleter", true⟩,
  ⟨"list", "reader", false⟩]

/-- The condition under which a rule grants access to a resource. -/
def AccessRule.condition (rule : AccessRule) (resource : String) : String :=
  "user.roles.includes('admin') || user.roles.includes('" ++ resource ++ "_" ++ rule.role ++ "')" ++
    (if rule.creatorMayAct then " || resource.createdBy === user.id" else "")

/-- The policy that a rule becomes for a resource. -/
def AccessRule.policy (rule : AccessRule) (resource : String) : Policy :=
  { action := rule.action, resource, conditions := [rule.condition resource] }

/-- The policies of an entity whose document gives none; the resource is its name in lower case. -/
def defaultPolicies (entityName : String) : List Policy :=
  accessRules.map fun rule => rule.policy (Text.lowered entityName)

end CrudScaffold
