import CrudScaffold.Entity.Basic

/-!
# Violations of entities

What is wrong with a single entity and what is wrong between the entities of a batch. The violations
are values; the words for them are in `Violation.message` and `ReferenceViolation.message`. Both
lists are in a fixed order, and an empty list means that nothing is wrong.
-/

namespace CrudScaffold

/-- The names that occur again after their first place, each once, in the order of the second
places. The names before the list are given as `seen`, the repetitions among them as `repeated`. -/
def repetitionsAfter (seen repeated : List String) : List String → List String
  | [] => []
  | name :: rest =>
    if seen.contains name && !repeated.contains name then
      name :: repetitionsAfter (name :: seen) (name :: repeated) rest
    else repetitionsAfter (name :: seen) repeated rest

/-- The names that occur more than once, in the order of their second places. -/
def repetitions (names : List String) : List String := repetitionsAfter [] [] names

/-- The names that occur more than once, in the order of their first places. -/
def repeatedNames (names : List String) : List String :=
  names.eraseDups.filter fun name => 1 < names.count name

/-- Something wrong with one entity. -/
inductive Violation
  | noIdField
  | repeatedFields (names : List String)
  | noTarget (relationship : String)
deriving DecidableEq, Repr

/-- Something wrong between the entities of a batch. -/
inductive ReferenceViolation
  | repeatedEntities (names : List String)
  | unknownTarget (entity relationship target : String)
deriving DecidableEq, Repr

/-- The words for a violation. -/
def Violation.message : Violation → String
  | .noIdField => "Entity must have an ID field"
  | .repeatedFields names => "Duplicate field names: " ++ ", ".intercalate names
  | .noTarget relationship => "Relationship " ++ relationship ++ " has no target entity"

/-- The words for a violation between entities. -/
def ReferenceViolation.message : ReferenceViolation → String
  | .repeatedEntities names => "Duplicate entity names: " ++ ", ".intercalate names
  | .unknownTarget entity relationship target =>
    "Relationship " ++ entity ++ "." ++ relationship ++ " targets unknown entity " ++ target

/-- The violations of an entity: an identifying field is missing, field names are repeated, or
relationships have no target. -/
def Entity.violations (entity : Entity) : List Violation :=
  let names := repetitions entity.fieldNames
  (if entity.idField?.isNone then [.noIdField] else []) ++
    (if names.isEmpty then [] else [.repeatedFields names]) ++
    (entity.relationships.filter fun relationship => relationship.target.isEmpty).map
      fun relationship => .noTarget relationship.name

/-- The relationships of an entity whose target is named but is none of the known entities. -/
def Entity.unknownTargets (known : List String) (entity : Entity) : List ReferenceViolation :=
  (entity.relationships.filter fun relationship =>
    !relationship.target.isEmpty && !known.contains relationship.target).map
      fun relationship => .unknownTarget entity.name relationship.name relationship.target

/-- The violations between the entities of a batch: entity names are repeated, or relationships
refer to entities outside the batch. -/
def referenceViolations (batch : List Entity) : List ReferenceViolation :=
  let names := batch.map Entity.name
  let repeated := repeatedNames names
  (if repeated.isEmpty then [] else [.repeatedEntities repeated]) ++
    batch.flatMap (Entity.unknownTargets names)

end CrudScaffold
