import CrudScaffold.Entity.Document
import CrudScaffold.Proofs.Json.Members
import CrudScaffold.Proofs.Json.Printer
import CrudScaffold.Proofs.Traversal

/-!
# Entities as documents

An entity has many variants: each object may leave out members that have their defaults and spell
the others either way. The relationships may always be left out, since reading derives them, and the
policies if they are those of the name. Every variant of an entity whose relationships follow from
its fields is read as the entity (`Entity.load_variant`), from any text that writes it.
-/

namespace CrudScaffold

/-- The members of a field. -/
def Field.members (field : Field) : List Member := [
  ⟨.single "name", .string field.name, False⟩,
  ⟨.single "type", .string field.type.token, False⟩,
  ⟨.single "optional", .bool field.optional, false = field.optional⟩,
  ⟨.single "unique", .bool field.unique, false = field.unique⟩,
  ⟨⟨"isId", "is_id"⟩, .bool field.isId, false = field.isId⟩,
  ⟨⟨"defaultValue", "default_value"⟩, .ofOption field.defaultValue, none = field.defaultValue⟩,
  ⟨⟨"relationTarget", "relation_target"⟩, .ofOption field.relationTarget,
    none = field.relationTarget⟩,
  ⟨⟨"relationType", "relation_type"⟩, .ofOption (field.relationType.map Cardinality.token),
    none = field.relationType⟩]

/-- The members of a relationship. -/
def Relationship.members (relationship : Relationship) : List Member := [
  ⟨.single "name", .string relationship.name, False⟩,
  ⟨⟨"targetEntity", "target_entity"⟩, .string relationship.target, False⟩,
  ⟨.single "type", .string relationship.cardinality.token, False⟩,
  ⟨.single "optional", .bool relationship.optional, false = relationship.optional⟩]

/-- The members of a policy. -/
def Policy.members (policy : Policy) : List Member := [
  ⟨.single "action", .string policy.action, False⟩,
  ⟨.single "resource", .string policy.resource, False⟩,
  ⟨.single "conditions", .array (policy.conditions.map .string), [] = policy.conditions⟩]

/-- The members of an entity whose parts are given as items. -/
def Entity.members (entity : Entity) (fields relationships policies : List Json) : List Member := [
  ⟨.single "name", .string entity.name, False⟩,
  ⟨.single "fields", .array fields, [] = entity.fields⟩,
  ⟨.single "relationships", .array relationships, True⟩,
  ⟨⟨"softDelete", "soft_delete"⟩, .bool entity.softDelete, false = entity.softDelete⟩,
  ⟨.single "auditing", .bool entity.auditing, true = entity.auditing⟩,
  ⟨policiesName, .array policies, defaultPolicies entity.name = entity.policies⟩]

/-- A value that spells a field. -/
def Field.Variant (field : Field) (value : Json) : Prop :=
  ∃ given, value = .object given ∧ Respelled field.members given

/-- A value that spells a relationship. -/
def Relationship.Variant (relationship : Relationship) (value : Json) : Prop :=
  ∃ given, value = .object given ∧ Respelled relationship.members given

/-- A value that spells a policy. -/
def Policy.Variant (policy : Policy) (value : Json) : Prop :=
  ∃ given, value = .object given ∧ Respelled policy.members given

/-- A value that spells an entity. -/
def Entity.Variant (entity : Entity) (value : Json) : Prop :=
  ∃ fields relationships policies given,
    List.Forall₂ Field.Variant entity.fields fields ∧
    List.Forall₂ Relationship.Variant entity.relationships relationships ∧
    List.Forall₂ Policy.Variant entity.policies policies ∧
    Respelled (entity.members fields relationships policies) given ∧ value = .object given

/-- No two members of a field share a name. -/
theorem Field.members_apart (field : Field) :
    (field.members.map Member.name).Pairwise MemberName.Apart := by
  change List.Pairwise MemberName.Apart [.single "name", .single "type", .single "optional",
    .single "unique", ⟨"isId", "is_id"⟩, ⟨"defaultValue", "default_value"⟩,
    ⟨"relationTarget", "relation_target"⟩, ⟨"relationType", "relation_type"⟩]
  decide

/-- No two members of a relationship share a name. -/
theorem Relationship.members_apart (relationship : Relationship) :
    (relationship.members.map Member.name).Pairwise MemberName.Apart := by
  change List.Pairwise MemberName.Apart [.single "name", ⟨"targetEntity", "target_entity"⟩,
    .single "type", .single "optional"]
  decide

/-- No two members of a policy share a name. -/
theorem Policy.members_apart (policy : Policy) :
    (policy.members.map Member.name).Pairwise MemberName.Apart := by
  change List.Pairwise MemberName.Apart [.single "action", .single "resource", .single "conditions"]
  decide

/-- No two members of an entity share a name. -/
theorem Entity.members_apart (entity : Entity) (fields relationships policies : List Json) :
    ((entity.members fields relationships policies).map Member.name).Pairwise
      MemberName.Apart := by
  change List.Pairwise MemberName.Apart [.single "name", .single "fields", .single "relationships",
    ⟨"softDelete", "soft_delete"⟩, .single "auditing", policiesName]
  decide

/-- A text that may be absent passes its check. -/
theorem checkNullable_string (text : Option String) :
    Json.checkNullable Json.checkString (.ofOption text) = .passed text := by
  cases text <;> rfl

/-- The name of a cardinality passes its check. -/
theorem Cardinality.check_token (cardinality : Cardinality) :
    Cardinality.check (.string cardinality.token) = .passed cardinality := by
  rw [Cardinality.check, Json.checkChoice, Cardinality.ofToken?_token]

/-- The name of a cardinality that may be absent passes its check. -/
theorem checkNullable_cardinality (cardinality : Option Cardinality) :
    Json.checkNullable Cardinality.check (.ofOption (cardinality.map Cardinality.token)) =
      .passed cardinality := by
  cases cardinality with
  | none => rfl
  | some cardinality =>
    change (Cardinality.check (.string cardinality.token)).map some = _
    rw [Cardinality.check_token]
    rfl

/-- The name of a field type passes its check. -/
theorem FieldType.check_token (type : FieldType) :
    FieldType.check (.string type.token) = .passed type := by
  rw [FieldType.check, Json.checkChoice, FieldType.ofToken?_token]

/-- A value that spells a field is read as it. -/
theorem Field.check_variant {field : Field} {value : Json} (variant : field.Variant value) :
    Field.check value = .passed field := by
  obtain ⟨given, rfl, respelled⟩ := variant
  have apart := field.members_apart
  have name : Json.required given (.single "name") Json.checkString = .passed field.name :=
    respelled.required apart (List.mem_of_getElem? (i := 0) rfl) rfl
  have type : Json.required given (.single "type") FieldType.check = .passed field.type :=
    respelled.required apart (List.mem_of_getElem? (i := 1) rfl) (FieldType.check_token field.type)
  have optional : Json.withDefault given (.single "optional") false Json.checkFlag =
      .passed field.optional :=
    respelled.withDefault apart (List.mem_of_getElem? (i := 2) rfl) rfl id
  have unique : Json.withDefault given (.single "unique") false Json.checkFlag =
      .passed field.unique :=
    respelled.withDefault apart (List.mem_of_getElem? (i := 3) rfl) rfl id
  have identifies : Json.withDefault given ⟨"isId", "is_id"⟩ false Json.checkFlag =
      .passed field.isId :=
    respelled.withDefault apart (List.mem_of_getElem? (i := 4) rfl) rfl id
  have default : Json.withDefault given ⟨"defaultValue", "default_value"⟩ none
      (Json.checkNullable Json.checkString) = .passed field.defaultValue :=
    respelled.withDefault apart (List.mem_of_getElem? (i := 5) rfl)
      (checkNullable_string field.defaultValue) id
  have target : Json.withDefault given ⟨"relationTarget", "relation_target"⟩ none
      (Json.checkNullable Json.checkString) = .passed field.relationTarget :=
    respelled.withDefault apart (List.mem_of_getElem? (i := 6) rfl)
      (checkNullable_string field.relationTarget) id
  have cardinality : Json.withDefault given ⟨"relationType", "relation_type"⟩ none
      (Json.checkNullable Cardinality.check) = .passed field.relationType :=
    respelled.withDefault apart (List.mem_of_getElem? (i := 7) rfl)
      (checkNullable_cardinality field.relationType) id
  change Field.checkMembers given = _
  rw [Field.checkMembers, name, type, optional, unique, identifies, default, target, cardinality]
  rfl

/-- A value that spells a relationship is read as it. -/
theorem Relationship.check_variant {relationship : Relationship} {value : Json}
    (variant : relationship.Variant value) :
    Relationship.check value = .passed relationship := by
  obtain ⟨given, rfl, respelled⟩ := variant
  have apart := relationship.members_apart
  have name : Json.required given (.single "name") Json.checkString = .passed relationship.name :=
    respelled.required apart (List.mem_of_getElem? (i := 0) rfl) rfl
  have target : Json.required given ⟨"targetEntity", "target_entity"⟩ Json.checkString =
      .passed relationship.target :=
    respelled.required apart (List.mem_of_getElem? (i := 1) rfl) rfl
  have type : Json.required given (.single "type") Cardinality.check =
      .passed relationship.cardinality :=
    respelled.required apart (List.mem_of_getElem? (i := 2) rfl)
      (Cardinality.check_token relationship.cardinality)
  have optional : Json.withDefault given (.single "optional") false Json.checkFlag =
      .passed relationship.optional :=
    respelled.withDefault apart (List.mem_of_getElem? (i := 3) rfl) rfl id
  change Relationship.checkMembers given = _
  rw [Relationship.checkMembers, name, target, type, optional]
  rfl

/-- A value that spells a policy is read as it. -/
theorem Policy.check_variant {policy : Policy} {value : Json} (variant : policy.Variant value) :
    Policy.check value = .passed policy := by
  obtain ⟨given, rfl, respelled⟩ := variant
  have apart := policy.members_apart
  have texts : Json.checkList Json.checkString (.array (policy.conditions.map .string)) =
      .passed policy.conditions := by
    refine checkList_of_forall₂ (List.forall₂_map_right_iff.mpr (List.forall₂_same.mpr ?_))
    exact fun _ _ => rfl
  have action : Json.required given (.single "action") Json.checkString = .passed policy.action :=
    respelled.required apart (List.mem_of_getElem? (i := 0) rfl) rfl
  have resource : Json.required given (.single "resource") Json.checkString =
      .passed policy.resource :=
    respelled.required apart (List.mem_of_getElem? (i := 1) rfl) rfl
  have conditions : Json.withDefault given (.single "conditions") []
      (Json.checkList Json.checkString) = .passed policy.conditions :=
    respelled.withDefault apart (List.mem_of_getElem? (i := 2) rfl) texts id
  change Policy.checkMembers given = _
  rw [Policy.checkMembers, action, resource, conditions]
  rfl

/-- Members that pass their checks load as an entity, with its own relationships unless given ones
say otherwise, and with given policies or those of its name. -/
theorem Entity.load_of_check {given : List (String × Json)} {entity : Entity}
    (passed : Entity.checkMembers given = .passed entity)
    (consistent : (Json.member? given "relationships").isSome →
      entity.relationships = deriveRelationships entity.fields) :
    Entity.load (.object given) = .ok { entity with
      relationships := deriveRelationships entity.fields
      policies := if (Json.find? given policiesName).isSome then entity.policies
        else defaultPolicies entity.name } := by
  have read : Entity.ofJson (.object given) = .ok entity := by
    change (Entity.checkMembers given).toExcept "Entity" = _
    rw [passed]
    rfl
  have agrees : ((Json.member? (Json.object given).members "relationships").isSome &&
      decide (entity.relationships ≠ deriveRelationships entity.fields)) = false := by
    cases there : (Json.member? given "relationships").isSome with
    | false =>
      change ((Json.member? given "relationships").isSome && _) = false
      rw [there]
      rfl
    | true => simp [consistent there]
  rw [Entity.load, read]
  simp only [Except.mapError, bind, Except.bind, agrees]
  rfl

/-- Relationships are read as they are spelled, unless they are missing. -/
theorem Entity.relationships_read {entity : Entity} {fields relationships policies : List Json}
    {given : List (String × Json)}
    (respelled : Respelled (entity.members fields relationships policies) given)
    (each : List.Forall₂ Relationship.Variant entity.relationships relationships) :
    ∃ read,
      Json.withDefault given (.single "relationships") [] (Json.checkList Relationship.check) =
        .passed read ∧
      ((Json.member? given "relationships").isSome → read = entity.relationships) := by
  have passed : Json.checkList Relationship.check (.array relationships) =
      .passed entity.relationships :=
    checkList_of_forall₂ (each.imp fun _ _ => Relationship.check_variant)
  rcases respelled.withDefault_cases (entity.members_apart fields relationships policies)
      (List.mem_of_getElem? (i := 2) rfl) [] passed with ⟨-, read⟩ | ⟨missing, -, read⟩
  · exact ⟨entity.relationships, read, fun _ => rfl⟩
  · refine ⟨[], read, fun there => ?_⟩
    have none : Json.member? given "relationships" = none :=
      Json.member?_of_find?_eq_none missing
    rw [none] at there
    contradiction

/-- Policies are read as they are spelled, and missing ones are those of the name. -/
theorem Entity.policies_read {entity : Entity} {fields relationships policies : List Json}
    {given : List (String × Json)}
    (respelled : Respelled (entity.members fields relationships policies) given)
    (each : List.Forall₂ Policy.Variant entity.policies policies) :
    ∃ read,
      Json.withDefault given policiesName [] (Json.checkList Policy.check) = .passed read ∧
      (if (Json.find? given policiesName).isSome then read else defaultPolicies entity.name) =
        entity.policies := by
  have passed : Json.checkList Policy.check (.array policies) = .passed entity.policies :=
    checkList_of_forall₂ (each.imp fun _ _ => Policy.check_variant)
  rcases respelled.withDefault_cases (entity.members_apart fields relationships policies)
      (List.mem_of_getElem? (i := 5) rfl) [] passed with ⟨there, read⟩ | ⟨missing, same, read⟩
  · exact ⟨entity.policies, read, if_pos there⟩
  · refine ⟨[], read, ?_⟩
    rw [missing]
    exact same

/-- An entity whose relationships follow from its fields is read from every value that spells it. -/
theorem Entity.load_variant {entity : Entity} {value : Json}
    (derived : entity.relationships = deriveRelationships entity.fields)
    (variant : entity.Variant value) : Entity.load value = .ok entity := by
  obtain ⟨fields, relationships, policies, given, ofFields, ofRelationships, ofPolicies, respelled,
    rfl⟩ := variant
  have apart := entity.members_apart fields relationships policies
  have name : Json.required given (.single "name") Json.checkString = .passed entity.name :=
    respelled.required apart (List.mem_of_getElem? (i := 0) rfl) rfl
  have parts : Json.withDefault given (.single "fields") [] (Json.checkList Field.check) =
      .passed entity.fields :=
    respelled.withDefault apart (List.mem_of_getElem? (i := 1) rfl)
      (checkList_of_forall₂ (ofFields.imp fun _ _ => Field.check_variant)) id
  have softDelete : Json.withDefault given ⟨"softDelete", "soft_delete"⟩ false Json.checkFlag =
      .passed entity.softDelete :=
    respelled.withDefault apart (List.mem_of_getElem? (i := 3) rfl) rfl id
  have auditing : Json.withDefault given (.single "auditing") true Json.checkFlag =
      .passed entity.auditing :=
    respelled.withDefault apart (List.mem_of_getElem? (i := 4) rfl) rfl id
  obtain ⟨read, related, consistent⟩ := Entity.relationships_read respelled ofRelationships
  obtain ⟨granted, ruled, kept⟩ := Entity.policies_read respelled ofPolicies
  have passed : Entity.checkMembers given =
      .passed { entity with relationships := read, policies := granted } := by
    rw [Entity.checkMembers, name, parts, related, softDelete, auditing, ruled]
    rfl
  rw [Entity.load_of_check passed fun there => (consistent there).trans derived]
  change Except.ok { entity with
    relationships := deriveRelationships entity.fields
    policies := if (Json.find? given policiesName).isSome then granted
      else defaultPolicies entity.name } = _
  rw [kept, ← derived]

/-- An object of members that are plain is plain. -/
theorem Respelled.plain {members : List Member} {given : List (String × Json)}
    (respelled : Respelled members given)
    (apart : (members.map Member.name).Pairwise MemberName.Apart) {room : Nat}
    (each : ∀ member ∈ members, Json.Plain room member.value) :
    Json.Plain (room + 1) (.object given) := by
  refine .object (respelled.nodup apart) fun entry inside => ?_
  obtain ⟨member, among, same, -⟩ := respelled.of_mem inside
  rw [same]
  exact each member among

/-- A value that spells a field is plain. -/
theorem Field.Variant.plain {field : Field} {value : Json} (variant : field.Variant value)
    (room : Nat) : Json.Plain (room + 1) value := by
  obtain ⟨given, rfl, respelled⟩ := variant
  refine respelled.plain field.members_apart ?_
  simp only [Field.members, List.forall_mem_cons]
  exact ⟨.string _ _, .string _ _, .bool _ _, .bool _ _, .bool _ _, .ofOption _ _, .ofOption _ _,
    .ofOption _ _, List.forall_mem_nil _⟩

/-- A value that spells a relationship is plain. -/
theorem Relationship.Variant.plain {relationship : Relationship} {value : Json}
    (variant : relationship.Variant value) (room : Nat) : Json.Plain (room + 1) value := by
  obtain ⟨given, rfl, respelled⟩ := variant
  refine respelled.plain relationship.members_apart ?_
  simp only [Relationship.members, List.forall_mem_cons]
  exact ⟨.string _ _, .string _ _, .string _ _, .bool _ _, List.forall_mem_nil _⟩

/-- A value that spells a policy is plain. -/
theorem Policy.Variant.plain {policy : Policy} {value : Json} (variant : policy.Variant value)
    (room : Nat) : Json.Plain (room + 2) value := by
  obtain ⟨given, rfl, respelled⟩ := variant
  refine respelled.plain policy.members_apart ?_
  simp only [Policy.members, List.forall_mem_cons]
  exact ⟨.string _ _, .string _ _, .array (List.forall_mem_map.mpr fun _ _ => .string _ _),
    List.forall_mem_nil _⟩

/-- Items that spell things of a kind are plain if such items are. -/
theorem plain_of_forall₂ {α : Type} {variant : α → Json → Prop} {things : List α}
    {items : List Json} (spelled : List.Forall₂ variant things items) {room : Nat}
    (each : ∀ thing item, variant thing item → Json.Plain room item) :
    Json.Plain (room + 1) (.array items) := by
  refine .array fun item member => ?_
  induction spelled with
  | nil => contradiction
  | cons first _ ih =>
    rcases List.mem_cons.mp member with rfl | later
    · exact each _ _ first
    · exact ih later

/-- A value that spells an entity is plain. -/
theorem Entity.Variant.plain {entity : Entity} {value : Json} (variant : entity.Variant value)
    (room : Nat) : Json.Plain (room + 4) value := by
  obtain ⟨fields, relationships, policies, given, ofFields, ofRelationships, ofPolicies, respelled,
    rfl⟩ := variant
  refine respelled.plain (entity.members_apart fields relationships policies) ?_
  simp only [Entity.members, List.forall_mem_cons]
  exact ⟨.string _ _, plain_of_forall₂ ofFields fun _ _ spelled => spelled.plain (room + 1),
    plain_of_forall₂ ofRelationships fun _ _ spelled => spelled.plain (room + 1), .bool _ _,
    .bool _ _, plain_of_forall₂ ofPolicies fun _ _ spelled => spelled.plain room,
    List.forall_mem_nil _⟩

/-- What is written for a field spells it. -/
theorem Field.variant_toJson (field : Field) : field.Variant field.toJson :=
  ⟨_, rfl, .all field.members⟩

/-- What is written for a relationship spells it. -/
theorem Relationship.variant_toJson (relationship : Relationship) :
    relationship.Variant relationship.toJson :=
  ⟨_, rfl, .all relationship.members⟩

/-- What is written for a policy spells it. -/
theorem Policy.variant_toJson (policy : Policy) : policy.Variant policy.toJson :=
  ⟨_, rfl, .all policy.members⟩

/-- What is written for each thing of a list spells it. -/
theorem forall₂_toJson {α : Type} {variant : α → Json → Prop} {write : α → Json}
    (each : ∀ thing, variant thing (write thing)) (things : List α) :
    List.Forall₂ variant things (things.map write) :=
  List.forall₂_map_right_iff.mpr (List.forall₂_same.mpr fun thing _ => each thing)

/-- What is written for an entity spells it. -/
theorem Entity.variant_toJson (entity : Entity) : entity.Variant entity.toJson :=
  ⟨_, _, _, _, forall₂_toJson Field.variant_toJson entity.fields,
    forall₂_toJson Relationship.variant_toJson entity.relationships,
    forall₂_toJson Policy.variant_toJson entity.policies, .all (entity.members _ _ _), rfl⟩

/-- Every document of these items, and both that are written for them, is read as the entities. -/
def LoadsAs (items : List Json) (entities : List Entity) : Prop :=
  Entity.loadDocument (Json.array items).compact = .ok entities ∧
    Entity.loadDocument (Json.array items).indented = .ok entities ∧
    ∀ document, Json.read document = .ok (.array items) →
      Entity.loadDocument document = .ok entities

/-- A document is read by its items. -/
theorem Entity.loadDocument_of_read {document : String} {value : Json}
    (read : Json.read document = .ok value) :
    Entity.loadDocument document = value.documentItems.mapM Entity.load := by
  rw [Entity.loadDocument, read]
  rfl

/-- Values that spell entities are read as these from every document. -/
theorem loadsAs_of_variants {entities : List Entity} {items : List Json}
    (derived : ∀ entity ∈ entities, entity.relationships = deriveRelationships entity.fields)
    (spelled : List.Forall₂ Entity.Variant entities items) : LoadsAs items entities := by
  have load : items.mapM Entity.load = .ok entities := by
    rw [mapM_eq_ok_iff]
    induction spelled with
    | nil => exact .nil
    | cons variant _ ih =>
      obtain ⟨first, others⟩ := List.forall_mem_cons.mp derived
      exact .cons (Entity.load_variant first variant) (ih others)
  have plain : Json.Plain Json.nestingLimit (.array items) :=
    plain_of_forall₂ spelled fun _ _ variant => variant.plain 980
  have every (document : String) (read : Json.read document = .ok (.array items)) :
      Entity.loadDocument document = .ok entities := by
    rw [Entity.loadDocument_of_read read]
    exact load
  exact ⟨every _ plain.read_compact, every _ plain.read_indented, every⟩

/-- The relationships of an entity that was read follow from its fields. -/
theorem Entity.derived_of_load {item : Json} {entity : Entity}
    (read : Entity.load item = .ok entity) :
    entity.relationships = deriveRelationships entity.fields := by
  rw [Entity.load] at read
  cases found : Entity.ofJson item with
  | error fault =>
    rw [found] at read
    nomatch read
  | ok loaded =>
    rw [found] at read
    simp only [Except.mapError, bind, Except.bind] at read
    split at read
    · nomatch read
    · rw [← Except.ok.inj read]

end CrudScaffold
