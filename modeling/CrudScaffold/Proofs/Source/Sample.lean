import CrudScaffold.Proofs.Json.Ascii
import CrudScaffold.Proofs.Json.Printer
import CrudScaffold.Source.Context

/-!
# The sample of a new record

The sample payload is pasted into the source of tests, so it has to be JSON that stands for what a
new record needs: one member for each required field, under its name and with its sample value. The
names may hold any characters, since the payload is written in printable ASCII and read back as the
same names (`Context.samplePayload_read`).
-/

namespace CrudScaffold

namespace Json

/-- The whole number of the samples is read as itself. -/
theorem scalar_sampleInteger : Scalar (.integer 42) (writeCompact (.integer 42)) := by
  refine ⟨⟨'4', ['2'], rfl, by decide⟩, fun tail ends => ?_⟩
  rcases ends.cases with rfl | ⟨c, rest, rfl, stop⟩
  · rfl
  · simp only [List.mem_cons, List.not_mem_nil, or_false] at stop
    rcases stop with rfl | rfl | rfl | rfl | rfl | rfl | rfl <;> rfl

/-- The decimal number of the samples is shown as it would be written. -/
theorem writeDecimal_sample : writeDecimal ⟨false, 9999, -2⟩ = "99.99".toList := by
  decide +kernel

/-- The decimal number of the samples is read as itself. -/
theorem scalar_sampleDecimal :
    Scalar (.decimal ⟨false, 9999, -2⟩) (writeCompact (.decimal ⟨false, 9999, -2⟩)) := by
  change Scalar _ (writeDecimal ⟨false, 9999, -2⟩)
  rw [writeDecimal_sample]
  refine ⟨⟨'9', "9.99".toList, rfl, by decide⟩, fun tail ends => ?_⟩
  rcases ends.cases with rfl | ⟨c, rest, rfl, stop⟩
  · rfl
  · simp only [List.mem_cons, List.not_mem_nil, or_false] at stop
    rcases stop with rfl | rfl | rfl | rfl | rfl | rfl | rfl <;> rfl

end Json

/-- The sample value of a kind is laid out on one line, inside one object at least. -/
theorem FieldType.layout_sample (room : Nat) (name : String) (type : FieldType) :
    Json.Layout .ascii (room + 1) (type.sample name) (Json.writeCompact (type.sample name)) := by
  cases type with
  | int | bigint => exact .scalar Json.scalar_sampleInteger
  | float | decimal => exact .scalar Json.scalar_sampleDecimal
  | boolean => exact .scalar (Json.scalar_bool true)
  | date | datetime | uuid | string | text => exact .string _ _
  | json =>
    refine Json.layout_compact_object (by decide) fun member inside => ?_
    rw [List.mem_singleton.mp inside]
    exact .string _ _

/-- The sample value of a field is laid out on one line, whatever its name tells. -/
theorem Field.layout_sample (room : Nat) (field : Field) :
    Json.Layout .ascii (room + 1) field.sample (Json.writeCompact field.sample) := by
  unfold Field.sample
  dsimp only
  split
  · exact .string _ _
  · split
    · exact .string _ _
    · exact field.type.layout_sample room field.name

/-- The required fields in one pass. -/
theorem Entity.requiredFields_eq (entity : Entity) :
    entity.requiredFields = entity.fields.filter fun field =>
      !field.isId && !field.optional && field.defaultValue.isNone := by
  rw [requiredFields, createFields, List.filter_filter]
  congr 1
  funext field
  cases field.isId <;> cases field.optional <;> cases field.defaultValue.isNone <;> rfl

/-- The required fields have different names if all fields do. -/
theorem Entity.requiredFields_nodup {entity : Entity}
    (distinct : (entity.fields.map Field.name).Nodup) :
    (entity.requiredFields.map Field.name).Nodup := by
  rw [requiredFields_eq]
  exact distinct.sublist (List.filter_sublist.map Field.name)

/-- Required fields with different names give one member each; without one, the name stands in. -/
theorem Entity.sampleMembers_eq {entity : Entity}
    (distinct : (entity.fields.map Field.name).Nodup) :
    entity.sampleMembers =
      match entity.requiredFields with
      | [] => [("name", .string ("Test " ++ entity.name))]
      | required => required.map fun field => (field.name, field.sample) := by
  have names : ((entity.requiredFields.map fun field => (field.name, field.sample)).map
      Prod.fst).Nodup := by
    rw [List.map_map]
    exact requiredFields_nodup distinct
  -- A name is inserted behind all others, since it is none of them.
  have inserted : entity.requiredFields.foldl
      (fun members field => Json.insertMember field.name field.sample members) [] =
        entity.requiredFields.map fun field => (field.name, field.sample) := by
    rw [← Json.ofMembers_of_nodup names, Json.ofMembers, List.foldl_map]
  rw [sampleMembers, inserted]
  cases entity.requiredFields with
  | nil => rfl
  | cons first others => rfl

/-- The members of a sample have different names, and each value is laid out on one line. -/
theorem Entity.sampleMembers_layout {entity : Entity}
    (distinct : (entity.fields.map Field.name).Nodup) (room : Nat) :
    (entity.sampleMembers.map Prod.fst).Nodup ∧ ∀ member ∈ entity.sampleMembers,
      Json.Layout .ascii (room + 1) member.2 (Json.writeCompact member.2) := by
  have names := requiredFields_nodup distinct
  rw [sampleMembers_eq distinct]
  cases required : entity.requiredFields with
  | nil =>
    refine ⟨List.nodup_cons.mpr ⟨List.not_mem_nil, List.nodup_nil⟩, fun member inside => ?_⟩
    rw [List.mem_singleton.mp inside]
    exact .string _ _
  | cons first others =>
    rw [required] at names
    refine ⟨by rw [List.map_map]; exact names, fun member inside => ?_⟩
    obtain ⟨field, -, rfl⟩ := List.mem_map.mp inside
    exact field.layout_sample room

/-- The sample payload of an entity whose fields have different names is ASCII, and it is read as an
object with the sample values of exactly the required fields, in their order and each under its
name, or with the name alone if no field is required. The sample key is the first of its names. -/
theorem Context.samplePayload_read (entity : Entity)
    (distinct : (entity.fields.map Field.name).Nodup) :
    (∀ c ∈ (ofEntity entity).samplePayload.toList, c.toNat < 128) ∧
    ∃ members, Json.read (ofEntity entity).samplePayload = .ok (.object members) ∧
      (members.map Prod.fst).Nodup ∧
      members.head?.map Prod.fst = some (ofEntity entity).sampleKey ∧
      members =
        match entity.fields.filter fun field =>
            !field.isId && !field.optional && field.defaultValue.isNone with
        | [] => [("name", .string ("Test " ++ entity.name))]
        | required => required.map fun field => (field.name, field.sample) := by
  have payload : (ofEntity entity).samplePayload.toList =
      Json.writeCompact (.object entity.sampleMembers) := String.toList_ofList
  obtain ⟨names, values⟩ := Entity.sampleMembers_layout distinct 983
  refine ⟨fun c member => ?_, entity.sampleMembers, ?_, names, ?_, ?_⟩
  · rw [payload] at member
    have printable := Json.isPrintable_writeCompact _ c member
    omega
  · have layout := Json.layout_compact_object names values
    have read := Json.read_layout Json.isGap_nil layout Json.isGap_nil
    rwa [List.nil_append, List.append_nil] at read
  · have some : entity.sampleMembers ≠ [] := by
      rw [Entity.sampleMembers_eq distinct]
      cases entity.requiredFields <;> exact List.cons_ne_nil _ _
    obtain ⟨first, others, same⟩ := List.exists_cons_of_ne_nil some
    rw [ofEntity, same]
    rfl
  · rw [Entity.sampleMembers_eq distinct, Entity.requiredFields_eq]

/-- An entity with names in several scripts, one with quotes, and fields that are not required. -/
theorem Context.samplePayload_read_unicode :
    let entity : Entity :=
      { name := "Ort\n"
        fields := [{ name := "id", type := .uuid, isId := true },
          { name := "größe \"€\"", type := .decimal },
          { name := "😀\\", type := .text },
          { name := "stand", type := .int, defaultValue := some "0" },
          { name := "lage", type := .json, optional := true }] }
    (entity.fields.map Field.name).Nodup ∧
    (∀ c ∈ (ofEntity entity).samplePayload.toList, c.toNat < 128) ∧
    Json.read (ofEntity entity).samplePayload = .ok (.object
      [("größe \"€\"", .decimal ⟨false, 9999, -2⟩), ("😀\\", .string "test-😀\\")]) := by
  intro entity
  have distinct : (entity.fields.map Field.name).Nodup := by decide
  obtain ⟨ascii, members, read, -, -, same⟩ := samplePayload_read entity distinct
  refine ⟨distinct, ascii, ?_⟩
  rw [read, same]
  rfl

end CrudScaffold
