import CrudScaffold.Proofs.Definition.Printing
import CrudScaffold.Proofs.Entity.Document
import CrudScaffold.Specification

/-!
# Two forms of a specification

A specification is a definition document or a JSON document. The two forms agree: what a definition
document defines is loaded from every JSON document that spells it, with whatever members that is
allowed to leave out, and what a JSON document loads is loaded again from what is written for it.
-/

namespace CrudScaffold

/-- Entities that a definition document defines are loaded from every document that spells them,
and entities that a document gives are loaded from every document that is written for them. -/
theorem Entity.loadDocument_forms :
    (∀ text entities items, Entity.parseDocument text = .ok entities →
      List.Forall₂ Entity.Variant entities items → LoadsAs items entities) ∧
    ∀ document entities, Entity.loadDocument document = .ok entities →
      LoadsAs (entities.map Entity.toJson) entities := by
  constructor
  · intro text entities items read spelled
    refine loadsAs_of_variants (fun entity member => ?_) spelled
    have writable := Entity.writable_of_parseDocument read entity member
    rw [← writable.derived]
    rfl
  · intro document entities loaded
    refine loadsAs_of_variants (fun entity member => ?_)
      (forall₂_toJson Entity.variant_toJson entities)
    cases read : Json.read document with
    | error fault =>
      rw [Entity.loadDocument, read] at loaded
      contradiction
    | ok value =>
      rw [Entity.loadDocument_of_read read] at loaded
      obtain ⟨item, -, same⟩ := exists_of_mem_of_mapM loaded member
      exact Entity.derived_of_load same

/-- A document may leave out and respell members, also for a field with a relation and a default of
several alphabets. -/
theorem Entity.loadDocument_forms_respelled :
    ∃ entity item,
      Entity.parseDocument "Post\nauthorId:uuid?@relation(User,many-to-one)@default(\"é😀)" =
        .ok [entity] ∧
      item = Json.object [("name", .string "Post"), ("fields", .array [.object [
        ("name", .string "authorId"), ("type", .string "uuid"), ("optional", .bool true),
        ("is_id", .bool false), ("default_value", .string "\"é😀"),
        ("relation_target", .string "User"), ("relationType", .string "many-to-one")]]),
        ("soft_delete", .bool false)] ∧
      entity.Variant item ∧ LoadsAs [item] [entity] ∧
      Entity.loadDocument (Json.array [item]).compact = .ok [entity] ∧
      LoadsAs ([entity].map Entity.toJson) [entity] := by
  let field : Field :=
    { name := "authorId", type := .uuid, optional := true, defaultValue := some "\"é😀"
      relationTarget := some "User", relationType := some .manyToOne }
  let entity : Entity := .ofFields "Post" [field]
  have read : Entity.parseDocument
      "Post\nauthorId:uuid?@relation(User,many-to-one)@default(\"é😀)" = .ok [entity] := rfl
  have fields : List.Forall₂ Field.Variant entity.fields _ :=
    .cons ⟨_, rfl, .written (.written (.written (.dropped rfl (.alternative (.alternative
      (.alternative (.written .nil)))))))⟩ .nil
  have variant : entity.Variant _ :=
    ⟨_, _, _, _, fields, forall₂_toJson Relationship.variant_toJson entity.relationships,
      forall₂_toJson Policy.variant_toJson entity.policies,
      .written (.written (.dropped trivial (.alternative (.dropped rfl (.dropped rfl .nil))))), rfl⟩
  have loads := Entity.loadDocument_forms.1 _ _ _ read (.cons variant .nil)
  exact ⟨entity, _, read, rfl, variant, loads, loads.1, Entity.loadDocument_forms.2 _ _ loads.1⟩

end CrudScaffold
