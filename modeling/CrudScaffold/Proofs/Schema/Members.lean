import CrudScaffold.Proofs.Entity.Validity
import CrudScaffold.Proofs.Schema.Model

/-!
# The members of a model

The text of a model lists its members from its second line up to the first empty one, and each
starts with its name. For an entity from a definition these are the names of the fields and then
those of the relationships (`Entity.Writable.memberNames`). Validity speaks of the field names only,
so a model is well-formed under conditions that validity does not imply (`Entity.model_members`):
the name of the entity may be any line, and a relationship is called after a field without its first
`Id`, which may leave nothing, or the name of another member.
-/

namespace CrudScaffold

open Text

/-! ### Reading a model -/

/-- The lines of the members of a model. -/
def memberLines (model : List Char) : List (List Char) :=
  (model.splitOn '\n').tail.takeWhile (· ≠ [])

/-- The name of the member on a line: what stands between its indent and the next space. -/
def memberName (line : List Char) : List Char := (line.drop 2).takeWhile (· ≠ ' ')

/-- The names of the members of a model. -/
def memberNames (model : List Char) : List (List Char) := (memberLines model).map memberName

/-- A model whose first line names a word and whose members have different names. -/
structure WellFormedModel (model : List Char) : Prop where
  /-- The first line names the model, with a word. -/
  header : ∃ name, isWord name ∧
    (model.splitOn '\n').head? = some ("model ".toList ++ (name ++ " \x7b".toList))
  /-- Every member has a name. -/
  named : ∀ name ∈ memberNames model, name ≠ []
  /-- No two members have the same name. -/
  distinct : (memberNames model).Nodup

/-- The member on a line is what stands in front of the first space. -/
theorem memberName_line {name : List Char} (plain : ' ' ∉ name) (rest : List Char) :
    memberName ("  ".toList ++ (name ++ ' ' :: rest)) = name := by
  have each : ∀ c ∈ name, decide (c ≠ ' ') = true := fun c member => by
    rw [decide_eq_true_eq]
    rintro rfl
    exact plain member
  change (name ++ ' ' :: rest).takeWhile _ = name
  rw [List.takeWhile_append_of_pos each, List.takeWhile_cons_of_neg (by simp), List.append_nil]

/-! ### The model of an entity -/

/-- The lines of the members of an entity. -/
def Entity.memberLines (entity : Entity) : List (List Char) :=
  (entity.fields.map fun field => "  ".toList ++ field.modelLine.toList) ++
    entity.relationships.map fun relationship => "  ".toList ++ relationship.modelLine.toList

/-- The names of the relationships of an entity. -/
def Entity.relationshipNames (entity : Entity) : List String :=
  entity.relationships.map Relationship.name

/-- The lines behind the first are those of the members, then an empty one and others. -/
theorem Entity.bodyLines_eq (entity : Entity) : entity.bodyLines.map String.toList =
    entity.memberLines ++ [] :: [entity.tableLine.toList, ['\x7d']] := by
  simp only [bodyLines, Entity.memberLines, List.map_append, List.map_map, Function.comp_def,
    String.toList_append]
  rfl

/-- The member on the line of a field is the field. -/
theorem Field.memberName_modelLine {field : Field} (plain : ' ' ∉ field.name.toList) :
    memberName ("  ".toList ++ field.modelLine.toList) = field.name.toList := by
  have line : ∃ rest, field.modelLine.toList = field.name.toList ++ ' ' :: rest := by
    simp [Field.modelLine, String.toList_append]
  obtain ⟨rest, same⟩ := line
  rw [same, memberName_line plain]

/-- The member on the line of a relationship is the relationship. -/
theorem Relationship.memberName_modelLine {relationship : Relationship}
    (plain : ' ' ∉ relationship.name.toList) :
    memberName ("  ".toList ++ relationship.modelLine.toList) = relationship.name.toList := by
  have line : ∃ rest,
      relationship.modelLine.toList = relationship.name.toList ++ ' ' :: rest := by
    unfold Relationship.modelLine
    split <;> simp [String.toList_append]
  obtain ⟨rest, same⟩ := line
  rw [same, memberName_line plain]

/-- A word has no space. -/
theorem space_notMem_of_isWord {word : List Char} (letters : ∀ c ∈ word, isWordChar c) :
    ' ' ∉ word := fun member => absurd (letters ' ' member) (by decide)

/-- A relationship comes from a field that refers to an entity, and is called like the field without
its first `Id`. -/
theorem Field.relationship?_eq_some_iff {field : Field} {relationship : Relationship} :
    field.relationship? = some relationship ↔
      dropFirstId? field.name.toList = some relationship.name.toList ∧
      field.relationTarget = some relationship.target ∧
      field.relationType = some relationship.cardinality ∧
      field.optional = relationship.optional := by
  obtain ⟨name, target, cardinality, optional⟩ := relationship
  simp only [Field.relationship?, Option.bind_eq_bind, Option.bind_eq_some_iff, Option.pure_def,
    Option.some.injEq, Relationship.mk.injEq]
  constructor
  · rintro ⟨short, dropped, _, targeted, _, counted, rfl, rfl, rfl, rfl⟩
    exact ⟨by rw [dropped, String.toList_ofList], targeted, counted, rfl⟩
  · rintro ⟨dropped, targeted, counted, same⟩
    exact ⟨_, dropped, _, targeted, _, counted, String.ofList_toList, rfl, rfl, same⟩

/-- Nothing is left of a name without its first `Id` only if there was nothing else. -/
theorem dropFirstId?_eq_nil_iff {name : List Char} :
    dropFirstId? name = some [] ↔ name = "Id".toList := by
  fun_cases dropFirstId? name with
  | case1 => decide
  | case2 rest =>
    rw [Option.some.injEq]
    exact ⟨fun same => same ▸ rfl, fun same => (List.cons.inj (List.cons.inj same).2).2⟩
  | case3 c rest other =>
    constructor
    · intro dropped
      obtain ⟨_, -, same⟩ := Option.map_eq_some_iff.mp dropped
      exact absurd same (List.cons_ne_nil _ _)
    · intro same
      obtain ⟨rfl, rfl⟩ := List.cons.inj same
      exact absurd rfl (other [] rfl)

/-- The relationships of an entity from a definition are those of its fields. -/
theorem Entity.Writable.relationships {entity : Entity} (writable : entity.Writable) :
    entity.relationships = entity.fields.filterMap Field.relationship? := by
  conv_lhs => rw [← writable.derived]
  rfl

/-- The characters of the name of a relationship from a definition are word characters. -/
theorem Entity.Writable.relationship_chars {entity : Entity} (writable : entity.Writable)
    {relationship : Relationship} (member : relationship ∈ entity.relationships) :
    ∀ c ∈ relationship.name.toList, isWordChar c := by
  rw [writable.relationships] at member
  obtain ⟨field, inside, found⟩ := List.mem_filterMap.mp member
  intro c here
  exact isWordChar_of_mem (writable.fields field inside).word
    (mem_of_dropFirstId? (Field.relationship?_eq_some_iff.mp found).1 here)

/-- The lines of the members of an entity from a definition hold no line feed. -/
theorem Entity.Writable.feed_notMem_memberLines {entity : Entity} (writable : entity.Writable) :
    ∀ line ∈ entity.memberLines, '\n' ∉ line := by
  intro line member
  rcases List.mem_append.mp member with ofField | ofRelationship
  · obtain ⟨field, among, rfl⟩ := List.mem_map.mp ofField
    have body := (writable.fields field among).bodyLine.noFeed
    rwa [String.toList_append] at body
  · obtain ⟨relationship, among, rfl⟩ := List.mem_map.mp ofRelationship
    rw [writable.relationships] at among
    obtain ⟨field, inside, found⟩ := List.mem_filterMap.mp among
    have body := ((writable.fields field inside).relationship_bodyLine found).noFeed
    rwa [String.toList_append] at body

/-- The model of an entity from a definition, cut at its line feeds: the first line, the members,
and an empty line before the others. -/
theorem Entity.Writable.splitOn_model {entity : Entity} (writable : entity.Writable) :
    ∃ others, entity.model.toList.splitOn '\n' =
      entity.modelHeader.toList :: (entity.memberLines ++ [] :: others) := by
  have first : '\n' ∉ entity.modelHeader.toList := by
    have name := writable.name.not_mem
    simp [Entity.modelHeader, String.toList_append, name]
  have plain : ∀ line ∈ entity.modelHeader.toList :: (entity.memberLines ++ [[]]), '\n' ∉ line := by
    simp only [List.mem_cons, List.mem_append, List.not_mem_nil, or_false]
    rintro line (rfl | member | rfl)
    · exact first
    · exact writable.feed_notMem_memberLines line member
    · exact List.not_mem_nil
  have whole : entity.model.toList =
      (entity.modelHeader.toList :: (entity.memberLines ++ [[]])).flatMap (· ++ ['\n']) ++
        [entity.tableLine.toList, ['\x7d']].flatMap (· ++ ['\n']) := by
    rw [Entity.model_toList, Entity.bodyLines_eq]
    simp [Entity.modelHeader, String.toList_append]
  rw [whole, splitOn_flatMap plain]
  exact ⟨_, by rw [List.cons_append, List.append_assoc, List.singleton_append]⟩

/-- The members of the model of an entity from a definition are its fields and then its
relationships. -/
theorem Entity.Writable.memberNames {entity : Entity} (writable : entity.Writable) :
    memberNames entity.model.toList =
      (entity.fieldNames ++ entity.relationshipNames).map String.toList := by
  obtain ⟨others, pieces⟩ := writable.splitOn_model
  have solid : ∀ line ∈ entity.memberLines, decide (line ≠ []) = true := by
    intro line member
    rcases List.mem_append.mp member with inside | inside <;>
      · obtain ⟨_, -, rfl⟩ := List.mem_map.mp inside
        rfl
  have lines : CrudScaffold.memberLines entity.model.toList = entity.memberLines := by
    rw [CrudScaffold.memberLines, pieces, List.tail_cons, List.takeWhile_append_of_pos solid,
      List.takeWhile_cons_of_neg (by simp), List.append_nil]
  rw [CrudScaffold.memberNames, lines, Entity.memberLines, List.map_append, List.map_append,
    List.map_map, List.map_map, Entity.fieldNames, Entity.relationshipNames, List.map_map,
    List.map_map]
  congr 1
  · refine List.map_congr_left fun field member => ?_
    exact Field.memberName_modelLine (space_notMem_of_isWord fun c =>
      isWordChar_of_mem (writable.fields field member).word)
  · refine List.map_congr_left fun relationship member => ?_
    exact Relationship.memberName_modelLine (space_notMem_of_isWord
      (writable.relationship_chars member))

/-- The first line of the model of an entity from a definition names a word exactly if the entity
does. -/
theorem Entity.Writable.header_iff {entity : Entity} (writable : entity.Writable) :
    (∃ name, isWord name ∧ (entity.model.toList.splitOn '\n').head? =
      some ("model ".toList ++ (name ++ " \x7b".toList))) ↔ isWord entity.name.toList := by
  obtain ⟨others, pieces⟩ := writable.splitOn_model
  have header : entity.modelHeader.toList =
      "model ".toList ++ (entity.name.toList ++ " \x7b".toList) := by
    simp [Entity.modelHeader, String.toList_append]
  rw [pieces, List.head?_cons, header]
  constructor
  · rintro ⟨name, word, same⟩
    rw [List.append_cancel_right (List.append_cancel_left (Option.some.inj same))]
    exact word
  · exact fun word => ⟨_, word, rfl⟩

/-- A relationship without a name comes from a field with the name `Id`. -/
theorem Entity.Writable.named_iff {entity : Entity} (writable : entity.Writable) :
    (∀ name ∈ entity.relationshipNames, name ≠ "") ↔
      ∀ field ∈ entity.fields, field.hasRelation → field.name ≠ "Id" := by
  constructor
  · intro named field member related same
    rw [Field.hasRelation, Bool.and_eq_true] at related
    obtain ⟨target, targeted⟩ := Option.isSome_iff_exists.mp related.1
    obtain ⟨cardinality, counted⟩ := Option.isSome_iff_exists.mp related.2
    have found : field.relationship? = some ⟨"", target, cardinality, field.optional⟩ :=
      Field.relationship?_eq_some_iff.mpr ⟨by rw [same]; rfl, targeted, counted, rfl⟩
    have among := List.mem_filterMap.mpr ⟨field, member, found⟩
    rw [← writable.relationships] at among
    exact named _ (List.mem_map_of_mem among) rfl
  · intro other name member
    obtain ⟨relationship, inside, rfl⟩ := List.mem_map.mp member
    rw [writable.relationships] at inside
    obtain ⟨field, here, found⟩ := List.mem_filterMap.mp inside
    obtain ⟨dropped, targeted, counted, -⟩ := Field.relationship?_eq_some_iff.mp found
    intro empty
    rw [empty] at dropped
    refine other field here (by simp [Field.hasRelation, targeted, counted]) ?_
    exact String.toList_inj.mp (dropFirstId?_eq_nil_iff.mp dropped)

/-- A valid entity has different field names. -/
theorem Entity.nodup_fieldNames {entity : Entity} (valid : entity.violations = []) :
    entity.fieldNames.Nodup := (Entity.violations_eq_nil_iff.mp valid).2.1

/-- The members of the model of a valid entity from a definition are its fields, which have words
for names, all different, and its relationships. The model is well-formed exactly if the entity is
named by a word, no field that refers to an entity is called `Id`, and the relationships have names
different from each other and from those of the fields. -/
theorem Entity.model_members {text : String} {entity : Entity}
    (read : Entity.parse text = .ok entity) (valid : entity.violations = []) :
    memberNames entity.model.toList =
      (entity.fieldNames ++ entity.relationshipNames).map String.toList ∧
    (∀ name ∈ entity.fieldNames, isWord name.toList) ∧ entity.fieldNames.Nodup ∧
    (WellFormedModel entity.model.toList ↔
      isWord entity.name.toList ∧
      (∀ field ∈ entity.fields, field.hasRelation → field.name ≠ "Id") ∧
      entity.relationshipNames.Nodup ∧
      ∀ name ∈ entity.relationshipNames, name ∉ entity.fieldNames) := by
  have writable := Entity.writable_of_parse read
  have members := writable.memberNames
  have words : ∀ name ∈ entity.fieldNames, isWord name.toList := by
    intro name member
    obtain ⟨field, inside, rfl⟩ := List.mem_map.mp member
    exact (writable.fields field inside).word
  have fields := Entity.nodup_fieldNames valid
  refine ⟨members, words, fields, ?_⟩
  have distinct : (CrudScaffold.memberNames entity.model.toList).Nodup ↔
      entity.relationshipNames.Nodup ∧
        ∀ name ∈ entity.relationshipNames, name ∉ entity.fieldNames := by
    rw [members, List.nodup_map_iff fun _ _ => String.toList_inj.mp, List.nodup_append]
    constructor
    · rintro ⟨-, others, apart⟩
      exact ⟨others, fun name member inside => apart name inside name member rfl⟩
    · rintro ⟨others, apart⟩
      exact ⟨fields, others, fun name inside other member same =>
        apart other member (same ▸ inside)⟩
  have named : (∀ name ∈ CrudScaffold.memberNames entity.model.toList, name ≠ []) ↔
      ∀ field ∈ entity.fields, field.hasRelation → field.name ≠ "Id" := by
    rw [← writable.named_iff, members, List.forall_mem_map, List.forall_mem_append]
    simp only [ne_eq, String.toList_eq_nil_iff]
    exact ⟨fun both => both.2, fun others =>
      ⟨fun name member empty => ne_nil_of_isWord (words name member) (by simp [empty]), others⟩⟩
  constructor
  · rintro ⟨header, some, apart⟩
    exact ⟨writable.header_iff.mp header, named.mp some, distinct.mp apart⟩
  · rintro ⟨word, other, apart⟩
    exact ⟨writable.header_iff.mpr word, named.mpr other, distinct.mpr apart⟩

/-- A model with a relationship whose name is that of no field. -/
theorem Entity.model_members_user :
    let entity := Entity.ofFields "User"
      [{ name := "id", type := .uuid, isId := true },
       { name := "roleId", type := .int, optional := true, relationTarget := some "Role",
         relationType := some .manyToOne }]
    Entity.parse "User\nid:uuid@id\nroleId:int?@relation(Role,many-to-one)" = .ok entity ∧
    entity.violations = [] ∧ WellFormedModel entity.model.toList := by
  intro entity
  have read :
      Entity.parse "User\nid:uuid@id\nroleId:int?@relation(Role,many-to-one)" = .ok entity := by
    rfl
  have valid : entity.violations = [] := by decide +kernel
  obtain ⟨-, -, -, wellFormed⟩ := Entity.model_members read valid
  exact ⟨read, valid, wellFormed.mpr (by decide +kernel)⟩

/-- Definitions of valid entities whose models are not well-formed: a relationship is called like a
field, a relationship has no name, and the first line names two words. -/
theorem valid_models_not_wellFormed :
    (∃ entity, Entity.parse
        "Post\nid:uuid@id\nauthor:string\nauthorId:uuid@relation(User,many-to-one)" =
          .ok entity ∧ entity.violations = [] ∧ ¬WellFormedModel entity.model.toList) ∧
    (∃ entity, Entity.parse "Post\nid:uuid@id\nId:uuid@relation(User,many-to-one)" = .ok entity ∧
      entity.violations = [] ∧ ¬WellFormedModel entity.model.toList) ∧
    (∃ entity, Entity.parse "Blog post\nid:uuid@id" = .ok entity ∧ entity.violations = [] ∧
      ¬WellFormedModel entity.model.toList) := by
  have repeated : Entity.parse
      "Post\nid:uuid@id\nauthor:string\nauthorId:uuid@relation(User,many-to-one)" =
        .ok (.ofFields "Post"
          [{ name := "id", type := .uuid, isId := true }, { name := "author", type := .string },
           { name := "authorId", type := .uuid, relationTarget := some "User",
             relationType := some .manyToOne }]) := by
    decide +kernel
  have nameless : Entity.parse "Post\nid:uuid@id\nId:uuid@relation(User,many-to-one)" =
      .ok (.ofFields "Post"
        [{ name := "id", type := .uuid, isId := true },
         { name := "Id", type := .uuid, relationTarget := some "User",
           relationType := some .manyToOne }]) := by
    decide +kernel
  have spaced : Entity.parse "Blog post\nid:uuid@id" =
      .ok (.ofFields "Blog post" [{ name := "id", type := .uuid, isId := true }]) := by
    decide +kernel
  refine ⟨⟨_, repeated, by decide +kernel, fun wellFormed => ?_⟩,
    ⟨_, nameless, by decide +kernel, fun wellFormed => ?_⟩,
    ⟨_, spaced, by decide +kernel, fun wellFormed => ?_⟩⟩
  · have distinct := wellFormed.distinct
    rw [(Entity.writable_of_parse repeated).memberNames] at distinct
    exact absurd distinct (by decide +kernel)
  · have named := wellFormed.named
    rw [(Entity.writable_of_parse nameless).memberNames] at named
    exact absurd rfl (named [] (by decide +kernel))
  · have word := (Entity.writable_of_parse spaced).header_iff.mp wellFormed.header
    exact absurd word (by decide +kernel)

end CrudScaffold
