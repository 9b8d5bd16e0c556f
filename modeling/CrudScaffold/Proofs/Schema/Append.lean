import CrudScaffold.Proofs.Schema.Model

/-!
# Appending models to a schema

A model that is appended stands on lines of its own below what was there (`linesAbove`), so the
schema declares the same models as before and one more. A list of entities is appended in order
(`appendAll`): each new name once, at its first occurrence.
-/

namespace CrudScaffold

open Text

/-! ### One model -/

/-- What stands above a fragment that is appended to a schema: the schema without the line feeds at
its end, and an empty line. Of a blank schema nothing is kept. -/
def linesAbove (schema : String) : String :=
  if isBlankText schema.toList then ""
  else String.ofList (schema.toList.reverse.dropWhile (· == '\n')).reverse ++ "\n\n"

/-- A fragment is appended below those lines. -/
theorem appendFragment_eq (schema fragment : String) :
    appendFragment schema fragment = linesAbove schema ++ fragment := by
  unfold appendFragment linesAbove
  split
  · rw [String.empty_append]
  · rfl

/-- They are whole lines. -/
theorem linesAbove_whole (schema : String) :
    (linesAbove schema).toList = [] ∨ (linesAbove schema).toList.getLast? = some '\n' := by
  unfold linesAbove
  split
  · exact .inl rfl
  · exact .inr (by simp [String.toList_append])

/-- A schema is what is kept of it and line feeds. -/
theorem exists_feeds (schema : List Char) :
    ∃ feeds, (∀ c ∈ feeds, c = '\n') ∧
      schema = (schema.reverse.dropWhile (· == '\n')).reverse ++ feeds := by
  refine ⟨(schema.reverse.takeWhile (· == '\n')).reverse, fun c member => ?_, ?_⟩
  · exact beq_iff_eq.mp (List.mem_takeWhile_imp (p := (· == '\n')) (List.mem_reverse.mp member))
  · rw [← List.reverse_append, List.takeWhile_append_dropWhile, List.reverse_reverse]

/-- They declare what the schema declares. -/
theorem declares_linesAbove_iff {schema : String} {name : List Char} :
    Declares (linesAbove schema).toList name ↔ Declares schema.toList name := by
  unfold linesAbove
  split
  next blank =>
    exact iff_of_false (not_declares_of_isBlankText rfl) (not_declares_of_isBlankText blank)
  · obtain ⟨feeds, only, parts⟩ := exists_feeds schema.toList
    have plain : '\x7b' ∉ feeds := fun member => absurd (only _ member) (by decide)
    rw [String.toList_append, String.toList_ofList, declares_append_of_notMem (by decide)]
    conv => rhs; rw [parts]
    rw [declares_append_of_notMem plain]

/-- They hold no carriage return if the schema does not. -/
theorem return_notMem_linesAbove {schema : String} (plain : '\r' ∉ schema.toList) :
    '\r' ∉ (linesAbove schema).toList := by
  unfold linesAbove
  split
  · exact List.not_mem_nil
  · rw [String.toList_append, String.toList_ofList, List.mem_append, List.mem_reverse, not_or]
    refine ⟨fun member => plain ?_, by decide⟩
    exact List.mem_reverse.mp (List.dropWhile_subset _ member)

/-- A model ends with a brace and a line feed. -/
theorem Entity.exists_model_eq (entity : Entity) :
    ∃ front, entity.model.toList = front ++ ['\x7d', '\n'] := by
  let upper := (entity.fields.map fun field => "  " ++ field.modelLine) ++
    (entity.relationships.map fun relationship => "  " ++ relationship.modelLine) ++
    ["", entity.tableLine]
  have lines : entity.bodyLines = upper ++ ["\x7d"] := by
    unfold bodyLines
    simp [upper]
  refine ⟨("model ".toList ++ (entity.name.toList ++ [' '])) ++ '\x7b' :: '\n' ::
    (upper.map String.toList).flatMap (· ++ ['\n']), ?_⟩
  rw [model_toList, lines]
  simp

/-- Below a model only a line feed is put before the next fragment. -/
theorem linesAbove_append_model (lines : String) (entity : Entity) :
    linesAbove (lines ++ entity.model) = lines ++ entity.model ++ "\n" := by
  obtain ⟨front, ends⟩ := entity.exists_model_eq
  have whole : (lines ++ entity.model).toList = (lines.toList ++ front) ++ ['\x7d', '\n'] := by
    rw [String.toList_append, ends, List.append_assoc]
  unfold linesAbove
  rw [if_neg (by rw [whole, isBlankText_append]; simp [isBlankText, isBlank])]
  have longer : (lines ++ entity.model ++ "\n").toList =
      ((lines.toList ++ front) ++ ['\x7d', '\n']) ++ ['\n'] := by
    rw [String.toList_append, whole]
    rfl
  apply String.toList_inj.mp
  rw [String.toList_append, String.toList_ofList, longer, whole]
  simp

/-- A model from a definition holds no carriage return. -/
theorem Entity.Writable.return_notMem_model {entity : Entity} (writable : entity.Writable)
    (word : isWord entity.name.toList) : '\r' ∉ entity.model.toList := by
  have name : '\r' ∉ entity.name.toList := fun member =>
    absurd (isWordChar_of_mem word member) (by decide)
  have body : '\r' ∉ (entity.bodyLines.map String.toList).flatMap (· ++ ['\n']) := by
    intro member
    obtain ⟨line, inside, here⟩ := List.mem_flatMap.mp member
    rcases List.mem_append.mp here with here | last
    · exact (writable.bodyLines word line inside).noReturn here
    · exact absurd last (by decide)
  rw [Entity.model_toList]
  simp only [List.mem_append, List.mem_cons, not_or]
  exact ⟨⟨by decide, name, by decide⟩, by decide, by decide, body⟩

/-- A schema without carriage returns has none after a model from a definition was appended. -/
theorem Entity.Writable.return_notMem_appendFragment {entity : Entity} (writable : entity.Writable)
    (word : isWord entity.name.toList) {schema : String} (plain : '\r' ∉ schema.toList) :
    '\r' ∉ (appendFragment schema entity.model).toList := by
  rw [appendFragment_eq, String.toList_append, List.mem_append, not_or]
  exact ⟨return_notMem_linesAbove plain, writable.return_notMem_model word⟩

/-! ### Many models -/

/-- A schema after entities in order, and which of them were added. -/
def appendAll (schema : String) : List Entity → String × List Bool
  | [] => (schema, [])
  | entity :: entities =>
    match appendModel? schema entity with
    | none => ((appendAll schema entities).1, false :: (appendAll schema entities).2)
    | some longer => ((appendAll longer entities).1, true :: (appendAll longer entities).2)

/-- The models of the entities that were added. -/
def addedModels (entities : List Entity) (flags : List Bool) : List String :=
  ((entities.zip flags).filter Prod.snd).map fun added => added.1.model

/-- Entities from definitions, under names that are words. -/
structure Defined (entities : List Entity) : Prop where
  /-- They can be written. -/
  writable : ∀ entity ∈ entities, entity.Writable
  /-- Their names are words. -/
  word : ∀ entity ∈ entities, isWord entity.name.toList = true

/-- An entity that is appended, or has been, adds its name to a schema. -/
theorem hasModel_appendFragment {schema name : String} {entity : Entity}
    (writable : entity.Writable) (named : isWord entity.name.toList = true)
    (word : isWord name.toList = true) :
    hasModel (appendFragment schema entity.model) name = true ↔
      hasModel schema name = true ∨ name = entity.name := by
  rw [hasModel_iff, hasModel_iff, appendFragment_eq, String.toList_append,
    writable.declares_append_model_iff named (linesAbove_whole schema) word,
    declares_linesAbove_iff, String.toList_inj]

/-- A model that the schema has is not appended. -/
theorem appendAll_of_hasModel {schema : String} {entity : Entity} (entities : List Entity)
    (declared : hasModel schema entity.name = true) :
    appendAll schema (entity :: entities) =
      ((appendAll schema entities).1, false :: (appendAll schema entities).2) := by
  rw [appendAll, appendModel?, if_pos declared]

/-- A model that the schema does not have is appended. -/
theorem appendAll_of_not_hasModel {schema : String} {entity : Entity} (entities : List Entity)
    (undeclared : hasModel schema entity.name = false) :
    appendAll schema (entity :: entities) =
      ((appendAll (appendFragment schema entity.model) entities).1,
        true :: (appendAll (appendFragment schema entity.model) entities).2) := by
  rw [appendAll, appendModel?, undeclared]
  rfl

/-- Every entity gets an answer. -/
theorem length_appendAll (schema : String) (entities : List Entity) :
    (appendAll schema entities).2.length = entities.length := by
  induction entities generalizing schema with
  | nil => rfl
  | cons entity entities ih =>
    cases declared : hasModel schema entity.name with
    | false => rw [appendAll_of_not_hasModel entities declared, List.length_cons, ih]; rfl
    | true => rw [appendAll_of_hasModel entities declared, List.length_cons, ih]; rfl

/-- Entities from definitions add their names, each other's aside, and no more. -/
theorem hasModel_appendAll {entities : List Entity} (defined : Defined entities)
    (schema : String) {name : String} (word : isWord name.toList = true) :
    hasModel (appendAll schema entities).1 name = true ↔
      hasModel schema name = true ∨ name ∈ entities.map Entity.name := by
  induction entities generalizing schema with
  | nil => simp [appendAll]
  | cons entity entities ih =>
    obtain ⟨writable, others⟩ := List.forall_mem_cons.mp defined.writable
    obtain ⟨named, words⟩ := List.forall_mem_cons.mp defined.word
    rw [List.map_cons, List.mem_cons]
    cases declared : hasModel schema entity.name with
    | false =>
      rw [appendAll_of_not_hasModel entities declared, ih ⟨others, words⟩,
        hasModel_appendFragment writable named word, or_assoc]
    | true =>
      rw [appendAll_of_hasModel entities declared, ih ⟨others, words⟩]
      constructor
      · exact Or.imp_right .inr
      · rintro (before | rfl | later)
        · exact .inl before
        · exact .inl declared
        · exact .inr later

/-- An entity is added exactly if its name is new: neither the schema nor an entity before it has
the name. -/
theorem getElem?_appendAll {entities : List Entity} (defined : Defined entities) (schema : String)
    {before later : List Entity} {entity : Entity} (parts : entities = before ++ entity :: later) :
    (appendAll schema entities).2[before.length]? =
      some (!hasModel schema entity.name && !(before.map Entity.name).contains entity.name) := by
  induction before generalizing schema entities with
  | nil =>
    subst parts
    cases declared : hasModel schema entity.name with
    | false => rw [List.nil_append, appendAll_of_not_hasModel later declared]; rfl
    | true => rw [List.nil_append, appendAll_of_hasModel later declared]; rfl
  | cons first before ih =>
    subst parts
    rw [List.cons_append] at defined ⊢
    obtain ⟨writable, others⟩ := List.forall_mem_cons.mp defined.writable
    obtain ⟨named, words⟩ := List.forall_mem_cons.mp defined.word
    have word : isWord entity.name.toList = true := words entity (by simp)
    have rest (text : String) := ih ⟨others, words⟩ text rfl
    rw [List.length_cons, List.map_cons, List.contains_cons]
    cases declared : hasModel schema first.name with
    | false =>
      rw [appendAll_of_not_hasModel _ declared, List.getElem?_cons_succ, rest]
      have longer : hasModel (appendFragment schema first.model) entity.name = true ↔
          hasModel schema entity.name = true ∨ entity.name = first.name :=
        hasModel_appendFragment writable named word
      by_cases same : entity.name = first.name
      · rw [longer.mpr (.inr same), same, beq_self_eq_true, Bool.true_or, Bool.not_true,
          Bool.and_false, Bool.false_and]
      · rw [beq_eq_false_iff_ne.mpr same, Bool.false_or,
          Bool.eq_iff_iff.mpr (longer.trans (or_iff_left same))]
    | true =>
      rw [appendAll_of_hasModel _ declared, List.getElem?_cons_succ, rest]
      by_cases same : entity.name = first.name
      · rw [same, declared]
        rfl
      · rw [beq_eq_false_iff_ne.mpr same, Bool.false_or]

/-- The final schema is what stood above the first model that was added, and the models with empty
lines between them. -/
theorem appendAll_eq (schema : String) (entities : List Entity) :
    (appendAll schema entities).1 =
      if addedModels entities (appendAll schema entities).2 = [] then schema
      else linesAbove schema ++
        "\n".intercalate (addedModels entities (appendAll schema entities).2) := by
  induction entities generalizing schema with
  | nil => rfl
  | cons entity entities ih =>
    cases declared : hasModel schema entity.name with
    | true =>
      rw [appendAll_of_hasModel entities declared]
      exact ih schema
    | false =>
      rw [appendAll_of_not_hasModel entities declared]
      have rest := ih (appendFragment schema entity.model)
      rw [appendFragment_eq, linesAbove_append_model] at rest
      rw [appendFragment_eq]
      generalize appendAll (linesAbove schema ++ entity.model) entities = answer at rest ⊢
      change answer.1 = linesAbove schema ++
        "\n".intercalate (entity.model :: addedModels entities answer.2)
      rw [rest]
      cases addedModels entities answer.2 with
      | nil => rw [if_pos rfl, String.intercalate_singleton]
      | cons next models =>
        rw [if_neg (by simp), String.intercalate_cons_cons, String.append_assoc,
          String.append_assoc, String.append_assoc]

end CrudScaffold
