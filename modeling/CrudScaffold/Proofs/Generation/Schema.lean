import CrudScaffold.Proofs.Generation.Parts
import CrudScaffold.Proofs.Schema.Append
import CrudScaffold.Proofs.Text.Utf8

/-!
# The schema over a run

Adding the models of entities to the schema of a project, one after the other, is appending them to
its text. What was written is read again by the next step, and a text without carriage returns is
read as it was written.
-/

namespace CrudScaffold

open Text

/-- The later of two entries at a location counts. -/
theorem Tree.put_put (tree : Tree) (location : Location) (first second : Entry) :
    (tree.put location first).put location second = tree.put location second := by
  unfold Tree.put
  simp [List.filter_filter]

/-- The later of two texts at a location counts. -/
theorem World.withText_withText (world : World) (location : Location) (first second : String) :
    (world.withText location first).withText location second = world.withText location second := by
  unfold World.withText
  rw [Tree.put_put]

section

variable {world : World} {path : Path} {location : Location}

/-- A text takes the place of a file only, so the tree grows. -/
theorem World.grows_withText {content : List UInt8}
    (file : world.tree.entry? location = some (.file content)) (text : String) :
    world.tree.Grows (world.withText location text).tree :=
  Tree.grows_put fun kind there => by
    rw [Tree.kind?, file] at there
    exact (Option.some.inj there).symm

/-- And nothing else has changed of what stands where. -/
theorem World.grows_of_withText {content : List UInt8}
    (file : world.tree.entry? location = some (.file content)) (text : String) :
    (world.withText location text).tree.Grows world.tree := by
  refine ⟨rfl, fun other kind there => ?_⟩
  by_cases here : other = location
  · subst here
    have proper : other ≠ [] := by
      rintro rfl
      exact absurd file (by simp)
    rw [Tree.kind?, World.withText, Tree.entry?_put_self _ proper] at there
    rw [Tree.kind?, file]
    exact there
  · rwa [Tree.kind?, World.withText, Tree.entry?_put_of_ne _ here] at there

/-- A text that was written over a file is held as it is read. -/
theorem World.holds_withText {content : List UInt8}
    (located : world.tree.locate path = .ok location)
    (file : world.tree.entry? location = some (.file content)) (text : String) :
    (world.withText location text).tree.Holds path
      (String.ofList (unifyNewlines text.toList)) := by
  have proper : location ≠ [] := by
    rintro rfl
    exact absurd file (by simp)
  exact ⟨location, encodeUtf8 text.toList, text.toList,
    (World.grows_withText file text).locate located, Tree.entry?_put_self _ proper _,
    decodeUtf8_encodeUtf8 _, rfl⟩

/-- A text that is held has no carriage return. -/
theorem Tree.Holds.return_notMem {tree : Tree} {text : String} (holds : tree.Holds path text) :
    '\r' ∉ text.toList := by
  obtain ⟨-, -, characters, -, -, -, rfl⟩ := holds
  rw [String.toList_ofList]
  exact return_notMem_unifyNewlines characters

/-- A text that is held at a location is that of a file. -/
theorem Tree.Holds.file {tree : Tree} {text : String} (holds : tree.Holds path text)
    (located : tree.locate path = .ok location) :
    ∃ content, tree.entry? location = some (.file content) := by
  obtain ⟨other, content, -, there, file, -, -⟩ := holds
  obtain rfl := Except.ok.inj (there.symm.trans located)
  exact ⟨content, file⟩

end

/-! ### Runs -/

section

variable {settings : Settings} {location : Location}

/-- A model from a definition that was appended is read as it was written. -/
theorem holds_appendFragment {world : World} {schema : String} {entity : Entity}
    (located : world.tree.locate settings.schemaFile = .ok location)
    (holds : world.tree.Holds settings.schemaFile schema) (writable : entity.Writable)
    (word : isWord entity.name.toList = true) :
    (world.withText location (appendFragment schema entity.model)).tree.Holds settings.schemaFile
      (appendFragment schema entity.model) := by
  obtain ⟨content, file⟩ := holds.file located
  have plain := writable.return_notMem_appendFragment word holds.return_notMem
  have read := World.holds_withText located file (appendFragment schema entity.model)
  rwa [unifyNewlines_eq_self plain, String.ofList_toList] at read

/-- A schema to which a model was appended, as it is read again, declares the entity and all that it
declared, whatever line breaks the model has. -/
theorem hasModel_of_appended {schema name : String} {entity : Entity}
    (plain : '\r' ∉ schema.toList) (word : isWord entity.name.toList = true)
    (declared : hasModel schema name = true ∨ name = entity.name) :
    hasModel (String.ofList (unifyNewlines (appendFragment schema entity.model).toList)) name =
      true := by
  have above := return_notMem_linesAbove plain
  have header : '\r' ∉ "model ".toList ++ (entity.name.toList ++ [' ']) := by
    have named : '\r' ∉ entity.name.toList := fun member =>
      absurd (isWordChar_of_mem word member) (by decide)
    simp [named]
  rw [hasModel_iff, String.toList_ofList, appendFragment_eq, String.toList_append,
    unifyNewlines_append above]
  rcases declared with before | rfl
  · exact (declares_linesAbove_iff.mpr (hasModel_iff.mp before)).append _
  · rw [Entity.model_toList, unifyNewlines_append header, unifyNewlines_cons (by decide),
      ← List.append_assoc]
    exact declares_iff.mpr ⟨_, _, rfl, entity.opens_modelHeader (linesAbove_whole schema)⟩

/-- Adding a model changes only what the schema holds, so nothing else stands anywhere. -/
theorem grows_of_addModel {world after : World} {entity : Entity} {added : Bool}
    (ran : (addModel settings entity).run world = (.ok added, after)) :
    after.tree.Grows world.tree := by
  obtain ⟨schema, holds⟩ := holds_of_run_addModel ran
  cases declared : hasModel schema entity.name with
  | true =>
    rw [run_addModel_of_hasModel holds declared] at ran
    obtain ⟨-, rfl⟩ := Prod.mk.inj ran
    exact .refl _
  | false =>
    obtain ⟨location, content, -, located, file, -, -⟩ := id holds
    rw [run_addModel_of_not_hasModel located holds declared] at ran
    obtain ⟨-, rfl⟩ := Prod.mk.inj ran
    exact World.grows_of_withText file _

/-- Adding a model leaves the schema as it is if it declares the entity, and appends the model
otherwise. In the end the schema declares the entity and all that it declared. -/
theorem addModel_effect {world after : World} {entity : Entity} {added : Bool}
    (word : isWord entity.name.toList = true)
    (ran : (addModel settings entity).run world = (.ok added, after)) :
    ∃ location content schema final, world.tree.locate settings.schemaFile = .ok location ∧
      world.tree.entry? location = some (.file content) ∧
      world.tree.Holds settings.schemaFile schema ∧ added = !hasModel schema entity.name ∧
      after = (if added then world.withText location (appendFragment schema entity.model)
        else world) ∧
      after.tree.Holds settings.schemaFile final ∧
      ∀ name : String, hasModel schema name = true ∨ name = entity.name →
        hasModel final name = true := by
  obtain ⟨schema, holds⟩ := holds_of_run_addModel ran
  obtain ⟨location, content, -, located, file, -, -⟩ := id holds
  cases declared : hasModel schema entity.name with
  | true =>
    rw [run_addModel_of_hasModel holds declared] at ran
    obtain ⟨same, rfl⟩ := Prod.mk.inj ran
    obtain rfl := Except.ok.inj same
    refine ⟨location, content, schema, schema, located, file, holds, by rw [declared]; rfl, rfl,
      holds, ?_⟩
    rintro name (before | rfl)
    · exact before
    · exact declared
  | false =>
    rw [run_addModel_of_not_hasModel located holds declared] at ran
    obtain ⟨same, rfl⟩ := Prod.mk.inj ran
    obtain rfl := Except.ok.inj same
    exact ⟨location, content, schema, _, located, file, holds, by rw [declared]; rfl, rfl,
      World.holds_withText located file _,
      fun name => hasModel_of_appended holds.return_notMem word⟩

/-- Adding models in order is appending them in order, and the file of the schema is written only
if there is something to append. -/
theorem run_mapM_addModel {world : World} {schema : String} {entities : List Entity}
    (defined : Defined entities) (located : world.tree.locate settings.schemaFile = .ok location)
    (holds : world.tree.Holds settings.schemaFile schema) :
    ∃ after,
      (entities.mapM (addModel settings)).run world =
        (.ok (appendAll schema entities).2, after) ∧
      after.tree.Holds settings.schemaFile (appendAll schema entities).1 ∧
      after = if addedModels entities (appendAll schema entities).2 = [] then world
        else world.withText location (appendAll schema entities).1 := by
  induction entities generalizing world schema with
  | nil => exact ⟨world, rfl, holds, rfl⟩
  | cons entity entities ih =>
    obtain ⟨writable, others⟩ := List.forall_mem_cons.mp defined.writable
    obtain ⟨word, words⟩ := List.forall_mem_cons.mp defined.word
    rw [List.mapM_cons]
    cases declared : hasModel schema entity.name with
    | true =>
      obtain ⟨after, rest, read, same⟩ := ih ⟨others, words⟩ located holds
      rw [appendAll_of_hasModel entities declared]
      refine ⟨after, ?_, read, same⟩
      rw [Script.run_bind_of_ok (run_addModel_of_hasModel holds declared),
        Script.run_bind_of_ok rest]
      rfl
    | false =>
      obtain ⟨content, file⟩ := holds.file located
      have grows := World.grows_withText file (appendFragment schema entity.model)
      obtain ⟨after, rest, read, same⟩ := ih ⟨others, words⟩ (grows.locate located)
        (holds_appendFragment located holds writable word)
      rw [appendAll_of_not_hasModel entities declared]
      refine ⟨after, ?_, read, ?_⟩
      · rw [Script.run_bind_of_ok (run_addModel_of_not_hasModel located holds declared),
          Script.run_bind_of_ok rest]
        rfl
      · have final := appendAll_eq (appendFragment schema entity.model) entities
        generalize appendAll (appendFragment schema entity.model) entities = answer at same final ⊢
        change after = world.withText location answer.1
        rw [same]
        by_cases none : addedModels entities answer.2 = []
        · rw [if_pos none] at final ⊢
          rw [final]
        · rw [if_neg none, World.withText_withText]

/-- A whole run of adding models: for every schema that is there and every list of entities from
definitions whose names are words. An entity is added exactly if neither the schema nor an entity
before it has its name. The schema keeps what stood in it, the line feeds at its end aside, and the
added models follow with empty lines between them; it is not touched if there are none. And it
declares, of all words, those that it declared and the names of the entities. -/
theorem addModel_run_batch {world : World} {schema : String} {entities : List Entity}
    (there : (readSchema settings).run world = (.ok schema, world))
    (read : ∀ entity ∈ entities, ∃ text, Entity.parse text = .ok entity)
    (word : ∀ entity ∈ entities, isWord entity.name.toList = true) :
    ∃ flags location, world.tree.locate settings.schemaFile = .ok location ∧
      flags.length = entities.length ∧
      (∀ before entity later, entities = before ++ entity :: later →
        flags[before.length]? =
          some (!hasModel schema entity.name && !(before.map Entity.name).contains entity.name)) ∧
      let models := addedModels entities flags
      let final := if models = [] then schema else linesAbove schema ++ "\n".intercalate models
      let after := if models = [] then world else world.withText location final
      (entities.mapM (addModel settings)).run world = (.ok flags, after) ∧
      (readSchema settings).run after = (.ok final, after) ∧
      ∀ name : String, isWord name.toList = true →
        (hasModel final name = true ↔
          hasModel schema name = true ∨ ∃ entity ∈ entities, entity.name = name) := by
  have defined : Defined entities := by
    refine ⟨fun entity member => ?_, word⟩
    obtain ⟨text, parsed⟩ := read entity member
    exact Entity.writable_of_parse parsed
  obtain ⟨-, holds⟩ := run_readSchema_eq_ok_iff.mp there
  obtain ⟨location, content, characters, located, rest⟩ := id holds
  obtain ⟨after, ran, read, same⟩ := run_mapM_addModel defined located holds
  have final := appendAll_eq schema entities
  refine ⟨(appendAll schema entities).2, location, located, length_appendAll schema entities,
    fun before entity later => getElem?_appendAll defined schema, ?_⟩
  dsimp only
  rw [← final]
  refine ⟨by rw [ran, same], ?_, fun name word => ?_⟩
  · rw [← same]
    exact run_readSchema_eq_ok_iff.mpr ⟨rfl, read⟩
  · rw [hasModel_appendAll defined schema word, List.mem_map]

/-- An entity that the schema declares, and another one twice, with a brace in a default: only the
first occurrence of the second is added. -/
theorem addModel_run_batch_repeated :
    let settings : Settings := { schemaPath := .ofText "s" }
    let schema := "model A \x7b\n\x7d\n"
    let world : World := { tree :=
      ⟨["w"], [(["w"], .directory), (["w", "s"], .file (encodeUtf8 schema.toList))]⟩ }
    let first := Entity.ofFields "A" []
    let second := Entity.ofFields "B"
      [{ name := "x", type := .json, defaultValue := some "\x7b\x7d" }]
    ∃ after, ([first, second, second].mapM (addModel settings)).run world =
        (.ok [false, true, false], after) ∧
      (readSchema settings).run after = (.ok (schema ++ "\nmodel B \x7b\n" ++
        "  x Json @default(\x7b\x7d)\n\n  @@map(\"bs\")\n\x7d\n"), after) := by
  intro settings schema world first second
  have there : (readSchema settings).run world = (.ok schema, world) :=
    run_readSchema_eq_ok_iff.mpr ⟨rfl, ["w", "s"], encodeUtf8 schema.toList, schema.toList,
      by decide +kernel, by decide +kernel, by decide +kernel, by decide +kernel⟩
  have parsed : Entity.parse "B\nx:json@default(\x7b\x7d)" = .ok second := by decide +kernel
  obtain ⟨flags, location, -, length, each, ran, read, -⟩ :=
    @addModel_run_batch settings world schema [first, second, second] there
      (by
        simp only [List.forall_mem_cons, List.not_mem_nil, false_implies, implies_true, and_true]
        exact ⟨⟨"A", by decide +kernel⟩, ⟨_, parsed⟩, _, parsed⟩)
      (by decide +kernel)
  have answers : flags = [false, true, false] := by
    have one := each [] first [second, second] rfl
    have two := each [first] second [second] rfl
    have three := each [first, second] second [] rfl
    obtain ⟨a, b, c, rfl⟩ := List.length_eq_three.mp length
    have declared : hasModel schema "A" = true := by decide +kernel
    have undeclared : hasModel schema "B" = false := by decide +kernel
    simp only [first, second, Entity.ofFields, List.length_cons, List.length_nil,
      List.getElem?_cons_zero, List.getElem?_cons_succ, Option.some.injEq, declared, undeclared,
      List.map_cons, List.map_nil] at one two three
    rw [one, two, three]
    decide
  subst answers
  refine ⟨_, ran, ?_⟩
  rw [read]
  rw [Prod.mk.injEq, Except.ok.injEq]
  exact ⟨by decide +kernel, rfl⟩

end

end CrudScaffold
