import CrudScaffold.Proofs.Entity.Validity
import CrudScaffold.Proofs.Generation.Parts

/-!
# Batches

A batch is judged as a whole before anything is written. One that is refused leaves the project as
it was, and any other is the same as generating from its entities one after the other. Of what can
be wrong with the input, only a missing schema is found later, and then at the first entity, when
nothing has been written yet: once a model was added, the schema is there and stays.
-/

namespace CrudScaffold

/-- What is wrong with what the program was given: a definition, a document, the entities
themselves, or a project without a schema. -/
def Failure.isOfInput : Failure → Bool
  | .definition _ | .document _ | .settings _ | .invalid _ _ | .noSchema _ => true
  | .file _ | .encoding _ | .template _ | .endOfInput => false

/-- A batch is refused if one of its entities is, or for the references between them where these
are checked. -/
def Refused (settings : Settings) (batch : List Entity) : Prop :=
  (∃ entity ∈ batch, entity.violations ≠ []) ∨
    settings.checkReferences = true ∧ referenceViolations batch ≠ []

/-- The messages for a batch. -/
def refusalMessages (settings : Settings) (batch : List Entity) : List String :=
  batchMessages batch ++ if settings.checkReferences then referenceMessages batch else []

/-- A batch is refused exactly if there is a message for it. -/
theorem refused_iff {settings : Settings} {batch : List Entity} :
    Refused settings batch ↔ refusalMessages settings batch ≠ [] := by
  have entities : batchMessages batch = [] ↔ ∀ entity ∈ batch, entity.violations = [] := by
    simp [batchMessages]
  have references : referenceMessages batch = [] ↔ referenceViolations batch = [] := by
    simp [referenceMessages]
  unfold Refused refusalMessages
  by_cases checked : settings.checkReferences = true
  · rw [if_pos checked]
    simp only [ne_eq, List.append_eq_nil_iff, entities, references, checked, true_and]
    by_cases none : referenceViolations batch = [] <;> simp [none]
  · rw [if_neg checked]
    simp only [ne_eq, List.append_eq_nil_iff, entities, checked]
    simp

/-! ### Judging -/

/-- Whether a batch is refused does not depend on the order of its entities. -/
theorem refused_congr {settings : Settings} {batch shuffled : List Entity}
    (perm : batch.Perm shuffled) : Refused settings batch ↔ Refused settings shuffled := by
  unfold Refused
  simp only [ne_eq, perm.mem_iff, referenceViolations_congr perm]

/-! ### Whole batches -/

section

variable {settings : Settings} {batch : List Entity}

/-- Nothing is done for a batch that is refused. -/
theorem generateAll_of_refused (refused : Refused settings batch) :
    generateAll settings batch = .fail (.invalid none (refusalMessages settings batch)) := by
  have found : (refusalMessages settings batch).isEmpty = false := by
    simpa using refused_iff.mp refused
  change (do
    unless (refusalMessages settings batch).isEmpty do
      Script.fail (.invalid none (refusalMessages settings batch))
    batch.mapM (generateJudged settings)) = _
  rw [found]
  rfl

/-- Any other batch is generated entity by entity. -/
theorem generateAll_of_not_refused (passed : ¬ Refused settings batch) :
    generateAll settings batch = batch.mapM (generateJudged settings) := by
  have empty : (refusalMessages settings batch).isEmpty = true := by
    simpa [refused_iff] using passed
  change (do
    unless (refusalMessages settings batch).isEmpty do
      Script.fail (.invalid none (refusalMessages settings batch))
    batch.mapM (generateJudged settings)) = _
  rw [empty]
  rfl

/-- A batch that ends well is not refused. -/
theorem not_refused_of_generateAll {world after : World} {results : List Generated}
    (ran : (generateAll settings batch).run world = (.ok results, after)) :
    ¬ Refused settings batch := by
  intro refused
  rw [generateAll_of_refused refused] at ran
  exact absurd (Prod.mk.inj ran).1 (by simp)

/-- An entity without violations is generated from as one that has been judged. -/
theorem generate_of_no_violations {entity : Entity} (valid : entity.violations = []) :
    generate settings entity = generateJudged settings entity := by
  unfold generate
  rw [valid]
  rfl

/-- An entity with violations is not generated from. -/
theorem generate_of_violations {entity : Entity} (invalid : entity.violations ≠ []) :
    generate settings entity =
      .fail (.invalid (some entity.name) (entity.violations.map Violation.message)) := by
  have found : entity.violations.isEmpty = false := by simpa using invalid
  unfold generate
  dsimp only
  rw [found]
  rfl

/-- A batch that is not refused is the same as its entities one after the other. -/
theorem generateAll_eq_mapM (passed : ¬ Refused settings batch) :
    generateAll settings batch = batch.mapM (generate settings) := by
  rw [generateAll_of_not_refused passed]
  have valid : ∀ entity ∈ batch, entity.violations = [] := fun entity member =>
    Classical.not_not.mp fun invalid => passed (.inl ⟨entity, member, invalid⟩)
  clear passed
  induction batch with
  | nil => rfl
  | cons entity batch ih =>
    obtain ⟨first, others⟩ := List.forall_mem_cons.mp valid
    rw [List.mapM_cons, List.mapM_cons, generate_of_no_violations first, ih others]

end

/-! ### What is found late -/

section

variable {settings : Settings} {entity : Entity} {world after : World} {failure : Failure}

/-- Adding a model fails for the input only where there is no schema, and then changes nothing. -/
theorem addModel_failed (failed : (addModel settings entity).run world = (.error failure, after))
    (input : failure.isOfInput = true) :
    after.tree = world.tree ∧ world.tree.status settings.schemaFile ≠ .ok .file := by
  rcases Script.run_bind_cases failed with ⟨other, asked, same⟩ | ⟨text, middle, -, rest⟩
  · obtain rfl := Except.error.inj same
    have within : (readSchema settings).Within (·.isLook) (fun _ => True) :=
      within_readSchema (fun _ => trivial) (fun _ => trivial) fun _ => trivial
    have look := within.tree_eq world
    rw [asked] at look
    refine ⟨look, fun there => ?_⟩
    rw [readSchema, Script.run_bind_of_ok (Script.run_isFile_of_ok there)] at asked
    have within : (Script.readText settings.schemaFile).Within (·.isLook) (·.isOfInput = false) :=
      Script.within_readText (fun _ => rfl) fun _ => rfl
    have reading := within.failure asked
    rw [input] at reading
    contradiction
  · cases appended : appendModel? text entity with
    | none =>
      rw [appended] at rest
      exact absurd (Prod.mk.inj rest).1 (by simp)
    | some schema =>
      rw [appended] at rest
      have within : (Script.writeText settings.schemaFile schema >>= fun _ => pure true).Within
          (Action.WritesAmong [settings.schemaFile]) (·.isOfInput = false) :=
        (Script.within_writeText (List.mem_singleton_self _) (fun _ => rfl) schema).bind fun _ =>
          .done true
      have writing := within.failure rest
      rw [input] at writing
      contradiction

/-- Generating from an entity fails for the input only where there is no schema, and then changes
nothing. -/
theorem generateJudged_failed
    (failed : (generateJudged settings entity).run world = (.error failure, after))
    (input : failure.isOfInput = true) :
    after.tree = world.tree ∧ world.tree.status settings.schemaFile ≠ .ok .file := by
  rw [generateJudged_eq] at failed
  rcases Script.run_bind_cases failed with ⟨other, adding, same⟩ | ⟨added, middle, -, rest⟩
  · obtain rfl := Except.error.inj same
    exact addModel_failed adding input
  · have within := @within_afterModel (settings.outputs entity) (·.isOfInput = false) settings entity
      (fun _ member => member) (fun _ _ _ _ _ => rfl) added
    have placing := within.failure rest
    rw [input] at placing
    contradiction

/-- An entity is generated from only where there is a schema, and it is still there afterwards. -/
theorem status_of_generateJudged {result : Generated}
    (generated : (generateJudged settings entity).run world = (.ok result, after)) :
    after.tree.status settings.schemaFile = .ok .file := by
  rw [generateJudged_eq] at generated
  obtain ⟨added, middle, adding, -⟩ := Script.exists_of_run_bind generated
  obtain ⟨text, holds⟩ := holds_of_run_addModel adding
  have grows := Script.grows_run (generateJudged settings entity) world
  rw [generateJudged_eq, generated] at grows
  exact grows.status holds.status

/-- Generating from entities in order fails for the input only where there is no schema, and then
changes nothing. -/
theorem mapM_generateJudged_failed {batch : List Entity}
    (failed : (batch.mapM (generateJudged settings)).run world = (.error failure, after))
    (input : failure.isOfInput = true) :
    after.tree = world.tree ∧ world.tree.status settings.schemaFile ≠ .ok .file := by
  induction batch generalizing world with
  | nil => exact absurd (Prod.mk.inj failed).1 (by simp)
  | cons entity batch ih =>
    rw [List.mapM_cons] at failed
    rcases Script.run_bind_cases failed with ⟨other, first, same⟩ | ⟨result, middle, first, rest⟩
    · obtain rfl := Except.error.inj same
      exact generateJudged_failed first input
    · rcases Script.run_bind_cases rest with ⟨other, later, same⟩ | ⟨results, last, -, done⟩
      · obtain rfl := Except.error.inj same
        exact absurd (status_of_generateJudged first) (ih later).2
      · exact absurd (Prod.mk.inj done).1 (by simp)

/-- A batch that fails for the input leaves the files as they were. -/
theorem generateAll_failed {batch : List Entity}
    (failed : (generateAll settings batch).run world = (.error failure, after))
    (input : failure.isOfInput = true) : after.tree = world.tree := by
  by_cases refused : Refused settings batch
  · rw [generateAll_of_refused refused] at failed
    exact (congrArg World.tree (Prod.mk.inj failed).2).symm
  · rw [generateAll_of_not_refused refused] at failed
    exact (mapM_generateJudged_failed failed input).1

/-- A single entity that fails for the input leaves the files as they were. -/
theorem generate_failed (failed : (generate settings entity).run world = (.error failure, after))
    (input : failure.isOfInput = true) : after.tree = world.tree := by
  by_cases valid : entity.violations = []
  · rw [generate_of_no_violations valid] at failed
    exact (generateJudged_failed failed input).1
  · rw [generate_of_violations valid] at failed
    exact (congrArg World.tree (Prod.mk.inj failed).2).symm

/-- A batch ends with violations only if it is refused. -/
theorem refused_of_generateAll {batch : List Entity} {subject : Option String}
    {messages : List String}
    (failed : (generateAll settings batch).run world =
      (.error (.invalid subject messages), after)) :
    Refused settings batch := by
  by_contra passed
  rw [generateAll_of_not_refused passed] at failed
  have within := Script.Within.mapM (within_generateJudged_any settings) batch
  exact within.failure failed subject messages rfl

end

end CrudScaffold
