import CrudScaffold.CommandLine.Run
import CrudScaffold.Proofs.Generation.Batch

/-!
# Runs of the program

A command that adds reads its entities, generates from them and reports. Reading only looks at
files, and reporting only prints, so what is wrong with the input is found before a file has
changed.
-/

namespace CrudScaffold

/-- A failure that is none of violations. -/
def Failure.IsNoViolation (failure : Failure) : Prop :=
  ∀ subject messages, failure ≠ .invalid subject messages

section

variable {fails : Failure → Prop}

/-- Entities are required by looking. -/
theorem within_requireEntities (allowed : fails (.definition .empty)) (entities : List Entity) :
    (requireEntities entities).Within (·.isLook) fails := by
  unfold requireEntities
  split
  · exact .fail allowed
  · exact .done _

/-- The entities of a name are read by looking, and without a word about violations. -/
theorem within_loadNamed (allowed : ∀ failure, failure.IsNoViolation → fails failure)
    (path : String) : (loadNamed path).Within (·.isLook) fails := by
  have text : (Script.readText (.ofText path)).Within (·.isLook) fails :=
    Script.within_readText (fun _ => allowed _ (by simp [Failure.IsNoViolation]))
      fun _ => allowed _ (by simp [Failure.IsNoViolation])
  refine (text.bind fun text => ?_).bind fun entities => ?_
  · unfold loadEntities
    split
    · exact .ofExcept (fun _ => allowed _ (by simp [Failure.IsNoViolation])) _
    · exact .ofExcept (fun _ => allowed _ (by simp [Failure.IsNoViolation])) _
  · exact within_requireEntities (allowed _ (by simp [Failure.IsNoViolation])) entities

/-- Fields are asked for by looking. -/
theorem within_askFields (allowed : ∀ failure, fails failure) (entity : String) :
    (askFields entity).Within (·.isLook) fails := by
  refine Script.Within.bind (.ask rfl) fun _ => ?_
  refine Script.Within.bind (.ask rfl) fun line => ?_
  cases line with
  | none => exact .fail (allowed _)
  | some line => exact .done _

/-- The entities of a command are read by looking. -/
theorem AddOptions.within_entities (allowed : ∀ failure, fails failure) (options : AddOptions) :
    options.entities.Within (·.isLook) fails := by
  have defined {α : Type} (result : Except DefinitionFault α) :
      (Script.ofExcept .definition result).Within (·.isLook) fails :=
    .ofExcept (fun _ => allowed _) result
  have built (fields : String) : (do
      return [← Script.ofExcept .definition
        (Entity.ofFieldList (options.entity.getD "") fields)]).Within (·.isLook) fails :=
    (defined _).bind fun entity => .done [entity]
  unfold AddOptions.entities
  dsimp only
  split
  · exact within_loadNamed (fun failure _ => allowed failure) _
  · split
    · split
      · exact Script.Within.bind (.done _) built
      · exact (within_askFields allowed _).bind built
    · refine Script.Within.bind (.ask rfl) fun text => ?_
      exact (defined (Entity.parseDocument text)).bind fun entities =>
        within_requireEntities (allowed _) entities

/-- Reporting prints and fails in no way. -/
theorem within_reportGenerated (settings : Settings) (results : List Generated) :
    (reportGenerated settings results).Within (·.isLook) fails := by
  have said (message : String) : (Console.say message).Within (·.isLook) fails :=
    within_say (fun _ => rfl) message
  refine (Script.Within.forM (fun generated => ?_) results).bind fun _ =>
    (said _).bind fun _ => (said _).bind fun _ => (said _).bind fun _ => said _
  exact (said _).bind fun _ => (said _).bind fun _ => said _

/-- Showing an entity changes nothing. -/
theorem within_showEntity (model : Bool) (entity : Entity) :
    (showEntity model entity).Within (·.isLook) fails := by
  refine (within_say (fun _ => rfl) _).bind fun _ => ?_
  split
  · exact .act rfl fun _ => .done _
  · exact .done _

/-- A command that does not add only looks. -/
theorem Command.within_run (allowed : ∀ failure, fails failure) (environment : Environment)
    {command : Command} (other : ∀ options, command ≠ .add options) :
    (command.run environment).Within (·.isLook) fails := by
  cases command with
  | add options => exact absurd rfl (other options)
  | parse path json model =>
    refine (within_loadNamed (fun failure _ => allowed failure) path).bind fun entities => ?_
    split
    · exact .act rfl fun _ => .done _
    · exact Script.Within.forM (within_showEntity model) entities
  | validate path =>
    refine (within_loadNamed (fun failure _ => allowed failure) path).bind fun entities => ?_
    refine Script.Within.bind ?_ fun _ => within_say (fun _ => rfl) _
    unfold judgeAll
    generalize batchMessages entities ++ _ = messages
    cases messages with
    | nil => exact .done _
    | cons message messages => exact .fail (allowed _)

end

section

variable {environment : Environment} {world after : World} {failure : Failure}

/-- A generation that fails for the input leaves the files as they were. -/
theorem generateFrom_failed {settings : Settings} {entities : List Entity}
    (failed : (generateFrom settings entities).run world = (.error failure, after))
    (input : failure.isOfInput = true) : after.tree = world.tree := by
  unfold generateFrom at failed
  split at failed
  · rcases Script.run_bind_cases failed with ⟨other, first, same⟩ | ⟨result, middle, -, rest⟩
    · obtain rfl := Except.error.inj same
      exact generate_failed first input
    · exact absurd (Prod.mk.inj rest).1 (by simp)
  · exact generateAll_failed failed input

/-- A command that fails for the input leaves the files as they were. -/
theorem Command.run_failed {command : Command}
    (failed : (command.run environment).run world = (.error failure, after))
    (input : failure.isOfInput = true) : after.tree = world.tree := by
  by_cases adds : ∃ options, command = .add options
  · obtain ⟨options, rfl⟩ := adds
    rcases Script.run_bind_cases failed with ⟨other, reading, same⟩ | ⟨entities, middle, read, rest⟩
    · have look := (options.within_entities fun _ => trivial).tree_eq world
      rw [reading] at look
      exact look
    · have look := (options.within_entities fun _ => trivial).tree_eq world
      rw [read] at look
      rcases Script.run_bind_cases rest with ⟨other, generating, same⟩ | ⟨results, last, -, report⟩
      · obtain rfl := Except.error.inj same
        exact (generateFrom_failed generating input).trans look
      · have within :=
          @within_reportGenerated (fun _ => False) (options.settings environment) results
        exact (within.failure report).elim
  · have look := (Command.within_run (fun _ => trivial) environment fun options same =>
      adds ⟨options, same⟩).tree_eq world
    rw [failed] at look
    exact look

/-- A program that ends for what is wrong with the input leaves the files as they were, whether it
reports the failure or not. -/
theorem runProgram_failed {arguments : List String}
    (ended : (runProgram arguments environment).run world = (.error failure, after) ∨
      (runProgram arguments environment).run world = (.ok (.failed failure), after))
    (input : failure.isOfInput = true) : after.tree = world.tree := by
  unfold runProgram at ended
  split at ended
  next command _ =>
    have attempted := Script.run_attempt (command.run environment) world
    rw [Command.runReported, Script.run_bind_of_ok attempted] at ended
    rcases ran : (command.run environment).run world with ⟨result, last⟩
    rw [ran] at ended
    cases result with
    | ok value => exact ended.elim (by simp [pure, Script.run]) (by simp [pure, Script.run])
    | error other =>
      dsimp only at ended
      by_cases reported : other.isReported = true
      · rw [if_pos reported] at ended
        rcases ended with failed | failed
        · exact absurd (Prod.mk.inj failed).1 (by simp)
        · obtain ⟨same, rfl⟩ := Prod.mk.inj failed
          obtain rfl := Outcome.failed.inj (Except.ok.inj same)
          show last.tree = world.tree
          exact Command.run_failed ran input
      · rw [if_neg reported] at ended
        rcases ended with failed | failed
        · obtain ⟨same, rfl⟩ := Prod.mk.inj failed
          obtain rfl := Except.error.inj same
          exact Command.run_failed ran input
        · exact absurd (Prod.mk.inj failed).1 (by simp)
  · exact ended.elim (by simp [pure, Script.run]) (by simp [pure, Script.run])

end

/-- A batch with violations is refused with all its messages before anything is done, and any other
is the same, in every world, as its entities one after the other. It ends with violations only if it
is refused. The program as a whole leaves the files as they were whenever it ends for what is wrong
with its input, a missing schema among it. Failures to read and to write files are none of these. -/
theorem generateAll_all_or_nothing (settings : Settings) (batch : List Entity) :
    (Refused settings batch → ∀ world, (generateAll settings batch).run world =
      (.error (.invalid none (refusalMessages settings batch)), world)) ∧
    (¬ Refused settings batch → ∀ world, (generateAll settings batch).run world =
      (batch.mapM (generate settings)).run world) ∧
    (∀ world subject messages after, (generateAll settings batch).run world =
      (.error (.invalid subject messages), after) → Refused settings batch) ∧
    ∀ arguments environment world failure after,
      ((runProgram arguments environment).run world = (.error failure, after) ∨
        (runProgram arguments environment).run world = (.ok (.failed failure), after)) →
      failure.isOfInput = true → after.tree = world.tree := by
  refine ⟨fun refused world => ?_, fun passed world => ?_, fun world subject messages after => ?_,
    fun arguments environment world failure after => ?_⟩
  · rw [generateAll_of_refused refused]
    rfl
  · rw [generateAll_eq_mapM passed]
  · exact refused_of_generateAll
  · exact runProgram_failed

/-- In a project that has a file of an entity already, a batch is refused for an entity behind a
valid one, two valid entities are generated one after the other, and the program leaves the files as
they were when the second entity of a specification is faulty. -/
theorem generateAll_all_or_nothing_second :
    let settings : Settings :=
      { schemaPath := .ofText "s", modulesDir := .ofText "m", skipTests := true }
    let entity (name : String) : Entity :=
      .ofFields name [{ name := "id", type := .int, isId := true }]
    let faulty : Entity := .ofFields "B" [{ name := "name", type := .string }]
    let world : World := { tree := ⟨["w"],
      [(["w"], .directory), (["w", "s"], .file []), (["w", "m"], .directory),
        (["w", "m", "a"], .directory), (["w", "m", "a", "a.module.ts"], .file []),
        (["w", "d"], .file (Text.encodeUtf8 "A\nid:int@id\n\nB\nname:string".toList))]⟩ }
    (generateAll settings [entity "A", faulty]).run world =
        (.error (.invalid none ["B: Entity must have an ID field"]), world) ∧
      (∃ results after,
        (generateAll settings [entity "A", entity "B"]).run world = (.ok results, after) ∧
        ([entity "A", entity "B"].mapM (generate settings)).run world = (.ok results, after) ∧
        results.map (fun generated => (generated.modelAdded, generated.files.kept.length)) =
          [(true, 1), (true, 0)]) ∧
      ((runProgram ["add-crud", "--spec", "d"] []).run world).2.tree = world.tree := by
  intro settings entity faulty world
  have refused : Refused settings [entity "A", faulty] :=
    .inl ⟨faulty, by simp, by decide +kernel⟩
  have messages : refusalMessages settings [entity "A", faulty] =
      ["B: Entity must have an ID field"] := by decide +kernel
  have passed : ¬ Refused settings [entity "A", entity "B"] := by
    rw [refused_iff, not_not]
    decide +kernel
  obtain ⟨results, ran, counted⟩ := @Script.exists_of_map_toOption _ _
    (generateAll settings [entity "A", entity "B"]) world
    (·.map fun generated => (generated.modelAdded, generated.files.kept.length))
    [(true, 1), (true, 0)] (by decide +kernel)
  have failed : ((runProgram ["add-crud", "--spec", "d"] []).run world).1 =
      .ok (.failed (.invalid none ["B: Entity must have an ID field"])) := by decide +kernel
  refine ⟨?_, ⟨results, _, ran, ?_, counted⟩, ?_⟩
  · rw [(generateAll_all_or_nothing settings [entity "A", faulty]).1 refused, messages]
  · rw [← (generateAll_all_or_nothing settings [entity "A", entity "B"]).2.1 passed]
    exact ran
  · generalize ended : (runProgram ["add-crud", "--spec", "d"] []).run world = ran at failed ⊢
    obtain ⟨result, after⟩ := ran
    subst failed
    obtain ⟨-, -, -, program⟩ := generateAll_all_or_nothing settings [entity "A", faulty]
    exact program _ _ _ _ _ (.inr ended) rfl

end CrudScaffold
