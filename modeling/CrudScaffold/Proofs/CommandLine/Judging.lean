import CrudScaffold.Proofs.CommandLine.Run

/-!
# Judging and generating agree

The command that judges a specification and the command that generates from it read the same
entities, and where references are checked they refuse the same ones. The messages are the same for
several entities; a single entity is judged with its name in front of each message and generated
from without it. Where references are not checked, what is judged is only stricter
(`Command.validate_agrees`).
-/

namespace CrudScaffold

variable {α β : Type}

/-- A run ends with the messages of violations. -/
def Script.Violates (script : Script α) (world : World) (messages : List String) : Prop :=
  ∃ subject, (script.run world).1 = .error (.invalid subject messages)

/-- The messages for the entities of a specification that is judged. -/
def judgement (entities : List Entity) : List String :=
  batchMessages entities ++ if 1 < entities.length then referenceMessages entities else []

/-- The messages for the entities of a specification that is generated from. -/
def refusal (settings : Settings) : List Entity → List String
  | [entity] => entity.violations.map Violation.message
  | entities => refusalMessages settings entities

namespace Script

variable {world middle : World} {messages : List String}

/-- After a first part that succeeds, the violations are those of what follows. -/
theorem violates_bind_of_ok {script : Script α} {value : α}
    (first : script.run world = (.ok value, middle)) (next : α → Script β) :
    (script >>= next).Violates world messages ↔ (next value).Violates middle messages := by
  rw [Violates, Violates, run_bind_of_ok first]

/-- A first part that ends with violations ends the whole with them. -/
theorem violates_fail_bind_iff {subject : Option String} {found : List String}
    (next : α → Script β) :
    ((Script.fail (.invalid subject found) : Script α) >>= next).Violates world messages ↔
      messages = found := by
  change (∃ other, (Except.error (.invalid subject found) : Except Failure β) =
    .error (.invalid other messages)) ↔ _
  simp [eq_comm]

/-- A script that knows no violations ends with none. -/
theorem Within.not_violates {asks : Action → Prop} {script : Script α}
    (within : script.Within asks Failure.IsNoViolation) :
    ¬ script.Violates world messages := by
  rintro ⟨subject, failed⟩
  exact within.failure (Prod.ext failed rfl) subject messages rfl

end Script

section

variable {entities : List Entity}

/-- Entities without messages pass. -/
theorem judgeAll_of_judgement_eq_nil (passed : judgement entities = []) :
    judgeAll entities = .done () := by
  change (do unless (judgement entities).isEmpty do
    Script.fail (.invalid none (judgement entities))) = _
  rw [passed]
  rfl

/-- Entities with messages are refused with them. -/
theorem judgeAll_of_judgement_ne_nil (refused : judgement entities ≠ []) :
    judgeAll entities = .fail (.invalid none (judgement entities)) := by
  have found : (judgement entities).isEmpty = false := by simpa using refused
  change (do unless (judgement entities).isEmpty do
    Script.fail (.invalid none (judgement entities))) = _
  rw [found]
  rfl

variable {settings : Settings}

/-- Entities other than a single one are generated from as a batch. -/
theorem generateFrom_of_not_single (several : ∀ entity, entities ≠ [entity]) :
    generateFrom settings entities = generateAll settings entities ∧
      refusal settings entities = refusalMessages settings entities := by
  match entities with
  | [] => exact ⟨rfl, rfl⟩
  | [entity] => exact absurd rfl (several entity)
  | _ :: _ :: _ => exact ⟨rfl, rfl⟩

/-- Generating from entities without messages ends with no violations. -/
theorem within_generateFrom (passed : refusal settings entities = []) :
    (generateFrom settings entities).Within (fun _ => True) Failure.IsNoViolation := by
  by_cases single : ∃ entity, entities = [entity]
  · obtain ⟨entity, rfl⟩ := single
    have valid : entity.violations = [] := List.map_eq_nil_iff.mp passed
    change (do return [← generate settings entity]).Within _ _
    rw [generate_of_no_violations valid]
    exact (within_generateJudged_any settings entity).bind fun generated => .done [generated]
  · obtain ⟨whole, messages⟩ := generateFrom_of_not_single (not_exists.mp single)
    rw [messages] at passed
    rw [whole, generateAll_of_not_refused (mt refused_iff.mp (not_not.mpr passed))]
    exact .mapM (within_generateJudged_any settings) entities

/-- Entities with messages are not generated from. -/
theorem generateFrom_of_refusal_ne_nil (refused : refusal settings entities ≠ []) :
    ∃ subject, generateFrom settings entities =
      .fail (.invalid subject (refusal settings entities)) := by
  by_cases single : ∃ entity, entities = [entity]
  · obtain ⟨entity, rfl⟩ := single
    have invalid : entity.violations ≠ [] := fun none => refused (List.map_eq_nil_iff.mpr none)
    refine ⟨some entity.name, ?_⟩
    change (do return [← generate settings entity]) = _
    rw [generate_of_violations invalid]
    rfl
  · obtain ⟨whole, messages⟩ := generateFrom_of_not_single (not_exists.mp single)
    rw [messages] at refused ⊢
    exact ⟨none, whole.trans (generateAll_of_refused (refused_iff.mpr refused))⟩

end

section

variable {world : World} {messages : List String}

/-- Judging entities ends with the messages for them, if there are any. -/
theorem violates_judgeAll_iff (entities : List Entity) (said : String) :
    (do judgeAll entities; Console.say said).Violates world messages ↔
      messages = judgement entities ∧ judgement entities ≠ [] := by
  by_cases passed : judgement entities = []
  · have within : (Console.say said).Within (·.isLook) Failure.IsNoViolation :=
      within_say (fun _ => rfl) said
    rw [judgeAll_of_judgement_eq_nil passed]
    exact iff_of_false within.not_violates fun found => found.2 passed
  · rw [judgeAll_of_judgement_ne_nil passed, Script.violates_fail_bind_iff, and_iff_left passed]

/-- Generating from entities ends with the messages for them, if there are any. -/
theorem violates_generateFrom_iff (settings : Settings) (entities : List Entity) :
    (do reportGenerated settings (← generateFrom settings entities)).Violates world messages ↔
      messages = refusal settings entities ∧ refusal settings entities ≠ [] := by
  by_cases passed : refusal settings entities = []
  · have within := (within_generateFrom passed).bind fun results =>
      (within_reportGenerated settings results).mono (fun _ _ => trivial) fun _ => id
    exact iff_of_false within.not_violates fun found => found.2 passed
  · obtain ⟨subject, refused⟩ := generateFrom_of_refusal_ne_nil passed
    rw [refused, Script.violates_fail_bind_iff, and_iff_left passed]

end

section

variable {settings : Settings} {entities : List Entity}

/-- A single entity is judged with its name in front of each message. -/
theorem judgement_singleton (settings : Settings) (entity : Entity) :
    judgement [entity] =
      (refusal settings [entity]).map fun message => entity.name ++ ": " ++ message := by
  simp [judgement, batchMessages, refusal]

/-- Several entities are judged as they are generated from, where references are checked. -/
theorem judgement_eq_refusal (several : 1 < entities.length)
    (checked : settings.checkReferences = true) :
    judgement entities = refusal settings entities := by
  have whole := (@generateFrom_of_not_single entities settings
    fun entity same => by simp [same] at several).2
  rw [whole, judgement, refusalMessages, if_pos several, if_pos checked]

/-- What is not generated from does not pass either. -/
theorem judgement_ne_nil (some : entities ≠ []) (refused : refusal settings entities ≠ []) :
    judgement entities ≠ [] := by
  match entities, some with
  | [entity], _ =>
    rw [judgement_singleton settings]
    exact fun none => refused (List.map_eq_nil_iff.mp none)
  | first :: second :: others, _ =>
    intro passed
    obtain ⟨each, between⟩ := List.append_eq_nil_iff.mp passed
    refine refused ?_
    change batchMessages (first :: second :: others) ++ _ = []
    rw [each]
    split
    · exact between
    · rfl

/-- Where references are checked, what does not pass is not generated from. -/
theorem refusal_ne_nil (some : entities ≠ []) (checked : settings.checkReferences = true)
    (refused : judgement entities ≠ []) : refusal settings entities ≠ [] := by
  match entities, some with
  | [entity], _ =>
    rw [judgement_singleton settings] at refused
    exact fun none => refused (List.map_eq_nil_iff.mpr none)
  | _ :: _ :: _, _ => rwa [← judgement_eq_refusal (by simp) checked]

/-- A specification that is read has an entity. -/
theorem ne_nil_of_loadNamed {path : String} {world after : World}
    (loaded : (loadNamed path).run world = (.ok entities, after)) : entities ≠ [] := by
  obtain ⟨given, middle, -, required⟩ := Script.exists_of_run_bind loaded
  unfold requireEntities at required
  split at required
  · exact absurd (Prod.mk.inj required).1 (by simp)
  · rename_i found
    rw [← Except.ok.inj (Prod.mk.inj required).1]
    simpa using found

end

section

variable {options : AddOptions} {path : String} {environment : Environment}
  {world after : World} {entities : List Entity}

/-- The entities of a specification are those of its path. -/
theorem AddOptions.entities_of_spec (named : options.spec = some path) (given : path ≠ "") :
    options.entities = loadNamed path := by
  have found : (!(options.spec.getD "").isEmpty) = true := by
    rw [named]
    simpa using given
  unfold AddOptions.entities
  dsimp only
  rw [if_pos found, named]
  rfl

/-- The command that generates works on the entities of its specification. -/
theorem Command.run_add (named : options.spec = some path) (given : path ≠ "") :
    (Command.add options).run environment = (do
      let entities ← loadNamed path
      let results ← generateFrom (options.settings environment) entities
      reportGenerated (options.settings environment) results) := by
  rw [Command.run, AddOptions.entities_of_spec named given]

/-- Once the entities are read, judging ends with the messages for them, if there are any. -/
theorem Command.violates_validate_iff (loaded : (loadNamed path).run world = (.ok entities, after))
    {messages : List String} :
    ((Command.validate path).run environment).Violates world messages ↔
      messages = judgement entities ∧ judgement entities ≠ [] := by
  rw [Command.run, Script.violates_bind_of_ok loaded]
  exact violates_judgeAll_iff entities _

/-- Once the entities are read, generating ends with the messages for them, if there are any. -/
theorem Command.violates_add_iff (named : options.spec = some path) (given : path ≠ "")
    (loaded : (loadNamed path).run world = (.ok entities, after)) {messages : List String} :
    ((Command.add options).run environment).Violates world messages ↔
      messages = refusal (options.settings environment) entities ∧
        refusal (options.settings environment) entities ≠ [] := by
  rw [Command.run_add named given, Script.violates_bind_of_ok loaded]
  exact violates_generateFrom_iff _ entities

end

/-- An argument without a dash in front is no option. -/
theorem Grammar.words_cons {grammar : Grammar} {text : String} {words : List String}
    {further : List Word} (plain : ∀ rest, text.toList ≠ '-' :: rest)
    (read : grammar.words words = .ok further) :
    grammar.words (text :: words) = .ok (.plain text :: further) := by
  have dashed : text ≠ "--" := fun same => plain ['-'] (same ▸ rfl)
  have word : grammar.classify text = .ok (.plain text) := by
    unfold Grammar.classify
    split
    · rename_i c rest found
      exact absurd found (plain _)
    · rfl
  rw [Grammar.words, if_neg dashed, word, read]
  rfl

/-- The arguments that ask for a specification to be judged, and to be generated from. -/
theorem Command.ofArguments_path {path : String} (plain : ∀ rest, path.toList ≠ '-' :: rest) :
    Command.ofArguments ["validate", path] = .ok (.validate path) ∧
      Command.ofArguments ["add-crud", "--spec", path] = .ok (.add { spec := some path }) := by
  have alone (grammar : Grammar) : grammar.words [path] = .ok [.plain path] :=
    Grammar.words_cons plain rfl
  constructor
  · have outer : Command.grammar.words ["validate", path] = .ok [.plain "validate", .plain path] :=
      Grammar.words_cons (fun rest same => by cases same) (alone _)
    have first : Command.grammar.read ["validate", path] =
        .ok { operand := some "validate", rest := [path] } := by
      rw [Grammar.read, outer]
      rfl
    have second : Command.validateGrammar.read [path] = .ok { operand := some path } := by
      rw [Grammar.read, alone]
      rfl
    rw [Command.ofArguments, first]
    change (do (← (do
      let inner ← Command.validateGrammar.read [path]
      Command.complete { operand := some "validate", rest := [path] } inner
        (.validate (inner.operand.getD "")) : Except Halt Command)).consistent) = _
    rw [second]
    rfl
  · have outer : Command.grammar.words ["add-crud", "--spec", path] =
        .ok [.plain "add-crud", .unknown "--spec", .plain path] := by
      refine Grammar.words_cons (fun rest same => by cases same) ?_
      rw [Grammar.words, if_neg (by decide), alone]
      rfl
    have first : Command.grammar.read ["add-crud", "--spec", path] =
        .ok { operand := some "add-crud", rest := ["--spec", path] } := by
      rw [Grammar.read, outer]
      rfl
    have second : Command.addGrammar.read ["--spec", path] =
        .ok { options := [(⟨["--spec", "-s"], .value, ["--entity"]⟩, some path)] } := by
      have words : Command.addGrammar.words ["--spec", path] =
          .ok [.option ⟨["--spec", "-s"], .value, ["--entity"]⟩ none "--spec", .plain path] := by
        rw [Grammar.words, if_neg (by decide), alone]
        rfl
      rw [Grammar.read, words]
      rfl
    rw [Command.ofArguments, first]
    change (do (← (do
      let inner ← Command.addGrammar.read ["--spec", path]
      Command.complete { operand := some "add-crud", rest := ["--spec", path] } inner
        (Command.ofAddOptions inner) : Except Halt Command)).consistent) = _
    rw [second]
    rfl

/-- The commands that judge and that generate from a specification fail to read it for the same
reason or work on the same entities. One ends with violations where the other does, provided that
references are checked. The messages are the same for several entities, and those for a single one
have its name in front where it is judged. Without a check of references, what cannot be generated
from is still judged to have violations. A path without a dash in front is enough to ask for both
commands. -/
theorem Command.validate_agrees {options : AddOptions} {path : String}
    (named : options.spec = some path) (given : path ≠ "") (environment : Environment)
    (world : World) :
    let settings := options.settings environment
    let validate := (Command.validate path).run environment
    let add := (Command.add options).run environment
    (∀ failure after, (loadNamed path).run world = (.error failure, after) →
      failure.IsNoViolation ∧ validate.run world = (.error failure, after) ∧
        add.run world = (.error failure, after)) ∧
    (∀ entities after, (loadNamed path).run world = (.ok entities, after) →
      (validate.run world = (do
        judgeAll entities
        Console.say (Nat.repr entities.length ++ " entities valid")).run after ∧
      add.run world =
        (do reportGenerated settings (← generateFrom settings entities)).run after) ∧
      (1 < entities.length → settings.checkReferences = true → ∀ messages,
        (validate.Violates world messages ↔ add.Violates world messages)) ∧
      ∀ entity, entities = [entity] → ∀ messages,
        (validate.Violates world messages ↔ ∃ bare, add.Violates world bare ∧
          messages = bare.map fun message => entity.name ++ ": " ++ message)) ∧
    (settings.checkReferences = true →
      ((∃ messages, validate.Violates world messages) ↔ ∃ messages, add.Violates world messages)) ∧
    ((∃ messages, add.Violates world messages) → ∃ messages, validate.Violates world messages) ∧
    ((∀ rest, path.toList ≠ '-' :: rest) →
      Command.ofArguments ["validate", path] = .ok (.validate path) ∧
        Command.ofArguments ["add-crud", "--spec", path] = .ok (.add { spec := some path })) := by
  intro settings validate add
  have adds : add = _ := Command.run_add named given
  rcases load : (loadNamed path).run world with ⟨result, after⟩
  cases result with
  | error failure =>
    have harmless : failure.IsNoViolation := (within_loadNamed (fun _ => id) path).failure load
    have validating : validate.run world = (.error failure, after) :=
      Script.run_bind_of_error load _
    have adding : add.run world = (.error failure, after) := by
      rw [adds]
      exact Script.run_bind_of_error load _
    have never {script : Script Unit} (failed : script.run world = (.error failure, after)) :
        ¬ ∃ messages, script.Violates world messages := by
      rintro ⟨messages, subject, same⟩
      rw [failed] at same
      exact harmless subject messages (Except.error.inj same)
    refine ⟨?_, ?_, fun _ => iff_of_false (never validating) (never adding),
      fun violates => absurd violates (never adding), Command.ofArguments_path⟩
    · rintro _ _ ⟨⟩
      exact ⟨harmless, validating, adding⟩
    · rintro _ _ ⟨⟩
  | ok entities =>
    have some := ne_nil_of_loadNamed load
    have validating (messages : List String) : validate.Violates world messages ↔ _ :=
      Command.violates_validate_iff load
    have adding (messages : List String) : add.Violates world messages ↔ _ :=
      Command.violates_add_iff named given load
    simp only [validating, adding, exists_eq_left]
    refine ⟨?_, ?_, ?_, ?_, Command.ofArguments_path⟩
    · rintro _ _ ⟨⟩
    · rintro _ _ ⟨⟩
      refine ⟨⟨Script.run_bind_of_ok load _, ?_⟩, fun several checked messages => ?_, ?_⟩
      · rw [adds]
        exact Script.run_bind_of_ok load _
      · rw [judgement_eq_refusal several checked]
      · rintro entity rfl messages
        rw [judgement_singleton settings]
        simp only [ne_eq, List.map_eq_nil_iff, settings]
        constructor
        · rintro ⟨same, refused⟩
          exact ⟨_, ⟨rfl, refused⟩, same⟩
        · rintro ⟨_, ⟨rfl, refused⟩, same⟩
          exact ⟨same, refused⟩
    · exact fun checked => ⟨refusal_ne_nil some checked, judgement_ne_nil some⟩
    · exact judgement_ne_nil some

/-- A specification with a violation of an entity and one between its entities is refused alike, and
that of one entity alone with its name in front where it is judged. -/
theorem Command.validate_agrees_dangling :
    let world (text : String) : World := { tree := ⟨["w"], [(["w"], .directory),
      (["w", "s"], .file (Text.encodeUtf8 text.toList))]⟩ }
    let several := world "B\naId:int@relation(C,one-to-one)\n\nA\nid:int@id"
    let single := world "B\naId:int@relation(C,one-to-one)"
    let validate := (Command.validate "s").run []
    let add := (Command.add { spec := some "s" }).run []
    (validate.Violates several
        ["B: Entity must have an ID field", "Relationship B.a targets unknown entity C"] ∧
      add.Violates several
        ["B: Entity must have an ID field", "Relationship B.a targets unknown entity C"]) ∧
    add.Violates single ["Entity must have an ID field"] ∧
    validate.Violates single ["B: Entity must have an ID field"] ∧
    Command.ofArguments ["validate", "s"] = .ok (.validate "s") := by
  intro world several single validate add
  have agrees := @Command.validate_agrees { spec := some "s" } "s" rfl (by decide) []
  have dangling : add.Violates several
      ["B: Entity must have an ID field", "Relationship B.a targets unknown entity C"] :=
    ⟨none, by decide +kernel⟩
  have nameless : add.Violates single ["Entity must have an ID field"] :=
    ⟨some "B", by decide +kernel⟩
  obtain ⟨entities, loaded, many⟩ := @Script.exists_of_map_toOption _ _ (loadNamed "s") several
    List.length 2 (by decide +kernel)
  obtain ⟨alone, found, one⟩ := @Script.exists_of_map_toOption _ _ (loadNamed "s") single
    (fun entities => entities.map Entity.name) ["B"] (by decide +kernel)
  obtain ⟨entity, rfl, name⟩ := List.map_eq_singleton_iff.mp one
  refine ⟨⟨?_, dangling⟩, nameless, ?_, ?_⟩
  · have both := ((agrees several).2.1 entities _ loaded).2.1 (by omega) (by decide +kernel)
    exact (both _).mpr dangling
  · refine (((agrees single).2.1 _ _ found).2.2 entity rfl _).mpr ⟨_, nameless, ?_⟩
    rw [name]
    rfl
  · exact ((agrees several).2.2.2.2 fun rest same => by cases same).1

end CrudScaffold
