import CrudScaffold.Proofs.Files.Actions
import CrudScaffold.Script.World

/-!
# Runs of scripts

What a run leaves behind, piece by piece: a script that goes on runs in the world that its first
part leaves, every run lets the tree of files grow, and what is asked along the way can be bounded
for the script as a whole (`Within`) or for one run of it (`Always`). A run may be stopped at any of
the worlds that it passes (`StopsAfter`).
-/

namespace CrudScaffold.Script

variable {α β : Type}

/-! ### Going on -/

/-- A script that goes on after a value runs on from there. -/
theorem run_bind_of_ok {script : Script α} {world middle : World} {value : α}
    (first : script.run world = (.ok value, middle)) (next : α → Script β) :
    (script >>= next).run world = (next value).run middle := by
  change (script.bind next).run world = _
  rw [run_bind, first]

/-- Nothing follows a failure. -/
theorem run_bind_of_error {script : Script α} {world middle : World} {failure : Failure}
    (first : script.run world = (.error failure, middle)) (next : α → Script β) :
    (script >>= next).run world = (.error failure, middle) := by
  change (script.bind next).run world = _
  rw [run_bind, first]

/-- A run of a script that goes on ends with the failure of its first part, or it is a run of what
follows. -/
theorem run_bind_cases {script : Script α} {next : α → Script β} {world after : World}
    {result : Except Failure β} (whole : (script >>= next).run world = (result, after)) :
    (∃ failure, script.run world = (.error failure, after) ∧ result = .error failure) ∨
      ∃ value middle, script.run world = (.ok value, middle) ∧
        (next value).run middle = (result, after) := by
  rcases first : script.run world with ⟨answer, middle⟩
  cases answer with
  | error failure =>
    rw [run_bind_of_error first] at whole
    obtain ⟨rfl, rfl⟩ := Prod.mk.inj whole
    exact .inl ⟨failure, rfl, rfl⟩
  | ok value =>
    rw [run_bind_of_ok first] at whole
    exact .inr ⟨value, middle, rfl, whole⟩

/-- A run that ends with a value has one for each part. -/
theorem exists_of_run_bind {script : Script α} {next : α → Script β} {world after : World}
    {value : β} (whole : (script >>= next).run world = (.ok value, after)) :
    ∃ first middle, script.run world = (.ok first, middle) ∧
      (next first).run middle = (.ok value, after) := by
  rcases run_bind_cases whole with ⟨failure, -, same⟩ | found
  · contradiction
  · exact found

/-- A run over a list that ends with values has one for its first item, and then those of the
others. -/
theorem exists_of_run_mapM_cons {body : α → Script β} {item : α} {items : List α}
    {world after : World} {values : List β}
    (whole : ((item :: items).mapM body).run world = (.ok values, after)) :
    ∃ value middle others, (body item).run world = (.ok value, middle) ∧
      (items.mapM body).run middle = (.ok others, after) ∧ values = value :: others := by
  rw [List.mapM_cons] at whole
  obtain ⟨value, middle, first, whole⟩ := exists_of_run_bind whole
  obtain ⟨others, last, rest, whole⟩ := exists_of_run_bind whole
  obtain ⟨same, rfl⟩ := Prod.mk.inj whole
  exact ⟨value, middle, others, first, rest, (Except.ok.inj same).symm⟩

/-- A run that ends with a value, told from something that was worked out from it. -/
theorem exists_of_map_toOption {script : Script α} {world : World} {read : α → β} {answer : β}
    (found : (script.run world).1.toOption.map read = some answer) :
    ∃ value, script.run world = (.ok value, (script.run world).2) ∧ read value = answer := by
  rcases ran : script.run world with ⟨result, after⟩
  rw [ran] at found
  cases result with
  | error failure => contradiction
  | ok value => exact ⟨value, rfl, Option.some.inj found⟩

end CrudScaffold.Script

namespace CrudScaffold.World

/-- Whatever is asked, the tree of files grows. -/
theorem grows_answer (world : World) (action : Action) :
    world.tree.Grows (world.answer action).2.tree := by
  cases action with
  | makeDirectory path =>
    cases made : world.tree.makeDirectory path with
    | error reason => simp only [answer, made, change, Tree.Grows.refl]
    | ok tree => simpa only [answer, made, change] using Tree.grows_of_makeDirectory made
  | write path content =>
    cases written : world.tree.write path content with
    | error reason => simp only [answer, written, change, Tree.Grows.refl]
    | ok tree => simpa only [answer, written, change] using Tree.grows_of_write written
  | readLine =>
    simp only [answer, nextLine]
    split <;> exact Tree.Grows.refl _
  | status _ | read _ | print _ | readRest => exact Tree.Grows.refl _

/-- Whatever is asked, a sound tree stays sound. -/
theorem sound_answer {world : World} (sound : world.tree.Sound) (action : Action) :
    (world.answer action).2.tree.Sound := by
  cases action with
  | makeDirectory path =>
    cases made : world.tree.makeDirectory path with
    | error reason => simpa only [answer, made, change] using sound
    | ok tree => simpa only [answer, made, change] using sound.makeDirectory made
  | write path content =>
    cases written : world.tree.write path content with
    | error reason => simpa only [answer, written, change] using sound
    | ok tree => simpa only [answer, written, change] using sound.write written
  | readLine =>
    simp only [answer, nextLine]
    split <;> exact sound
  | status _ | read _ | print _ | readRest => exact sound

end CrudScaffold.World

namespace CrudScaffold

/-- Whether an action leaves the files as they are. -/
def Action.isLook : Action → Bool
  | .makeDirectory _ | .write _ _ => false
  | _ => true

/-- An action that leaves the files as they are writes none. -/
theorem Action.isWrite_of_isLook {action : Action} (look : action.isLook = true) :
    action.isWrite = false := by
  cases action with
  | write path content => contradiction
  | _ => rfl

/-- An action that writes no file, or one at some paths. -/
def Action.WritesAmong (paths : List Path) : Action → Prop
  | .write path _ => path ∈ paths
  | _ => True

/-- An action that writes no file writes none elsewhere. -/
theorem Action.writesAmong_of_not_isWrite {action : Action} (noWrite : action.isWrite = false)
    (paths : List Path) : action.WritesAmong paths := by
  cases action with
  | write path content => contradiction
  | _ => trivial

namespace Script

variable {α β : Type}

/-- Whatever a script does, the tree of files grows. -/
theorem grows_run (script : Script α) (world : World) :
    world.tree.Grows (script.run world).2.tree := by
  induction script generalizing world with
  | done value => exact Tree.Grows.refl _
  | fail failure => exact Tree.Grows.refl _
  | act action next ih => exact (world.grows_answer action).trans (ih _ _)

/-- Whatever a script does, a sound tree stays sound. -/
theorem sound_run (script : Script α) {world : World} (sound : world.tree.Sound) :
    (script.run world).2.tree.Sound := by
  induction script generalizing world with
  | done value => exact sound
  | fail failure => exact sound
  | act action next ih => exact ih _ (World.sound_answer sound action)

/-! ### Bounds on scripts -/

/-- A script that asks only for some actions and fails only in some ways. -/
inductive Within (asks : Action → Prop) (fails : Failure → Prop) : Script α → Prop
  | done (value : α) : Within asks fails (.done value)
  | fail {failure : Failure} (allowed : fails failure) : Within asks fails (.fail failure)
  | act {action : Action} {next : action.Answer → Script α} (allowed : asks action)
      (rest : ∀ answer, Within asks fails (next answer)) : Within asks fails (.act action next)

variable {asks : Action → Prop} {fails : Failure → Prop}

/-- A script in two parts is bounded if both are. -/
theorem Within.bind {script : Script α} {next : α → Script β} (first : script.Within asks fails)
    (second : ∀ value, (next value).Within asks fails) : (script >>= next).Within asks fails := by
  change (script.bind next).Within asks fails
  induction first with
  | done value => exact second value
  | fail allowed => exact .fail allowed
  | act allowed _ ih => exact .act allowed ih

/-- A bound may be widened. -/
theorem Within.mono {script : Script α} (within : script.Within asks fails)
    {moreAsks : Action → Prop} {moreFails : Failure → Prop}
    (wider : ∀ action, asks action → moreAsks action)
    (failing : ∀ failure, fails failure → moreFails failure) :
    script.Within moreAsks moreFails := by
  induction within with
  | done value => exact .done value
  | fail allowed => exact .fail (failing _ allowed)
  | act allowed _ ih => exact .act (wider _ allowed) ih

/-- A single action is bounded if it is allowed. -/
theorem Within.ask {action : Action} (allowed : asks action) :
    (Script.ask action).Within asks fails := .act allowed fun answer => .done answer

/-- A result that is no value is within the bound if the failure is. -/
theorem Within.ofExcept {ε : Type} {failure : ε → Failure}
    (allowed : ∀ fault, fails (failure fault)) (result : Except ε α) :
    (Script.ofExcept failure result).Within asks fails := by
  cases result with
  | error fault => exact .fail (allowed fault)
  | ok value => exact .done value

/-- A script that is read for a list is bounded if it is for each element. -/
theorem Within.mapM {γ : Type} {body : γ → Script β}
    (each : ∀ item, (body item).Within asks fails) (items : List γ) :
    (items.mapM body).Within asks fails := by
  induction items with
  | nil => exact .done []
  | cons item items ih =>
    rw [List.mapM_cons]
    exact (each item).bind fun first => ih.bind fun rest => .done (first :: rest)

/-- A script that is run for a list is bounded if it is for each element. -/
theorem Within.forM {γ : Type} {body : γ → Script PUnit}
    (each : ∀ item, (body item).Within asks fails) (items : List γ) :
    (items.forM body).Within asks fails := by
  induction items with
  | nil => exact .done ()
  | cons item items ih => exact (each item).bind fun _ => ih

/-- A script that writes no file writes none elsewhere. -/
theorem Within.writesAmong {script : Script α} {paths : List Path}
    (within : script.Within (·.isWrite = false) fails) :
    script.Within (Action.WritesAmong paths) fails :=
  within.mono (fun _ noWrite => Action.writesAmong_of_not_isWrite noWrite paths) fun _ same => same

/-- Nor does a script that only looks. -/
theorem Within.writesAmong_of_isLook {script : Script α} {paths : List Path}
    (within : script.Within (·.isLook) fails) : script.Within (Action.WritesAmong paths) fails :=
  (within.mono (fun _ => Action.isWrite_of_isLook) fun _ same => same).writesAmong

/-- A run fails in no other way than its script may. -/
theorem Within.failure {script : Script α} (within : script.Within asks fails) {world after : World}
    {failure : Failure} (failed : script.run world = (.error failure, after)) : fails failure := by
  induction within generalizing world with
  | done value => exact absurd (Prod.mk.inj failed).1 (by simp)
  | fail allowed =>
    obtain ⟨same, -⟩ := Prod.mk.inj failed
    exact Except.error.inj same ▸ allowed
  | act _ _ ih => exact ih _ failed

/-- A script that only looks leaves the files as they are. -/
theorem Within.tree_eq {script : Script α} (within : script.Within (·.isLook) fails)
    (world : World) : (script.run world).2.tree = world.tree := by
  induction within generalizing world with
  | done value => rfl
  | fail allowed => rfl
  | @act action next allowed _ ih =>
    rw [run, ih]
    cases action with
    | makeDirectory path => contradiction
    | write path content => contradiction
    | readLine =>
      simp only [World.answer, World.nextLine]
      split <;> rfl
    | status _ | read _ | print _ | readRest => rfl

/-! ### Bounds on runs -/

/-- In a run every action is one that a rule allows for the files as they are then. -/
def Always (allows : Tree → Action → Prop) : Script α → World → Prop
  | .act action next, world =>
    allows world.tree action ∧
      (next (world.answer action).1).Always allows (world.answer action).2
  | _, _ => True

variable {allows : Tree → Action → Prop}

/-- A run in two parts keeps to a rule if both parts do. -/
theorem always_bind_iff {script : Script α} {next : α → Script β} {world : World} :
    (script >>= next).Always allows world ↔
      script.Always allows world ∧ ∀ value middle, script.run world = (.ok value, middle) →
        (next value).Always allows middle := by
  change (script.bind next).Always allows world ↔ _
  induction script generalizing world with
  | done value =>
    refine ⟨fun second => ⟨trivial, fun other middle ran => ?_⟩, fun both => both.2 _ _ rfl⟩
    obtain ⟨same, rfl⟩ := Prod.mk.inj ran
    exact Except.ok.inj same ▸ second
  | fail failure =>
    refine ⟨fun _ => ⟨trivial, fun other middle ran => ?_⟩, fun _ => trivial⟩
    exact absurd (Prod.mk.inj ran).1 (by simp)
  | act action rest ih =>
    change (_ ∧ ((rest _).bind next).Always allows _) ↔ (_ ∧ (rest _).Always allows _) ∧ _
    rw [ih, and_assoc]
    rfl

/-- A script that asks only for actions that a rule always allows keeps to it. -/
theorem Within.always {script : Script α} (within : script.Within asks fails)
    (allowed : ∀ action, asks action → ∀ tree, allows tree action) (world : World) :
    script.Always allows world := by
  induction within generalizing world with
  | done value => trivial
  | fail _ => trivial
  | act asked _ ih => exact ⟨allowed _ asked _, ih _ _⟩

end Script

end CrudScaffold
