import CrudScaffold.Proofs.Script.Run

/-!
# Runs that are broken off

A run may be stopped at any of the trees of files that it passes (`Passes`). What matters when the
script is run again is where it leads from there, whatever is on the console and in the input by
then (`Leads`). A script resumes a run if from every tree that the run passes it leads to where the
run ended, and if it changes nothing once that has been reached (`Resumes`). Two scripts in a row
resume a run in two parts if each of them resumes its part.
-/

namespace CrudScaffold.Script

variable {α β γ δ : Type}

/-! ### Trees that a run passes -/

/-- A run passes a tree of files. -/
inductive Passes : Script α → World → Tree → Prop
  /-- It starts there. -/
  | here (script : Script α) (world : World) : Passes script world world.tree
  /-- It comes there after an action. -/
  | later {action : Action} {next : action.Answer → Script α} {world : World} {tree : Tree}
      (rest : Passes (next (world.answer action).1) (world.answer action).2 tree) :
      Passes (.act action next) world tree

/-- A run passes the tree that it leaves behind. -/
theorem passes_run (script : Script α) (world : World) :
    script.Passes world (script.run world).2.tree := by
  induction script generalizing world with
  | done value => exact .here _ world
  | fail failure => exact .here _ world
  | act action next ih => exact .later (ih _ _)

/-- A run that is stopped when a number of files have been written leaves a tree that it passes. -/
theorem passes_runFor (script : Script α) (writes : Nat) (world : World) :
    script.Passes world (script.runFor writes world).2.tree := by
  induction script generalizing writes world with
  | done value => exact .here _ world
  | fail failure => exact .here _ world
  | act action next ih =>
    unfold runFor
    split
    · cases writes with
      | zero => exact .here _ world
      | succ writes => exact .later (ih _ _ _)
    · exact .later (ih _ _ _)

/-- The tree has grown into every tree that a run passes, and that one grows into the last. -/
theorem Passes.grows {script : Script α} {world : World} {tree : Tree}
    (passes : script.Passes world tree) :
    world.tree.Grows tree ∧ tree.Grows (script.run world).2.tree := by
  induction passes with
  | here script world => exact ⟨.refl _, grows_run script world⟩
  | @later action _ world _ _ ih => exact ⟨(world.grows_answer action).trans ih.1, ih.2⟩

/-- A script that only looks passes no other tree. -/
theorem Within.passes {script : Script α} {fails : Failure → Prop}
    (within : script.Within (·.isLook) fails) {world : World} {tree : Tree}
    (passes : script.Passes world tree) : tree = world.tree := by
  induction passes with
  | here script world => rfl
  | @later action _ world tree _ ih =>
    cases within with
    | act allowed rest =>
      have single : (Script.ask action).Within (·.isLook) fails := .ask allowed
      have still := single.tree_eq world
      exact (ih (rest _)).trans still

/-- A run in two parts passes the trees of both. -/
theorem Passes.bind_cases {script : Script α} {next : α → Script β} {world : World} {tree : Tree}
    (passes : (script >>= next).Passes world tree) :
    script.Passes world tree ∨ ∃ value middle, script.run world = (.ok value, middle) ∧
      (next value).Passes middle tree := by
  change (script.bind next).Passes world tree at passes
  induction script generalizing world with
  | done value => exact .inr ⟨value, world, rfl, passes⟩
  | fail failure =>
    cases passes with
    | here _ _ => exact .inl (.here _ world)
  | act action rest ih =>
    cases passes with
    | here _ _ => exact .inl (.here _ world)
    | later passes => exact (ih _ passes).imp .later id

/-! ### Where a script leads -/

/-- A script leads from one tree of files to another: it ends with a value there, whatever is on
the console and in the input. -/
def Leads (script : Script α) (before after : Tree) : Prop :=
  ∀ world, world.tree = before → ∃ value last, script.run world = (.ok value, last) ∧
    last.tree = after

/-- A script leads to one tree only. -/
theorem Leads.unique {script : Script α} {before after other : Tree}
    (first : script.Leads before after) (second : script.Leads before other) : after = other := by
  obtain ⟨value, last, ran, rfl⟩ := first { tree := before } rfl
  obtain ⟨result, same, again, rfl⟩ := second { tree := before } rfl
  rw [ran] at again
  exact congrArg World.tree (Prod.mk.inj again).2

/-- Two scripts in a row lead where the second leads from where the first does. -/
theorem Leads.bind {script : Script α} {next : α → Script β} {before middle after : Tree}
    (first : script.Leads before middle) (second : ∀ value, (next value).Leads middle after) :
    (script >>= next).Leads before after := by
  intro world start
  obtain ⟨value, there, ran, reached⟩ := first world start
  obtain ⟨result, last, rest, ends⟩ := second value there reached
  exact ⟨result, last, (run_bind_of_ok ran next).trans rest, ends⟩

/-- A script that only looks and never fails leads nowhere else. -/
theorem Within.leads {script : Script α} (within : script.Within (·.isLook) fun _ => False)
    (tree : Tree) : script.Leads tree tree := by
  rintro world rfl
  rcases ran : script.run world with ⟨result, last⟩
  cases result with
  | error failure => exact (within.failure ran).elim
  | ok value =>
    have still := within.tree_eq world
    rw [ran] at still
    exact ⟨value, last, rfl, still⟩

/-! ### Resuming -/

/-- A script resumes a run of one: from every tree that the run passes it leads to the one that the
run left behind, and from every tree beyond that nowhere else. What counts as beyond is given. -/
structure Resumes (beyond : Tree → Tree → Prop) (first : Script α) (again : Script β)
    (world : World) : Prop where
  /-- Every tree that the run passes is beyond the one it started from. -/
  passed : ∀ tree, first.Passes world tree → beyond world.tree tree
  /-- From there the script leads to the last one. -/
  leads : ∀ tree, first.Passes world tree → again.Leads tree (first.run world).2.tree
  /-- Beyond the last one nothing more happens. -/
  settled : ∀ tree, beyond (first.run world).2.tree tree → again.Leads tree tree

section

variable {beyond : Tree → Tree → Prop}

/-- Scripts that only look and never fail resume each other. -/
theorem Resumes.of_isLook {first : Script α} {again : Script β} (refl : ∀ tree, beyond tree tree)
    (within : first.Within (·.isLook) fun _ => False)
    (withinAgain : again.Within (·.isLook) fun _ => False) (world : World) :
    Resumes beyond first again world := by
  refine ⟨fun tree passed => ?_, fun tree passed => ?_, fun tree _ => withinAgain.leads tree⟩
  · rw [within.passes passed]
    exact refl _
  · rw [within.passes passed, within.tree_eq]
    exact withinAgain.leads _

/-- Two scripts in a row resume a run in two parts if each resumes its part, whatever the value
between the parts is. -/
theorem Resumes.bind {first : Script α} {again : Script β} {next : α → Script γ}
    {nextAgain : β → Script δ} {world middle : World} {value : α}
    (trans : ∀ {small between large}, beyond small between → beyond between large →
      beyond small large)
    (ran : first.run world = (.ok value, middle)) (front : Resumes beyond first again world)
    (back : ∀ other, Resumes beyond (next value) (nextAgain other) middle) :
    Resumes beyond (first >>= next) (again >>= nextAgain) world := by
  obtain ⟨passed, leads, settled⟩ := front
  obtain ⟨other, -⟩ := leads _ (.here first world) world rfl
  have reached := passed _ (passes_run first world)
  rw [ran] at reached settled leads
  have whole : (first >>= next).run world = (next value).run middle := run_bind_of_ok ran next
  have parts {tree : Tree} (passing : (first >>= next).Passes world tree) :
      first.Passes world tree ∨ (next value).Passes middle tree := by
    rcases passing.bind_cases with inFront | ⟨same, between, again, inBack⟩
    · exact .inl inFront
    · rw [ran] at again
      obtain ⟨sameValue, rfl⟩ := Prod.mk.inj again
      obtain rfl := Except.ok.inj sameValue
      exact .inr inBack
  refine ⟨fun tree passing => ?_, fun tree passing => ?_, fun tree after => ?_⟩
  · rcases parts passing with inFront | inBack
    · exact passed tree inFront
    · exact trans reached ((back other).passed tree inBack)
  · rw [whole]
    rcases parts passing with inFront | inBack
    · exact (leads tree inFront).bind fun other => (back other).leads _ (.here _ middle)
    · exact (settled tree ((back other).passed tree inBack)).bind fun other =>
        (back other).leads tree inBack
  · rw [whole] at after
    have further := (back other).passed _ (passes_run (next value) middle)
    exact (settled tree (trans further after)).bind fun other => (back other).settled tree after

end

end CrudScaffold.Script
