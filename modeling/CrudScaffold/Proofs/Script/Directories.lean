import CrudScaffold.Proofs.Script.Files

/-!
# Making directories

Making a directory with all that should hold it puts directories on the way to its place, where
nothing stood, and does nothing else, however it ends.
-/

namespace CrudScaffold

/-- A tree after directories were made on the way to a location. -/
structure Tree.Deepens (target : Location) (tree after : Tree) : Prop where
  /-- The working directory is the same. -/
  base : after.base = tree.base
  /-- Only free locations on the way have become directories. -/
  entry : ∀ location, after.entry? location = tree.entry? location ∨
    tree.entry? location = none ∧ after.entry? location = some .directory ∧ location <+: target

namespace Tree

/-- Nothing was made. -/
theorem Deepens.refl (target : Location) (tree : Tree) : tree.Deepens target tree :=
  ⟨rfl, fun _ => .inl rfl⟩

/-- Making directories twice on the same way is making directories there. -/
theorem Deepens.trans {target : Location} {tree middle after : Tree}
    (first : tree.Deepens target middle) (second : middle.Deepens target after) :
    tree.Deepens target after := by
  refine ⟨second.base.trans first.base, fun location => ?_⟩
  rcases second.entry location with same | ⟨free, made, onWay⟩
  · rw [same]
    exact first.entry location
  · rcases first.entry location with same | ⟨-, directory, -⟩
    · exact .inr ⟨same ▸ free, made, onWay⟩
    · rw [directory] at free
      contradiction

/-- What is on the way to a location is on the way to what lies below. -/
theorem Deepens.mono {target further : Location} {tree after : Tree}
    (deepens : tree.Deepens target after) (below : target <+: further) :
    tree.Deepens further after :=
  ⟨deepens.base, fun location => (deepens.entry location).imp_right fun ⟨free, made, onWay⟩ =>
    ⟨free, made, onWay.trans below⟩⟩

/-- A location that is not on the way keeps what stands there. -/
theorem Deepens.entry_of_not_prefix {target location : Location} {tree after : Tree}
    (deepens : tree.Deepens target after) (aside : ¬ location <+: target) :
    after.entry? location = tree.entry? location :=
  (deepens.entry location).resolve_right fun made => aside made.2.2

/-- What holds a path lies on the way to its place. -/
theorem place_parent_prefix (tree : Tree) (path : Path) :
    tree.place path.parent <+: tree.place path := by
  have start : tree.start path.parent = tree.start path := rfl
  rw [place, place, start]
  exact List.prefix_append_right_inj _ |>.mpr (List.dropLast_prefix _)

/-- A path with steps does not lie on the way to what holds it. -/
theorem not_place_prefix_parent {tree : Tree} {path : Path} (proper : path.steps ≠ []) :
    ¬ tree.place path <+: tree.place path.parent := by
  intro onWay
  have start : tree.start path.parent = tree.start path := rfl
  rw [place, place, start, List.prefix_append_right_inj, Path.parent_steps] at onWay
  have shorter := onWay.length_le
  rw [List.length_dropLast] at shorter
  have some := List.length_pos_iff.mpr proper
  omega

end Tree

namespace Script

variable {world after : World} {path : Path} {result : Except Failure Unit}

/-! ### One directory -/

/-- Be content with a directory that is there, or refuse the path. -/
def confirm (reason : FileRefusal) (path : Path) : Script Unit := do
  if ← isDirectory path then return () else refuse reason path

/-- Confirming a directory changes nothing. -/
theorem within_confirm (reason : FileRefusal) (path : Path) :
    (confirm reason path).Within (·.isLook) fun _ => True := by
  refine ((within_kindAt fun _ => trivial).bind fun kind => .done _).bind fun there => ?_
  cases there with
  | false => exact .fail trivial
  | true => exact .done _

/-- A directory that can be made is made. -/
theorem run_makeDirectoryOr_of_ok {tree : Tree} (ifMissing : Script Unit)
    (made : world.tree.makeDirectory path = .ok tree) :
    (makeDirectoryOr ifMissing path).run world = (.ok (), { world with tree }) := by
  simp only [makeDirectoryOr, run, World.answer, World.change, made]

/-- Where a directory is missing, what is given is done. -/
theorem run_makeDirectoryOr_of_missing (ifMissing : Script Unit)
    (refused : world.tree.makeDirectory path = .error .missing) :
    (makeDirectoryOr ifMissing path).run world = ifMissing.run world := by
  simp only [makeDirectoryOr, run, World.answer, World.change, refused]

/-- Anything else that stands in the way should be the directory. -/
theorem run_makeDirectoryOr_of_other {reason : FileRefusal} (ifMissing : Script Unit)
    (refused : world.tree.makeDirectory path = .error reason) (other : reason ≠ .missing) :
    (makeDirectoryOr ifMissing path).run world = (confirm reason path).run world := by
  simp only [makeDirectoryOr, run, World.answer, World.change, refused]
  cases reason with
  | missing => contradiction
  | _ => rfl

/-- Making a directory makes it on the way to its place, besides what is made when one is
missing. -/
theorem deepens_makeDirectoryOr {ifMissing : Script Unit} (plain : ".." ∉ path.steps)
    (otherwise : ∀ result after, ifMissing.run world = (result, after) →
      world.tree.Deepens (world.tree.place path) after.tree)
    (ran : (makeDirectoryOr ifMissing path).run world = (result, after)) :
    world.tree.Deepens (world.tree.place path) after.tree := by
  cases made : world.tree.makeDirectory path with
  | ok tree =>
    rw [run_makeDirectoryOr_of_ok ifMissing made] at ran
    obtain ⟨-, rfl⟩ := Prod.mk.inj ran
    obtain ⟨location, located, free, rfl⟩ := Tree.makeDirectory_eq_ok_iff.mp made
    obtain rfl := Tree.eq_place_of_locate plain located
    refine ⟨rfl, fun other => ?_⟩
    by_cases here : other = world.tree.place path
    · subst here
      have proper : world.tree.place path ≠ [] := by
        intro root
        rw [root] at free
        exact absurd free (by simp)
      exact .inr ⟨free, Tree.entry?_put_self _ proper _, List.prefix_rfl⟩
    · exact .inl (Tree.entry?_put_of_ne _ here _)
  | error reason =>
    by_cases missing : reason = .missing
    · subst missing
      rw [run_makeDirectoryOr_of_missing ifMissing made] at ran
      exact otherwise _ _ ran
    · have look := (within_confirm reason path).tree_eq world
      rw [run_makeDirectoryOr_of_other ifMissing made missing] at ran
      rw [ran] at look
      rw [look]
      exact .refl _ _

/-! ### All that is missing -/

/-- Making directories makes them on the way to the place of the path. -/
theorem deepens_makeDirectoriesWithin {count : Nat} (plain : ".." ∉ path.steps)
    (ran : (makeDirectoriesWithin count path).run world = (result, after)) :
    world.tree.Deepens (world.tree.place path) after.tree := by
  induction count generalizing world path result after with
  | zero =>
    refine deepens_makeDirectoryOr plain (fun result after failed => ?_) ran
    obtain ⟨-, rfl⟩ := Prod.mk.inj failed
    exact .refl _ _
  | succ count ih =>
    refine deepens_makeDirectoryOr plain (fun result after both => ?_) ran
    have above : ".." ∉ path.parent.steps := fun member =>
      plain ((List.dropLast_sublist path.steps).mem member)
    rcases run_bind_cases both with ⟨failure, first, -⟩ | ⟨value, middle, first, second⟩
    · exact (ih above first).mono (Tree.place_parent_prefix _ path)
    · have upper := (ih above first).mono (Tree.place_parent_prefix _ path)
      have start : middle.tree.place path = world.tree.place path := by
        rw [Tree.place, Tree.place, Tree.start, Tree.start, upper.base]
      refine upper.trans (start ▸ deepens_makeDirectoryOr plain (fun result after failed => ?_)
        second)
      obtain ⟨-, rfl⟩ := Prod.mk.inj failed
      exact .refl _ _

/-- Making a directory with all that should hold it makes directories on the way to its place. -/
theorem deepens_makeDirectories (plain : ".." ∉ path.steps)
    (ran : (makeDirectories path).run world = (result, after)) :
    world.tree.Deepens (world.tree.place path) after.tree :=
  deepens_makeDirectoriesWithin plain ran

end Script

end CrudScaffold
