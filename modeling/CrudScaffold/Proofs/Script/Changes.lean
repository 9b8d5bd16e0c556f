import CrudScaffold.Proofs.Files.Resolve
import CrudScaffold.Proofs.Script.Run

/-!
# Files that a run changes

A script that writes to some paths only changes, however its run ends, no file but those at the
locations of these paths (`Script.Within.changesAt`). Directories that it makes take the place of no
file. Nothing is asked of the paths: double dots may be among their steps.
-/

namespace CrudScaffold

/-- A tree in which no file was changed, made or lost, those aside to which some paths lead. -/
structure Tree.ChangesAt (paths : List Path) (tree after : Tree) : Prop where
  /-- The working directory is the same. -/
  base : after.base = tree.base
  /-- So are the files elsewhere. -/
  file : ∀ location content, location ∉ paths.map tree.resolved →
    (after.entry? location = some (.file content) ↔ tree.entry? location = some (.file content))

namespace Tree.ChangesAt

variable {paths : List Path} {tree after : Tree} {path : Path}

/-- Nothing was changed. -/
theorem refl (paths : List Path) (tree : Tree) : tree.ChangesAt paths tree :=
  ⟨rfl, fun _ _ _ => .rfl⟩

/-- Where files were changed at some paths, they were at no others than at more. -/
theorem mono {more : List Path} (changes : tree.ChangesAt paths after)
    (among : ∀ path ∈ paths, path ∈ more) : tree.ChangesAt more after :=
  ⟨changes.base, fun location content elsewhere => changes.file location content fun member =>
    elsewhere (List.map_subset _ among member)⟩

/-- Changing files at some paths twice is changing them there. -/
theorem trans {middle : Tree} (first : tree.ChangesAt paths middle)
    (second : middle.ChangesAt paths after) : tree.ChangesAt paths after := by
  refine ⟨second.base.trans first.base, fun location content elsewhere => ?_⟩
  have same : paths.map middle.resolved = paths.map tree.resolved :=
    List.map_congr_left fun path _ => Tree.resolved_eq_of_base first.base path
  exact (second.file location content (same ▸ elsewhere)).trans
    (first.file location content elsewhere)

/-- A directory that is made takes the place of no file. -/
theorem of_makeDirectory (made : tree.makeDirectory path = .ok after) :
    tree.ChangesAt paths after := by
  obtain ⟨location, -, free, rfl⟩ := makeDirectory_eq_ok_iff.mp made
  refine ⟨rfl, fun other content _ => ?_⟩
  by_cases here : other = location
  · subst here
    have proper : other ≠ [] := by
      rintro rfl
      exact absurd free (by simp)
    rw [entry?_put_self tree proper, free]
    simp
  · rw [entry?_put_of_ne tree here]

/-- A file that is written is changed where its path leads. -/
theorem of_write {content : List UInt8} (member : path ∈ paths)
    (wrote : tree.write path content = .ok after) : tree.ChangesAt paths after := by
  obtain ⟨location, located, -, rfl⟩ := write_eq_ok_iff.mp wrote
  refine ⟨rfl, fun other _ elsewhere => ?_⟩
  have apart : other ≠ location := by
    rintro rfl
    exact elsewhere (List.mem_map.mpr ⟨path, member, (eq_resolved_of_locate located).symm⟩)
  rw [entry?_put_of_ne tree apart]

end Tree.ChangesAt

section

variable {paths : List Path}

/-- An action changes no file but the one that it writes. -/
theorem World.changesAt_answer (world : World) {action : Action}
    (among : action.WritesAmong paths) :
    world.tree.ChangesAt paths (world.answer action).2.tree := by
  cases action with
  | makeDirectory path =>
    cases made : world.tree.makeDirectory path with
    | error reason => simpa only [answer, made, change] using .refl _ _
    | ok tree => simpa only [answer, made, change] using .of_makeDirectory made
  | write path content =>
    cases wrote : world.tree.write path content with
    | error reason => simpa only [answer, wrote, change] using .refl _ _
    | ok tree => simpa only [answer, wrote, change] using .of_write among wrote
  | readLine =>
    simp only [answer, nextLine]
    split <;> exact .refl _ _
  | status _ | read _ | print _ | readRest => exact .refl _ _

/-- However a run ends, the files that it has changed are those to which its script writes. -/
theorem Script.Within.changesAt {α : Type} {script : Script α} {fails : Failure → Prop}
    (within : script.Within (Action.WritesAmong paths) fails) (world : World) :
    world.tree.ChangesAt paths (script.run world).2.tree := by
  induction within generalizing world with
  | done value => exact .refl _ _
  | fail allowed => exact .refl _ _
  | act among _ ih => exact (world.changesAt_answer among).trans (ih _ _)

end

end CrudScaffold
