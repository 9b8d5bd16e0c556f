import CrudScaffold.Proofs.Script.Files

/-!
# Runs that write over nothing

A rule for the actions of a run: a file is written only where nothing stands, one path aside. In a
run that keeps to it every other file that was there keeps its bytes, however the run ends.
-/

namespace CrudScaffold

/-- An action that writes over nothing, one path aside. -/
def Tree.Spares (aside : Path) (tree : Tree) : Action → Prop
  | .write path _ => path = aside ∨ ∀ kind, tree.status path ≠ .ok kind
  | _ => True

/-- An action that writes no file writes over nothing. -/
theorem Tree.spares_of_not_isWrite {action : Action} (noWrite : action.isWrite = false)
    (aside : Path) (tree : Tree) : tree.Spares aside action := by
  cases action with
  | write path content => contradiction
  | _ => trivial

namespace Script

variable {aside : Path} {α : Type} {script : Script α} {fails : Failure → Prop}

/-- A script that writes no file writes over nothing. -/
theorem Within.spares (within : script.Within (·.isWrite = false) fails) (world : World) :
    script.Always (Tree.Spares aside) world :=
  within.always (fun _ noWrite tree => Tree.spares_of_not_isWrite noWrite aside tree) world

/-- A script that only looks writes over nothing. -/
theorem Within.spares_of_isLook (within : script.Within (·.isLook) fails) (world : World) :
    script.Always (Tree.Spares aside) world :=
  (within.mono (fun _ => Action.isWrite_of_isLook) fun _ same => same).spares world

/-- Writing a text writes over nothing if nothing is there, or only the file that may be. -/
theorem spares_writeText {path : Path} {world : World}
    (spares : path = aside ∨ ∀ kind, world.tree.status path ≠ .ok kind) (content : String) :
    (writeText path content).Always (Tree.Spares aside) world := by
  refine ⟨spares, ?_⟩
  generalize (world.answer (.write path (Text.encodeUtf8 content.toList))).1 = answer
  cases answer <;> trivial

end Script

section

variable {aside : Path} {location : Location} {content : List UInt8}

/-- An action that writes over nothing leaves a file elsewhere as it is. -/
theorem World.entry?_answer_of_spares {world : World} {action : Action}
    (plain : ".." ∉ aside.steps) (spares : world.tree.Spares aside action)
    (elsewhere : location ≠ world.tree.place aside)
    (file : world.tree.entry? location = some (.file content)) :
    (world.answer action).2.tree.entry? location = some (.file content) := by
  cases action with
  | makeDirectory path =>
    cases made : world.tree.makeDirectory path with
    | error reason => simpa only [answer, made, change] using file
    | ok tree =>
      obtain ⟨free, -, none, rfl⟩ := Tree.makeDirectory_eq_ok_iff.mp made
      have other : location ≠ free := by
        rintro rfl
        rw [none] at file
        contradiction
      simpa only [answer, made, change, Tree.entry?_put_of_ne _ other] using file
  | write path written =>
    cases wrote : world.tree.write path written with
    | error reason => simpa only [answer, wrote, change] using file
    | ok tree =>
      obtain ⟨target, located, -, rfl⟩ := Tree.write_eq_ok_iff.mp wrote
      have other : location ≠ target := by
        rintro rfl
        rcases spares with rfl | absent
        · exact elsewhere (Tree.eq_place_of_locate plain located)
        · refine absent .file (Tree.status_eq_ok_iff.mpr ⟨location, located, ?_⟩)
          exact Tree.kind?_eq_file_iff.mpr ⟨content, file⟩
      simpa only [answer, wrote, change, Tree.entry?_put_of_ne _ other] using file
  | readLine =>
    simp only [answer, nextLine]
    split <;> exact file
  | status _ | read _ | print _ | readRest => exact file

/-- A run that writes over nothing leaves a file elsewhere as it is. -/
theorem Script.entry?_run_of_spares {α : Type} {script : Script α} {world : World}
    (plain : ".." ∉ aside.steps) (spares : script.Always (Tree.Spares aside) world)
    (elsewhere : location ≠ world.tree.place aside)
    (file : world.tree.entry? location = some (.file content)) :
    (script.run world).2.tree.entry? location = some (.file content) := by
  induction script generalizing world with
  | done value => exact file
  | fail failure => exact file
  | act action next ih =>
    have place := (world.grows_answer action).place aside
    exact ih _ spares.2 (place ▸ elsewhere)
      (World.entry?_answer_of_spares plain spares.1 elsewhere file)

end

end CrudScaffold
