import CrudScaffold.Proofs.Script.Directories
import CrudScaffold.Proofs.Script.Stop

/-!
# Making directories again

Directories are made from the top down, so a run that was broken off has left some of the upper ones
behind. Making the directories again then goes on from there and ends with the same tree: either
something is still missing on the way, and what holds the directory is made again first, or nothing
is, and then all that should hold it has been made. A text is written at once.
-/

namespace CrudScaffold.Script

variable {world after : World} {path : Path} {ifMissing : Script Unit} {value : Unit}
  {tree before last : Tree}

/-! ### One directory -/

/-- Where something stands no directory is made. -/
theorem makeDirectory_of_status {kind : EntryKind} (there : tree.status path = .ok kind) :
    tree.makeDirectory path = .error .alreadyThere := by
  obtain ⟨location, located, stands⟩ := Tree.status_eq_ok_iff.mp there
  obtain ⟨entry, found, -⟩ := Option.map_eq_some_iff.mp stands
  unfold Tree.makeDirectory
  rw [located]
  dsimp only
  rw [found]

/-- A directory that is made is there. -/
theorem status_of_makeDirectory (made : before.makeDirectory path = .ok tree) :
    tree.status path = .ok .directory := by
  obtain ⟨location, located, free, rfl⟩ := Tree.makeDirectory_eq_ok_iff.mp made
  have proper : location ≠ [] := by
    rintro rfl
    exact absurd free (by simp)
  refine Tree.status_eq_ok_iff.mpr
    ⟨location, (Tree.grows_of_makeDirectory made).locate located, ?_⟩
  rw [Tree.kind?, Tree.entry?_put_self before proper]
  rfl

/-- A directory that can be made is made, whatever is given for other cases. -/
theorem leads_makeDirectoryOr_of_makeDirectory (ifMissing : Script Unit)
    (made : before.makeDirectory path = .ok tree) :
    (makeDirectoryOr ifMissing path).Leads before tree := by
  rintro world rfl
  exact ⟨(), _, run_makeDirectoryOr_of_ok ifMissing made, rfl⟩

/-- A directory that is there is left as it is. -/
theorem leads_makeDirectoryOr_of_directory (ifMissing : Script Unit)
    (there : tree.status path = .ok .directory) :
    (makeDirectoryOr ifMissing path).Leads tree tree := by
  rintro world rfl
  refine ⟨(), world, ?_, rfl⟩
  rw [run_makeDirectoryOr_of_other ifMissing (makeDirectory_of_status there) (by decide)]
  exact run_bind_of_ok (run_isDirectory_of_ok there) _

/-- A directory is confirmed only where it is. -/
theorem of_run_confirm {reason : FileRefusal}
    (ran : (confirm reason path).run world = (.ok value, after)) :
    world.tree.status path = .ok .directory := by
  obtain ⟨there, middle, asked, rest⟩ := exists_of_run_bind ran
  obtain ⟨kind, last, question, told⟩ := exists_of_run_bind asked
  obtain ⟨rfl, answer⟩ := of_run_kindAt question
  obtain ⟨same, rfl⟩ := Prod.mk.inj told
  cases there with
  | false => exact absurd (Prod.mk.inj rest).1 (by simp)
  | true => exact (answer .directory).mp (beq_iff_eq.mp (Except.ok.inj same))

/-- A run that makes a directory makes it, or finds it there, or does what is given where one is
missing. -/
theorem of_run_makeDirectoryOr
    (ran : (makeDirectoryOr ifMissing path).run world = (.ok value, after)) :
    world.tree.makeDirectory path = .ok after.tree ∨
      world.tree.status path = .ok .directory ∧ after.tree = world.tree ∨
      world.tree.makeDirectory path = .error .missing ∧
        ifMissing.run world = (.ok value, after) := by
  cases made : world.tree.makeDirectory path with
  | ok tree =>
    rw [run_makeDirectoryOr_of_ok ifMissing made] at ran
    obtain ⟨-, rfl⟩ := Prod.mk.inj ran
    exact .inl rfl
  | error reason =>
    by_cases missing : reason = .missing
    · subst missing
      rw [run_makeDirectoryOr_of_missing ifMissing made] at ran
      exact .inr (.inr ⟨rfl, ran⟩)
    · rw [run_makeDirectoryOr_of_other ifMissing made missing] at ran
      have look := (within_confirm reason path).tree_eq world
      rw [ran] at look
      exact .inr (.inl ⟨of_run_confirm ran, look⟩)

/-- What a run that makes a directory passes: where it starts, the directory, or what is passed
where one is missing. -/
theorem passes_makeDirectoryOr (passes : (makeDirectoryOr ifMissing path).Passes world tree) :
    tree = world.tree ∨ world.tree.makeDirectory path = .ok tree ∨
      world.tree.makeDirectory path = .error .missing ∧ ifMissing.Passes world tree := by
  cases passes with
  | here _ _ => exact .inl rfl
  | later rest =>
    simp only [World.answer] at rest
    cases made : world.tree.makeDirectory path with
    | ok tree =>
      rw [made] at rest
      cases rest with
      | here _ _ => exact .inr (.inl rfl)
    | error reason =>
      rw [made] at rest
      by_cases missing : reason = .missing
      · subst missing
        exact .inr (.inr ⟨rfl, rest⟩)
      · have looks : (confirm reason path).Passes world tree := by
          cases reason with
          | missing => contradiction
          | _ => exact rest
        exact .inl ((within_confirm reason path).passes looks)

/-- Unless something is missing on the way, what is given for that does not matter. -/
theorem run_makeDirectoryOr_congr (other : Script Unit)
    (present : world.tree.makeDirectory path ≠ .error .missing) :
    (makeDirectoryOr ifMissing path).run world = (makeDirectoryOr other path).run world := by
  cases made : world.tree.makeDirectory path with
  | ok tree => rw [run_makeDirectoryOr_of_ok _ made, run_makeDirectoryOr_of_ok _ made]
  | error reason =>
    have differs : reason ≠ .missing := fun same => present (by rw [made, same])
    rw [run_makeDirectoryOr_of_other _ made differs, run_makeDirectoryOr_of_other _ made differs]

/-- A directory that was made in one that is there is made again by whatever would make it. -/
theorem leads_makeDirectoryOr_refuse
    (ran : (makeDirectoryOr (refuse .missing path) path).run world = (.ok value, after)) :
    (makeDirectoryOr (refuse .missing path) path).Leads world.tree after.tree ∧
      after.tree.status path = .ok .directory := by
  rcases of_run_makeDirectoryOr ran with made | ⟨there, same⟩ | ⟨-, failed⟩
  · exact ⟨leads_makeDirectoryOr_of_makeDirectory _ made, status_of_makeDirectory made⟩
  · rw [same]
    exact ⟨leads_makeDirectoryOr_of_directory _ there, there⟩
  · exact absurd (Prod.mk.inj failed).1 (by simp)

/-- A directory is made again from every tree that a run which makes it passes, if that is so where
one is missing. -/
theorem leads_makeDirectoryOr
    (ran : (makeDirectoryOr ifMissing path).run world = (.ok value, after))
    (passes : (makeDirectoryOr ifMissing path).Passes world tree)
    (otherwise : ifMissing.run world = (.ok value, after) → ifMissing.Passes world tree →
      (makeDirectoryOr ifMissing path).Leads tree after.tree) :
    (makeDirectoryOr ifMissing path).Leads tree after.tree := by
  rcases of_run_makeDirectoryOr ran with made | ⟨there, same⟩ | ⟨missing, failed⟩
  · rcases passes_makeDirectoryOr passes with rfl | again | ⟨refused, -⟩
    · exact leads_makeDirectoryOr_of_makeDirectory _ made
    · obtain rfl := Except.ok.inj (made.symm.trans again)
      exact leads_makeDirectoryOr_of_directory _ (status_of_makeDirectory made)
    · exact absurd (made.symm.trans refused) (by simp)
  · have refused := makeDirectory_of_status there
    rcases passes_makeDirectoryOr passes with rfl | again | ⟨missing, -⟩
    · rw [same]
      exact leads_makeDirectoryOr_of_directory _ there
    · exact absurd (refused.symm.trans again) (by simp)
    · exact absurd (refused.symm.trans missing) (by simp)
  · rcases passes_makeDirectoryOr passes with rfl | again | ⟨-, passing⟩
    · exact otherwise failed (.here _ world)
    · exact absurd (missing.symm.trans again) (by simp)
    · exact otherwise failed passing

/-! ### All that is missing -/

/-- A directory that is there is left as it is, with those above it. -/
theorem leads_makeDirectoriesWithin_of_directory (count : Nat)
    (there : tree.status path = .ok .directory) :
    (makeDirectoriesWithin count path).Leads tree tree := by
  cases count <;> exact leads_makeDirectoryOr_of_directory _ there

/-- A directory that was made is there. -/
theorem status_of_run_makeDirectoriesWithin {count : Nat}
    (ran : (makeDirectoriesWithin count path).run world = (.ok value, after)) :
    after.tree.status path = .ok .directory := by
  cases count with
  | zero => exact (leads_makeDirectoryOr_refuse ran).2
  | succ count =>
    rcases of_run_makeDirectoryOr ran with made | ⟨there, same⟩ | ⟨-, both⟩
    · exact status_of_makeDirectory made
    · rwa [same]
    · obtain ⟨first, middle, -, second⟩ := exists_of_run_bind both
      exact (leads_makeDirectoryOr_refuse second).2

/-- A directory is made again after what holds it, though it is tried first: if that is refused for
another reason than that something is missing, what holds it has been made already. -/
theorem leads_makeDirectoriesWithin_succ {count : Nat} {middle : Tree}
    (proper : path.steps ≠ []) (grows : before.Grows last)
    (above : (makeDirectoriesWithin count path.parent).Leads before middle)
    (here : (makeDirectoryOr (refuse .missing path) path).Leads middle last)
    (there : last.status path = .ok .directory) :
    (makeDirectoriesWithin (count + 1) path).Leads before last := by
  rintro world rfl
  by_cases missing : world.tree.makeDirectory path = .error .missing
  · rw [makeDirectoriesWithin, run_makeDirectoryOr_of_missing _ missing]
    exact above.bind (fun _ => here) world rfl
  · have located : ∃ location, world.tree.locate path = .ok location := by
      obtain ⟨location, located, -⟩ := Tree.status_eq_ok_iff.mp there
      refine (grows.locate_before located).elim (fun found => ⟨location, found⟩) fun refused => ?_
      exact absurd (by rw [Tree.makeDirectory, refused]) missing
    obtain ⟨location, located⟩ := located
    obtain ⟨parent, reached, directory, -⟩ := Tree.exists_parent_of_locate located proper
    have holder : world.tree.status path.parent = .ok .directory :=
      Tree.status_eq_ok_iff.mpr ⟨parent, reached, Tree.kind?_eq_directory_iff.mpr directory⟩
    obtain rfl := (leads_makeDirectoriesWithin_of_directory count holder).unique above
    rw [makeDirectoriesWithin, run_makeDirectoryOr_congr _ missing]
    exact here world rfl

/-- Directories are made again from every tree that a run which makes them passes. -/
theorem leads_makeDirectoriesWithin {count : Nat} (enough : count ≤ path.steps.length)
    (ran : (makeDirectoriesWithin count path).run world = (.ok value, after))
    (passes : (makeDirectoriesWithin count path).Passes world tree) :
    (makeDirectoriesWithin count path).Leads tree after.tree := by
  induction count generalizing world path value after tree with
  | zero =>
    refine leads_makeDirectoryOr ran passes fun failed => ?_
    exact absurd (Prod.mk.inj failed).1 (by simp)
  | succ count ih =>
    refine leads_makeDirectoryOr ran passes fun both passing => ?_
    obtain ⟨first, middle, front, back⟩ := exists_of_run_bind both
    obtain ⟨here, there⟩ := leads_makeDirectoryOr_refuse back
    have proper : path.steps ≠ [] := List.ne_nil_of_length_pos (by omega)
    have above : count ≤ path.parent.steps.length := by
      rw [Path.parent_steps, List.length_dropLast]
      omega
    have grows := passes.grows.2
    rw [ran] at grows
    rcases passing.bind_cases with inFront | ⟨same, between, again, inBack⟩
    · exact leads_makeDirectoriesWithin_succ proper grows (ih above front inFront) here there
    · rw [front] at again
      obtain ⟨-, rfl⟩ := Prod.mk.inj again
      have holder := leads_makeDirectoriesWithin_of_directory count
        (status_of_run_makeDirectoriesWithin front)
      rcases passes_makeDirectoryOr inBack with rfl | made | ⟨-, failed⟩
      · exact leads_makeDirectoriesWithin_succ proper grows holder here there
      · obtain rfl := here.unique (leads_makeDirectoryOr_of_makeDirectory _ made)
        exact leads_makeDirectoryOr_of_directory _ there
      · cases failed with
        | here _ _ => exact leads_makeDirectoriesWithin_succ proper grows holder here there

/-! ### Texts -/

/-- A run that writes a text passes no tree but the first and the last. -/
theorem passes_writeText {content : String} (passes : (writeText path content).Passes world tree) :
    tree = world.tree ∨ tree = ((writeText path content).run world).2.tree := by
  cases passes with
  | here _ _ => exact .inl rfl
  | later rest =>
    rw [writeText, run]
    generalize world.answer (.write path (Text.encodeUtf8 content.toList)) = answered at rest
    obtain ⟨answer, next⟩ := answered
    cases answer <;> cases rest <;> exact .inr rfl

/-- A text that was written is written the same way whatever is on the console. -/
theorem leads_writeText {content : String}
    (ran : (writeText path content).run world = (.ok value, after)) :
    (writeText path content).Leads world.tree after.tree := by
  obtain ⟨location, located, noDirectory, rfl⟩ := run_writeText_eq_ok_iff.mp ran
  intro other start
  rw [← start] at located noDirectory
  refine ⟨(), _, run_writeText_eq_ok_iff.mpr ⟨location, located, noDirectory, rfl⟩, ?_⟩
  rw [World.withText, World.withText, start]

/-- A run that writes a text where directories may be missing passes what making them passes, and
the last tree. -/
theorem passes_writeTextWithin {content : String}
    (ran : (writeTextWithin path content).run world = (.ok value, after))
    (passes : (writeTextWithin path content).Passes world tree) :
    (makeDirectories path.parent).Passes world tree ∨ tree = after.tree := by
  rcases passes.bind_cases with making | ⟨made, middle, making, writing⟩
  · exact .inl making
  rw [writeTextWithin, run_bind_of_ok making] at ran
  rcases passes_writeText writing with rfl | rfl
  · have last := passes_run (makeDirectories path.parent) world
    rw [making] at last
    exact .inl last
  · rw [ran]
    exact .inr rfl

/-- While the directories are made, writing the text leads to the same tree. -/
theorem leads_writeTextWithin {content : String}
    (ran : (writeTextWithin path content).run world = (.ok value, after))
    (passes : (makeDirectories path.parent).Passes world tree) :
    (writeTextWithin path content).Leads tree after.tree := by
  obtain ⟨made, middle, making, writing⟩ := exists_of_run_bind ran
  exact (leads_makeDirectoriesWithin (Nat.le_refl _) making passes).bind fun _ =>
    leads_writeText writing

end CrudScaffold.Script
