import CrudScaffold.Proofs.Script.Run
import CrudScaffold.Script.Files

/-!
# Runs of scripts on files

What the questions, readings and writings that the rest of the library uses come to in a world. A
question changes nothing and has an answer unless the path itself is refused. Writing puts a file
where no directory stands, in whose bytes the text is found again.
-/

namespace CrudScaffold

/-- A file with a text stands at a path. -/
def Tree.Holds (tree : Tree) (path : Path) (text : String) : Prop :=
  ∃ location content characters, tree.locate path = .ok location ∧
    tree.entry? location = some (.file content) ∧ Text.decodeUtf8 content = .ok characters ∧
    text = String.ofList (Text.unifyNewlines characters)

/-- A file holds the text of its bytes. -/
theorem Tree.holds_iff_read {tree : Tree} {path : Path} {text : String} :
    tree.Holds path text ↔ ∃ content characters, tree.read path = .ok content ∧
      Text.decodeUtf8 content = .ok characters ∧
      text = String.ofList (Text.unifyNewlines characters) := by
  constructor
  · rintro ⟨location, content, characters, located, file, rest⟩
    exact ⟨content, characters, Tree.read_eq_ok_iff.mpr ⟨location, located, file⟩, rest⟩
  · rintro ⟨content, characters, read, rest⟩
    obtain ⟨location, located, file⟩ := Tree.read_eq_ok_iff.mp read
    exact ⟨location, content, characters, located, file, rest⟩

/-- The text of a file is one. -/
theorem Tree.Holds.unique {tree : Tree} {path : Path} {text other : String}
    (holds : tree.Holds path text) (also : tree.Holds path other) : text = other := by
  obtain ⟨content, characters, read, decoded, rfl⟩ := Tree.holds_iff_read.mp holds
  obtain ⟨bytes, letters, found, meaning, rfl⟩ := Tree.holds_iff_read.mp also
  obtain rfl := Except.ok.inj (read.symm.trans found)
  rw [Except.ok.inj (decoded.symm.trans meaning)]

/-- A world after a text was written to a location. -/
def World.withText (world : World) (location : Location) (content : String) : World :=
  { world with tree := world.tree.put location (.file (Text.encodeUtf8 content.toList)) }

namespace Script

variable {world after : World} {path : Path}

/-! ### Questions -/

/-- What stands at a path is found. -/
theorem run_kindAt_of_ok {kind : EntryKind} (there : world.tree.status path = .ok kind) :
    (kindAt path).run world = (.ok (some kind), world) := by
  simp only [kindAt, run, World.answer, there]

/-- Where nothing stands, nothing is found. -/
theorem run_kindAt_of_absent {reason : FileRefusal}
    (refused : world.tree.status path = .error reason) (absent : reason.isAbsence) :
    (kindAt path).run world = (.ok none, world) := by
  simp only [kindAt, run, World.answer, refused, absent, if_true]

/-- An answer to the question what stands at a path is true and changes nothing. -/
theorem of_run_kindAt {answer : Option EntryKind}
    (asked : (kindAt path).run world = (.ok answer, after)) :
    after = world ∧ ∀ kind, answer = some kind ↔ world.tree.status path = .ok kind := by
  cases status : world.tree.status path with
  | ok kind =>
    rw [run_kindAt_of_ok status] at asked
    obtain ⟨same, rfl⟩ := Prod.mk.inj asked
    obtain rfl := Except.ok.inj same
    exact ⟨rfl, fun kind => by rw [Option.some.injEq, Except.ok.injEq]⟩
  | error reason =>
    by_cases absent : reason.isAbsence
    · rw [run_kindAt_of_absent status absent] at asked
      obtain ⟨same, rfl⟩ := Prod.mk.inj asked
      obtain rfl := Except.ok.inj same
      exact ⟨rfl, fun kind => by simp⟩
    · simp only [kindAt, run, World.answer, status, if_neg absent] at asked
      exact absurd (Prod.mk.inj asked).1 (by simp)

/-- Something is there exactly if it has a kind. -/
theorem of_run_isThere {there : Bool} (asked : (isThere path).run world = (.ok there, after)) :
    after = world ∧ (there = true ↔ ∃ kind, world.tree.status path = .ok kind) := by
  obtain ⟨answer, middle, question, rest⟩ := exists_of_run_bind asked
  obtain ⟨rfl, found⟩ := of_run_kindAt question
  obtain ⟨same, rfl⟩ := Prod.mk.inj rest
  obtain rfl := Except.ok.inj same
  refine ⟨rfl, ?_⟩
  rw [Option.isSome_iff_exists]
  exact exists_congr found

/-- Something that is there is found there. -/
theorem run_isThere_of_ok {kind : EntryKind} (there : world.tree.status path = .ok kind) :
    (isThere path).run world = (.ok true, world) :=
  (run_bind_of_ok (run_kindAt_of_ok there) _).trans rfl

/-- Nothing is found where nothing is. -/
theorem run_isThere_of_absent {reason : FileRefusal}
    (refused : world.tree.status path = .error reason) (absent : reason.isAbsence) :
    (isThere path).run world = (.ok false, world) :=
  (run_bind_of_ok (run_kindAt_of_absent refused absent) _).trans rfl

/-- A file is there exactly if it has the kind of one. -/
theorem of_run_isFile {there : Bool} (asked : (isFile path).run world = (.ok there, after)) :
    after = world ∧ (there = true ↔ world.tree.status path = .ok .file) := by
  obtain ⟨answer, middle, question, rest⟩ := exists_of_run_bind asked
  obtain ⟨rfl, found⟩ := of_run_kindAt question
  obtain ⟨same, rfl⟩ := Prod.mk.inj rest
  obtain rfl := Except.ok.inj same
  exact ⟨rfl, by rw [beq_iff_eq]; exact found .file⟩

/-- A file that is there is found there. -/
theorem run_isFile_of_ok (there : world.tree.status path = .ok .file) :
    (isFile path).run world = (.ok true, world) :=
  (run_bind_of_ok (run_kindAt_of_ok there) _).trans rfl

/-- A directory that is there is found there. -/
theorem run_isDirectory_of_ok (there : world.tree.status path = .ok .directory) :
    (isDirectory path).run world = (.ok true, world) :=
  (run_bind_of_ok (run_kindAt_of_ok there) _).trans rfl

/-! ### Texts -/

/-- The text that is read is that of the file. -/
theorem of_run_readText {text : String} (asked : (readText path).run world = (.ok text, after)) :
    after = world ∧ world.tree.Holds path text := by
  cases content : world.tree.read path with
  | error reason =>
    simp only [readText, run, World.answer, content, refuse] at asked
    exact absurd (Prod.mk.inj asked).1 (by simp)
  | ok bytes =>
    simp only [readText, run, World.answer, content] at asked
    cases decoded : Text.decodeUtf8 bytes with
    | error fault =>
      rw [decoded] at asked
      exact absurd (Prod.mk.inj asked).1 (by simp)
    | ok characters =>
      rw [decoded] at asked
      obtain ⟨same, rfl⟩ := Prod.mk.inj asked
      exact ⟨rfl, Tree.holds_iff_read.mpr
        ⟨bytes, characters, content, decoded, (Except.ok.inj same).symm⟩⟩

/-- The text of a file is read. -/
theorem run_readText_of_holds {text : String} (holds : world.tree.Holds path text) :
    (readText path).run world = (.ok text, world) := by
  obtain ⟨content, characters, bytes, decoded, rfl⟩ := Tree.holds_iff_read.mp holds
  simp only [readText, run, World.answer, bytes, decoded]
  rfl

/-- A text is written to a location that is no directory. -/
theorem run_writeText_eq_ok_iff {content : String} {value : Unit} :
    (writeText path content).run world = (.ok value, after) ↔
      ∃ location, world.tree.locate path = .ok location ∧
        world.tree.entry? location ≠ some .directory ∧
        after = world.withText location content := by
  cases written : world.tree.write path (Text.encodeUtf8 content.toList) with
  | error reason =>
    simp only [writeText, run, World.answer, World.change, written, refuse]
    constructor
    · exact fun same => absurd (Prod.mk.inj same).1 (by simp)
    · rintro ⟨location, located, noDirectory, -⟩
      rw [Tree.write_eq_ok_iff.mpr ⟨location, located, noDirectory, rfl⟩] at written
      contradiction
  | ok tree =>
    obtain ⟨location, located, noDirectory, rfl⟩ := Tree.write_eq_ok_iff.mp written
    simp only [writeText, run, World.answer, World.change, written]
    constructor
    · intro same
      obtain ⟨-, rfl⟩ := Prod.mk.inj same
      exact ⟨location, located, noDirectory, rfl⟩
    · rintro ⟨other, there, -, rfl⟩
      rw [located] at there
      obtain rfl := Except.ok.inj there
      rfl

/-! ### Bounds -/

variable {fails : Failure → Prop}

/-- The kind of what stands at a path is a question. -/
theorem within_kindAt (allowed : ∀ reason, fails (.file ⟨reason, path⟩)) :
    (kindAt path).Within (·.isLook) fails := by
  refine .act rfl fun answer => ?_
  cases answer with
  | ok kind => exact .done _
  | error reason =>
    dsimp only
    split
    · exact .done _
    · exact .fail (allowed _)

/-- Whether something stands at a path is a question. -/
theorem within_isThere (allowed : ∀ reason, fails (.file ⟨reason, path⟩)) :
    (isThere path).Within (·.isLook) fails :=
  (within_kindAt allowed).bind fun kind => .done kind.isSome

/-- Reading changes nothing. -/
theorem within_readText (allowed : ∀ fault, fails (.file fault))
    (encoded : ∀ fault, fails (.encoding fault)) : (readText path).Within (·.isLook) fails := by
  refine .act rfl fun answer => ?_
  cases answer with
  | ok bytes => exact (Within.ofExcept encoded _).bind fun text => .done _
  | error reason => exact .fail (allowed _)

/-- Writing writes to the path, and fails only there. -/
theorem within_writeText {paths : List Path} (member : path ∈ paths)
    (allowed : ∀ reason, fails (.file ⟨reason, path⟩)) (content : String) :
    (writeText path content).Within (Action.WritesAmong paths) fails := by
  refine .act member fun answer => ?_
  cases answer with
  | ok value => exact .done _
  | error reason => exact .fail (allowed _)

/-- Making a directory writes no file and fails only at the path, or as it fails when one is
missing. -/
theorem within_makeDirectoryOr (allowed : ∀ reason, fails (.file ⟨reason, path⟩))
    {ifMissing : Script Unit} (otherwise : ifMissing.Within (·.isWrite = false) fails) :
    (makeDirectoryOr ifMissing path).Within (·.isWrite = false) fails := by
  refine .act rfl fun answer => ?_
  split
  · exact .done _
  · exact otherwise
  · refine Within.bind ?_ fun there => ?_
    · exact ((within_kindAt allowed).mono (fun _ => Action.isWrite_of_isLook) fun _ same =>
        same).bind fun answer => .done _
    · split
      · exact .done _
      · exact .fail (allowed _)

/-- Making directories writes no file and fails only on the way to the last one. -/
theorem within_makeDirectoriesWithin {path : Path}
    (allowed : ∀ reason above, above.OnWayTo path → fails (.file ⟨reason, above⟩)) (count : Nat) :
    (makeDirectoriesWithin count path).Within (·.isWrite = false) fails := by
  induction count generalizing path with
  | zero =>
    have here : ∀ reason, fails (.file ⟨reason, path⟩) := fun reason =>
      allowed reason path path.onWayTo_refl
    exact within_makeDirectoryOr here (.fail (here _))
  | succ count ih =>
    have here : ∀ reason, fails (.file ⟨reason, path⟩) := fun reason =>
      allowed reason path path.onWayTo_refl
    have above : (makeDirectoriesWithin count path.parent).Within (·.isWrite = false) fails :=
      ih fun reason above way => allowed reason above way.of_parent
    exact within_makeDirectoryOr here
      (above.bind fun _ => within_makeDirectoryOr here (.fail (here _)))

end Script

end CrudScaffold
