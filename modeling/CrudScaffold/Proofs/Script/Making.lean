import CrudScaffold.Proofs.Files.Resolve
import CrudScaffold.Proofs.Script.Remaking
import CrudScaffold.Proofs.Text.Utf8

/-!
# Where texts can be written

Writing a text with the directories that should hold it succeeds where nothing stands in the way: no
file where a directory is needed, and no directory, there before or made for the purpose, where the
file should be (`Tree.Takes`). Double dots are followed as they are met, so the directories in front
of them are made too. The text is then read as it was written, but for its line ends.
-/

namespace CrudScaffold

namespace Tree

/-- A path along which directories can be made: an operating system takes its names, and no file
stands on the way. -/
structure Open (tree : Tree) (path : Path) : Prop where
  /-- It can be asked for. -/
  fits : path.Fits
  /-- No name is too long. -/
  names : ∀ step ∈ path.steps, byteCount step ≤ nameLimit
  /-- No file stands on the way, nor at its end. -/
  way : ∀ front, front <+: path.steps →
    tree.kind? (Path.walk (tree.start path) front) ≠ some .file

/-- A path at which a file can be put. -/
structure Takes (tree : Tree) (path : Path) : Prop where
  /-- It can be asked for. -/
  fits : path.Fits
  /-- No name is too long. -/
  names : ∀ step ∈ path.steps, byteCount step ≤ nameLimit
  /-- No file stands on the way. -/
  way : ∀ front, front <+: path.parent.steps →
    tree.kind? (Path.walk (tree.start path) front) ≠ some .file
  /-- The way does not lead over the end. -/
  apart : ∀ front, front <+: path.parent.steps →
    Path.walk (tree.start path) front ≠ tree.resolved path
  /-- No directory stands at the end. -/
  target : tree.entry? (tree.resolved path) ≠ some .directory

variable {tree after : Tree} {path : Path}

/-- A file is put at a path with steps. -/
theorem Takes.proper (takes : tree.Takes path) : path.steps ≠ [] := by
  intro none
  refine takes.apart [] List.nil_prefix ?_
  rw [resolved, none]

/-- Directories can be made along what holds the path. -/
theorem Takes.parent (takes : tree.Takes path) : tree.Open path.parent :=
  ⟨takes.fits.parent takes.proper,
    fun step member => takes.names step ((List.dropLast_sublist path.steps).mem member),
    takes.way⟩

/-- Directories can be made along what holds a path if they can be along the path. -/
theorem Open.parent (opened : tree.Open path) (proper : path.steps ≠ []) :
    tree.Open path.parent :=
  ⟨opened.fits.parent proper,
    fun step member => opened.names step ((List.dropLast_sublist path.steps).mem member),
    fun front within => opened.way front (within.trans (List.dropLast_prefix _))⟩

/-- Where no file stands in front of a step, steps lead where they are walked, or something is
missing on the way. -/
theorem follow_of_open {here : Location} {steps : List String}
    (names : ∀ step ∈ steps, byteCount step ≤ nameLimit)
    (way : ∀ front, front <+: steps → tree.kind? (Path.walk here front) ≠ some .file) :
    tree.follow here steps = .ok (Path.walk here steps) ∨
      tree.follow here steps = .error .missing := by
  induction steps generalizing here with
  | nil => exact .inl rfl
  | cons step steps ih =>
    obtain ⟨short, others⟩ := List.forall_mem_cons.mp names
    have later (front : List String) (within : front <+: steps) :
        tree.kind? (Path.walk (Path.go here step) front) ≠ some .file :=
      way (step :: front) ((List.prefix_cons_inj step).mpr within)
    have rest := ih others later
    unfold follow
    cases entry : tree.entry? here with
    | none => exact .inr rfl
    | some held =>
      cases held with
      | file content =>
        exact absurd (kind?_eq_file_iff.mpr ⟨content, entry⟩) (way [] List.nil_prefix)
      | directory =>
        change (_ = Except.ok (Path.walk (Path.go here step) steps)) ∨ _
        by_cases back : step = ".."
        · simp only [Path.go, if_pos back] at rest ⊢
          exact rest
        · simp only [Path.go, if_neg back, if_neg (Nat.not_lt.mpr short)] at rest ⊢
          exact rest

/-- Where directories can be made a directory is made, or it is there, or something is missing on
the way. -/
theorem Open.makeDirectory_cases (opened : tree.Open path) :
    tree.makeDirectory path = .ok (tree.put (tree.resolved path) .directory) ∨
      tree.status path = .ok .directory ∨ tree.makeDirectory path = .error .missing := by
  rcases follow_of_open opened.names opened.way with followed | missing
  · have located : tree.locate path = .ok (tree.resolved path) :=
      locate_eq_ok_iff.mpr ⟨opened.fits, followed⟩
    cases entry : tree.entry? (tree.resolved path) with
    | none => exact .inl (makeDirectory_eq_ok_iff.mpr ⟨_, located, entry, rfl⟩)
    | some held =>
      cases held with
      | file content =>
        exact absurd (kind?_eq_file_iff.mpr ⟨content, entry⟩) (opened.way _ (List.prefix_refl _))
      | directory =>
        exact .inr (.inl (status_eq_ok_iff.mpr ⟨_, located, kind?_eq_directory_iff.mpr entry⟩))
  · refine .inr (.inr ?_)
    rw [makeDirectory, locate_of_fits opened.fits, missing]

/-- The place where a path starts is not missing. -/
theorem Sound.steps_ne_nil_of_missing (sound : tree.Sound) (fits : path.Fits)
    (missing : tree.makeDirectory path = .error .missing) : path.steps ≠ [] := by
  intro none
  have here : tree.entry? (tree.start path) = some .directory := by
    unfold start
    split
    · exact sound.base
    · exact entry?_nil tree
  rw [Tree.makeDirectory, locate_of_fits fits, none] at missing
  simp only [follow, here] at missing
  exact absurd (Except.error.inj missing) (by decide)

/-- A path leads somewhere if what holds it is a directory. -/
theorem exists_locate_of_parent (fits : path.Fits) (proper : path.steps ≠ [])
    (names : ∀ step ∈ path.steps, byteCount step ≤ nameLimit)
    (holder : tree.status path.parent = .ok .directory) :
    tree.locate path = .ok (tree.resolved path) := by
  obtain ⟨parent, located, directory⟩ := status_eq_ok_iff.mp holder
  obtain ⟨-, followed⟩ := locate_eq_ok_iff.mp located
  obtain ⟨front, last, steps⟩ := List.eq_nil_or_concat' path.steps |>.resolve_left proper
  have above : path.parent.steps = front := by
    rw [Path.parent_steps, steps, List.dropLast_concat]
  have short : byteCount last ≤ nameLimit := names last (by simp [steps])
  have step : tree.follow parent [last] = .ok (Path.go parent last) := by
    simp only [follow, kind?_eq_directory_iff.mp directory, Path.go,
      if_neg (Nat.not_lt.mpr short)]
    split <;> rfl
  rw [above] at followed
  have whole : tree.follow (tree.start path) path.steps = .ok (Path.go parent last) := by
    rw [steps, follow_append]
    change (tree.follow (tree.start path.parent) front).bind _ = _
    rw [followed]
    exact step
  have reached := locate_eq_ok_iff.mpr ⟨fits, whole⟩
  rw [reached, eq_resolved_of_locate reached]

/-- A tree in which directories were made along a path, where nothing stood. -/
structure Paves (path : Path) (tree after : Tree) : Prop where
  /-- The working directory is the same. -/
  base : after.base = tree.base
  /-- Only locations along the path have become directories. -/
  entry : ∀ location, after.entry? location = tree.entry? location ∨
    after.entry? location = some .directory ∧
      ∃ front, front <+: path.steps ∧ location = Path.walk (tree.start path) front

/-- Nothing was made. -/
theorem Paves.refl (path : Path) (tree : Tree) : tree.Paves path tree := ⟨rfl, fun _ => .inl rfl⟩

/-- Making what holds a path and then the path is making directories along it. -/
theorem Paves.of_parent {middle : Tree} (first : tree.Paves path.parent middle)
    (second : middle.Paves path after) : tree.Paves path after := by
  refine ⟨second.base.trans first.base, fun location => ?_⟩
  rcases second.entry location with same | ⟨made, front, within, here⟩
  · rw [same]
    refine (first.entry location).imp_right fun ⟨made, front, within, here⟩ => ⟨made, front, ?_⟩
    exact ⟨within.trans (List.dropLast_prefix _), here⟩
  · refine .inr ⟨made, front, within, ?_⟩
    rw [here, start, start, first.base]

/-- A directory at the end of a path is one along it. -/
theorem paves_put (free : tree.entry? (tree.resolved path) = none) :
    tree.Paves path (tree.put (tree.resolved path) .directory) := by
  refine ⟨rfl, fun location => ?_⟩
  by_cases here : location = tree.resolved path
  · have proper : tree.resolved path ≠ [] := by
      intro root
      rw [root] at free
      exact absurd free (by simp)
    rw [here]
    exact .inr ⟨entry?_put_self tree proper _, _, List.prefix_refl _, rfl⟩
  · exact .inl (entry?_put_of_ne tree here _)

/-- Directories do not stand in the way of further ones. -/
theorem Paves.opened {above : Path} (paves : tree.Paves above after) (opened : tree.Open path) :
    after.Open path := by
  refine ⟨opened.fits, opened.names, fun front within => ?_⟩
  have start : after.start path = tree.start path := by rw [start, start, paves.base]
  rw [start, kind?]
  rcases paves.entry (Path.walk (tree.start path) front) with same | ⟨made, -⟩
  · rw [same]
    exact opened.way front within
  · rw [made]
    decide

end Tree

namespace Script

variable {world after : World} {path : Path}

/-- Where directories can be made and nothing is missing, the directory is there afterwards. -/
theorem exists_run_makeDirectoryOr (opened : world.tree.Open path)
    (present : world.tree.makeDirectory path ≠ .error .missing) (ifMissing : Script Unit) :
    ∃ after, (makeDirectoryOr ifMissing path).run world = (.ok (), after) ∧
      world.tree.Paves path after.tree := by
  rcases opened.makeDirectory_cases with made | there | missing
  · obtain ⟨location, located, free, -⟩ := Tree.makeDirectory_eq_ok_iff.mp made
    rw [Tree.eq_resolved_of_locate located] at free
    exact ⟨_, run_makeDirectoryOr_of_ok ifMissing made, Tree.paves_put free⟩
  · obtain ⟨value, after, ran, same⟩ := leads_makeDirectoryOr_of_directory ifMissing there world rfl
    refine ⟨after, ran, ?_⟩
    rw [same]
    exact .refl path world.tree
  · exact absurd missing present

/-- Where directories can be made, they are made with all that should hold them. -/
theorem exists_run_makeDirectoriesWithin {count : Nat} (enough : path.steps.length ≤ count)
    (sound : world.tree.Sound) (opened : world.tree.Open path) :
    ∃ after, (makeDirectoriesWithin count path).run world = (.ok (), after) ∧
      world.tree.Paves path after.tree := by
  induction count generalizing world path with
  | zero =>
    refine exists_run_makeDirectoryOr opened (fun missing => ?_) _
    have proper := sound.steps_ne_nil_of_missing opened.fits missing
    exact proper (List.length_eq_zero_iff.mp (Nat.le_zero.mp enough))
  | succ count ih =>
    by_cases missing : world.tree.makeDirectory path = .error .missing
    · -- What holds the path is made first. It is a directory then, so the path leads somewhere, and
      -- the directories that were made do not stand in its way.
      have proper := sound.steps_ne_nil_of_missing opened.fits missing
      have fewer : path.parent.steps.length ≤ count := by
        rw [Path.parent_steps, List.length_dropLast]
        omega
      obtain ⟨middle, making, paved⟩ := ih fewer sound (opened.parent proper)
      have further := paved.opened opened
      have located := Tree.exists_locate_of_parent further.fits proper further.names
        (status_of_run_makeDirectoriesWithin making)
      have present : middle.tree.makeDirectory path ≠ .error .missing := by
        intro refused
        rw [Tree.makeDirectory, located] at refused
        dsimp only at refused
        split at refused
        · exact absurd (Except.error.inj refused) (by decide)
        · contradiction
      obtain ⟨after, made, last⟩ := exists_run_makeDirectoryOr further present (refuse .missing path)
      refine ⟨after, ?_, paved.of_parent last⟩
      rw [makeDirectoriesWithin, run_makeDirectoryOr_of_missing _ missing, run_bind_of_ok making,
        made]
    · exact exists_run_makeDirectoryOr opened missing _

/-- A text that was written is held as it is read. -/
theorem holds_of_run_writeText {content : String} {value : Unit}
    (ran : (writeText path content).run world = (.ok value, after)) :
    after.tree.Holds path (String.ofList (Text.unifyNewlines content.toList)) := by
  obtain ⟨location, located, noDirectory, rfl⟩ := run_writeText_eq_ok_iff.mp ran
  have written : world.tree.write path (Text.encodeUtf8 content.toList) =
      .ok (world.withText location content).tree :=
    Tree.write_eq_ok_iff.mpr ⟨location, located, noDirectory, rfl⟩
  exact Tree.holds_iff_read.mpr
    ⟨_, _, Tree.read_of_write written, Text.decodeUtf8_encodeUtf8 content.toList, rfl⟩

/-- A text is written at every path that takes a file, in directories that are made. -/
theorem exists_run_writeTextWithin (sound : world.tree.Sound) (takes : world.tree.Takes path)
    (content : String) : ∃ after, (writeTextWithin path content).run world = (.ok (), after) := by
  obtain ⟨middle, making, paved⟩ :=
    exists_run_makeDirectoriesWithin (Nat.le_refl _) sound takes.parent
  have located := Tree.exists_locate_of_parent takes.fits takes.proper takes.names
    (status_of_run_makeDirectoriesWithin making)
  have same : middle.tree.resolved path = world.tree.resolved path :=
    Tree.resolved_eq_of_base paved.base path
  have free : middle.tree.entry? (middle.tree.resolved path) ≠ some .directory := by
    rw [same]
    rcases paved.entry (world.tree.resolved path) with kept | ⟨-, front, within, here⟩
    · rw [kept]
      exact takes.target
    · exact absurd here.symm (takes.apart front within)
  have writing : (writeText path content).run middle =
      (.ok (), middle.withText (middle.tree.resolved path) content) :=
    run_writeText_eq_ok_iff.mpr ⟨_, located, free, rfl⟩
  exact ⟨_, (run_bind_of_ok making _).trans writing⟩

end Script

end CrudScaffold
