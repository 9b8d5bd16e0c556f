import CrudScaffold.Proofs.Files.Tree
import CrudScaffold.Proofs.Text.Intercalate

/-!
# What actions do to a tree

An action on a path that is not refused concerns the location that the path leads to. Making a
directory needs a free location and writing a file one that is no directory, so whatever is done a
tree grows and stays sound. A path without double dots leads to one location only, its place.
-/

namespace CrudScaffold

namespace Path

/-- What holds a path has all of its steps but the last. -/
@[simp] theorem parent_steps (path : Path) : path.parent.steps = path.steps.dropLast := rfl

/-- Whether a path is another one, or leads to a directory on the way to it. -/
def OnWayTo (above path : Path) : Prop := above.root = path.root ∧ above.steps <+: path.steps

/-- A path is on the way to itself. -/
theorem onWayTo_refl (path : Path) : path.OnWayTo path := ⟨rfl, List.prefix_refl _⟩

/-- What is on the way to the directory of a path is on the way to the path. -/
theorem OnWayTo.of_parent {above path : Path} (way : above.OnWayTo path.parent) :
    above.OnWayTo path :=
  ⟨way.1, way.2.trans (List.dropLast_prefix _)⟩

/-- A path other than the working directory is written as its root and its steps. -/
theorem toList_text (path : Path) (named : path.root ≠ .relative ∨ path.steps ≠ []) :
    path.text.toList =
      path.root.text.toList ++ ['/'].intercalate (path.steps.map String.toList) := by
  unfold text
  split
  next relative none => simp [relative, none] at named
  · rw [String.toList_append, String.toList_intercalate]
    rfl

/-- A path is not written shorter than what holds it, and with the same characters, unless that is
the working directory. -/
theorem exists_text_parent {path : Path} (proper : path.steps ≠ []) :
    (∃ back, path.text.toList = path.parent.text.toList ++ back) ∨
      path.parent.text = "." ∧ path.text.toList ≠ [] := by
  obtain ⟨front, last, steps⟩ := List.eq_nil_or_concat path.steps |>.resolve_left proper
  have valid : last ≠ "" := by
    have step := path.steps_valid last (by simp [steps])
    intro empty
    rw [empty] at step
    contradiction
  have whole := toList_text path (.inr proper)
  rw [List.concat_eq_append] at steps
  have parentSteps : path.parent.steps = front := by
    rw [parent_steps, steps, List.dropLast_concat]
  rw [steps, List.map_append, List.map_singleton] at whole
  by_cases none : front = []
  · subst none
    rw [List.map_nil, List.nil_append, List.intercalate_singleton] at whole
    by_cases relative : path.root = .relative
    · refine .inr ⟨?_, ?_⟩
      · rw [text, parentSteps]
        simp [parent, relative]
      · rw [whole, ne_eq, List.append_eq_nil_iff, not_and]
        intro _ empty
        exact valid (String.toList_inj.mp empty)
    · have above := toList_text path.parent (.inl relative)
      rw [parentSteps, List.map_nil, List.intercalate_nil, List.append_nil] at above
      exact .inl ⟨last.toList, by rw [whole, above]; rfl⟩
  · have above := toList_text path.parent (.inr (by rwa [parentSteps]))
    rw [parentSteps] at above
    refine .inl ⟨'/' :: last.toList, ?_⟩
    rw [whole, above, Text.intercalate_concat (by simpa using none), List.append_assoc]
    rfl

/-- What holds a path can be asked for if the path can. -/
theorem Fits.parent {path : Path} (fits : path.Fits) (proper : path.steps ≠ []) :
    path.parent.Fits := by
  obtain ⟨noNull, short⟩ := fits
  unfold Tree.byteCount Text.encodeUtf8 at short
  rcases exists_text_parent proper with ⟨back, longer⟩ | ⟨current, -⟩
  · rw [longer] at noNull short
    rw [List.flatMap_append, List.length_append] at short
    refine ⟨fun member => noNull (List.mem_append_left _ member), ?_⟩
    unfold Tree.byteCount Text.encodeUtf8
    omega
  · constructor
    · rw [current]
      decide
    · rw [current]
      decide

end Path

namespace Tree

variable {tree after : Tree} {path : Path} {location : Location}

/-! ### Actions that are not refused -/

/-- Something stands at a path if the path leads to it. -/
theorem status_eq_ok_iff {kind : EntryKind} :
    tree.status path = .ok kind ↔
      ∃ location, tree.locate path = .ok location ∧ tree.kind? location = some kind := by
  unfold status kind?
  cases tree.locate path with
  | error reason => simp
  | ok location =>
    simp only [Except.ok.injEq, exists_eq_left']
    cases tree.entry? location <;> simp

/-- A file is read if the path leads to it. -/
theorem read_eq_ok_iff {content : List UInt8} :
    tree.read path = .ok content ↔
      ∃ location, tree.locate path = .ok location ∧
        tree.entry? location = some (.file content) := by
  unfold read
  cases tree.locate path with
  | error reason => simp
  | ok location =>
    simp only [Except.ok.injEq, exists_eq_left']
    cases tree.entry? location with
    | none => simp
    | some entry => cases entry <;> simp

/-- A directory is made at a free location. -/
theorem makeDirectory_eq_ok_iff :
    tree.makeDirectory path = .ok after ↔
      ∃ location, tree.locate path = .ok location ∧ tree.entry? location = none ∧
        after = tree.put location .directory := by
  unfold makeDirectory
  cases tree.locate path with
  | error reason => simp
  | ok location =>
    simp only [Except.ok.injEq, exists_eq_left']
    cases tree.entry? location <;> simp [eq_comm]

/-- A file is written at a location where no directory stands. -/
theorem write_eq_ok_iff {content : List UInt8} :
    tree.write path content = .ok after ↔
      ∃ location, tree.locate path = .ok location ∧
        tree.entry? location ≠ some .directory ∧
        after = tree.put location (.file content) := by
  unfold write
  cases tree.locate path with
  | error reason => simp
  | ok location =>
    simp only [Except.ok.injEq, exists_eq_left']
    cases tree.entry? location with
    | none => simp [eq_comm]
    | some entry => cases entry <;> simp [eq_comm]

/-- What stood at a path still stands there when a tree has grown. -/
theorem Grows.status {large : Tree} (grows : tree.Grows large) {kind : EntryKind}
    (there : tree.status path = .ok kind) : large.status path = .ok kind := by
  obtain ⟨location, located, same⟩ := status_eq_ok_iff.mp there
  exact status_eq_ok_iff.mpr ⟨location, grows.locate located, grows.kind _ _ same⟩

/-- A tree grows by a directory. -/
theorem grows_of_makeDirectory (made : tree.makeDirectory path = .ok after) :
    tree.Grows after := by
  obtain ⟨location, -, free, rfl⟩ := makeDirectory_eq_ok_iff.mp made
  exact grows_put fun kind there => by simp [kind?, free] at there

/-- A file that is written takes the place of nothing but a file. -/
theorem kind_eq_file {kind : EntryKind} (noDirectory : tree.entry? location ≠ some .directory)
    (there : tree.kind? location = some kind) : kind = .file := by
  cases kind with
  | file => rfl
  | directory => exact absurd (kind?_eq_directory_iff.mp there) noDirectory

/-- A tree grows by a file. -/
theorem grows_of_write {content : List UInt8} (written : tree.write path content = .ok after) :
    tree.Grows after := by
  obtain ⟨location, -, noDirectory, rfl⟩ := write_eq_ok_iff.mp written
  exact grows_put fun kind there => kind_eq_file noDirectory there

/-- A file can be read where it was written. -/
theorem read_of_write {content : List UInt8}
    (wrote : tree.write path content = .ok after) : after.read path = .ok content := by
  obtain ⟨location, located, noDirectory, rfl⟩ := write_eq_ok_iff.mp wrote
  have proper : location ≠ [] := by
    rintro rfl
    exact noDirectory (entry?_nil tree)
  exact read_eq_ok_iff.mpr ⟨location, (grows_of_write wrote).locate located,
    entry?_put_self tree proper _⟩

/-- What can be read stands at the path. -/
theorem status_of_read {content : List UInt8}
    (read : tree.read path = .ok content) : tree.status path = .ok .file := by
  obtain ⟨location, located, file⟩ := read_eq_ok_iff.mp read
  exact status_eq_ok_iff.mpr ⟨location, located, kind?_eq_file_iff.mpr ⟨content, file⟩⟩

/-! ### What holds a path -/

/-- A path leads somewhere only if what holds it is a directory. -/
theorem exists_parent_of_locate (located : tree.locate path = .ok location)
    (proper : path.steps ≠ []) :
    ∃ parent, tree.locate path.parent = .ok parent ∧ tree.entry? parent = some .directory ∧
      (location = parent.dropLast ∨ ∃ step, location = parent ++ [step]) := by
  obtain ⟨fits, followed⟩ := locate_eq_ok_iff.mp located
  obtain ⟨front, last, steps⟩ := List.eq_nil_or_concat path.steps |>.resolve_left proper
  rw [List.concat_eq_append] at steps
  have above : path.parent.steps = front := by
    rw [Path.parent_steps, steps, List.dropLast_concat]
  rw [steps] at followed
  obtain ⟨parent, toParent, directory, either⟩ := follow_concat_eq_ok followed
  refine ⟨parent, locate_eq_ok_iff.mpr ⟨fits.parent proper, ?_⟩, directory, ?_⟩
  · rw [above]
    exact toParent
  · exact either.imp id fun below => ⟨last, below⟩

/-- In a sound tree a path that leads to no directory leads into one. -/
theorem Sound.parent_of_locate (sound : tree.Sound) (located : tree.locate path = .ok location)
    (noDirectory : tree.entry? location ≠ some .directory) :
    tree.entry? location.dropLast = some .directory := by
  by_cases none : path.steps = []
  · obtain ⟨-, followed⟩ := locate_eq_ok_iff.mp located
    rw [none] at followed
    have start : tree.start path = location := Except.ok.inj followed
    rw [← start, Tree.start] at noDirectory
    split at noDirectory
    · exact absurd sound.base noDirectory
    · exact absurd rfl noDirectory
  · obtain ⟨parent, -, directory, rfl | ⟨step, rfl⟩⟩ := exists_parent_of_locate located none
    · exact absurd (sound.parent _ _ directory) noDirectory
    · rwa [List.dropLast_concat]

/-- A sound tree stays sound when a directory is made. -/
theorem Sound.makeDirectory (sound : tree.Sound) (made : tree.makeDirectory path = .ok after) :
    after.Sound := by
  obtain ⟨location, located, free, rfl⟩ := makeDirectory_eq_ok_iff.mp made
  refine sound.put (sound.parent_of_locate located (by simp [free])) fun kind there => ?_
  simp [kind?, free] at there

/-- A sound tree stays sound when a file is written. -/
theorem Sound.write (sound : tree.Sound) {content : List UInt8}
    (written : tree.write path content = .ok after) : after.Sound := by
  obtain ⟨location, located, noDirectory, rfl⟩ := write_eq_ok_iff.mp written
  exact sound.put (sound.parent_of_locate located noDirectory) fun kind there =>
    kind_eq_file noDirectory there

/-! ### Places -/

/-- The location that a path spells. -/
def place (tree : Tree) (path : Path) : Location := tree.start path ++ path.steps

/-- A path spells the same location when a tree has grown. -/
theorem Grows.place {large : Tree} (grows : tree.Grows large) (path : Path) :
    large.place path = tree.place path := by
  rw [Tree.place, Tree.place, grows.start]

/-- A path without double dots leads to no other location than the one that it spells. -/
theorem eq_place_of_locate (plain : ".." ∉ path.steps) (located : tree.locate path = .ok location) :
    location = tree.place path :=
  eq_append_of_follow plain (locate_eq_ok_iff.mp located).2

/-- In a sound tree nothing stands at the place of a path without double dots where something is
missing on the way. -/
theorem Sound.free_of_missing (sound : tree.Sound) (plain : ".." ∉ path.steps)
    (missing : tree.locate path = .error .missing) : tree.entry? (tree.place path) = none := by
  have followed : tree.follow (tree.start path) path.steps = .error .missing := by
    unfold locate at missing
    split at missing
    · contradiction
    · split at missing
      · contradiction
      · exact missing
  obtain ⟨front, back, parts, proper, free⟩ := exists_of_follow_eq_missing plain followed
  cases there : tree.entry? (tree.place path) with
  | none => rfl
  | some entry =>
    rw [place, parts, ← List.append_assoc] at there
    have directory := sound.directory there proper
    rw [directory] at free
    contradiction

/-- In a sound tree that grows, a path without double dots that leads somewhere in the end and had
nothing at its end before had a free place. -/
theorem Sound.free_of_absent {large : Tree} (sound : tree.Sound) (plain : ".." ∉ path.steps)
    (grows : tree.Grows large) (located : large.locate path = .ok location)
    (absent : ∀ kind, tree.status path ≠ .ok kind) : tree.entry? (tree.place path) = none := by
  rcases grows.locate_before located with before | missing
  · have spelled := eq_place_of_locate plain before
    cases there : tree.entry? (tree.place path) with
    | none => rfl
    | some entry =>
      refine absurd (status_eq_ok_iff.mpr ⟨location, before, ?_⟩) (absent entry.kind)
      rw [kind?, spelled, there]
      rfl
  · exact sound.free_of_missing plain missing

end Tree

end CrudScaffold
