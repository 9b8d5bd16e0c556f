import CrudScaffold.Files.Tree
import Mathlib.Data.List.Induction

/-!
# What stays in a tree

Actions on files put entries and never take one away. So what a path leads to stays where it is
while a tree grows, and a path that leads somewhere later was refused before, if it was, only
because something was missing.
-/

namespace CrudScaffold

namespace Path

/-- A path that an operating system takes. -/
structure Fits (path : Path) : Prop where
  /-- It holds no null character. -/
  noNull : '\x00' ∉ path.text.toList
  /-- It is not too long. -/
  short : Tree.byteCount path.text ≤ Tree.pathLimit

end Path

namespace Tree

/-- The kind of what stands at a location. -/
def kind? (tree : Tree) (location : Location) : Option EntryKind :=
  (tree.entry? location).map Entry.kind

/-- A tree as file systems have them. -/
structure Sound (tree : Tree) : Prop where
  /-- The working directory is there. -/
  base : tree.entry? tree.base = some .directory
  /-- Every entry stands in a directory. -/
  parent : ∀ location entry, tree.entry? location = some entry →
    tree.entry? location.dropLast = some .directory

/-- A tree has grown into another: whatever stood somewhere still stands there, though a file may
hold other bytes. -/
structure Grows (small large : Tree) : Prop where
  /-- The working directory is the same. -/
  base : large.base = small.base
  /-- What stood at a location is of the kind that it was. -/
  kind : ∀ location kind, small.kind? location = some kind → large.kind? location = some kind

/-- A tree has grown into itself. -/
theorem Grows.refl (tree : Tree) : tree.Grows tree := ⟨rfl, fun _ _ same => same⟩

/-- Growing twice is growing. -/
theorem Grows.trans {small middle large : Tree} (first : small.Grows middle)
    (second : middle.Grows large) : small.Grows large where
  base := second.base.trans first.base
  kind location kind same := second.kind location kind (first.kind location kind same)

/-! ### Entries -/

/-- A directory stands where the kind says so. -/
theorem kind?_eq_directory_iff {tree : Tree} {location : Location} :
    tree.kind? location = some .directory ↔ tree.entry? location = some .directory := by
  unfold kind?
  cases tree.entry? location with
  | none => simp
  | some entry => cases entry <;> simp [Entry.kind]

/-- A file stands where the kind says so. -/
theorem kind?_eq_file_iff {tree : Tree} {location : Location} :
    tree.kind? location = some .file ↔
      ∃ content, tree.entry? location = some (.file content) := by
  unfold kind?
  cases tree.entry? location with
  | none => simp
  | some entry => cases entry <;> simp [Entry.kind]

/-- A tree keeps its directories while it grows. -/
theorem Grows.directory {small large : Tree} (grows : small.Grows large) {location : Location}
    (there : small.entry? location = some .directory) :
    large.entry? location = some .directory :=
  kind?_eq_directory_iff.mp (grows.kind _ _ (kind?_eq_directory_iff.mpr there))

/-- What stands nowhere in a tree stood nowhere before it grew. -/
theorem Grows.free {small large : Tree} (grows : small.Grows large) {location : Location}
    (free : large.entry? location = none) : small.entry? location = none := by
  cases there : small.entry? location with
  | none => rfl
  | some entry =>
    have later := grows.kind location entry.kind (by rw [kind?, there]; rfl)
    rw [kind?, free] at later
    contradiction

/-- The root is a directory. -/
@[simp] theorem entry?_nil (tree : Tree) : tree.entry? [] = some .directory := rfl

/-- Putting an entry moves no working directory. -/
@[simp] theorem put_base (tree : Tree) (location : Location) (entry : Entry) :
    (tree.put location entry).base = tree.base := rfl

/-- Where an entry was put, it stands. -/
theorem entry?_put_self (tree : Tree) {location : Location} (proper : location ≠ [])
    (entry : Entry) : Tree.entry? (tree.put location entry) location = some entry := by
  cases location with
  | nil => contradiction
  | cons name names => simp [put, entry?]

/-- Elsewhere than where an entry was put, nothing has changed. -/
theorem entry?_put_of_ne (tree : Tree) {location other : Location} (apart : other ≠ location)
    (entry : Entry) : Tree.entry? (tree.put location entry) other = tree.entry? other := by
  cases other with
  | nil => rfl
  | cons name names =>
    have differs : (name :: names == location) = false := by simpa using apart
    simp only [put, entry?, List.lookup_cons, differs]
    generalize tree.entries = entries
    induction entries with
    | nil => rfl
    | cons held entries ih =>
      obtain ⟨place, content⟩ := held
      by_cases same : place = location
      · subst same
        simp only [bne_self_eq_false, Bool.false_eq_true, not_false_eq_true,
          List.filter_cons_of_neg, List.lookup_cons, differs]
        exact ih
      · rw [List.filter_cons_of_pos (by simpa using same), List.lookup_cons, List.lookup_cons, ih]

/-- A tree grows when an entry is put where nothing or something of its kind stood. -/
theorem grows_put {tree : Tree} {location : Location} {entry : Entry}
    (same : ∀ kind, tree.kind? location = some kind → kind = entry.kind) :
    tree.Grows (tree.put location entry) := by
  refine ⟨rfl, fun other kind there => ?_⟩
  by_cases here : other = location
  · subst here
    cases other with
    | nil => exact there
    | cons name names =>
      rw [kind?, entry?_put_self tree (by simp), same kind there]
      rfl
  · rw [kind?, entry?_put_of_ne tree here]
    exact there

/-- In a sound tree an entry that is put into a directory leaves a sound tree, unless it takes the
place of a directory. -/
theorem Sound.put {tree : Tree} (sound : tree.Sound) {location : Location} {entry : Entry}
    (parent : tree.entry? location.dropLast = some .directory)
    (same : ∀ kind, tree.kind? location = some kind → kind = entry.kind) :
    (tree.put location entry).Sound := by
  have grows := grows_put same
  refine ⟨grows.directory sound.base, fun other held there => ?_⟩
  by_cases here : other = location
  · subst here
    exact grows.directory parent
  · rw [entry?_put_of_ne tree here] at there
    exact grows.directory (sound.parent other held there)

/-- In a sound tree everything on the way to an entry is a directory. -/
theorem Sound.directory {tree : Tree} (sound : tree.Sound) {front back : Location} {entry : Entry}
    (there : tree.entry? (front ++ back) = some entry) (proper : back ≠ []) :
    tree.entry? front = some .directory := by
  induction back using List.reverseRecOn generalizing entry with
  | nil => contradiction
  | append_singleton back name ih =>
    have parent := sound.parent _ _ there
    rw [← List.append_assoc, List.dropLast_concat] at parent
    by_cases none : back = []
    · subst none
      simpa using parent
    · exact ih parent none

/-- A tree is sound if its working directory and the directory of each of its entries are there. -/
theorem sound_of_entries {tree : Tree} (base : tree.entry? tree.base = some .directory)
    (each : ∀ held ∈ tree.entries, tree.entry? held.1.dropLast = some .directory) :
    tree.Sound := by
  refine ⟨base, fun location entry there => ?_⟩
  cases location with
  | nil => rfl
  | cons name names =>
    obtain ⟨before, behind, entries, -⟩ := List.lookup_eq_some_iff.mp there
    exact each (name :: names, entry) (by simp [entries])

/-! ### Following paths -/

/-- A row of steps is followed by following its parts. -/
theorem follow_append (tree : Tree) (here : Location) (front back : List String) :
    tree.follow here (front ++ back) =
      (tree.follow here front).bind fun there => tree.follow there back := by
  induction front generalizing here with
  | nil => rfl
  | cons step front ih =>
    simp only [List.cons_append, follow]
    split
    · rfl
    · rfl
    · split
      · exact ih _
      · split
        · rfl
        · exact ih _

/-- A last step leads somewhere if the others lead to a directory: to what holds that directory, or
into it. -/
theorem follow_concat_eq_ok {tree : Tree} {here there : Location} {steps : List String}
    {step : String} (followed : tree.follow here (steps ++ [step]) = .ok there) :
    ∃ parent, tree.follow here steps = .ok parent ∧ tree.entry? parent = some .directory ∧
      (there = parent.dropLast ∨ there = parent ++ [step]) := by
  rw [follow_append] at followed
  cases front : tree.follow here steps with
  | error reason =>
    rw [front] at followed
    contradiction
  | ok parent =>
    rw [front] at followed
    change tree.follow parent [step] = .ok there at followed
    unfold follow at followed
    split at followed
    · contradiction
    · contradiction
    next directory =>
      refine ⟨parent, rfl, directory, ?_⟩
      split at followed
      · exact .inl (Except.ok.inj followed).symm
      · split at followed
        · contradiction
        · exact .inr (Except.ok.inj followed).symm

/-- Steps without a double dot lead to the location that they spell. -/
theorem eq_append_of_follow {tree : Tree} {here there : Location} {steps : List String}
    (plain : ".." ∉ steps) (followed : tree.follow here steps = .ok there) :
    there = here ++ steps := by
  induction steps generalizing here with
  | nil =>
    have same : here = there := Except.ok.inj followed
    rw [← same, List.append_nil]
  | cons step steps ih =>
    have other : step ≠ ".." := fun same => plain (List.mem_cons.mpr (.inl same.symm))
    have rest : ".." ∉ steps := fun member => plain (List.mem_cons.mpr (.inr member))
    unfold follow at followed
    split at followed
    · contradiction
    · contradiction
    · rw [if_neg other] at followed
      split at followed
      · contradiction
      · rw [ih rest followed, List.append_assoc, List.singleton_append]

/-- Where something is missing on the way that steps spell, nothing stands. -/
theorem exists_of_follow_eq_missing {tree : Tree} {here : Location} {steps : List String}
    (plain : ".." ∉ steps) (missing : tree.follow here steps = .error .missing) :
    ∃ front back, steps = front ++ back ∧ back ≠ [] ∧ tree.entry? (here ++ front) = none := by
  induction steps generalizing here with
  | nil => contradiction
  | cons step steps ih =>
    have other : step ≠ ".." := fun same => plain (List.mem_cons.mpr (.inl same.symm))
    have rest : ".." ∉ steps := fun member => plain (List.mem_cons.mpr (.inr member))
    unfold follow at missing
    split at missing
    next free => exact ⟨[], step :: steps, rfl, by simp, by simpa using free⟩
    · contradiction
    · rw [if_neg other] at missing
      split at missing
      · contradiction
      · obtain ⟨front, back, parts, proper, free⟩ := ih rest missing
        refine ⟨step :: front, back, by rw [parts]; rfl, proper, ?_⟩
        rwa [List.append_assoc, List.singleton_append] at free

/-- Steps lead where they led when a tree has grown. -/
theorem follow_eq_ok_of_grows {small large : Tree} (grows : small.Grows large)
    {here there : Location} {steps : List String}
    (followed : small.follow here steps = .ok there) : large.follow here steps = .ok there := by
  induction steps generalizing here with
  | nil => exact followed
  | cons step steps ih =>
    unfold follow at followed ⊢
    split at followed
    · contradiction
    · contradiction
    next directory =>
      rw [grows.directory directory]
      dsimp only
      split at followed
      · rw [if_pos ‹_›]
        exact ih followed
      · rw [if_neg ‹_›]
        split at followed
        · contradiction
        · rw [if_neg ‹_›]
          exact ih followed

/-- Steps that lead somewhere in a tree that has grown led there before, or something was missing
on the way. -/
theorem follow_of_grows {small large : Tree} (grows : small.Grows large) {here there : Location}
    {steps : List String} (followed : large.follow here steps = .ok there) :
    small.follow here steps = .ok there ∨ small.follow here steps = .error .missing := by
  induction steps generalizing here with
  | nil => exact .inl followed
  | cons step steps ih =>
    unfold follow at followed ⊢
    cases before : small.entry? here with
    | none => exact .inr rfl
    | some entry =>
      have kind : large.kind? here = some entry.kind :=
        grows.kind here entry.kind (by rw [kind?, before]; rfl)
      cases entry with
      | file content =>
        obtain ⟨content, after⟩ := kind?_eq_file_iff.mp kind
        rw [after] at followed
        contradiction
      | directory =>
        rw [kind?_eq_directory_iff.mp kind] at followed
        dsimp only at followed ⊢
        split at followed
        · rw [if_pos ‹_›]
          exact ih followed
        · rw [if_neg ‹_›]
          split at followed
          · contradiction
          · rw [if_neg ‹_›]
            exact ih followed

/-! ### Locating paths -/

/-- A path leads somewhere if it can be asked for and its steps do. -/
theorem locate_eq_ok_iff {tree : Tree} {path : Path} {location : Location} :
    tree.locate path = .ok location ↔
      path.Fits ∧ tree.follow (tree.start path) path.steps = .ok location := by
  unfold locate
  constructor
  · intro located
    split at located
    · contradiction
    next noNull =>
      split at located
      · contradiction
      next short => exact ⟨⟨by simpa using noNull, Nat.not_lt.mp short⟩, located⟩
  · rintro ⟨fits, followed⟩
    rw [if_neg (by simpa using fits.noNull), if_neg (by have := fits.short; omega)]
    exact followed

/-- A path that can be asked for is refused for its steps. -/
theorem locate_of_fits {path : Path} (fits : path.Fits) (tree : Tree) :
    tree.locate path = tree.follow (tree.start path) path.steps := by
  unfold locate
  rw [if_neg (by simpa using fits.noNull), if_neg (by have := fits.short; omega)]

/-- A path starts where it did when a tree has grown. -/
theorem Grows.start {small large : Tree} (grows : small.Grows large) (path : Path) :
    large.start path = small.start path := by
  unfold Tree.start
  rw [grows.base]

/-- A path leads where it led when a tree has grown. -/
theorem Grows.locate {small large : Tree} (grows : small.Grows large) {path : Path}
    {location : Location} (located : small.locate path = .ok location) :
    large.locate path = .ok location := by
  obtain ⟨fits, followed⟩ := locate_eq_ok_iff.mp located
  refine locate_eq_ok_iff.mpr ⟨fits, ?_⟩
  rw [grows.start]
  exact follow_eq_ok_of_grows grows followed

/-- A path that leads somewhere in a tree that has grown led there before, or something was missing
on the way. -/
theorem Grows.locate_before {small large : Tree} (grows : small.Grows large) {path : Path}
    {location : Location} (located : large.locate path = .ok location) :
    small.locate path = .ok location ∨ small.locate path = .error .missing := by
  obtain ⟨fits, followed⟩ := locate_eq_ok_iff.mp located
  rw [grows.start] at followed
  rw [locate_of_fits fits]
  exact follow_of_grows grows followed

end Tree

end CrudScaffold
