import CrudScaffold.Proofs.Files.Resolve
import CrudScaffold.Proofs.Generation.Outputs

/-!
# Outputs inside their directories

The paths of an entity are made of the name of its files, which may hold slashes and double dots.
They lead into the directories of the modules and of the tests, wherever these are, exactly if that
name, read as a path, never leads out of the directory that it starts in (`confines_outputs_iff`).
What stands around the name in a path changes its first and its last step only, and those into steps
that lead on.
-/

namespace CrudScaffold

/-! ### Steps in texts with slashes -/

namespace Path

/-- A path with a root of its own does not start where another one leads. -/
theorem append_of_root_ne {base path : Path} (rooted : path.root ≠ .relative) :
    base ++ path = path := by
  change join base path = path
  unfold join
  split
  next relative => exact absurd relative rooted
  · rfl

/-- How paths behind one another are grouped does not matter. -/
theorem append_assoc (first second third : Path) :
    first ++ second ++ third = first ++ (second ++ third) := by
  by_cases last : third.root = .relative
  · have behind := @root_append second third last
    by_cases middle : second.root = .relative
    · have relative := behind.trans middle
      refine eq_of_root_of_steps ?_ ?_
      · rw [root_append last, root_append middle, root_append relative]
      · rw [steps_append last, steps_append middle, steps_append relative, steps_append last,
          List.append_assoc]
    · rw [append_of_root_ne middle, append_of_root_ne (behind.trans_ne middle)]
  · rw [append_of_root_ne last, append_of_root_ne last, append_of_root_ne last]

/-- A text starts at the working directory exactly if it starts with no slash. -/
theorem root_ofText_iff {text : String} :
    (ofText text).root = .relative ↔ text.toList.head? ≠ some '/' := by
  refine ⟨fun relative slash => ?_, root_ofText⟩
  obtain ⟨rest, spelled⟩ := List.head?_eq_some_iff.mp slash
  change rootOf text.toList = .relative at relative
  rw [spelled, rootOf, List.takeWhile_cons_of_pos (by decide), List.length_cons] at relative
  split at relative
  · contradiction
  · contradiction
  · contradiction

/-- A text starts where it does with an ending. -/
theorem root_ofText_append {text ending : String} (plain : '/' ∉ ending.toList) :
    (ofText (text ++ ending)).root = .relative ↔ (ofText text).root = .relative := by
  rw [root_ofText_iff, root_ofText_iff, String.toList_append]
  cases text.toList with
  | nil => exact iff_of_true (fun slash => plain (List.mem_of_mem_head? slash)) (by simp)
  | cons c rest => exact .rfl

/-- A text with a beginning without slashes starts at the working directory. -/
theorem root_ofText_beginning {beginning : String} (plain : '/' ∉ beginning.toList)
    (some : 0 < beginning.toList.length) (text : String) :
    (ofText (beginning ++ text)).root = .relative := by
  rw [root_ofText_iff, String.toList_append]
  cases letters : beginning.toList with
  | nil =>
    rw [letters] at some
    contradiction
  | cons c rest => exact fun slash => plain (letters ▸ List.mem_of_mem_head? slash)

/-- A slash separates the steps before it from those behind it. -/
theorem stepsOf_slash (front back : List Char) :
    stepsOf (front ++ '/' :: back) = stepsOf front ++ stepsOf back := by
  rw [stepsOf, List.splitOn_append_cons_self, List.map_append, List.filter_append]
  rfl

/-- A text of several characters without slashes is one step that leads on. -/
theorem stepsOf_name {text : List Char} (plain : '/' ∉ text) (long : 3 ≤ text.length) :
    stepsOf text = [String.ofList text] ∧ String.ofList text ≠ ".." := by
  have named : IsFileName (String.ofList text) := by
    constructor
    · rwa [String.toList_ofList]
    · rwa [String.toList_ofList]
  have steps : stepsOf (String.ofList text).toList = [String.ofList text] := named.ofText.2
  rw [String.toList_ofList] at steps
  exact ⟨steps, named.ne (by decide)⟩

/-- An ending changes the last step of a text into one that leads on. -/
theorem exists_stepsOf_append (text : List Char) {ending : List Char} (plain : '/' ∉ ending)
    (long : 3 ≤ ending.length) :
    ∃ front last, stepsOf (text ++ ending) = front ++ [last] ∧ last ≠ ".." ∧
      ∃ back, stepsOf text = front ++ back := by
  by_cases slash : '/' ∈ text.reverse
  · obtain ⟨later, before, reversed, free⟩ := List.eq_append_cons_of_mem slash
    have whole : text = before.reverse ++ '/' :: later.reverse := by
      rw [← List.reverse_reverse text, reversed, List.reverse_append, List.reverse_cons,
        List.append_assoc, List.singleton_append]
    have name : '/' ∉ later.reverse ++ ending := by
      rw [List.mem_append, List.mem_reverse, not_or]
      exact ⟨free, plain⟩
    obtain ⟨last, on⟩ := stepsOf_name name (by rw [List.length_append]; omega)
    refine ⟨stepsOf before.reverse, _, ?_, on, stepsOf later.reverse, ?_⟩
    · rw [whole, List.append_assoc, List.cons_append, stepsOf_slash, last]
    · rw [whole, stepsOf_slash]
  · rw [List.mem_reverse] at slash
    have name : '/' ∉ text ++ ending := by
      rw [List.mem_append, not_or]
      exact ⟨slash, plain⟩
    obtain ⟨last, on⟩ := stepsOf_name name (by rw [List.length_append]; omega)
    exact ⟨[], _, last, on, _, rfl⟩

/-- A beginning changes the first step of a text into one that leads on, so the steps still stay. -/
theorem staysFrom_stepsOf_append {beginning text : List Char} (plain : '/' ∉ beginning)
    (long : 3 ≤ beginning.length) (stays : staysFrom 0 (stepsOf text) = true) :
    staysFrom 0 (stepsOf (beginning ++ text)) = true := by
  have name {first : List Char} (free : '/' ∉ first) :
      stepsOf (beginning ++ first) = [String.ofList (beginning ++ first)] ∧
        String.ofList (beginning ++ first) ≠ ".." := by
    refine stepsOf_name ?_ (by rw [List.length_append]; omega)
    rw [List.mem_append, not_or]
    exact ⟨plain, free⟩
  by_cases slash : '/' ∈ text
  · obtain ⟨first, rest, rfl, free⟩ := List.eq_append_cons_of_mem slash
    obtain ⟨steps, on⟩ := name free
    rw [stepsOf_append free] at stays
    rw [← List.append_assoc, stepsOf_slash, steps, List.singleton_append, staysFrom, if_neg on]
    -- the first step of the text led on, or there was none
    by_cases step : isPathStep (String.ofList first) = true
    · rw [List.filter_cons_of_pos step, List.filter_nil, List.singleton_append] at stays
      unfold staysFrom at stays
      split at stays
      · simp at stays
      · exact stays
    · rw [List.filter_cons_of_neg step, List.filter_nil, List.nil_append] at stays
      exact staysFrom_mono stays (Nat.zero_le _)
  · obtain ⟨steps, on⟩ := name slash
    rw [steps, staysFrom_singleton on]

/-- A path from the working directory that leads to something in it. -/
structure LeadsIn (path : Path) : Prop where
  /-- It never leads out. -/
  stays : path.staysBelow = true
  /-- Its last step leads on. -/
  named : ∃ front last, path.steps = front ++ [last] ∧ last ≠ ".."

/-- A text that stays leads in with an ending. -/
theorem leadsIn_ofText_append {text ending : String}
    (stays : (ofText text).staysBelow = true) (plain : '/' ∉ ending.toList)
    (long : 3 ≤ ending.toList.length) : (ofText (text ++ ending)).LeadsIn := by
  obtain ⟨relative, inside⟩ := staysBelow_iff.mp stays
  obtain ⟨front, last, steps, on, back, others⟩ :=
    exists_stepsOf_append text.toList plain long
  rw [← String.toList_append] at steps
  refine ⟨staysBelow_iff.mpr ⟨(root_ofText_append plain).mpr relative, ?_⟩, front, last, steps, on⟩
  change staysFrom 0 (stepsOf _) = true
  change staysFrom 0 (stepsOf _) = true at inside
  rw [others] at inside
  rw [steps]
  exact staysFrom_append (staysFrom_of_append inside) (staysFrom_singleton on 0)

/-- A text that stays does so with a beginning. -/
theorem staysBelow_ofText_append {beginning text : String} (plain : '/' ∉ beginning.toList)
    (long : 3 ≤ beginning.toList.length) (stays : (ofText text).staysBelow = true) :
    (ofText (beginning ++ text)).staysBelow = true := by
  have steps := staysFrom_stepsOf_append plain long (staysBelow_iff.mp stays).2
  rw [← String.toList_append] at steps
  exact staysBelow_iff.mpr ⟨root_ofText_beginning plain (by omega) text, steps⟩

/-- What leads in does so behind a path that stays. -/
theorem LeadsIn.append {base path : Path} (leads : path.LeadsIn)
    (stays : base.staysBelow = true) : (base ++ path).LeadsIn := by
  obtain ⟨inside, front, last, steps, on⟩ := leads
  rw [staysBelow_iff] at stays inside
  refine ⟨?_, base.steps ++ front, last, ?_, on⟩
  · rw [staysBelow_iff, root_append inside.1, steps_append inside.1]
    exact ⟨stays.1, staysFrom_append stays.2 inside.2⟩
  · rw [steps_append inside.1, steps, List.append_assoc]

/-- A text without slashes stays, unless it is the double dot. -/
theorem staysBelow_ofText_iff {name : String} (slash : '/' ∉ name.toList) :
    (ofText name).staysBelow = true ↔ name ≠ ".." := by
  obtain ⟨relative, steps⟩ := ofText_plain slash
  rw [staysBelow, relative, steps, beq_self_eq_true, Bool.true_and]
  by_cases back : name = ".."
  · subst back
    exact iff_of_false (by decide) (by simp)
  · refine iff_of_true ?_ back
    by_cases step : isPathStep name = true
    · rw [List.filter_cons_of_pos step, List.filter_nil, staysFrom_singleton back]
    · rw [List.filter_cons_of_neg step]
      rfl

/-- A folder in front of a text is a path in front of its path. -/
theorem ofText_folder {folder text : String} (first : IsFileName folder)
    (relative : (ofText text).root = .relative) :
    ofText (folder ++ "/" ++ text) = ofText folder ++ ofText text := by
  refine eq_of_root_of_steps ?_ ?_
  · have long := first.long
    rw [root_append relative, first.ofText.1, String.append_assoc]
    exact root_ofText_beginning first.plain (by omega) _
  · rw [steps_append relative, steps_ofText_slash first.plain, first.ofText.2,
      List.filter_cons_of_pos first.isPathStep, List.filter_nil]

end Path

/-! ### Outputs -/

/-- Every file of an entity whose files have a name that stays is in its directory. -/
theorem SourceFile.leadsIn_place {kebab : String}
    (stays : (Path.ofText kebab).staysBelow = true) (file : SourceFile) :
    (file.place kebab).LeadsIn := by
  have behind (ending : String) (plain : '/' ∉ ending.toList ∧ 3 ≤ ending.toList.length) :
      (Path.ofText (kebab ++ ending)).LeadsIn :=
    Path.leadsIn_ofText_append stays plain.1 plain.2
  have around (beginning ending : String)
      (plain : '/' ∉ beginning.toList ∧ 3 ≤ beginning.toList.length)
      (also : '/' ∉ ending.toList ∧ 3 ≤ ending.toList.length) :
      (Path.ofText (beginning ++ kebab ++ ending)).LeadsIn :=
    Path.leadsIn_ofText_append (Path.staysBelow_ofText_append plain.1 plain.2 stays) also.1 also.2
  have below {start folder beginning ending : String}
      (spelled : start = folder ++ "/" ++ beginning) (first : IsFileName folder)
      (leads : (Path.ofText (beginning ++ kebab ++ ending)).LeadsIn) :
      (Path.ofText (start ++ kebab ++ ending)).LeadsIn := by
    have text : start ++ kebab ++ ending = folder ++ "/" ++ (beginning ++ kebab ++ ending) := by
      rw [spelled]
      simp only [String.append_assoc]
    rw [text, Path.ofText_folder first (Path.staysBelow_iff.mp leads.stays).1]
    exact leads.append ((Path.staysBelow_ofText_iff first.plain).mpr (first.ne (by decide)))
  have dto : IsFileName "dto" := ⟨by decide, by decide⟩
  have entities : IsFileName "entities" := ⟨by decide, by decide⟩
  cases file
  case create =>
    exact below rfl dto (around "create-" ".dto.ts" (by decide) (by decide))
  case update =>
    exact below rfl dto (around "update-" ".dto.ts" (by decide) (by decide))
  case record =>
    have named := behind ".entity.ts" (by decide)
    rw [← String.empty_append (s := kebab)] at named
    exact below rfl entities named
  all_goals exact behind _ (by decide)

/-- Whether a location is strictly below another one. -/
def Location.Below (outer location : Location) : Prop := outer <+: location ∧ outer ≠ location

instance (outer location : Location) : Decidable (Location.Below outer location) :=
  inferInstanceAs (Decidable (_ ∧ _))

/-- Whether a path leads to something strictly below the directory of the modules or that of the
tests. -/
def Settings.Confines (settings : Settings) (tree : Tree) (path : Path) : Prop :=
  Location.Below (tree.resolved settings.modulesPath) (tree.resolved path) ∨
    Location.Below (tree.resolved settings.testsPath) (tree.resolved path)

instance (settings : Settings) (tree : Tree) (path : Path) :
    Decidable (settings.Confines tree path) :=
  inferInstanceAs (Decidable (_ ∨ _))

/-- A path from the working directory is walked from where the path before it leads. -/
theorem Tree.resolved_append (tree : Tree) (base : Path) {path : Path}
    (relative : path.root = .relative) :
    tree.resolved (base ++ path) = Path.walk (tree.resolved base) path.steps := by
  rw [resolved, start, Path.root_append relative, Path.steps_append relative, Path.walk,
    List.foldl_append]
  rfl

/-- A path that leads in leads below the location of the path that it stands behind. -/
theorem Path.LeadsIn.below_resolved {path : Path} (leads : path.LeadsIn) (tree : Tree)
    (base : Path) : Location.Below (tree.resolved base) (tree.resolved (base ++ path)) := by
  obtain ⟨stays, front, last, steps, on⟩ := leads
  rw [staysBelow_iff] at stays
  have whole := @walk_append (tree.resolved base) [] path.steps stays.2
  rw [List.append_nil, ← tree.resolved_append base stays.1, steps, walk_concat _ _ on] at whole
  rw [whole]
  exact ⟨List.prefix_append _ _, by simp⟩

/-- A path that leaves does not lead below a location whose name is none of its steps. -/
theorem Tree.notMem_resolved_append {tree : Tree} {base path : Path} {name : String}
    (location : tree.resolved base = [name]) (leaves : path.staysBelow = false)
    (fresh : name ∉ path.steps) : name ∉ tree.resolved (base ++ path) := by
  by_cases relative : path.root = .relative
  · rw [Path.staysBelow, relative, beq_self_eq_true, Bool.true_and] at leaves
    rw [tree.resolved_append base relative, location]
    exact Path.notMem_walk leaves List.not_mem_nil fresh
  · have start : tree.start path = [] := by
      unfold start
      split
      · contradiction
      · rfl
    rw [Path.append_of_root_ne relative, resolved, start]
    exact fun member => (Path.mem_walk member).elim List.not_mem_nil fresh

/-- What leaves does so with a path behind it that starts where it does. -/
theorem Path.staysBelow_append_eq_false {front back : Path} (leaves : front.staysBelow = false)
    (root : back.root = .relative ↔ front.root = .relative) :
    (front ++ back).staysBelow = false := by
  by_cases relative : front.root = .relative
  · rw [staysBelow, relative, beq_self_eq_true, Bool.true_and, Bool.eq_false_iff] at leaves
    rw [staysBelow, steps_append (root.mpr relative), Bool.and_eq_false_iff, Bool.eq_false_iff,
      Bool.eq_false_iff]
    exact .inr fun stays => leaves (staysFrom_of_append stays)
  · have rooted : back.root ≠ .relative := fun same => relative (root.mp same)
    rw [append_of_root_ne rooted, staysBelow, Bool.and_eq_false_iff]
    exact .inl (by simpa using rooted)

/-- There is always a further step. -/
theorem exists_fresh_step (names : List String) :
    ∃ name, isPathStep name = true ∧ name ≠ ".." ∧ name ∉ names := by
  obtain ⟨size, bound⟩ : ∃ size, ∀ name ∈ names, name.toList.length ≤ size := by
    induction names with
    | nil => exact ⟨0, by simp⟩
    | cons first names ih =>
      obtain ⟨size, bound⟩ := ih
      refine ⟨max first.toList.length size, List.forall_mem_cons.mpr ⟨le_max_left _ _, ?_⟩⟩
      exact fun name member => (bound name member).trans (le_max_right _ _)
  have long : (String.ofList (List.replicate (size + 3) 'z')).toList.length = size + 3 := by
    rw [String.toList_ofList, List.length_replicate]
  have named : IsFileName (String.ofList (List.replicate (size + 3) 'z')) := by
    refine ⟨?_, by omega⟩
    rw [String.toList_ofList]
    exact fun member => absurd (List.eq_of_mem_replicate member) (by decide)
  refine ⟨_, named.isPathStep, named.ne (by decide), fun member => ?_⟩
  have short := bound _ member
  omega

section

variable {settings : Settings} {entity : Entity}

/-- The outputs of an entity whose files have a name that stays are below the directory of the
modules or that of the tests. -/
theorem Settings.confines_outputs
    (stays : (Path.ofText (Name.kebabCase entity.name)).staysBelow = true) (tree : Tree) :
    ∀ path ∈ settings.outputs entity, settings.Confines tree path := by
  have below (base : Path) (file : SourceFile) :
      Location.Below (tree.resolved base) (tree.resolved
        (file.pathIn (base.child (Name.kebabCase entity.name)) (Name.kebabCase entity.name))) := by
    rw [SourceFile.pathIn, Path.child, Path.append_assoc]
    exact ((file.leadsIn_place stays).append stays).below_resolved tree base
  exact Settings.forall_outputs_iff.mpr
    ⟨fun file _ => .inl (below settings.modulesPath file),
      fun _ file _ => .inr (below settings.testsPath file)⟩

/-- No other name of files is that harmless: there are settings for which the first output of the
entity is in neither directory. -/
theorem exists_not_confines
    (leaves : (Path.ofText (Name.kebabCase entity.name)).staysBelow = false) :
    ∃ settings tree, ∃ path ∈ Settings.outputs settings entity,
      ¬settings.Confines tree path := by
  generalize spelled : Name.kebabCase entity.name = kebab at leaves
  let inner := Path.ofText kebab ++ SourceFile.module.place kebab
  obtain ⟨name, step, on, fresh⟩ := exists_fresh_step inner.steps
  let directory : Path := ⟨.relative, [name], by simpa using step⟩
  let settings : Settings :=
    { projectRoot := ⟨.slash, [], by simp⟩, modulesDir := directory, testsDir := directory }
  let tree : Tree := ⟨[], []⟩
  have output : settings.modulesPath ++ inner ∈ settings.outputs entity := by
    refine List.mem_append_left _ (List.mem_map.mpr ⟨.module, by decide, ?_⟩)
    rw [Settings.moduleDirectory, spelled]
    exact Path.append_assoc _ _ _
  have location : tree.resolved settings.modulesPath = [name] := by
    change Path.walk [] [name] = [name]
    rw [Path.walk, List.foldl_cons, List.foldl_nil, Path.go, if_neg on, List.nil_append]
  have away : name ∉ tree.resolved (settings.modulesPath ++ inner) :=
    Tree.notMem_resolved_append location
      (Path.staysBelow_append_eq_false leaves (Path.root_ofText_append (by decide))) fresh
  refine ⟨settings, tree, _, output, fun confined => away ?_⟩
  have tests : tree.resolved settings.testsPath = [name] := location
  rw [Settings.Confines, location, tests, or_self] at confined
  exact confined.1.mem List.mem_cons_self

/-- So exactly the names of files that stay keep all outputs in the two directories, whatever the
settings are. -/
theorem confines_outputs_iff :
    (∀ settings tree, ∀ path ∈ Settings.outputs settings entity, settings.Confines tree path) ↔
      (Path.ofText (Name.kebabCase entity.name)).staysBelow = true := by
  refine ⟨fun confined => ?_, fun stays settings => Settings.confines_outputs stays⟩
  by_contra leaves
  obtain ⟨settings, tree, path, output, out⟩ := exists_not_confines (Bool.eq_false_iff.mpr leaves)
  exact out (confined settings tree path output)

end

end CrudScaffold
