import CrudScaffold.Generation.Parts
import CrudScaffold.Proofs.Files.Spelling
import CrudScaffold.Proofs.Name.Words

/-!
# The paths of an entity

Where the files of an entity go, step by step. For a name that is a word no step leads back, and no
two files have the same place, whatever the directories are: within a directory the steps differ,
and the names of tests end like those of no other file.
-/

namespace CrudScaffold

/-! ### Steps -/

/-- The steps to a file in the directory of an entity. -/
def SourceFile.steps (kebab : String) : SourceFile → List String
  | .module => [kebab ++ ".module.ts"]
  | .controller => [kebab ++ ".controller.ts"]
  | .service => [kebab ++ ".service.ts"]
  | .create => ["dto", "create-" ++ kebab ++ ".dto.ts"]
  | .update => ["dto", "update-" ++ kebab ++ ".dto.ts"]
  | .record => ["entities", kebab ++ ".entity.ts"]
  | .serviceTest => [kebab ++ ".service.spec.ts"]
  | .requestTest => [kebab ++ ".e2e-spec.ts"]

/-- There are steps to every file. -/
theorem SourceFile.steps_ne_nil (kebab : String) (file : SourceFile) : file.steps kebab ≠ [] := by
  cases file <;> simp [steps]

/-- A name of several characters without slashes is a step. -/
structure IsFileName (name : String) : Prop where
  /-- It holds no slash. -/
  plain : '/' ∉ name.toList
  /-- It is longer than the texts that are no steps and the double dot. -/
  long : 3 ≤ name.toList.length

namespace IsFileName

variable {name : String}

/-- It is no shorter text. -/
theorem ne (named : IsFileName name) {short : String} (few : short.toList.length < 3) :
    name ≠ short := by
  rintro rfl
  have := named.long
  omega

/-- It is a step. -/
theorem isPathStep (named : IsFileName name) : isPathStep name = true := by
  have empty := named.ne (show "".toList.length < 3 by decide)
  have dot := named.ne (show ".".toList.length < 3 by decide)
  simp [CrudScaffold.isPathStep, empty, dot, named.plain]

/-- Its path is that step. -/
theorem ofText (named : IsFileName name) :
    (Path.ofText name).root = .relative ∧ (Path.ofText name).steps = [name] := by
  obtain ⟨relative, steps⟩ := Path.ofText_plain named.plain
  rw [List.filter_cons_of_pos named.isPathStep, List.filter_nil] at steps
  exact ⟨relative, steps⟩

/-- The path of two such names with a slash between them is the two steps. -/
theorem ofText_append (named : IsFileName name) {folder : String} (first : IsFileName folder) :
    (Path.ofText (folder ++ "/" ++ name)).root = .relative ∧
      (Path.ofText (folder ++ "/" ++ name)).steps = [folder, name] := by
  constructor
  · refine Path.rootOf_eq fun start => ?_
    have long := first.long
    cases letters : folder.toList with
    | nil => simp [letters] at long
    | cons c rest =>
      rw [String.toList_append, String.toList_append, letters] at start
      exact first.plain (by rw [letters]; exact List.mem_of_mem_head? start)
  · rw [Path.steps_ofText_slash first.plain, named.ofText.2,
      List.filter_cons_of_pos first.isPathStep]
    rfl

/-- Something around a text without slashes makes a name. -/
theorem around {middle : String} (plain : '/' ∉ middle.toList) (front back : String)
    (fixed : '/' ∉ front.toList ∧ '/' ∉ back.toList ∧ 3 ≤ back.toList.length) :
    IsFileName (front ++ middle ++ back) := by
  constructor
  · simp [String.toList_append, plain, fixed.1, fixed.2.1]
  · rw [String.toList_append, List.length_append]
    omega

end IsFileName

/-- Every step to a file is a name of several characters. -/
theorem SourceFile.isFileName_steps {kebab : String} (plain : '/' ∉ kebab.toList)
    (file : SourceFile) : ∀ step ∈ file.steps kebab, IsFileName step := by
  have behind (back : String) (fixed : '/' ∉ back.toList ∧ 3 ≤ back.toList.length) :
      IsFileName (kebab ++ back) := by
    have named := IsFileName.around plain "" back ⟨by decide, fixed⟩
    rwa [String.empty_append] at named
  have dto : IsFileName "dto" := ⟨by decide, by decide⟩
  have entities : IsFileName "entities" := ⟨by decide, by decide⟩
  cases file <;>
    simp only [steps, List.mem_cons, List.not_mem_nil, or_false, forall_eq, forall_eq_or_imp]
  case create => exact ⟨dto, .around plain _ _ (by decide)⟩
  case update => exact ⟨dto, .around plain _ _ (by decide)⟩
  case record => exact ⟨entities, behind _ (by decide)⟩
  all_goals exact behind _ (by decide)

/-- No step to a file leads back. -/
theorem SourceFile.dots_notMem_steps {kebab : String} (slash : '/' ∉ kebab.toList)
    (file : SourceFile) : ".." ∉ file.steps kebab := fun member =>
  (file.isFileName_steps slash _ member).ne (by decide) rfl

/-- The path of a file is its steps. -/
theorem SourceFile.place_eq {kebab : String} (plain : '/' ∉ kebab.toList) (file : SourceFile) :
    (file.place kebab).root = .relative ∧ (file.place kebab).steps = file.steps kebab := by
  have names := file.isFileName_steps plain
  cases file <;>
    simp only [steps, List.mem_cons, List.not_mem_nil, or_false, forall_eq, forall_eq_or_imp]
      at names
  case create =>
    have text : "dto/create-" ++ kebab ++ ".dto.ts" =
        "dto" ++ "/" ++ ("create-" ++ kebab ++ ".dto.ts") := by
      rw [show "dto/create-" = "dto" ++ "/" ++ "create-" by decide]
      simp only [String.append_assoc]
    have path := names.2.ofText_append names.1
    rwa [← text] at path
  case update =>
    have text : "dto/update-" ++ kebab ++ ".dto.ts" =
        "dto" ++ "/" ++ ("update-" ++ kebab ++ ".dto.ts") := by
      rw [show "dto/update-" = "dto" ++ "/" ++ "update-" by decide]
      simp only [String.append_assoc]
    have path := names.2.ofText_append names.1
    rwa [← text] at path
  case record =>
    have text : "entities/" ++ kebab ++ ".entity.ts" =
        "entities" ++ "/" ++ (kebab ++ ".entity.ts") := by
      rw [show "entities/" = "entities" ++ "/" by decide]
      simp only [String.append_assoc]
    have path := names.2.ofText_append names.1
    rwa [← text] at path
  all_goals exact names.ofText

/-! ### Places -/

/-- What stands in front of the name in the last step to a file. -/
def SourceFile.front : SourceFile → String
  | .create => "create-"
  | .update => "update-"
  | _ => ""

/-- What stands behind the name in the last step to a file. -/
def SourceFile.back : SourceFile → String
  | .module => ".module.ts"
  | .controller => ".controller.ts"
  | .service => ".service.ts"
  | .create | .update => ".dto.ts"
  | .record => ".entity.ts"
  | .serviceTest => ".service.spec.ts"
  | .requestTest => ".e2e-spec.ts"

/-- The last step to a file. -/
theorem SourceFile.getLast?_steps (kebab : String) (file : SourceFile) :
    (file.steps kebab).getLast? = some (file.front ++ kebab ++ file.back) := by
  cases file <;> simp only [steps, front, back, String.empty_append] <;> rfl

/-- No two files have names that only differ in the name of the entity. -/
theorem SourceFile.eq_of_front_of_back : ∀ first second : SourceFile,
    (first.front.toList <+: second.front.toList ∨ second.front.toList <+: first.front.toList) →
      (first.back.toList <:+ second.back.toList ∨ second.back.toList <:+ first.back.toList) →
        first = second := by
  intro first second
  cases first <;> cases second <;> decide

/-- The last step to a file tells the file and the name. -/
theorem SourceFile.eq_of_getLast {first second : SourceFile} {kebab other : String}
    (same : (first.steps kebab).getLast? = (second.steps other).getLast?) :
    first = second ∧ kebab = other := by
  rw [getLast?_steps, getLast?_steps, Option.some.injEq, ← String.toList_inj] at same
  simp only [String.toList_append] at same
  have front : first.front.toList <+: first.front.toList ++ kebab.toList ++ first.back.toList :=
    List.append_assoc .. ▸ List.prefix_append ..
  have frontToo : second.front.toList <+: first.front.toList ++ kebab.toList ++ first.back.toList :=
    same ▸ List.append_assoc .. ▸ List.prefix_append ..
  have fronts := List.prefix_or_prefix_of_prefix front frontToo
  have backs := List.suffix_or_suffix_of_suffix
    (List.suffix_append (first.front.toList ++ kebab.toList) first.back.toList)
    (same ▸ List.suffix_append _ second.back.toList)
  obtain rfl := eq_of_front_of_back first second fronts backs
  exact ⟨rfl, String.toList_inj.mp (List.append_cancel_left (List.append_cancel_right same))⟩

/-- Settings whose paths have no double dots. -/
structure Settings.Plain (settings : Settings) : Prop where
  /-- The path of the project. -/
  root : ".." ∉ settings.projectRoot.steps
  /-- The path of the schema. -/
  schema : ".." ∉ settings.schemaPath.steps
  /-- The path of the modules. -/
  modules : ".." ∉ settings.modulesDir.steps
  /-- The path of the tests. -/
  tests : ".." ∉ settings.testsDir.steps

/-- The files of an entity with their paths, in the order in which they are placed. -/
def Settings.files (settings : Settings) (entity : Entity) : List (Path × SourceFile) :=
  let kebab := Name.kebabCase entity.name
  (SourceFile.ofModule.map fun file =>
    (file.pathIn (settings.moduleDirectory entity) kebab, file)) ++
    if settings.skipTests then []
    else SourceFile.ofTests.map fun file =>
      (file.pathIn (settings.testDirectory entity) kebab, file)

/-- The paths of the files are the outputs. -/
theorem Settings.outputs_eq (settings : Settings) (entity : Entity) :
    settings.outputs entity = (settings.files entity).map Prod.fst := by
  unfold outputs files
  cases settings.skipTests <;> simp [List.map_append, Function.comp_def]

/-- An output is the path of a file. -/
theorem Settings.mem_outputs_iff {settings : Settings} {entity : Entity} {path : Path} :
    path ∈ settings.outputs entity ↔ ∃ spot ∈ settings.files entity, spot.1 = path := by
  rw [outputs_eq, List.mem_map]

/-- All outputs are paths in the directory of the module and, unless tests are left out, in that of
the tests. -/
theorem Settings.forall_outputs_iff {settings : Settings} {entity : Entity} {good : Path → Prop} :
    (∀ path ∈ settings.outputs entity, good path) ↔
      (∀ file ∈ SourceFile.ofModule, good (file.pathIn (settings.moduleDirectory entity)
        (Context.ofEntity entity).nameKebab)) ∧
      (settings.skipTests = false → ∀ file ∈ SourceFile.ofTests, good (file.pathIn
        (settings.testDirectory entity) (Context.ofEntity entity).nameKebab)) := by
  unfold outputs
  rw [List.forall_mem_append, List.forall_mem_map]
  cases settings.skipTests with
  | true => simp [Context.ofEntity]
  | false => simp [Context.ofEntity]

/-- There are six files of the module, and two tests unless they are left out. -/
theorem Settings.length_outputs (settings : Settings) (entity : Entity) :
    (settings.outputs entity).length = if settings.skipTests then 6 else 8 := by
  unfold outputs
  cases settings.skipTests <;> rfl

/-- The names of files made from a word hold no slash and no dot. -/
theorem notMem_kebabCase_of_isWord {name : String} (word : Text.isWord name.toList = true) :
    '/' ∉ (Name.kebabCase name).toList ∧ '.' ∉ (Name.kebabCase name).toList := by
  have absent {c : Char} (other : Text.isWordChar c = false) : c ∉ name.toList := fun member =>
    absurd (Text.isWordChar_of_mem word member) (by simp [other])
  exact ⟨Name.notMem_kebabCase (absent (by decide)) (by decide) (by decide),
    Name.notMem_kebabCase (absent (by decide)) (by decide) (by decide)⟩

section

variable {settings : Settings} {entity : Entity}

/-- A step of a name without dots does not lead back. -/
theorem dots_notMem_filter {name : String} (dot : '.' ∉ name.toList) :
    ".." ∉ [name].filter isPathStep := fun member =>
  dot (by rw [← List.mem_singleton.mp (List.mem_filter.mp member).1]; decide)

/-- A path without double dots has none with a step behind it that holds no dot. -/
theorem Path.plain_child {base : Path} (plain : ".." ∉ base.steps) {name : String}
    (slash : '/' ∉ name.toList) (dot : '.' ∉ name.toList) : ".." ∉ (base.child name).steps := by
  refine Path.notMem_append plain ?_
  rw [(Path.ofText_plain slash).2]
  exact dots_notMem_filter dot

/-- The path of a file in a directory is the steps to the file behind those to the directory. -/
theorem SourceFile.pathIn_eq (directory : Path) {kebab : String} (slash : '/' ∉ kebab.toList)
    (file : SourceFile) :
    (file.pathIn directory kebab).root = directory.root ∧
      (file.pathIn directory kebab).steps = directory.steps ++ file.steps kebab := by
  obtain ⟨relative, steps⟩ := file.place_eq slash
  refine ⟨Path.root_append relative, ?_⟩
  rw [← steps]
  exact Path.steps_append relative

/-- A file in a directory without double dots has a path without them, and a name. -/
theorem SourceFile.plain_pathIn {directory : Path} (plain : ".." ∉ directory.steps)
    (word : Text.isWord entity.name.toList = true) (file : SourceFile) :
    ".." ∉ (file.pathIn directory (Name.kebabCase entity.name)).steps ∧
      (file.pathIn directory (Name.kebabCase entity.name)).steps ≠ [] := by
  have slash := (notMem_kebabCase_of_isWord word).1
  rw [(SourceFile.pathIn_eq directory slash file).2]
  constructor
  · rw [List.mem_append, not_or]
    exact ⟨plain, file.dots_notMem_steps slash⟩
  · exact List.append_ne_nil_of_right_ne_nil _ (file.steps_ne_nil _)

/-- The directories of an entity have no double dots on the way to them. -/
theorem Settings.Plain.directories (plain : settings.Plain)
    (word : Text.isWord entity.name.toList = true) :
    ".." ∉ (settings.moduleDirectory entity).steps ∧
      ".." ∉ (settings.testDirectory entity).steps := by
  obtain ⟨slash, dot⟩ := notMem_kebabCase_of_isWord word
  exact ⟨Path.plain_child (Path.notMem_append plain.root plain.modules) slash dot,
    Path.plain_child (Path.notMem_append plain.root plain.tests) slash dot⟩

/-- The paths of the files of an entity have no double dots, and steps. -/
theorem Settings.Plain.files (plain : settings.Plain)
    (word : Text.isWord entity.name.toList = true) :
    ∀ spot ∈ settings.files entity, ".." ∉ spot.1.steps ∧ spot.1.steps ≠ [] := by
  obtain ⟨modules, tests⟩ := plain.directories word
  intro spot member
  unfold Settings.files at member
  rcases List.mem_append.mp member with inModule | inTests
  · obtain ⟨file, -, rfl⟩ := List.mem_map.mp inModule
    exact file.plain_pathIn modules word
  · split at inTests
    · exact absurd inTests List.not_mem_nil
    · obtain ⟨file, -, rfl⟩ := List.mem_map.mp inTests
      exact file.plain_pathIn tests word

/-- The outputs of an entity have no double dots. -/
theorem Settings.Plain.outputs (plain : settings.Plain)
    (word : Text.isWord entity.name.toList = true) :
    ∀ path ∈ settings.outputs entity, ".." ∉ path.steps := by
  intro path member
  obtain ⟨spot, file, rfl⟩ := Settings.mem_outputs_iff.mp member
  exact (plain.files word spot file).1

/-- The place of a file is the steps to it behind the place of its directory. -/
theorem Tree.place_pathIn (tree : Tree) (directory : Path) {kebab : String}
    (slash : '/' ∉ kebab.toList) (file : SourceFile) :
    tree.place (file.pathIn directory kebab) = tree.place directory ++ file.steps kebab := by
  obtain ⟨root, steps⟩ := SourceFile.pathIn_eq directory slash file
  unfold place start
  rw [root, steps, List.append_assoc]

/-- The place of a directory is at most a step below that of its base. -/
theorem Tree.place_child (tree : Tree) (base : Path) {name : String} (slash : '/' ∉ name.toList) :
    tree.place (base.child name) = tree.place base ++ [name].filter isPathStep := by
  obtain ⟨relative, steps⟩ := Path.ofText_plain slash
  unfold place start
  rw [Path.child, Path.root_append relative, Path.steps_append relative, steps, List.append_assoc]

/-- Files with the same place are the same, of the same name, whatever their directories are. -/
theorem Tree.eq_of_place_pathIn (tree : Tree) {directory further : Path} {kebab other : String}
    {first second : SourceFile} (slash : '/' ∉ kebab.toList) (plain : '/' ∉ other.toList)
    (same : tree.place (first.pathIn directory kebab) = tree.place (second.pathIn further other)) :
    first = second ∧ kebab = other := by
  rw [tree.place_pathIn _ slash, tree.place_pathIn _ plain] at same
  have ends := congrArg List.getLast? same
  rw [List.getLast?_append_of_ne_nil _ (first.steps_ne_nil _),
    List.getLast?_append_of_ne_nil _ (second.steps_ne_nil _)] at ends
  exact SourceFile.eq_of_getLast ends

/-- Below the directory where a file of an entity stands, the same file of every other one does. -/
theorem Settings.exists_base {settings : Settings} {spot : Path × SourceFile}
    (member : spot ∈ settings.files entity) :
    ∃ base : Path,
      spot.1 = spot.2.pathIn (base.child (Name.kebabCase entity.name))
        (Name.kebabCase entity.name) ∧
      ∀ other : Entity, (spot.2.pathIn (base.child (Name.kebabCase other.name))
        (Name.kebabCase other.name), spot.2) ∈ settings.files other := by
  unfold Settings.files at member ⊢
  rcases List.mem_append.mp member with inModule | inTests
  · obtain ⟨file, among, rfl⟩ := List.mem_map.mp inModule
    exact ⟨settings.modulesPath, rfl, fun other =>
      List.mem_append_left _ (List.mem_map.mpr ⟨file, among, rfl⟩)⟩
  · split at inTests
    · exact absurd inTests List.not_mem_nil
    · rename_i wanted
      obtain ⟨file, among, rfl⟩ := List.mem_map.mp inTests
      refine ⟨settings.testsPath, rfl, fun other => List.mem_append_right _ ?_⟩
      rw [if_neg wanted]
      exact List.mem_map.mpr ⟨file, among, rfl⟩

/-- No file of an entity is placed twice. -/
theorem Settings.nodup_files (settings : Settings) (entity : Entity) :
    ((settings.files entity).map Prod.snd).Nodup := by
  unfold Settings.files
  cases settings.skipTests <;> simp [SourceFile.ofModule, SourceFile.ofTests]

/-- No two files of an entity have the same place. -/
theorem Settings.files_apart (settings : Settings) (tree : Tree)
    (slash : '/' ∉ (Name.kebabCase entity.name).toList) :
    (settings.files entity).Pairwise fun first second =>
      tree.place first.1 ≠ tree.place second.1 := by
  refine (List.pairwise_map.mp (settings.nodup_files entity)).imp_of_mem ?_
  intro first second among member differs same
  obtain ⟨base, path, -⟩ := exists_base among
  obtain ⟨further, other, -⟩ := exists_base member
  rw [path, other] at same
  exact differs (tree.eq_of_place_pathIn slash slash same).1

end

end CrudScaffold
