import CrudScaffold.Proofs.Generation.Batch
import CrudScaffold.Proofs.Generation.Outputs
import CrudScaffold.Proofs.Script.Directories
import CrudScaffold.Proofs.Script.Sparing

/-!
# Generating over nothing

Unless files are replaced, generating writes over nothing but the schema, wherever it ends. A file
is looked for before the directories on the way to it are made. For a path without double dots that
makes no difference: what these directories make reachable was reachable before.
-/

namespace CrudScaffold

section

variable {aside : Path} {context : Context} {directory : Path} {world : World}

/-- A path at which nothing stands still has nothing at it when the directories above it have been
made. -/
theorem Tree.Deepens.absent {tree after : Tree} {path : Path}
    (deepens : tree.Deepens (tree.place path.parent) after) (sound : tree.Sound)
    (grows : tree.Grows after) (plain : ".." ∉ path.steps) (proper : path.steps ≠ [])
    (absent : ∀ kind, tree.status path ≠ .ok kind) : ∀ kind, after.status path ≠ .ok kind := by
  intro kind there
  obtain ⟨location, located, stands⟩ := Tree.status_eq_ok_iff.mp there
  have free := sound.free_of_absent plain grows located absent
  have same := deepens.entry_of_not_prefix (not_place_prefix_parent proper)
  rw [Tree.eq_place_of_locate plain located, grows.place, Tree.kind?, same, free] at stands
  contradiction

/-- Placing a file writes over nothing, unless files are replaced. -/
theorem spares_placeFile {file : SourceFile} (sound : world.tree.Sound)
    (plain : ".." ∉ (file.pathIn directory context.nameKebab).steps)
    (proper : (file.pathIn directory context.nameKebab).steps ≠ []) :
    (placeFile false context directory file).Always (Tree.Spares aside) world := by
  unfold placeFile
  generalize file.pathIn directory context.nameKebab = path at plain proper ⊢
  have look : (Script.isThere path).Within (·.isLook) fun _ => True :=
    Script.within_isThere fun _ => trivial
  refine Script.always_bind_iff.mpr
    ⟨look.spares_of_isLook world, fun there middle asked => ?_⟩
  obtain ⟨rfl, answer⟩ := Script.of_run_isThere asked
  cases there with
  | true => trivial
  | false =>
    have absent : ∀ kind, middle.tree.status path ≠ .ok kind := fun kind found =>
      absurd (answer.mpr ⟨kind, found⟩) Bool.false_ne_true
    cases file.render context.members with
    | error fault => trivial
    | ok content =>
      have directories : (Script.makeDirectories path.parent).Within (·.isWrite = false)
          fun _ => True := Script.within_makeDirectoriesWithin (fun _ _ _ => trivial) _
      have above : ".." ∉ path.parent.steps := fun member =>
        plain ((List.dropLast_sublist _).mem member)
      have writing : (Script.writeTextWithin path content).Always (Tree.Spares aside) middle := by
        refine Script.always_bind_iff.mpr ⟨directories.spares middle, fun value after making => ?_⟩
        have grows := Script.grows_run (Script.makeDirectories path.parent) middle
        rw [making] at grows
        have deepens := Script.deepens_makeDirectories above making
        exact Script.spares_writeText (.inr (deepens.absent sound grows plain proper absent)) _
      change (Script.writeTextWithin path content >>= fun _ =>
        (pure ⟨[path], []⟩ : Script Placement)).Always _ _
      exact Script.always_bind_iff.mpr ⟨writing, fun _ _ _ => trivial⟩

/-- Placing files writes over nothing, unless files are replaced. -/
theorem spares_placeFiles {sources : List SourceFile} (sound : world.tree.Sound)
    (plain : ∀ file : SourceFile, ".." ∉ (file.pathIn directory context.nameKebab).steps ∧
      (file.pathIn directory context.nameKebab).steps ≠ []) :
    (placeFiles false context directory sources).Always (Tree.Spares aside) world := by
  induction sources generalizing world with
  | nil => trivial
  | cons file sources ih =>
    refine Script.always_bind_iff.mpr
      ⟨spares_placeFile sound (plain file).1 (plain file).2, fun first middle placed => ?_⟩
    have later := Script.sound_run (placeFile false context directory file) sound
    rw [placed] at later
    exact Script.always_bind_iff.mpr ⟨ih later, fun _ _ _ => trivial⟩

end

section

variable {settings : Settings} {entity : Entity} {world : World}

/-- Adding a model writes over nothing but the schema. -/
theorem spares_addModel :
    (addModel settings entity).Always (Tree.Spares settings.schemaFile) world := by
  have look : (readSchema settings).Within (·.isLook) fun _ => True :=
    within_readSchema (fun _ => trivial) (fun _ => trivial) fun _ => trivial
  refine Script.always_bind_iff.mpr ⟨look.spares_of_isLook world, fun text middle _ => ?_⟩
  cases appendModel? text entity with
  | none => trivial
  | some schema =>
    exact Script.always_bind_iff.mpr
      ⟨Script.spares_writeText (.inl rfl) schema, fun _ _ _ => trivial⟩

/-- Placing the files of an entity writes over nothing, unless files are replaced. -/
theorem spares_placeEntity (off : settings.overwrite = false) (plain : settings.Plain)
    (word : Text.isWord entity.name.toList = true) (sound : world.tree.Sound) {aside : Path} :
    (placeEntity settings entity).Always (Tree.Spares aside) world := by
  obtain ⟨inModule, inTests⟩ := plain.directories word
  unfold placeEntity placeModule placeTests
  rw [off]
  refine Script.always_bind_iff.mpr
    ⟨spares_placeFiles sound fun file => file.plain_pathIn inModule word, ?_⟩
  intro moduleFiles middle placed
  cases settings.skipTests with
  | true => trivial
  | false =>
    have later := Script.sound_run (placeFiles false (.ofEntity entity)
      (settings.moduleDirectory entity) SourceFile.ofModule) sound
    rw [placed] at later
    exact Script.always_bind_iff.mpr
      ⟨spares_placeFiles later fun file => file.plain_pathIn inTests word, fun _ _ _ => trivial⟩

/-- Generating from an entity writes over nothing but the schema, unless files are replaced. -/
theorem spares_generateJudged (off : settings.overwrite = false) (plain : settings.Plain)
    (word : Text.isWord entity.name.toList = true) (sound : world.tree.Sound) :
    (generateJudged settings entity).Always (Tree.Spares settings.schemaFile) world := by
  have first (added : Bool) :
      (sayModel settings entity added).Within (·.isWrite = false) fun _ => True :=
    within_sayModel (fun _ => rfl) settings entity added
  have second (files : Placement) :
      (sayFiles settings files).Within (·.isWrite = false) fun _ => True :=
    within_sayFiles (fun _ => rfl) settings files
  rw [generateJudged_eq]
  refine Script.always_bind_iff.mpr ⟨spares_addModel, fun added middle adding => ?_⟩
  refine Script.always_bind_iff.mpr ⟨(first added).spares middle, fun _ last saying => ?_⟩
  have later := Script.sound_run (addModel settings entity) sound
  rw [adding] at later
  have still := Script.sound_run (sayModel settings entity added) later
  rw [saying] at still
  refine Script.always_bind_iff.mpr
    ⟨spares_placeEntity off plain word still, fun files placed _ => ?_⟩
  exact Script.always_bind_iff.mpr ⟨(second files).spares placed, fun _ _ _ => trivial⟩

/-- A batch writes over nothing but the schema, unless files are replaced. -/
theorem spares_generateAll {batch : List Entity} (off : settings.overwrite = false)
    (plain : settings.Plain) (word : ∀ entity ∈ batch, Text.isWord entity.name.toList = true)
    (sound : world.tree.Sound) :
    (generateAll settings batch).Always (Tree.Spares settings.schemaFile) world := by
  by_cases refused : Refused settings batch
  · rw [generateAll_of_refused refused]
    trivial
  rw [generateAll_of_not_refused refused]
  clear refused
  induction batch generalizing world with
  | nil => trivial
  | cons entity batch ih =>
    obtain ⟨here, others⟩ := List.forall_mem_cons.mp word
    rw [List.mapM_cons]
    refine Script.always_bind_iff.mpr
      ⟨spares_generateJudged off plain here sound, fun first middle generated => ?_⟩
    have later := Script.sound_run (generateJudged settings entity) sound
    rw [generated] at later
    exact Script.always_bind_iff.mpr ⟨ih others later, fun _ _ _ => trivial⟩

/-- Generating from an entity leaves every file but the schema as it was, unless files are replaced,
however it ends. -/
theorem entry?_generate {location : Location} {content : List UInt8}
    (off : settings.overwrite = false) (plain : settings.Plain)
    (word : Text.isWord entity.name.toList = true) (sound : world.tree.Sound)
    (elsewhere : location ≠ world.tree.place settings.schemaFile)
    (file : world.tree.entry? location = some (.file content)) :
    ((generate settings entity).run world).2.tree.entry? location = some (.file content) := by
  have plainSchema : ".." ∉ settings.schemaFile.steps :=
    Path.notMem_append plain.root plain.schema
  by_cases valid : entity.violations = []
  · rw [generate_of_no_violations valid]
    exact Script.entry?_run_of_spares plainSchema (spares_generateJudged off plain word sound)
      elsewhere file
  · rw [generate_of_violations valid]
    exact file

end

end CrudScaffold
