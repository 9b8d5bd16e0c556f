import CrudScaffold.Generation.Run
import CrudScaffold.Proofs.Script.Files
import CrudScaffold.Proofs.Source.Rendering

/-!
# Parts of a generation

An entity is generated from in three parts: its model is added to the schema, its files are placed,
and what happened is said. Only the first part looks for the schema, and only the second one renders
templates. Templates find all that they take, so the second part fails only where a file action is
refused at an output of the entity, or on the way to one.
-/

namespace CrudScaffold

/-- Say that the model of an entity was there already. -/
def sayModel (settings : Settings) (entity : Entity) (added : Bool) : Script Unit :=
  if added then pure ()
  else
    Console.say ("Model " ++ entity.name ++ " already exists in " ++ settings.schemaFile.text ++
      "; left unchanged")

/-- Say what became of files, where that is wanted. -/
def sayFiles (settings : Settings) (files : Placement) : Script Unit :=
  if settings.verbose then do
    files.written.forM fun path => Console.say ("wrote " ++ path.text)
    files.kept.forM fun path => Console.say ("kept  " ++ path.text)
  else pure ()

/-- Place the files of an entity: those of its module, and then those of its tests. -/
def placeEntity (settings : Settings) (entity : Entity) : Script Placement := do
  let moduleFiles ← placeModule settings entity
  let testFiles ← if settings.skipTests then pure {} else placeTests settings entity
  return moduleFiles ++ testFiles

/-- The parts of a generation. -/
theorem generateJudged_eq (settings : Settings) (entity : Entity) :
    generateJudged settings entity = (do
      let modelAdded ← addModel settings entity
      sayModel settings entity modelAdded
      let files ← placeEntity settings entity
      sayFiles settings files
      return ⟨entity.name, modelAdded, files⟩) := by
  unfold generateJudged placeEntity sayModel sayFiles
  refine bind_congr fun modelAdded => ?_
  cases modelAdded <;> cases settings.verbose <;> cases settings.skipTests <;> simp

/-! ### The schema -/

section

variable {settings : Settings} {entity : Entity} {world after : World}

/-- A file with a text is a file. -/
theorem Tree.Holds.status {tree : Tree} {path : Path} {text : String}
    (holds : tree.Holds path text) : tree.status path = .ok .file := by
  obtain ⟨location, content, characters, located, file, -, -⟩ := holds
  exact Tree.status_eq_ok_iff.mpr ⟨location, located, Tree.kind?_eq_file_iff.mpr ⟨content, file⟩⟩

/-- The text of the schema is that of its file. -/
theorem run_readSchema_eq_ok_iff {text : String} :
    (readSchema settings).run world = (.ok text, after) ↔
      after = world ∧ world.tree.Holds settings.schemaFile text := by
  constructor
  · intro asked
    obtain ⟨there, middle, question, rest⟩ := Script.exists_of_run_bind asked
    obtain ⟨rfl, -⟩ := Script.of_run_isFile question
    cases there with
    | false => exact absurd (Prod.mk.inj rest).1 (by simp)
    | true => exact Script.of_run_readText rest
  · rintro ⟨rfl, holds⟩
    exact (Script.run_bind_of_ok (Script.run_isFile_of_ok holds.status) _).trans
      (Script.run_readText_of_holds holds)

/-- Reading the schema changes nothing. -/
theorem within_readSchema {fails : Failure → Prop} (files : ∀ fault, fails (.file fault))
    (encoded : ∀ fault, fails (.encoding fault)) (missing : ∀ path, fails (.noSchema path)) :
    (readSchema settings).Within (·.isLook) fails := by
  refine ((Script.within_kindAt fun reason => files _).bind fun kind => .done _).bind fun there => ?_
  cases there with
  | false => exact .fail (missing _)
  | true => exact Script.within_readText files encoded

/-- A model is not added where the schema declares it. -/
theorem run_addModel_of_hasModel {text : String} (holds : world.tree.Holds settings.schemaFile text)
    (declared : hasModel text entity.name = true) :
    (addModel settings entity).run world = (.ok false, world) := by
  have read := run_readSchema_eq_ok_iff.mpr ⟨Eq.refl world, holds⟩
  refine (Script.run_bind_of_ok read _).trans ?_
  rw [appendModel?, if_pos declared]
  rfl

/-- Adding a model that the schema does not declare is writing the schema with the model behind. -/
theorem run_addModel_eq_writeText {text : String}
    (holds : world.tree.Holds settings.schemaFile text)
    (undeclared : hasModel text entity.name = false) :
    (addModel settings entity).run world =
      (Script.writeText settings.schemaFile (appendFragment text entity.model) >>= fun _ =>
        pure true).run world := by
  have read := run_readSchema_eq_ok_iff.mpr ⟨Eq.refl world, holds⟩
  refine (Script.run_bind_of_ok read _).trans ?_
  rw [appendModel?, undeclared]
  rfl

/-- A model that the schema does not declare is added to it. -/
theorem run_addModel_of_not_hasModel {location : Location} {text : String}
    (located : world.tree.locate settings.schemaFile = .ok location)
    (holds : world.tree.Holds settings.schemaFile text)
    (undeclared : hasModel text entity.name = false) :
    (addModel settings entity).run world =
      (.ok true, world.withText location (appendFragment text entity.model)) := by
  have file : world.tree.entry? location ≠ some .directory := by
    obtain ⟨other, content, characters, there, file, -, -⟩ := holds
    obtain rfl := Except.ok.inj (there.symm.trans located)
    simp [file]
  have written : (Script.writeText settings.schemaFile
      (appendFragment text entity.model)).run world =
        (.ok (), world.withText location (appendFragment text entity.model)) :=
    Script.run_writeText_eq_ok_iff.mpr ⟨location, located, file, rfl⟩
  rw [run_addModel_eq_writeText holds undeclared]
  exact Script.run_bind_of_ok written _

/-- A model is added only to a schema that is there. -/
theorem holds_of_run_addModel {added : Bool}
    (ran : (addModel settings entity).run world = (.ok added, after)) :
    ∃ text, world.tree.Holds settings.schemaFile text := by
  obtain ⟨text, middle, read, -⟩ := Script.exists_of_run_bind ran
  exact ⟨text, (run_readSchema_eq_ok_iff.mp read).2⟩

end

/-! ### Bounds -/

section

variable {paths : List Path} {fails : Failure → Prop}

/-- Saying something fails in no way. -/
theorem within_say {asks : Action → Prop} (allowed : ∀ text, asks (.print text))
    (message : String) : (Console.say message).Within asks fails :=
  .act (allowed _) fun _ => .done _

/-- Saying that a model was there fails in no way. -/
theorem within_sayModel {asks : Action → Prop} (allowed : ∀ text, asks (.print text))
    (settings : Settings) (entity : Entity) (added : Bool) :
    (sayModel settings entity added).Within asks fails := by
  cases added with
  | false => exact within_say allowed _
  | true => exact .done _

/-- Saying what became of files fails in no way. -/
theorem within_sayFiles {asks : Action → Prop} (allowed : ∀ text, asks (.print text))
    (settings : Settings) (files : Placement) : (sayFiles settings files).Within asks fails := by
  unfold sayFiles
  split
  · exact (Script.Within.forM (fun path => within_say allowed _) _).bind fun _ =>
      Script.Within.forM (fun path => within_say allowed _) _
  · exact .done _

/-- Placing a file writes to its path, and fails only at files on the way to it. -/
theorem within_placeFile {overwrite : Bool} {context : Context} {directory : Path}
    {file : SourceFile} (member : file.pathIn directory context.nameKebab ∈ paths)
    (files : ∀ reason above, above.OnWayTo (file.pathIn directory context.nameKebab) →
      fails (.file ⟨reason, above⟩)) :
    (placeFile overwrite context directory file).Within (Action.WritesAmong paths) fails := by
  have here : ∀ reason, fails (.file ⟨reason, file.pathIn directory context.nameKebab⟩) :=
    fun reason => files reason _ (Path.onWayTo_refl _)
  refine (Script.within_isThere here).writesAmong_of_isLook.bind fun there => ?_
  split
  · exact .done _
  · obtain ⟨content, rendered⟩ := file.exists_content context
    rw [rendered]
    have directories : (Script.makeDirectories
        (file.pathIn directory context.nameKebab).parent).Within (·.isWrite = false) fails :=
      Script.within_makeDirectoriesWithin (fun reason above way => files reason above
        way.of_parent) _
    have writing : (Script.writeTextWithin (file.pathIn directory context.nameKebab)
        content).Within (Action.WritesAmong paths) fails :=
      directories.writesAmong.bind fun _ => Script.within_writeText member here content
    exact writing.bind fun _ => .done _

/-- Placing files writes to their paths, and fails only at files on the way to one of them. -/
theorem within_placeFiles {overwrite : Bool} {context : Context} {directory : Path}
    {sources : List SourceFile}
    (members : ∀ file ∈ sources, file.pathIn directory context.nameKebab ∈ paths)
    (files : ∀ reason above, ∀ file ∈ sources,
      above.OnWayTo (file.pathIn directory context.nameKebab) → fails (.file ⟨reason, above⟩)) :
    (placeFiles overwrite context directory sources).Within (Action.WritesAmong paths) fails := by
  induction sources with
  | nil => exact .done _
  | cons file sources ih =>
    obtain ⟨member, others⟩ := List.forall_mem_cons.mp members
    have first : (placeFile overwrite context directory file).Within (Action.WritesAmong paths)
        fails :=
      within_placeFile member fun reason above => files reason above file List.mem_cons_self
    have rest : (placeFiles overwrite context directory sources).Within (Action.WritesAmong paths)
        fails :=
      ih others fun reason above other member =>
        files reason above other (List.mem_cons_of_mem _ member)
    exact first.bind fun placed => rest.bind fun further => .done _

/-- Placing the files of an entity writes to its outputs, and fails only at files on the way to one
of them. -/
theorem within_placeEntity {settings : Settings} {entity : Entity}
    (members : ∀ output ∈ settings.outputs entity, output ∈ paths)
    (files : ∀ reason above, ∀ output ∈ settings.outputs entity, above.OnWayTo output →
      fails (.file ⟨reason, above⟩)) :
    (placeEntity settings entity).Within (Action.WritesAmong paths) fails := by
  unfold Settings.outputs at members files
  dsimp only at members files
  have moduleFiles : (placeModule settings entity).Within (Action.WritesAmong paths) fails :=
    within_placeFiles
      (fun file member => members _ (List.mem_append_left _ (List.mem_map_of_mem member)))
      fun reason above file member =>
        files reason above _ (List.mem_append_left _ (List.mem_map_of_mem member))
  refine moduleFiles.bind fun placed => ?_
  dsimp only
  split
  next => exact .done _
  next tested =>
    rw [if_neg tested] at members files
    have testFiles : (placeTests settings entity).Within (Action.WritesAmong paths) fails :=
      within_placeFiles
        (fun file member => members _ (List.mem_append_right _ (List.mem_map_of_mem member)))
        fun reason above file member =>
          files reason above _ (List.mem_append_right _ (List.mem_map_of_mem member))
    exact testFiles.bind fun placed => .done _

/-- What follows when a model is in the schema writes to the outputs of the entity, and fails only
at files on the way to one of them. -/
theorem within_afterModel {settings : Settings} {entity : Entity}
    (members : ∀ output ∈ settings.outputs entity, output ∈ paths)
    (files : ∀ reason above, ∀ output ∈ settings.outputs entity, above.OnWayTo output →
      fails (.file ⟨reason, above⟩)) (added : Bool) :
    (do
      sayModel settings entity added
      let files ← placeEntity settings entity
      sayFiles settings files
      return (⟨entity.name, added, files⟩ : Generated)).Within (Action.WritesAmong paths) fails :=
  (within_sayModel (fun _ => trivial) settings entity added).bind fun _ =>
    (within_placeEntity members files).bind fun placed =>
      (within_sayFiles (fun _ => trivial) settings placed).bind fun _ => .done _

/-- Adding a model writes to the schema. It fails at files, at a text that is none, and without a
schema. -/
theorem within_addModel {settings : Settings} (member : settings.schemaFile ∈ paths)
    (files : ∀ fault, fails (.file fault)) (encoded : ∀ fault, fails (.encoding fault))
    (missing : ∀ path, fails (.noSchema path)) (entity : Entity) :
    (addModel settings entity).Within (Action.WritesAmong paths) fails := by
  refine (within_readSchema files encoded missing).writesAmong_of_isLook.bind fun text => ?_
  cases appendModel? text entity with
  | none => exact .done _
  | some schema =>
    exact (Script.within_writeText member (fun reason => files _) schema).bind fun _ => .done _

/-- An entity that has been judged is generated from without a word about violations, and what is
written are the schema and the outputs of the entity. -/
theorem within_generateJudged (settings : Settings) (entity : Entity) :
    (generateJudged settings entity).Within
      (Action.WritesAmong (settings.schemaFile :: settings.outputs entity))
      fun failure => ∀ subject messages, failure ≠ .invalid subject messages := by
  rw [generateJudged_eq]
  exact (within_addModel List.mem_cons_self (by simp) (by simp) (by simp) entity).bind fun added =>
    within_afterModel (fun _ => List.mem_cons_of_mem _) (by simp) added

/-- The same of the failures alone, which is a bound for every entity of a batch. -/
theorem within_generateJudged_any (settings : Settings) (entity : Entity) :
    (generateJudged settings entity).Within (fun _ => True)
      fun failure => ∀ subject messages, failure ≠ .invalid subject messages :=
  (within_generateJudged settings entity).mono (fun _ _ => trivial) fun _ same => same

end

/-! ### Runs that end -/

/-- A run that places a file has kept what is there, where nothing is replaced, or it has rendered
the file, made the directories, and written it. -/
theorem of_run_placeFile {overwrite : Bool} {context : Context} {directory : Path}
    {file : SourceFile} {placement : Placement} {world after : World} {path : Path}
    (spelled : file.pathIn directory context.nameKebab = path)
    (ran : (placeFile overwrite context directory file).run world = (.ok placement, after)) :
    (overwrite = false ∧ (∃ kind, world.tree.status path = .ok kind) ∧ placement = ⟨[], [path]⟩ ∧
      after = world) ∨
    ∃ content middle, (overwrite = false → (Script.isThere path).run world = (.ok false, world)) ∧
      file.render context.members = .ok content ∧
      (Script.makeDirectories path.parent).run world = (.ok (), middle) ∧
      (Script.writeText path content).run middle = (.ok (), after) ∧ placement = ⟨[path], []⟩ := by
  unfold placeFile at ran
  rw [spelled] at ran
  obtain ⟨there, start, asked, rest⟩ := Script.exists_of_run_bind ran
  obtain ⟨rfl, answer⟩ := Script.of_run_isThere asked
  by_cases keep : (there && !overwrite) = true
  · rw [if_pos keep] at rest
    rw [Bool.and_eq_true, Bool.not_eq_true'] at keep
    obtain ⟨same, rfl⟩ := Prod.mk.inj rest
    exact .inl ⟨keep.2, answer.mp keep.1, (Except.ok.inj same).symm, rfl⟩
  · rw [if_neg keep] at rest
    have absent (off : overwrite = false) : there = false := by
      simpa [off] using keep
    cases rendered : file.render context.members with
    | error fault =>
      rw [rendered] at rest
      exact absurd (Prod.mk.inj rest).1 (by simp)
    | ok content =>
      rw [rendered] at rest
      obtain ⟨value, last, whole, rest⟩ := @Script.exists_of_run_bind _ _
        (Script.writeTextWithin path content) _ _ _ _ rest
      obtain ⟨same, rfl⟩ := Prod.mk.inj rest
      obtain ⟨made, middle, making, writing⟩ := Script.exists_of_run_bind whole
      exact .inr ⟨content, middle, fun off => absent off ▸ asked, rfl, making, writing,
        (Except.ok.inj same).symm⟩

/-- A generation that ends has added the model and placed the files, and what it said changed no
file. What holds of every action of the run holds while the files are placed. -/
theorem exists_of_generateJudged {settings : Settings} {entity : Entity} {world after : World}
    {generated : Generated}
    (ran : (generateJudged settings entity).run world = (.ok generated, after)) :
    ∃ added middle said files placed,
      (addModel settings entity).run world = (.ok added, middle) ∧ said.tree = middle.tree ∧
      (placeEntity settings entity).run said = (.ok files, placed) ∧ after.tree = placed.tree ∧
      generated = ⟨entity.name, added, files⟩ ∧
      ∀ allows, (generateJudged settings entity).Always allows world →
        (placeEntity settings entity).Always allows said := by
  rw [generateJudged_eq] at ran ⊢
  obtain ⟨added, middle, adding, ran⟩ := Script.exists_of_run_bind ran
  obtain ⟨told, said, saying, ran⟩ := Script.exists_of_run_bind ran
  obtain ⟨files, placed, placing, ran⟩ := Script.exists_of_run_bind ran
  obtain ⟨also, last, telling, ran⟩ := Script.exists_of_run_bind ran
  obtain ⟨same, rfl⟩ := Prod.mk.inj ran
  obtain rfl := Except.ok.inj same
  have first : (sayModel settings entity added).Within (·.isLook) fun _ => True :=
    within_sayModel (fun _ => rfl) settings entity added
  have second : (sayFiles settings files).Within (·.isLook) fun _ => True :=
    within_sayFiles (fun _ => rfl) settings files
  have quiet := first.tree_eq middle
  have still := second.tree_eq placed
  rw [saying] at quiet
  rw [telling] at still
  refine ⟨added, middle, said, files, placed, adding, quiet, placing, still, rfl,
    fun allows always => ?_⟩
  have rest := (Script.always_bind_iff.mp always).2 _ _ adding
  have placingRest := (Script.always_bind_iff.mp rest).2 _ _ saying
  exact (Script.always_bind_iff.mp placingRest).1

end CrudScaffold
