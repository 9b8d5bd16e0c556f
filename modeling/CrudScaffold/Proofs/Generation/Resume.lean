import CrudScaffold.Proofs.Generation.Advance

/-!
# Generating again

A batch that was broken off, wherever that was, is finished by generating it again, and generating
once more does nothing and says so. This holds of every run that writes over nothing but the schema.
With files that are not replaced a run of settings without double dots is one of these; behind a
double dot, a file that is there can be out of reach while it is looked for.
-/

namespace CrudScaffold

/-! ### Resuming -/

section

variable {context : Context} {directory schema : Path} {sources : List SourceFile}
  {world after : World} {placement : Placement}

/-- Placing files resumes a run of its own that wrote over nothing but the schema, where there is
one. -/
theorem resumes_placeFiles (there : world.tree.status schema = .ok .file)
    (spares : (placeFiles false context directory sources).Always (Tree.Spares schema) world)
    (ran : (placeFiles false context directory sources).run world = (.ok placement, after)) :
    Script.Resumes (Tree.Advances schema) (placeFiles false context directory sources)
      (placeFiles false context directory sources) world := by
  induction sources generalizing world after placement with
  | nil => exact .of_isLook (Tree.Advances.refl schema) (.done _) (.done _) world
  | cons file sources ih =>
    obtain ⟨first, middle, placing, ran⟩ := Script.exists_of_run_bind ran
    obtain ⟨further, last, placingRest, -⟩ := Script.exists_of_run_bind ran
    obtain ⟨sparesFirst, sparesRest⟩ := Script.always_bind_iff.mp spares
    have sparesRest := (Script.always_bind_iff.mp (sparesRest first middle placing)).1
    have grows := Script.grows_run (placeFile false context directory file) world
    rw [placing] at grows
    refine .bind Tree.Advances.trans placing (resumes_placeFile there sparesFirst placing)
      fun _ => .bind Tree.Advances.trans placingRest
        (ih (grows.status there) sparesRest placingRest) fun _ => ?_
    exact .of_isLook (Tree.Advances.refl schema) (.done _) (.done _) last

end

section

variable {settings : Settings} {entity : Entity} {batch : List Entity} {world after : World}

/-- Placing the files of an entity resumes a run of its own that wrote over nothing but the
schema. -/
theorem resumes_placeEntity {placement : Placement} (off : settings.overwrite = false)
    (there : world.tree.status settings.schemaFile = .ok .file)
    (spares : (placeEntity settings entity).Always (Tree.Spares settings.schemaFile) world)
    (ran : (placeEntity settings entity).run world = (.ok placement, after)) :
    Script.Resumes (Tree.Advances settings.schemaFile) (placeEntity settings entity)
      (placeEntity settings entity) world := by
  unfold placeEntity placeModule placeTests at spares ran ⊢
  rw [off] at spares ran ⊢
  obtain ⟨moduleFiles, middle, placing, ran⟩ := Script.exists_of_run_bind ran
  obtain ⟨sparesModule, sparesTests⟩ := Script.always_bind_iff.mp spares
  have sparesTests := sparesTests moduleFiles middle placing
  have grows := Script.grows_run (placeFiles false (.ofEntity entity)
    (settings.moduleDirectory entity) SourceFile.ofModule) world
  rw [placing] at grows
  refine .bind Tree.Advances.trans placing (resumes_placeFiles there sparesModule placing)
    fun _ => ?_
  have look := Tree.Advances.refl settings.schemaFile
  cases skip : settings.skipTests with
  | true => exact .of_isLook look (.done _) (.done _) middle
  | false =>
    rw [skip] at ran sparesTests
    obtain ⟨testFiles, last, placingTests, -⟩ := Script.exists_of_run_bind ran
    have sparesTests := (Script.always_bind_iff.mp sparesTests).1
    exact .bind Tree.Advances.trans placingTests
      (resumes_placeFiles (grows.status there) sparesTests placingTests)
      fun _ => .of_isLook look (.done _) (.done _) last

/-- Generating from an entity resumes a run of its own that wrote over nothing but the schema. -/
theorem resumes_generateJudged {generated : Generated} (off : settings.overwrite = false)
    (word : Text.isWord entity.name.toList = true)
    (spares : (generateJudged settings entity).Always (Tree.Spares settings.schemaFile) world)
    (ran : (generateJudged settings entity).run world = (.ok generated, after)) :
    Script.Resumes (Tree.Advances settings.schemaFile) (generateJudged settings entity)
      (generateJudged settings entity) world := by
  rw [generateJudged_eq] at spares ran ⊢
  obtain ⟨added, middle, adding, ran⟩ := Script.exists_of_run_bind ran
  obtain ⟨told, said, saying, ran⟩ := Script.exists_of_run_bind ran
  obtain ⟨files, placed, placing, ran⟩ := Script.exists_of_run_bind ran
  obtain ⟨also, last, telling, -⟩ := Script.exists_of_run_bind ran
  have sparesRest := (Script.always_bind_iff.mp spares).2 added middle adding
  have sparesRest := (Script.always_bind_iff.mp sparesRest).2 told said saying
  have sparesFiles := (Script.always_bind_iff.mp sparesRest).1
  have there : said.tree.status settings.schemaFile = .ok .file := by
    obtain ⟨text, holds⟩ := holds_of_run_addModel adding
    have grows := Script.grows_run (addModel settings entity) world
    have still := Script.grows_run (sayModel settings entity added) middle
    rw [adding] at grows
    rw [saying] at still
    exact still.status (grows.status holds.status)
  have look := Tree.Advances.refl settings.schemaFile
  have model (added : Bool) : (sayModel settings entity added).Within (·.isLook) fun _ => False :=
    within_sayModel (fun _ => rfl) settings entity added
  have report (files : Placement) : (sayFiles settings files).Within (·.isLook) fun _ => False :=
    within_sayFiles (fun _ => rfl) settings files
  refine .bind Tree.Advances.trans adding (resumes_addModel word adding) fun again => ?_
  refine .bind Tree.Advances.trans saying (.of_isLook look (model added) (model again) middle)
    fun _ => ?_
  refine .bind Tree.Advances.trans placing (resumes_placeEntity off there sparesFiles placing)
    fun again => ?_
  exact .bind Tree.Advances.trans telling (.of_isLook look (report files) (report again) placed)
    fun _ => .of_isLook look (.done _) (.done _) last

/-- Generating from entities in order resumes a run of its own that wrote over nothing but the
schema. -/
theorem resumes_mapM_generateJudged {results : List Generated} (off : settings.overwrite = false)
    (word : ∀ entity ∈ batch, Text.isWord entity.name.toList = true)
    (spares : (batch.mapM (generateJudged settings)).Always (Tree.Spares settings.schemaFile) world)
    (ran : (batch.mapM (generateJudged settings)).run world = (.ok results, after)) :
    Script.Resumes (Tree.Advances settings.schemaFile) (batch.mapM (generateJudged settings))
      (batch.mapM (generateJudged settings)) world := by
  have look := Tree.Advances.refl settings.schemaFile
  induction batch generalizing world after results with
  | nil => exact .of_isLook look (.done _) (.done _) world
  | cons entity batch ih =>
    obtain ⟨here, others⟩ := List.forall_mem_cons.mp word
    rw [List.mapM_cons] at spares ran ⊢
    obtain ⟨first, middle, generating, ran⟩ := Script.exists_of_run_bind ran
    obtain ⟨further, last, generatingRest, -⟩ := Script.exists_of_run_bind ran
    obtain ⟨sparesFirst, sparesRest⟩ := Script.always_bind_iff.mp spares
    have sparesRest := (Script.always_bind_iff.mp (sparesRest first middle generating)).1
    exact .bind Tree.Advances.trans generating
      (resumes_generateJudged off here sparesFirst generating) fun _ =>
        .bind Tree.Advances.trans generatingRest (ih others sparesRest generatingRest) fun _ =>
          .of_isLook look (.done _) (.done _) last

/-! ### What is settled -/

/-- All that belongs to an entity is there. -/
structure Settled (settings : Settings) (tree : Tree) (entity : Entity) : Prop where
  /-- The schema declares its model. -/
  declared : ∃ text, tree.Holds settings.schemaFile text ∧ hasModel text entity.name = true
  /-- Something stands at each of its paths. -/
  there : ∀ path ∈ settings.outputs entity, ∃ kind, tree.status path = .ok kind

/-- What is settled stays settled. -/
theorem Settled.advances {before after : Tree} (settled : Settled settings before entity)
    (beyond : before.Advances settings.schemaFile after) : Settled settings after entity := by
  obtain ⟨text, holds, declared⟩ := settled.declared
  obtain ⟨later, held, further⟩ := beyond.declares text holds
  refine ⟨⟨later, held, further _ declared⟩, fun path member => ?_⟩
  obtain ⟨kind, there⟩ := settled.there path member
  exact ⟨kind, beyond.grows.status there⟩

/-- A file that was not kept holds its rendering. -/
theorem read_of_placeFile {overwrite : Bool} {context : Context} {directory : Path}
    {file : SourceFile} {placement : Placement}
    (ran : (placeFile overwrite context directory file).run world = (.ok placement, after)) :
    placement = ⟨[], [file.pathIn directory context.nameKebab]⟩ ∧ after = world ∨
      placement = ⟨[file.pathIn directory context.nameKebab], []⟩ ∧
      ∃ content, file.render context.members = .ok content ∧
        after.tree.read (file.pathIn directory context.nameKebab) =
          .ok (Text.encodeUtf8 content.toList) := by
  rcases of_run_placeFile rfl ran with ⟨-, -, kept, same⟩ |
    ⟨content, middle, -, rendered, -, writing, reported⟩
  · exact .inl ⟨kept, same⟩
  · obtain ⟨location, located, noDirectory, rfl⟩ := Script.run_writeText_eq_ok_iff.mp writing
    exact .inr ⟨reported, content, rendered, Tree.read_of_write
      (Tree.write_eq_ok_iff.mpr ⟨location, located, noDirectory, rfl⟩)⟩

/-- Files of which none was written have changed nothing. -/
theorem eq_of_placeFiles {overwrite : Bool} {context : Context} {directory : Path}
    {sources : List SourceFile} {placement : Placement}
    (ran : (placeFiles overwrite context directory sources).run world = (.ok placement, after))
    (none : placement.written = []) : after = world := by
  induction sources generalizing world placement with
  | nil => exact (Prod.mk.inj ran).2.symm
  | cons file sources ih =>
    obtain ⟨first, middle, placing, ran⟩ := Script.exists_of_run_bind ran
    obtain ⟨further, last, placingRest, ran⟩ := Script.exists_of_run_bind ran
    obtain ⟨same, rfl⟩ := Prod.mk.inj ran
    obtain rfl := Except.ok.inj same
    obtain ⟨noFirst, noFurther⟩ := List.append_eq_nil_iff.mp none
    rcases read_of_placeFile placing with ⟨-, rfl⟩ | ⟨rfl, -⟩
    · exact ih placingRest noFurther
    · contradiction

/-- Something stands at the path of a file that was placed. -/
theorem status_of_placeFile {overwrite : Bool} {context : Context} {directory : Path}
    {file : SourceFile} {placement : Placement}
    (ran : (placeFile overwrite context directory file).run world = (.ok placement, after)) :
    ∃ kind, after.tree.status (file.pathIn directory context.nameKebab) = .ok kind := by
  rcases of_run_placeFile rfl ran with ⟨-, there, -, rfl⟩ | ⟨content, middle, -, -, -, writing, -⟩
  · exact there
  · obtain ⟨location, located, noDirectory, rfl⟩ := Script.run_writeText_eq_ok_iff.mp writing
    exact ⟨.file, Tree.status_of_read (Tree.read_of_write
      (Tree.write_eq_ok_iff.mpr ⟨location, located, noDirectory, rfl⟩))⟩

/-- Something stands at every path of files that were placed. -/
theorem status_of_placeFiles {overwrite : Bool} {context : Context} {directory : Path}
    {sources : List SourceFile} {placement : Placement}
    (ran : (placeFiles overwrite context directory sources).run world = (.ok placement, after)) :
    ∀ file ∈ sources, ∃ kind,
      after.tree.status (file.pathIn directory context.nameKebab) = .ok kind := by
  induction sources generalizing world placement with
  | nil => simp
  | cons file sources ih =>
    obtain ⟨first, middle, placing, ran⟩ := Script.exists_of_run_bind ran
    obtain ⟨further, last, placingRest, ran⟩ := Script.exists_of_run_bind ran
    obtain ⟨-, rfl⟩ := Prod.mk.inj ran
    have grows := Script.grows_run (placeFiles overwrite context directory sources) middle
    rw [placingRest] at grows
    obtain ⟨kind, there⟩ := status_of_placeFile placing
    exact List.forall_mem_cons.mpr ⟨⟨kind, grows.status there⟩, ih placingRest⟩

/-- Something stands at every path of an entity whose files were placed. -/
theorem status_of_placeEntity {placement : Placement}
    (ran : (placeEntity settings entity).run world = (.ok placement, after)) :
    ∀ path ∈ settings.outputs entity, ∃ kind, after.tree.status path = .ok kind := by
  obtain ⟨moduleFiles, middle, placing, ran⟩ := Script.exists_of_run_bind ran
  have inModule := status_of_placeFiles placing
  rw [Settings.forall_outputs_iff]
  cases skip : settings.skipTests with
  | true =>
    rw [skip] at ran
    obtain ⟨-, rfl⟩ := Prod.mk.inj ran
    exact ⟨inModule, fun same => absurd same (by decide)⟩
  | false =>
    rw [skip] at ran
    obtain ⟨testFiles, last, placingTests, ran⟩ := Script.exists_of_run_bind ran
    obtain ⟨-, rfl⟩ := Prod.mk.inj ran
    have grows := Script.grows_run (placeTests settings entity) middle
    rw [placingTests] at grows
    refine ⟨fun file member => ?_, fun _ => status_of_placeFiles placingTests⟩
    obtain ⟨kind, there⟩ := inModule file member
    exact ⟨kind, grows.status there⟩

/-- An entity that was generated from is settled. -/
theorem settled_of_generateJudged {generated : Generated} (off : settings.overwrite = false)
    (word : Text.isWord entity.name.toList = true)
    (spares : (generateJudged settings entity).Always (Tree.Spares settings.schemaFile) world)
    (ran : (generateJudged settings entity).run world = (.ok generated, after)) :
    Settled settings after.tree entity := by
  obtain ⟨added, middle, said, files, placed, adding, said_eq, placing, after_eq, rfl, part⟩ :=
    exists_of_generateJudged ran
  obtain ⟨-, -, schema, final, -, -, -, -, -, held, declares⟩ := addModel_effect word adding
  rw [← said_eq] at held
  have beyond := (resumes_placeEntity off held.status (part _ spares) placing).passed _
    (Script.passes_run _ said)
  rw [placing, ← after_eq] at beyond
  obtain ⟨later, holds, further⟩ := beyond.declares final held
  refine ⟨⟨later, holds, further _ (declares _ (.inr rfl))⟩, ?_⟩
  rw [after_eq]
  exact status_of_placeEntity placing

/-- Every entity of a batch that was generated from is settled. -/
theorem settled_of_mapM_generateJudged {results : List Generated}
    (off : settings.overwrite = false)
    (word : ∀ entity ∈ batch, Text.isWord entity.name.toList = true)
    (spares : (batch.mapM (generateJudged settings)).Always (Tree.Spares settings.schemaFile) world)
    (ran : (batch.mapM (generateJudged settings)).run world = (.ok results, after)) :
    ∀ entity ∈ batch, Settled settings after.tree entity := by
  induction batch generalizing world results with
  | nil => simp
  | cons entity batch ih =>
    obtain ⟨here, others⟩ := List.forall_mem_cons.mp word
    rw [List.mapM_cons] at spares
    obtain ⟨first, middle, further, generating, generatingRest, -⟩ :=
      Script.exists_of_run_mapM_cons ran
    obtain ⟨sparesFirst, sparesRest⟩ := Script.always_bind_iff.mp spares
    have sparesRest := (Script.always_bind_iff.mp (sparesRest first middle generating)).1
    have beyond := (resumes_mapM_generateJudged off others sparesRest generatingRest).passed _
      (Script.passes_run _ _)
    rw [generatingRest] at beyond
    exact List.forall_mem_cons.mpr
      ⟨(settled_of_generateJudged off here sparesFirst generating).advances beyond,
        ih others sparesRest generatingRest⟩

/-! ### Generating what is settled -/

/-- Files that are there are kept. -/
theorem run_placeFiles_of_there {context : Context} {directory : Path} {sources : List SourceFile}
    (there : ∀ file ∈ sources, ∃ kind,
      world.tree.status (file.pathIn directory context.nameKebab) = .ok kind) :
    (placeFiles false context directory sources).run world =
      (.ok ⟨[], sources.map fun file => file.pathIn directory context.nameKebab⟩, world) := by
  induction sources with
  | nil => rfl
  | cons file sources ih =>
    obtain ⟨⟨kind, here⟩, others⟩ := List.forall_mem_cons.mp there
    exact (Script.run_bind_of_ok (run_placeFile_of_there here) _).trans
      ((Script.run_bind_of_ok (ih others) _).trans rfl)

/-- The files of a settled entity are kept, all of them in order. -/
theorem run_placeEntity_of_there (off : settings.overwrite = false)
    (there : ∀ path ∈ settings.outputs entity, ∃ kind, world.tree.status path = .ok kind) :
    (placeEntity settings entity).run world = (.ok ⟨[], settings.outputs entity⟩, world) := by
  obtain ⟨inModule, inTests⟩ := Settings.forall_outputs_iff.mp there
  unfold placeEntity placeModule placeTests
  rw [off]
  refine (Script.run_bind_of_ok (run_placeFiles_of_there inModule) _).trans ?_
  unfold Settings.outputs
  cases skip : settings.skipTests with
  | true => rfl
  | false =>
    exact (Script.run_bind_of_ok (run_placeFiles_of_there (inTests skip)) _).trans rfl

/-- Where all paths of an entity are taken, generating adds the model, if it does, and keeps all of
them. -/
theorem run_generateJudged_of_there {middle : World} {added : Bool}
    (off : settings.overwrite = false)
    (adding : (addModel settings entity).run world = (.ok added, middle))
    (there : ∀ path ∈ settings.outputs entity, ∃ kind, middle.tree.status path = .ok kind) :
    ∃ after, (generateJudged settings entity).run world =
      (.ok ⟨entity.name, added, ⟨[], settings.outputs entity⟩⟩, after) ∧
      after.tree = middle.tree := by
  have model : (sayModel settings entity added).Within (·.isLook) fun _ => False :=
    within_sayModel (fun _ => rfl) settings entity added
  have report : (sayFiles settings ⟨[], settings.outputs entity⟩).Within (·.isLook)
      fun _ => False := within_sayFiles (fun _ => rfl) settings _
  obtain ⟨told, said, saying, still⟩ := model.leads _ middle rfl
  rw [← still] at there
  obtain ⟨also, last, telling, same⟩ := report.leads _ said rfl
  refine ⟨last, ?_, same.trans still⟩
  rw [generateJudged_eq, Script.run_bind_of_ok adding, Script.run_bind_of_ok saying,
    Script.run_bind_of_ok (run_placeEntity_of_there off there), Script.run_bind_of_ok telling]
  rfl

/-- Nothing is done for a settled entity, and the report says so. -/
theorem run_generateJudged_of_settled (off : settings.overwrite = false)
    (settled : Settled settings world.tree entity) :
    ∃ after, (generateJudged settings entity).run world =
      (.ok ⟨entity.name, false, ⟨[], settings.outputs entity⟩⟩, after) ∧
      after.tree = world.tree := by
  obtain ⟨text, holds, declared⟩ := settled.declared
  exact run_generateJudged_of_there off (run_addModel_of_hasModel holds declared) settled.there

/-- Nothing is done for settled entities, and the reports say so. -/
theorem run_mapM_generateJudged_of_settled (off : settings.overwrite = false)
    (settled : ∀ entity ∈ batch, Settled settings world.tree entity) :
    ∃ after, (batch.mapM (generateJudged settings)).run world =
      (.ok (batch.map fun entity => ⟨entity.name, false, ⟨[], settings.outputs entity⟩⟩), after) ∧
      after.tree = world.tree := by
  induction batch generalizing world with
  | nil => exact ⟨world, rfl, rfl⟩
  | cons entity batch ih =>
    obtain ⟨here, others⟩ := List.forall_mem_cons.mp settled
    obtain ⟨middle, first, same⟩ := run_generateJudged_of_settled off here
    rw [← same] at others
    obtain ⟨last, rest, still⟩ := ih others
    refine ⟨last, ?_, still.trans same⟩
    rw [List.mapM_cons, Script.run_bind_of_ok first, Script.run_bind_of_ok rest]
    rfl

/-! ### Batches -/

/-- Generating from a batch can be taken up again and repeated, for every state of the files, every
batch of entities whose names are words, and all settings under which files are not replaced: if a
run ends and wrote over nothing but the schema, then generating again leads to the same files from
every tree that the run passed, those among them where it was stopped after a number of written
files. Once it has ended, generating again changes no file, adds no model, and keeps all paths of
each entity. A run of settings without double dots writes over nothing but the schema. -/
theorem generateAll_resume {final : World} {results : List Generated}
    (off : settings.overwrite = false)
    (word : ∀ entity ∈ batch, Text.isWord entity.name.toList = true)
    (ends : (generateAll settings batch).run world = (.ok results, final)) :
    (settings.Plain → world.tree.Sound →
      (generateAll settings batch).Always (Tree.Spares settings.schemaFile) world) ∧
    ((generateAll settings batch).Always (Tree.Spares settings.schemaFile) world →
      (∀ tree, (generateAll settings batch).Passes world tree →
        (generateAll settings batch).Leads tree final.tree) ∧
      (∀ writes, (generateAll settings batch).Leads
        ((generateAll settings batch).runFor writes world).2.tree final.tree) ∧
      ∀ again : World, again.tree = final.tree → ∃ after,
        (generateAll settings batch).run again = (.ok (batch.map fun entity =>
          ⟨entity.name, false, ⟨[], settings.outputs entity⟩⟩), after) ∧
        after.tree = final.tree) := by
  refine ⟨fun plain sound => spares_generateAll off plain word sound, fun spares => ?_⟩
  have passed : ¬ Refused settings batch := fun refused => by
    rw [generateAll_of_refused refused] at ends
    exact absurd (Prod.mk.inj ends).1 (by simp)
  rw [generateAll_of_not_refused passed] at ends spares ⊢
  have resumes := (resumes_mapM_generateJudged off word spares ends).leads
  rw [ends] at resumes
  refine ⟨resumes, fun writes => resumes _ (Script.passes_runFor _ writes world),
    fun again same => ?_⟩
  have settled := settled_of_mapM_generateJudged off word spares ends
  rw [← same] at settled ⊢
  exact run_mapM_generateJudged_of_settled off settled

/-- An entity that is named twice in a batch, and whose module has been generated before. -/
theorem generateAll_resume_twice :
    let settings : Settings :=
      { schemaPath := .ofText "s", modulesDir := .ofText "m", skipTests := true,
        checkReferences := false }
    let entity := Entity.ofFields "A" [{ name := "id", type := .int, isId := true }]
    let batch := [entity, entity]
    let world : World := { tree := ⟨["w"],
      [(["w"], .directory), (["w", "s"], .file []), (["w", "m"], .directory),
        (["w", "m", "a"], .directory), (["w", "m", "a", "a.module.ts"], .file [])]⟩ }
    ∃ results final, (generateAll settings batch).run world = (.ok results, final) ∧
      results.map Generated.modelAdded = [true, false] ∧
      (∀ writes, (generateAll settings batch).Leads
        ((generateAll settings batch).runFor writes world).2.tree final.tree) ∧
      ∃ after, (generateAll settings batch).run final = (.ok (batch.map fun entity =>
          ⟨entity.name, false, ⟨[], settings.outputs entity⟩⟩), after) ∧
        after.tree = final.tree := by
  intro settings entity batch world
  have plain : settings.Plain := by constructor <;> decide +kernel
  have sound : world.tree.Sound := Tree.sound_of_entries (by decide) (by decide)
  obtain ⟨results, ends, added⟩ := @Script.exists_of_map_toOption _ _ (generateAll settings batch)
    world (·.map Generated.modelAdded) [true, false] (by decide +kernel)
  obtain ⟨spares, resumes⟩ := @generateAll_resume settings batch world _ results rfl
    (by decide +kernel) ends
  obtain ⟨-, stopped, again⟩ := resumes (spares plain sound)
  exact ⟨results, _, ends, added, stopped, again _ rfl⟩

/-- Behind a double dot a run may write over a file, here the schema itself: it is found out of
reach before the directory in front of the double dot is made. Then the next run adds the model once
more. -/
theorem generateAll_again_adds_model :
    let settings : Settings :=
      { schemaPath := .ofText "m/a/a.module.ts", modulesDir := .ofText "x/../m",
        skipTests := true }
    let entity := Entity.ofFields "A" [{ name := "id", type := .int, isId := true }]
    let world : World := { tree := ⟨["w"],
      [(["w"], .directory), (["w", "m"], .directory), (["w", "m", "a"], .directory),
        (["w", "m", "a", "dto"], .directory), (["w", "m", "a", "entities"], .directory),
        (["w", "m", "a", "a.module.ts"], .file []), (["w", "m", "a", "a.service.ts"], .file []),
        (["w", "m", "a", "a.controller.ts"], .file []),
        (["w", "m", "a", "dto", "create-a.dto.ts"], .file []),
        (["w", "m", "a", "dto", "update-a.dto.ts"], .file []),
        (["w", "m", "a", "entities", "a.entity.ts"], .file [])]⟩ }
    settings.overwrite = false ∧ Text.isWord entity.name.toList = true ∧ world.tree.Sound ∧
      ∃ results final, (generateAll settings [entity]).run world = (.ok results, final) ∧
        ∃ after, (generateAll settings [entity]).run final =
          (.ok [⟨entity.name, true, ⟨[], settings.outputs entity⟩⟩], after) := by
  intro settings entity world
  let path := Path.ofText "x/../m/a/a.module.ts"
  have word : Text.isWord entity.name.toList = true := by decide +kernel
  have single {before last : World} {generated : Generated}
      (ran : (generateJudged settings entity).run before = (.ok generated, last)) :
      (generateAll settings [entity]).run before = (.ok [generated], last) := by
    rw [generateAll_of_not_refused (by rw [refused_iff, not_not]; decide +kernel),
      List.mapM_cons, Script.run_bind_of_ok ran]
    rfl
  obtain ⟨generated, ran, reported⟩ := @Script.exists_of_map_toOption _ _
    (generateJudged settings entity) world Generated.files
    ⟨[path], (settings.outputs entity).drop 1⟩ (by decide +kernel)
  refine ⟨rfl, word, Tree.sound_of_entries (by decide) (by decide), _, _, single ran, ?_⟩
  -- both paths lead to the same file in the end
  let spot : Location := ["w", "m", "a", "a.module.ts"]
  have schemaSpot : world.tree.locate settings.schemaFile = .ok spot := by decide +kernel
  have pathSpot : ((generateJudged settings entity).run world).2.tree.locate path = .ok spot := by
    decide +kernel
  have grows := Script.grows_run (generateJudged settings entity) world
  generalize ((generateJudged settings entity).run world).2 = final at ran pathSpot grows ⊢
  obtain ⟨added, middle, said, files, placed, -, -, placing, after_eq, rfl, -⟩ :=
    exists_of_generateJudged ran
  have there := status_of_placeEntity placing
  -- the text of the module declares no model
  have undeclared : ∃ content, SourceFile.module.render (Context.ofEntity entity).members =
      .ok content ∧
        hasModel (String.ofList (Text.unifyNewlines content.toList)) entity.name = false := by
    have pascal : (Json.string (Context.ofEntity entity).namePascal).shown = "A" := by
      decide +kernel
    have kebab : (Json.string (Context.ofEntity entity).nameKebab).shown = "a" := by
      decide +kernel
    refine ⟨_, rfl, ?_⟩
    simp only [hasModel, String.toList_ofList, String.toList_append, pascal, kebab]
    simp
    decide +kernel
  obtain ⟨content, rendered, undeclared⟩ := undeclared
  -- the file of the module was written, and nothing after it
  have read : placed.tree.read path = .ok (Text.encodeUtf8 content.toList) := by
    obtain ⟨moduleFiles, second, placingModule, rest⟩ := Script.exists_of_run_bind placing
    obtain ⟨same, rfl⟩ := Prod.mk.inj rest
    obtain rfl := Except.ok.inj same
    obtain ⟨first, third, placingFirst, rest⟩ := Script.exists_of_run_bind placingModule
    obtain ⟨further, last, placingRest, rest⟩ := Script.exists_of_run_bind rest
    obtain ⟨same, rfl⟩ := Prod.mk.inj rest
    obtain rfl := Except.ok.inj same
    have spelled : SourceFile.module.pathIn (settings.moduleDirectory entity)
      (Context.ofEntity entity).nameKebab = path := by decide +kernel
    rw [← spelled]
    rcases read_of_placeFile placingFirst with ⟨rfl, -⟩ | ⟨rfl, text, textRendered, read⟩
    · have head : some (SourceFile.module.pathIn (settings.moduleDirectory entity)
          (Context.ofEntity entity).nameKebab) = ((settings.outputs entity).drop 1).head? :=
        congrArg (fun files => files.kept.head?) reported
      exact absurd head (by decide +kernel)
    · have none : further.written = [] := by
        have written : ([_] ++ further.written) ++ [] = [path] :=
          congrArg Placement.written reported
        simpa using (List.cons.inj written).2
      obtain rfl := eq_of_placeFiles placingRest none
      obtain rfl := Except.ok.inj (rendered.symm.trans textRendered)
      exact read
  obtain ⟨location, located, file⟩ := Tree.read_eq_ok_iff.mp read
  rw [← after_eq, pathSpot] at located
  obtain rfl := Except.ok.inj located
  have reached := grows.locate schemaSpot
  rw [after_eq] at reached
  have holds : final.tree.Holds settings.schemaFile
      (String.ofList (Text.unifyNewlines content.toList)) := by
    rw [after_eq]
    exact ⟨spot, _, _, reached, file, Text.decodeUtf8_encodeUtf8 _, rfl⟩
  rw [← after_eq] at reached file there
  have adding := run_addModel_of_not_hasModel reached holds undeclared
  have still := (World.grows_withText file (appendFragment (String.ofList
    (Text.unifyNewlines content.toList)) entity.model))
  obtain ⟨after, again, -⟩ := run_generateJudged_of_there rfl adding fun path member =>
    (there path member).imp fun kind found => still.status found
  exact ⟨after, single again⟩

end

end CrudScaffold
