import CrudScaffold.Proofs.Generation.Imports
import CrudScaffold.Proofs.Generation.Inside
import CrudScaffold.Proofs.Script.Changes

/-!
# Files that stay in their directories

A generation changes the files at the paths that it reports as written and the schema, and no other
file; however it ends, it writes to the outputs of the entity and the schema only. So the files of
an entity stay in the directories of the modules and of the tests if its outputs do
(`generate_confined`).
-/

namespace CrudScaffold

section

variable {settings : Settings} {entity : Entity} {world after : World}

/-- Generating writes to the outputs of the entity and to the schema. -/
theorem writesAmong_generate (settings : Settings) (entity : Entity) :
    (generate settings entity).Within
      (Action.WritesAmong (settings.schemaFile :: settings.outputs entity)) fun _ => True := by
  by_cases valid : entity.violations = []
  · rw [generate_of_no_violations valid]
    exact (within_generateJudged settings entity).mono (fun _ same => same) fun _ _ => trivial
  · rw [generate_of_violations valid]
    exact .fail trivial

/-- A run that places a file changes it if it reports it as written, and nothing otherwise. -/
theorem changesAt_of_placeFile {overwrite : Bool} {context : Context} {directory : Path}
    {file : SourceFile} {placement : Placement}
    (ran : (placeFile overwrite context directory file).run world = (.ok placement, after)) :
    world.tree.ChangesAt placement.written after.tree := by
  rcases of_run_placeFile rfl ran with ⟨-, -, rfl, rfl⟩ | ⟨content, middle, -, -, -, -, rfl⟩
  · exact .refl _ _
  · have changes := (@within_placeFile [file.pathIn directory context.nameKebab] (fun _ => True)
      overwrite context directory file (List.mem_singleton_self _)
      fun _ _ _ => trivial).changesAt world
    rwa [ran] at changes

/-- A run that places files changes those that it reports as written. -/
theorem changesAt_of_placeFiles {overwrite : Bool} {context : Context} {directory : Path}
    {sources : List SourceFile} {placement : Placement}
    (ran : (placeFiles overwrite context directory sources).run world = (.ok placement, after)) :
    world.tree.ChangesAt placement.written after.tree := by
  induction sources generalizing world placement with
  | nil =>
    obtain ⟨-, rfl⟩ := Prod.mk.inj ran
    exact .refl _ _
  | cons file sources ih =>
    obtain ⟨first, middle, placing, ran⟩ := Script.exists_of_run_bind ran
    obtain ⟨further, last, placingRest, ran⟩ := Script.exists_of_run_bind ran
    obtain ⟨same, rfl⟩ := Prod.mk.inj ran
    obtain rfl := Except.ok.inj same
    exact ((changesAt_of_placeFile placing).mono fun _ => List.mem_append_left _).trans
      ((ih placingRest).mono fun _ => List.mem_append_right _)

/-- A run that places the files of an entity changes those that it reports as written. -/
theorem changesAt_of_placeEntity {placement : Placement}
    (ran : (placeEntity settings entity).run world = (.ok placement, after)) :
    world.tree.ChangesAt placement.written after.tree := by
  obtain ⟨moduleFiles, middle, placingModule, ran⟩ := Script.exists_of_run_bind ran
  have front := changesAt_of_placeFiles placingModule
  cases skip : settings.skipTests with
  | true =>
    rw [skip] at ran
    obtain ⟨same, rfl⟩ := Prod.mk.inj ran
    obtain rfl := Except.ok.inj same
    exact front.mono fun _ => List.mem_append_left _
  | false =>
    rw [skip] at ran
    obtain ⟨testFiles, last, placingTests, ran⟩ := Script.exists_of_run_bind ran
    obtain ⟨same, rfl⟩ := Prod.mk.inj ran
    obtain rfl := Except.ok.inj same
    have back := changesAt_of_placeFiles placingTests
    exact (front.mono fun _ => List.mem_append_left _).trans
      (back.mono fun _ => List.mem_append_right _)

/-- A generation that ends changes the files that it reports as written and the schema. -/
theorem changesAt_of_generate {generated : Generated}
    (ran : (generate settings entity).run world = (.ok generated, after)) :
    world.tree.ChangesAt (settings.schemaFile :: generated.files.written) after.tree := by
  by_cases valid : entity.violations = []
  · rw [generate_of_no_violations valid] at ran
    obtain ⟨added, middle, said, files, placed, adding, quiet, placing, still, rfl, -⟩ :=
      exists_of_generateJudged ran
    have schema := (@within_addModel [settings.schemaFile] (fun _ => True) settings
      (List.mem_singleton_self _) (fun _ => trivial) (fun _ => trivial) (fun _ => trivial)
      entity).changesAt world
    rw [adding, ← quiet] at schema
    rw [still]
    exact (schema.mono fun path member => List.mem_singleton.mp member ▸ List.mem_cons_self).trans
      ((changesAt_of_placeEntity placing).mono fun _ => List.mem_cons_of_mem _)
  · rw [generate_of_violations valid] at ran
    exact absurd (Prod.mk.inj ran).1 (by simp)

end

/-- Where the files of an entity go, for every entity whatever its name is, all settings and every
state of the files. Its paths lead to locations strictly below the directory of the modules or that
of the tests, whatever the settings are, exactly if the name of its files, read as a path, never
leads out of where it starts. However a generation ends, the files that it has changed are at those
paths, the schema aside. If it ends well, they are the ones that it reports as written. -/
theorem generate_confined (entity : Entity) :
    ((∀ settings tree, ∀ path ∈ Settings.outputs settings entity, settings.Confines tree path) ↔
      (Path.ofText (Name.kebabCase entity.name)).staysBelow = true) ∧
    ∀ settings world,
      world.tree.ChangesAt (settings.schemaFile :: settings.outputs entity)
        ((generate settings entity).run world).2.tree ∧
      ∀ generated after, (generate settings entity).run world = (.ok generated, after) →
        world.tree.ChangesAt (settings.schemaFile :: generated.files.written) after.tree ∧
        ∀ path ∈ generated.files.written, path ∈ settings.outputs entity ∧
          ((Path.ofText (Name.kebabCase entity.name)).staysBelow = true →
            settings.Confines world.tree path) := by
  refine ⟨confines_outputs_iff, fun settings world =>
    ⟨(writesAmong_generate settings entity).changesAt world, fun generated after ran =>
      ⟨changesAt_of_generate ran, fun path member => ?_⟩⟩⟩
  have output := (perm_outputs_of_generate ran).mem_iff.mp (List.mem_append_left _ member)
  exact ⟨output, fun stays => Settings.confines_outputs stays world.tree path output⟩

/-- A name that leads back, but not out of the directory. -/
theorem generate_confined_back :
    let settings : Settings :=
      { schemaPath := .ofText "s", modulesDir := .ofText "m", skipTests := true }
    let entity := Entity.ofFields "a/../b" [{ name := "id", type := .int, isId := true }]
    let world : World := { tree := ⟨["w"], [(["w"], .directory), (["w", "s"], .file [])]⟩ }
    ∃ generated after, (generate settings entity).run world = (.ok generated, after) ∧
      Path.ofText "m/a/../b/a/../b.module.ts" ∈ generated.files.written ∧
      ∀ path ∈ generated.files.written, settings.Confines world.tree path := by
  intro settings entity world
  have stays : (Path.ofText (Name.kebabCase entity.name)).staysBelow = true := by decide +kernel
  obtain ⟨generated, ran, written⟩ := @Script.exists_of_map_toOption _ _
    (generate settings entity) world (·.files.written) (settings.outputs entity)
    (by decide +kernel)
  obtain ⟨-, reported⟩ := ((generate_confined entity).2 settings world).2 _ _ ran
  exact ⟨generated, _, ran, written ▸ by decide +kernel, fun path member =>
    (reported path member).2 stays⟩

/-- A name that leads out: the file of its module is written beside the directory of the modules. -/
theorem generate_leaves_directories :
    let settings : Settings :=
      { schemaPath := .ofText "s", modulesDir := .ofText "m", skipTests := true }
    let entity := Entity.ofFields "../post" [{ name := "id", type := .int, isId := true }]
    let world : World := { tree := ⟨["w"], [(["w"], .directory), (["w", "s"], .file [])]⟩ }
    entity.violations = [] ∧ ∃ generated after,
      (generate settings entity).run world = (.ok generated, after) ∧
      ∃ path ∈ generated.files.written, world.tree.resolved path = ["w", "post.module.ts"] ∧
        ¬settings.Confines world.tree path := by
  intro settings entity world
  obtain ⟨generated, ran, written⟩ := @Script.exists_of_map_toOption _ _
    (generate settings entity) world (·.files.written) (settings.outputs entity)
    (by decide +kernel)
  refine ⟨by decide, generated, _, ran, .ofText "m/../post/../post.module.ts", ?_, ?_, ?_⟩
  · rw [written]
    decide +kernel
  · decide +kernel
  · decide +kernel

end CrudScaffold
