import CrudScaffold.Proofs.Generation.Files
import CrudScaffold.Proofs.Generation.Schema
import CrudScaffold.Proofs.Generation.Sparing
import Mathlib.Data.List.Nodup

/-!
# The effect of one generation

What generating from an entity does, told from the state before: which of its paths are kept, what
the others hold in the end, what the schema holds, and that no other file has changed. A path is
kept where something is there before, and also where the generation itself makes a directory, on the
way to another file of the entity.
-/

namespace CrudScaffold

/-- Whether a path of an entity is kept: nothing is replaced, and something is there, or the path
lies on the way to another one of the entity. -/
def Settings.keeps (settings : Settings) (tree : Tree) (entity : Entity) (path : Path) : Bool :=
  !settings.overwrite && ((tree.status path).isOk ||
    (settings.outputs entity).any fun other =>
      tree.place path != tree.place other && (tree.place path).isPrefixOf (tree.place other))

section

variable {settings : Settings} {entity : Entity}

/-- The rule that tells which paths are kept. -/
theorem Settings.keeps_iff {tree : Tree} {path : Path} :
    settings.keeps tree entity path = true ↔ settings.overwrite = false ∧
      ((∃ kind, tree.status path = .ok kind) ∨ ∃ other ∈ settings.outputs entity,
        tree.place path ≠ tree.place other ∧ tree.place path <+: tree.place other) := by
  have there : (tree.status path).isOk = true ↔ ∃ kind, tree.status path = .ok kind := by
    cases tree.status path <;> simp [Except.isOk, Except.toBool]
  simp only [keeps, Bool.and_eq_true, Bool.not_eq_true', Bool.or_eq_true, there,
    List.any_eq_true, bne_iff_ne, List.isPrefixOf_iff_prefix]

/-- The rule depends only on what kinds of things stand where. -/
theorem Settings.keeps_congr {tree other : Tree} (forth : tree.Grows other)
    (back : other.Grows tree) (path : Path) :
    settings.keeps tree entity path = settings.keeps other entity path := by
  have status : (∃ kind, tree.status path = .ok kind) ↔ ∃ kind, other.status path = .ok kind :=
    ⟨fun ⟨kind, there⟩ => ⟨kind, forth.status there⟩,
      fun ⟨kind, there⟩ => ⟨kind, back.status there⟩⟩
  rw [Bool.eq_iff_iff, keeps_iff, keeps_iff, status]
  simp only [forth.place]

/-! ### What is kept -/

section

variable {members : List (String × Json)} {tree after : Tree} {placement : Placement}

/-- No two paths of an entity have the same place. -/
theorem Settings.eq_of_place_eq (slash : '/' ∉ (Name.kebabCase entity.name).toList) (tree : Tree)
    {path other : Path} (member : path ∈ settings.outputs entity)
    (among : other ∈ settings.outputs entity) (same : tree.place path = tree.place other) :
    path = other := by
  have distinct : ((settings.outputs entity).map tree.place).Nodup := by
    rw [outputs_eq, List.map_map]
    exact List.pairwise_map.mpr (settings.files_apart tree slash)
  exact List.inj_on_of_nodup_map distinct member among same

/-- The paths of an entity are all different. -/
theorem Settings.nodup_outputs (settings : Settings)
    (slash : '/' ∉ (Name.kebabCase entity.name).toList) : (settings.outputs entity).Nodup := by
  refine List.Nodup.of_map (Tree.place ⟨[], []⟩) ?_
  rw [outputs_eq, List.map_map]
  exact List.pairwise_map.mpr (settings.files_apart _ slash)

/-- A path that is kept is one that the rule says. -/
theorem PlacedAll.keeps_of_kept
    (placed : PlacedAll settings.overwrite members (settings.files entity) tree placement after)
    (spots : ∀ spot ∈ settings.files entity, ".." ∉ spot.1.steps ∧ spot.1.steps ≠ [])
    (slash : '/' ∉ (Name.kebabCase entity.name).toList) (sound : tree.Sound) :
    ∀ path ∈ placement.kept, settings.keeps tree entity path = true := by
  have reports := placed.perm
  rw [← settings.outputs_eq] at reports
  intro path member
  have output := reports.mem_iff.mp (List.mem_append_right _ member)
  rw [Settings.keeps_iff]
  refine ⟨placed.overwrite_of_kept path member, ?_⟩
  by_cases there : ∃ kind, tree.status path = .ok kind
  · exact .inl there
  -- something stands there in the end, so it has been made on the way to another file
  obtain ⟨spot, file, rfl⟩ := Settings.mem_outputs_iff.mp output
  obtain ⟨kind, found⟩ := placed.status spot file
  obtain ⟨location, located, stands⟩ := Tree.status_eq_ok_iff.mp found
  have free := sound.free_of_absent (spots spot file).1 placed.grows located
    fun kind before => there ⟨kind, before⟩
  obtain rfl := Tree.eq_place_of_locate (spots spot file).1 located
  rw [placed.grows.place] at stands
  rcases (placed.writesTo fun spot file => (spots spot file).1).entry (tree.place spot.1) with
    same | ⟨other, written, same⟩ | ⟨-, -, other, written, onWay⟩
  · rw [Tree.kind?, same, free] at stands
    exact absurd stands (by simp)
  · have among := reports.mem_iff.mp (List.mem_append_left _ written)
    obtain rfl := Settings.eq_of_place_eq slash tree output among same
    have once := reports.nodup_iff.mpr (settings.nodup_outputs slash)
    exact absurd member (List.disjoint_of_nodup_append once written)
  · have among := reports.mem_iff.mp (List.mem_append_left _ written)
    refine .inr ⟨other, among, fun same => ?_, onWay.trans (tree.place_parent_prefix other)⟩
    obtain ⟨further, file, rfl⟩ := Settings.mem_outputs_iff.mp among
    exact Tree.not_place_prefix_parent (spots further file).2 (same ▸ onWay)

/-- A path that is written is not one that the rule says. -/
theorem PlacedAll.not_keeps_of_written
    (placed : PlacedAll settings.overwrite members (settings.files entity) tree placement after)
    (spots : ∀ spot ∈ settings.files entity, ".." ∉ spot.1.steps ∧ spot.1.steps ≠ [])
    (slash : '/' ∉ (Name.kebabCase entity.name).toList) (sound : after.Sound) :
    ∀ path ∈ placement.written, settings.keeps tree entity path = false := by
  intro path member
  have output := placed.perm.mem_iff.mp (List.mem_append_left _ member)
  obtain ⟨spot, file, rfl⟩ := List.mem_map.mp output
  rw [Bool.eq_false_iff, ne_eq, Settings.keeps_iff]
  rintro ⟨off, ⟨kind, there⟩ | ⟨other, among, differs, onWay⟩⟩
  · exact placed.absent_of_written off spot.1 member kind there
  -- a file cannot be where another one stands below
  · obtain ⟨further, below, rfl⟩ := Settings.mem_outputs_iff.mp among
    obtain ⟨content, -, read⟩ := placed.read_of_written (fun spot file => (spots spot file).1)
      (settings.files_apart tree slash) spot file member
    obtain ⟨location, located, bytes⟩ := Tree.read_eq_ok_iff.mp read
    obtain ⟨kind, found⟩ := placed.status further below
    obtain ⟨place, reached, stands⟩ := Tree.status_eq_ok_iff.mp found
    obtain rfl := Tree.eq_place_of_locate (spots spot file).1 located
    obtain rfl := Tree.eq_place_of_locate (spots further below).1 reached
    rw [placed.grows.place] at bytes stands
    obtain ⟨back, whole⟩ := onWay
    obtain ⟨entry, there, -⟩ := Option.map_eq_some_iff.mp stands
    rw [← whole] at there
    have directory := sound.directory there (by rintro rfl; simp at whole; exact differs whole)
    exact absurd (directory.symm.trans bytes) (by simp)

end

/-- A generation that ends has placed the files of its entity, once the model was added, and it
reports of each of them what the rule says. -/
theorem placedAll_of_generateJudged {world after : World} {generated : Generated}
    (spots : ∀ spot ∈ settings.files entity, ".." ∉ spot.1.steps ∧ spot.1.steps ≠ [])
    (slash : '/' ∉ (Name.kebabCase entity.name).toList) (sound : world.tree.Sound)
    (ran : (generateJudged settings entity).run world = (.ok generated, after)) :
    ∃ middle, (addModel settings entity).run world = (.ok generated.modelAdded, middle) ∧
      PlacedAll settings.overwrite (Context.ofEntity entity).members (settings.files entity)
        middle.tree generated.files after.tree ∧
      generated = ⟨entity.name, generated.modelAdded,
        (settings.outputs entity).filter (!settings.keeps world.tree entity ·),
        (settings.outputs entity).filter (settings.keeps world.tree entity)⟩ := by
  obtain ⟨added, middle, said, files, last, adding, said_eq, placing, after_eq, rfl, -⟩ :=
    exists_of_generateJudged ran
  have placed := placedAll_of_placeEntity (fun spot member => (spots spot member).1) placing
  rw [said_eq, ← after_eq] at placed
  have soundMiddle := Script.sound_run (addModel settings entity) sound
  have soundAfter := Script.sound_run (generateJudged settings entity) sound
  have forth := Script.grows_run (addModel settings entity) world
  rw [adding] at soundMiddle forth
  rw [ran] at soundAfter
  have keeps := @Settings.keeps_congr settings entity _ _ forth (grows_of_addModel adding)
  have reports := @PlacedAll.eq_filter _ _ _ _ _ _ placed (settings.keeps world.tree entity)
    (fun path member => keeps path ▸ placed.not_keeps_of_written spots slash soundAfter path member)
    fun path member => keeps path ▸ placed.keeps_of_kept spots slash soundMiddle path member
  rw [← settings.outputs_eq] at reports
  exact ⟨middle, adding, placed, by rw [← reports.1, ← reports.2]⟩

/-! ### The schema and the frame -/

/-- A text that is held is held as long as its file is not written. -/
theorem Tree.Holds.of_entry {tree after : Tree} {path : Path} {text : String} {location : Location}
    (holds : tree.Holds path text) (located : tree.locate path = .ok location)
    (grows : tree.Grows after) (same : after.entry? location = tree.entry? location) :
    after.Holds path text := by
  obtain ⟨other, content, characters, there, file, decoded, rfl⟩ := holds
  obtain rfl := Except.ok.inj (there.symm.trans located)
  exact ⟨_, content, characters, grows.locate there, same.trans file, decoded, rfl⟩

/-- A file elsewhere than at the paths that may be written stays as it is, and none appears. -/
theorem Tree.WritesTo.file_iff {paths : List Path} {tree after : Tree}
    (writes : tree.WritesTo paths after) {location : Location}
    (elsewhere : location ∉ paths.map tree.place) {content : List UInt8} :
    after.entry? location = some (.file content) ↔
      tree.entry? location = some (.file content) := by
  rcases writes.entry location with same | ⟨path, member, same⟩ | ⟨free, directory, -⟩
  · rw [same]
  · exact absurd (List.mem_map.mpr ⟨path, member, same.symm⟩) elsewhere
  · rw [free, directory]
    simp

/-- What a generation that ended has done. -/
structure Effect (settings : Settings) (entity : Entity) (before after : Tree)
    (generated : Generated) : Prop where
  /-- It is about the entity. -/
  subject : generated.entity = entity.name
  /-- Of the paths of the entity, in their order, those that are not kept were written. -/
  written : generated.files.written =
    (settings.outputs entity).filter (!settings.keeps before entity ·)
  /-- The others were kept. -/
  kept : generated.files.kept = (settings.outputs entity).filter (settings.keeps before entity)
  /-- Each written file holds the rendering of its template. -/
  rendered : ∀ spot ∈ settings.files entity, spot.1 ∈ generated.files.written →
    ∃ content, spot.2.render (Context.ofEntity entity).members = .ok content ∧
      after.read spot.1 = .ok (Text.encodeUtf8 content.toList)
  /-- The model was added if the schema did not declare it, now it does, and its file was written
  only then. -/
  schema : ∃ schema final, before.Holds settings.schemaFile schema ∧
    after.Holds settings.schemaFile final ∧
    generated.modelAdded = !hasModel schema entity.name ∧
    hasModel final entity.name = true ∧
    after.read settings.schemaFile = if generated.modelAdded then
      .ok (Text.encodeUtf8 (appendFragment schema entity.model).toList)
      else before.read settings.schemaFile
  /-- No other file was changed, made or lost. -/
  frame : ∀ location content, location ∉ generated.files.written.map before.place →
    location ≠ before.place settings.schemaFile →
    (after.entry? location = some (.file content) ↔ before.entry? location = some (.file content))

/-- A generation that ends has its effect. -/
theorem effect_of_generateJudged {world after : World} {generated : Generated}
    (plain : settings.Plain) (sound : world.tree.Sound)
    (apart : world.tree.place settings.schemaFile ∉
      (settings.outputs entity).map world.tree.place)
    (word : Text.isWord entity.name.toList = true)
    (ran : (generateJudged settings entity).run world = (.ok generated, after)) :
    Effect settings entity world.tree after.tree generated := by
  have spots := plain.files word
  have slash := (notMem_kebabCase_of_isWord word).1
  obtain ⟨middle, adding, placed, reported⟩ := placedAll_of_generateJudged spots slash sound ran
  have forth := Script.grows_run (addModel settings entity) world
  rw [adding] at forth
  obtain ⟨location, bytes, schema, final, located, file, holds, flag, same, read, declares⟩ :=
    addModel_effect word adding
  have spelled := Tree.eq_place_of_locate (Path.notMem_append plain.root plain.schema) located
  have places : middle.tree.place = world.tree.place := funext forth.place
  have others : ∀ other ≠ location, middle.tree.entry? other = world.tree.entry? other := by
    intro other differs
    rw [same]
    split
    · exact Tree.entry?_put_of_ne _ differs _
    · rfl
  -- the files are placed beside the schema, so it stays as the first part left it
  have elsewhere : location ∉ generated.files.written.map middle.tree.place := by
    intro member
    obtain ⟨path, written, same⟩ := List.mem_map.mp member
    have output := placed.perm.mem_iff.mp (List.mem_append_left _ written)
    rw [← settings.outputs_eq] at output
    rw [places, spelled] at same
    exact apart (List.mem_map.mpr ⟨path, output, same⟩)
  have writes := placed.writesTo fun spot member => (spots spot member).1
  obtain ⟨content, held⟩ := read.file (forth.locate located)
  have still := (writes.file_iff elsewhere).mpr held
  have reached := placed.grows.locate (forth.locate located)
  refine ⟨by rw [reported], by rw [reported], by rw [reported], placed.read_of_written
    (fun spot member => (spots spot member).1) (settings.files_apart _ slash),
    ⟨schema, final, holds, read.of_entry (forth.locate located) placed.grows
      (still.trans held.symm), flag, declares _ (.inr rfl), ?_⟩, ?_⟩
  · rw [Tree.read_eq_ok_iff.mpr ⟨location, reached, still⟩]
    cases added : generated.modelAdded with
    | true =>
      rw [added, if_pos rfl] at same
      rw [if_pos rfl]
      subst same
      have proper : location ≠ [] := by
        rintro rfl
        exact absurd file (by simp)
      have put := Tree.entry?_put_self world.tree proper
        (.file (Text.encodeUtf8 (appendFragment schema entity.model).toList))
      rw [Entry.file.inj (Option.some.inj (put.symm.trans held))]
    | false =>
      rw [added, if_neg (by simp)] at same
      subst same
      exact (Tree.read_eq_ok_iff.mpr ⟨location, located, held⟩).symm
  · intro other bytes notWritten notSchema
    rw [writes.file_iff (places ▸ notWritten), others other (spelled ▸ notSchema)]

/-- The exact effect of one generation, for every state of the files, all settings without double
dots in their paths, and every entity whose name is a word. Its paths are six or eight different
ones. If it ends, each of them was written or kept as the rule says, and the schema and all other
files are as they should be. However it ends, nothing but the schema has been written over, unless
files are replaced. Texts have bytes, so no write fails half way. -/
theorem generate_effect {world : World} (plain : settings.Plain) (sound : world.tree.Sound)
    (apart : world.tree.place settings.schemaFile ∉
      (settings.outputs entity).map world.tree.place)
    (word : Text.isWord entity.name.toList = true) :
    (settings.outputs entity).Nodup ∧
      (settings.outputs entity).length = (if settings.skipTests then 6 else 8) ∧
      (∀ generated after, (generate settings entity).run world = (.ok generated, after) →
        Effect settings entity world.tree after.tree generated) ∧
      (settings.overwrite = false → ∀ location content,
        location ≠ world.tree.place settings.schemaFile →
        world.tree.entry? location = some (.file content) →
        ((generate settings entity).run world).2.tree.entry? location = some (.file content)) := by
  refine ⟨settings.nodup_outputs (notMem_kebabCase_of_isWord word).1,
    settings.length_outputs entity,
    fun generated after ran => ?_,
    fun off location content elsewhere => entry?_generate off plain word sound elsewhere⟩
  by_cases valid : entity.violations = []
  · rw [generate_of_no_violations valid] at ran
    exact effect_of_generateJudged plain sound apart word ran
  · rw [generate_of_violations valid] at ran
    exact absurd (Prod.mk.inj ran).1 (by simp)

/-- An entity whose module has been generated before, and whose tests are left out. -/
theorem generate_effect_again :
    let settings : Settings :=
      { schemaPath := .ofText "s", modulesDir := .ofText "m", skipTests := true }
    let entity := Entity.ofFields "A" [{ name := "id", type := .int, isId := true }]
    let path := Path.ofText "m/a/a.module.ts"
    let world : World := { tree := ⟨["w"],
      [(["w"], .directory), (["w", "s"], .file []), (["w", "m"], .directory),
        (["w", "m", "a"], .directory), (["w", "m", "a", "a.module.ts"], .file [])]⟩ }
    ∃ generated after, (generate settings entity).run world = (.ok generated, after) ∧
      generated.files.kept = [path] ∧
      Effect settings entity world.tree after.tree generated := by
  intro settings entity path world
  have plain : settings.Plain := by constructor <;> decide +kernel
  have sound : world.tree.Sound := Tree.sound_of_entries (by decide) (by decide)
  obtain ⟨generated, ran, kept⟩ := @Script.exists_of_map_toOption _ _ (generate settings entity)
    world (·.files.kept) [path] (by decide +kernel)
  obtain ⟨-, -, effect, -⟩ :=
    @generate_effect settings entity world plain sound (by decide +kernel) (by decide +kernel)
  exact ⟨generated, _, ran, kept, effect _ _ ran⟩

/-- A path that is kept though nothing was there: the files of the module go below it, so the
generation makes a directory of it before it looks. -/
theorem generate_keeps_directory_on_the_way :
    let settings : Settings :=
      { schemaPath := .ofText "s", modulesDir := .ofText "t/a/a.service.spec.ts",
        testsDir := .ofText "t" }
    let entity := Entity.ofFields "A" [{ name := "id", type := .int, isId := true }]
    let path := Path.ofText "t/a/a.service.spec.ts"
    let world : World := { tree := ⟨["w"], [(["w"], .directory), (["w", "s"], .file [])]⟩ }
    settings.Plain ∧ world.tree.Sound ∧
      world.tree.place settings.schemaFile ∉ (settings.outputs entity).map world.tree.place ∧
      Text.isWord entity.name.toList = true ∧ path ∈ settings.outputs entity ∧
      ∃ generated after, (generate settings entity).run world = (.ok generated, after) ∧
        ¬ (path ∈ generated.files.kept ↔
          settings.overwrite = false ∧ ∃ kind, world.tree.status path = .ok kind) := by
  intro settings entity path world
  have plain : settings.Plain := by constructor <;> decide +kernel
  have sound : world.tree.Sound := Tree.sound_of_entries (by decide) (by decide)
  have absent : world.tree.status path = .error .missing := by decide +kernel
  obtain ⟨generated, ran, kept⟩ := @Script.exists_of_map_toOption _ _ (generate settings entity)
    world (·.files.kept) [path] (by decide +kernel)
  refine ⟨plain, sound, by decide +kernel, by decide +kernel, by decide +kernel, generated, _, ran,
    fun same => ?_⟩
  obtain ⟨-, kind, there⟩ := same.mp (by rw [kept]; exact List.mem_singleton_self path)
  rw [absent] at there
  exact absurd there (by simp)

end

end CrudScaffold
