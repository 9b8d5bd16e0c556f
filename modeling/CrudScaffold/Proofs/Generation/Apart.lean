import CrudScaffold.Proofs.Generation.Effect

/-!
# Entities apart

Files are named by the words of an entity, and the checks compare names as they are written. So two
entities that pass may share all their files, if their names have the same words, and their tables,
if the plurals do. Without slashes in the names they share no file otherwise, whatever the settings
are, and what is made for one of them is out of the way of the others (`generateAll_apart`).
-/

namespace CrudScaffold

/-! ### Paths of two entities -/

section

variable {settings : Settings} {first second : Entity}

/-- Paths of entities whose files have different names have different places. -/
theorem Settings.place_ne_of_kebabCase_ne (tree : Tree)
    (slash : '/' ∉ (Name.kebabCase first.name).toList)
    (plain : '/' ∉ (Name.kebabCase second.name).toList)
    (differ : Name.kebabCase first.name ≠ Name.kebabCase second.name) {path other : Path}
    (member : path ∈ settings.outputs first) (among : other ∈ settings.outputs second) :
    tree.place path ≠ tree.place other := by
  obtain ⟨spot, file, rfl⟩ := Settings.mem_outputs_iff.mp member
  obtain ⟨further, fileToo, rfl⟩ := Settings.mem_outputs_iff.mp among
  obtain ⟨base, path, -⟩ := Settings.exists_base file
  obtain ⟨baseToo, pathToo, -⟩ := Settings.exists_base fileToo
  rw [path, pathToo]
  exact fun same => differ (tree.eq_of_place_pathIn slash plain same).2

/-- Entities whose files have the same name have the same paths. -/
theorem Settings.outputs_congr (settings : Settings)
    (same : Name.kebabCase first.name = Name.kebabCase second.name) :
    settings.outputs first = settings.outputs second := by
  unfold Settings.outputs Settings.moduleDirectory Settings.testDirectory
  rw [same]

/-- A step to a file is the name of a directory or the last one. -/
theorem SourceFile.mem_steps {kebab step : String} {file : SourceFile}
    (member : step ∈ file.steps kebab) :
    '.' ∉ step.toList ∨ (file.steps kebab).getLast? = some step := by
  cases file <;> simp only [steps, List.mem_cons, List.not_mem_nil, or_false] at member
  case create | update =>
    rcases member with rfl | rfl
    · exact .inl (by decide)
    · exact .inr rfl
  case record =>
    rcases member with rfl | rfl
    · exact .inl (by decide)
    · exact .inr rfl
  all_goals exact .inr (by rw [member]; rfl)

/-- The last step to a file holds a dot. -/
theorem SourceFile.dot_mem_of_getLast {kebab step : String} {file : SourceFile}
    (last : (file.steps kebab).getLast? = some step) : '.' ∈ step.toList := by
  rw [SourceFile.getLast?_steps] at last
  rw [← Option.some.inj last, String.toList_append, List.mem_append]
  exact .inr (by cases file <;> decide)

/-- A path of an entity that lies on the way to one of another entity lies on the way to one of its
own: it is on the way to what holds both. -/
theorem Settings.exists_below {tree : Tree} {path other : Path}
    (member : path ∈ settings.outputs first) (among : other ∈ settings.outputs second)
    (slash : '/' ∉ (Name.kebabCase first.name).toList)
    (plain : '/' ∉ (Name.kebabCase second.name).toList ∧
      '.' ∉ (Name.kebabCase second.name).toList)
    (differ : Name.kebabCase first.name ≠ Name.kebabCase second.name)
    (onWay : tree.place path <+: tree.place other) :
    ∃ own ∈ settings.outputs first,
      tree.place path ≠ tree.place own ∧ tree.place path <+: tree.place own := by
  obtain ⟨spot, file, rfl⟩ := Settings.mem_outputs_iff.mp member
  obtain ⟨further, fileToo, rfl⟩ := Settings.mem_outputs_iff.mp among
  obtain ⟨directory, spelled, -⟩ := Settings.exists_base file
  obtain ⟨base, spelledToo, each⟩ := Settings.exists_base fileToo
  rw [spelledToo, tree.place_pathIn _ plain.1, tree.place_child base plain.1,
    List.append_assoc] at onWay
  -- the last step of the path is none behind the base, so the path ends before it
  have above : tree.place spot.1 <+: tree.place base := by
    rcases List.prefix_or_prefix_of_prefix onWay (List.prefix_append _ _) with here | ⟨steps, whole⟩
    · exact here
    by_cases none : steps = []
    · rw [none, List.append_nil] at whole
      exact whole ▸ List.prefix_rfl
    · exfalso
      have last : steps.getLast? = (spot.2.steps (Name.kebabCase first.name)).getLast? := by
        rw [← List.getLast?_append_of_ne_nil (tree.place base) none, whole, spelled,
          tree.place_pathIn _ slash, List.getLast?_append_of_ne_nil _ (spot.2.steps_ne_nil _)]
      have ends := List.getLast?_eq_some_getLast none
      rw [← whole, List.prefix_append_right_inj] at onWay
      have dot := SourceFile.dot_mem_of_getLast (last.symm.trans ends)
      rcases List.mem_append.mp (onWay.subset (List.getLast_mem none)) with name | step
      · have same := List.mem_singleton.mp (List.mem_filter.mp name).1
        exact plain.2 (same ▸ dot)
      · rcases SourceFile.mem_steps step with noDot | lastToo
        · exact noDot dot
        · exact differ (SourceFile.eq_of_getLast ((last.symm.trans ends).trans lastToo.symm)).2
  have own := tree.place_pathIn (base.child (Name.kebabCase first.name)) slash further.2
  rw [tree.place_child base slash, List.append_assoc] at own
  refine ⟨_, Settings.mem_outputs_iff.mpr ⟨_, each first, rfl⟩, fun same => ?_, ?_⟩
  · have shorter := above.length_le
    have proper := List.length_pos_iff.mpr (further.2.steps_ne_nil (Name.kebabCase first.name))
    rw [same, own, List.length_append, List.length_append] at shorter
    omega
  · rw [own]
    exact above.trans (List.prefix_append _ _)

/-- Outputs without double dots are paths of files without them, and with steps. -/
theorem Settings.files_of_outputs (plain : ∀ path ∈ settings.outputs first, ".." ∉ path.steps)
    (slash : '/' ∉ (Name.kebabCase first.name).toList) :
    ∀ spot ∈ settings.files first, ".." ∉ spot.1.steps ∧ spot.1.steps ≠ [] := by
  intro spot file
  refine ⟨plain _ (Settings.mem_outputs_iff.mpr ⟨spot, file, rfl⟩), ?_⟩
  obtain ⟨base, spelled, -⟩ := Settings.exists_base file
  rw [spelled, (SourceFile.pathIn_eq _ slash spot.2).2]
  exact List.append_ne_nil_of_right_ne_nil _ (spot.2.steps_ne_nil _)

end

/-! ### One entity beside another -/

/-- Where files were written to some paths, what stands at a location that was free lies on the way
to one of them. -/
theorem Tree.WritesTo.exists_of_appeared {paths : List Path} {tree after : Tree}
    (writes : tree.WritesTo paths after) {location : Location}
    (free : tree.entry? location = none) (there : after.entry? location ≠ none) :
    ∃ path ∈ paths, location <+: tree.place path := by
  rcases writes.entry location with same | ⟨path, member, rfl⟩ | ⟨-, -, path, member, onWay⟩
  · exact absurd (same.trans free) there
  · exact ⟨path, member, List.prefix_rfl⟩
  · exact ⟨path, member, onWay.trans (tree.place_parent_prefix path)⟩

section

variable {settings : Settings} {entity : Entity} {world after : World} {generated : Generated}

/-- What a generation makes stand at a path lies on the way to an output of its entity. -/
theorem exists_below_of_generateJudged
    (plain : ∀ path ∈ settings.outputs entity, ".." ∉ path.steps)
    (slash : '/' ∉ (Name.kebabCase entity.name).toList) (sound : world.tree.Sound)
    (ran : (generateJudged settings entity).run world = (.ok generated, after)) {path : Path}
    (noDots : ".." ∉ path.steps) (absent : ∀ kind, world.tree.status path ≠ .ok kind)
    {kind : EntryKind} (there : after.tree.status path = .ok kind) :
    ∃ output ∈ settings.outputs entity, world.tree.place path <+: world.tree.place output := by
  have spots := Settings.files_of_outputs plain slash
  obtain ⟨middle, adding, placed, -⟩ := placedAll_of_generateJudged spots slash sound ran
  have forth := Script.grows_run (addModel settings entity) world
  have whole := Script.grows_run (generateJudged settings entity) world
  rw [adding] at forth
  rw [ran] at whole
  obtain ⟨location, located, stands⟩ := Tree.status_eq_ok_iff.mp there
  have free := (grows_of_addModel adding).free (sound.free_of_absent noDots whole located absent)
  obtain rfl := Tree.eq_place_of_locate noDots located
  rw [whole.place] at stands
  have appeared : after.tree.entry? (world.tree.place path) ≠ none := fun none => by
    rw [Tree.kind?, none] at stands
    exact absurd stands (by simp)
  obtain ⟨output, written, onWay⟩ :=
    (placed.writesTo fun spot file => (spots spot file).1).exists_of_appeared free appeared
  have among := placed.perm.mem_iff.mp (List.mem_append_left _ written)
  rw [← settings.outputs_eq] at among
  exact ⟨output, among, forth.place output ▸ onWay⟩

end

/-! ### Batches -/

section

variable {settings : Settings} {batch : List Entity}

/-- In a project where nothing stands at the outputs of a batch and none of them lies on the way to
another one, every output is written for its entity and nothing is kept. -/
theorem mapM_generateJudged_fresh {world after : World} {results : List Generated}
    (slash : ∀ entity ∈ batch, '/' ∉ (Name.kebabCase entity.name).toList)
    (differ : batch.Pairwise fun first second =>
      Name.kebabCase first.name ≠ Name.kebabCase second.name)
    (plain : ∀ path ∈ batch.flatMap settings.outputs, ".." ∉ path.steps)
    (sound : world.tree.Sound)
    (ways : ∀ path ∈ batch.flatMap settings.outputs, ∀ other ∈ batch.flatMap settings.outputs,
      world.tree.place path <+: world.tree.place other →
        world.tree.place path = world.tree.place other)
    (absent : ∀ path ∈ batch.flatMap settings.outputs, ∀ kind,
      world.tree.status path ≠ .ok kind)
    (ran : (batch.mapM (generateJudged settings)).run world = (.ok results, after)) :
    results.map Generated.files = batch.map fun entity => ⟨settings.outputs entity, []⟩ := by
  induction batch generalizing world results with
  | nil =>
    obtain ⟨same, -⟩ := Prod.mk.inj ran
    rw [← Except.ok.inj same]
    rfl
  | cons entity batch ih =>
    obtain ⟨generated, middle, others, first, rest, rfl⟩ := Script.exists_of_run_mapM_cons ran
    obtain ⟨here, slash⟩ := List.forall_mem_cons.mp slash
    obtain ⟨apart, differ⟩ := List.pairwise_cons.mp differ
    rw [List.flatMap_cons] at plain ways absent
    obtain ⟨plainHere, plain⟩ := List.forall_mem_append.mp plain
    obtain ⟨absentHere, absentLater⟩ := List.forall_mem_append.mp absent
    have grows := Script.grows_run (generateJudged settings entity) world
    have soundMiddle := Script.sound_run (generateJudged settings entity) sound
    rw [first] at grows soundMiddle
    obtain ⟨-, -, -, reported⟩ :=
      placedAll_of_generateJudged (Settings.files_of_outputs plainHere here) here sound first
    have keeps : ∀ path ∈ settings.outputs entity,
        settings.keeps world.tree entity path = false := by
      intro path member
      rw [Bool.eq_false_iff, ne_eq, Settings.keeps_iff]
      rintro ⟨-, ⟨kind, there⟩ | ⟨other, among, differs, onWay⟩⟩
      · exact absentHere path member kind there
      · exact differs (ways path (List.mem_append_left _ member) other
          (List.mem_append_left _ among) onWay)
    have files : generated.files = ⟨settings.outputs entity, []⟩ := by
      rw [reported, Placement.mk.injEq, List.filter_eq_self, List.filter_eq_nil_iff]
      exact ⟨fun path member => by rw [keeps path member]; rfl,
        fun path member => by rw [keeps path member]; decide⟩
    rw [List.map_cons, List.map_cons, files]
    refine congrArg _ (ih slash differ plain soundMiddle ?_ ?_ rest)
    · simp only [grows.place]
      exact fun path member other among =>
        ways path (List.mem_append_right _ member) other (List.mem_append_right _ among)
    · intro path member kind there
      obtain ⟨further, among, output⟩ := List.mem_flatMap.mp member
      obtain ⟨below, own, onWay⟩ := exists_below_of_generateJudged plainHere here sound first
        (plain path member) (absentLater path member) there
      have same := ways path (List.mem_append_right _ member) below (List.mem_append_left _ own)
        onWay
      exact Settings.place_ne_of_kebabCase_ne world.tree here (slash further among)
        (apart further among) own output same.symm

/-- A name without slashes gives its files a name without them. -/
theorem slash_notMem_kebabCase {name : String} (slash : '/' ∉ name.toList) :
    '/' ∉ (Name.kebabCase name).toList :=
  Name.notMem_kebabCase slash (by decide) (by decide)

/-- What keeps the entities of a batch apart, accepted or not, if their names hold no slashes. Two
of them share no path if their files have different names, and else all of them; their files have
the same name if their names have the same words, and they have the same table if the plurals do.
If all files have different names, no path occurs twice. Where moreover no path holds double dots,
none lies on the way to another one, and nothing stands at any of them, generating that ends has
kept nothing and written every path, each for its entity. -/
theorem generateAll_apart (settings : Settings) (batch : List Entity)
    (slash : ∀ entity ∈ batch, '/' ∉ entity.name.toList) :
    (∀ first ∈ batch, ∀ second ∈ batch,
      (Name.kebabCase first.name ≠ Name.kebabCase second.name →
        List.Disjoint (settings.outputs first) (settings.outputs second)) ∧
      (Name.kebabCase first.name = Name.kebabCase second.name →
        settings.outputs first = settings.outputs second) ∧
      (Name.kebabCase first.name = Name.kebabCase second.name ↔
        Name.words first.name.toList = Name.words second.name.toList) ∧
      (Name.tableName first.name = Name.tableName second.name ↔
        Name.words (Name.pluralChars first.name.toList) =
          Name.words (Name.pluralChars second.name.toList))) ∧
    (batch.Pairwise (fun first second =>
        Name.kebabCase first.name ≠ Name.kebabCase second.name) →
      (batch.flatMap settings.outputs).Nodup ∧
      ∀ world results after, world.tree.Sound →
        (∀ path ∈ batch.flatMap settings.outputs, ".." ∉ path.steps) →
        (∀ path ∈ batch.flatMap settings.outputs, ∀ other ∈ batch.flatMap settings.outputs,
          world.tree.place path <+: world.tree.place other →
            world.tree.place path = world.tree.place other) →
        (∀ path ∈ batch.flatMap settings.outputs, ∀ kind, world.tree.status path ≠ .ok kind) →
        (generateAll settings batch).run world = (.ok results, after) →
        results.map Generated.files = batch.map fun entity => ⟨settings.outputs entity, []⟩) := by
  have plain : ∀ entity ∈ batch, '/' ∉ (Name.kebabCase entity.name).toList :=
    fun entity member => slash_notMem_kebabCase (slash entity member)
  have apart {first second : Entity} (member : first ∈ batch) (among : second ∈ batch)
      (differ : Name.kebabCase first.name ≠ Name.kebabCase second.name) :
      List.Disjoint (settings.outputs first) (settings.outputs second) :=
    fun path output also => Settings.place_ne_of_kebabCase_ne ⟨[], []⟩ (plain first member)
      (plain second among) differ output also rfl
  refine ⟨fun first member second among => ⟨apart member among, settings.outputs_congr,
    Name.kebabCase_eq_iff, Name.tableName_eq_iff⟩, fun differ => ⟨?_, ?_⟩⟩
  · exact List.nodup_flatMap.mpr
      ⟨fun entity member => settings.nodup_outputs (plain entity member), differ.imp_of_mem apart⟩
  · intro world results after sound noDots ways absent ran
    rw [generateAll_of_not_refused (not_refused_of_generateAll ran)] at ran
    exact mapM_generateJudged_fresh plain differ noDots sound ways absent ran

/-- Two entities with different words, in a project that has a schema and nothing else. -/
theorem generateAll_apart_two :
    let settings : Settings :=
      { schemaPath := .ofText "s", modulesDir := .ofText "m", skipTests := true }
    let identified : Field := { name := "id", type := .int, isId := true }
    let batch := [Entity.ofFields "A" [identified], Entity.ofFields "AB" [identified]]
    let world : World := { tree := ⟨["w"], [(["w"], .directory), (["w", "s"], .file [])]⟩ }
    (batch.flatMap settings.outputs).Nodup ∧
      ∃ results after, (generateAll settings batch).run world = (.ok results, after) ∧
        results.map Generated.files = batch.map fun entity => ⟨settings.outputs entity, []⟩ := by
  intro settings identified batch world
  have sound : world.tree.Sound := Tree.sound_of_entries (by decide) (by decide)
  obtain ⟨results, ran, -⟩ := @Script.exists_of_map_toOption _ _ (generateAll settings batch) world
    List.length 2 (by decide +kernel)
  have absent : ∀ path ∈ batch.flatMap settings.outputs,
      (world.tree.status path).isOk = false := by decide +kernel
  have apart := (generateAll_apart settings batch (by decide)).2 (by decide +kernel)
  refine ⟨apart.1, results, _, ran, apart.2 world results _ sound (by decide +kernel)
    (by decide +kernel) (fun path member kind there => ?_) ran⟩
  have none := absent path member
  rw [there] at none
  exact absurd none Bool.noConfusion

/-- Entities that pass may share all their files or their table, also where their files have
different names, and the later one gets no files. And a file of a single entity may be kept where
nothing stood at its path: one on the way to another file, or one behind a double dot that was out
of reach before. -/
theorem accepted_batch_shares :
    let settings : Settings :=
      { schemaPath := .ofText "s", modulesDir := .ofText "m", skipTests := true }
    let entity (name : String) : Entity :=
      .ofFields name [{ name := "id", type := .int, isId := true }]
    let world (entries : List (Location × Entry)) : World :=
      { tree := ⟨["w"], (["w"], .directory) :: (["w", "s"], .file []) :: entries⟩ }
    let keeps (settings : Settings) (batch : List Entity) (world : World) (count : List Nat) :=
      (∀ path ∈ batch.flatMap settings.outputs, (world.tree.status path).isOk = false) ∧
        ∃ results after, (generateAll settings batch).run world = (.ok results, after) ∧
          results.map (fun generated => generated.files.kept.length) = count
    (∀ batch ∈ [[entity "BlogPost", entity "blog_post"], [entity "Box", entity "Boxe"],
        [entity "a/b", entity "a//b"], [entity "A", entity "a"], [entity "A"]],
      (∀ entity ∈ batch, entity.violations = []) ∧ referenceViolations batch = []) ∧
    (settings.outputs (entity "BlogPost") = settings.outputs (entity "blog_post") ∧
      Name.tableName "BlogPost" = Name.tableName "blog_post") ∧
    (Name.kebabCase "Box" ≠ Name.kebabCase "Boxe" ∧
      Name.tableName "Box" = Name.tableName "Boxe") ∧
    (Name.kebabCase "a/b" ≠ Name.kebabCase "a//b" ∧
      (settings.outputs (entity "a/b")).head? = (settings.outputs (entity "a//b")).head?) ∧
    keeps settings [entity "A", entity "a"] (world []) [0, 6] ∧
    keeps { settings with
      modulesDir := .ofText "t/a/a.service.spec.ts", testsDir := .ofText "t", skipTests := false }
      [entity "A"] (world []) [1] ∧
    keeps { settings with modulesDir := .ofText "x/../m" } [entity "A"]
      (world [(["w", "m"], .directory), (["w", "m", "a"], .directory),
        (["w", "m", "a", "a.service.ts"], .file [])]) [1] := by
  intro settings entity world keeps
  have sameFiles : settings.outputs (entity "BlogPost") = settings.outputs (entity "blog_post") :=
    settings.outputs_congr (by decide +kernel)
  have counted {settings : Settings} {batch : List Entity} {world : World} {count : List Nat}
      (ends : ((generateAll settings batch).run world).1.toOption.map
        (·.map fun generated => generated.files.kept.length) = some count) :
      ∃ results after, (generateAll settings batch).run world = (.ok results, after) ∧
        results.map (fun generated => generated.files.kept.length) = count := by
    obtain ⟨results, ran, kept⟩ := Script.exists_of_map_toOption ends
    exact ⟨results, _, ran, kept⟩
  exact ⟨by decide +kernel, ⟨sameFiles, by decide +kernel⟩, by decide +kernel, by decide +kernel,
    ⟨by decide +kernel, counted (by decide +kernel)⟩,
    ⟨by decide +kernel, counted (by decide +kernel)⟩,
    ⟨by decide +kernel, counted (by decide +kernel)⟩⟩

end

end CrudScaffold
