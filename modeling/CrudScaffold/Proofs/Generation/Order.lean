import CrudScaffold.Proofs.Generation.Apart

/-!
# Batches in any order

What generating from a batch leaves behind can be told from the state before, entity by entity: what
is reported of each of them, what the files hold, and which models the schema declares. Nothing in
that depends on the order of the batch, so two orders that both end leave the same behind
(`generateAll_order`).
-/

namespace CrudScaffold

/-- What is reported of an entity, told from the files and the schema before. -/
def Settings.report (settings : Settings) (tree : Tree) (schema : String) (entity : Entity) :
    Generated :=
  ⟨entity.name, !hasModel schema entity.name,
    (settings.outputs entity).filter (!settings.keeps tree entity ·),
    (settings.outputs entity).filter (settings.keeps tree entity)⟩

/-- The locations to which an entity writes. -/
def Settings.targets (settings : Settings) (tree : Tree) (entity : Entity) : List Location :=
  ((settings.outputs entity).filter (!settings.keeps tree entity ·)).map tree.place

/-- What an entity writes to a location. -/
def Settings.Writes (settings : Settings) (tree : Tree) (entity : Entity) (location : Location)
    (content : List UInt8) : Prop :=
  ∃ spot ∈ settings.files entity, settings.keeps tree entity spot.1 = false ∧
    tree.place spot.1 = location ∧ ∃ text,
      spot.2.render (Context.ofEntity entity).members = .ok text ∧
      Text.encodeUtf8 text.toList = content

/-- What a batch leaves in a file: what one of its entities writes there, or what it held if none
does. -/
def Settings.Leaves (settings : Settings) (tree : Tree) (batch : List Entity) (location : Location)
    (content : List UInt8) : Prop :=
  (∃ entity ∈ batch, settings.Writes tree entity location content) ∨
    (∀ entity ∈ batch, location ∉ settings.targets tree entity) ∧
      tree.entry? location = some (.file content)

/-- What a batch that ended has done, told without its order. -/
structure BatchEffect (settings : Settings) (text : String) (batch : List Entity)
    (before after : Tree) (results : List Generated) : Prop where
  /-- Each entity is reported of as if it were alone. -/
  reports : results = batch.map (settings.report before text)
  /-- The files, but for the schema, hold what the batch leaves. -/
  files : ∀ location content, location ≠ before.place settings.schemaFile →
    (after.entry? location = some (.file content) ↔
      settings.Leaves before batch location content)
  /-- The schema declares the entities and what it declared. -/
  schema : ∃ final, after.Holds settings.schemaFile final ∧
    ∀ name : String, Text.isWord name.toList = true →
      (hasModel final name = true ↔
        hasModel text name = true ∨ ∃ entity ∈ batch, entity.name = name)

section

variable {settings : Settings} {entity other : Entity} {tree : Tree} {location : Location}
  {content : List UInt8}

/-- A location is written to if it is the place of a path that is not kept. -/
theorem Settings.mem_targets_iff : location ∈ settings.targets tree entity ↔
    ∃ path ∈ settings.outputs entity, settings.keeps tree entity path = false ∧
      tree.place path = location := by
  simp [targets, and_assoc]

/-- What is written is written somewhere. -/
theorem Settings.Writes.mem_targets (writes : settings.Writes tree entity location content) :
    location ∈ settings.targets tree entity := by
  obtain ⟨spot, file, free, place, -⟩ := writes
  exact Settings.mem_targets_iff.mpr
    ⟨spot.1, Settings.mem_outputs_iff.mpr ⟨spot, file, rfl⟩, free, place⟩

/-- What a batch leaves does not depend on its order. -/
theorem Settings.leaves_congr {batch shuffled : List Entity} (perm : batch.Perm shuffled) :
    settings.Leaves tree batch location content ↔
      settings.Leaves tree shuffled location content := by
  unfold Leaves
  simp only [perm.mem_iff]

/-- A later state keeps the same paths of an entity. -/
def Settings.Alike (settings : Settings) (entity : Entity) (tree later : Tree) : Prop :=
  ∀ path ∈ settings.outputs entity,
    settings.keeps later entity path = settings.keeps tree entity path

section

variable {middle : Tree} (alike : settings.Alike entity tree middle)
include alike

/-- Where the same is kept, the same is written. -/
theorem Settings.Alike.writes_iff (grows : tree.Grows middle) :
    settings.Writes middle entity location content ↔
      settings.Writes tree entity location content := by
  unfold Settings.Writes
  refine exists_congr fun spot => and_congr_right fun file => ?_
  rw [alike spot.1 (Settings.mem_outputs_iff.mpr ⟨spot, file, rfl⟩), grows.place]

/-- Where the same is kept, the same locations are written to. -/
theorem Settings.Alike.targets_eq (grows : tree.Grows middle) :
    settings.targets middle entity = settings.targets tree entity := by
  unfold Settings.targets
  rw [funext grows.place, List.filter_congr fun path member => by rw [alike path member]]

/-- Where the same is kept and the schema declares the entity or not as before, the same is
reported. -/
theorem Settings.Alike.report_eq {schema text : String}
    (same : hasModel schema entity.name = hasModel text entity.name) :
    settings.report middle schema entity = settings.report tree text entity := by
  unfold Settings.report
  rw [same, List.filter_congr fun path member => by rw [alike path member],
    List.filter_congr alike]

end

end

/-! ### One entity -/

section

variable {settings : Settings} {entity other : Entity} {world after : World}
  {generated : Generated}

/-- A generation changes nothing in what is kept of an entity whose files have another name: what it
makes at such a path is a directory on the way to further files of that entity, so the path is kept
in any case. -/
theorem alike_of_generateJudged (plain : settings.Plain) (sound : world.tree.Sound)
    (word : Text.isWord entity.name.toList = true) (also : Text.isWord other.name.toList = true)
    (differ : Name.kebabCase other.name ≠ Name.kebabCase entity.name)
    (ran : (generateJudged settings entity).run world = (.ok generated, after)) :
    settings.Alike other world.tree after.tree := by
  have grows := Script.grows_run (generateJudged settings entity) world
  rw [ran] at grows
  have plainHere : ∀ path ∈ settings.outputs entity, ".." ∉ path.steps :=
    plain.outputs word
  intro path member
  rw [Bool.eq_iff_iff, Settings.keeps_iff, Settings.keeps_iff]
  simp only [grows.place]
  refine and_congr_right fun _ => ⟨?_, Or.imp_left fun ⟨kind, there⟩ => ⟨kind, grows.status there⟩⟩
  rintro (⟨kind, there⟩ | onWay)
  · by_cases before : ∃ kind, world.tree.status path = .ok kind
    · exact .inl before
    -- the generation made what stands there, on the way to a file of its entity
    obtain ⟨output, among, onWay⟩ := exists_below_of_generateJudged plainHere
      (notMem_kebabCase_of_isWord word).1 sound ran (plain.outputs also path member)
      (fun kind there => before ⟨kind, there⟩) there
    exact .inr (Settings.exists_below member among (notMem_kebabCase_of_isWord also).1
      (notMem_kebabCase_of_isWord word) differ onWay)
  · exact .inr onWay

/-- After an entity with a definition, the schema declares it and of all other words those that it
declared. -/
theorem Effect.declares {tree last : Tree} (effect : Effect settings entity tree last generated)
    (writable : entity.Writable) (word : Text.isWord entity.name.toList = true) {text : String}
    (holds : tree.Holds settings.schemaFile text) :
    generated.modelAdded = !hasModel text entity.name ∧
      ∃ final, last.Holds settings.schemaFile final ∧
        ∀ name : String, Text.isWord name.toList = true →
          (hasModel final name = true ↔ hasModel text name = true ∨ entity.name = name) := by
  obtain ⟨schema, final, before, held, flag, -, read⟩ := effect.schema
  obtain rfl := before.unique holds
  refine ⟨flag, final, held, fun name named => ?_⟩
  cases known : hasModel schema entity.name with
  | true =>
    rw [flag, known, if_neg (by decide)] at read
    rw [Tree.holds_iff_read, read, ← Tree.holds_iff_read] at held
    obtain rfl := held.unique before
    exact ⟨.inl, fun declared => declared.elim id fun same => same ▸ known⟩
  | false =>
    rw [flag, known, Bool.not_false, if_pos rfl] at read
    have plain := writable.return_notMem_appendFragment word before.return_notMem
    have whole : last.Holds settings.schemaFile (appendFragment schema entity.model) :=
      Tree.holds_iff_read.mpr ⟨_, _, read, Text.decodeUtf8_encodeUtf8 _, by
        rw [Text.unifyNewlines_eq_self plain, String.ofList_toList]⟩
    obtain rfl := held.unique whole
    rw [hasModel_appendFragment writable word named, @eq_comm _ name]

/-- A path of the entity that is not kept was written. -/
theorem Effect.mem_written {tree last : Tree} (effect : Effect settings entity tree last generated)
    {path : Path} (output : path ∈ settings.outputs entity)
    (free : settings.keeps tree entity path = false) : path ∈ generated.files.written := by
  rw [effect.written, List.mem_filter, free]
  exact ⟨output, rfl⟩

/-- What the entity writes stands there in the end. -/
theorem Effect.entry?_of_writes {tree last : Tree}
    (effect : Effect settings entity tree last generated) (grows : tree.Grows last)
    (plain : ∀ path ∈ settings.outputs entity, ".." ∉ path.steps) {location : Location}
    {content : List UInt8} (writes : settings.Writes tree entity location content) :
    last.entry? location = some (.file content) := by
  obtain ⟨spot, file, free, rfl, text, rendering, rfl⟩ := writes
  have output := Settings.mem_outputs_iff.mpr ⟨spot, file, rfl⟩
  obtain ⟨content, rendered, read⟩ := effect.rendered spot file (effect.mem_written output free)
  obtain ⟨location, located, there⟩ := Tree.read_eq_ok_iff.mp read
  obtain rfl := Tree.eq_place_of_locate (plain spot.1 output) located
  rw [Except.ok.inj (rendering.symm.trans rendered), ← grows.place, there]

/-- The files hold what the entity leaves. -/
theorem Effect.file_iff {tree last : Tree} (effect : Effect settings entity tree last generated)
    (grows : tree.Grows last) (plain : ∀ path ∈ settings.outputs entity, ".." ∉ path.steps)
    {location : Location} (elsewhere : location ≠ tree.place settings.schemaFile)
    {content : List UInt8} :
    last.entry? location = some (.file content) ↔
      settings.Leaves tree [entity] location content := by
  simp only [Settings.Leaves, List.mem_singleton, exists_eq_left, forall_eq]
  by_cases target : location ∈ settings.targets tree entity
  · refine ⟨fun there => .inl ?_, fun left => left.elim (effect.entry?_of_writes grows plain)
      fun other => absurd target other.1⟩
    obtain ⟨path, output, free, rfl⟩ := Settings.mem_targets_iff.mp target
    obtain ⟨spot, file, rfl⟩ := Settings.mem_outputs_iff.mp output
    obtain ⟨text, rendered, -⟩ := effect.rendered spot file (effect.mem_written output free)
    have writes : settings.Writes tree entity (tree.place spot.1) (Text.encodeUtf8 text.toList) :=
      ⟨spot, file, free, rfl, text, rendered, rfl⟩
    have stands := effect.entry?_of_writes grows plain writes
    rwa [← Entry.file.inj (Option.some.inj (stands.symm.trans there))]
  · rw [effect.frame location content (effect.written ▸ target) elsewhere]
    exact ⟨fun there => .inr ⟨target, there⟩,
      fun left => left.elim (fun writes => absurd writes.mem_targets target) And.right⟩

/-- The effect of a generation that ended, as that of a batch. -/
theorem batchEffect_of_generateJudged (plain : settings.Plain) (sound : world.tree.Sound)
    (apart : world.tree.place settings.schemaFile ∉
      (settings.outputs entity).map world.tree.place)
    (writable : entity.Writable) (word : Text.isWord entity.name.toList = true) {text : String}
    (holds : world.tree.Holds settings.schemaFile text)
    (ran : (generateJudged settings entity).run world = (.ok generated, after)) :
    BatchEffect settings text [entity] world.tree after.tree [generated] := by
  have effect := effect_of_generateJudged plain sound apart word ran
  have grows := Script.grows_run (generateJudged settings entity) world
  rw [ran] at grows
  obtain ⟨flag, final, held, declares⟩ := effect.declares writable word holds
  refine ⟨?_, fun location content elsewhere => ?_, final, held, fun name named => ?_⟩
  · obtain ⟨subject, added, writes, keeps⟩ := generated
    rw [List.map_singleton, Settings.report, ← flag, ← effect.subject, ← effect.written,
      ← effect.kept]
  · exact effect.file_iff grows (plain.outputs word) elsewhere
  · rw [declares name named]
    simp

end

/-! ### Many entities -/

section

variable {settings : Settings} {entity : Entity} {batch : List Entity} {text final : String}
  {before middle after : Tree} {generated : Generated} {results : List Generated}

/-- What a batch leaves that was generated from after an entity. -/
theorem Settings.leaves_cons {location : Location}
    (first : ∀ content, middle.entry? location = some (.file content) ↔
      settings.Leaves before [entity] location content)
    (grows : before.Grows middle)
    (alike : ∀ other ∈ batch, settings.Alike other before middle)
    (apart : ∀ other ∈ batch,
      List.Disjoint (settings.targets before entity) (settings.targets before other))
    {content : List UInt8} :
    settings.Leaves middle batch location content ↔
      settings.Leaves before (entity :: batch) location content := by
  have writes : (∃ other ∈ batch, settings.Writes middle other location content) ↔
      ∃ other ∈ batch, settings.Writes before other location content :=
    exists_congr fun other => and_congr_right fun member => (alike other member).writes_iff grows
  have targets : (∀ other ∈ batch, location ∉ settings.targets middle other) ↔
      ∀ other ∈ batch, location ∉ settings.targets before other :=
    forall₂_congr fun other member => by rw [(alike other member).targets_eq grows]
  have free : settings.Writes before entity location content →
      ∀ other ∈ batch, location ∉ settings.targets before other :=
    fun writes other member target => apart other member writes.mem_targets target
  unfold Leaves at first ⊢
  rw [writes, targets, first]
  simp only [List.mem_cons, List.not_mem_nil, or_false, exists_eq_left, forall_eq,
    exists_eq_or_imp, forall_eq_or_imp]
  constructor
  · rintro (later | ⟨none, here | ⟨untouched, held⟩⟩)
    · exact .inl (.inr later)
    · exact .inl (.inl here)
    · exact .inr ⟨⟨untouched, none⟩, held⟩
  · rintro ((here | later) | ⟨⟨untouched, none⟩, held⟩)
    · exact .inr ⟨free here, .inl here⟩
    · exact .inl later
    · exact .inr ⟨none, .inr ⟨untouched, held⟩⟩

/-- The effect of an entity and then a batch. -/
theorem BatchEffect.cons (words : ∀ other ∈ batch, Text.isWord other.name.toList = true)
    (names : ∀ other ∈ batch, entity.name ≠ other.name)
    (first : BatchEffect settings text [entity] before middle [generated])
    (grows : before.Grows middle)
    (alike : ∀ other ∈ batch, settings.Alike other before middle)
    (apart : ∀ other ∈ batch,
      List.Disjoint (settings.targets before entity) (settings.targets before other))
    (rest : ∀ final, middle.Holds settings.schemaFile final →
      BatchEffect settings final batch middle after results) :
    BatchEffect settings text (entity :: batch) before after (generated :: results) := by
  obtain ⟨held, holds, declares⟩ := first.schema
  have rest := rest held holds
  obtain ⟨final, last, also⟩ := rest.schema
  refine ⟨?_, fun location content elsewhere => ?_, final, last, fun name word => ?_⟩
  · have known : ∀ other ∈ batch, hasModel held other.name = hasModel text other.name := by
      intro other member
      rw [Bool.eq_iff_iff, declares other.name (words other member)]
      simp [names other member]
    rw [List.map_cons, ← (List.cons.inj first.reports).1, rest.reports,
      List.map_congr_left fun other member => (alike other member).report_eq (known other member)]
  · rw [rest.files location content (grows.place _ ▸ elsewhere)]
    exact Settings.leaves_cons (fun content => first.files location content elsewhere) grows alike
      apart
  · rw [also name word, declares name word]
    simp [or_assoc]

end

/-- A batch of definitions whose entities have different words as names, which give their files
different names. -/
structure Distinct (batch : List Entity) : Prop where
  /-- Each entity is what a definition gives. -/
  parsed : ∀ entity ∈ batch, ∃ text, Entity.parse text = .ok entity
  /-- Their names are words. -/
  word : ∀ entity ∈ batch, Text.isWord entity.name.toList = true
  /-- No two of them have the same name. -/
  names : (batch.map Entity.name).Nodup
  /-- No two of them have files of the same name. -/
  files : (batch.map fun entity => Name.kebabCase entity.name).Nodup

section

variable {settings : Settings} {entity : Entity} {batch shuffled : List Entity}

/-- A batch stays distinct in another order. -/
theorem Distinct.perm (distinct : Distinct batch) (perm : batch.Perm shuffled) :
    Distinct shuffled where
  parsed entity member := distinct.parsed entity (perm.mem_iff.mpr member)
  word entity member := distinct.word entity (perm.mem_iff.mpr member)
  names := (perm.map _).nodup_iff.mp distinct.names
  files := (perm.map _).nodup_iff.mp distinct.files

/-- The rest of a distinct batch is distinct, also from the first entity. -/
theorem Distinct.of_cons (distinct : Distinct (entity :: batch)) : Distinct batch ∧
    ∀ other ∈ batch, entity.name ≠ other.name ∧
      Name.kebabCase other.name ≠ Name.kebabCase entity.name := by
  obtain ⟨name, names⟩ := List.nodup_cons.mp distinct.names
  obtain ⟨file, files⟩ := List.nodup_cons.mp distinct.files
  refine ⟨⟨(List.forall_mem_cons.mp distinct.parsed).2, (List.forall_mem_cons.mp distinct.word).2,
    names, files⟩, fun other member => ⟨fun same => name ?_, fun same => file ?_⟩⟩
  · exact same ▸ List.mem_map_of_mem member
  · exact List.mem_map.mpr ⟨other, member, same⟩

/-- Entities of a batch whose files have different names write to different locations. -/
theorem Settings.disjoint_targets (tree : Tree) {other : Entity}
    (word : Text.isWord entity.name.toList = true) (also : Text.isWord other.name.toList = true)
    (differ : Name.kebabCase other.name ≠ Name.kebabCase entity.name) :
    List.Disjoint (settings.targets tree entity) (settings.targets tree other) := by
  intro location here there
  obtain ⟨path, output, -, rfl⟩ := Settings.mem_targets_iff.mp here
  obtain ⟨further, among, -, same⟩ := Settings.mem_targets_iff.mp there
  exact Settings.place_ne_of_kebabCase_ne tree (notMem_kebabCase_of_isWord also).1
    (notMem_kebabCase_of_isWord word).1 differ among output same

/-- The effect of a batch that ended. -/
theorem batchEffect_of_mapM_generateJudged {world after : World} {results : List Generated}
    {text : String} (plain : settings.Plain) (sound : world.tree.Sound) (distinct : Distinct batch)
    (apart : ∀ entity ∈ batch, world.tree.place settings.schemaFile ∉
      (settings.outputs entity).map world.tree.place)
    (holds : world.tree.Holds settings.schemaFile text)
    (ran : (batch.mapM (generateJudged settings)).run world = (.ok results, after)) :
    BatchEffect settings text batch world.tree after.tree results := by
  induction batch generalizing world results text with
  | nil =>
    obtain ⟨same, rfl⟩ := Prod.mk.inj ran
    obtain rfl := Except.ok.inj same
    exact ⟨rfl, fun location content _ => by simp [Settings.Leaves], text, holds,
      fun name _ => by simp⟩
  | cons entity batch ih =>
    obtain ⟨generated, middle, others, first, rest, rfl⟩ := Script.exists_of_run_mapM_cons ran
    obtain ⟨further, differ⟩ := distinct.of_cons
    obtain ⟨word, words⟩ := List.forall_mem_cons.mp distinct.word
    obtain ⟨apartHere, apart⟩ := List.forall_mem_cons.mp apart
    obtain ⟨definition, parsed⟩ := distinct.parsed entity List.mem_cons_self
    have grows := Script.grows_run (generateJudged settings entity) world
    have soundMiddle := Script.sound_run (generateJudged settings entity) sound
    rw [first] at grows soundMiddle
    have here := batchEffect_of_generateJudged plain sound apartHere
      (Entity.writable_of_parse parsed) word holds first
    -- the effect of the rest is told from the state in between, which is alike for its entities
    refine .cons words (fun other member => (differ other member).1) here grows
      (fun other member => ?_) (fun other member => ?_) fun final held => ?_
    · exact alike_of_generateJudged plain sound word (words other member) (differ other member).2
        first
    · exact Settings.disjoint_targets world.tree word (words other member) (differ other member).2
    · refine ih soundMiddle further (fun other member => ?_) held rest
      rw [funext grows.place]
      exact apart other member

/-- A batch with an entity that ended found a schema. -/
theorem exists_holds_of_mapM_generateJudged {world after : World} {results : List Generated}
    (some : batch ≠ [])
    (ran : (batch.mapM (generateJudged settings)).run world = (.ok results, after)) :
    ∃ text, world.tree.Holds settings.schemaFile text := by
  obtain ⟨entity, batch, rfl⟩ := List.exists_cons_of_ne_nil some
  obtain ⟨generated, middle, others, first, -⟩ := Script.exists_of_run_mapM_cons ran
  rw [generateJudged_eq] at first
  obtain ⟨added, between, adding, -⟩ := Script.exists_of_run_bind first
  exact holds_of_run_addModel adding

/-- Whether a batch ends with violations is whether it is refused. -/
theorem generateAll_invalid_iff {world : World} :
    (∃ subject messages after,
      (generateAll settings batch).run world = (.error (.invalid subject messages), after)) ↔
      Refused settings batch := by
  constructor
  · rintro ⟨subject, messages, after, ran⟩
    exact refused_of_generateAll ran
  · intro refused
    rw [generateAll_of_refused refused]
    exact ⟨none, refusalMessages settings batch, world, rfl⟩

/-- A batch of different words gives the same in any order, for every state of the files and all
settings without double dots in their paths, if the schema is none of the outputs. One order ends
with violations if the other does. If both end well, the same is reported of each entity, all files
but the schema hold the same, and both schemas declare the same words. -/
theorem generateAll_order {world : World} (plain : settings.Plain) (sound : world.tree.Sound)
    (distinct : Distinct batch)
    (apart : ∀ entity ∈ batch, world.tree.place settings.schemaFile ∉
      (settings.outputs entity).map world.tree.place)
    (perm : batch.Perm shuffled) :
    ((∃ subject messages after,
        (generateAll settings batch).run world = (.error (.invalid subject messages), after)) ↔
      ∃ subject messages after,
        (generateAll settings shuffled).run world = (.error (.invalid subject messages), after)) ∧
    ∀ results others after last,
      (generateAll settings batch).run world = (.ok results, after) →
      (generateAll settings shuffled).run world = (.ok others, last) →
      (∃ report : Entity → Generated,
        results = batch.map report ∧ others = shuffled.map report) ∧
      (∀ location content, location ≠ world.tree.place settings.schemaFile →
        (after.tree.entry? location = some (.file content) ↔
          last.tree.entry? location = some (.file content))) ∧
      (batch = [] ∧ after = last ∨ ∃ schema text,
        after.tree.Holds settings.schemaFile schema ∧ last.tree.Holds settings.schemaFile text ∧
        ∀ name : String, Text.isWord name.toList = true →
          hasModel schema name = hasModel text name) := by
  refine ⟨?_, fun results others after last ran also => ?_⟩
  · rw [generateAll_invalid_iff, generateAll_invalid_iff, refused_congr perm]
  rw [generateAll_of_not_refused (not_refused_of_generateAll ran)] at ran
  rw [generateAll_of_not_refused (not_refused_of_generateAll also)] at also
  by_cases none : batch = []
  · subst none
    obtain rfl := perm.nil_eq
    obtain ⟨found, rfl⟩ := Prod.mk.inj (ran.symm.trans also)
    obtain rfl := Except.ok.inj found
    obtain rfl := Except.ok.inj (Prod.mk.inj ran).1
    exact ⟨⟨settings.report world.tree "", rfl, rfl⟩, fun _ _ _ => .rfl, .inl ⟨rfl, rfl⟩⟩
  obtain ⟨text, holds⟩ := exists_holds_of_mapM_generateJudged none ran
  have first := batchEffect_of_mapM_generateJudged plain sound distinct apart holds ran
  have second := batchEffect_of_mapM_generateJudged plain sound (distinct.perm perm)
    (fun entity member => apart entity (perm.mem_iff.mpr member)) holds also
  obtain ⟨schema, held, declares⟩ := first.schema
  obtain ⟨final, heldToo, declaresToo⟩ := second.schema
  refine ⟨⟨_, first.reports, second.reports⟩, fun location content elsewhere => ?_,
    .inr ⟨schema, final, held, heldToo, fun name word => ?_⟩⟩
  · rw [first.files location content elsewhere, second.files location content elsewhere,
      Settings.leaves_congr perm]
  · rw [Bool.eq_iff_iff, declares name word, declaresToo name word]
    simp only [perm.mem_iff]

/-- Two entities in both orders, one of which is declared, in a project that has a file of the
other. -/
theorem generateAll_order_two :
    let settings : Settings :=
      { schemaPath := .ofText "s", modulesDir := .ofText "m", skipTests := true }
    let entity (name : String) : Entity :=
      .ofFields name [{ name := "id", type := .int, isId := true }]
    let schema := Text.encodeUtf8 "model B \x7b\n\x7d\n".toList
    let world : World := { tree := ⟨["w"],
      [(["w"], .directory), (["w", "s"], .file schema), (["w", "m"], .directory),
        (["w", "m", "a"], .directory), (["w", "m", "a", "a.module.ts"], .file [])]⟩ }
    ∃ results others after last,
      (generateAll settings [entity "A", entity "B"]).run world = (.ok results, after) ∧
      (generateAll settings [entity "B", entity "A"]).run world = (.ok others, last) ∧
      results.map (fun generated => (generated.modelAdded, generated.files.kept.length)) =
        [(true, 1), (false, 0)] ∧
      (∃ report : Entity → Generated, results = [report (entity "A"), report (entity "B")] ∧
        others = [report (entity "B"), report (entity "A")]) ∧
      ∀ location content, location ≠ world.tree.place settings.schemaFile →
        (after.tree.entry? location = some (.file content) ↔
          last.tree.entry? location = some (.file content)) := by
  intro settings entity schema world
  have plain : settings.Plain := by constructor <;> decide +kernel
  have sound : world.tree.Sound := Tree.sound_of_entries (by decide) (by decide)
  have distinct : Distinct [entity "A", entity "B"] := by
    refine ⟨?_, by decide +kernel, by decide +kernel, by decide +kernel⟩
    simp only [List.forall_mem_cons, List.not_mem_nil, false_implies, implies_true, and_true]
    exact ⟨⟨"A\nid:int@id", by decide +kernel⟩, "B\nid:int@id", by decide +kernel⟩
  obtain ⟨results, ran, counted⟩ := @Script.exists_of_map_toOption _ _
    (generateAll settings [entity "A", entity "B"]) world
    (·.map fun generated => (generated.modelAdded, generated.files.kept.length))
    [(true, 1), (false, 0)] (by decide +kernel)
  obtain ⟨others, also, -⟩ := @Script.exists_of_map_toOption _ _
    (generateAll settings [entity "B", entity "A"]) world List.length 2 (by decide +kernel)
  obtain ⟨report, files, -⟩ := (generateAll_order plain sound distinct (by decide +kernel)
    (.swap (entity "B") (entity "A") [])).2 results others _ _ ran also
  exact ⟨results, others, _, _, ran, also, counted, report, files⟩

end

end CrudScaffold
