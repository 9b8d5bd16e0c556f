import CrudScaffold.Proofs.Generation.Schema
import CrudScaffold.Proofs.Generation.Sparing
import CrudScaffold.Proofs.Script.Remaking

/-!
# Parts that resume

While entities are generated from, files and directories are added, and the schema comes to declare
more models (`Tree.Advances`). A tree that is further on in this sense is one in which the parts of
a generation find done what they did: a model is declared, and a file is there. Each part resumes a
run of its own that was broken off.
-/

namespace CrudScaffold

/-- A tree is further on: it has grown, and its schema declares all that it declared. -/
structure Tree.Advances (schema : Path) (before after : Tree) : Prop where
  /-- It has grown. -/
  grows : before.Grows after
  /-- Its schema declares all that it declared. -/
  declares : ∀ text, before.Holds schema text → ∃ later, after.Holds schema later ∧
    ∀ name, hasModel text name = true → hasModel later name = true

namespace Tree.Advances

variable {schema : Path}

/-- Every tree is as far as itself. -/
theorem refl (schema : Path) (tree : Tree) : tree.Advances schema tree :=
  ⟨.refl tree, fun text holds => ⟨text, holds, fun _ declared => declared⟩⟩

/-- Further on twice is further on. -/
theorem trans {before middle after : Tree} (first : before.Advances schema middle)
    (second : middle.Advances schema after) : before.Advances schema after := by
  refine ⟨first.grows.trans second.grows, fun text holds => ?_⟩
  obtain ⟨between, held, declares⟩ := first.declares text holds
  obtain ⟨later, last, further⟩ := second.declares between held
  exact ⟨later, last, fun name declared => further name (declares name declared)⟩

/-- A tree with something at a free location is further on. -/
theorem of_put {tree : Tree} {location : Location} (free : tree.entry? location = none)
    (entry : Entry) : tree.Advances schema (tree.put location entry) := by
  have grows : tree.Grows (tree.put location entry) :=
    Tree.grows_put fun kind there => absurd there (by simp [Tree.kind?, free])
  refine ⟨grows, fun text holds => ⟨text, ?_, fun _ declared => declared⟩⟩
  obtain ⟨place, content, characters, located, file, decoded, rfl⟩ := holds
  have other : place ≠ location := by
    rintro rfl
    exact absurd (free.symm.trans file) (by simp)
  exact ⟨place, content, characters, grows.locate located,
    (Tree.entry?_put_of_ne tree other entry).trans file, decoded, rfl⟩

/-- A tree with a new file is further on. -/
theorem of_write {tree after : Tree} {path : Path} {content : List UInt8}
    (wrote : tree.write path content = .ok after) (absent : ∀ kind, tree.status path ≠ .ok kind) :
    tree.Advances schema after := by
  obtain ⟨location, located, -, rfl⟩ := Tree.write_eq_ok_iff.mp wrote
  refine of_put ?_ _
  cases there : tree.entry? location with
  | none => rfl
  | some entry =>
    refine absurd (Tree.status_eq_ok_iff.mpr ⟨location, located, ?_⟩) (absent entry.kind)
    rw [Tree.kind?, there]
    rfl

/-- An action that writes no file leads to a tree that is further on. -/
theorem of_answer {world : World} {action : Action} (noWrite : action.isWrite = false) :
    world.tree.Advances schema (world.answer action).2.tree := by
  cases action with
  | write path content => contradiction
  | makeDirectory path =>
    cases made : world.tree.makeDirectory path with
    | error reason => simpa only [World.answer, made, World.change] using refl schema world.tree
    | ok tree =>
      obtain ⟨location, -, free, rfl⟩ := Tree.makeDirectory_eq_ok_iff.mp made
      simpa only [World.answer, made, World.change] using of_put free .directory
  | readLine =>
    simp only [World.answer, World.nextLine]
    split <;> exact refl schema _
  | status _ | read _ | print _ | readRest => exact refl schema _

/-- So does a script that writes no file, wherever it is stopped. -/
theorem of_passes {α : Type} {script : Script α} {fails : Failure → Prop}
    (within : script.Within (·.isWrite = false) fails) {world : World} {tree : Tree}
    (passes : script.Passes world tree) : world.tree.Advances schema tree := by
  induction passes with
  | here script world => exact refl schema _
  | later rest ih =>
    cases within with
    | act allowed others => exact (of_answer allowed).trans (ih (others _))

end Tree.Advances

/-! ### The schema -/

section

variable {settings : Settings} {entity : Entity} {world after : World}

/-- Where the schema declares a model, adding it leads nowhere else. -/
theorem leads_addModel_of_hasModel {tree : Tree} {text : String}
    (holds : tree.Holds settings.schemaFile text) (declared : hasModel text entity.name = true) :
    (addModel settings entity).Leads tree tree := by
  rintro world rfl
  exact ⟨false, world, run_addModel_of_hasModel holds declared, rfl⟩

/-- A run that adds a model leads to the same tree from any world with the same files. -/
theorem leads_addModel {added : Bool}
    (ran : (addModel settings entity).run world = (.ok added, after)) :
    (addModel settings entity).Leads world.tree after.tree := by
  obtain ⟨text, holds⟩ := holds_of_run_addModel ran
  obtain ⟨location, content, -, located, -⟩ := id holds
  cases declared : hasModel text entity.name with
  | true =>
    rw [run_addModel_of_hasModel holds declared] at ran
    obtain ⟨-, rfl⟩ := Prod.mk.inj ran
    exact leads_addModel_of_hasModel holds declared
  | false =>
    rw [run_addModel_of_not_hasModel located holds declared] at ran
    obtain ⟨-, rfl⟩ := Prod.mk.inj ran
    intro other start
    rw [← start] at located holds
    refine ⟨true, _, run_addModel_of_not_hasModel located holds declared, ?_⟩
    rw [World.withText, World.withText, start]

/-- A run that adds a model passes no tree but the first and the last. -/
theorem passes_addModel {tree : Tree} (passes : (addModel settings entity).Passes world tree) :
    tree = world.tree ∨ tree = ((addModel settings entity).run world).2.tree := by
  have look : (readSchema settings).Within (·.isLook) fun _ => True :=
    within_readSchema (fun _ => trivial) (fun _ => trivial) fun _ => trivial
  rcases passes.bind_cases with reading | ⟨text, middle, read, rest⟩
  · exact .inl (look.passes reading)
  obtain ⟨rfl, -⟩ := run_readSchema_eq_ok_iff.mp read
  have whole : (addModel settings entity).run middle = _ := Script.run_bind_of_ok read _
  rw [whole]
  cases appended : appendModel? text entity with
  | none =>
    rw [appended] at rest
    cases rest with
    | here _ _ => exact .inl rfl
  | some schema =>
    rw [appended] at rest
    have world_eq : ((Script.writeText settings.schemaFile schema >>= fun _ => pure true).run
        middle).2 = ((Script.writeText settings.schemaFile schema).run middle).2 := by
      rcases ran : (Script.writeText settings.schemaFile schema).run middle with ⟨result, last⟩
      cases result with
      | ok value => rw [Script.run_bind_of_ok ran]; rfl
      | error failure => rw [Script.run_bind_of_error ran]
    change _ ∨ tree = ((Script.writeText settings.schemaFile schema >>= fun _ => pure true).run
      middle).2.tree
    rw [world_eq]
    rcases rest.bind_cases with writing | ⟨value, last, wrote, rest⟩
    · exact Script.passes_writeText writing
    · cases rest with
      | here _ _ => exact .inr (by rw [wrote])

/-- Adding a model resumes a run of its own. -/
theorem resumes_addModel {added : Bool} (word : Text.isWord entity.name.toList = true)
    (ran : (addModel settings entity).run world = (.ok added, after)) :
    Script.Resumes (Tree.Advances settings.schemaFile) (addModel settings entity)
      (addModel settings entity) world := by
  obtain ⟨-, -, schema, final, -, -, holds, -, -, held, declares⟩ := addModel_effect word ran
  have grows := Script.grows_run (addModel settings entity) world
  have last {tree : Tree} (passes : (addModel settings entity).Passes world tree) :
      tree = world.tree ∨ tree = after.tree := by
    have either := passes_addModel passes
    rwa [ran] at either
  rw [ran] at grows
  refine ⟨fun tree passes => ?_, fun tree passes => ?_, fun tree beyond => ?_⟩
  · rcases last passes with rfl | rfl
    · exact .refl _ _
    · refine ⟨grows, fun text found => ⟨final, held, fun name declared => ?_⟩⟩
      exact declares name (.inl (found.unique holds ▸ declared))
  · rw [ran]
    rcases last passes with rfl | rfl
    · exact leads_addModel ran
    · exact leads_addModel_of_hasModel held (declares _ (.inr rfl))
  · rw [ran] at beyond
    obtain ⟨later, found, further⟩ := beyond.declares final held
    exact leads_addModel_of_hasModel found (further _ (declares _ (.inr rfl)))

end

/-! ### Files -/

section

variable {context : Context} {directory schema : Path} {file : SourceFile} {world after : World}
  {placement : Placement}

/-- A file that is there is kept. -/
theorem run_placeFile_of_there {kind : EntryKind}
    (there : world.tree.status (file.pathIn directory context.nameKebab) = .ok kind) :
    (placeFile false context directory file).run world =
      (.ok ⟨[], [file.pathIn directory context.nameKebab]⟩, world) :=
  (Script.run_bind_of_ok (Script.run_isThere_of_ok there) _).trans rfl

/-- Where a file is there, placing it leads nowhere else. -/
theorem leads_placeFile_of_there {tree : Tree} {kind : EntryKind}
    (there : tree.status (file.pathIn directory context.nameKebab) = .ok kind) :
    (placeFile false context directory file).Leads tree tree := by
  rintro world rfl
  exact ⟨_, world, run_placeFile_of_there there, rfl⟩

/-- A file that could be written in the end, and at whose path nothing was then, is not found
before. -/
theorem run_isThere_of_grows {path : Path} {tree : Tree} {location : Location}
    (grows : world.tree.Grows tree) (located : tree.locate path = .ok location)
    (absent : ∀ kind, tree.status path ≠ .ok kind) :
    (Script.isThere path).run world = (.ok false, world) := by
  cases status : world.tree.status path with
  | ok kind => exact absurd (grows.status status) (absent kind)
  | error reason =>
    have missing : reason = .missing := by
      unfold Tree.status at status
      rcases grows.locate_before located with found | refused
      · rw [found] at status
        dsimp only at status
        split at status
        · contradiction
        · exact (Except.error.inj status).symm
      · rw [refused] at status
        exact (Except.error.inj status).symm
    exact Script.run_isThere_of_absent status (by rw [missing]; rfl)

/-- A file with a rendering is written with it unless it is there. -/
theorem placeFile_of_render {content : String} {path : Path}
    (spelled : file.pathIn directory context.nameKebab = path)
    (rendered : file.render context.members = .ok content) :
    placeFile false context directory file = (do
      let there ← Script.isThere path
      if there then return ⟨[], [path]⟩
      else do
        Script.writeTextWithin path content
        return ⟨[path], []⟩) := by
  unfold placeFile
  rw [spelled, rendered]
  refine bind_congr fun there => ?_
  cases there <;> rfl

/-- Placing a file that is there resumes itself. -/
theorem resumes_placeFile_of_there {kind : EntryKind}
    (there : world.tree.status (file.pathIn directory context.nameKebab) = .ok kind) :
    Script.Resumes (Tree.Advances schema) (placeFile false context directory file)
      (placeFile false context directory file) world := by
  have look : (Script.isThere (file.pathIn directory context.nameKebab)).Within (·.isLook)
      fun _ => True := Script.within_isThere fun _ => trivial
  have still {tree : Tree} (passes : (placeFile false context directory file).Passes world tree) :
      tree = world.tree := by
    rcases passes.bind_cases with asking | ⟨found, middle, asked, rest⟩
    · exact look.passes asking
    · rw [Script.run_isThere_of_ok there] at asked
      obtain ⟨same, rfl⟩ := Prod.mk.inj asked
      obtain rfl := Except.ok.inj same
      cases rest with
      | here _ _ => rfl
  refine ⟨fun tree passes => ?_, fun tree passes => ?_, fun tree beyond => ?_⟩
  · rw [still passes]
    exact .refl _ _
  · rw [still passes, run_placeFile_of_there there]
    exact leads_placeFile_of_there there
  · rw [run_placeFile_of_there there] at beyond
    exact leads_placeFile_of_there (beyond.grows.status there)

/-- Placing a file that is not there resumes a run of its own that found nothing in its place when
the directories had been made. -/
theorem resumes_placeFile_of_missing {middle : World} {content : String} {path : Path}
    (spelled : file.pathIn directory context.nameKebab = path)
    (rendered : file.render context.members = .ok content)
    (asked : (Script.isThere path).run world = (.ok false, world))
    (making : (Script.makeDirectories path.parent).run world = (.ok (), middle))
    (writing : (Script.writeText path content).run middle = (.ok (), after))
    (absent : ∀ kind, middle.tree.status path ≠ .ok kind) :
    Script.Resumes (Tree.Advances schema) (placeFile false context directory file)
      (placeFile false context directory file) world := by
  have whole : (Script.writeTextWithin path content).run world = (.ok (), after) :=
    (Script.run_bind_of_ok making _).trans writing
  have ran : (placeFile false context directory file).run world = (.ok ⟨[path], []⟩, after) := by
    rw [placeFile_of_render spelled rendered, Script.run_bind_of_ok asked]
    exact Script.run_bind_of_ok whole _
  obtain ⟨location, located, noDirectory, same⟩ := Script.run_writeText_eq_ok_iff.mp writing
  have wrote : middle.tree.write path (Text.encodeUtf8 content.toList) = .ok after.tree :=
    Tree.write_eq_ok_iff.mpr ⟨location, located, noDirectory, congrArg World.tree same⟩
  have there : after.tree.status (file.pathIn directory context.nameKebab) = .ok .file := by
    rw [spelled]
    exact Tree.status_of_read (Tree.read_of_write wrote)
  have either {tree : Tree} (passes : (placeFile false context directory file).Passes world tree) :
      (Script.makeDirectories path.parent).Passes world tree ∨ tree = after.tree := by
    rw [placeFile_of_render spelled rendered] at passes
    rcases passes.bind_cases with asking | ⟨found, start, again, rest⟩
    · have look : (Script.isThere path).Within (·.isLook) fun _ => True :=
        Script.within_isThere fun _ => trivial
      rw [look.passes asking]
      exact .inl (.here _ world)
    · rw [asked] at again
      obtain ⟨same, rfl⟩ := Prod.mk.inj again
      obtain rfl := Except.ok.inj same
      rcases rest.bind_cases with writing | ⟨done, last, again, rest⟩
      · exact Script.passes_writeTextWithin whole writing
      · rw [whole] at again
        obtain ⟨-, rfl⟩ := Prod.mk.inj again
        cases rest with
        | here _ _ => exact .inr rfl
  have directories : (Script.makeDirectories path.parent).Within (·.isWrite = false)
      fun _ => True := Script.within_makeDirectoriesWithin (fun _ _ _ => trivial) _
  refine ⟨fun tree passes => ?_, fun tree passes => ?_, fun tree beyond => ?_⟩
  · rcases either passes with deeper | rfl
    · exact .of_passes directories deeper
    · have deepest := Script.passes_run (Script.makeDirectories path.parent) world
      rw [making] at deepest
      exact (Tree.Advances.of_passes directories deepest).trans (.of_write wrote absent)
  · rw [ran]
    rcases either passes with deeper | rfl
    · rintro start rfl
      have grows := deeper.grows.2
      rw [making] at grows
      rw [placeFile_of_render spelled rendered,
        Script.run_bind_of_ok (run_isThere_of_grows grows located absent)]
      exact (Script.leads_writeTextWithin whole deeper).bind (fun _ _ same => ⟨_, _, rfl, same⟩)
        start rfl
    · exact leads_placeFile_of_there there
  · rw [ran] at beyond
    exact leads_placeFile_of_there (beyond.grows.status there)

/-- Placing a file resumes a run of its own that wrote over nothing but the schema, where there is
one. -/
theorem resumes_placeFile (there : world.tree.status schema = .ok .file)
    (spares : (placeFile false context directory file).Always (Tree.Spares schema) world)
    (ran : (placeFile false context directory file).run world = (.ok placement, after)) :
    Script.Resumes (Tree.Advances schema) (placeFile false context directory file)
      (placeFile false context directory file) world := by
  rcases of_run_placeFile rfl ran with ⟨-, ⟨kind, kept⟩, -, -⟩ |
    ⟨content, middle, asked, rendered, making, writing, -⟩
  · exact resumes_placeFile_of_there kept
  have asked := asked rfl
  refine resumes_placeFile_of_missing rfl rendered asked making writing fun kind present => ?_
  -- in the end something is there only if it is the schema, and that was there before
  rw [placeFile_of_render rfl rendered] at spares
  have writes := (Script.always_bind_iff.mp ((Script.always_bind_iff.mp
    ((Script.always_bind_iff.mp spares).2 _ _ asked)).1)).2 _ _ making
  rcases writes.1 with same | absent
  · have found := (Script.run_isThere_of_ok there).symm.trans (same ▸ asked)
    exact absurd (Except.ok.inj (Prod.mk.inj found).1) (by decide)
  · exact absent kind present

end

end CrudScaffold
