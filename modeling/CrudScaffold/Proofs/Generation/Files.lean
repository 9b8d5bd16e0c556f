import CrudScaffold.Proofs.Generation.Outputs
import CrudScaffold.Proofs.Generation.Parts
import CrudScaffold.Proofs.Script.Directories

/-!
# What placing files does

A file is kept, or written with its rendering in a directory that is made if it is missing
(`Placed`), and the files of an entity are placed one after the other (`PlacedAll`). Every path is
reported once, what was written is there in the end, and nothing else changes than that directories
appear on the way (`Tree.WritesTo`).
-/

namespace CrudScaffold

/-! ### Trees with files written to paths -/

namespace Tree

/-- A tree after files were written to the places of some paths. -/
structure WritesTo (paths : List Path) (tree after : Tree) : Prop where
  /-- The working directory is the same. -/
  base : after.base = tree.base
  /-- Apart from those files, only free locations on the way to one of them have become
  directories. -/
  entry : ∀ location, after.entry? location = tree.entry? location ∨
    (∃ path ∈ paths, location = tree.place path) ∨
    tree.entry? location = none ∧ after.entry? location = some .directory ∧
      ∃ path ∈ paths, location <+: tree.place path.parent

/-- A path spells the same location from the same working directory. -/
theorem place_eq_of_base {tree after : Tree} (base : after.base = tree.base) (path : Path) :
    after.place path = tree.place path := by
  rw [place, place, start, start, base]

namespace WritesTo

variable {paths : List Path} {tree after : Tree}

/-- Nothing was written. -/
theorem refl (paths : List Path) (tree : Tree) : tree.WritesTo paths tree :=
  ⟨rfl, fun _ => .inl rfl⟩

/-- Where files may be written to some paths, they may be written to more. -/
theorem mono {more : List Path} (writes : tree.WritesTo paths after)
    (among : ∀ path ∈ paths, path ∈ more) : tree.WritesTo more after := by
  refine ⟨writes.base, fun location => (writes.entry location).imp_right fun changed => ?_⟩
  rcases changed with ⟨path, member, same⟩ | ⟨free, directory, path, member, onWay⟩
  · exact .inl ⟨path, among path member, same⟩
  · exact .inr ⟨free, directory, path, among path member, onWay⟩

/-- Writing to some paths twice is writing to them. -/
theorem trans {middle : Tree} (first : tree.WritesTo paths middle)
    (second : middle.WritesTo paths after) : tree.WritesTo paths after := by
  refine ⟨second.base.trans first.base, fun location => ?_⟩
  rcases second.entry location with same | ⟨path, member, same⟩ | ⟨free, made, path, member, onWay⟩
  · rw [same]
    exact first.entry location
  · exact .inr (.inl ⟨path, member, by rw [same, place_eq_of_base first.base]⟩)
  · rw [place_eq_of_base first.base] at onWay
    rcases first.entry location with same | written | ⟨-, directory, -⟩
    · exact .inr (.inr ⟨same ▸ free, made, path, member, onWay⟩)
    · exact .inr (.inl written)
    · rw [directory] at free
      contradiction

/-- Directories on the way to a path may have been made for a file there. -/
theorem of_deepens {path : Path} (deepens : tree.Deepens (tree.place path.parent) after) :
    tree.WritesTo [path] after :=
  ⟨deepens.base, fun location => (deepens.entry location).imp_right fun ⟨free, made, onWay⟩ =>
    .inr ⟨free, made, path, List.mem_singleton_self path, onWay⟩⟩

/-- A file that is written is one that may be. -/
theorem of_write {path : Path} {content : List UInt8} (plain : ".." ∉ path.steps)
    (wrote : tree.write path content = .ok after) : tree.WritesTo [path] after := by
  obtain ⟨location, located, -, rfl⟩ := write_eq_ok_iff.mp wrote
  obtain rfl := eq_place_of_locate plain located
  refine ⟨rfl, fun other => ?_⟩
  by_cases here : other = tree.place path
  · exact .inr (.inl ⟨path, List.mem_singleton_self path, here⟩)
  · exact .inl (entry?_put_of_ne tree here _)

end WritesTo

end Tree

/-! ### Placed files -/

/-- What happened to one file. -/
inductive Placed (overwrite : Bool) (members : List (String × Json)) (path : Path)
    (file : SourceFile) : Tree → Placement → Tree → Prop
  /-- It was kept, because something is there. -/
  | kept {tree : Tree} {kind : EntryKind} (off : overwrite = false)
      (there : tree.status path = .ok kind) :
      Placed overwrite members path file tree ⟨[], [path]⟩ tree
  /-- It was written, where nothing is or what is there may be replaced. -/
  | written {tree middle after : Tree} {content : String}
      (absent : overwrite = false → ∀ kind, tree.status path ≠ .ok kind)
      (rendered : file.render members = .ok content) (grows : tree.Grows middle)
      (deepens : tree.Deepens (tree.place path.parent) middle)
      (wrote : middle.write path (Text.encodeUtf8 content.toList) = .ok after) :
      Placed overwrite members path file tree ⟨[path], []⟩ after

/-- What happened to files, in order. -/
inductive PlacedAll (overwrite : Bool) (members : List (String × Json)) :
    List (Path × SourceFile) → Tree → Placement → Tree → Prop
  | nil {tree : Tree} : PlacedAll overwrite members [] tree {} tree
  | cons {path : Path} {file : SourceFile} {files : List (Path × SourceFile)}
      {tree middle after : Tree} {first further : Placement}
      (head : Placed overwrite members path file tree first middle)
      (rest : PlacedAll overwrite members files middle further after) :
      PlacedAll overwrite members ((path, file) :: files) tree (first ++ further) after

/-! ### One file -/

section

variable {overwrite : Bool} {members : List (String × Json)} {path : Path} {file : SourceFile}
  {tree after : Tree} {placement : Placement}

/-- A tree grows when a file is placed. -/
theorem Placed.grows (placed : Placed overwrite members path file tree placement after) :
    tree.Grows after := by
  cases placed with
  | kept _ _ => exact .refl tree
  | written _ _ grows _ wrote => exact grows.trans (Tree.grows_of_write wrote)

/-- Something stands at the path of a file that was placed. -/
theorem Placed.status (placed : Placed overwrite members path file tree placement after) :
    ∃ kind, after.status path = .ok kind := by
  cases placed with
  | kept _ there => exact ⟨_, there⟩
  | written _ _ _ _ wrote => exact ⟨_, Tree.status_of_read (Tree.read_of_write wrote)⟩

/-- Placing a file writes to its path or not at all. -/
theorem Placed.writesTo (placed : Placed overwrite members path file tree placement after)
    (plain : ".." ∉ path.steps) : tree.WritesTo placement.written after := by
  cases placed with
  | kept _ _ => exact .refl _ _
  | written _ _ _ deepens wrote =>
    exact (Tree.WritesTo.of_deepens deepens).trans (.of_write plain wrote)

end

/-! ### Files in order -/

namespace PlacedAll

variable {overwrite : Bool} {members : List (String × Json)} {files : List (Path × SourceFile)}
  {tree after : Tree} {placement : Placement}

/-- Files and then further ones are placed in order. -/
theorem append {middle : Tree} {further : List (Path × SourceFile)} {second : Placement}
    (front : PlacedAll overwrite members files tree placement middle)
    (back : PlacedAll overwrite members further middle second after) :
    PlacedAll overwrite members (files ++ further) tree (placement ++ second) after := by
  induction front with
  | nil => exact back
  | @cons path file files tree middle _ first rest head _ ih =>
    have whole := PlacedAll.cons head (ih back)
    have same : first ++ (rest ++ second) = first ++ rest ++ second := by
      change Placement.append _ (Placement.append _ _) = Placement.append (Placement.append _ _) _
      simp [Placement.append]
    rwa [same] at whole

/-- A tree grows when files are placed. -/
theorem grows (placed : PlacedAll overwrite members files tree placement after) :
    tree.Grows after := by
  induction placed with
  | nil => exact .refl _
  | cons head _ ih => exact head.grows.trans ih

/-- Every path is reported once. -/
theorem perm (placed : PlacedAll overwrite members files tree placement after) :
    (placement.written ++ placement.kept).Perm (files.map Prod.fst) := by
  induction placed with
  | nil => exact .nil
  | @cons path file files tree middle after first further head rest ih =>
    cases head with
    | kept _ _ => exact List.perm_middle.trans (ih.cons path)
    | written _ _ _ _ _ => exact ih.cons path

/-- What is reported is in the order of the files, so telling what was written from what was kept
tells the reports. -/
theorem eq_filter (placed : PlacedAll overwrite members files tree placement after)
    {keeps : Path → Bool} (written : ∀ path ∈ placement.written, keeps path = false)
    (kept : ∀ path ∈ placement.kept, keeps path = true) :
    placement.written = (files.map Prod.fst).filter (!keeps ·) ∧
      placement.kept = (files.map Prod.fst).filter keeps := by
  induction placed with
  | nil => exact ⟨rfl, rfl⟩
  | @cons path file files tree middle after first further head rest ih =>
    cases head with
    | kept _ _ =>
      obtain ⟨here, others⟩ := List.forall_mem_cons.mp kept
      obtain ⟨sameWritten, sameKept⟩ := ih written others
      rw [List.map_cons, List.filter_cons_of_neg (by simp [here]), List.filter_cons_of_pos here,
        ← sameWritten, ← sameKept]
      exact ⟨rfl, rfl⟩
    | written _ _ _ _ _ =>
      obtain ⟨here, others⟩ := List.forall_mem_cons.mp written
      obtain ⟨sameWritten, sameKept⟩ := ih others kept
      rw [List.map_cons, List.filter_cons_of_pos (by simp [here]),
        List.filter_cons_of_neg (by simp [here]), ← sameWritten, ← sameKept]
      exact ⟨rfl, rfl⟩

/-- Something stands at every path in the end. -/
theorem status (placed : PlacedAll overwrite members files tree placement after) :
    ∀ spot ∈ files, ∃ kind, after.status spot.1 = .ok kind := by
  induction placed with
  | nil => simp
  | cons head rest ih =>
    refine List.forall_mem_cons.mpr ⟨?_, ih⟩
    obtain ⟨kind, there⟩ := head.status
    exact ⟨kind, rest.grows.status there⟩

/-- Files are kept only where nothing may be replaced. -/
theorem overwrite_of_kept (placed : PlacedAll overwrite members files tree placement after) :
    ∀ path ∈ placement.kept, overwrite = false := by
  induction placed with
  | nil => simp
  | @cons path file files tree middle after first further head rest ih =>
    intro path member
    rcases List.mem_append.mp member with here | later
    · cases head with
      | kept off _ => exact off
      | written _ _ _ _ _ => exact absurd here List.not_mem_nil
    · exact ih path later

/-- Where nothing may be replaced, nothing was before at the path of a file that is written. -/
theorem absent_of_written (placed : PlacedAll overwrite members files tree placement after)
    (off : overwrite = false) :
    ∀ path ∈ placement.written, ∀ kind, tree.status path ≠ .ok kind := by
  induction placed with
  | nil => simp
  | @cons path file files tree middle after first further head rest ih =>
    intro path member kind there
    rcases List.mem_append.mp member with here | later
    · cases head with
      | kept _ _ => exact List.not_mem_nil here
      | written absent _ _ _ _ =>
        obtain rfl := List.mem_singleton.mp here
        exact absent off kind there
    · exact ih path later kind (head.grows.status there)

/-- Placing files writes only to the paths that are reported as written. -/
theorem writesTo (placed : PlacedAll overwrite members files tree placement after)
    (plain : ∀ spot ∈ files, ".." ∉ spot.1.steps) : tree.WritesTo placement.written after := by
  induction placed with
  | nil => exact .refl _ _
  | cons head rest ih =>
    obtain ⟨here, others⟩ := List.forall_mem_cons.mp plain
    exact ((head.writesTo here).mono fun path => List.mem_append_left _).trans
      ((ih others).mono fun path => List.mem_append_right _)

/-- Where no two files have the same place, each that was written holds its rendering in the
end. -/
theorem read_of_written (placed : PlacedAll overwrite members files tree placement after)
    (plain : ∀ spot ∈ files, ".." ∉ spot.1.steps)
    (apart : files.Pairwise fun first second => tree.place first.1 ≠ tree.place second.1) :
    ∀ spot ∈ files, spot.1 ∈ placement.written → ∃ content,
      spot.2.render members = .ok content ∧
        after.read spot.1 = .ok (Text.encodeUtf8 content.toList) := by
  induction placed with
  | nil => simp
  | @cons path file files tree middle after first further head rest ih =>
    obtain ⟨here, others⟩ := List.forall_mem_cons.mp plain
    obtain ⟨other, apart⟩ := List.pairwise_cons.mp apart
    have base := head.grows.base
    have reported : ∀ path ∈ further.written, ∃ spot ∈ files, spot.1 = path := fun path member =>
      List.mem_map.mp (rest.perm.mem_iff.mp (List.mem_append_left _ member))
    intro spot member among
    rcases List.mem_cons.mp member with rfl | member
    · -- its path is none of the others, so it was written now and is not written again
      have now : path ∈ first.written := by
        refine (List.mem_append.mp among).resolve_right fun later => ?_
        obtain ⟨spot, member, same⟩ := reported path later
        exact other spot member (by rw [same])
      cases head with
      | kept _ _ => exact absurd now List.not_mem_nil
      | @written _ _ content _ rendered _ _ wrote =>
        refine ⟨content, rendered, ?_⟩
        obtain ⟨location, located, file⟩ := Tree.read_eq_ok_iff.mp (Tree.read_of_write wrote)
        refine Tree.read_eq_ok_iff.mpr ⟨location, rest.grows.locate located, ?_⟩
        have place := Tree.eq_place_of_locate here located
        rw [Tree.place_eq_of_base base] at place
        rcases (rest.writesTo others).entry location with same | ⟨path, later, same⟩ | ⟨free, -⟩
        · rw [same, file]
        · obtain ⟨spot, member, rfl⟩ := reported path later
          rw [Tree.place_eq_of_base base, place] at same
          exact absurd same (other spot member)
        · rw [file] at free
          contradiction
    · have later : spot.1 ∈ further.written := by
        refine (List.mem_append.mp among).resolve_left fun now => ?_
        cases head with
        | kept _ _ => exact absurd now List.not_mem_nil
        | written _ _ _ _ _ => exact other spot member (by rw [List.mem_singleton.mp now])
      refine ih others (apart.imp fun differs same => differs ?_) spot member later
      rwa [Tree.place_eq_of_base base, Tree.place_eq_of_base base] at same

end PlacedAll

/-! ### Runs -/

section

variable {overwrite : Bool} {context : Context} {directory : Path} {world after : World}

/-- A run that places a file does one of the two. -/
theorem placed_of_run {file : SourceFile} {placement : Placement}
    (plain : ".." ∉ (file.pathIn directory context.nameKebab).steps)
    (ran : (placeFile overwrite context directory file).run world = (.ok placement, after)) :
    Placed overwrite context.members (file.pathIn directory context.nameKebab) file world.tree
      placement after.tree := by
  rcases of_run_placeFile rfl ran with ⟨off, ⟨kind, there⟩, rfl, rfl⟩ |
    ⟨content, middle, asked, rendered, making, writing, rfl⟩
  · exact .kept off there
  generalize file.pathIn directory context.nameKebab = path at plain asked making writing ⊢
  have above : ".." ∉ path.parent.steps := fun member =>
    plain ((List.dropLast_sublist _).mem member)
  have grows := Script.grows_run (Script.makeDirectories path.parent) world
  rw [making] at grows
  obtain ⟨location, located, noDirectory, rfl⟩ := Script.run_writeText_eq_ok_iff.mp writing
  refine .written (fun off kind there => ?_) rendered grows
    (Script.deepens_makeDirectories above making)
    (Tree.write_eq_ok_iff.mpr ⟨location, located, noDirectory, rfl⟩)
  have found := (Script.run_isThere_of_ok there).symm.trans (asked off)
  exact absurd (Except.ok.inj (Prod.mk.inj found).1) (by decide)

/-- A run that places files places them one after the other. -/
theorem placedAll_of_run {sources : List SourceFile} {placement : Placement}
    (plain : ∀ file ∈ sources, ".." ∉ (file.pathIn directory context.nameKebab).steps)
    (ran : (placeFiles overwrite context directory sources).run world = (.ok placement, after)) :
    PlacedAll overwrite context.members
      (sources.map fun file => (file.pathIn directory context.nameKebab, file)) world.tree
      placement after.tree := by
  induction sources generalizing world placement with
  | nil =>
    obtain ⟨same, rfl⟩ := Prod.mk.inj ran
    obtain rfl := Except.ok.inj same
    exact .nil
  | cons file sources ih =>
    obtain ⟨first, middle, placing, ran⟩ := Script.exists_of_run_bind ran
    obtain ⟨further, last, placingRest, ran⟩ := Script.exists_of_run_bind ran
    obtain ⟨same, rfl⟩ := Prod.mk.inj ran
    obtain rfl := Except.ok.inj same
    obtain ⟨here, others⟩ := List.forall_mem_cons.mp plain
    exact .cons (placed_of_run here placing) (ih others placingRest)

end

/-- A run that places the files of an entity places them one after the other. -/
theorem placedAll_of_placeEntity {settings : Settings} {entity : Entity} {world after : World}
    {placement : Placement} (plain : ∀ spot ∈ settings.files entity, ".." ∉ spot.1.steps)
    (ran : (placeEntity settings entity).run world = (.ok placement, after)) :
    PlacedAll settings.overwrite (Context.ofEntity entity).members (settings.files entity)
      world.tree placement after.tree := by
  obtain ⟨moduleFiles, middle, placingModule, ran⟩ := Script.exists_of_run_bind ran
  unfold Settings.files at plain ⊢
  obtain ⟨inModule, inTests⟩ := List.forall_mem_append.mp plain
  have plainModule : ∀ file ∈ SourceFile.ofModule, ".." ∉ (file.pathIn
      (settings.moduleDirectory entity) (Context.ofEntity entity).nameKebab).steps :=
    fun file member => inModule _ (List.mem_map_of_mem member)
  have front := placedAll_of_run plainModule placingModule
  cases skip : settings.skipTests with
  | true =>
    rw [skip] at ran
    obtain ⟨same, rfl⟩ := Prod.mk.inj ran
    obtain rfl := Except.ok.inj same
    exact front.append .nil
  | false =>
    rw [skip] at ran
    rw [skip, if_neg Bool.false_ne_true] at inTests
    have plainTests : ∀ file ∈ SourceFile.ofTests, ".." ∉ (file.pathIn
        (settings.testDirectory entity) (Context.ofEntity entity).nameKebab).steps :=
      fun file member => inTests _ (List.mem_map_of_mem member)
    obtain ⟨testFiles, last, placingTests, ran⟩ := Script.exists_of_run_bind ran
    obtain ⟨same, rfl⟩ := Prod.mk.inj ran
    obtain rfl := Except.ok.inj same
    exact front.append (placedAll_of_run plainTests placingTests)

end CrudScaffold
