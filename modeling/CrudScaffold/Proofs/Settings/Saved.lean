import CrudScaffold.Proofs.Files.Spelling
import CrudScaffold.Proofs.Json.Ascii
import CrudScaffold.Proofs.Json.Bounded
import CrudScaffold.Proofs.Json.Members
import CrudScaffold.Proofs.Script.Making
import CrudScaffold.Proofs.Text.Newlines
import CrudScaffold.Settings.File
import Mathlib.Data.List.Infix

/-!
# Settings are read back

Settings that were saved are loaded as they were, whatever their paths: each path is written as its
text, which is read as the path (`Path.ofText_text`), the strings of the document are read back
character by character, and no line end in it changes when it is read. Nothing but a refusal by the
files keeps settings from being saved, and where a path takes a file there is none (`load_save`).
-/

namespace CrudScaffold.Settings

/-- The settings as members under their only names. -/
def entries (settings : Settings) : List Member :=
  settings.members.map fun member => ⟨.single member.1, member.2, False⟩

/-- No two settings share a name. -/
theorem entries_apart (settings : Settings) :
    (settings.entries.map Member.name).Pairwise MemberName.Apart := by
  change List.Pairwise MemberName.Apart [.single "project_root", .single "schema_path",
    .single "modules_dir", .single "tests_dir", .single "skip_tests", .single "check_references",
    .single "overwrite", .single "verbose"]
  decide

/-- The text of a path passes its check as the path. -/
theorem checkPath_pathJson (path : Path) : checkPath (pathJson path) = .passed path := by
  rw [pathJson, checkPath, Path.ofText_text]

/-- The members of settings are laid over any others as the settings. -/
theorem checkMembers_members (settings usual : Settings) :
    usual.checkMembers settings.members = .passed settings := by
  have respelled : Respelled settings.entries settings.members := Respelled.all settings.entries
  have apart := settings.entries_apart
  have path (position : Nat) {name : String} {path : Path} (absent : Path)
      (inside : settings.entries[position]? = some ⟨.single name, pathJson path, False⟩) :
      Json.withDefault settings.members (.single name) absent checkPath = .passed path :=
    respelled.withDefault apart (List.mem_of_getElem? inside) (checkPath_pathJson path) False.elim
  have flag (position : Nat) {name : String} {value : Bool} (absent : Bool)
      (inside : settings.entries[position]? = some ⟨.single name, .bool value, False⟩) :
      Json.withDefault settings.members (.single name) absent Json.checkFlag = .passed value :=
    respelled.withDefault apart (List.mem_of_getElem? inside) rfl False.elim
  rw [checkMembers, path 0 _ rfl, path 1 _ rfl, path 2 _ rfl, path 3 _ rfl, flag 4 _ rfl,
    flag 5 _ rfl, flag 6 _ rfl, flag 7 _ rfl]
  rfl

/-- The members of settings have different names, and each is read back from its line. -/
theorem reads_members (settings : Settings) :
    (settings.members.map Prod.fst).Nodup ∧ ∀ member ∈ settings.members,
      Json.Bounded.Reads 1 member.2 (Json.writeIndented 1 member.2) := by
  have string (path : Path) :
      Json.Bounded.Reads 1 (pathJson path) (Json.writeIndented 1 (pathJson path)) :=
    Json.Bounded.reads_string .unicode 1 path.text
  have flag (value : Bool) :
      Json.Bounded.Reads 1 (.bool value) (Json.writeIndented 1 (.bool value)) := by
    cases value with
    | true => exact Json.Bounded.reads_bool 1 true
    | false => exact Json.Bounded.reads_bool 1 false
  constructor
  · change ["project_root", "schema_path", "modules_dir", "tests_dir", "skip_tests",
      "check_references", "overwrite", "verbose"].Nodup
    decide
  · simp only [members, List.forall_mem_cons]
    exact ⟨string _, string _, string _, string _, flag _, flag _, flag _, flag _,
      List.forall_mem_nil _⟩

/-- The document of settings is read as the settings. -/
theorem ofDocument_document (settings : Settings) :
    ofDocument settings.document = .ok settings := by
  obtain ⟨distinct, each⟩ := settings.reads_members
  have read : Json.Bounded.read settings.document = .ok (.object settings.members) :=
    Json.Bounded.read_indented distinct each
  rw [ofDocument, read]
  dsimp only
  rw [check, checkMembers_members]
  rfl

/-- The document of settings is the same however its line ends are read. -/
theorem unifyNewlines_document (settings : Settings) :
    String.ofList (Text.unifyNewlines settings.document.toList) = settings.document := by
  have plain : '\r' ∉ settings.document.toList := by
    rw [document, Json.indented, String.toList_ofList]
    exact Json.return_notMem_writeIndented 0 _
  rw [Text.unifyNewlines_eq_self plain, String.ofList_toList]

/-- Settings that were saved are loaded as they were. -/
theorem run_load_of_run_save {settings : Settings} {path : Path} {world after : World} {value : Unit}
    (saved : (settings.save path).run world = (.ok value, after)) :
    (load path).run after = (.ok settings, after) := by
  obtain ⟨made, middle, -, writing⟩ := Script.exists_of_run_bind saved
  have holds := Script.holds_of_run_writeText writing
  rw [unifyNewlines_document] at holds
  rw [load, Script.run_bind_of_ok (Script.run_readText_of_holds holds), ofDocument_document]
  rfl

/-- Saving settings fails only where a file or directory on the way to them is refused. -/
theorem within_save (settings : Settings) (path : Path) :
    (settings.save path).Within (Action.WritesAmong [path]) fun failure =>
      ∃ reason above, failure = .file ⟨reason, above⟩ ∧ above.OnWayTo path :=
  (Script.within_makeDirectoriesWithin
      (fun reason above way => ⟨reason, above, rfl, way.of_parent⟩) _).writesAmong.bind
    fun _ => Script.within_writeText List.mem_cons_self
      (fun reason => ⟨reason, path, rfl, path.onWayTo_refl⟩) _

/-- Settings that are saved and loaded again are the same, and lead to the same schema, modules and
tests, unless a path on the way to them is refused when they are saved. At a path that takes a file
they are saved. -/
theorem load_save (settings : Settings) (path : Path) (world : World) :
    ((∃ loaded after, (do settings.save path; load path : Script Settings).run world =
        (.ok loaded, after) ∧ loaded = settings ∧ loaded.schemaFile = settings.schemaFile ∧
        loaded.modulesPath = settings.modulesPath ∧ loaded.testsPath = settings.testsPath) ∨
      ∃ reason above after, (settings.save path).run world =
        (.error (.file ⟨reason, above⟩), after) ∧ above.OnWayTo path) ∧
    (world.tree.Sound → world.tree.Takes path →
      ∃ after, (settings.save path).run world = (.ok (), after)) := by
  refine ⟨?_, fun sound takes => Script.exists_run_writeTextWithin sound takes settings.document⟩
  rcases saved : (settings.save path).run world with ⟨result, after⟩
  cases result with
  | ok value =>
    refine .inl ⟨settings, after, ?_, rfl, rfl, rfl, rfl⟩
    rw [Script.run_bind_of_ok saved, run_load_of_run_save saved]
  | error failure =>
    obtain ⟨reason, above, rfl, way⟩ := (within_save settings path).failure saved
    exact .inr ⟨reason, above, after, rfl, way⟩

/-- Paths with two slashes in front, double dots, quotes, line ends and letters of several scripts,
saved behind a double dot in a directory that is not there yet. -/
theorem load_save_texts :
    let settings : Settings :=
      { projectRoot := .ofText "//srv/./größe😀/"
        schemaPath := .ofText "a/../\"schema\".prisma"
        modulesDir := .ofText ""
        testsDir := .ofText "/\r\n\\\x01"
        skipTests := true }
    let world : World := { tree := .empty ["home"] }
    let path := Path.ofText "old/../new/settings.json"
    world.tree.Sound ∧ world.tree.Takes path ∧
      ∃ after, (do settings.save path; load path : Script Settings).run world =
        (.ok settings, after) := by
  intro settings world path
  have sound : world.tree.Sound := Tree.sound_of_entries (by decide) (by decide)
  have way : ∀ front ∈ path.parent.steps.inits,
      world.tree.kind? (Path.walk (world.tree.start path) front) ≠ some .file ∧
        Path.walk (world.tree.start path) front ≠ world.tree.resolved path := by decide +kernel
  have takes : world.tree.Takes path :=
    { fits := ⟨by decide +kernel, by decide +kernel⟩
      names := by decide +kernel
      way := fun front within => (way front ((List.mem_inits _ _).mpr within)).1
      apart := fun front within => (way front ((List.mem_inits _ _).mpr within)).2
      target := by decide +kernel }
  obtain ⟨either, completes⟩ := load_save settings path world
  obtain ⟨done, saved⟩ := completes sound takes
  rcases either with ⟨loaded, after, ran, same, -⟩ | ⟨reason, above, after, failed, -⟩
  · rw [same] at ran
    exact ⟨sound, takes, after, ran⟩
  · exact absurd (saved.symm.trans failed) (by simp)

end CrudScaffold.Settings
