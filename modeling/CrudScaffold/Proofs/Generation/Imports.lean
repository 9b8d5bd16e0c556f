import CrudScaffold.Definition.FieldList
import CrudScaffold.Proofs.Generation.Batch
import CrudScaffold.Proofs.Generation.Outputs
import CrudScaffold.Proofs.Source.Imports

/-!
# Imports between the files of an entity

A module that a file imports from its directory is found where a path leads whose double dots are
taken back (`Path.collapse`). The imports within the module of an entity lead to files that a
generation reports, whatever the directories are. The test of the service imports the service from a
place of its own: so all imports between the files of an entity lead to such files exactly where the
modules are at that place, seen from the directory of the tests, and the service is not called like
that of the database (`importsResolve_iff_of_generate`).
-/

namespace CrudScaffold

/-! ### Reports -/

section

variable {world after : World} {placement : Placement}

/-- Every file that is placed is reported once. -/
theorem perm_of_placeFiles {overwrite : Bool} {context : Context} {directory : Path}
    {sources : List SourceFile}
    (ran : (placeFiles overwrite context directory sources).run world = (.ok placement, after)) :
    (placement.written ++ placement.kept).Perm
      (sources.map (SourceFile.pathIn directory context.nameKebab)) := by
  induction sources generalizing world after placement with
  | nil =>
    obtain ⟨same, -⟩ := Prod.mk.inj ran
    obtain rfl := Except.ok.inj same
    exact .nil
  | cons file sources ih =>
    obtain ⟨first, middle, placing, ran⟩ := Script.exists_of_run_bind ran
    obtain ⟨further, last, placingRest, ran⟩ := Script.exists_of_run_bind ran
    obtain ⟨same, -⟩ := Prod.mk.inj ran
    obtain rfl := Except.ok.inj same
    have others := ih placingRest
    rcases of_run_placeFile rfl placing with ⟨-, -, rfl, -⟩ | ⟨_, _, -, -, -, -, rfl⟩
    · exact List.perm_middle.trans (others.cons _)
    · exact others.cons _

/-- Files and then further ones are reported once if they are apart. -/
theorem Placement.perm_append {first second : Placement} {front back : List Path}
    (head : (first.written ++ first.kept).Perm front)
    (tail : (second.written ++ second.kept).Perm back) :
    ((first ++ second).written ++ (first ++ second).kept).Perm (front ++ back) := by
  change (first.written ++ second.written ++ (first.kept ++ second.kept)).Perm _
  have swap := List.perm_append_comm_assoc second.written first.kept second.kept
  have sorted := (swap.append_left first.written).trans
    (List.append_assoc first.written first.kept _ ▸ head.append tail)
  rwa [← List.append_assoc] at sorted

/-- A run that places the files of an entity reports every output once. -/
theorem perm_outputs_of_placeEntity {settings : Settings} {entity : Entity}
    (ran : (placeEntity settings entity).run world = (.ok placement, after)) :
    (placement.written ++ placement.kept).Perm (settings.outputs entity) := by
  obtain ⟨moduleFiles, middle, placingModule, ran⟩ := Script.exists_of_run_bind ran
  have front := perm_of_placeFiles placingModule
  unfold Settings.outputs
  dsimp only
  cases skip : settings.skipTests with
  | true =>
    rw [skip] at ran
    obtain ⟨same, -⟩ := Prod.mk.inj ran
    obtain rfl := Except.ok.inj same
    rw [if_pos rfl]
    exact @Placement.perm_append _ {} _ [] front .nil
  | false =>
    rw [skip] at ran
    obtain ⟨testFiles, last, placingTests, ran⟩ := Script.exists_of_run_bind ran
    obtain ⟨same, -⟩ := Prod.mk.inj ran
    obtain rfl := Except.ok.inj same
    rw [if_neg Bool.false_ne_true]
    have back := perm_of_placeFiles placingTests
    exact Placement.perm_append front back

/-- A generation that ends reports every output once. -/
theorem perm_outputs_of_generate {settings : Settings} {entity : Entity} {generated : Generated}
    (ran : (generate settings entity).run world = (.ok generated, after)) :
    (generated.files.written ++ generated.files.kept).Perm (settings.outputs entity) := by
  by_cases valid : entity.violations = []
  · rw [generate_of_no_violations valid] at ran
    obtain ⟨added, middle, said, files, placed, -, -, placing, -, rfl, -⟩ :=
      exists_of_generateJudged ran
    exact perm_outputs_of_placeEntity placing
  · rw [generate_of_violations valid] at ran
    exact absurd (Prod.mk.inj ran).1 (by simp)

end

/-! ### Steps that lead back -/

namespace Path

/-- Steps and then a further one. A double dot takes back the step before it, if there is one and it
leads on. -/
def advance (taken : List String) (step : String) : List String :=
  if step = ".." ∧ taken ≠ [] ∧ taken.getLast? ≠ some ".." then taken.dropLast else taken ++ [step]

/-- Steps from the working directory without those that are taken back. -/
def collapse (steps : List String) : List String := steps.foldl advance []

/-- Whether two paths lead to the same place, whatever directories are there. -/
def Same (first second : Path) : Prop :=
  first.root = second.root ∧ collapse first.steps = collapse second.steps

/-- Steps that lead on are not taken back by what stands before them. -/
theorem collapse_append (front : List String) {back : List String} (plain : ".." ∉ back) :
    collapse (front ++ back) = collapse front ++ back := by
  rw [collapse, List.foldl_append, ← collapse]
  generalize collapse front = taken
  induction back generalizing taken with
  | nil => rw [List.foldl_nil, List.append_nil]
  | cons step back ih =>
    have on : step ≠ ".." := fun same => plain (same ▸ List.mem_cons_self)
    have first : advance taken step = taken ++ [step] := if_neg fun leads => on leads.1
    rw [List.foldl_cons, first, ih fun later => plain (List.mem_cons_of_mem _ later),
      List.append_assoc, List.singleton_append]

/-- Nor are those behind two double dots. -/
theorem collapse_double (front : List String) {back : List String} (plain : ".." ∉ back) :
    collapse (front ++ ".." :: ".." :: back) = collapse (front ++ ["..", ".."]) ++ back := by
  rw [← collapse_append _ plain, List.append_assoc]
  rfl

/-- The steps to the last one of a path. -/
theorem steps_parent (path : Path) : path.parent.steps = path.steps.dropLast := rfl

end Path

/-! ### Imports of the files of an entity -/

/-- What other files import of an entity: its controller, its service, and what is sent to make and
to change a record. -/
def artefacts (pascal : String) : List String :=
  [pascal ++ "Controller", pascal ++ "Service", "Create" ++ pascal ++ "Dto",
    "Update" ++ pascal ++ "Dto"]

/-- The letters of a text end one that it stands at the end of. -/
theorem toList_suffix (front ending : String) : ending.toList <:+ (front ++ ending).toList :=
  String.toList_append ▸ List.suffix_append _ _

/-- The names of what other files import have three endings. -/
theorem suffix_of_mem_artefacts {pascal name : String} (member : name ∈ artefacts pascal) :
    ∃ ending ∈ ["Controller", "Service", "Dto"], ending.toList <:+ name.toList := by
  simp only [artefacts, List.mem_cons, List.not_mem_nil, or_false] at member
  rcases member with rfl | rfl | rfl | rfl
  · exact ⟨"Controller", by simp, toList_suffix _ _⟩
  · exact ⟨"Service", by simp, toList_suffix _ _⟩
  · exact ⟨"Dto", by simp, toList_suffix _ _⟩
  · exact ⟨"Dto", by simp, toList_suffix _ _⟩

/-- Two classes of the application are none of them. -/
theorem notMem_artefacts (pascal : String) :
    "JwtAuthGuard" ∉ artefacts pascal ∧ "AppModule" ∉ artefacts pascal := by
  have others : ∀ ending ∈ ["Controller", "Service", "Dto"],
      ¬ending.toList <:+ "JwtAuthGuard".toList ∧ ¬ending.toList <:+ "AppModule".toList := by
    decide
  constructor
  · intro member
    obtain ⟨ending, among, ends⟩ := suffix_of_mem_artefacts member
    exact (others ending among).1 ends
  · intro member
    obtain ⟨ending, among, ends⟩ := suffix_of_mem_artefacts member
    exact (others ending among).2 ends

/-- The service of the database is one of them for one name of classes. -/
theorem prismaService_mem_artefacts {pascal : String} :
    "PrismaService" ∈ artefacts pascal ↔ pascal = "Prisma" := by
  constructor
  · intro member
    have other (front ending : String) (same : "PrismaService" = front ++ ending)
        (differs : ¬ending.toList <:+ "PrismaService".toList) : False :=
      differs (same ▸ toList_suffix front ending)
    simp only [artefacts, List.mem_cons, List.not_mem_nil, or_false] at member
    rcases member with same | same | same | same
    · exact (other _ _ same (by decide)).elim
    · rw [show "PrismaService" = "Prisma" ++ "Service" from rfl] at same
      exact (String.append_left_inj "Service").mp same.symm
    · exact (other _ _ same (by decide)).elim
    · exact (other _ _ same (by decide)).elim
  · rintro rfl
    decide

/-- Whether the imports between the files of an entity lead to reported paths. -/
def Settings.ImportsResolve (settings : Settings) (entity : Entity) (reported : List Path) :
    Prop :=
  ∀ spot ∈ settings.files entity, ∃ content,
    spot.2.render (Context.ofEntity entity).members = .ok content ∧
      ∀ wanted ∈ importsOf content.toList, wanted.isRelative = true →
        (∃ name ∈ wanted.names, name ∈ artefacts (Name.pascalCase entity.name)) →
          ∃ path ∈ reported, path.Same (spot.1.parent.child (wanted.source ++ ".ts"))

/-- The imports within a module lead to its files. -/
theorem SourceFile.exists_target {pascal kebab : String} (slash : '/' ∉ kebab.toList)
    (other : pascal ≠ "Prisma") {file : SourceFile} (inModule : file ∈ ofModule)
    {wanted : Import} (member : wanted ∈ file.relativeImports pascal kebab)
    {name : String} (inside : name ∈ wanted.names) (artefact : name ∈ artefacts pascal) :
    ∃ target ∈ ofModule, (Path.ofText (wanted.source ++ ".ts")).root = .relative ∧
      (file.steps kebab).dropLast ++ (Path.ofText (wanted.source ++ ".ts")).steps =
        target.steps kebab := by
  have here (text : String) : (Path.ofText ("." ++ "/" ++ text)).root = .relative ∧
      (Path.ofText ("." ++ "/" ++ text)).steps = (Path.ofText text).steps :=
    ⟨Path.root_ofText (by simp [String.toList_append]), Path.steps_ofText_slash (by decide) text⟩
  have leads (target : SourceFile) (inModule : target ∈ ofModule) {source text : String}
      (spelled : source ++ ".ts" = "." ++ "/" ++ text) (place : target.place kebab = .ofText text) :
      ∃ target ∈ ofModule, (Path.ofText (source ++ ".ts")).root = .relative ∧
        [] ++ (Path.ofText (source ++ ".ts")).steps = target.steps kebab := by
    rw [spelled, List.nil_append]
    refine ⟨target, inModule, (here text).1, ?_⟩
    rw [(here text).2, ← place, (target.place_eq slash).2]
  have controller := leads .controller (by decide) (show "./" ++ kebab ++ ".controller" ++ ".ts" =
    "." ++ "/" ++ (kebab ++ ".controller.ts") by simp [String.append_assoc]) rfl
  have service := leads .service (by decide) (show "./" ++ kebab ++ ".service" ++ ".ts" =
    "." ++ "/" ++ (kebab ++ ".service.ts") by simp [String.append_assoc]) rfl
  have create := leads .create (by decide) (show "./dto/create-" ++ kebab ++ ".dto" ++ ".ts" =
    "." ++ "/" ++ ("dto/create-" ++ kebab ++ ".dto.ts") by
      simp [← String.toList_inj, String.toList_append]) rfl
  have update := leads .update (by decide) (show "./dto/update-" ++ kebab ++ ".dto" ++ ".ts" =
    "." ++ "/" ++ ("dto/update-" ++ kebab ++ ".dto.ts") by
      simp [← String.toList_inj, String.toList_append]) rfl
  cases file <;> simp only [relativeImports, List.mem_cons, List.not_mem_nil, or_false] at member
  case module =>
    rcases member with rfl | rfl
    · exact controller
    · exact service
  case controller =>
    rcases member with rfl | rfl | rfl | rfl
    · exact service
    · exact create
    · exact update
    · rw [List.mem_singleton.mp inside] at artefact
      exact absurd artefact (notMem_artefacts pascal).1
  case service =>
    rcases member with rfl | rfl | rfl
    · rw [List.mem_singleton.mp inside] at artefact
      exact absurd (prismaService_mem_artefacts.mp artefact) other
    · exact create
    · exact update
  case update =>
    subst member
    have text : "./create-" ++ kebab ++ ".dto" ++ ".ts" =
        "." ++ "/" ++ ("create-" ++ kebab ++ ".dto.ts") := by
      simp [← String.toList_inj, String.toList_append]
    have steps := (IsFileName.around slash "create-" ".dto.ts" (by decide)).ofText.2
    refine ⟨.create, by decide, ?_⟩
    change (Path.ofText ("./create-" ++ kebab ++ ".dto" ++ ".ts")).root = .relative ∧
      ["dto"] ++ (Path.ofText ("./create-" ++ kebab ++ ".dto" ++ ".ts")).steps = _
    rw [text, (here _).2, steps]
    exact ⟨(here _).1, rfl⟩
  case serviceTest => exact absurd inModule (by decide)
  case requestTest => exact absurd inModule (by decide)

/-- The steps that the test of a service takes to the service. -/
theorem Path.ofText_serviceTest {kebab : String} (slash : '/' ∉ kebab.toList) :
    let text := "../../src/modules/" ++ kebab ++ "/" ++ kebab ++ ".service" ++ ".ts"
    (Path.ofText text).root = .relative ∧ (Path.ofText text).steps =
      ["..", "..", "src", "modules"] ++
        ([kebab].filter isPathStep ++ SourceFile.service.steps kebab) := by
  intro text
  have spelled : text = ".." ++ "/" ++ (".." ++ "/" ++ ("src" ++ "/" ++ ("modules" ++ "/" ++
      (kebab ++ "/" ++ (kebab ++ ".service.ts"))))) := by
    simp [text, ← String.toList_inj, String.toList_append]
  refine ⟨root_ofText (by simp [text, String.toList_append]), ?_⟩
  rw [spelled, steps_ofText_slash (by decide), steps_ofText_slash (by decide),
    steps_ofText_slash (by decide), steps_ofText_slash (by decide), steps_ofText_slash slash,
    (SourceFile.service.place_eq slash).2.symm]
  rfl

/-- And those that it takes to the service of the database. -/
theorem Path.ofText_prisma :
    let text := "../../src/core/prisma/prisma.service" ++ ".ts"
    (Path.ofText text).root = .relative ∧
      (Path.ofText text).steps = ["..", "..", "src", "core", "prisma"] ++
        SourceFile.service.steps "prisma" := by
  decide

section

variable {settings : Settings} {entity : Entity}

/-- Settings whose paths start at the working directory. -/
structure Settings.Relative (settings : Settings) : Prop where
  /-- The path of the project. -/
  root : settings.projectRoot.root = .relative
  /-- The path of the modules. -/
  modules : settings.modulesDir.root = .relative
  /-- The path of the tests. -/
  tests : settings.testsDir.root = .relative

/-- The directories of an entity start there too. -/
theorem Settings.Relative.directories (relative : settings.Relative)
    (slash : '/' ∉ (Name.kebabCase entity.name).toList) :
    (settings.moduleDirectory entity).root = .relative ∧
      (settings.testDirectory entity).root = .relative := by
  have name := (Path.ofText_plain slash).1
  constructor
  · exact ((Path.root_append name).trans (Path.root_append relative.modules)).trans relative.root
  · exact ((Path.root_append name).trans (Path.root_append relative.tests)).trans relative.root

/-- The directory of the module of an entity is at most a step below that of all modules. -/
theorem Settings.steps_moduleDirectory (slash : '/' ∉ (Name.kebabCase entity.name).toList) :
    (settings.moduleDirectory entity).steps =
      settings.modulesPath.steps ++ [Name.kebabCase entity.name].filter isPathStep := by
  obtain ⟨name, steps⟩ := Path.ofText_plain slash
  exact (Path.steps_append name).trans (congrArg _ steps)

/-- Where an import of a file in a directory leads. -/
theorem SourceFile.parent_child {directory : Path} {kebab text : String}
    (slash : '/' ∉ kebab.toList) (relative : (Path.ofText text).root = .relative)
    (file : SourceFile) :
    ((file.pathIn directory kebab).parent.child text).root = directory.root ∧
      ((file.pathIn directory kebab).parent.child text).steps =
        directory.steps ++ ((file.steps kebab).dropLast ++ (Path.ofText text).steps) := by
  obtain ⟨root, steps⟩ := SourceFile.pathIn_eq directory slash file
  refine ⟨(Path.root_append relative).trans root, (Path.steps_append relative).trans ?_⟩
  rw [Path.steps_parent, steps, List.dropLast_append_of_ne_nil (file.steps_ne_nil kebab),
    List.append_assoc]

/-- A path that leads to an output, and ends like the service of an entity, leads to the service of
this one. -/
theorem Settings.of_same_output {path further : Path} (output : path ∈ settings.outputs entity)
    (same : path.Same further) {front : List String} {other : String}
    (slash : '/' ∉ (Name.kebabCase entity.name).toList) (plain : '/' ∉ other.toList)
    (steps : further.steps = front ++ SourceFile.service.steps other) :
    Name.kebabCase entity.name = other ∧
      Path.collapse front = Path.collapse (settings.moduleDirectory entity).steps := by
  have leads {directory : Path} {file : SourceFile}
      (same : (file.pathIn directory (Name.kebabCase entity.name)).Same further) :
      file = .service ∧ Name.kebabCase entity.name = other ∧
        Path.collapse front = Path.collapse directory.steps := by
    have whole := same.2
    rw [(file.pathIn_eq directory slash).2, steps,
      Path.collapse_append _ (file.dots_notMem_steps slash),
      Path.collapse_append _ (SourceFile.service.dots_notMem_steps plain)] at whole
    have last := congrArg List.getLast? whole
    rw [List.getLast?_append_of_ne_nil _ (file.steps_ne_nil _),
      List.getLast?_append_of_ne_nil _ (SourceFile.service.steps_ne_nil _)] at last
    obtain ⟨rfl, rfl⟩ := SourceFile.eq_of_getLast last
    exact ⟨rfl, rfl, (List.append_cancel_right whole).symm⟩
  obtain ⟨spot, member, rfl⟩ := Settings.mem_outputs_iff.mp output
  unfold Settings.files at member
  rcases List.mem_append.mp member with inModule | inTests
  · obtain ⟨file, -, rfl⟩ := List.mem_map.mp inModule
    exact (leads same).2
  · split at inTests
    · exact absurd inTests List.not_mem_nil
    · obtain ⟨file, among, rfl⟩ := List.mem_map.mp inTests
      obtain ⟨rfl, -⟩ := leads same
      exact absurd among (by decide)

/-- In which order paths are reported, and how often, does not matter. -/
theorem Settings.importsResolve_congr {reported further : List Path}
    (same : ∀ path, path ∈ reported ↔ path ∈ further) :
    settings.ImportsResolve entity reported ↔ settings.ImportsResolve entity further := by
  simp only [Settings.ImportsResolve, same]

/-- The imports between the files of an entity are those of the tables of its files. -/
theorem Settings.importsResolve_iff {reported : List Path}
    (word : Text.isWord entity.name.toList = true) :
    settings.ImportsResolve entity reported ↔ ∀ spot ∈ settings.files entity,
      ∀ wanted ∈ spot.2.relativeImports (Name.pascalCase entity.name) (Name.kebabCase entity.name),
        (∃ name ∈ wanted.names, name ∈ artefacts (Name.pascalCase entity.name)) →
          ∃ path ∈ reported, path.Same (spot.1.parent.child (wanted.source ++ ".ts")) := by
  have plain := Context.plain_ofEntity word
  have table {file : SourceFile} {content : String}
      (rendered : file.render (Context.ofEntity entity).members = .ok content) :
      (importsOf content.toList).filter Import.isRelative =
        file.relativeImports (Name.pascalCase entity.name) (Name.kebabCase entity.name) := by
    rw [SourceFile.importsOf_of_render plain rendered, SourceFile.filter_imports]
    rfl
  constructor
  · intro resolves spot member wanted among
    obtain ⟨content, rendered, each⟩ := resolves spot member
    rw [← table rendered] at among
    exact each wanted (List.mem_filter.mp among).1 (List.mem_filter.mp among).2
  · intro each spot member
    obtain ⟨content, rendered⟩ := spot.2.exists_content (Context.ofEntity entity)
    refine ⟨content, rendered, fun wanted among relative => each spot member wanted ?_⟩
    rw [← table rendered]
    exact List.mem_filter.mpr ⟨among, relative⟩

/-- The tests of an entity are among its files, if they are not left out. -/
theorem Settings.mem_files_of_mem_ofTests (tests : settings.skipTests = false) {file : SourceFile}
    (among : file ∈ SourceFile.ofTests) :
    (file.pathIn (settings.testDirectory entity) (Name.kebabCase entity.name), file) ∈
      settings.files entity := by
  refine List.mem_append_right _ ?_
  rw [tests, if_neg Bool.false_ne_true]
  exact List.mem_map.mpr ⟨file, among, rfl⟩

/-- Where imports lead to outputs, one of a service by the test of the service leads to it. -/
theorem Settings.of_serviceTest (tests : settings.skipTests = false)
    (word : Text.isWord entity.name.toList = true)
    (resolves : settings.ImportsResolve entity (settings.outputs entity)) {name source : String}
    (listed : ⟨[name], source⟩ ∈ SourceFile.serviceTest.relativeImports
      (Name.pascalCase entity.name) (Name.kebabCase entity.name))
    (artefact : name ∈ artefacts (Name.pascalCase entity.name)) {steps : List String}
    {other : String} (plain : '/' ∉ other.toList)
    (text : (Path.ofText (source ++ ".ts")).root = .relative ∧
      (Path.ofText (source ++ ".ts")).steps = steps ++ SourceFile.service.steps other) :
    Name.kebabCase entity.name = other ∧
      Path.collapse ((settings.testDirectory entity).steps ++ steps) =
        Path.collapse (settings.moduleDirectory entity).steps := by
  have slash := (notMem_kebabCase_of_isWord word).1
  have member : SourceFile.serviceTest ∈ SourceFile.ofTests := List.mem_cons_self
  obtain ⟨path, output, same⟩ := (Settings.importsResolve_iff word).mp resolves _
    (Settings.mem_files_of_mem_ofTests tests member) _ listed
    ⟨name, List.mem_singleton_self name, artefact⟩
  refine Settings.of_same_output output same slash plain ?_
  rw [(SourceFile.parent_child slash text.1 _).2, text.2, List.append_assoc]
  rfl

/-- Where the imports of the files of an entity lead to its outputs, the modules are at the place
that the test of the service names. -/
theorem Settings.collapse_of_importsResolve (tests : settings.skipTests = false)
    (word : Text.isWord entity.name.toList = true)
    (resolves : settings.ImportsResolve entity (settings.outputs entity)) :
    Path.collapse ((settings.testDirectory entity).steps ++ ["..", "..", "src", "modules"]) =
      Path.collapse settings.modulesPath.steps := by
  obtain ⟨slash, dot⟩ := notMem_kebabCase_of_isWord word
  obtain ⟨root, steps⟩ := Path.ofText_serviceTest slash
  rw [← List.append_assoc] at steps
  obtain ⟨-, same⟩ := Settings.of_serviceTest tests word resolves List.mem_cons_self
    (List.mem_cons_of_mem _ List.mem_cons_self) slash ⟨root, steps⟩
  rw [Settings.steps_moduleDirectory slash, ← List.append_assoc,
    Path.collapse_append _ (dots_notMem_filter dot),
    Path.collapse_append _ (dots_notMem_filter dot)] at same
  exact List.append_cancel_right same

/-- And the service is not called like that of the database, which the test imports too. -/
theorem Settings.ne_prisma_of_importsResolve (tests : settings.skipTests = false)
    (word : Text.isWord entity.name.toList = true)
    (resolves : settings.ImportsResolve entity (settings.outputs entity)) :
    Name.pascalCase entity.name ≠ "Prisma" := by
  intro prisma
  have slash := (notMem_kebabCase_of_isWord word).1
  have place := Settings.collapse_of_importsResolve tests word resolves
  obtain ⟨kebab, same⟩ := Settings.of_serviceTest tests word resolves
    (List.mem_cons_of_mem _ List.mem_cons_self) (prismaService_mem_artefacts.mpr prisma)
    (by decide) Path.ofText_prisma
  have folder : ["prisma"].filter isPathStep = ["prisma"] := by decide
  have modules : Path.collapse (settings.moduleDirectory entity).steps =
      Path.collapse settings.modulesPath.steps ++ ["prisma"] := by
    rw [Settings.steps_moduleDirectory slash, kebab, folder,
      Path.collapse_append _ (by decide)]
  generalize (settings.testDirectory entity).steps = front at place same
  have core : Path.collapse (front ++ ["..", "..", "src", "core", "prisma"]) =
      Path.collapse (front ++ ["..", ".."]) ++ ["src", "core", "prisma"] :=
    Path.collapse_double front (by decide)
  have placed : Path.collapse (front ++ ["..", "..", "src", "modules"]) =
      Path.collapse (front ++ ["..", ".."]) ++ ["src", "modules"] :=
    Path.collapse_double front (by decide)
  rw [core, modules, ← place, placed, List.append_assoc, List.append_cancel_left_eq] at same
  exact absurd same (by decide)

/-- Where the modules are at the place that the test of the service names, its import of the service
leads there. -/
theorem Settings.same_of_collapse (relative : settings.Relative)
    (word : Text.isWord entity.name.toList = true)
    (place : Path.collapse
        ((settings.testDirectory entity).steps ++ ["..", "..", "src", "modules"]) =
      Path.collapse settings.modulesPath.steps) :
    let kebab := Name.kebabCase entity.name
    (SourceFile.service.pathIn (settings.moduleDirectory entity) kebab).Same
      ((SourceFile.serviceTest.pathIn (settings.testDirectory entity) kebab).parent.child
        ("../../src/modules/" ++ kebab ++ "/" ++ kebab ++ ".service" ++ ".ts")) := by
  intro kebab
  obtain ⟨slash, dot⟩ := notMem_kebabCase_of_isWord word
  obtain ⟨modules, tests⟩ := relative.directories slash
  obtain ⟨root, steps⟩ := Path.ofText_serviceTest slash
  obtain ⟨start, onwards⟩ := SourceFile.parent_child slash root .serviceTest
  obtain ⟨serviceRoot, service⟩ :=
    SourceFile.service.pathIn_eq (settings.moduleDirectory entity) slash
  refine ⟨serviceRoot.trans (modules.trans (tests.symm.trans start.symm)), ?_⟩
  have plain : ".." ∉ [kebab].filter isPathStep ++ SourceFile.service.steps kebab := fun member =>
    (List.mem_append.mp member).elim (dots_notMem_filter dot)
      (SourceFile.service.dots_notMem_steps slash)
  rw [service, Settings.steps_moduleDirectory slash, List.append_assoc,
    Path.collapse_append _ plain, ← place, ← Path.collapse_append _ plain, onwards, steps,
    List.append_assoc]
  rfl

/-- The imports of the tests of an entity lead to its service then, if it is not called like that of
the database. -/
theorem Settings.exists_of_ofTests (relative : settings.Relative)
    (word : Text.isWord entity.name.toList = true)
    (place : Path.collapse
        ((settings.testDirectory entity).steps ++ ["..", "..", "src", "modules"]) =
      Path.collapse settings.modulesPath.steps)
    (other : Name.pascalCase entity.name ≠ "Prisma") {file : SourceFile}
    (among : file ∈ SourceFile.ofTests) {wanted : Import}
    (listed : wanted ∈ file.relativeImports (Name.pascalCase entity.name)
      (Name.kebabCase entity.name))
    {name : String} (inside : name ∈ wanted.names)
    (artefact : name ∈ artefacts (Name.pascalCase entity.name)) :
    ∃ target ∈ SourceFile.ofModule,
      (target.pathIn (settings.moduleDirectory entity) (Name.kebabCase entity.name)).Same
        ((file.pathIn (settings.testDirectory entity) (Name.kebabCase entity.name)).parent.child
          (wanted.source ++ ".ts")) := by
  have database (same : name = "PrismaService") : False :=
    other (prismaService_mem_artefacts.mp (same ▸ artefact))
  obtain rfl | rfl : file = .serviceTest ∨ file = .requestTest := by
    simpa [SourceFile.ofTests] using among
  · rcases List.mem_cons.mp listed with rfl | listed
    · exact ⟨.service, by decide, Settings.same_of_collapse relative word place⟩
    · obtain rfl := List.mem_singleton.mp listed
      exact (database (List.mem_singleton.mp inside)).elim
  · rcases List.mem_cons.mp listed with rfl | listed
    · rw [List.mem_singleton.mp inside] at artefact
      exact absurd artefact (notMem_artefacts _).2
    · obtain rfl := List.mem_singleton.mp listed
      exact (database (List.mem_singleton.mp inside)).elim

/-- The imports of the module of an entity lead to its files. -/
theorem Settings.exists_of_ofModule (slash : '/' ∉ (Name.kebabCase entity.name).toList)
    (other : Name.pascalCase entity.name ≠ "Prisma") {file : SourceFile}
    (among : file ∈ SourceFile.ofModule) {wanted : Import}
    (listed : wanted ∈ file.relativeImports (Name.pascalCase entity.name)
      (Name.kebabCase entity.name))
    {name : String} (inside : name ∈ wanted.names)
    (artefact : name ∈ artefacts (Name.pascalCase entity.name)) :
    ∃ target ∈ SourceFile.ofModule,
      (target.pathIn (settings.moduleDirectory entity) (Name.kebabCase entity.name)).Same
        ((file.pathIn (settings.moduleDirectory entity) (Name.kebabCase entity.name)).parent.child
          (wanted.source ++ ".ts")) := by
  obtain ⟨target, ofModule, root, steps⟩ :=
    SourceFile.exists_target slash other among listed inside artefact
  obtain ⟨start, onwards⟩ := SourceFile.parent_child slash root file
  obtain ⟨targetRoot, targetSteps⟩ := target.pathIn_eq (settings.moduleDirectory entity) slash
  exact ⟨target, ofModule, targetRoot.trans start.symm, by rw [onwards, steps, targetSteps]⟩

/-- The imports between the files of an entity lead to paths that its generation reports exactly
where the modules are at the place that the test of the service names, and the service is not called
like that of the database: the test imports that one too, from a place of its own. -/
theorem importsResolve_iff_of_generate {world after : World} {generated : Generated}
    (relative : settings.Relative) (tests : settings.skipTests = false)
    (word : Text.isWord entity.name.toList = true)
    (ran : (generate settings entity).run world = (.ok generated, after)) :
    settings.ImportsResolve entity (generated.files.written ++ generated.files.kept) ↔
      Name.pascalCase entity.name ≠ "Prisma" ∧
        Path.collapse ((settings.testDirectory entity).steps ++ ["..", "..", "src", "modules"]) =
          Path.collapse settings.modulesPath.steps := by
  have slash := (notMem_kebabCase_of_isWord word).1
  rw [Settings.importsResolve_congr fun path => (perm_outputs_of_generate ran).mem_iff]
  refine ⟨fun resolves => ⟨Settings.ne_prisma_of_importsResolve tests word resolves,
    Settings.collapse_of_importsResolve tests word resolves⟩, fun ⟨other, place⟩ => ?_⟩
  rw [Settings.importsResolve_iff word]
  intro spot member wanted listed ⟨name, inside, artefact⟩
  have reports {target : SourceFile} (ofModule : target ∈ SourceFile.ofModule) :
      target.pathIn (settings.moduleDirectory entity) (Name.kebabCase entity.name) ∈
        settings.outputs entity :=
    List.mem_append_left _ (List.mem_map.mpr ⟨target, ofModule, rfl⟩)
  unfold Settings.files at member
  rcases List.mem_append.mp member with inModule | inTests
  · obtain ⟨file, among, rfl⟩ := List.mem_map.mp inModule
    obtain ⟨target, ofModule, same⟩ :=
      Settings.exists_of_ofModule slash other among listed inside artefact
    exact ⟨_, reports ofModule, same⟩
  · rw [tests, if_neg Bool.false_ne_true] at inTests
    obtain ⟨file, among, rfl⟩ := List.mem_map.mp inTests
    obtain ⟨target, ofModule, same⟩ :=
      Settings.exists_of_ofTests relative word place other among listed inside artefact
    exact ⟨_, reports ofModule, same⟩

/-- The directories are the usual ones. -/
theorem importsResolve_usual :
    let settings : Settings := { schemaPath := .ofText "s" }
    let entity := Entity.ofFields "A" [{ name := "id", type := .int, isId := true }]
    let world : World := { tree := ⟨["w"], [(["w"], .directory), (["w", "s"], .file [])]⟩ }
    ∃ generated after, (generate settings entity).run world = (.ok generated, after) ∧
      settings.ImportsResolve entity (generated.files.written ++ generated.files.kept) := by
  intro settings entity world
  obtain ⟨generated, ran, -⟩ := @Script.exists_of_map_toOption _ _ (generate settings entity) world
    (·.modelAdded) true (by decide +kernel)
  refine ⟨generated, _, ran, (importsResolve_iff_of_generate ⟨?_, ?_, ?_⟩ rfl ?_ ran).mpr ?_⟩ <;>
    decide +kernel

/-- The modules are in another directory than the one that the test of the service names. -/
theorem not_importsResolve_library :
    let settings : Settings := { schemaPath := .ofText "s", modulesDir := .ofText "lib/modules" }
    let entity := Entity.ofFields "A" [{ name := "id", type := .int, isId := true }]
    let world : World := { tree := ⟨["w"], [(["w"], .directory), (["w", "s"], .file [])]⟩ }
    settings.Relative ∧ settings.skipTests = false ∧ entity.violations = [] ∧
      Text.isWord entity.name.toList = true ∧
      ∃ generated after, (generate settings entity).run world = (.ok generated, after) ∧
        ¬ settings.ImportsResolve entity (generated.files.written ++ generated.files.kept) := by
  intro settings entity world
  have word : Text.isWord entity.name.toList = true := by decide +kernel
  obtain ⟨generated, ran, -⟩ := @Script.exists_of_map_toOption _ _ (generate settings entity) world
    (·.modelAdded) true (by decide +kernel)
  refine ⟨⟨rfl, by decide +kernel, rfl⟩, rfl, by decide +kernel, word, generated, _, ran,
    fun resolves => ?_⟩
  rw [Settings.importsResolve_congr fun path => (perm_outputs_of_generate ran).mem_iff] at resolves
  exact absurd (Settings.collapse_of_importsResolve rfl word resolves) (by decide +kernel)

end

end CrudScaffold
