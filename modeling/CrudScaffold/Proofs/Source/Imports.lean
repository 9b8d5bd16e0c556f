import CrudScaffold.Proofs.Name.Words
import CrudScaffold.Proofs.Source.Rendering

/-!
# The imports of a source file

Every source file starts with import statements, and an empty line ends them. A statement brings in
names, which stand between braces, from a module, which stands between quotes; a module whose name
starts with dots is found from the directory of the file. Reading the text of one of the eight files
gives its imports (`SourceFile.importsOf_of_render`): those from libraries first, and then those
from other files.
-/

namespace CrudScaffold

open Text

/-! ### Reading imports -/

/-- What an import statement says: the names that it brings in, and the module they come from. -/
structure Import where
  /-- The names. -/
  names : List String
  /-- The module. -/
  source : String
deriving DecidableEq, Repr

/-- The text between the first of one character and the next of another. -/
def between (opening closing : Char) (text : List Char) : List Char :=
  ((text.dropWhile (· ≠ opening)).drop 1).takeWhile (· ≠ closing)

/-- Read an import statement. -/
def Import.ofStatement (statement : List Char) : Import where
  names := ((((between '\x7b' '\x7d' statement).filter (· ≠ ' ')).splitOn ',').filter
    (· ≠ [])).map String.ofList
  source := String.ofList (between '\'' '\'' statement)

/-- The statements of a file above its first empty line. -/
def headStatements (text : List Char) : List (List Char) :=
  (((text.splitOn '\n').takeWhile (· ≠ [])).flatten.splitOn ';').filter (· ≠ [])

/-- The imports of a file. -/
def importsOf (text : List Char) : List Import := (headStatements text).map Import.ofStatement

/-- Whether a module is found from the directory of the file that imports it. -/
def Import.isRelative (statement : Import) : Bool :=
  "./".toList.isPrefixOf statement.source.toList || "../".toList.isPrefixOf statement.source.toList

/-- The statements are found in lines without empty ones, whatever follows an empty line. -/
theorem headStatements_lines {lines statements : List (List Char)}
    (plain : ∀ line ∈ lines, line ≠ [] ∧ '\n' ∉ line)
    (each : ∀ statement ∈ statements, statement ≠ [] ∧ ';' ∉ statement)
    (whole : lines.flatten = statements.flatMap (· ++ [';'])) (rest : List Char) :
    headStatements (lines.flatMap (· ++ ['\n']) ++ '\n' :: rest) = statements := by
  have pieces : (lines.flatMap (· ++ ['\n']) ++ '\n' :: rest).splitOn '\n' =
      lines ++ [] :: rest.splitOn '\n' := by
    rw [splitOn_flatMap fun line member => (plain line member).2]
    exact congrArg _ (splitOn_flatMap (fun text member => by simp_all) rest :
      ([[]].flatMap (· ++ ['\n']) ++ rest).splitOn '\n' = [[]] ++ rest.splitOn '\n')
  have solid : ∀ line ∈ lines, decide (line ≠ []) = true := fun line member =>
    decide_eq_true (plain line member).1
  have cut := splitOn_flatMap (fun statement member => (each statement member).2) []
  rw [List.append_nil, List.splitOn_nil] at cut
  have kept : statements.filter (· ≠ []) = statements :=
    List.filter_eq_self.mpr fun statement member => decide_eq_true (each statement member).1
  rw [headStatements, pieces, List.takeWhile_append_of_pos solid,
    List.takeWhile_cons_of_neg (by simp), List.append_nil, whole, cut, List.filter_append, kept]
  simp

/-- A text stands between two characters if what precedes the first one holds none of it. -/
theorem between_append {opening closing : Char} {front text : List Char} (first : opening ∉ front)
    (inside : closing ∉ text) (rest : List Char) :
    between opening closing (front ++ opening :: (text ++ closing :: rest)) = text := by
  have before : ∀ c ∈ front, decide (c ≠ opening) = true := fun c member =>
    decide_eq_true fun same => first (same ▸ member)
  have within : ∀ c ∈ text, decide (c ≠ closing) = true := fun c member =>
    decide_eq_true fun same => inside (same ▸ member)
  rw [between, List.dropWhile_append_of_pos before, List.dropWhile_cons_of_neg (by simp),
    List.drop_one, List.tail_cons, List.takeWhile_append_of_pos within,
    List.takeWhile_cons_of_neg (by simp), List.append_nil]

/-- The lines of a statement that says an import. -/
structure Import.OnLines (wanted : Import) (lines : List (List Char)) : Prop where
  /-- None is empty. -/
  plain : ∀ line ∈ lines, line ≠ [] ∧ '\n' ∉ line
  /-- They are the statement and its semicolon. -/
  statement : ∃ text, lines.flatten = text ++ [';'] ∧ (text ≠ [] ∧ ';' ∉ text) ∧
    Import.ofStatement text = wanted

/-- Imports are read from the lines of their statements, whatever follows an empty line. -/
theorem importsOf_lines {imports : List Import} {groups : List (List (List Char))}
    (each : List.Forall₂ Import.OnLines imports groups) (rest : List Char) :
    importsOf (groups.flatten.flatMap (· ++ ['\n']) ++ '\n' :: rest) = imports := by
  obtain ⟨plain, texts, whole, solid, read⟩ :
      (∀ line ∈ groups.flatten, line ≠ [] ∧ '\n' ∉ line) ∧
      ∃ texts : List (List Char), groups.flatten.flatten = texts.flatMap (· ++ [';']) ∧
        (∀ text ∈ texts, text ≠ [] ∧ ';' ∉ text) ∧ texts.map Import.ofStatement = imports := by
    induction each with
    | nil => exact ⟨by simp, [], rfl, by simp, rfl⟩
    | @cons wanted lines imports groups first others ih =>
      obtain ⟨plain, texts, whole, solid, read⟩ := ih
      obtain ⟨text, here, free, same⟩ := first.statement
      refine ⟨List.forall_mem_append.mpr ⟨first.plain, plain⟩, text :: texts, ?_,
        List.forall_mem_cons.mpr ⟨free, solid⟩, congrArg₂ _ same read⟩
      rw [List.flatten_cons, List.flatten_append, here, whole]
      rfl
  rw [importsOf, headStatements_lines plain solid whole, read]

/-! ### Writing imports -/

/-- The statement of an import, without its semicolon. -/
def Import.text (written : Import) : String :=
  "import \x7b " ++ ", ".intercalate written.names ++ " \x7d from '" ++ written.source ++ "'"

/-- Its line. -/
def Import.line (written : Import) : List Char := (written.text ++ ";").toList

/-- The characters that end a name or a module in an import statement, or the statement. -/
def importMarks : List Char := ['\n', ' ', '\'', ',', ';', '\x7b', '\x7d']

/-- A text without such characters. -/
def Unmarked (text : String) : Prop := ∀ c ∈ text.toList, c ∉ importMarks

instance (text : String) : Decidable (Unmarked text) :=
  List.decidableBAll (· ∉ importMarks) text.toList

/-- Two texts have no such character together if none has. -/
@[simp] theorem unmarked_append {front back : String} :
    Unmarked (front ++ back) ↔ Unmarked front ∧ Unmarked back := by
  simp only [Unmarked, String.toList_append, List.forall_mem_append]

/-- None of these characters is in such a text. -/
theorem Unmarked.notMem {text : String} (unmarked : Unmarked text) {c : Char}
    (mark : importMarks.contains c = true) : c ∉ text.toList := fun member =>
  unmarked c member (List.contains_iff_mem.mp mark)

/-- An import of names of which a statement can tell the ends. -/
structure Import.Plain (written : Import) : Prop where
  /-- There are names. -/
  some : written.names ≠ []
  /-- The names are such texts, and not empty. -/
  names : ∀ name ∈ written.names, name.toList ≠ [] ∧ Unmarked name
  /-- The module is such a text. -/
  source : Unmarked written.source

instance (written : Import) : Decidable written.Plain :=
  decidable_of_iff (written.names ≠ [] ∧
    (∀ name ∈ written.names, name.toList ≠ [] ∧ Unmarked name) ∧ Unmarked written.source)
    ⟨fun ⟨bringing, names, source⟩ => ⟨bringing, names, source⟩,
      fun plain => ⟨plain.some, plain.names, plain.source⟩⟩

namespace Import.Plain

/-- An import of one name. -/
theorem single {name source : String} (nonempty : name.toList ≠ []) (named : Unmarked name)
    (sourced : Unmarked source) : Import.Plain ⟨[name], source⟩ :=
  ⟨List.cons_ne_nil _ _, List.forall_mem_singleton.mpr ⟨nonempty, named⟩, sourced⟩

variable {written : Import}

/-- What ends a name or a statement is not among the names, commas and blanks apart. -/
theorem notMem_names (plain : written.Plain) {c : Char} (mark : importMarks.contains c = true)
    (other : c ∉ [',', ' ']) : c ∉ (", ".intercalate written.names).toList := by
  rw [String.toList_intercalate]
  intro member
  rcases mem_intercalate member with between | ⟨text, among, inside⟩
  · exact other between
  · obtain ⟨name, named, rfl⟩ := List.mem_map.mp among
    exact (plain.names name named).2.notMem mark inside

/-- The names without blanks are separated by commas alone. -/
theorem filter_names (plain : written.Plain) :
    (", ".intercalate written.names).toList.filter (· ≠ ' ') =
      [','].intercalate (written.names.map String.toList) := by
  have solid : ∀ name ∈ written.names, name.toList.filter (· ≠ ' ') = name.toList := by
    refine fun name member => List.filter_eq_self.mpr fun c inside => decide_eq_true ?_
    rintro rfl
    exact (plain.names name member).2.notMem rfl inside
  rw [String.toList_intercalate, filter_intercalate, List.map_map]
  exact congrArg _ (List.map_congr_left solid)

/-- The statement of such an import is read back. -/
theorem ofStatement_text (plain : written.Plain) :
    Import.ofStatement written.text.toList = written := by
  have inner : between '\x7b' '\x7d' written.text.toList =
      ' ' :: ((", ".intercalate written.names).toList ++ [' ']) := by
    have text : written.text.toList = "import ".toList ++ '\x7b' ::
        ((' ' :: ((", ".intercalate written.names).toList ++ [' '])) ++
          '\x7d' :: (" from '" ++ written.source ++ "'").toList) := by
      simp [Import.text, String.toList_append]
    rw [text, between_append (by decide)]
    rw [List.mem_cons, List.mem_append, not_or, not_or]
    exact ⟨by decide, plain.notMem_names rfl (by decide), by decide⟩
  have outer : between '\'' '\'' written.text.toList = written.source.toList := by
    have text : written.text.toList =
        ("import \x7b " ++ ", ".intercalate written.names ++ " \x7d from ").toList ++
          '\'' :: (written.source.toList ++ '\'' :: []) := by
      simp [Import.text, String.toList_append]
    rw [text, between_append _ (plain.source.notMem rfl)]
    simp only [String.toList_append, List.mem_append, not_or]
    exact ⟨⟨by decide, plain.notMem_names rfl (by decide)⟩, by decide⟩
  have kept : (' ' :: ((", ".intercalate written.names).toList ++ [' '])).filter (· ≠ ' ') =
      [','].intercalate (written.names.map String.toList) := by
    rw [List.filter_cons_of_neg (by simp), List.filter_append, plain.filter_names]
    simp
  have pieces : (([','].intercalate (written.names.map String.toList)).splitOn ',').filter
      (· ≠ []) = written.names.map String.toList := by
    rw [List.splitOn_intercalate _ _ (by simp [plain.some]), List.filter_eq_self]
    · rw [List.forall_mem_map]
      exact fun name member => decide_eq_true (plain.names name member).1
    · rw [List.forall_mem_map]
      exact fun name member => (plain.names name member).2.notMem rfl
  rw [Import.ofStatement, inner, outer, kept, pieces, String.ofList_toList, List.map_map]
  simp [Function.comp_def]

/-- The text of such an import holds neither the end of a line nor that of a statement. -/
theorem notMem_text (plain : written.Plain) {c : Char} (ends : c = '\n' ∨ c = ';') :
    c ∉ written.text.toList := by
  have mark : importMarks.contains c = true := by rcases ends with rfl | rfl <;> rfl
  have fixed : c ∉ "import \x7b ".toList ∧ c ∉ [',', ' '] ∧ c ∉ " \x7d from '".toList ∧
      c ∉ "'".toList := by
    rcases ends with rfl | rfl <;> decide
  obtain ⟨front, separator, middle, back⟩ := fixed
  simp only [Import.text, String.toList_append, List.mem_append, not_or]
  exact ⟨⟨⟨⟨front, plain.notMem_names mark separator⟩, middle⟩, plain.source.notMem mark⟩, back⟩

/-- The line of such an import says it. -/
theorem onLines (plain : written.Plain) : written.OnLines [written.line] := by
  have line : written.line = written.text.toList ++ [';'] := String.toList_append
  refine ⟨List.forall_mem_singleton.mpr ?_, written.text.toList,
    by rw [line, List.flatten_singleton], ⟨?_, plain.notMem_text (.inr rfl)⟩,
    plain.ofStatement_text⟩
  · rw [line, List.mem_append, not_or]
    exact ⟨by simp, plain.notMem_text (.inl rfl), by decide⟩
  · simp [Import.text, String.toList_append]

end Import.Plain

/-! ### The imports of the eight files -/

/-- A context whose names and validators can stand in import statements. -/
structure Context.Plain (context : Context) : Prop where
  /-- The name of classes. -/
  pascal : Unmarked context.namePascal
  /-- The name of files. -/
  kebab : Unmarked context.nameKebab
  /-- The validators. -/
  validators : ∀ name ∈ context.validators, name.toList ≠ [] ∧ Unmarked name

/-- The context of an entity whose name is a word is one. -/
theorem Context.plain_ofEntity {entity : Entity} (word : isWord entity.name.toList = true) :
    (Context.ofEntity entity).Plain := by
  have outside : ∀ c ∈ importMarks, isWordChar c = false ∧ c ≠ '-' ∧ ¬IsImage 65 90 c ∧
      ¬IsImage 97 122 c := by
    simp only [importMarks, List.forall_mem_cons, List.not_mem_nil, IsEmpty.forall_iff,
      implies_true, and_true]
    decide
  have absent {c : Char} (mark : c ∈ importMarks) : c ∉ entity.name.toList := fun member =>
    absurd (isWordChar_of_mem word member) (by simp [(outside c mark).1])
  refine ⟨fun c member mark => ?_, fun c member mark => ?_, fun name member => ?_⟩
  · obtain ⟨-, -, capital, small⟩ := outside c mark
    exact Name.notMem_pascalCase (absent mark) capital small member
  · obtain ⟨-, hyphen, -, small⟩ := outside c mark
    exact Name.notMem_kebabCase (absent mark) hyphen small member
  · have fixed : ∀ name ∈ allValidators, name.toList ≠ [] ∧ Unmarked name := by decide
    exact fixed name (List.mem_filter.mp member).1

namespace SourceFile

open Source

/-- What a file imports from libraries. -/
def libraryImports (validators : List String) : SourceFile → List Import
  | .module => [⟨["Module"], "@nestjs/common"⟩]
  | .controller => [
    ⟨["Controller", "Get", "Post", "Body", "Patch", "Param", "Delete", "UseGuards", "Query"],
      "@nestjs/common"⟩,
    ⟨["ApiTags", "ApiOperation", "ApiResponse", "ApiBearerAuth"], "@nestjs/swagger"⟩]
  | .service => [⟨["Injectable", "NotFoundException"], "@nestjs/common"⟩]
  | .create => ⟨["ApiProperty"], "@nestjs/swagger"⟩ ::
    if validators.isEmpty then [] else [⟨validators, "class-validator"⟩]
  | .update => [⟨["PartialType"], "@nestjs/swagger"⟩]
  | .record => [⟨["ApiProperty"], "@nestjs/swagger"⟩]
  | .serviceTest => [⟨["Test", "TestingModule"], "@nestjs/testing"⟩]
  | .requestTest => [
    ⟨["Test", "TestingModule"], "@nestjs/testing"⟩,
    ⟨["INestApplication"], "@nestjs/common"⟩,
    ⟨[], "supertest"⟩]

/-- What a file imports from other files. -/
def relativeImports (pascal kebab : String) : SourceFile → List Import
  | .module => [
    ⟨[pascal ++ "Controller"], "./" ++ kebab ++ ".controller"⟩,
    ⟨[pascal ++ "Service"], "./" ++ kebab ++ ".service"⟩]
  | .controller => [
    ⟨[pascal ++ "Service"], "./" ++ kebab ++ ".service"⟩,
    ⟨["Create" ++ pascal ++ "Dto"], "./dto/create-" ++ kebab ++ ".dto"⟩,
    ⟨["Update" ++ pascal ++ "Dto"], "./dto/update-" ++ kebab ++ ".dto"⟩,
    ⟨["JwtAuthGuard"], "../auth/guards/jwt-auth.guard"⟩]
  | .service => [
    ⟨["PrismaService"], "../../core/prisma/prisma.service"⟩,
    ⟨["Create" ++ pascal ++ "Dto"], "./dto/create-" ++ kebab ++ ".dto"⟩,
    ⟨["Update" ++ pascal ++ "Dto"], "./dto/update-" ++ kebab ++ ".dto"⟩]
  | .create => []
  | .update => [⟨["Create" ++ pascal ++ "Dto"], "./create-" ++ kebab ++ ".dto"⟩]
  | .record => []
  | .serviceTest => [
    ⟨[pascal ++ "Service"], "../../src/modules/" ++ kebab ++ "/" ++ kebab ++ ".service"⟩,
    ⟨["PrismaService"], "../../src/core/prisma/prisma.service"⟩]
  | .requestTest => [
    ⟨["AppModule"], "../../src/app/app.module"⟩,
    ⟨["PrismaService"], "../../src/core/prisma/prisma.service"⟩]

/-- What a file imports. -/
def imports (context : Context) (file : SourceFile) : List Import :=
  file.libraryImports context.validators ++
    file.relativeImports context.namePascal context.nameKebab

/-- The lines of what a file imports from libraries, by statements. Each statement has a line of its
own, but one of many names has eleven. -/
def libraryLines (validators : List String) : SourceFile → List (List (List Char))
  | .controller => [
    ["import \x7b".toList, "  Controller,".toList, "  Get,".toList, "  Post,".toList,
      "  Body,".toList, "  Patch,".toList, "  Param,".toList, "  Delete,".toList,
      "  UseGuards,".toList, "  Query,".toList, "\x7d from '@nestjs/common';".toList],
    [Import.line ⟨["ApiTags", "ApiOperation", "ApiResponse", "ApiBearerAuth"], "@nestjs/swagger"⟩]]
  | .requestTest => [
    [Import.line ⟨["Test", "TestingModule"], "@nestjs/testing"⟩],
    [Import.line ⟨["INestApplication"], "@nestjs/common"⟩],
    ["import * as request from 'supertest';".toList]]
  | file => (file.libraryImports validators).map fun statement => [statement.line]

/-- The lines at the head of a file, by statements. -/
def headLines (context : Context) (file : SourceFile) : List (List (List Char)) :=
  file.libraryLines context.validators ++
    (file.relativeImports context.namePascal context.nameKebab).map
      fun statement => [statement.line]

/-- The part of the template of a file that holds its imports, with the empty line behind them. -/
def headTemplate : SourceFile → Template
  | .module => .concat [
    "import \x7b Module \x7d from '@nestjs/common';\n",
    "import \x7b ", namePascal, "Controller \x7d from './", nameKebab, ".controller';\n",
    "import \x7b ", namePascal, "Service \x7d from './", nameKebab, ".service';\n",
    "\n"]
  | .controller => controllerImports
  | .service => serviceImports
  | .create => .concat [
    "import \x7b ApiProperty \x7d from '@nestjs/swagger';\n",
    .given (.named "validators") validatorImport .done,
    "\n"]
  | .update => .concat [
    "import \x7b PartialType \x7d from '@nestjs/swagger';\n",
    "import \x7b Create", namePascal, "Dto \x7d from './create-", nameKebab, ".dto';\n",
    "\n"]
  | .record => .concat ["import \x7b ApiProperty \x7d from '@nestjs/swagger';\n", "\n"]
  | .serviceTest => serviceTestImports
  | .requestTest => requestTestImports

/-- The template of a file starts with it. -/
theorem exists_template (file : SourceFile) :
    ∃ rest : Template, file.template = file.headTemplate ++ rest := by
  cases file <;> exact ⟨.concat _, rfl⟩

set_option maxRecDepth 4000 in
/-- Its text is the lines at the head of the file and an empty line. -/
theorem render_headTemplate (context : Context) (file : SourceFile) :
    ∃ text, file.headTemplate.render context.members = .ok text ∧
      text.toList = (file.headLines context).flatten.flatMap (· ++ ['\n']) ++ ['\n'] := by
  cases file
  case create =>
    obtain ⟨_, _, _, _, _, _, _, _, validators, _, _⟩ := context
    cases validators
    all_goals
      refine ⟨_, rfl, ?_⟩
      simp only [headLines, libraryLines, libraryImports, relativeImports, Import.line, Import.text,
        String.toList_append, Json.shown, List.map_cons, List.map_nil, List.flatten_append,
        List.flatten_cons, List.flatten_nil, List.flatMap_append, List.flatMap_cons,
        List.flatMap_nil, String.toList_intercalate, List.intercalate_singleton,
        -String.reduceToList]
      repeat rw [String.toList_ofList]
      simp [Function.comp_def, Json.shown]
  all_goals
    refine ⟨_, rfl, ?_⟩
    simp only [headLines, libraryLines, libraryImports, relativeImports, Import.line, Import.text,
      String.toList_append, Json.shown, List.map_cons, List.map_nil, List.flatten_append,
      List.flatten_cons, List.flatten_nil, List.flatMap_append, List.flatMap_cons, List.flatMap_nil,
      String.toList_intercalate, List.intercalate_cons_cons, List.intercalate_singleton,
      -String.reduceToList]
    repeat rw [String.toList_ofList]
    simp only [List.cons_append, List.nil_append, List.append_assoc]

/-- The template of a file starts with the lines of its imports and an empty line. -/
theorem exists_of_render {context : Context} {file : SourceFile} {content : String}
    (rendered : file.render context.members = .ok content) :
    ∃ rest, content.toList =
      (file.headLines context).flatten.flatMap (· ++ ['\n']) ++ '\n' :: rest := by
  obtain ⟨below, split⟩ := file.exists_template
  obtain ⟨head, first, lines⟩ := file.render_headTemplate context
  rw [render, split, Template.render_append, first] at rendered
  cases last : below.render context.members with
  | error fault =>
    rw [last] at rendered
    nomatch rendered
  | ok back =>
    rw [last] at rendered
    obtain rfl := Except.ok.inj rendered
    exact ⟨back.toList, by rw [String.toList_append, lines]; simp⟩

/-- A file imports names from other files one by one. -/
theorem plain_relativeImports {pascal kebab : String} (named : Unmarked pascal)
    (sourced : Unmarked kebab) (file : SourceFile) :
    ∀ wanted ∈ file.relativeImports pascal kebab, wanted.Plain := by
  have spelled (front back : String) (fixed : Unmarked front ∧ Unmarked back ∧ back.toList ≠ []) :
      (front ++ pascal ++ back).toList ≠ [] ∧ Unmarked (front ++ pascal ++ back) := by
    simp [String.toList_append, named, fixed]
  have path (front back : String) (fixed : Unmarked front ∧ Unmarked back) :
      Unmarked (front ++ kebab ++ back) := by
    simp [sourced, fixed]
  have controller := spelled "" "Controller" (by decide +kernel)
  have service := spelled "" "Service" (by decide +kernel)
  have create := spelled "Create" "Dto" (by decide +kernel)
  have update := spelled "Update" "Dto" (by decide +kernel)
  rw [String.empty_append] at controller service
  cases file <;>
    simp only [relativeImports, List.forall_mem_cons, List.not_mem_nil, IsEmpty.forall_iff,
      implies_true, and_true]
  case module =>
    exact ⟨.single controller.1 controller.2 (path _ _ (by decide +kernel)),
      .single service.1 service.2 (path _ _ (by decide +kernel))⟩
  case controller =>
    exact ⟨.single service.1 service.2 (path _ _ (by decide +kernel)),
      .single create.1 create.2 (path _ _ (by decide +kernel)),
      .single update.1 update.2 (path _ _ (by decide +kernel)), by decide +kernel⟩
  case service =>
    exact ⟨by decide +kernel, .single create.1 create.2 (path _ _ (by decide +kernel)),
      .single update.1 update.2 (path _ _ (by decide +kernel))⟩
  case update => exact .single create.1 create.2 (path _ _ (by decide +kernel))
  case serviceTest =>
    refine ⟨.single service.1 service.2 ?_, by decide +kernel⟩
    have folder := path "../../src/modules/" "/" (by decide +kernel)
    exact unmarked_append.mpr ⟨unmarked_append.mpr ⟨folder, sourced⟩, by decide +kernel⟩
  case requestTest => decide +kernel

set_option maxRecDepth 4000 in
/-- The lines of what a file imports from libraries say it. -/
theorem onLines_libraryLines {validators : List String}
    (plain : ∀ name ∈ validators, name.toList ≠ [] ∧ Unmarked name) (file : SourceFile) :
    List.Forall₂ Import.OnLines (file.libraryImports validators)
      (file.libraryLines validators) := by
  have regular {imports : List Import} (each : ∀ statement ∈ imports, statement.Plain) :
      List.Forall₂ Import.OnLines imports (imports.map fun statement => [statement.line]) := by
    rw [List.forall₂_map_right_iff, List.forall₂_same]
    exact fun statement member => (each statement member).onLines
  cases file
  case controller =>
    refine .cons ?_ (.cons (Import.Plain.onLines ?_) .nil)
    · refine ⟨?_, "import \x7b  Controller,  Get,  Post,  Body,  Patch,  Param,  Delete,".toList ++
        "  UseGuards,  Query,\x7d from '@nestjs/common'".toList, ?_, ?_, ?_⟩ <;>
        repeat rw [String.toList_ofList]
      · decide +kernel
      · rfl
      · decide +kernel
      · rfl
    · decide +kernel
  case requestTest =>
    refine .cons (Import.Plain.onLines (by decide +kernel))
      (.cons (Import.Plain.onLines (by decide +kernel)) (.cons ?_ .nil))
    refine ⟨?_, "import * as request from 'supertest'".toList, ?_, ?_, ?_⟩ <;>
      repeat rw [String.toList_ofList]
    · decide +kernel
    · rfl
    · decide +kernel
    · rfl
  case create =>
    refine regular (List.forall_mem_cons.mpr ⟨by decide +kernel, ?_⟩)
    split
    · exact List.forall_mem_nil _
    next nonempty =>
      refine List.forall_mem_singleton.mpr ⟨by simpa using nonempty, plain, ?_⟩
      exact (by decide +kernel : Unmarked "class-validator")
  all_goals exact regular (List.forall_mem_singleton.mpr (by decide +kernel))

/-- The lines at the head of a file say its imports. -/
theorem onLines_headLines {context : Context} (plain : context.Plain) (file : SourceFile) :
    List.Forall₂ Import.OnLines (file.imports context) (file.headLines context) := by
  refine List.rel_append (onLines_libraryLines plain.validators file) ?_
  rw [List.forall₂_map_right_iff, List.forall₂_same]
  exact fun statement member =>
    (plain_relativeImports plain.pascal plain.kebab file statement member).onLines

/-- The imports of a file are those of its table. -/
theorem importsOf_of_render {context : Context} (plain : context.Plain) {file : SourceFile}
    {content : String} (rendered : file.render context.members = .ok content) :
    importsOf content.toList = file.imports context := by
  obtain ⟨rest, text⟩ := exists_of_render rendered
  rw [text, importsOf_lines (onLines_headLines plain file)]

/-- The imports of a file from other files are those of modules found from its directory. -/
theorem filter_imports (context : Context) (file : SourceFile) :
    (file.imports context).filter Import.isRelative =
      file.relativeImports context.namePascal context.nameKebab := by
  have libraries : (file.libraryImports context.validators).filter Import.isRelative = [] := by
    rw [List.filter_eq_nil_iff]
    cases file
    case create =>
      refine List.forall_mem_cons.mpr ⟨by decide, ?_⟩
      split
      · exact List.forall_mem_nil _
      · exact List.forall_mem_singleton.mpr (by simp [Import.isRelative])
    all_goals simp [libraryImports, Import.isRelative]
  have others : (file.relativeImports context.namePascal context.nameKebab).filter
      Import.isRelative = file.relativeImports context.namePascal context.nameKebab := by
    rw [List.filter_eq_self]
    cases file <;> simp [relativeImports, Import.isRelative, String.toList_append]
  rw [imports, List.filter_append, libraries, others, List.nil_append]

end SourceFile

end CrudScaffold
