import CrudScaffold.Proofs.Traversal
import CrudScaffold.Source.Files

/-!
# Rendering the source files

A template renders where it finds every value that it takes (`Template.Finds`). The templates of the
eight files find theirs in the context of any entity, so placing a file never fails for its text.
-/

namespace CrudScaffold

/-- Whether a lookup finds elements of which each is good. -/
def Lookup.FindsEach (scope : List (String × Json)) (source : Lookup) (good : Json → Prop) : Prop :=
  ∃ elements, source.elements scope = .ok elements ∧ ∀ element ∈ elements, good element

/-- Whether a lookup finds a value. -/
def Lookup.Finds (scope : List (String × Json)) (source : Lookup) : Prop :=
  ∃ value, source.find scope = .ok value

namespace Template

/-- Whether a template finds every value that it takes from a scope. A part under a condition has to
find its values whether the condition holds or not. -/
def Finds : List (String × Json) → Template → Prop
  | _, .done => True
  | scope, .text _ next => next.Finds scope
  | scope, .value source next => source.Finds scope ∧ next.Finds scope
  | scope, .joined source _ next => source.FindsEach scope (fun _ => True) ∧ next.Finds scope
  | scope, .mark condition _ next => condition.Finds scope ∧ next.Finds scope
  | scope, .given condition body next =>
    condition.Finds scope ∧ body.Finds scope ∧ next.Finds scope
  | scope, .each name source _ body next =>
    source.FindsEach scope (fun element => body.Finds ((name, element) :: scope)) ∧
      next.Finds scope

/-- A template renders where it finds every value. -/
theorem exists_render {scope : List (String × Json)} {template : Template}
    (finds : template.Finds scope) : ∃ content, template.render scope = .ok content := by
  induction template generalizing scope with
  | done => exact ⟨_, rfl⟩
  | text content next ih =>
    obtain ⟨rest, rendered⟩ := ih finds
    exact ⟨content ++ rest, by rw [render, rendered]; rfl⟩
  | value source next ih =>
    obtain ⟨⟨value, found⟩, others⟩ := finds
    obtain ⟨rest, rendered⟩ := ih others
    exact ⟨value.shown ++ rest, by rw [render, found, rendered]; rfl⟩
  | joined source separator next ih =>
    obtain ⟨⟨elements, found, -⟩, others⟩ := finds
    obtain ⟨rest, rendered⟩ := ih others
    exact ⟨separator.intercalate (elements.map Json.shown) ++ rest, by
      rw [render, found, rendered]; rfl⟩
  | mark condition content next ih =>
    obtain ⟨⟨value, found⟩, others⟩ := finds
    obtain ⟨rest, rendered⟩ := ih others
    exact ⟨(if value.isTruthy then content else "") ++ rest, by
      rw [render, found, rendered]; rfl⟩
  | given condition body next inner ih =>
    obtain ⟨⟨value, found⟩, within, others⟩ := finds
    obtain ⟨part, inside⟩ := inner within
    obtain ⟨rest, rendered⟩ := ih others
    rw [render, found, rendered, inside]
    cases holds : value.isTruthy with
    | true => exact ⟨part ++ rest, by simp [bind, Except.bind, pure, Except.pure, holds]⟩
    | false => exact ⟨"" ++ rest, by simp [bind, Except.bind, pure, Except.pure, holds]⟩
  | each name source between body next inner ih =>
    obtain ⟨⟨elements, found, each⟩, others⟩ := finds
    obtain ⟨parts, inside⟩ := exists_mapM_eq_ok fun element member => inner (each element member)
    obtain ⟨rest, rendered⟩ := ih others
    refine ⟨between.intercalate parts ++ rest, ?_⟩
    rw [render, found, rendered]
    change ((elements.mapM fun element => body.render ((name, element) :: scope)) >>= _) = _
    rw [inside]
    rfl

variable {scope : List (String × Json)}

/-- A row of two templates finds what both find. -/
@[simp] theorem finds_append {first second : Template} :
    (first ++ second).Finds scope ↔ first.Finds scope ∧ second.Finds scope := by
  change (append first second).Finds scope ↔ _
  induction first with
  | done => simp [append, Finds]
  | text content next ih => exact ih
  | value source next ih => simp only [append, Finds, ih, and_assoc]
  | joined source separator next ih => simp only [append, Finds, ih, and_assoc]
  | mark condition content next ih => simp only [append, Finds, ih, and_assoc]
  | given condition body next inner ih => simp only [append, Finds, ih, and_assoc]
  | each name source between body next inner ih => simp only [append, Finds, ih, and_assoc]

/-- Templates in a row find what each of them finds. -/
@[simp] theorem finds_concat {parts : List Template} :
    (concat parts).Finds scope ↔ ∀ part ∈ parts, part.Finds scope := by
  induction parts with
  | nil => simp [concat, Finds]
  | cons part parts ih =>
    rw [List.forall_mem_cons, ← ih]
    exact finds_append

end Template

/-- The members of a property are found where a field stands for it. -/
theorem Property.finds (property : Property) (scope : List (String × Json)) :
    Source.propertyLine.Finds (("field", property.toJson) :: scope) ∧
      Source.descriptionLine.Finds (("field", property.toJson) :: scope) ∧
      Source.decoratorLines.Finds (("field", property.toJson) :: scope) := by
  have name : (Source.fieldPlace "name").Finds (("field", property.toJson) :: scope) :=
    ⟨⟨_, rfl⟩, trivial⟩
  have type : (Source.fieldPlace "ts_type").Finds (("field", property.toJson) :: scope) :=
    ⟨⟨_, rfl⟩, trivial⟩
  have optional (content : String) :
      (Source.ifOptional content).Finds (("field", property.toJson) :: scope) :=
    ⟨⟨_, rfl⟩, trivial⟩
  refine ⟨?_, ?_, ⟨⟨_, rfl, fun decorator _ => ?_⟩, trivial⟩⟩
  · simp [Source.propertyLine, Template.Finds, name, type, optional]
  · simp [Source.descriptionLine, Template.Finds, name, optional]
  · exact ⟨⟨_, rfl⟩, trivial⟩

/-- The template of a file finds its values in every context. -/
theorem SourceFile.finds (context : Context) (file : SourceFile) :
    file.template.Finds context.members := by
  have pascal : Source.namePascal.Finds context.members := ⟨⟨_, rfl⟩, trivial⟩
  have kebab : Source.nameKebab.Finds context.members := ⟨⟨_, rfl⟩, trivial⟩
  have camel : Source.nameCamel.Finds context.members := ⟨⟨_, rfl⟩, trivial⟩
  have headings : Source.pluralPascal.Finds context.members := ⟨⟨_, rfl⟩, trivial⟩
  have descriptions : Source.pluralKebab.Finds context.members := ⟨⟨_, rfl⟩, trivial⟩
  have payload : Source.samplePayload.Finds context.members := ⟨⟨_, rfl⟩, trivial⟩
  have key : Source.sampleKey.Finds context.members := ⟨⟨_, rfl⟩, trivial⟩
  cases file with
  | module => simp [template, Source.moduleFile, Template.Finds, pascal, kebab]
  | controller =>
    simp only [template, Source.controllerFile, Source.controllerImports, Source.controllerHead,
      Source.createRoute, Source.findAllRoute, Source.findOneRoute, Source.updateRoute,
      Source.removeRoute, Template.finds_concat, List.forall_mem_cons, List.not_mem_nil,
      false_implies, implies_true, Template.Finds, and_self, *]
  | service =>
    simp only [template, Source.serviceFile, Source.serviceImports, Source.serviceHead,
      Source.createMethod, Source.findAllMethod, Source.findOneMethod, Source.updateMethod,
      Source.removeMethod, Template.finds_concat, List.forall_mem_cons, List.not_mem_nil,
      false_implies, implies_true, Template.Finds, and_self, *]
  | create =>
    simp only [template, Source.createFile, Template.finds_concat, List.forall_mem_cons]
    refine ⟨trivial, ⟨⟨_, rfl⟩, ?_, trivial⟩, trivial, trivial, pascal, trivial,
      ⟨⟨_, rfl, fun element member => ?_⟩, trivial⟩, trivial, List.forall_mem_nil _⟩
    · exact ⟨⟨_, rfl, fun _ _ => trivial⟩, trivial⟩
    · obtain ⟨property, -, rfl⟩ := List.mem_map.mp member
      obtain ⟨line, -, decorators⟩ := property.finds context.members
      simp [decorators, line]
  | update => simp [template, Source.updateFile, Template.Finds, *]
  | record =>
    simp only [template, Source.recordFile, Template.finds_concat, List.forall_mem_cons]
    refine ⟨trivial, trivial, trivial, pascal, trivial,
      ⟨⟨_, rfl, fun element member => ?_⟩, trivial⟩, trivial, List.forall_mem_nil _⟩
    obtain ⟨property, -, rfl⟩ := List.mem_map.mp member
    obtain ⟨line, description, -⟩ := property.finds context.members
    simp [description, line]
  | serviceTest =>
    simp only [template, Source.serviceTestFile, Source.serviceTestImports, Source.serviceTestHead,
      Source.serviceTestSetup, Source.definedTest, Source.createTests, Source.findAllTests,
      Source.findOneTests, Source.updateTests, Source.removeTests, Template.finds_concat,
      List.forall_mem_cons, List.not_mem_nil, false_implies, implies_true, Template.Finds, and_self,
      *]
  | requestTest =>
    simp only [template, Source.requestTestFile, Source.requestTestImports, Source.requestTestSetup,
      Source.postTests, Source.listTests, Source.getTests, Source.getMissingTest, Source.patchTests,
      Source.deleteTests, Template.finds_concat, List.forall_mem_cons, List.not_mem_nil,
      false_implies, implies_true, Template.Finds, and_self, *]

/-- Every file renders in every context. -/
theorem SourceFile.exists_content (context : Context) (file : SourceFile) :
    ∃ content, file.render context.members = .ok content :=
  Template.exists_render (file.finds context)

end CrudScaffold
