import CrudScaffold.Definition.FieldList
import CrudScaffold.Proofs.Generation.Batch
import CrudScaffold.Source.Listing

/-!
# Rendering while generating

Each of the eight templates is a file of the template directory, is found under its name, and
renders for every entity, valid or not. So no template stops a generation half way: a generation
that fails has been refused for the entity, or fails while the model is added to the schema, or a
file action was refused at one of the outputs or on the way to it.
-/

namespace CrudScaffold

namespace SourceFile

/-- The name under which the template of a file is asked for. -/
def templateName (file : SourceFile) : String := "/".intercalate file.templateSteps

/-- The name finds the file. -/
theorem ofTemplateName?_templateName (file : SourceFile) :
    ofTemplateName? file.templateName = some file := by
  cases file <;> decide +kernel

/-- The template stands under the name in the directory of templates. -/
theorem status_templateTree (file : SourceFile) :
    templateTree.status (.ofText file.templateName) = .ok .file := by
  cases file <;> decide +kernel

/-- What is rendered under the name is the text of the file. -/
theorem renderNamed_templateName (file : SourceFile) (members : List (String × Json)) :
    renderNamed file.templateName members = file.render members := by
  rw [renderNamed, ofTemplateName?_templateName]

end SourceFile

section

variable {settings : Settings} {entity : Entity} {world after : World} {failure : Failure}

/-- A generation that fails when the model is in the schema fails at a file on the way to one of the
outputs. -/
theorem file_of_generateJudged
    (failed : (generateJudged settings entity).run world = (.error failure, after)) :
    (addModel settings entity).run world = (.error failure, after) ∨
      ∃ added middle reason above, (addModel settings entity).run world = (.ok added, middle) ∧
        failure = .file ⟨reason, above⟩ ∧ ∃ output ∈ settings.outputs entity,
          above.OnWayTo output := by
  rw [generateJudged_eq] at failed
  rcases Script.run_bind_cases failed with ⟨other, adding, same⟩ | ⟨added, middle, adding, rest⟩
  · obtain rfl := Except.error.inj same
    exact .inl adding
  · have within := @within_afterModel (settings.outputs entity) (fun failure => ∃ reason above,
      failure = .file ⟨reason, above⟩ ∧ ∃ output ∈ settings.outputs entity, above.OnWayTo output)
      settings entity (fun _ member => member) (fun reason above output member way =>
        ⟨reason, above, rfl, output, member, way⟩) added
    obtain ⟨reason, above, same, found⟩ := within.failure rest
    exact .inr ⟨added, middle, reason, above, adding, same, found⟩

end

/-- Every template that is asked for is there and renders for every entity. A generation that fails
has judged the entity invalid and changed nothing, or could not add its model, or was refused a file
action at an output or on the way to it. Texts have bytes, so no write fails for its content. -/
theorem generate_renders (entity : Entity) :
    (∀ file ∈ SourceFile.ofModule ++ SourceFile.ofTests,
      templateTree.status (.ofText file.templateName) = .ok .file ∧
      ∃ content, renderNamed file.templateName (Context.ofEntity entity).members = .ok content ∧
        file.render (Context.ofEntity entity).members = .ok content) ∧
    ∀ (settings : Settings) (world after : World) (failure : Failure),
      (generate settings entity).run world = (.error failure, after) →
        (entity.violations ≠ [] ∧ after = world ∧
          failure = .invalid (some entity.name) (entity.violations.map Violation.message)) ∨
        (addModel settings entity).run world = (.error failure, after) ∨
        ∃ added middle reason above, (addModel settings entity).run world = (.ok added, middle) ∧
          failure = .file ⟨reason, above⟩ ∧ ∃ output ∈ settings.outputs entity,
            above.OnWayTo output := by
  constructor
  · intro file _
    obtain ⟨content, rendered⟩ := file.exists_content (Context.ofEntity entity)
    have named : renderNamed file.templateName (Context.ofEntity entity).members = .ok content :=
      (file.renderNamed_templateName _).trans rendered
    exact ⟨file.status_templateTree, content, named, rendered⟩
  · intro settings world after failure failed
    by_cases valid : entity.violations = []
    · rw [generate_of_no_violations valid] at failed
      exact .inr (file_of_generateJudged failed)
    · rw [generate_of_violations valid] at failed
      obtain ⟨same, rfl⟩ := Prod.mk.inj failed
      exact .inl ⟨valid, rfl, (Except.error.inj same).symm⟩

/-- Where a file stands in the place of the directory of the modules, the model is added to the
schema and the first file is then refused. -/
theorem generate_renders_behind_file :
    let settings : Settings := { schemaPath := .ofText "s", modulesDir := .ofText "m" }
    let entity := Entity.ofFields "A" [{ name := "id", type := .int, isId := true }]
    let world : World := { tree := ⟨["w"],
      [(["w"], .directory), (["w", "s"], .file []), (["w", "m"], .file [])]⟩ }
    ∃ after added middle output,
      (generate settings entity).run world =
        (.error (.file ⟨.notDirectory, .ofText "m/a"⟩), after) ∧
      (addModel settings entity).run world = (.ok added, middle) ∧
      output ∈ settings.outputs entity ∧ (Path.ofText "m/a").OnWayTo output := by
  intro settings entity world
  have failure : ((generate settings entity).run world).1 =
      .error (.file ⟨.notDirectory, .ofText "m/a"⟩) := by decide +kernel
  have valid : entity.violations = [] := by decide +kernel
  have failed : (generate settings entity).run world =
      (.error (.file ⟨.notDirectory, .ofText "m/a"⟩), ((generate settings entity).run world).2) :=
    Prod.ext failure rfl
  rcases (generate_renders entity).2 settings world _ _ failed with
    ⟨invalid, -⟩ | adding | ⟨added, middle, reason, above, adding, same, output, member, way⟩
  · exact absurd valid invalid
  · have added : ((addModel settings entity).run world).1 = .ok true := by decide +kernel
    exact absurd ((congrArg Prod.fst adding).symm.trans added) (by simp)
  · cases same
    exact ⟨_, added, middle, output, failed, adding, member, way⟩

end CrudScaffold
