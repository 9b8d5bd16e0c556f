import CrudScaffold.Files.Tree
import CrudScaffold.Source.Files

/-!
# Templates by their names

A template is known by the steps to it among all templates. The names of all templates in a
directory or in a part of it, also those in directories below, are listed in the order of their
characters; those of this library stand in a directory of their own.
-/

namespace CrudScaffold

/-- The file whose template has a name. Empty steps and single dots in the name do not count. -/
def SourceFile.ofTemplateName? (name : String) : Option SourceFile :=
  all.find? fun file => file.templateSteps == Path.stepsOf name.toList

/-- The text of the template of a name for named values. -/
def renderNamed (name : String) (members : List (String × Json)) : Except TemplateFault String :=
  match SourceFile.ofTemplateName? name with
  | some file => file.render members
  | none => .error (.unknownTemplate name)

/-- Whether a name is that of a template. -/
def isTemplateName (name : String) : Bool := ".j2".toList.isSuffixOf name.toList

/-- The templates in a part of a directory. Where no directory is, there are none. -/
def Tree.templates (tree : Tree) (directory : Path) (part : String) :
    Except FileFault (List String) :=
  let searched := if part.isEmpty then directory else directory.child part
  match tree.status searched, tree.locate searched with
  | .ok .directory, .ok location =>
    let found := (tree.namesBelow location).filter fun steps => isTemplateName (steps.getLastD "")
    let names := found.map fun steps =>
      "/".intercalate ((searched.steps ++ steps).drop directory.steps.length)
    .ok (names.mergeSort fun name other => name ≤ other)
  | .error reason, _ => if reason.isAbsence then .ok [] else .error ⟨reason, searched⟩
  | _, _ => .ok []

/-- The templates of this library as files in a working directory of their own. -/
def templateTree : Tree :=
  SourceFile.all.foldl
    (fun tree file =>
      let location := tree.base ++ file.templateSteps
      let tree :=
        (Tree.waysTo location.dropLast).foldl (fun tree way => tree.put way .directory) tree
      tree.put location (.file []))
    (Tree.empty ["templates"])

/-- The templates of this library in a part of their directory. -/
def templateNames (part : String) : Except FileFault (List String) :=
  templateTree.templates .current part

end CrudScaffold
