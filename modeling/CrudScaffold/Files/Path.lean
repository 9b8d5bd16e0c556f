import CrudScaffold.Text.Blank

/-!
# Paths

A path names a file by the steps to it, from the working directory or from a root. Steps that lead
nowhere, empty ones and single dots, are dropped when a path is read; a double dot stays, because
what it means depends on the directories that are there. Two slashes at the very start are a root of
their own, three or more are the same as one.

Reading and showing are inverse on paths: `Path.text` writes one text for each path, and
`Path.ofText` reads it back.
-/

namespace CrudScaffold

/-- Where a path starts. -/
inductive PathRoot
  /-- At the working directory. -/
  | relative
  | slash
  | doubleSlash
deriving DecidableEq, Repr, Inhabited

/-- The text that a root is written as. -/
def PathRoot.text : PathRoot → String
  | .relative => ""
  | .slash => "/"
  | .doubleSlash => "//"

/-- A step of a path: a name that is not empty, is not a single dot, and has no slash in it. -/
def isPathStep (name : String) : Bool := name != "" && name != "." && !name.toList.contains '/'

/-- A path. -/
structure Path where
  /-- Where it starts. -/
  root : PathRoot
  /-- The steps from there. -/
  steps : List String
  /-- Nothing else than steps is among them. -/
  steps_valid : ∀ step ∈ steps, isPathStep step = true
deriving DecidableEq, Repr

namespace Path

/-- The working directory. -/
def current : Path := ⟨.relative, [], by simp⟩

instance : Inhabited Path := ⟨current⟩

/-- The root that a text starts at, by the number of slashes in front. -/
def rootOf (text : List Char) : PathRoot :=
  match (text.takeWhile (· == '/')).length with
  | 0 => .relative
  | 2 => .doubleSlash
  | _ => .slash

/-- The steps in a text. -/
def stepsOf (text : List Char) : List String :=
  ((text.splitOn '/').map String.ofList).filter isPathStep

/-- The path that a text names. -/
def ofText (text : String) : Path :=
  ⟨rootOf text.toList, stepsOf text.toList, fun _ member => (List.mem_filter.mp member).2⟩

/-- A path as a text; the working directory is a single dot. -/
def text (path : Path) : String :=
  match path.root, path.steps with
  | .relative, [] => "."
  | root, steps => root.text ++ "/".intercalate steps

/-- A path that starts where another one leads. One that has a root of its own does not. -/
def join (base path : Path) : Path :=
  match path.root with
  | .relative => {
    root := base.root
    steps := base.steps ++ path.steps
    steps_valid := by
      intro step member
      rcases List.mem_append.mp member with member | member
      · exact base.steps_valid step member
      · exact path.steps_valid step member }
  | _ => path

instance : Append Path := ⟨join⟩

/-- The path of a text, from where another path leads. -/
def child (base : Path) (name : String) : Path := base ++ ofText name

/-- The path without its last step. A path without steps is its own parent. -/
def parent (path : Path) : Path where
  root := path.root
  steps := path.steps.dropLast
  steps_valid := fun step member =>
    path.steps_valid step ((List.dropLast_sublist path.steps).mem member)

/-- The last step, empty if there is none. -/
def fileName (path : Path) : String := path.steps.getLastD ""

/-- The ending of the last step: its last dot and what follows it. A dot in front is part of the
name, and a dot at the end opens no ending. -/
def ending (path : Path) : String :=
  let name := path.fileName.toList
  let behind := name.reverse.takeWhile (· != '.')
  let before := name.length - behind.length - 1
  if behind.isEmpty || before = 0 || behind.length = name.length then ""
  else String.ofList (name.drop before)

end Path

end CrudScaffold
