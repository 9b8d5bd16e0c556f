import CrudScaffold.Script.Basic
import CrudScaffold.Text.Lines

/-!
# Files in scripts

The actions on files in the form in which the rest of the library uses them: text in place of bytes,
questions with plain answers, and directories made together with all that should hold them. A
refused action fails the script with the path that was asked for.
-/

namespace CrudScaffold.Script

/-- The script that ends because an action on a path was refused. -/
def refuse {α : Type} (reason : FileRefusal) (path : Path) : Script α :=
  .fail (.file ⟨reason, path⟩)

/-- The kind of what stands at a path, or none if nothing does. -/
def kindAt (path : Path) : Script (Option EntryKind) :=
  .act (.status path) fun
    | .ok kind => .done (some kind)
    | .error reason => if reason.isAbsence then .done none else refuse reason path

/-- Whether something stands at a path. -/
def isThere (path : Path) : Script Bool := return (← kindAt path).isSome

/-- Whether a file stands at a path. -/
def isFile (path : Path) : Script Bool := return (← kindAt path) == some .file

/-- Whether a directory stands at a path. -/
def isDirectory (path : Path) : Script Bool := return (← kindAt path) == some .directory

/-- The text of a file, in which a line feed ends every line. -/
def readText (path : Path) : Script String :=
  .act (.read path) fun
    | .ok bytes => do
      let text ← ofExcept .encoding (Text.decodeUtf8 bytes)
      return String.ofList (Text.unifyNewlines text)
    | .error reason => refuse reason path

/-- Write a text to a file. A text has bytes, so this is refused for the path only. -/
def writeText (path : Path) (content : String) : Script Unit :=
  .act (.write path (Text.encodeUtf8 content.toList)) fun
    | .ok () => .done ()
    | .error reason => refuse reason path

/-- Make a directory unless it is there. What to do when the directory that should hold it is
missing is given. -/
def makeDirectoryOr (ifMissing : Script Unit) (path : Path) : Script Unit :=
  .act (.makeDirectory path) fun
    | .ok () => .done ()
    | .error .missing => ifMissing
    | .error reason => do
      if ← isDirectory path then return () else refuse reason path

/-- Make a directory and as many of those above it as a number allows. -/
def makeDirectoriesWithin : (count : Nat) → Path → Script Unit
  | 0, path => makeDirectoryOr (refuse .missing path) path
  | count + 1, path =>
    makeDirectoryOr
      (do
        makeDirectoriesWithin count path.parent
        makeDirectoryOr (refuse .missing path) path)
      path

/-- Make a directory and all of those above it that are missing. -/
def makeDirectories (path : Path) : Script Unit := makeDirectoriesWithin path.steps.length path

/-- Write a text to a file, in a directory that is made if it is missing. -/
def writeTextWithin (path : Path) (content : String) : Script Unit := do
  makeDirectories path.parent
  writeText path content

end CrudScaffold.Script
