import CrudScaffold.Files.Path
import CrudScaffold.Text.Quoted

/-!
# Faults of file actions

Why a file action is refused: the reason, with the number that operating systems give it, and the
path as it was named. A path that no operating system takes is refused before it is asked.
-/

namespace CrudScaffold

/-- The reasons for which a file action is refused. -/
inductive FileRefusal
  | missing
  | alreadyThere
  | notDirectory
  | isDirectory
  | nameTooLong
  /-- The path holds a null character, which no name of a file may hold. -/
  | nullCharacter
deriving DecidableEq, Repr

namespace FileRefusal

/-- The number of a reason, if operating systems give it one. -/
def number? : FileRefusal → Option Nat
  | .missing => some 2
  | .alreadyThere => some 17
  | .notDirectory => some 20
  | .isDirectory => some 21
  | .nameTooLong => some 36
  | .nullCharacter => none

/-- The words for a reason. -/
def description : FileRefusal → String
  | .missing => "No such file or directory"
  | .alreadyThere => "File exists"
  | .notDirectory => "Not a directory"
  | .isDirectory => "Is a directory"
  | .nameTooLong => "File name too long"
  | .nullCharacter => "embedded null byte"

/-- Whether a reason only says that there is nothing at a path. -/
def isAbsence : FileRefusal → Bool
  | .missing | .notDirectory | .nullCharacter => true
  | .alreadyThere | .isDirectory | .nameTooLong => false

/-- The words for the refusal of an action on the path of a text. -/
def message (reason : FileRefusal) (path : String) : String :=
  match reason.number? with
  | some number =>
    "[Errno " ++ Nat.repr number ++ "] " ++ reason.description ++ ": " ++ Text.quoted path
  | none => reason.description

end FileRefusal

/-- A refused file action. -/
structure FileFault where
  /-- Why it was refused. -/
  reason : FileRefusal
  /-- The path that it named. -/
  path : Path
deriving DecidableEq, Repr

/-- The words for a refused file action. -/
def FileFault.message (fault : FileFault) : String := fault.reason.message fault.path.text

end CrudScaffold
