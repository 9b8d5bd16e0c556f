import CrudScaffold.Failure
import CrudScaffold.Files.Tree

/-!
# Scripts

A script is a program over files and a console, as a value: a tree of actions whose branches are the
answers that an action can get. What a script does is decided where it is run, on a value that
stands for the files (`Script.run`) or on those of the machine. A script ends with a value or with
a failure.
-/

namespace CrudScaffold

/-- What a script can ask for. -/
inductive Action
  /-- What stands at a path. -/
  | status (path : Path)
  /-- The bytes of a file. -/
  | read (path : Path)
  /-- Make a directory in one that is there. -/
  | makeDirectory (path : Path)
  /-- Write the bytes of a file. -/
  | write (path : Path) (content : List UInt8)
  /-- Print a text. -/
  | print (text : String)
  /-- The next line of the input, without its line feed. -/
  | readLine
  /-- All that is left of the input. -/
  | readRest
deriving DecidableEq, Repr

/-- The answers to an action. -/
abbrev Action.Answer : Action → Type
  | .status _ => Except FileRefusal EntryKind
  | .read _ => Except FileRefusal (List UInt8)
  | .makeDirectory _ => Except FileRefusal Unit
  | .write _ _ => Except FileRefusal Unit
  | .print _ => Unit
  | .readLine => Option String
  | .readRest => String

/-- A program over files and a console that ends with a value. -/
inductive Script (α : Type)
  | done (value : α)
  | fail (failure : Failure)
  | act (action : Action) (next : action.Answer → Script α)

namespace Script

variable {α β : Type}

/-- Go on with the value of a script. -/
def bind : Script α → (α → Script β) → Script β
  | .done value, f => f value
  | .fail failure, _ => .fail failure
  | .act action next, f => .act action fun answer => (next answer).bind f

instance : Monad Script where
  pure := .done
  bind := Script.bind

/-- Nothing follows a value but what follows it. -/
theorem bind_done (script : Script α) : script.bind .done = script := by
  induction script with
  | done value => rfl
  | fail failure => rfl
  | act action next ih => simp [bind, ih]

/-- How scripts in a row are grouped does not matter. -/
theorem bind_assoc {γ : Type} (script : Script α) (f : α → Script β) (g : β → Script γ) :
    (script.bind f).bind g = script.bind fun value => (f value).bind g := by
  induction script with
  | done value => rfl
  | fail failure => rfl
  | act action next ih => simp [bind, ih]

instance : LawfulMonad Script := LawfulMonad.mk' Script
  bind_done
  (fun _ _ => rfl)
  bind_assoc

/-- One action. -/
def ask (action : Action) : Script action.Answer := .act action .done

/-- A script that always ends with a value: its own, or the failure it ended with. -/
def attempt : Script α → Script (Except Failure α)
  | .done value => .done (.ok value)
  | .fail failure => .done (.error failure)
  | .act action next => .act action fun answer => (next answer).attempt

/-- The value of a result, or its fault as a failure. -/
def ofExcept {ε : Type} (failure : ε → Failure) : Except ε α → Script α
  | .ok value => .done value
  | .error fault => .fail (failure fault)

end Script

end CrudScaffold
