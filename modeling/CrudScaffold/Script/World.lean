import CrudScaffold.Script.Basic

/-!
# Running scripts on values

A world is all that a script can see and change: a tree of files, the text printed so far, and what
is left of the input. `Script.run` runs a script to its end, `Script.runFor` stops it when a number
of files have been written, which is what an interruption leaves behind.
-/

namespace CrudScaffold

/-- What a script can see and change. -/
structure World where
  /-- The files. -/
  tree : Tree
  /-- The text printed so far. -/
  console : String := ""
  /-- What is left of the input. -/
  input : List Char := []
deriving Repr

namespace World

/-- A world after a change to its files, if the change was not refused. -/
def change (world : World) : Except FileRefusal Tree → Except FileRefusal Unit × World
  | .ok tree => (.ok (), { world with tree })
  | .error reason => (.error reason, world)

/-- The next line of the input, without its line feed. -/
def nextLine (world : World) : Option String × World :=
  if world.input.isEmpty then (none, world)
  else
    (some (String.ofList (world.input.takeWhile (· != '\n'))),
      { world with input := (world.input.dropWhile (· != '\n')).drop 1 })

/-- The answer to an action, and the world after it. -/
def answer (world : World) : (action : Action) → action.Answer × World
  | .status path => (world.tree.status path, world)
  | .read path => (world.tree.read path, world)
  | .makeDirectory path => world.change (world.tree.makeDirectory path)
  | .write path content => world.change (world.tree.write path content)
  | .print text => ((), { world with console := world.console ++ text })
  | .readLine => world.nextLine
  | .readRest => (String.ofList world.input, { world with input := [] })

end World

/-- Whether an action writes a file. -/
def Action.isWrite : Action → Bool
  | .write _ _ => true
  | _ => false

namespace Script

variable {α β : Type}

/-- Run a script to its end. -/
def run : Script α → World → Except Failure α × World
  | .done value, world => (.ok value, world)
  | .fail failure, world => (.error failure, world)
  | .act action next, world =>
    let (answer, world) := world.answer action
    (next answer).run world

/-- Run a script until it is about to write more files than a number allows; the result is missing
if it was stopped there. -/
def runFor : (writes : Nat) → Script α → World → Option (Except Failure α) × World
  | _, .done value, world => (some (.ok value), world)
  | _, .fail failure, world => (some (.error failure), world)
  | writes, .act action next, world =>
    if action.isWrite then
      match writes with
      | 0 => (none, world)
      | writes + 1 =>
        let (answer, world) := world.answer action
        runFor writes (next answer) world
    else
      let (answer, world) := world.answer action
      runFor writes (next answer) world

/-- A script that goes on runs in the world that its first part leaves behind. -/
theorem run_bind (script : Script α) (f : α → Script β) (world : World) :
    (script.bind f).run world =
      match script.run world with
      | (.ok value, world) => (f value).run world
      | (.error failure, world) => (.error failure, world) := by
  induction script generalizing world with
  | done value => rfl
  | fail failure => rfl
  | act action next ih => simp [bind, run, ih]

/-- A script whose failure is kept changes the world like the script itself. -/
theorem run_attempt (script : Script α) (world : World) :
    script.attempt.run world = (.ok (script.run world).1, (script.run world).2) := by
  induction script generalizing world with
  | done value => rfl
  | fail failure => rfl
  | act action next ih => simp [attempt, run, ih]

end Script

end CrudScaffold
