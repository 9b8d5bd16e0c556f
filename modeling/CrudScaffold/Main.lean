import CrudScaffold.CommandLine.Run

/-!
# The program

Runs the script of the command line on the files and the console of the machine. Everything that the
program decides is decided in the script; here its actions are carried out.
-/

namespace CrudScaffold

/-- The number of an error; some calls give it with a minus sign. -/
def unsignedNumber (code : UInt32) : Nat :=
  if code < 0x80000000 then code.toNat else 0x100000000 - code.toNat

/-- The number that the operating system gives to an error. -/
def errorNumber? : IO.Error → Option Nat
  | .alreadyExists _ code _ => some (unsignedNumber code)
  | .noFileOrDirectory _ code _ => some (unsignedNumber code)
  | .invalidArgument _ code _ => some (unsignedNumber code)
  | .inappropriateType _ code _ => some (unsignedNumber code)
  | _ => none

/-- The reasons for which a file action is refused, by their numbers. -/
def FileRefusal.ofNumber? (number : Nat) : Option FileRefusal :=
  [missing, alreadyThere, notDirectory, isDirectory, nameTooLong].find? fun reason =>
    reason.number? == some number

/-- The result of an action on a path, with an error that a script knows as an answer. -/
def refusable {α : Type} (path : Path) (action : String → IO α) : IO (Except FileRefusal α) := do
  if path.text.toList.contains '\x00' then return .error .nullCharacter
  try
    return .ok (← action path.text)
  catch error =>
    match (errorNumber? error).bind FileRefusal.ofNumber? with
    | some reason => return .error reason
    | none => throw error

/-- What stands at a path. A directory is what can be opened and not read. -/
def machineStatus (path : Path) : IO (Except FileRefusal EntryKind) := do
  let read ← refusable path fun name => do
    let handle ← IO.FS.Handle.mk name .read
    discard (handle.read 1)
  match read with
  | .ok () => return .ok .file
  | .error .isDirectory => return .ok .directory
  | .error reason => return .error reason

/-- The next line of the input, without its line feed. -/
def machineLine : IO (Option String) := do
  let line ← (← IO.getStdin).getLine
  if line.isEmpty then return none
  return some (String.ofList (line.toList.takeWhile (· != '\n')))

/-- Carry out an action. -/
def Action.perform : (action : Action) → IO action.Answer
  | .status path => machineStatus path
  | .read path => refusable path fun name => do return (← IO.FS.readBinFile name).toList
  | .makeDirectory path => refusable path fun name => IO.FS.createDir name
  | .write path content => refusable path fun name => IO.FS.writeBinFile name ⟨content.toArray⟩
  | .print text => do
    let output ← IO.getStdout
    output.putStr text
    output.flush
  | .readLine => machineLine
  | .readRest => do (← IO.getStdin).readToEnd

/-- Carry out a script. -/
def Script.perform {α : Type} : Script α → IO (Except Failure α)
  | .done value => return .ok value
  | .fail failure => return .error failure
  | .act action next => do
    let answer ← action.perform
    (next answer).perform

/-- The variables of the environment that settings look at. -/
def machineEnvironment : IO Environment :=
  Environment.keys.filterMapM fun name => do
    return (← IO.getEnv name).map fun text => (name, text)

/-- Run the program and end with its status. -/
def runMachine (arguments : List String) : IO UInt32 := do
  let environment ← machineEnvironment
  match ← (runProgram arguments environment).perform with
  | .ok outcome =>
    if outcome == .halted .help then IO.println Command.usage
    if let some complaint := outcome.complaint? then IO.eprintln complaint
    return UInt32.ofNat outcome.status
  | .error failure =>
    IO.eprintln failure.message
    return 1

end CrudScaffold

/-- Run the program. -/
def main (arguments : List String) : IO UInt32 := CrudScaffold.runMachine arguments
