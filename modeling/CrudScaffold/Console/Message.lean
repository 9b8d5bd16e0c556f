import CrudScaffold.Script.Basic
import CrudScaffold.Text.Lines
import CrudScaffold.Text.Wrap

/-!
# Messages on the console

What is printed for the user. The bell, the backspace, the vertical tab, the form feed and the
carriage return would move the cursor, so they are left out of every text. A message is wrapped at
the width of the console, source text is cropped there, and a document is printed as it is.
-/

namespace CrudScaffold.Console

/-- Whether a character would move the cursor. -/
def movesCursor (c : Char) : Bool := [7, 8, 11, 12, 13].contains c.toNat

/-- A text without the characters that would move the cursor. -/
def plain (text : String) : String := String.ofList (text.toList.filter fun c => !movesCursor c)

/-- The width of the console, in cells. -/
def screenWidth : Nat := 1000

/-- Lines as one text, none of them wider than the console. -/
def fitted (lines : List (List Char)) : String :=
  "\n".intercalate (lines.map fun line => String.ofList (Text.cropped .fold screenWidth line))

/-- A message as it is shown. -/
def shown (message : String) : String :=
  fitted (Text.wrapped .fold screenWidth (plain message).toList)

/-- Source text as it is shown. A carriage return ends a line there, as a line feed does, and a tab
goes on to the next multiple of four characters. -/
def shownSource (source : String) : String :=
  let lines := (Text.unifyNewlines source.toList).splitOn '\n'
  fitted (lines.map fun line =>
    let line := Text.expandTabsFrom 4 (fun _ => 1) 0 line
    Text.cropBlanks screenWidth (plain (String.ofList line)).toList)

/-- Print a text and leave the line open. -/
def prompt (text : String) : Script Unit := Script.ask (.print (shown text))

/-- Print a message. -/
def say (message : String) : Script Unit := Script.ask (.print (shown message ++ "\n"))

/-- Print source text. -/
def saySource (source : String) : Script Unit := Script.ask (.print (shownSource source ++ "\n"))

/-- Print a document. -/
def sayDocument (document : String) : Script Unit :=
  Script.ask (.print (plain document ++ "\n"))

/-- A message as it is shown at the end of a line: a single backslash there is doubled. -/
def guarded (message : String) : String :=
  match message.toList.reverse with
  | ['\\'] => message ++ "\\"
  | '\\' :: c :: _ => if c = '\\' then message else message ++ "\\"
  | _ => message

/-- Print the message of a failure. -/
def sayError (message : String) : Script Unit := say ("Error: " ++ guarded message)

end CrudScaffold.Console
