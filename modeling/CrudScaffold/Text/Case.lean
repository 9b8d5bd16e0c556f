import CrudScaffold.Text.CaseTable
import CrudScaffold.Text.CasedTable
import CrudScaffold.Text.Word

/-!
# Lower and upper case

The full Unicode mappings, in which one character may become several. The lower case of the capital
sigma is the one form that depends on its surroundings: it takes its final shape after a letter and
with none behind it, where accents and other marks are looked through on both sides.
-/

namespace CrudScaffold.Text

/-- The code points of a run. -/
def CaseRun.covers (run : CaseRun) (code : Nat) : Bool :=
  run.first ≤ code && code ≤ run.last && (code - run.first) % run.step == 0

/-- The image of a code point of a run. -/
def CaseRun.image (run : CaseRun) (code : Nat) : Nat := run.target + (code - run.first)

/-- The image of a character under a mapping given by its runs and its expansions. -/
def mapCase (runs : List CaseRun) (expansions : List (Nat × List Nat)) (c : Char) : List Char :=
  match expansions.lookup c.toNat with
  | some codes => codes.map Char.ofNat
  | none =>
    match runs.find? fun run => run.covers c.toNat with
    | some run => [Char.ofNat (run.image c.toNat)]
    | none => [c]

/-- The lower case of a character that stands alone. -/
def lowerChar (c : Char) : List Char :=
  if c.toNat < 128 then [c.toLower] else mapCase lowerRuns lowerExpansions c

/-- The upper case of a character. -/
def upperChar (c : Char) : List Char :=
  if c.toNat < 128 then [c.toUpper] else mapCase upperRuns upperExpansions c

/-- A letter with case, as the sigma rule counts it. -/
def isCased (c : Char) : Bool :=
  if c.toNat < 128 then c.isAlpha else inRanges casedRanges c.toNat

/-- A character that the sigma rule looks through. -/
def isCaseIgnorable (c : Char) : Bool := inRanges caseIgnorableRanges c.toNat

/-- Whether the next character that counts has case. -/
def casedAhead (text : List Char) : Bool :=
  match text.dropWhile isCaseIgnorable with
  | [] => false
  | c :: _ => isCased c

/-- The lower case of a character, given whether a letter stands before it and what follows it. -/
def lowerAt (casedBefore : Bool) (c : Char) (rest : List Char) : List Char :=
  if c = 'Σ' then [if casedBefore && !casedAhead rest then 'ς' else 'σ'] else lowerChar c

/-- The lower case of a text that follows a letter or not. -/
def lowerFrom : (casedBefore : Bool) → List Char → List Char
  | _, [] => []
  | casedBefore, c :: rest =>
    lowerAt casedBefore c rest ++
      lowerFrom (if isCaseIgnorable c then casedBefore else isCased c) rest

/-- The lower case of a text. -/
def lower (text : List Char) : List Char := lowerFrom false text

/-- The lower case of a string. -/
def lowered (text : String) : String := String.ofList (lower text.toList)

end CrudScaffold.Text
