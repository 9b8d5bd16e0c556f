import CrudScaffold.Text.Blank

/-!
# Lines and blocks

Two notions of line meet in a definition document. A block is cut into lines at every Unicode line
break, with a carriage return and the line feed after it counted as one. A document is cut into
blocks at blank lines, and there only the line feed counts: a separator is a line feed, any blanks,
and a last line feed, as long as possible.
-/

namespace CrudScaffold.Text

/-- The characters that end a line: line feed, vertical tab, form feed, carriage return, the file,
group and record separators, next line, and the line and paragraph separators. -/
def isLineBreak (c : Char) : Bool :=
  let code := c.toNat
  (10 ≤ code && code ≤ 13) || (28 ≤ code && code ≤ 30) || code == 0x85 || code == 0x2028 ||
    code == 0x2029

/-- The lines of a text, without their breaks. A break at the very end opens no further line. -/
def splitLines : List Char → List (List Char)
  | [] => []
  | '\r' :: '\n' :: rest => [] :: splitLines rest
  | c :: rest =>
    if isLineBreak c then [] :: splitLines rest
    else
      match splitLines rest with
      | [] => [[c]]
      | line :: lines => (c :: line) :: lines

/-- Write each carriage return that a line feed follows as that line feed alone. -/
def joinReturns : List Char → List Char
  | [] => []
  | '\r' :: '\n' :: rest => '\n' :: joinReturns rest
  | c :: rest => c :: joinReturns rest

/-- Write every carriage return, with the line feed after it if there is one, as a line feed. -/
def unifyNewlines : List Char → List Char
  | [] => []
  | '\r' :: '\n' :: rest => '\n' :: unifyNewlines rest
  | '\r' :: rest => '\n' :: unifyNewlines rest
  | c :: rest => c :: unifyNewlines rest

/-- Whether the blanks that open a text hold a line feed. -/
def newlineAhead (text : List Char) : Bool := (text.takeWhile isBlank).contains '\n'

/-- Put a character at the front of the first block. -/
def consBlock (c : Char) : List (List Char) → List (List Char)
  | [] => [[c]]
  | block :: blocks => (c :: block) :: blocks

/-- The blocks of a text in which a line feed is the only line break that separates. With
`skipping` the reader stands in a separator that some later line feed ends. -/
def blocksFrom : (skipping : Bool) → List Char → List (List Char)
  | _, [] => [[]]
  | true, _ :: rest => blocksFrom (newlineAhead rest) rest
  | false, c :: rest =>
    if c = '\n' && newlineAhead rest then [] :: blocksFrom true rest
    else consBlock c (blocksFrom false rest)

/-- The blocks of a document that are not blank, in order. -/
def blocks (document : List Char) : List (List Char) :=
  (blocksFrom false (joinReturns document)).filter fun block => !isBlankText block

/-- Every line break is a blank. -/
theorem isBlank_of_isLineBreak {c : Char} (h : isLineBreak c) : isBlank c := by
  simp only [isLineBreak, isBlank, Bool.or_eq_true, Bool.and_eq_true, decide_eq_true_eq,
    beq_iff_eq] at h ⊢
  omega

end CrudScaffold.Text
