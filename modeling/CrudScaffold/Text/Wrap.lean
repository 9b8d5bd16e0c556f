import CrudScaffold.Text.Blank
import CrudScaffold.Text.Cells

/-!
# Wrapped text

A line that is too wide is broken between words. A word goes onto the line if it fits without the
blanks after it, and begins another line otherwise. A word that fits on no line is folded into
pieces, or it is kept and cut off with an ellipsis.

`flatten_words` and `flatten_fill` say that breaking loses nothing; only then are blanks and cells
beyond the width dropped.
-/

namespace CrudScaffold.Text

/-- What becomes of a word that fits on no line. -/
inductive Overflow
  /-- It goes on on further lines. -/
  | fold
  /-- It ends in an ellipsis. -/
  | ellipsis
deriving DecidableEq, Repr

/-- Put a character in front of runs: it joins the first one, unless it is a blank and that one
begins with none. -/
def consRun (c : Char) : List (List Char) → List (List Char)
  | (d :: run) :: runs =>
    if isBlank c && !isBlank d then [c] :: (d :: run) :: runs else (c :: d :: run) :: runs
  | runs => [c] :: runs

/-- A text cut before each character that is not blank and follows a blank. -/
def runs (text : List Char) : List (List Char) := text.foldr consRun []

/-- The words of a text, each with the blanks after it. The first also has those before it. -/
def words (text : List Char) : List (List Char) :=
  match runs text with
  | first :: second :: rest =>
    if isBlankText first then (first ++ second) :: rest else first :: second :: rest
  | few => few

/-- Go on with a line of which some cells are used, and open another where a cluster is too wide. -/
def foldFrom (width : Nat) (line : List Char) (used : Nat) : List Cluster → List (List Char)
  | [] => [line]
  | cluster :: rest =>
    if used + cluster.width ≤ width then
      foldFrom width (line ++ cluster.chars) (used + cluster.width) rest
    else line :: foldFrom width cluster.chars cluster.width rest

/-- A word in pieces, each as long as the width allows. -/
def folded (width : Nat) (word : List Char) : List (List Char) :=
  foldFrom width [] 0 (clusters word)

/-- The cells that a word has to have on a line. -/
def needed (word : List Char) : Nat := cellCount (trimEnd word)

/-- The pieces in which a word stands on lines of its own. -/
def pieces (overflow : Overflow) (width : Nat) (word : List Char) : List (List Char) :=
  match overflow with
  | .fold => if width < needed word then folded width word else [word]
  | .ellipsis => [word]

/-- The line that is open, if there is anything on it. -/
def opened (line : List Char) : List (List Char) := if line.isEmpty then [] else [line]

/-- Go on with a line of which some cells are used, and open another where a word does not fit. -/
def fillFrom (overflow : Overflow) (width : Nat) (line : List Char) (used : Nat) :
    List (List Char) → List (List Char)
  | [] => [line]
  | word :: rest =>
    if used + needed word ≤ width then
      fillFrom overflow width (line ++ word) (used + cellCount word) rest
    else
      let pieces := pieces overflow width word
      let last := pieces.getLastD []
      opened line ++ pieces.dropLast ++ fillFrom overflow width last (cellCount last) rest

/-- A line broken into lines. -/
def fill (overflow : Overflow) (width : Nat) (line : List Char) : List (List Char) :=
  fillFrom overflow width [] 0 (words line)

/-- A line without blanks at its end, as far as it has more characters than the width. -/
def cropBlanks (width : Nat) (line : List Char) : List Char :=
  let blanks := line.length - (trimEnd line).length
  line.take (line.length - min blanks (line.length - width))

/-- A line that is no wider than the width. -/
def cropped (overflow : Overflow) (width : Nat) (line : List Char) : List Char :=
  if cellCount line ≤ width then line
  else
    match overflow with
    | .fold => firstCells width (clusters line)
    | .ellipsis => firstCells (width - 1) (clusters line) ++ ['…']

/-- A line in which blanks up to the next stop stand for each tab, from a column on. How many
columns other characters take is given. -/
def expandTabsFrom (stop : Nat) (columns : Char → Nat) (column : Nat) : List Char → List Char
  | [] => []
  | c :: rest =>
    if c = '\t' then
      List.replicate (stop - column % stop) ' ' ++ expandTabsFrom stop columns 0 rest
    else c :: expandTabsFrom stop columns (column + columns c) rest

/-- The lines of a text in a width. A tab goes on to the next multiple of eight cells. -/
def wrapped (overflow : Overflow) (width : Nat) (text : List Char) : List (List Char) :=
  (text.splitOn '\n').flatMap fun line =>
    (fill overflow width (expandTabsFrom 8 charWidth 0 line)).map (cropBlanks width)

/-- A line filled up with blanks at its end. -/
def filled (width : Nat) (line : List Char) : List Char :=
  line ++ List.replicate (width - cellCount line) ' '

/-- A line that takes just the width, cut off with an ellipsis if it is too wide. It is filled up
twice, because a joiner at its end draws the first blank into the cell before. -/
def atLeft (width : Nat) (line : List Char) : List Char :=
  filled width (filled width (cropped .ellipsis width line))

/-- A line between blanks. -/
def centred (width : Nat) (line : List Char) : List Char :=
  let line := cropped .fold width (trimEnd line)
  filled width (List.replicate ((width - cellCount line) / 2) ' ' ++ line)

/-- A character in front of runs stands in front of their characters. -/
theorem flatten_consRun (c : Char) (runs : List (List Char)) :
    (consRun c runs).flatten = c :: runs.flatten := by
  unfold consRun
  split
  · split <;> simp
  · simp

/-- Cutting into runs loses nothing. -/
theorem flatten_runs (text : List Char) : (runs text).flatten = text := by
  induction text with
  | nil => rfl
  | cons c rest ih => simpa [runs, flatten_consRun] using ih

/-- Cutting into words loses nothing. -/
theorem flatten_words (text : List Char) : (words text).flatten = text := by
  have kept := flatten_runs text
  unfold words
  split
  · rename_i first second rest found
    rw [found] at kept
    split <;> simpa using kept
  · exact kept

/-- Folding loses nothing. -/
theorem flatten_foldFrom (width : Nat) (line : List Char) (used : Nat) (clusters : List Cluster) :
    (foldFrom width line used clusters).flatten = line ++ clusters.flatMap Cluster.chars := by
  induction clusters generalizing line used with
  | nil => simp [foldFrom]
  | cons cluster rest ih =>
    rw [foldFrom]
    split <;> simp [ih]

/-- The pieces of a word hold all of it. -/
theorem flatten_pieces (overflow : Overflow) (width : Nat) (word : List Char) :
    (pieces overflow width word).flatten = word := by
  unfold pieces
  split
  · split
    · rw [folded, flatten_foldFrom, clusters_append, List.nil_append]
    · simp
  · simp

/-- All lists but the last, and then the last. -/
theorem flatten_dropLast_append (lists : List (List Char)) :
    lists.dropLast.flatten ++ lists.getLastD [] = lists.flatten := by
  cases lists with
  | nil => rfl
  | cons first rest =>
    rw [List.getLastD_eq_getLast?, List.getLast?_eq_some_getLast (List.cons_ne_nil first rest)]
    rw [Option.getD_some]
    conv => rhs; rw [← List.dropLast_concat_getLast (List.cons_ne_nil first rest)]
    simp

/-- Filling lines loses nothing. -/
theorem flatten_fillFrom (overflow : Overflow) (width : Nat) (line : List Char) (used : Nat)
    (words : List (List Char)) :
    (fillFrom overflow width line used words).flatten = line ++ words.flatten := by
  induction words generalizing line used with
  | nil => simp [fillFrom]
  | cons word rest ih =>
    rw [fillFrom]
    split
    · simp [ih]
    · have open_line : (opened line).flatten = line := by
        unfold opened
        split <;> simp_all
      have whole := flatten_dropLast_append (pieces overflow width word)
      rw [flatten_pieces] at whole
      simp only [List.flatten_append, ih, open_line, List.flatten_cons, List.append_assoc]
      rw [← List.append_assoc _ _ rest.flatten, whole]

/-- Breaking a line loses nothing. -/
theorem flatten_fill (overflow : Overflow) (width : Nat) (line : List Char) :
    (fill overflow width line).flatten = line := by
  rw [fill, flatten_fillFrom, flatten_words, List.nil_append]

end CrudScaffold.Text
