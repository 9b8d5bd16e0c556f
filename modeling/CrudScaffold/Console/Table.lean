import CrudScaffold.Console.Message
import CrudScaffold.Text.Lines
import CrudScaffold.Text.Wrap

/-!
# Tables

A table is drawn with lines between its columns and under its header. A column is as wide as the
widest line of its cells, each cell stands at the left with a blank on both sides, and the title is
centred over the whole. A cell of several lines makes its row higher.

A column is measured with every line break, and a cell is drawn with the line feed alone: another
line break is a blank there, at which the cell may have to be wrapped.
-/

namespace CrudScaffold.Console

/-- A table. -/
structure Table where
  /-- The title, which is left out if it is empty. -/
  title : String
  /-- The names of the columns. -/
  header : List String
  /-- The cells, row by row. -/
  rows : List (List String)
deriving DecidableEq, Repr

namespace Table

/-- The cells that a text takes in a column. -/
def cellWidth (cell : String) : Nat :=
  ((Text.splitLines (plain cell).toList).map Text.cellCount).foldl max 0

/-- The widths of the columns. -/
def widths (table : Table) : List Nat :=
  table.rows.foldl (fun widths row => List.zipWith max widths (row.map cellWidth))
    (table.header.map cellWidth)

/-- A line of the grid: its two ends, its crossings, and what it is drawn with. -/
def rule (left line cross right : Char) (widths : List Nat) : List Char :=
  left :: [cross].intercalate (widths.map fun width => List.replicate (width + 2) line) ++ [right]

/-- A line of cells, between bars. -/
def cellsLine (bar : Char) (widths : List Nat) (cells : List (List Char)) : List Char :=
  bar :: [bar].intercalate
    (List.zipWith (fun width cell => ' ' :: Text.atLeft width cell ++ [' ']) widths cells) ++ [bar]

/-- The lines of a row. -/
def rowLines (bar : Char) (widths : List Nat) (row : List String) : List (List Char) :=
  let cells :=
    List.zipWith (fun width cell => Text.wrapped .ellipsis width (plain cell).toList) widths row
  let height := (cells.map List.length).foldl max 0
  (List.range height).map fun line =>
    cellsLine bar widths (cells.map fun lines => (lines[line]?).getD [])

/-- The lines of the title, centred. -/
def titleLines (table : Table) (width : Nat) : List (List Char) :=
  if table.title.isEmpty then []
  else (Text.wrapped .fold width (plain table.title).toList).map (Text.centred width)

/-- The lines of a table. -/
def lines (table : Table) : List (List Char) :=
  let widths := table.widths
  let top := rule '┏' '━' '┳' '┓' widths
  table.titleLines top.length ++
    top :: rowLines '┃' widths table.header ++
    rule '┡' '━' '╇' '┩' widths ::
    table.rows.flatMap (rowLines '│' widths) ++
    [rule '└' '─' '┴' '┘' widths]

/-- A table as a text of several lines. -/
def text (table : Table) : String :=
  "\n".intercalate (table.lines.map String.ofList)

end Table

end CrudScaffold.Console
