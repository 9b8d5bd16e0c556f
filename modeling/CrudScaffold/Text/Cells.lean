import CrudScaffold.Text.WidthTable
import CrudScaffold.Text.Word

/-!
# Cells of a console

How wide a text is shown. A console is a grid of cells: most characters take one, those of the East
Asian scripts take two, and marks, format characters and controls take none. A character that takes
none belongs to the one before it, so a text is a row of clusters, and it is cut only between them.

`clusters_append` says that clusters lose nothing.
-/

namespace CrudScaffold.Text

/-- The cells that a character takes. Most text is ASCII, which the first tests settle. -/
def charWidth (c : Char) : Nat :=
  let code := c.toNat
  if code < 32 then 0
  else if code < 127 then 1
  else if code < 160 || inRanges zeroWidthRanges code then 0
  else if inRanges wideRanges code then 2
  else 1

/-- Characters that are shown as one. -/
structure Cluster where
  /-- The characters. -/
  chars : List Char
  /-- The cells that they take together. -/
  width : Nat
deriving DecidableEq, Repr

/-- The zero width joiner, which draws the character after it into the one before. -/
def isJoiner (c : Char) : Bool := c.toNat == 0x200D

/-- The clusters of a text of which one has begun. The next character belongs to that one if it is
`joined` to it, and if it takes no cell. -/
def clustersFrom (begun : Cluster) (joined : Bool) : List Char → List Cluster
  | [] => [begun]
  | c :: rest =>
    if joined || charWidth c == 0 then
      clustersFrom ⟨begun.chars ++ [c], begun.width⟩ (isJoiner c && !joined) rest
    else begun :: clustersFrom ⟨[c], charWidth c⟩ false rest

/-- The clusters of a text. The first holds the characters, none as a rule, that take no cell at
its start. -/
def clusters (text : List Char) : List Cluster := clustersFrom ⟨[], 0⟩ false text

/-- The cells that a text takes. -/
def cellCount (text : List Char) : Nat :=
  (clusters text).foldr (fun cluster count => cluster.width + count) 0

/-- The clusters that fit into a number of cells. Half of a wide one is shown as a blank. -/
def firstCells (count : Nat) : List Cluster → List Char
  | [] => []
  | cluster :: rest =>
    if cluster.width ≤ count then cluster.chars ++ firstCells (count - cluster.width) rest
    else List.replicate count ' '

/-- Clusters from a cluster on hold its characters and those of the text. -/
theorem clustersFrom_append (begun : Cluster) (joined : Bool) (text : List Char) :
    (clustersFrom begun joined text).flatMap Cluster.chars = begun.chars ++ text := by
  induction text generalizing begun joined with
  | nil => simp [clustersFrom]
  | cons c rest ih =>
    rw [clustersFrom]
    split <;> simp [ih]

/-- The characters of the clusters of a text are those of the text, in order. -/
theorem clusters_append (text : List Char) : (clusters text).flatMap Cluster.chars = text := by
  rw [clusters, clustersFrom_append, List.nil_append]

end CrudScaffold.Text
