import CallAtlas.Graph.Projection
import CallAtlas.Text.Split
import CallAtlas.Text.Width

/-!
# The entity table

`entityTable` lists the shown entities in a table with bars between the columns. A column is as wide
as its widest line, in display columns. A cell with line ends takes several lines.
-/

namespace CallAtlas.Report

/-- The lines of a cell. -/
abbrev Cell := List String

/-- The cell with a text. -/
def cell (text : String) : Cell :=
  (Text.splitOn '\n' text.toList).map String.ofList

/-- The width of a cell. -/
def cellWidth (c : Cell) : Nat :=
  (c.map Text.Width.ofString).foldl max 0

/-- A line filled up with blanks to a width. -/
def padTo (width : Nat) (line : String) : String :=
  line ++ String.ofList (List.replicate (width - Text.Width.ofString line) ' ')

/-- One line of a row. Each column gives its width and its line. -/
def tableLine (columns : List (Nat × String)) : String :=
  "|" ++ String.join (columns.map fun (width, line) => " " ++ padTo width line ++ " |")

/-- The lines of a row : as many as its highest cell has. -/
def rowLines (widths : List Nat) (row : List Cell) : List String :=
  (List.range ((row.map (·.length)).foldl max 0)).map fun i =>
    tableLine (widths.zip (row.map fun cell => cell[i]?.getD ""))

/-- The line between the header and the rows. -/
def ruleLine (widths : List Nat) : String :=
  "|" ++ String.join (widths.map fun width => String.ofList (List.replicate (width + 2) '-') ++ "|")

/-- The width of each column. -/
def columnWidths (rows : List (List Cell)) : List Nat :=
  rows.foldl (fun widths row => List.zipWith (fun w c => max w (cellWidth c)) widths row)
    ((rows.head?.getD []).map cellWidth)

/-- A table with a header, without a line end after its last line. -/
def table (header : List Cell) (rows : List (List Cell)) : String :=
  let widths := columnWidths (header :: rows)
  "\n".intercalate (rowLines widths header ++ [ruleLine widths] ++ rows.flatMap (rowLines widths))

/-- The row of an entity. -/
def entityRow (id : Nat) (e : Entity) : List Cell :=
  [cell (toString id), cell e.name, cell e.kind.name, cell e.file]

/-- The table of the shown entities. -/
def entityTable (p : Projection) : String :=
  table (["entityID", "name", "type", "import path"].map cell)
    (p.toList.map fun (id, e) => entityRow id e)

end CallAtlas.Report
