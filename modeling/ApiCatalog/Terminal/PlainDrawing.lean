import ApiCatalog.Terminal.Table
import ApiCatalog.Text.Split
import ApiCatalog.Text.Width

/-!
# Plain drawings of tables

The drawing the program runs with. A table stands between rules. Every column is as wide as its
widest cell, with a space on both sides of the cell and one between columns. No cell is colored and
no line is broken, however narrow the screen is. What is said of listings holds for every drawing.
-/

namespace ApiCatalog

namespace Table

/-- The lines of a cell. -/
def cellLines (cell : String) : List String :=
  (Text.splitOn '\n' cell.toList).map String.ofList

/-- The width of a cell. -/
def cellWidth (cell : String) : Nat :=
  ((cellLines cell).map Text.displayWidth).foldl max 0

/-- The width of every column. -/
def widths (table : Table) : List Nat :=
  table.rows.foldl (fun widths row => List.zipWith max widths (row.map cellWidth))
    (table.columns.map fun column => cellWidth column.header)

/-- A line of dashes. -/
def dashes (width : Nat) : String :=
  String.ofList (List.replicate width '─')

/-- A number of spaces. -/
def spaces (width : Nat) : String :=
  String.ofList (List.replicate width ' ')

/-- The rule with a gap between columns. -/
def rule (widths : List Nat) : String :=
  " ".intercalate (widths.map fun width => dashes (width + 2))

/-- The rule without gaps. -/
def headerRule (widths : List Nat) : String :=
  dashes (widths.foldl (fun total width => total + (width + 2)) 0 + (widths.length - 1))

/-- One line of a cell, filled up to the width of its column. -/
def alignLine (width : Nat) (alignsRight : Bool) (line : String) : String :=
  let fill := spaces (width - Text.displayWidth line)
  if alignsRight then " " ++ fill ++ line ++ " " else " " ++ line ++ fill ++ " "

/-- The lines of a row. Cells with fewer lines than others end in blank ones. -/
def rowLines (widths : List Nat) (aligns : List Bool) (cells : List String) : List String :=
  let columns := List.zip widths (List.zip aligns (cells.map cellLines))
  let height := (columns.map fun (_, _, lines) => lines.length).foldl max 0
  (List.range height).map fun index =>
    " ".intercalate <| columns.map fun (width, alignsRight, lines) =>
      alignLine width alignsRight (lines.getD index "")

/-- The lines of a table that is drawn plainly. -/
def plainLines (table : Table) : List String :=
  let widths := table.widths
  let header := rowLines widths (table.columns.map fun _ => false)
    (table.columns.map Column.header)
  let aligns := table.columns.map Column.alignsRight
  [rule widths] ++ header ++ [headerRule widths] ++
    table.rows.flatMap (rowLines widths aligns) ++ [rule widths]

/-- Tables are drawn without colors, and lines are as long as their tables are wide. -/
@[reducible]
def plainDrawing : Drawing where
  draw _ _ table := "\n".intercalate table.plainLines

end Table

end ApiCatalog
