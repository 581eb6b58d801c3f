import LogQuery.Report.Columns
import LogQuery.Text.Split

/-!
# Drawn tables

A table drawn with dashes and bars: a row of titles above a double line and rows of cells with a
line below each. Every column is as wide as the widest line of its cells, measured in the columns of
a terminal, and every row as high as the highest of its cells, but at least one line. Even a table
without columns has its outer bars.
-/

namespace LogQuery.Report

open Text

/-- The side on which the text of a cell stands. -/
inductive Side where
  | left
  | right

/-- A cell of a drawn table. -/
structure Cell where
  /-- The text, which may have several lines. -/
  text : List Char
  /-- The side on which the text stands. -/
  side : Side := .left

/-- A table to be drawn. Its rows have a cell for each title. -/
structure Grid where
  titles : List Cell
  rows : List (List Cell)

namespace Cell

/-- The lines of a cell. -/
def lines (cell : Cell) : List (List Char) := Text.lines cell.text

/-- How wide the widest line of a cell is. -/
def width (cell : Cell) : Nat := (cell.lines.map columns).foldl max 0

/-- A line of a cell, filled with blanks to the given width. -/
def draw (cell : Cell) (line width : Nat) : List Char :=
  let text := (cell.lines[line]?).getD []
  let fill := List.replicate (width - columns text) ' '
  match cell.side with
  | .left => text ++ fill
  | .right => fill ++ text

end Cell

/-- How high a row is. -/
def rowHeight (row : List Cell) : Nat := (row.map (·.lines.length)).foldl max 1

/-- A horizontal line across columns of the given widths. -/
def ruler (mark : Char) (widths : List Nat) : List Char :=
  '+' :: (joined ['+'] (widths.map fun width => List.replicate (width + 2) mark) ++ ['+', '\n'])

/-- A line of a row. -/
def rowLine (widths : List Nat) (row : List Cell) (line : Nat) : List Char :=
  let cells := row.zipWith (fun cell width => ' ' :: (cell.draw line width ++ [' '])) widths
  '|' :: (joined ['|'] cells ++ ['|', '\n'])

/-- The lines of a row. -/
def drawRow (widths : List Nat) (row : List Cell) : List Char :=
  (List.range (rowHeight row)).flatMap (rowLine widths row)

namespace Grid

/-- How wide the columns are. -/
def widths (grid : Grid) : List Nat :=
  grid.rows.foldl (fun widths row => widths.zipWith max (row.map Cell.width))
    (grid.titles.map Cell.width)

/-- The drawing of a table. -/
def draw (grid : Grid) : List Char :=
  let widths := grid.widths
  let thin := ruler '-' widths
  let body := if grid.rows.isEmpty then thin else grid.rows.flatMap (drawRow widths · ++ thin)
  thin ++ drawRow widths grid.titles ++ ruler '=' widths ++ body

end Grid

end LogQuery.Report
