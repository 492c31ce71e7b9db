import OneBit.Text.Width

/-!
# Tables

A table drawn with box characters: a frame, a double line under the header, and a dashed line
between rows. A column is as wide as its widest cell, with a blank on either side. A cell may have
several lines.
-/

namespace OneBit.Text

structure Table where
  header : List String
  /-- A row with fewer cells than the header has empty ones at its end. -/
  rows : List (List String)

namespace Table

/-- The lines of a cell. -/
def cellLines (cell : String) : List String :=
  cell.splitOn "\n"

/-- The cells that a cell's widest line takes. -/
def cellWidth (cell : String) : Nat :=
  (cellLines cell).foldl (fun w line => max w (width line)) 0

def padRight (w : Nat) (line : String) : String :=
  line ++ String.ofList (List.replicate (w - width line) ' ')

/-- The row with as many cells as the table has columns. -/
def complete (t : Table) (row : List String) : List String :=
  row ++ List.replicate (t.header.length - row.length) ""

/-- The width of each column. -/
def columnWidths (t : Table) : List Nat :=
  t.rows.foldl
    (fun ws row => List.zipWith (fun w cell => max w (cellWidth cell)) ws (t.complete row))
    (t.header.map cellWidth)

/-- A horizontal line: its left end, its stroke, its crossings and its right end. -/
def rule (left stroke crossing right : String) (widths : List Nat) : String :=
  left
    ++ String.intercalate crossing (widths.map fun w => String.join (List.replicate (w + 2) stroke))
    ++ right

/-- The lines of a row. -/
def rowLines (widths : List Nat) (row : List String) : List String :=
  let cells := row.map cellLines
  let height := cells.foldl (fun h lines => max h lines.length) 1
  (List.range height).map fun i =>
    "│" ++ String.intercalate "┆" (List.zipWith
      (fun w lines => " " ++ padRight w (lines.getD i "") ++ " ") widths cells) ++ "│"

/-- The table, without a line end after it. -/
def render (t : Table) : String :=
  let widths := t.columnWidths
  let between := rule "├" "╌" "┼" "┤" widths
  let body := t.rows.map fun row => rowLines widths (t.complete row)
  String.intercalate "\n"
    ([rule "┌" "─" "┬" "┐" widths] ++ rowLines widths t.header ++ [rule "╞" "═" "╪" "╡" widths]
      ++ (body.intersperse [between]).flatten ++ [rule "└" "─" "┴" "┘" widths])

end Table

end OneBit.Text
