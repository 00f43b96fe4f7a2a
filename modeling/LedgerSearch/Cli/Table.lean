import LedgerSearch.Text.Width

/-!
# `LedgerSearch.Cli.Table`: tables with rules

A table has a header and rows of cells. A column is as wide as its widest line, with a blank on both
sides, and nothing is wrapped or cut. A cell may hold line breaks; its row is then as high as its
highest cell. Double rules set the header off, and there is no rule between rows.
-/

set_option autoImplicit false

namespace LedgerSearch.Cli

/-- The side at which the lines of a cell stand. -/
inductive Alignment
  | left
  | right
deriving DecidableEq, Repr

/-- A cell of a table. -/
structure Cell where
  text : String
  alignment : Alignment := .left
deriving DecidableEq, Repr

namespace Cell

/-- The lines of the cell, at least one. -/
def lines (c : Cell) : List String :=
  (c.text.toList.splitOn '\n').map String.ofList

/-- The columns of its widest line. -/
def width (c : Cell) : Nat :=
  (c.lines.map Text.width).foldl max 0

/-- A line of the cell in a column of the given width, between two blanks. -/
def pad (c : Cell) (width : Nat) (line : String) : String :=
  let blanks := String.ofList (List.replicate (width - Text.width line) ' ')
  match c.alignment with
  | .left => " " ++ line ++ blanks ++ " "
  | .right => " " ++ blanks ++ line ++ " "

end Cell

/-- A table. Every row has a cell for each column of the header. -/
structure Table where
  header : List Cell
  rows : List (List Cell)
deriving Repr

namespace Table

/-- The width of each column. -/
def widths (t : Table) : List Nat :=
  t.rows.foldl (fun widths row => List.zipWith max widths (row.map Cell.width))
    (t.header.map Cell.width)

/-- A horizontal rule: its two ends, the line itself and its crossings with the column rules. -/
def rule (widths : List Nat) (left line crossing right : Char) : String :=
  let parts := widths.map fun width => List.replicate (width + 2) line
  String.ofList (left :: ([crossing].intercalate parts ++ [right]))

/-- One line of a row. -/
def rowLine (widths : List Nat) (row : List Cell) (index : Nat) : String :=
  let parts := List.zipWith (fun width cell => cell.pad width (cell.lines.getD index "")) widths row
  "│" ++ String.intercalate "┆" parts ++ "│"

/-- The lines of a row. -/
def rowLines (widths : List Nat) (row : List Cell) : List String :=
  let height := (row.map fun cell => cell.lines.length).foldl max 0
  (List.range height).map (rowLine widths row)

/-- The table, line by line. -/
def lines (t : Table) : List String :=
  let widths := t.widths
  [rule widths '┌' '─' '┬' '┐'] ++ rowLines widths t.header ++ [rule widths '╞' '═' '╪' '╡']
    ++ t.rows.flatMap (rowLines widths) ++ [rule widths '└' '─' '┴' '┘']

end Table

end LedgerSearch.Cli
