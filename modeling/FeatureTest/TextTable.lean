import FeatureTest.Text.Width

/-!
Tables drawn with lines, for a terminal.
-/
namespace FeatureTest

inductive Alignment where
  | left
  | right
  deriving DecidableEq, Repr

inductive TableStyle where
  /-- Dashed lines between columns, and none between rows. -/
  | condensed
  /-- Solid lines between all cells. -/
  | ruled
  deriving DecidableEq, Repr

structure TextTable where
  style : TableStyle
  /-- The label of each column, and how its cells are aligned. -/
  columns : List (String × Alignment)
  rows : List (List String)

namespace TextTable

/-- The lines of a cell. -/
def cellLines (cell : String) : List String := (cell.toList.splitOn '\n').map String.ofList

def cellWidth (cell : String) : Nat := ((cellLines cell).map Text.width).foldr max 0

def header (t : TextTable) : List String := t.columns.map (·.1)

/-- The widest cell of a column. -/
def columnWidth (t : TextTable) (index : Nat) : Nat :=
  ((t.header :: t.rows).map fun row => cellWidth (row.getD index "")).foldr max 0

def widths (t : TextTable) : List Nat := (List.range t.columns.length).map t.columnWidth

def blanks (n : Nat) : String := String.ofList (List.replicate n ' ')

/-- A line of a cell, filled up with blanks to the width of its column. -/
def fill (alignment : Alignment) (width : Nat) (line : String) : String :=
  let gap := blanks (width - Text.width line)
  match alignment with
  | .left => line ++ gap
  | .right => gap ++ line

/-- A line drawn between rows. -/
def rule (widths : List Nat) (first line crossing last : String) : String :=
  let segments := widths.map fun w => String.join (List.replicate (w + 2) line)
  first ++ crossing.intercalate segments ++ last

def separator : TableStyle → String
  | .condensed => "┆"
  | .ruled => "│"

/-- The lines of a row, as many as its tallest cell has. -/
def rowLines (t : TextTable) (row : List String) : List String :=
  let cells := row.map cellLines
  let height := (cells.map (·.length)).foldr max 0
  (List.range height).map fun index =>
    let texts := ((t.columns.zip t.widths).zip cells).map fun (((_, alignment), width), lines) =>
      " " ++ fill alignment width (lines.getD index "") ++ " "
    "│" ++ (separator t.style).intercalate texts ++ "│"

def bodyLines (t : TextTable) : List String :=
  let between := match t.style with
    | .condensed => []
    | .ruled => [rule t.widths "├" "─" "┼" "┤"]
  between.intercalate (t.rows.map t.rowLines)

def lines (t : TextTable) : List String :=
  [rule t.widths "╭" "─" "┬" "╮"] ++ t.rowLines t.header ++ [rule t.widths "╞" "═" "╪" "╡"] ++
    t.bodyLines ++ [rule t.widths "╰" "─" "┴" "╯"]

def text (t : TextTable) : String := "\n".intercalate t.lines

end TextTable
end FeatureTest
