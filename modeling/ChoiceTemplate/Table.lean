import ChoiceTemplate.Choices
import ChoiceTemplate.Unicode.Width

/-
  Choices as a table in a frame.

  The table has a row for each choice: its index, its selector, its text, and `yes` for the one
  that supplies the default text. Each cell has a space on either side, columns are one more
  space apart, and a column is as wide as its widest line. A cell with line feeds makes its row
  several lines high.
-/
namespace ChoiceTemplate.Table

-- Sums start at the literal zero, whatever else is imported.
attribute [local instance (high)] Zero.ofOfNat0

/-- The headings of the columns. -/
def headings : List Text :=
  ["#".toList, "Selector".toList, "Text".toList, "Default".toList]

/-- The cells of the row of a choice, which is marked if it supplies the default text. -/
def rowCells (defaultIndex : Option Nat) (index : Nat) (item : Choice) : List Text :=
  [Text.ofNat index, item.selector, item.text,
    if defaultIndex = some index then "yes".toList else []]

/-- The cells of the rows of choices that are numbered from `index`. -/
def rowsFrom (defaultIndex : Option Nat) (index : Nat) : List Choice → List (List Text)
  | [] => []
  | item :: rest => rowCells defaultIndex index item :: rowsFrom defaultIndex (index + 1) rest

/-- The cells of all rows, without the headings. -/
def rows (c : Choices) : List (List Text) := rowsFrom c.defaultIndex 0 c.items

/-- The lines of a cell. -/
def cellLines (cell : Text) : List Text := Text.pieces ['\n'] cell

/-- The width of a cell. -/
def cellWidth (cell : Text) : Nat := ((cellLines cell).map Unicode.displayWidth).foldl max 0

/-- The widths of the columns of some rows. -/
def widths (rows : List (List Text)) : List Nat :=
  (List.range headings.length).map fun i =>
    (rows.map fun row => cellWidth (row.getD i [])).foldl max 0

/-- A line of a cell with spaces around it up to the width of its column. -/
def pad (width : Nat) (line : Text) : Text :=
  ' ' :: line ++ List.replicate (width - Unicode.displayWidth line) ' ' ++ [' ']

/-- The `i`-th line of a row. -/
def rowLine (widths : List Nat) (row : List Text) (i : Nat) : Text :=
  let cells := (widths.zip row).map fun (width, cell) => pad width ((cellLines cell).getD i [])
  '│' :: Text.join [' '] cells ++ ['│']

/-- The lines of a row. -/
def rowLines (widths : List Nat) (row : List Text) : List Text :=
  let height := (row.map fun cell => (cellLines cell).length).foldl max 0
  (List.range height).map (rowLine widths row)

/-- A line of the frame. -/
def rule (widths : List Nat) (left fill right : Char) : Text :=
  left :: List.replicate (widths.sum + 3 * widths.length - 1) fill ++ [right]

/-- The table of some choices, line by line. -/
def ofChoices (c : Choices) : List Text :=
  let rows := rows c
  let widths := widths (headings :: rows)
  rule widths '┌' '─' '┐' :: rowLines widths headings ++ rule widths '╞' '═' '╡' ::
    rows.flatMap (rowLines widths) ++ [rule widths '└' '─' '┘']

end ChoiceTemplate.Table
