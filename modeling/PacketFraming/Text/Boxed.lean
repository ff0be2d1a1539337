import PacketFraming.Text.Wrapped

/-! Tables drawn with box characters.

A table has a heading row and any number of body rows. Every column is as wide as the
widest line of any of its cells, with one blank on both sides, and a cell of several lines
makes its row that many lines high. No column is wider than `maxColumnWidth`: longer lines
are broken. -/

namespace PacketFraming.Text

/-- A table of cells; each row is read against the heading's columns. -/
structure BoxedTable where
  heading : List String
  rows : List (List String)

namespace BoxedTable

def maxColumnWidth : Nat := 65535

def cellLines (cell : String) : List (List Char) :=
  pieces '\n' cell.toList

/-- The width of a cell: that of its widest line, up to the widest column. -/
def cellWidth (cell : String) : Nat :=
  min maxColumnWidth (((cellLines cell).map width).foldl max 0)

def columnWidths (table : BoxedTable) : List Nat :=
  table.rows.foldl
    (fun widths row => widths.zipWith max (row.map cellWidth))
    (table.heading.map cellWidth)

/-- The length of a rule along a column, which covers the blanks on both sides but is no
longer than the widest column. -/
def ruleLength (columnWidth : Nat) : Nat :=
  min maxColumnWidth (columnWidth + 2)

/-- A line padded with blanks to its column, with one blank on both sides. Below the last
line of a cell the column is blank, along the length of its rule. -/
def padded (columnWidth : Nat) : Option (List Char) → List Char
  | some line => ' ' :: line ++ List.replicate (columnWidth - width line) ' ' ++ [' ']
  | none => List.replicate (ruleLength columnWidth) ' '

def textLine (widths : List Nat) (lines : List (Option (List Char))) : List Char :=
  '│' :: (List.intercalate ['┆'] (widths.zipWith padded lines)) ++ ['│']

def rowLines (widths : List Nat) (row : List String) : List (List Char) :=
  let cells := widths.zipWith
    (fun columnWidth cell => (cellLines cell).flatMap (wrap columnWidth)) row
  let height := (cells.map List.length).foldl max 0
  (List.range height).map fun index =>
    textLine widths (cells.map fun lines => lines[index]?)

def rule (widths : List Nat) (first fill joint last : Char) : List Char :=
  first :: (List.intercalate [joint] (widths.map fun columnWidth =>
    List.replicate (ruleLength columnWidth) fill)) ++ [last]

/-- All lines of the table. Body rows are separated by a dashed rule, and a table without
body rows ends right after the heading's double rule. -/
def lines (table : BoxedTable) : List (List Char) :=
  let widths := table.columnWidths
  let body := table.rows.map (rowLines widths)
  [rule widths '┌' '─' '┬' '┐'] ++ rowLines widths table.heading ++
    [rule widths '╞' '═' '╪' '╡'] ++
    List.intercalate [rule widths '├' '╌' '┼' '┤'] body ++
    [rule widths '└' '─' '┴' '┘']

def render (table : BoxedTable) : String :=
  String.ofList (table.lines.flatMap fun line => line ++ ['\n'])

end BoxedTable

end PacketFraming.Text
