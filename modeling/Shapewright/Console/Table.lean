import Shapewright.Console.Layout

/-!
# Tables

A table of two columns under a title.  The head stands in a box with heavy lines, the body in one
with light lines; the columns are as wide as their content, and the second one gives way if the
table does not fit on the console.
-/

namespace Shapewright.Console

/-- A table: its title, the head and the rows. -/
structure Table where
  title : Text
  head : Text × Text
  rows : List (Text × Text)
deriving DecidableEq

namespace Table

/-- The cells of a column. -/
def column (part : Text × Text → Text) (table : Table) : List Text :=
  (table.head :: table.rows).map part

/-- The cells that the content of a column needs. -/
def contentWidth (cells : List Text) : Nat := (cells.map Layout.measure).foldl max 0

/-- What a row has besides the content of its columns: three vertical lines and a blank on both
sides of every column. -/
def frameWidth : Nat := 7

/-- The widths of the content of the two columns on a console of a number of cells. -/
def widths (limit : Nat) (table : Table) : Nat × Nat :=
  let first := contentWidth (table.column Prod.fst)
  let second := contentWidth (table.column Prod.snd)
  (first, min second (limit - frameWidth - first))

/-- A horizontal line. -/
def rule (left line middle right : Char) (widths : Nat × Nat) : Text :=
  .char left :: List.replicate (widths.1 + 2) (.char line) ++ .char middle ::
    List.replicate (widths.2 + 2) (.char line) ++ [.char right]

/-- The lines of a cell. -/
def cellLines (width : Nat) (cell : Text) : List Text :=
  (Layout.wrap .ellipsis width cell).map fun line =>
    Layout.fit width (Layout.truncate .ellipsis width line)

/-- The lines of a row between vertical lines; the shorter cell is filled with blanks. -/
def rowLines (bar : Char) (widths : Nat × Nat) (row : Text × Text) : List Text :=
  let left := cellLines widths.1 row.1
  let right := cellLines widths.2 row.2
  (List.range (max left.length right.length)).map fun i =>
    [.char bar, .char ' '] ++ left[i]?.getD (Layout.blanks widths.1) ++
      [.char ' ', .char bar, .char ' '] ++ right[i]?.getD (Layout.blanks widths.2) ++
      [.char ' ', .char bar]

/-- The lines of a table on a console of a number of cells. -/
def lines (limit : Nat) (table : Table) : List Text :=
  let widths := table.widths limit
  let total := widths.1 + widths.2 + frameWidth
  (Layout.wrap .fold total table.title).map (Layout.center total) ++
    rule '┏' '━' '┳' '┓' widths :: rowLines '┃' widths table.head ++
    rule '┡' '━' '╇' '┩' widths :: table.rows.flatMap (rowLines '│' widths) ++
    [rule '└' '─' '┴' '┘' widths]

end Table

end Shapewright.Console
