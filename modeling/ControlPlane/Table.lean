import ControlPlane.Text.Pieces
import ControlPlane.Text.Width

/-!
# Tables of text

Rows of cells between lines of dashes and bars. A cell may have several lines; a column is as
wide as its widest line, and a row as high as its highest cell.

Main statement: `length_padTo` — a line of printable ASCII characters is padded to the width of its
column.
-/
namespace ControlPlane.Table

/-- The lines of a cell. -/
def linesOf (cell : String) : List (List Char) :=
  Text.splitAt '\n' cell.toList

/-- The width of a cell. -/
def cellWidth (cell : String) : Nat :=
  (linesOf cell).foldl (fun widest line => max widest (Text.width line)) 0

/-- The widths of columns that fit all rows. -/
def columnWidths : List (List String) → List Nat
  | [] => []
  | [row] => row.map cellWidth
  | row :: rest => List.zipWith max (row.map cellWidth) (columnWidths rest)

/-- A line of a cell, filled up with blanks. -/
def padTo (width : Nat) (line : List Char) : List Char :=
  line ++ List.replicate (width - Text.width line) ' '

/-- The line between two rows. -/
def border (widths : List Nat) : List Char :=
  widths.flatMap (fun width => '+' :: List.replicate (width + 2) '-') ++ ['+']

/-- One line of a row. -/
def rowLine (widths : List Nat) (row : List String) (index : Nat) : List Char :=
  (List.zipWith (fun width cell =>
    '|' :: ' ' :: padTo width ((linesOf cell).getD index []) ++ [' ']) widths row).flatten ++ ['|']

/-- The number of lines of a row. -/
def rowHeight (row : List String) : Nat :=
  row.foldl (fun height cell => max height (linesOf cell).length) 1

/-- The lines of a row. -/
def rowLines (widths : List Nat) (row : List String) : List (List Char) :=
  (List.range (rowHeight row)).map (rowLine widths row)

/-- A table with a header. -/
def render (header : List String) (rows : List (List String)) : String :=
  let all := header :: rows
  let widths := columnWidths all
  let lines := all.flatMap fun row => rowLines widths row ++ [border widths]
  "\n".intercalate ((border widths :: lines).map String.ofList)

theorem length_padTo {width : Nat} {line : List Char}
    (h : ∀ c ∈ line, Text.isPrintableAscii c = true) (hfits : line.length ≤ width) :
    (padTo width line).length = width := by
  simp only [padTo, Text.width_of_printable h, List.length_append, List.length_replicate]
  omega

end ControlPlane.Table
