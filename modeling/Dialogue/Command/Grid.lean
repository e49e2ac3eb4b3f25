import Dialogue.Text.Pieces
import Dialogue.Text.Width

/-!
# Tables of text

Tables of text with lines drawn around the cells.
-/

namespace Dialogue.Command

/-- The lines of a text. -/
def textLines (s : String) : List String := (Text.pieces '\n' s.toList).map String.ofList

def spaces (n : Nat) : String := String.ofList (List.replicate n ' ')

/-- A text filled up with blanks. -/
def padded (width : Nat) (s : String) : String := s ++ spaces (width - Text.width s)

/-- The widths of the columns of rows. -/
def columnWidths (rows : List (List String)) (columns : Nat) : List Nat :=
  (List.range columns).map fun k =>
    (rows.flatMap fun row => (textLines (row[k]?.getD "")).map Text.width).foldl max 0

/-- A line of cells. -/
def cellLine (widths : List Nat) (cells : List String) : String :=
  "| " ++ " | ".intercalate ((widths.zip cells).map fun (w, s) => padded w s) ++ " |"

/-- The lines of a row, as many as its highest cell has. -/
def rowLines (widths : List Nat) (row : List String) : List String :=
  let cells := row.map textLines
  let height := (cells.map List.length).foldl max 0
  (List.range height).map fun k => cellLine widths (cells.map fun lines => lines[k]?.getD "")

/-- A line between rows, with marks at the ends and between the columns. -/
def ruler (widths : List Nat) (edge fill cross : String) : String :=
  let strokes (w : Nat) : String := String.join (List.replicate (w + 2) fill)
  edge ++ cross.intercalate (widths.map strokes) ++ edge

/-- The lines of a table with a header. -/
def grid (header : List String) (rows : List (List String)) : List String :=
  let widths := columnWidths (header :: rows) header.length
  [ruler widths "+" "-" "+"] ++ rowLines widths header ++ [ruler widths "+" "=" "="] ++
    [ruler widths "|" "-" "+"].intercalate (rows.map (rowLines widths)) ++
    [ruler widths "+" "-" "+"]

end Dialogue.Command
