import Dialogue.Text.Sequel

/-!
# Widths of texts

The number of columns that a text takes on a terminal.
-/

namespace Dialogue.Text

/-- The columns of a text and what it is to a character before it. -/
def measure (cs : List Char) : Int × Sequel :=
  cs.foldr (fun c (columns, s) =>
    let (more, s) := Sequel.advance c s
    (columns + more, s)) (0, {})

/-- The columns of a text. -/
def width (s : String) : Nat := (measure s.toList).1.toNat

end Dialogue.Text
