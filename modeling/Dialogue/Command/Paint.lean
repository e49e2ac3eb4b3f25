import Dialogue.Content.Color

/-!
# Colored text

Lines in color for a terminal.
-/

namespace Dialogue.Command

/-- The sequence that begins every change of style. -/
def escape : String := "\x1b["

/-- The sequence that ends all styles. -/
def reset : String := escape ++ "0m"

/-- The codes of a color. -/
def colorCode : Color → String
  | .white => "97"
  | .gray => "37"
  | .darkGray => "90"
  | .red => "31"
  | .brightRed => "91"
  | .darkRed => "2;31"
  | .green => "32"
  | .brightGreen => "92"
  | .darkGreen => "2;32"
  | .yellow => "33"
  | .brightYellow => "93"
  | .darkYellow => "2;33"
  | .cyan => "36"
  | .brightCyan => "96"
  | .magenta => "35"
  | .brightMagenta => "95"
  | .darkMagenta => "2;35"

def bold : String := "1"

def dimmed : String := "2"

/-- Puts the style again after each reset within a text; `skip` characters are part of one. -/
def restyle (style : List Char) : (skip : Nat) → List Char → List Char
  | _, [] => []
  | skip + 1, c :: cs => c :: (if skip = 0 then style else []) ++ restyle style skip cs
  | 0, c :: cs =>
    if reset.toList.isPrefixOf (c :: cs) then c :: restyle style (reset.length - 1) cs
    else c :: restyle style 0 cs

/-- A text in a style, if styles are shown at all. -/
def styled (colors : Bool) (code text : String) : String :=
  if colors then
    let style := escape ++ code ++ "m"
    style ++ String.ofList (restyle style.toList 0 text.toList) ++ reset
  else text

end Dialogue.Command
