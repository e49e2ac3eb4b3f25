import Dialogue.Json.Reader

/-!
# Colors and tones

The colors of displayed lines and the tones of choices.
-/

namespace Dialogue
open Json

inductive Color where
  | gray | darkGray
  | red | brightRed | darkRed
  | green | brightGreen | darkGreen
  | yellow | brightYellow | darkYellow
  | cyan | brightCyan
  | magenta | brightMagenta | darkMagenta
  | white
  deriving DecidableEq

instance : Inhabited Color := ⟨.white⟩

/-- The names of colors. A name that is none of them means white. -/
def Color.names : Vocabulary Color where
  names := [("gray", .gray), ("dark_gray", .darkGray), ("red", .red), ("bright_red", .brightRed),
    ("dark_red", .darkRed), ("green", .green), ("bright_green", .brightGreen),
    ("dark_green", .darkGreen), ("yellow", .yellow), ("bright_yellow", .brightYellow),
    ("dark_yellow", .darkYellow), ("cyan", .cyan), ("bright_cyan", .brightCyan),
    ("magenta", .magenta), ("bright_magenta", .brightMagenta), ("dark_magenta", .darkMagenta),
    ("white", .white)]
  other := some .white

def Color.name (c : Color) : String := names.nameOf c

/-- How a choice is meant. -/
inductive Tone where
  | neutral
  | friendly
  | aggressive
  | suspicious
  | humble
  | defiant
  | wise
  | greedy
  | romantic
  deriving DecidableEq

instance : Inhabited Tone := ⟨.neutral⟩

def Tone.names : Vocabulary Tone where
  names := [("neutral", .neutral), ("friendly", .friendly), ("aggressive", .aggressive),
    ("suspicious", .suspicious), ("humble", .humble), ("defiant", .defiant), ("wise", .wise),
    ("greedy", .greedy), ("romantic", .romantic)]

def Tone.name (t : Tone) : String := names.nameOf t

/-- The color of choices of a tone. -/
def Tone.color : Tone → Color
  | .aggressive => .red
  | .friendly => .green
  | .suspicious => .yellow
  | .humble => .cyan
  | .defiant => .brightRed
  | .wise => .brightCyan
  | .greedy => .darkYellow
  | .neutral | .romantic => .white

end Dialogue
