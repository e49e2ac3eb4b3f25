import Dialogue.Content.Color
import Dialogue.Pacing

/-!
# Consoles

What a dialogue does with a console: it shows lines, asks for selections and waits. The acts are
recorded in order; a script answers the questions.
-/

namespace Dialogue

inductive Act where
  | line (text : String) (color : Color)
  /-- A selection is asked for. -/
  | prompt
  | pause (d : Duration)
  deriving DecidableEq

namespace Act

/-- The lines among acts, with their colors. -/
def lines (acts : List Act) : List (String × Color) :=
  acts.filterMap fun
    | .line text color => some (text, color)
    | _ => none

def pauses (acts : List Act) : List Duration :=
  acts.filterMap fun
    | .pause d => some d
    | _ => none

/-- How often a selection was asked for. -/
def prompts (acts : List Act) : Nat := acts.countP (· = .prompt)

end Act

/-- A console whose inputs are written down beforehand. -/
structure Script where
  inputs : List String
  acts : List Act := []

namespace Script

def write (s : Script) (text : String) (color : Color) : Script :=
  { s with acts := s.acts ++ [.line text color] }

def pause (s : Script) (d : Duration) : Script := { s with acts := s.acts ++ [.pause d] }

/-- Asks for a selection, and gets the next input unless there is none. -/
def read (s : Script) : Option String × Script :=
  (s.inputs.head?, { inputs := s.inputs.tail, acts := s.acts ++ [.prompt] })

/-- Whether a line has been shown. -/
def printed (s : Script) (text : String) : Bool := (Act.lines s.acts).any (·.1 == text)

end Script

end Dialogue
