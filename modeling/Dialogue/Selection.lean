import Dialogue.Text.Blank

/-!
# Selections

Selections: what the player types at a prompt.
-/

namespace Dialogue

/-- A selection among `count` choices. -/
inductive Selection (count : Nat) where
  /-- To say nothing, and so to leave. -/
  | silence
  | pick (k : Fin count)
  deriving DecidableEq

namespace Selection

/-- The value of a word of digits. -/
def decimalValue (cs : List Char) : Nat := cs.foldl (fun n c => n * 10 + (c.toNat - '0'.toNat)) 0

/-- Reads an unsigned number of 64 bits: digits of ASCII, which a plus may precede. -/
def readNumber? (cs : List Char) : Option Nat :=
  let digits := if cs.head? = some '+' then cs.tail else cs
  if !digits.isEmpty && digits.all Char.isDigit && decimalValue digits ≤ 18446744073709551615 then
    some (decimalValue digits)
  else none

/-- The selection that an input makes, white space around it aside; choices are counted from one.
Other inputs than a bare zero and the numbers of choices make none. -/
def parse (count : Nat) (input : String) : Option (Selection count) :=
  let cs := Text.trimChars input.toList
  if cs = ['0'] then some .silence
  else
    match readNumber? cs with
    | some k => if h : 1 ≤ k ∧ k ≤ count then some (.pick ⟨k - 1, by omega⟩) else none
    | none => none

end Selection

end Dialogue
