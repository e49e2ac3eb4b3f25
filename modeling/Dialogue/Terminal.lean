import Dialogue.Session

/-!
# Terminals

A terminal, where what the player types comes as bytes. It is read line by line, and no further than
a dialogue asks for: each prompt reads up to the line that makes a selection (`Terminal.hear`). A
line that is no text ends the input just as the end of the bytes does.
-/

namespace Dialogue

namespace Terminal

/-- The first line with its line feed, which the last one may lack, and the bytes after it. -/
def firstLine : List UInt8 → List UInt8 × List UInt8
  | [] => ([], [])
  | b :: bytes =>
    if b = 10 then ([b], bytes)
    else
      let (line, rest) := firstLine bytes
      (b :: line, rest)

theorem length_firstLine (bytes : List UInt8) :
    (firstLine bytes).1.length + (firstLine bytes).2.length = bytes.length := by
  induction bytes with
  | nil => rfl
  | cons b bytes ih =>
    rw [firstLine]
    split
    · simp only [List.length_cons, List.length_nil]; omega
    · simp only [List.length_cons]; omega

/-- Reads a line, without the white space around it. With it come the bytes that are left. -/
def read (bytes : List UInt8) : Option String × List UInt8 :=
  match firstLine bytes with
  | ([], rest) => (none, rest)
  | (line, rest) => ((String.fromUTF8? ⟨line.toArray⟩).map Text.trim, rest)

theorem length_read_lt {bytes rest : List UInt8} {input : String}
    (h : read bytes = (some input, rest)) : rest.length < bytes.length := by
  have hlength := length_firstLine bytes
  unfold read at h
  split at h
  · cases h
  · next line after hne hline =>
    obtain rfl : after = rest := (Prod.mk.inj h).2
    rw [hline] at hlength
    have : 0 < line.length := List.length_pos_iff.2 fun hnil => hne hnil
    dsimp only at hlength
    omega

/-- The lines that a prompt for one of `count` choices reads, and the bytes that it leaves. -/
def hear (count : Nat) (bytes : List UInt8) : List String × List UInt8 :=
  match _h : read bytes with
  | (none, rest) => ([], rest)
  | (some input, rest) =>
    if (Selection.parse count input).isSome then ([input], rest)
    else
      let (inputs, rest) := hear count rest
      (input :: inputs, rest)
termination_by bytes.length
decreasing_by exact length_read_lt ‹_›

end Terminal

namespace Node

/-- Whether the player is asked at a node. -/
def needsInput (n : Node) (p : Profile) : Bool :=
  !n.isEnd && !(n.offers p).isEmpty && (automatic? (n.offers p)).isNone

/-- The lines that are read at a node, and the bytes that are left. -/
def hear (n : Node) (p : Profile) (bytes : List UInt8) : List String × List UInt8 :=
  if n.needsInput p then Terminal.hear (n.offers p).length bytes else ([], bytes)

end Node

namespace Stage

/-- The traversal at a terminal from a node on, if it takes no more than `fuel` visits. -/
def runAt (stage : Stage) : (fuel : Nat) → Node → Profile → List UInt8 → Option Run
  | 0, _, _, _ => none
  | fuel + 1, n, p, bytes =>
    let (inputs, rest) := n.hear p bytes
    let v := stage.visit n p inputs
    match v.exit.target? with
    | none => some ⟨[v], v.result, v.after, v.unread, false⟩
    | some target =>
      match stage.resolve target with
      | none => some ⟨[v], v.result, v.after, v.unread, true⟩
      | some next =>
        (stage.runAt fuel next v.after rest).map fun r => { r with visits := v :: r.visits }

end Stage

/-- Plays a tree at a terminal, if that takes no more than `fuel` visits to nodes. -/
def Session.startAt (s : Session) (fuel : Nat) (tree : String) (p : Profile)
    (bytes : List UInt8) : Option Performance :=
  match (s.library.lookup tree).bind Tree.rootNode? with
  | none => s.start fuel tree p []
  | some root => ((s.stage tree).runAt fuel root p bytes).map (s.performance tree)

end Dialogue
