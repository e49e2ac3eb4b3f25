import Dialogue.Console
import Dialogue.Library
import Dialogue.Placeholder
import Dialogue.Selection

/-!
# Traversals

Traversals: the way through a tree from its root to an end. A run is recorded visit by visit, each
with the profile before and after, what was shown, and how the node was left; everything that can
be seen of a run is read off this record.
-/

namespace Dialogue

/-- The choices of a node that are offered to a profile, with their positions among all choices of
the node. -/
def Node.offers (n : Node) (p : Profile) : List (Nat × Choice) :=
  (n.choices.mapIdx Prod.mk).filter fun o => gateOpen p o.2.condition

/-- The choice that is taken without asking: the only one offered, if it is of that sort. -/
def automatic? : List (Nat × Choice) → Option Choice
  | [(_, c)] => if c.autoSelect then some c else none
  | _ => none

/-- Where and how a dialogue is played. -/
structure Stage where
  library : Library
  scope : Scope
  pacing : Pacing
  /-- The colors of speakers, by name in small letters. -/
  speakers : Table Color
  /-- The tree that is played. -/
  tree : String

/-- How a node is left. -/
inductive Exit where
  /-- The dialogue ends here. -/
  | ending
  /-- There is no way on. -/
  | stuck
  | successor (target : String)
  | automatic (choice : Choice)
  /-- The choice at a position of the node was picked. -/
  | chosen (position : Nat) (choice : Choice)
  /-- The player said nothing. -/
  | silence
  /-- There was no more input. -/
  | closed

/-- The node to go on to. -/
def Exit.target? : Exit → Option String
  | .successor target => some target
  | .automatic c | .chosen _ c => some c.next
  | .ending | .stuck | .silence | .closed => none

/-- The player walked away. -/
def Exit.aborted : Exit → Bool
  | .silence | .closed => true
  | _ => false

/-- One visit to a node. -/
structure Visit where
  node : Node
  before : Profile
  exit : Exit
  acts : List Act
  after : Profile
  /-- The inputs left for later visits. -/
  unread : List String

/-- How a dialogue came out. -/
inductive Result where
  | completed (node : Node)
  | aborted

def Result.endNode? : Result → Option Node
  | .completed n => some n
  | .aborted => none

def Result.isCompleted (r : Result) : Bool := r.endNode?.isSome

def Visit.result (v : Visit) : Result := if v.exit.aborted then .aborted else .completed v.node

/-- A whole traversal. -/
structure Run where
  visits : List Visit
  result : Result
  profile : Profile
  unread : List String
  /-- The last node was left for one that is not there. -/
  dangling : Bool

/-- What came of asking for a selection among `count` choices. -/
structure Answer (count : Nat) where
  /-- None when the input ended. -/
  selection : Option (Selection count)
  acts : List Act
  unread : List String

/-- Asks until an input makes a selection. -/
def ask (count : Nat) : List String → Answer count
  | [] => ⟨none, [.prompt], []⟩
  | input :: inputs =>
    match Selection.parse count input with
    | some s => ⟨some s, [.prompt], inputs⟩
    | none =>
      let a := ask count inputs
      ⟨a.selection, .prompt :: .line "Please enter a valid choice." .red :: a.acts, a.unread⟩

/-- The list of choices before a prompt. -/
def menu (offers : List (Nat × Choice)) : List Act :=
  [.line "What do you say?" .cyan, .line "" .white] ++
    offers.mapIdx (fun k o => .line ("[" ++ toString (k + 1) ++ "] " ++ o.2.text) o.2.color) ++
    [.line "[0] (Say nothing)" .darkGray, .line "" .white]

/-- The lines that tell of effects. -/
def noticeActs (p : Profile) (effects : List Effect) : List Act :=
  (Effect.notices p effects).map fun n => .line n.text n.color

namespace Stage

/-- Waiting, as far as the pacing asks for it. -/
def wait (stage : Stage) (d : Duration) : List Act := (stage.pacing.wait d).toList.map .pause

/-- The label of a speaker has the speaker's color, or white. -/
def speakerColor (stage : Stage) (speaker : String) : Color :=
  (stage.speakers.get? (Text.lowercase speaker)).getD .white

/-- One line of a node, filled in for a profile. -/
def showLine (stage : Stage) (p : Profile) (color : Color) (line : String) : List Act :=
  let text := interpolate p line
  .line text color :: stage.wait (stage.pacing.lineDelay text.length)

/-- A node as it is shown to a profile. -/
def display (stage : Stage) (p : Profile) (n : Node) : List Act :=
  [.line "" .white] ++
    n.speaker.toList.map (fun s => .line ("[" ++ s ++ "]") (stage.speakerColor s)) ++
    n.lines.flatMap (stage.showLine p (n.color.getD .white)) ++
    [.line "" .white]

/-- Offers choices and acts on the selection. -/
def prompt (n : Node) (p : Profile) (shown : List Act) (offers : List (Nat × Choice))
    (inputs : List String) : Visit :=
  let answer := ask offers.length inputs
  let acts := shown ++ menu offers ++ answer.acts
  match answer.selection with
  | none => ⟨n, p, .closed, acts, p, answer.unread⟩
  | some .silence => ⟨n, p, .silence, acts, p, answer.unread⟩
  | some (.pick k) =>
    let (position, c) := offers[k]
    ⟨n, p, .chosen position c, acts ++ noticeActs p c.effects, Effect.applyAll p c.effects,
      answer.unread⟩

/-- A visit to a node. -/
def visit (stage : Stage) (n : Node) (p : Profile) (inputs : List String) : Visit :=
  let shown := stage.display p n
  if n.isEnd then
    ⟨n, p, .ending, shown ++ noticeActs p n.effects, Effect.applyAll p n.effects, inputs⟩
  else
    match n.offers p with
    | [] =>
      match n.next with
      | some target =>
        ⟨n, p, .successor target, shown ++ stage.wait stage.pacing.transition, p, inputs⟩
      | none => ⟨n, p, .stuck, shown, p, inputs⟩
    | offers =>
      match automatic? offers with
      | some c =>
        ⟨n, p, .automatic c,
          shown ++ noticeActs p c.effects ++ stage.wait stage.pacing.autoSelect,
          Effect.applyAll p c.effects, inputs⟩
      | none => prompt n p shown offers inputs

/-- The node to go on to, if there is one. -/
def resolve (stage : Stage) (target : String) : Option Node :=
  stage.library.successor stage.scope stage.tree target

/-- The traversal from a node on, if it takes no more than `fuel` visits. -/
def run (stage : Stage) : (fuel : Nat) → Node → Profile → List String → Option Run
  | 0, _, _, _ => none
  | fuel + 1, n, p, inputs =>
    let v := stage.visit n p inputs
    match v.exit.target? with
    | none => some ⟨[v], v.result, v.after, v.unread, false⟩
    | some target =>
      match stage.resolve target with
      | none => some ⟨[v], v.result, v.after, v.unread, true⟩
      | some next =>
        (stage.run fuel next v.after v.unread).map fun r => { r with visits := v :: r.visits }

end Stage

/-- Whether the input had ended. -/
def Exit.isClosed : Exit → Bool
  | .closed => true
  | _ => false

namespace Run

/-- Whether the run ended for want of input. -/
def closed (r : Run) : Bool := r.visits.getLast?.any (·.exit.isClosed)

/-- Everything done with the console. -/
def acts (r : Run) : List Act := r.visits.flatMap (·.acts)

/-- The choices picked at prompts, each with its node and its position there. -/
def picks (r : Run) : List (String × Nat × Choice) :=
  r.visits.filterMap fun v =>
    match v.exit with
    | .chosen position c => some (v.node.id, position, c)
    | _ => none

end Run

end Dialogue
