import Dialogue.Content.Condition
import Dialogue.Content.Effect

/-!
# Dialogue trees

Dialogue trees: nodes with lines to show, and the ways on from them.
-/

namespace Dialogue

/-- Something the player can say at a node. -/
structure Choice where
  text : String
  /-- The node that the choice leads to. -/
  next : String
  tone : Tone := .neutral
  /-- The gate; a choice without one is always offered. -/
  condition : Option Condition := none
  effects : List Effect := []
  /-- Taken without asking when nothing else is offered. -/
  autoSelect : Bool := false
  deriving Inhabited

/-- The color in which a choice is offered: that of the first gain in alignment among its effects,
or else that of its tone. -/
def Choice.color (c : Choice) : Color :=
  (c.effects.findSome? fun
    | .addChivalry _ => some .brightCyan
    | .addDarkness _ => some .darkRed
    | _ => none).getD c.tone.color

/-- One beat of a dialogue. -/
structure Node where
  id : String
  speaker : Option String := none
  lines : List String := []
  color : Option Color := none
  choices : List Choice := []
  /-- Where the dialogue goes on when no choice is offered. -/
  next : Option String := none
  /-- The dialogue ends here, whatever the choices and the successor are. -/
  isEnd : Bool := false
  /-- What happens when the dialogue ends here. -/
  effects : List Effect := []
  deriving Inhabited

/-- A whole dialogue. -/
structure Tree where
  id : String
  name : String
  /-- The node that comes first. -/
  root : String
  /-- The nodes under the ids that lead to them. -/
  nodes : Table Node := {}
  deriving Inhabited

namespace Tree

/-- Adds a node under its own id; a node that was there gives way. -/
def withNode (t : Tree) (n : Node) : Tree := { t with nodes := t.nodes.set n.id n }

def node? (t : Tree) (id : String) : Option Node := t.nodes.get? id

def rootNode? (t : Tree) : Option Node := t.node? t.root

/-- Every node stands under its own id, as it does in all trees that are read or built. -/
def Keyed (t : Tree) : Prop := ∀ e ∈ t.nodes.toList, e.1 = e.2.id

/-- The nodes in the order of their own ids. -/
def listing (t : Tree) : List Node := t.nodes.values.mergeSort fun a b => !decide (b.id < a.id)

/-- The same tree with the nodes of a list; of nodes with one id, the last counts. -/
def withListing (nodes : List Node) (t : Tree) : Tree :=
  { t with nodes := Sorted.ofList (nodes.map fun n => (n.id, n)) }

end Tree

/-- What a content file holds: colors for the names of speakers, and trees. -/
structure Content where
  speakers : Table Color := {}
  trees : List Tree := []
  deriving Inhabited

end Dialogue
