import Dialogue.Library

/-!
# Reports on content

A report on the content of a library: what would break a dialogue, and what is surely not meant.
-/

namespace Dialogue

/-- A way on to a node that is not there. -/
structure Dangling where
  tree : String
  node : String
  target : String
  deriving DecidableEq

/-- A node id that several trees have. -/
structure Collision where
  node : String
  /-- In the order of the library, so that the first one counts. -/
  trees : List String
  deriving DecidableEq

/-- A node with effects that never happen, since the dialogue does not end there. -/
structure IgnoredEffects where
  tree : String
  node : String
  deriving DecidableEq

structure Report where
  missingRoots : List String
  dangling : List Dangling
  collisions : List Collision
  ignoredEffects : List IgnoredEffects
  deriving DecidableEq

/-- The ways on from a node: its successor, then its choices. -/
def Node.targets (n : Node) : List String := n.next.toList ++ n.choices.map (·.next)

namespace Report

/-- Whether a target is found in the scope of a tree. -/
def resolves (l : Library) (scope : Scope) (t : Tree) (target : String) : Bool :=
  match scope with
  | .global => (l.resolve target).isSome
  | .tree => (t.node? target).isSome

/-- The ways on from the node under an id that are not found. -/
def danglingFrom (l : Library) (scope : Scope) (t : Tree) (e : String × Node) : List Dangling :=
  if e.2.isEnd then []
  else (e.2.targets.filter (!resolves l scope t ·)).map (⟨t.id, e.1, ·⟩)

/-- Every node id of the library, in order. -/
def nodeIds (l : Library) : NameSet :=
  Sorted.ofList (l.trees.flatMap fun t => t.nodes.keys)

/-- The trees that have a node of an id. -/
def owners (l : Library) (node : String) : List String :=
  (l.trees.filter fun t => t.nodes.contains node).map Tree.id

/-- The report on a library whose trees are played in some scope. -/
def check (l : Library) (scope : Scope) : Report where
  missingRoots := (l.trees.filter (·.rootNode?.isNone)).map Tree.id
  dangling := l.trees.flatMap fun t => t.nodes.toList.flatMap (danglingFrom l scope t)
  collisions :=
    ((nodeIds l).toList.map fun id => ⟨id, owners l id⟩).filter fun c => 1 < c.trees.length
  ignoredEffects := l.trees.flatMap fun t =>
    (t.nodes.toList.filter fun e => !e.2.isEnd && !e.2.effects.isEmpty).map fun e => ⟨t.id, e.1⟩

/-- The problems that do not break a dialogue. -/
def warningCount (r : Report) : Nat := r.collisions.length + r.ignoredEffects.length

/-- The problems that break a dialogue. -/
def errorCount (r : Report) : Nat := r.missingRoots.length + r.dangling.length

def isClean (r : Report) : Bool := r.errorCount + r.warningCount == 0

end Report

end Dialogue
