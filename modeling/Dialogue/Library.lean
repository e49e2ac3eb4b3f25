import Dialogue.Content.Tree

/-!
# The library of trees

The library of registered trees. Trees keep the order in which their ids were first registered, and
an index tells where the tree with an id stands; a tree registered again takes the place of the one
before. Index and trees agree at all times (`Indexed.set`, `Indexed.append`).
-/

namespace Dialogue

/-- The index has a position under an id just when the tree with that id stands there. -/
def Indexed (trees : List Tree) (index : Table Nat) : Prop :=
  ∀ id k, index.get? id = some k ↔ (trees[k]?).map Tree.id = some id

namespace Indexed
variable {trees : List Tree} {index : Table Nat} {t : Tree}

theorem empty : Indexed [] {} := by
  intro id k
  simp [Table.get?, Sorted.find?, EmptyCollection.emptyCollection, Sorted.empty]

/-- A tree in the place of one with its id changes no position. -/
theorem set (h : Indexed trees index) {k : Nat} (hk : index.get? t.id = some k) :
    Indexed (trees.set k t) index := by
  have hid : (trees[k]?).map Tree.id = some t.id := (h t.id k).1 hk
  intro id j
  rw [h id j, List.getElem?_set]
  split
  · next hkj =>
    subst hkj
    have hlt : k < trees.length := by
      obtain ⟨u, hu, -⟩ := Option.map_eq_some_iff.1 hid
      exact (List.getElem?_eq_some_iff.1 hu).1
    rw [if_pos hlt, hid, Option.map_some]
  · rfl

/-- A tree with a new id takes the position after all others. -/
theorem append (h : Indexed trees index) (ht : index.get? t.id = none) :
    Indexed (trees ++ [t]) (index.set t.id trees.length) := by
  intro id k
  rw [Table.get?_set]
  rcases Nat.lt_trichotomy k trees.length with hk | rfl | hk
  · rw [List.getElem?_append_left hk, ← h id k]
    split
    · next hid =>
      subst hid
      have hne : trees.length ≠ k := Nat.ne_of_gt hk
      simp [ht, hne]
    · rfl
  · rw [List.getElem?_concat_length, Option.map_some, Option.some_inj]
    split
    · next hid => simp [hid]
    · next hid =>
      have hnone : index.get? id ≠ some trees.length := by simp [h id trees.length]
      simp [hid, hnone]
  · have hout : (trees ++ [t])[k]? = none := List.getElem?_eq_none (by simp; omega)
    have hnone : index.get? id ≠ some k := by
      simp [h id k, List.getElem?_eq_none (Nat.le_of_lt hk)]
    rw [hout]
    split
    · simp; omega
    · simp [hnone]

end Indexed

/-- Trees, and where they are found by their ids. -/
structure Library where
  /-- In the order in which their ids came first. -/
  trees : List Tree
  /-- The positions of the trees, by id. -/
  index : Table Nat
  indexed : Indexed trees index

/-- Where the nodes that a dialogue goes on to are looked up. -/
inductive Scope where
  /-- In every tree of the library; the first one counts. -/
  | global
  /-- Only in the tree that is being played. -/
  | tree
  deriving DecidableEq, Inhabited

namespace Library

def empty : Library := ⟨[], {}, .empty⟩

instance : Inhabited Library := ⟨empty⟩

def size (l : Library) : Nat := l.trees.length

/-- The tree with an id. -/
def lookup (l : Library) (id : String) : Option Tree := (l.index.get? id).bind (l.trees[·]?)

/-- Registers a tree: in the place of the one with its id, or else at the end. With the library
comes the tree that has given way. -/
def put (l : Library) (t : Tree) : Option Tree × Library :=
  match h : l.index.get? t.id with
  | some k => (l.trees[k]?, ⟨l.trees.set k t, l.index, l.indexed.set h⟩)
  | none => (none, ⟨l.trees ++ [t], l.index.set t.id l.trees.length, l.indexed.append h⟩)

def register (l : Library) (t : Tree) : Library := (l.put t).2

/-- The node with an id in the first tree that has one. -/
def resolve (l : Library) (node : String) : Option Node := l.trees.findSome? (·.node? node)

/-- The node with an id in one tree. -/
def resolveIn (l : Library) (tree node : String) : Option Node :=
  (l.lookup tree).bind (·.node? node)

/-- The node with an id, looked up in the scope of a tree that is being played. -/
def successor (l : Library) (scope : Scope) (tree node : String) : Option Node :=
  match scope with
  | .global => l.resolve node
  | .tree => l.resolveIn tree node

end Library

end Dialogue
