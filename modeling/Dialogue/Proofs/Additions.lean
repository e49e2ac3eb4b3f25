import Dialogue.Proofs.Aftermath
import Dialogue.Proofs.Unbroken

/-!
# Additions to a library

Content that is added does not disturb what is there. A tree with a new id comes last in its
library, so that whatever was found before is found as before (`Library.resolve_register`), also
where node ids clash; and without dangling references a dialogue finds all its nodes before it would
look at the new tree. In the scope of a tree, nothing but that tree is ever looked at.
-/

namespace Dialogue

namespace Library
variable {l : Library} {x : Tree}

/-- A node that is found is found after a tree with a new id has come, too. -/
theorem resolve_register (new : x.id ∉ l.trees.map Tree.id) {node : String} {n : Node}
    (h : l.resolve node = some n) : (l.register x).resolve node = some n := by
  rcases l.register_cases x with ⟨-, htrees⟩ | ⟨before, old, after, place, same, -⟩
  · rw [resolve, htrees, List.findSome?_append]
    exact Option.or_eq_some_iff.2 (.inl h)
  · exact (new (by simp [place, same])).elim

theorem lookup_register_of_mem (new : x.id ∉ l.trees.map Tree.id) {t : Tree} (h : t ∈ l.trees) :
    (l.register x).lookup t.id = l.lookup t.id := by
  have hne : x.id ≠ t.id := fun heq => new (heq ▸ List.mem_map_of_mem h)
  rw [lookup_register, if_neg hne]

end Library

namespace Stage
variable {stage : Stage}

/-- The stage with another library. -/
def withLibrary (stage : Stage) (library : Library) : Stage := { stage with library }

/-- What a visit shows and does is in the node itself. -/
theorem visit_withLibrary (l : Library) : (stage.withLibrary l).visit = stage.visit := rfl

/-- With a new tree in the library, runs from a node that was there are the same. -/
theorem run_register (linked : Report.Linked stage.library .global) (global : stage.scope = .global)
    {x : Tree} (new : x.id ∉ stage.library.trees.map Tree.id) (fuel : Nat) {n : Node}
    (within : stage.Within n) (p : Profile) (inputs : List String) :
    (stage.withLibrary (stage.library.register x)).run fuel n p inputs =
      stage.run fuel n p inputs := by
  refine Report.Linked.run_eq (global ▸ linked) (visit_withLibrary _) ?_ fuel within p inputs
  intro target next h
  rw [resolve, global] at h
  rw [resolve, withLibrary, global]
  exact Library.resolve_register new h

/-- In the scope of a tree, runs depend on what is found under its id. -/
theorem run_of_lookup {l : Library} (inTree : stage.scope = .tree)
    (same : l.lookup stage.tree = stage.library.lookup stage.tree) (fuel : Nat) (n : Node)
    (p : Profile) (inputs : List String) :
    (stage.withLibrary l).run fuel n p inputs = stage.run fuel n p inputs := by
  have hresolve : (stage.withLibrary l).resolve = stage.resolve := by
    funext target
    rw [resolve, resolve, withLibrary, inTree]
    exact congrArg (Option.bind · (Tree.node? · target)) same
  refine run_congr (visit_withLibrary l) (fun n p inputs _ => ⟨?_, fun _ _ => trivial⟩) fuel
    (trivial : True) p inputs
  rw [follow, follow, hresolve]

end Stage

namespace Session
variable {s : Session}

/-- The session with another library. -/
def withLibrary (s : Session) (library : Library) : Session := { s with library }

theorem afterRun_withLibrary (l : Library) (tree : String) (r : Run) :
    (s.withLibrary l).afterRun tree r = (s.afterRun tree r).withLibrary l := by
  simp only [afterRun_eq, withLibrary]

theorem afterRun_register (x : Tree) (tree : String) (r : Run) :
    (s.register x).afterRun tree r = (s.afterRun tree r).register x := by
  simp only [afterRun_eq, register]

/-- **Additions do not disturb what is there.** In the scope of the whole library, if no reference
dangles, a tree with a new id leaves all dialogues of the other trees as they are, whatever ids its
nodes have. In the scope of a tree, so does every library in which the same is found under the id of
that tree. The dialogues come to an end together, and differ in nothing but the library that they
are played in. -/
theorem start_of_additions (s : Session) (fuel : Nat) (p : Profile) (inputs : List String) :
    (s.config.scope = .global → (Report.check s.library .global).dangling = [] →
      ∀ x : Tree, x.id ∉ s.library.trees.map Tree.id → ∀ t ∈ s.library.trees,
        (s.register x).start fuel t.id p inputs =
          (s.start fuel t.id p inputs).map fun r => { r with session := r.session.register x }) ∧
    (s.config.scope = .tree → ∀ (l : Library) (tree : String),
      l.lookup tree = s.library.lookup tree →
        (s.withLibrary l).start fuel tree p inputs =
          (s.start fuel tree p inputs).map fun r =>
            { r with session := r.session.withLibrary l }) := by
  constructor
  · intro global links x new t ht
    refine start_change (·.register x) (Library.lookup_register_of_mem new ht)
      (fun u root found entry => ?_) (afterRun_register x t.id)
    obtain ⟨hu, hid⟩ := Library.mem_of_lookup found
    have within : (s.stage t.id).Within root := hid ▸ s.within_root hu entry
    exact Stage.run_register (Report.linked_of_dangling links) global new fuel within p inputs
  · intro inTree l tree same
    refine start_change (·.withLibrary l) same (fun t root _ _ => ?_) (afterRun_withLibrary l tree)
    exact (s.stage tree).run_of_lookup inTree same fuel root p inputs

/-- A cellar whose nodes have ids that the inn by the road has, too. -/
def cellar : Tree :=
  .withNode (.withNode ⟨"cellar", "", "greeting", {}⟩
    { id := "greeting", lines := ["Who is there?"], next := some "farewell" })
    { id := "farewell", isEnd := true, effects := [.addGold 100] }

/-- The trees by the road, each on its own. -/
def fenced : Session := { wayside with config := { scope := .tree } }

theorem start_of_additions_cellar :
    (Report.check wayside.library .global).dangling = [] ∧
      cellar.id ∉ wayside.library.trees.map Tree.id ∧
      (∃ r, wayside.start 3 "road" {} ["2", "1"] = some r ∧ r.profile.player.gold = 5 ∧
        (wayside.register cellar).start 3 "road" {} ["2", "1"] =
          some { r with session := r.session.register cellar }) ∧
      ∃ inn r, fenced.library.lookup "inn" = some inn ∧
        fenced.start 2 "inn" {} ["1"] = some r ∧ r.profile.player.gold = 5 ∧
        (fenced.withLibrary ((Library.empty.register cellar).register inn)).start 2 "inn" {} ["1"] =
          some { r with
            session := r.session.withLibrary ((Library.empty.register cellar).register inn) } := by
  have links : (Report.check wayside.library .global).dangling = [] := by decide
  have new : cellar.id ∉ wayside.library.trees.map Tree.id := by decide
  refine ⟨links, new, ?_, ?_⟩
  · have hgold : (wayside.start 3 "road" {} ["2", "1"]).map (·.profile.player.gold) = some 5 := by
      decide
    obtain ⟨r, hr, hgold⟩ := Option.map_eq_some_iff.1 hgold
    obtain ⟨t, found⟩ : ∃ t, wayside.library.lookup "road" = some t := ⟨_, rfl⟩
    obtain ⟨ht, hid⟩ := Library.mem_of_lookup found
    have hsame := (start_of_additions wayside 3 {} ["2", "1"]).1 rfl links cellar new t ht
    rw [hid, hr, Option.map_some] at hsame
    exact ⟨r, hr, hgold, hsame⟩
  · have hgold : (fenced.start 2 "inn" {} ["1"]).map (·.profile.player.gold) = some 5 := by decide
    obtain ⟨r, hr, hgold⟩ := Option.map_eq_some_iff.1 hgold
    obtain ⟨inn, found⟩ : ∃ t, fenced.library.lookup "inn" = some t := ⟨_, rfl⟩
    have same : ((Library.empty.register cellar).register inn).lookup "inn" =
        fenced.library.lookup "inn" := by
      rw [Library.lookup_register, if_pos (Library.mem_of_lookup found).2, found]
    have hsame := (start_of_additions fenced 2 {} ["1"]).2 rfl _ "inn" same
    rw [hr, Option.map_some] at hsame
    exact ⟨inn, r, found, hr, hgold, hsame⟩

end Session

end Dialogue
