import Dialogue.Proofs.Aftermath
import Dialogue.Proofs.Report
import Dialogue.Proofs.Unbroken

/-!
# Scopes that agree

A library in which no tree refers outside itself and no two trees share a node id is tidy: it plays
alike in both scopes. What the scope of a tree finds is found in the library
(`Stage.resolve_inScope`), and a dialogue that starts in a tree finds all its nodes there, so that
its runs are the same (`Stage.run_inScope`).
-/

namespace Dialogue
open Machine

/-! ## Distinct nodes -/

namespace Report
variable {l : Library} {scope : Scope} {t u : Tree} {id : String} {n m : Node}

/-- No two trees have a node under one id. -/
def Distinct (l : Library) : Prop :=
  ∀ t ∈ l.trees, ∀ u ∈ l.trees, ∀ id n m, t.node? id = some n → u.node? id = some m → t = u

theorem distinct_of_collisions (collisions : (check l scope).collisions = []) : Distinct l := by
  intro t ht u hu id n m hn hm
  by_contra hne
  have hids : t.id ≠ u.id := fun hids => hne (eq_of_nodup_keys l.nodup ht hu hids)
  have hshares : l.Shares id := ⟨t, ht, u, hu, hids,
    Table.mem_keys_iff.2 (Option.isSome_of_eq_some hn),
    Table.mem_keys_iff.2 (Option.isSome_of_eq_some hm)⟩
  have hmem : ⟨id, owners l id⟩ ∈ (check l scope).collisions := mem_collisions_iff.2 ⟨hshares, rfl⟩
  simp [collisions] at hmem

/-- A node that its id is distinct for is found by it in the whole library. -/
theorem Distinct.resolve_eq (distinct : Distinct l) (ht : t ∈ l.trees)
    (hn : t.node? id = some n) : l.resolve id = some n := by
  have hsome : (l.resolve id).isSome := List.findSome?_isSome_iff.2 ⟨t, ht, by simp [hn]⟩
  obtain ⟨m, hm⟩ := Option.isSome_iff_exists.1 hsome
  obtain ⟨u, hu, hum⟩ := List.exists_of_findSome?_eq_some hm
  obtain rfl := distinct t ht u hu id n m hn hum
  exact hm.trans (hum.symm.trans hn)

end Report

/-! ## Runs in both scopes -/

namespace Stage
variable {stage : Stage} {n : Node} {p : Profile} {inputs : List String}

/-- The stage with another scope. -/
def inScope (stage : Stage) (scope : Scope) : Stage := { stage with scope }

/-- Only the way to the next node depends on the scope. -/
theorem visit_inScope (scope : Scope) : (stage.inScope scope).visit = stage.visit := rfl

theorem resolve_inScope (distinct : Report.Distinct stage.library) {target : String} {next : Node}
    (h : (stage.inScope .tree).resolve target = some next) :
    (stage.inScope .global).resolve target = some next := by
  obtain ⟨t, hlookup, hnode⟩ := Option.bind_eq_some_iff.1 h
  exact distinct.resolve_eq (Library.mem_of_lookup hlookup).1 hnode

/-- From a node of the tree that is played, the runs in both scopes are the same. -/
theorem run_inScope (links : Report.Linked stage.library .tree)
    (distinct : Report.Distinct stage.library) (fuel : Nat)
    (within : (stage.inScope .tree).Within n) :
    (stage.inScope .global).run fuel n p inputs = (stage.inScope .tree).run fuel n p inputs := by
  have hlinked : Report.Linked (stage.inScope .tree).library .tree := links
  have hvisits : (stage.inScope .global).visit = (stage.inScope .tree).visit :=
    (visit_inScope .global).trans (visit_inScope .tree).symm
  exact hlinked.run_eq hvisits (fun _ _ => resolve_inScope distinct) fuel within p inputs

end Stage

/-! ## Dialogues in both scopes -/

namespace Session
variable {s : Session}

/-- The session with another scope. -/
def inScope (s : Session) (scope : Scope) : Session :=
  { s with config := { s.config with scope } }

theorem afterRun_inScope (scope : Scope) (tree : String) (r : Run) :
    (s.inScope scope).afterRun tree r = (s.afterRun tree r).inScope scope := by
  simp only [afterRun_eq, inScope]

/-- **Scopes agree on tidy content.** Without references out of a tree and without shared ids of
nodes, a dialogue is the same in both scopes: the one comes to an end when the other does, with the
same result and profile, and the same acts, inputs left, events and history; only the scope itself
stays what it is. -/
theorem start_inScope_of_tidy (links : (Report.check s.library .tree).dangling = [])
    (distinct : (Report.check s.library .tree).collisions = []) (fuel : Nat) (tree : String)
    (p : Profile) (inputs : List String) :
    (s.inScope .global).start fuel tree p inputs =
      ((s.inScope .tree).start fuel tree p inputs).map fun r =>
        { r with session := r.session.inScope .global } := by
  refine start_change (s := s.inScope .tree) (·.inScope .global) rfl (fun t root found entry => ?_)
    (afterRun_inScope .global tree)
  obtain ⟨ht, rfl⟩ := Library.mem_of_lookup found
  have within : ((s.stage t.id).inScope .tree).Within root :=
    (s.inScope .tree).within_root ht entry
  exact Stage.run_inScope (Report.linked_of_dangling links)
    (Report.distinct_of_collisions distinct) fuel within

/-- An inn and a well, each with nodes of its own. -/
def hamlet : Session :=
  let greeting : Node :=
    { id := "greeting", speaker := some "Host", lines := ["Welcome!"]
      choices := [
        { text := "Sing", next := "farewell", condition := some (.test (.hasFlag "bard")) },
        { text := "Work", next := "greeting", effects := [.setFlag "bard", .addGold 5] }] }
  let inn : Tree := .withNode (.withNode ⟨"inn", "The Inn", "greeting", {}⟩ greeting)
    { id := "farewell", isEnd := true, effects := [.giveItem "bread"] }
  let well : Tree := .withNode (.withNode ⟨"well", "", "brink", {}⟩
    { id := "brink", next := some "depth" }) { id := "depth", isEnd := true }
  ({} : Session).register inn |>.register well

theorem start_inScope_of_tidy_hamlet :
    (Report.check hamlet.library .tree).dangling = [] ∧
      (Report.check hamlet.library .tree).collisions = [] ∧
      ∃ r, (hamlet.inScope .tree).start 3 "inn" {} ["1", "1"] = some r ∧
        r.result.endNode?.map Node.id = some "farewell" ∧
        (hamlet.inScope .global).start 3 "inn" {} ["1", "1"] =
          some { r with session := r.session.inScope .global } := by
  have links : (Report.check hamlet.library .tree).dangling = [] := by decide
  have distinct : (Report.check hamlet.library .tree).collisions = [] := by decide
  have hend : ((hamlet.inScope .tree).start 3 "inn" {} ["1", "1"]).map
      (·.result.endNode?.map Node.id) = some (some "farewell") := by decide
  obtain ⟨r, hr, hend⟩ := Option.map_eq_some_iff.1 hend
  refine ⟨links, distinct, r, hr, hend, ?_⟩
  rw [start_inScope_of_tidy links distinct, hr]
  rfl

end Session

end Dialogue
