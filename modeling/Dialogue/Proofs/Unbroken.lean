import Dialogue.Command.Run
import Dialogue.Proofs.Except
import Dialogue.Proofs.Library
import Dialogue.Proofs.Machine

/-!
# Unbroken dialogues

A report without missing roots and dangling references, as a check that succeeds has it
(`Command.code_runCheck`), promises that no dialogue breaks off. The nodes of a play all stand in
some tree of the library, in the scope of the tree that is played (`Stage.Within`); a library
without dangling references leads from such a node to such nodes only
(`Report.Linked.within_of_leaves`), so that a play stops where its content says
(`Machine.Plays.unbroken`).
-/

namespace Dialogue
open Machine

/-! ## What a report promises -/

namespace Report
variable {l : Library} {scope : Scope}

/-- Every tree has its root. -/
theorem rootNode?_of_missingRoots {t : Tree} (roots : (check l scope).missingRoots = [])
    (h : t ∈ l.trees) : ∃ root, t.rootNode? = some root := by
  have hnone := List.filter_eq_nil_iff.1 (List.map_eq_nil_iff.1 roots) t h
  exact Option.ne_none_iff_exists'.1 (by simpa using hnone)

/-- All ways on from nodes where no dialogue ends lead to nodes that are found. -/
def Linked (l : Library) (scope : Scope) : Prop :=
  ∀ t ∈ l.trees, ∀ e ∈ t.nodes.toList, e.2.isEnd = false → ∀ target ∈ e.2.targets,
    resolves l scope t target = true

theorem linked_of_dangling (links : (check l scope).dangling = []) : Linked l scope := by
  intro t ht e he live target htarget
  have hfrom : danglingFrom l scope t e = [] :=
    List.flatMap_eq_nil_iff.1 (List.flatMap_eq_nil_iff.1 links t ht) e he
  rw [danglingFrom, if_neg (by simp [live])] at hfrom
  simpa using List.filter_eq_nil_iff.1 (List.map_eq_nil_iff.1 hfrom) target htarget

end Report

/-! ## Plays in a library -/

/-- The node stands in some tree of the library: in the tree that is played, if nodes are looked up
in it alone. -/
def Stage.Within (stage : Stage) (n : Node) : Prop :=
  ∃ t ∈ stage.library.trees, (stage.scope = .tree → t.id = stage.tree) ∧
    ∃ id, (id, n) ∈ t.nodes.toList

/-- The nodes that a stage finds are within it. -/
theorem Stage.within_of_resolve {stage : Stage} {target : String} {next : Node}
    (found : stage.resolve target = some next) : stage.Within next := by
  unfold resolve Library.successor at found
  cases hs : stage.scope with
  | global =>
    rw [hs] at found
    obtain ⟨t, ht, hnode⟩ := List.exists_of_findSome?_eq_some found
    exact ⟨t, ht, fun h => by simp [hs] at h, target, Table.mem_of_get? hnode⟩
  | tree =>
    rw [hs] at found
    obtain ⟨t, hlookup, hnode⟩ := Option.bind_eq_some_iff.1 found
    obtain ⟨ht, hid⟩ := Library.mem_of_lookup hlookup
    exact ⟨t, ht, fun _ => hid, target, Table.mem_of_get? hnode⟩

/-- A dialogue goes on to nodes that its node names. -/
theorem Machine.Leaves.live_and_mem_targets
    (h : Leaves n p inputs said (.toward target) q rest) :
    n.isEnd = false ∧ target ∈ n.targets := by
  have hchoice {c : Choice} (hc : c ∈ n.legal p) : c.next ∈ n.targets :=
    List.mem_append_right _ (List.mem_map_of_mem (List.mem_filter.1 hc).1)
  cases h with
  | successor live _ next => exact ⟨live, List.mem_append_left _ (by simp [next])⟩
  | automatic live only => exact ⟨live, hchoice (by simp [only])⟩
  | chosen asks _ _ listed => exact ⟨asks.live, hchoice (List.mem_of_getElem? listed)⟩

/-- From a node of the library the way on leads to a node of the library. -/
theorem Report.Linked.within_of_leaves {stage : Stage}
    (linked : Report.Linked stage.library stage.scope) (within : stage.Within n)
    (h : Leaves n p inputs said (.toward target) q rest) :
    ∃ next, stage.resolve target = some next ∧ stage.Within next := by
  obtain ⟨live, htarget⟩ := h.live_and_mem_targets
  obtain ⟨t, ht, hscope, id, hn⟩ := within
  have hfound := linked t ht (id, n) hn live target htarget
  have hresolve : (stage.resolve target).isSome := by
    unfold Stage.resolve Library.successor
    cases hs : stage.scope with
    | global =>
      rw [hs] at hfound
      exact hfound
    | tree =>
      rw [hs] at hfound
      have hlookup : stage.library.lookup stage.tree = some t :=
        hscope hs ▸ Library.lookup_of_mem ht
      have hnode : (t.node? target).isSome := hfound
      simpa [Library.resolveIn, hlookup] using hnode
  obtain ⟨next, hnext⟩ := Option.isSome_iff_exists.1 hresolve
  exact ⟨next, hnext, Stage.within_of_resolve hnext⟩

/-- Without dangling references, a stage that finds all nodes which another one finds has the same
runs. -/
theorem Report.Linked.run_eq {a b : Stage} (linked : Report.Linked b.library b.scope)
    (visits : a.visit = b.visit)
    (finds : ∀ target next, b.resolve target = some next → a.resolve target = some next)
    (fuel : Nat) (within : b.Within n) (p : Profile) (inputs : List String) :
    a.run fuel n p inputs = b.run fuel n p inputs := by
  refine Stage.run_congr visits (fun n p inputs within => ?_) fuel within p inputs
  obtain ⟨said, leaves, -⟩ := exists_leaves_visit b n p inputs
  cases hd : (b.visit n p inputs).departure with
  | stop result =>
    rw [Stage.follow_of_stop hd, Stage.follow_of_stop hd]
    exact ⟨rfl, nofun⟩
  | toward target =>
    rw [hd] at leaves
    obtain ⟨next, hnext, hwithin⟩ := linked.within_of_leaves within leaves
    rw [Stage.follow_of_toward hd, Stage.follow_of_toward hd, hnext]
    refine ⟨finds target next hnext, fun m hm => ?_⟩
    cases hm
    exact hwithin

/-- The dialogue has come to an end of its content: to a node where it ends, or to one without a
successor and without a choice for the profile. -/
def Node.EndsFor (n : Node) (p : Profile) : Prop :=
  n.isEnd = true ∨ (∀ c ∈ n.choices, gateOpen p c.condition = false) ∧ n.next = none

/-- A machine that stops at a node stops where the content ends. -/
theorem Machine.Leaves.endsFor (h : Leaves n p inputs said (.stop (.completed m)) q rest) :
    m.EndsFor q := by
  cases h with
  | terminal ended => exact .inl ended
  | stuck _ barred last =>
    exact .inr ⟨fun c hc => by simpa using List.filter_eq_nil_iff.1 barred c hc, last⟩

/-- Plays in a library without dangling references do not break off. -/
theorem Machine.Plays.unbroken {stage : Stage} {visits acts outcome}
    (h : Plays stage n p inputs visits acts outcome)
    (linked : Report.Linked stage.library stage.scope) (within : stage.Within n) :
    outcome.dangling = false ∧
      ∀ m, outcome.result = .completed m → m.EndsFor outcome.profile := by
  induction h with
  | stop leaves => exact ⟨rfl, fun m hm => by cases hm; exact leaves.endsFor⟩
  | dangling leaves lost =>
    obtain ⟨next, hnext, -⟩ := linked.within_of_leaves within leaves
    simp [lost] at hnext
  | go leaves found _ ih =>
    obtain ⟨next, hnext, hwithin⟩ := linked.within_of_leaves within leaves
    cases found.symm.trans hnext
    exact ih hwithin

/-! ## Dialogues of a session -/

namespace Session
variable {s : Session} {t : Tree} {root : Node}

/-- The root of a tree is within the stage of its dialogue. -/
theorem within_root (h : t ∈ s.library.trees) (entry : t.rootNode? = some root) :
    (s.stage t.id).Within root :=
  ⟨t, h, fun _ => rfl, t.root, Table.mem_of_get? entry⟩

/-- What a dialogue shows begins with its root. -/
theorem beat_prefix_of_plays {stage : Stage} {visits acts outcome}
    (h : Plays stage n p inputs visits acts outcome) : beat stage p n <+: acts := by
  cases h with
  | stop | dangling => exact List.prefix_append ..
  | go => rw [List.append_assoc]; exact List.prefix_append ..

theorem warning_of_start {r : Performance} (found : s.library.lookup tree = some t)
    (entry : t.rootNode? = some root) (h : s.start fuel tree p inputs = some r) :
    r.warning = if r.outcome.dangling then some .danglingReference else none := by
  rw [start_of_entered found entry] at h
  obtain ⟨run, -, rfl⟩ := Option.map_eq_some_iff.1 h
  rw [performance_outcome]
  rfl

end Session

/-- The check of a directory succeeds just when its content has neither missing roots nor dangling
references. -/
theorem Command.code_runCheck {files : Snapshot} {colors : Bool} {directory : String}
    {scope : Scope} {s : Session} (h : openSession files.disk directory { scope } = .ok s) :
    (runCheck files colors directory scope).code = 0 ↔
      (Report.check s.library scope).missingRoots = [] ∧
        (Report.check s.library scope).dangling = [] := by
  simp only [runCheck, checkReply, h, Report.errorCount, Nat.add_eq_zero_iff,
    List.length_eq_zero_iff]
  split
  · next hr => simp [Reply.leaving, Outcome.code, hr]
  · next hr => simp [Reply.leaving, Outcome.code, hr]

namespace Session

/-- **A report without missing roots and dangling references promises unbroken dialogues.** The
check of some content succeeds if and only if its report is such a one. Then every tree is entered
at its root; a dialogue that is over has met no reference to a node that is not there, and has been
broken off by the player or come to an end of its content. -/
theorem unbroken_of_check (s : Session) :
    (∀ files colors directory,
      Command.openSession files.disk directory { scope := s.config.scope } = .ok s →
        ((Command.runCheck files colors directory s.config.scope).code = 0 ↔
          (Report.check s.library s.config.scope).missingRoots = [] ∧
            (Report.check s.library s.config.scope).dangling = [])) ∧
    ((Report.check s.library s.config.scope).missingRoots = [] →
      (Report.check s.library s.config.scope).dangling = [] →
      ∀ t ∈ s.library.trees, ∃ root, t.rootNode? = some root ∧
        ∀ p inputs fuel r, s.start fuel t.id p inputs = some r →
          beat (s.stage t.id) p root <+: Act.transcript r.acts ∧ r.warning = none ∧
            ∀ n, r.result = .completed n → n.EndsFor r.profile) := by
  refine ⟨fun _ _ _ h => Command.code_runCheck h, fun roots links t ht => ?_⟩
  obtain ⟨root, entry⟩ := Report.rootNode?_of_missingRoots roots ht
  refine ⟨root, entry, fun p inputs fuel r h => ?_⟩
  have found := Library.lookup_of_mem ht
  obtain ⟨visits, hplays⟩ := plays_of_start found entry h
  obtain ⟨hdangling, hends⟩ :=
    hplays.unbroken (Report.linked_of_dangling links) (within_root ht entry)
  refine ⟨beat_prefix_of_plays hplays, ?_, hends⟩
  rw [warning_of_start found entry h, hdangling]
  rfl

/-- A path that ends at a gate. -/
def pathFiles : Snapshot where
  home := "/game"
  entries := Sorted.ofList [("path.json", .file (String.toUTF8
    ("\x7b\"trees\":[[\"path\",\"\",\"walk\",[[\"walk\",null,[],\"gate\",[]]," ++
      "[\"gate\",null,[],null,[],null,true]]]]\x7d")))]

theorem unbroken_of_check_wayside :
    ((Report.check wayside.library .global).missingRoots = [] ∧
      (Report.check wayside.library .global).dangling = [] ∧
      ∃ r n, wayside.start 3 "road" {} ["2", "1"] = some r ∧ r.warning = none ∧
        r.result = .completed n ∧ n.id = "farewell" ∧ n.EndsFor r.profile) ∧
    ∃ s, Command.openSession pathFiles.disk "." { scope := s.config.scope } = .ok s ∧
      (Command.runCheck pathFiles true "." s.config.scope).code = 0 ∧
      (Report.check s.library s.config.scope).missingRoots = [] ∧
      (Report.check s.library s.config.scope).dangling = [] := by
  constructor
  · have roots : (Report.check wayside.library .global).missingRoots = [] := by decide
    have links : (Report.check wayside.library .global).dangling = [] := by decide
    have hend : (wayside.start 3 "road" {} ["2", "1"]).map (·.result.endNode?.map Node.id) =
        some (some "farewell") := by decide
    obtain ⟨r, hr, hend⟩ := Option.map_eq_some_iff.1 hend
    obtain ⟨t, ht⟩ : ∃ t, wayside.library.lookup "road" = some t := ⟨_, rfl⟩
    obtain ⟨hmem, hid⟩ := Library.mem_of_lookup ht
    obtain ⟨_, _, hall⟩ := (unbroken_of_check wayside).2 roots links t hmem
    obtain ⟨-, hwarning, hends⟩ := hall {} ["2", "1"] 3 r (hid ▸ hr)
    cases hn : r.result with
    | aborted => simp [hn, Result.endNode?] at hend
    | completed n =>
      exact ⟨roots, links, r, n, hr, hwarning, hn, by simpa [hn, Result.endNode?] using hend,
        hends n hn⟩
  · have hopen : (Command.openSession pathFiles.disk "." {}).toOption.map (·.config.scope) =
        some .global := by decide +kernel
    obtain ⟨s, hs, hscope⟩ := Option.map_eq_some_iff.1 hopen
    have hopen : Command.openSession pathFiles.disk "." { scope := s.config.scope } = .ok s := by
      rw [hscope]
      exact eq_ok_of_toOption hs
    have hcode : (Command.runCheck pathFiles true "." s.config.scope).code = 0 := by
      rw [hscope]
      decide +kernel
    exact ⟨s, hopen, hcode, ((unbroken_of_check s).1 _ _ _ hopen).1 hcode⟩

end Session

end Dialogue
