import Dialogue.Proofs.Library
import Dialogue.Proofs.Presentation
import Dialogue.Proofs.Progress
import Mathlib.Data.Finset.Card
import Mathlib.Logic.Relation

/-!
# Dialogues come to an end

A dialogue goes round in circles only where the player is asked. From one prompt to the next it
follows successors and choices taken without asking (`Library.Leads`); where these have no cycle,
every spot has a rank which falls on the way (`Library.acyclic_iff_exists_rank`), while at a prompt
an input is used up. So a measure of inputs and rank falls from visit to visit
(`Stage.Stands.measure_lt`) and bounds every play (`Stage.exists_plays`). Each prompt but for the
last takes an input (`Machine.Plays.prompts_le`).
-/

namespace Dialogue
open Machine

/-! ## Spots -/

/-- Where a node stands: a tree, and a key in it. -/
structure Spot where
  tree : String
  key : String
  deriving DecidableEq

namespace Library
variable {l : Library} {scope : Scope} {x y : Spot} {n : Node} {tree target : String}

/-- All spots, tree by tree. -/
def spots (l : Library) : List Spot := l.trees.flatMap fun t => t.nodes.keys.map (Spot.mk t.id)

/-- How many nodes there are in all trees together. -/
def nodeCount (l : Library) : Nat := (l.trees.flatMap (·.nodes.toList)).length

def nodeAt (l : Library) (x : Spot) : Option Node := l.resolveIn x.tree x.key

/-- The spot of the node that is gone on to, looked up in the scope of a tree. -/
def spot? (l : Library) (scope : Scope) (tree target : String) : Option Spot :=
  match scope with
  | .global => (l.trees.find? fun t => (t.node? target).isSome).map fun t => ⟨t.id, target⟩
  | .tree => (l.resolveIn tree target).map fun _ => ⟨tree, target⟩

theorem length_spots (l : Library) : l.spots.length = l.nodeCount := by
  simp [spots, nodeCount, Sorted.keys, List.length_flatMap]

theorem mem_spots_of_nodeAt (h : l.nodeAt x = some n) : x ∈ l.spots := by
  obtain ⟨t, found, hn⟩ := Option.bind_eq_some_iff.1 h
  obtain ⟨ht, hid⟩ := mem_of_lookup found
  refine List.mem_flatMap.2 ⟨t, ht, List.mem_map.2 ⟨x.key, ?_, by rw [hid]⟩⟩
  exact Table.mem_keys_iff.2 (Option.isSome_of_eq_some hn)

/-- The node that is gone on to stands at this spot. -/
theorem successor_eq_spot? (l : Library) (scope : Scope) (tree target : String) :
    l.successor scope tree target = (l.spot? scope tree target).bind l.nodeAt := by
  cases scope with
  | tree =>
    rw [successor, spot?]
    cases h : l.resolveIn tree target with
    | none => rfl
    | some n => exact h.symm
  | global =>
    rw [successor, spot?, resolve]
    cases h : l.trees.find? fun t => (t.node? target).isSome with
    | none =>
      refine List.findSome?_eq_none_iff.2 fun t ht => ?_
      simpa using List.find?_eq_none.1 h t ht
    | some t =>
      obtain ⟨hsome, before, after, htrees, hbefore⟩ := List.find?_eq_some_iff_append.1 h
      obtain ⟨n, hn⟩ := Option.isSome_iff_exists.1 hsome
      have found : l.lookup t.id = some t := lookup_of_mem (by simp [htrees])
      rw [Option.map_some, Option.bind_some, nodeAt, resolveIn, found, Option.bind_some, hn]
      exact List.findSome?_eq_some_iff.2 ⟨before, t, after, htrees, hn, by simpa using hbefore⟩

theorem isSome_nodeAt_of_spot? (h : l.spot? scope tree target = some y) :
    (l.nodeAt y).isSome = true := by
  cases scope with
  | tree =>
    obtain ⟨n, hn, rfl⟩ := Option.map_eq_some_iff.1 h
    exact Option.isSome_of_eq_some hn
  | global =>
    obtain ⟨t, ht, rfl⟩ := Option.map_eq_some_iff.1 h
    rw [nodeAt, resolveIn, lookup_of_mem (List.mem_of_find?_eq_some ht)]
    exact List.find?_some (p := fun t => (Tree.node? t target).isSome) ht

theorem tree_of_spot? (h : l.spot? .tree tree target = some y) : y.tree = tree := by
  obtain ⟨n, -, rfl⟩ := Option.map_eq_some_iff.1 h
  rfl

end Library

/-! ## Ways on without asking -/

/-- The references that may be followed without asking the player: the successor, and choices of
that sort, whatever their gates. -/
def Node.unasked (n : Node) : List String :=
  n.next.toList ++ (n.choices.filter (·.autoSelect)).map (·.next)

namespace Library
variable {l : Library} {scope : Scope} {x y : Spot}

/-- Without asking, a dialogue may go on from the node at one spot to that at the other. -/
def Leads (l : Library) (scope : Scope) (x y : Spot) : Prop :=
  ∃ n ∈ l.nodeAt x, n.isEnd = false ∧
    ∃ target ∈ n.unasked, l.spot? scope x.tree target = some y

/-- Nobody is led in a circle without being asked. -/
def Acyclic (l : Library) (scope : Scope) : Prop := ∀ x, ¬Relation.TransGen (l.Leads scope) x x

theorem Leads.left_mem (h : l.Leads scope x y) : x ∈ l.spots := by
  obtain ⟨n, hn, -⟩ := h
  exact mem_spots_of_nodeAt hn

theorem Leads.right_mem (h : l.Leads scope x y) : y ∈ l.spots := by
  obtain ⟨_, -, -, _, -, hy⟩ := h
  obtain ⟨n, hn⟩ := Option.isSome_iff_exists.1 (isSome_nodeAt_of_spot? hy)
  exact mem_spots_of_nodeAt hn

/-- Where there is no cycle, the number of spots that one may be led to from a spot falls on the
way, and is less than that of all spots. -/
theorem acyclic_iff_exists_rank :
    l.Acyclic scope ↔ ∃ rank : Spot → Nat, (∀ x y, l.Leads scope x y → rank y < rank x) ∧
      ∀ x ∈ l.spots, rank x < l.nodeCount := by
  classical
  constructor
  · intro acyclic
    let below (x : Spot) : Finset Spot :=
      l.spots.toFinset.filter fun z => Relation.TransGen (l.Leads scope) x z
    have hself (x : Spot) : x ∉ below x := fun h => acyclic x (Finset.mem_filter.1 h).2
    refine ⟨fun x => (below x).card, fun x y leads => ?_, fun x hx => ?_⟩
    · refine Finset.card_lt_card ⟨fun z hz => ?_, fun hsub => ?_⟩
      · obtain ⟨hz, hyz⟩ := Finset.mem_filter.1 hz
        exact Finset.mem_filter.2 ⟨hz, .head leads hyz⟩
      · have hy : y ∈ below x :=
          Finset.mem_filter.2 ⟨List.mem_toFinset.2 leads.right_mem, .single leads⟩
        exact hself y (hsub hy)
    · calc (below x).card
          < l.spots.toFinset.card := Finset.card_lt_card
            ⟨Finset.filter_subset _ _, fun hsub => hself x (hsub (List.mem_toFinset.2 hx))⟩
        _ ≤ l.spots.length := List.toFinset_card_le _
        _ = l.nodeCount := l.length_spots
  · rintro ⟨rank, falls, -⟩ x cycle
    have hfalls {y z : Spot} (h : Relation.TransGen (l.Leads scope) y z) : rank z < rank y := by
      induction h with
      | single leads => exact falls _ _ leads
      | tail _ leads ih => exact Nat.lt_trans (falls _ _ leads) ih
    exact Nat.lt_irrefl _ (hfalls cycle)

end Library

/-! ## Prompts -/

theorem prompts_noticeActs (p : Profile) (effects : List Effect) :
    Act.prompts (noticeActs p effects) = 0 :=
  Act.prompts_eq_zero.2 (by simp [noticeActs])

theorem prompts_question (choices : List Choice) : Act.prompts (question choices) = 0 :=
  Act.prompts_eq_zero.2 (by simp [question, List.mem_mapIdx])

theorem prompts_refusals (rejected : List String) :
    Act.prompts (refusals rejected) = rejected.length := by
  induction rejected with
  | nil => rfl
  | cons r rejected ih =>
    have hone : Act.prompts [.prompt, .line "Please enter a valid choice." .red] = 1 := rfl
    rw [refusals, List.flatMap_cons, Act.prompts_append, ← refusals, ih, hone, Nat.add_comm]
    rfl

/-! ## Plays -/

/-- The node of a dialogue stands at this spot: in the tree that is played, if nodes are looked up
in it alone. -/
structure Stage.Stands (stage : Stage) (x : Spot) (n : Node) : Prop where
  node : stage.library.nodeAt x = some n
  tree : stage.scope = .tree → x.tree = stage.tree

section Plays
variable {stage : Stage} {x : Spot} {n next : Node} {p q : Profile} {inputs rest : List String}
  {said : List Act} {target : String} {departure : Departure}

theorem Stage.Stands.spot? (stands : stage.Stands x n) (found : stage.resolve target = some next) :
    ∃ y, stage.library.spot? stage.scope x.tree target = some y ∧ stage.Stands y next := by
  have htree : stage.library.spot? stage.scope x.tree target =
      stage.library.spot? stage.scope stage.tree target := by
    cases h : stage.scope with
    | global => rfl
    | tree => rw [stands.tree h]
  rw [Stage.resolve, Library.successor_eq_spot?, ← htree] at found
  obtain ⟨y, hy, hnext⟩ := Option.bind_eq_some_iff.1 found
  refine ⟨y, hy, hnext, fun h => ?_⟩
  rw [h] at hy
  rw [Library.tree_of_spot? hy, stands.tree h]

/-- Who goes on has followed a reference without asking, or has used up an input. -/
theorem Machine.Leaves.unasked_or_shorter
    (h : Leaves n p inputs said (.toward target) q rest) :
    (n.isEnd = false ∧ target ∈ n.unasked ∧ rest = inputs) ∨ rest.length < inputs.length := by
  cases h with
  | successor live _ next =>
    exact .inl ⟨live, List.mem_append_left _ (by simp [next]), rfl⟩
  | @automatic _ c live only auto =>
    have hc : c ∈ n.choices := List.mem_of_mem_filter (by rw [← Node.legal, only]; simp)
    refine .inl ⟨live, List.mem_append_right _ ?_, rfl⟩
    exact List.mem_map_of_mem (List.mem_filter.2 ⟨hc, auto⟩)
  | chosen => exact .inr (by simp; omega)

section Rank
variable {rank : Spot → Nat} {count : Nat}
  (falls : ∀ x y, stage.library.Leads stage.scope x y → rank y < rank x)
  (low : ∀ x ∈ stage.library.spots, rank x < count)
include falls low

/-- Going on lowers the measure of rank and inputs: an input outweighs every rank. -/
theorem Stage.Stands.measure_lt (stands : stage.Stands x n)
    (leaves : Leaves n p inputs said (.toward target) q rest)
    (found : stage.resolve target = some next) :
    ∃ y, stage.Stands y next ∧
      rank y + rest.length * count < rank x + inputs.length * count := by
  obtain ⟨y, hy, standsNext⟩ := stands.spot? found
  refine ⟨y, standsNext, ?_⟩
  rcases leaves.unasked_or_shorter with ⟨live, hmem, rfl⟩ | hshort
  · exact Nat.add_lt_add_right (falls x y ⟨n, stands.node, live, target, hmem, hy⟩) _
  · calc rank y + rest.length * count
        < count + rest.length * count :=
          Nat.add_lt_add_right (low y (Library.mem_spots_of_nodeAt standsNext.node)) _
      _ = (rest.length + 1) * count := by rw [Nat.succ_mul, Nat.add_comm]
      _ ≤ inputs.length * count := Nat.mul_le_mul_right _ hshort
      _ ≤ rank x + inputs.length * count := Nat.le_add_left ..

/-- From every spot there is a play, of no more visits than the measure allows. -/
theorem Stage.exists_plays (budget : Nat) (stands : stage.Stands x n) (p : Profile)
    (inputs : List String) (h : rank x + inputs.length * count < budget) :
    ∃ visits acts outcome, Plays stage n p inputs visits acts outcome ∧ visits.length ≤ budget := by
  induction budget generalizing x n p inputs with
  | zero => exact (Nat.not_lt_zero _ h).elim
  | succ budget ih =>
    have hone : 1 ≤ budget + 1 := Nat.le_add_left ..
    obtain ⟨said, departure, q, rest, leaves⟩ := exists_leaves n p inputs
    cases departure with
    | stop result => exact ⟨_, _, _, .stop leaves, hone⟩
    | toward target =>
      cases found : stage.resolve target with
      | none => exact ⟨_, _, _, .dangling leaves found, hone⟩
      | some next =>
        obtain ⟨y, standsNext, hless⟩ := stands.measure_lt falls low leaves found
        obtain ⟨visits, acts, outcome, plays, hlength⟩ :=
          ih standsNext q rest (Nat.lt_of_lt_of_le hless (Nat.le_of_lt_succ h))
        exact ⟨_, _, _, .go leaves found plays, Nat.succ_le_succ hlength⟩

end Rank

/-- Each prompt takes an input, unless there is none left, and that is the end. -/
theorem Machine.Leaves.prompts_said (h : Leaves n p inputs said departure q rest) :
    Act.prompts said + rest.length = inputs.length ∨
      departure = .stop .aborted ∧ Act.prompts said = inputs.length + 1 ∧ rest = [] := by
  have hask : Act.prompts [.prompt] = 1 := rfl
  cases h with
  | terminal | automatic => exact .inl (by rw [prompts_noticeActs, Nat.zero_add])
  | stuck | successor => exact .inl (Nat.zero_add _)
  | chosen | silence =>
    refine .inl ?_
    simp only [Act.prompts_append, prompts_noticeActs, prompts_question, prompts_refusals, hask,
      List.length_append, List.length_cons]
    omega
  | closed =>
    refine .inr ⟨rfl, ?_, rfl⟩
    simp only [Act.prompts_append, prompts_question, prompts_refusals, hask]
    omega

/-- A play asks once more than there are inputs at most. -/
theorem Machine.Plays.prompts_le {visits acts outcome}
    (h : Plays stage n p inputs visits acts outcome) :
    Act.prompts acts + outcome.unread.length ≤ inputs.length + 1 := by
  induction h with
  | stop leaves =>
    rw [Act.prompts_append, prompts_beat]
    rcases leaves.prompts_said with h | ⟨-, h, rfl⟩
    · dsimp only; omega
    · simp [h]
  | dangling leaves lost =>
    rw [Act.prompts_append, prompts_beat]
    rcases leaves.prompts_said with h | ⟨h, -⟩
    · dsimp only; omega
    · cases h
  | go leaves found _ ih =>
    rw [Act.prompts_append, Act.prompts_append, prompts_beat]
    rcases leaves.prompts_said with h | ⟨h, -⟩
    · omega
    · cases h

end Plays

/-! ## Dialogues of a session -/

namespace Session
variable {s : Session} {tree : String} {t : Tree} {root : Node} {p : Profile}
  {inputs : List String}

theorem stands_root (found : s.library.lookup tree = some t) (entry : t.rootNode? = some root) :
    (s.stage tree).Stands ⟨tree, t.root⟩ root :=
  ⟨Option.bind_eq_some_iff.2 ⟨t, found, entry⟩, fun _ => rfl⟩

theorem prompts_le_of_plays {visits : List (Node × Profile)} {r : Performance}
    (plays : Plays (s.stage tree) root p inputs visits (Act.transcript r.acts) r.outcome) :
    Act.prompts r.acts ≤ inputs.length + 1 := by
  have hle := plays.prompts_le
  rw [Act.prompts_transcript] at hle
  exact Nat.le_trans (Nat.le_add_right ..) hle

/-- **Dialogues come to an end.** Where nobody is led in a circle without being asked, every
dialogue comes to an end, whatever other choices lead back. It displays at most as many nodes as the
library has, once for each input and once more, which is also all the fuel that it takes; and it
asks once more at most than there are inputs. -/
theorem terminates_of_acyclic (acyclic : s.library.Acyclic s.config.scope) (tree : String)
    (p : Profile) (inputs : List String) :
    ∃ r visits, (∀ fuel, (inputs.length + 1) * s.library.nodeCount ≤ fuel →
        s.start fuel tree p inputs = some r) ∧
      s.Displays tree p inputs visits r ∧
      visits.length ≤ (inputs.length + 1) * s.library.nodeCount ∧
      Act.prompts r.acts ≤ inputs.length + 1 := by
  rcases s.entered_or_barred tree with ⟨t, root, found, entry⟩ | barred
  · obtain ⟨rank, falls, low⟩ := Library.acyclic_iff_exists_rank.1 acyclic
    have stands := stands_root found entry
    have hbudget : rank ⟨tree, t.root⟩ + inputs.length * s.library.nodeCount <
        (inputs.length + 1) * s.library.nodeCount := by
      rw [Nat.succ_mul, Nat.add_comm]
      exact Nat.add_lt_add_left (low _ (Library.mem_spots_of_nodeAt stands.node)) _
    obtain ⟨visits, acts, outcome, plays, hlength⟩ :=
      Stage.exists_plays falls low _ stands p inputs hbudget
    obtain ⟨r, hstart, rfl, rfl⟩ := start_of_plays found entry plays
    exact ⟨r, visits, fun fuel hfuel => hstart fuel (Nat.le_trans hlength hfuel),
      .of_plays found entry plays, hlength, prompts_le_of_plays plays⟩
  · obtain ⟨w, hrefuse⟩ := exists_refuse barred
    exact ⟨_, [], fun fuel _ => hrefuse fuel p inputs, .of_barred barred, Nat.zero_le _,
      Nat.zero_le _⟩

/-- A tavern, where one may play game after game until one leaves. -/
def tavern : Session :=
  let hall : Node :=
    { id := "hall"
      choices := [
        { text := "Play", next := "table", effects := [.addGold 3] },
        { text := "Leave", next := "street" }] }
  let table : Node :=
    { id := "table", choices := [{ text := "Stand up", next := "hall", autoSelect := true }] }
  let street : Node := { id := "street", isEnd := true }
  ({} : Session).register
    (((Tree.mk "tavern" "The Tavern" "hall" {}).withNode hall).withNode table |>.withNode street)

theorem terminates_of_acyclic_tavern :
    tavern.library.Acyclic .global ∧ tavern.library.nodeCount = 3 ∧
      ∃ r visits, tavern.start 15 "tavern" {} ["1", "one", "1", "2"] = some r ∧
        r.profile.player.gold = 6 ∧
        tavern.Displays "tavern" {} ["1", "one", "1", "2"] visits r ∧ visits.length ≤ 15 ∧
        Act.prompts r.acts ≤ 5 := by
  have hcount : tavern.library.nodeCount = 3 := by decide
  have acyclic : tavern.library.Acyclic .global := by
    refine Library.acyclic_iff_exists_rank.2 ⟨fun x => if x.key = "table" then 1 else 0, ?_, ?_⟩
    · intro x y leads
      have hall : ∀ x ∈ tavern.library.spots, ∀ n ∈ tavern.library.nodeAt x,
          ∀ target ∈ n.unasked, ∀ y ∈ tavern.library.spot? .global x.tree target,
            x.key = "table" ∧ y.key = "hall" := by decide
      have hx := leads.left_mem
      obtain ⟨n, hn, -, target, hmem, hy⟩ := leads
      obtain ⟨hx, hy⟩ := hall x hx n hn target hmem y hy
      simp [hx, hy]
    · intro x hx
      rw [hcount]
      dsimp only
      split <;> decide
  obtain ⟨r, visits, hstart, displays, hlength, hprompts⟩ :=
    terminates_of_acyclic (s := tavern) acyclic "tavern" {} ["1", "one", "1", "2"]
  rw [hcount] at hstart hlength
  have hr := hstart 15 (Nat.le_refl _)
  have hgold : (tavern.start 15 "tavern" {} ["1", "one", "1", "2"]).map (·.profile.player.gold) =
      some 6 := by decide
  rw [hr, Option.map_some, Option.some_inj] at hgold
  exact ⟨acyclic, hcount, r, visits, hr, hgold, displays, hlength, hprompts⟩

end Session

end Dialogue
