import Dialogue.Session
import Dialogue.Proofs.Sorted
import Mathlib.Data.Finset.Card
import Mathlib.Data.List.Nodup

/-!
# What a library holds

A library is told by its ids and by what is found under them (`Library.ext_lookup`). After some
registrations the ids stand in the order in which they came first, and under each id stands the tree
that came last (`Library.Reflects`); registering a tree keeps this up (`Library.Reflects.register`),
so that it holds of every session that trees and content were delivered to
(`Session.reflects_deliveries`).
-/

namespace Dialogue

namespace Library
variable {l m : Library} {t u : Tree} {id : String} {k : Nat}

/-! ## Looking up -/

theorem lookup_eq_some_iff : l.lookup id = some t ↔ t ∈ l.trees ∧ t.id = id := by
  rw [lookup, Option.bind_eq_some_iff]
  constructor
  · rintro ⟨k, hk, ht⟩
    have hid := (l.indexed id k).1 hk
    rw [ht, Option.map_some, Option.some_inj] at hid
    exact ⟨List.mem_of_getElem? ht, hid⟩
  · rintro ⟨ht, hid⟩
    obtain ⟨k, hk⟩ := List.getElem?_of_mem ht
    refine ⟨k, (l.indexed id k).2 ?_, hk⟩
    rw [hk, Option.map_some, hid]

theorem mem_of_lookup (h : l.lookup id = some t) : t ∈ l.trees ∧ t.id = id :=
  lookup_eq_some_iff.1 h

theorem lookup_of_mem (h : t ∈ l.trees) : l.lookup t.id = some t :=
  lookup_eq_some_iff.2 ⟨h, rfl⟩

/-- Positions and ids belong to each other, so that no id stands at two positions. -/
theorem nodup (l : Library) : (l.trees.map Tree.id).Nodup := by
  rw [List.nodup_iff_getElem?_ne_getElem?]
  intro i j hij hj heq
  rw [List.length_map] at hj
  rw [List.getElem?_map, List.getElem?_map, List.getElem?_eq_getElem hj, Option.map_some] at heq
  have hi : l.index.get? l.trees[j].id = some i := (l.indexed _ i).2 heq
  have hj : l.index.get? l.trees[j].id = some j :=
    (l.indexed _ j).2 (by rw [List.getElem?_eq_getElem hj, Option.map_some])
  rw [hi, Option.some_inj] at hj
  exact Nat.ne_of_lt hij hj

theorem isSome_lookup : (l.lookup id).isSome = true ↔ id ∈ l.trees.map Tree.id := by
  rw [Option.isSome_iff_exists, List.mem_map]
  exact exists_congr fun t => lookup_eq_some_iff

theorem isSome_index : (l.index.get? id).isSome = true ↔ id ∈ l.trees.map Tree.id := by
  rw [Option.isSome_iff_exists, List.mem_iff_getElem?]
  refine exists_congr fun k => ?_
  rw [l.indexed id k, List.getElem?_map]

/-- Ids and what is found under them make up the trees. -/
theorem filterMap_lookup (l : Library) : (l.trees.map Tree.id).filterMap l.lookup = l.trees := by
  rw [List.filterMap_map]
  calc l.trees.filterMap (l.lookup ∘ Tree.id)
      = l.trees.filterMap some := List.filterMap_congr fun t ht => lookup_of_mem ht
    _ = l.trees := List.filterMap_some

theorem ext_trees (h : l.trees = m.trees) : l = m := by
  have hindex : l.index = m.index := by
    apply Table.ext_get?
    intro id
    apply Option.ext
    intro k
    rw [l.indexed id k, m.indexed id k, h]
  cases l
  cases m
  cases h
  cases hindex
  rfl

/-- Libraries with the same ids in the same order, and the same trees under them, are equal. -/
theorem ext_lookup (ids : l.trees.map Tree.id = m.trees.map Tree.id)
    (trees : ∀ id, l.lookup id = m.lookup id) : l = m := by
  apply ext_trees
  rw [← l.filterMap_lookup, ← m.filterMap_lookup, ids]
  exact congrArg (List.filterMap · _) (funext trees)

/-! ## Registering -/

/-- `Registers trees t old trees'`: the tree `t` has come to some trees. It takes the place of the
one with its id, or the last place if there was none. -/
inductive Registers (trees : List Tree) (t : Tree) : Option Tree → List Tree → Prop
  | anew (new : t.id ∉ trees.map Tree.id) : Registers trees t none (trees ++ [t])
  | again {before after : List Tree} {old : Tree} (place : trees = before ++ old :: after)
    (same : old.id = t.id) : Registers trees t (some old) (before ++ t :: after)

theorem put_of_some (h : l.index.get? t.id = some k) :
    (l.put t).1 = l.trees[k]? ∧ (l.put t).2.trees = l.trees.set k t ∧
      (l.put t).2.index = l.index := by
  unfold put
  split
  · next j hj =>
    cases h.symm.trans hj
    exact ⟨rfl, rfl, rfl⟩
  · next hnone => cases h.symm.trans hnone

theorem put_of_none (h : l.index.get? t.id = none) :
    (l.put t).1 = none ∧ (l.put t).2.trees = l.trees ++ [t] ∧
      (l.put t).2.index = l.index.set t.id l.trees.length := by
  unfold put
  split
  · next j hj => cases h.symm.trans hj
  · exact ⟨rfl, rfl, rfl⟩

/-- What comes with the library is the tree that has given way. -/
theorem registers_put (l : Library) (t : Tree) :
    Registers l.trees t (l.put t).1 (l.put t).2.trees := by
  cases h : l.index.get? t.id with
  | none =>
    obtain ⟨hold, htrees, -⟩ := put_of_none h
    rw [hold, htrees]
    apply Registers.anew
    rw [← isSome_index, h]
    exact Bool.false_ne_true
  | some k =>
    obtain ⟨hold, htrees, -⟩ := put_of_some h
    obtain ⟨old, hk, hid⟩ := Option.map_eq_some_iff.1 ((l.indexed t.id k).1 h)
    obtain ⟨hlt, hget⟩ := List.getElem?_eq_some_iff.1 hk
    rw [hold, htrees, hk, List.set_eq_take_append_cons_drop, if_pos hlt]
    refine .again ?_ hid
    rw [← hget, List.getElem_cons_drop, List.take_append_drop]

/-- A tree that is registered comes to the end or takes the place of another. -/
theorem register_cases (l : Library) (t : Tree) :
    (t.id ∉ l.trees.map Tree.id ∧ (l.register t).trees = l.trees ++ [t]) ∨
      ∃ before old after, l.trees = before ++ old :: after ∧ old.id = t.id ∧
        (l.register t).trees = before ++ t :: after := by
  have h := l.registers_put t
  rw [register]
  generalize (l.put t).1 = old, (l.put t).2.trees = trees at h
  cases h with
  | anew new => exact .inl ⟨new, rfl⟩
  | again place same => exact .inr ⟨_, _, _, place, same, rfl⟩

theorem mem_register (l : Library) (t : Tree) : t ∈ (l.register t).trees := by
  rcases l.register_cases t with ⟨-, htrees⟩ | ⟨before, old, after, -, -, htrees⟩
  · simp [htrees]
  · simp [htrees]

theorem mem_register_of_ne (hne : u.id ≠ t.id) : u ∈ (l.register t).trees ↔ u ∈ l.trees := by
  have hu : u ≠ t := fun h => hne (congrArg Tree.id h)
  rcases l.register_cases t with ⟨-, htrees⟩ | ⟨before, old, after, place, same, htrees⟩
  · simp [htrees, hu]
  · have hold : u ≠ old := fun h => hne (h ▸ same)
    simp [htrees, place, hu, hold]

theorem lookup_register (l : Library) (t : Tree) (id : String) :
    (l.register t).lookup id = if t.id = id then some t else l.lookup id := by
  split
  · next hid => exact lookup_eq_some_iff.2 ⟨l.mem_register t, hid⟩
  · next hid =>
    apply Option.ext
    intro u
    rw [lookup_eq_some_iff, lookup_eq_some_iff]
    refine and_congr_left fun hu => mem_register_of_ne ?_
    rw [hu]
    exact Ne.symm hid

theorem ids_register_of_mem (h : t.id ∈ l.trees.map Tree.id) :
    (l.register t).trees.map Tree.id = l.trees.map Tree.id := by
  rcases l.register_cases t with ⟨new, -⟩ | ⟨before, old, after, place, same, htrees⟩
  · exact (new h).elim
  · simp [htrees, place, same]

theorem ids_register_of_not_mem (h : t.id ∉ l.trees.map Tree.id) :
    (l.register t).trees.map Tree.id = l.trees.map Tree.id ++ [t.id] := by
  rcases l.register_cases t with ⟨-, htrees⟩ | ⟨before, old, after, place, same, -⟩
  · rw [htrees, List.map_append]
    rfl
  · exact (h (by simp [place, same])).elim

/-! ## What was registered -/

/-- The tree that was registered last under an id. -/
def latest (ts : List Tree) (id : String) : Option Tree := ts.reverse.find? (·.id == id)

theorem latest_append (ts us : List Tree) (id : String) :
    latest (ts ++ us) id = (latest us id).or (latest ts id) := by
  rw [latest, List.reverse_append, List.find?_append]
  rfl

theorem latest_singleton (t : Tree) (id : String) :
    latest [t] id = if t.id = id then some t else none := by
  by_cases h : t.id = id <;> simp [latest, h]

theorem isSome_latest {ts : List Tree} : (latest ts id).isSome = true ↔ id ∈ ts.map Tree.id := by
  simp [latest, List.find?_isSome]

theorem lookup_foldl_register (us : List Tree) (l : Library) (id : String) :
    (us.foldl register l).lookup id = (latest us id).or (l.lookup id) := by
  induction us generalizing l with
  | nil => rfl
  | cons t us ih =>
    have hlatest : latest (t :: us) id = (latest us id).or (latest [t] id) :=
      latest_append [t] us id
    rw [List.foldl_cons, ih, lookup_register, hlatest, latest_singleton, Option.or_assoc]
    split <;> simp

theorem ids_foldl_register_of_mem {us : List Tree}
    (h : ∀ t ∈ us, t.id ∈ l.trees.map Tree.id) :
    (us.foldl register l).trees.map Tree.id = l.trees.map Tree.id := by
  induction us generalizing l with
  | nil => rfl
  | cons t us ih =>
    obtain ⟨ht, hus⟩ := List.forall_mem_cons.1 h
    have hids := ids_register_of_mem ht
    rw [List.foldl_cons, ih (hids ▸ hus), hids]

/-- Trees that were all registered just now may be registered again in the same order. -/
theorem foldl_register_twice (us : List Tree) (l : Library) :
    us.foldl register (us.foldl register l) = us.foldl register l := by
  apply ext_lookup
  · apply ids_foldl_register_of_mem
    intro t ht
    have hlatest := isSome_latest.2 (List.mem_map_of_mem ht)
    rw [← isSome_lookup, lookup_foldl_register, Option.isSome_or, hlatest, Bool.true_or]
  · intro id
    rw [lookup_foldl_register us (us.foldl register l), lookup_foldl_register, ← Option.or_assoc,
      Option.or_self]

/-- The library is what some registrations have made of an empty one. -/
structure Reflects (l : Library) (ts : List Tree) : Prop where
  ids (id : String) : id ∈ l.trees.map Tree.id ↔ id ∈ ts.map Tree.id
  /-- Each id stands there once. -/
  once : (l.trees.map Tree.id).Nodup
  /-- An id stands before those that came first after it had come first. -/
  order : (l.trees.map Tree.id).Pairwise fun a b =>
    (ts.map Tree.id).idxOf a < (ts.map Tree.id).idxOf b
  size : l.size = (ts.map Tree.id).toFinset.card
  lookup (id : String) : l.lookup id = latest ts id
  /-- A position in the index is that of the tree with the id. -/
  index (id : String) (k : Nat) :
    l.index.get? id = some k → ∃ h : k < l.trees.length, l.trees[k].id = id
  /-- Every tree is in the index. -/
  complete (k : Nat) (h : k < l.trees.length) : l.index.get? l.trees[k].id = some k
  /-- A node is that of the first tree which has it in the version that came last. -/
  resolve (node : String) (n : Node) : l.resolve node = some n ↔
    ∃ before id after t, l.trees.map Tree.id = before ++ id :: after ∧ latest ts id = some t ∧
      t.node? node = some n ∧
      ∀ earlier ∈ before, ∀ u, latest ts earlier = some u → u.node? node = none
  unresolved (node : String) :
    l.resolve node = none ↔ ∀ id t, latest ts id = some t → t.node? node = none

namespace Reflects
variable {ts : List Tree}

/-- The order of the ids and what is found under them say all the rest. -/
theorem of_lookup
    (order : (l.trees.map Tree.id).Pairwise fun a b =>
      (ts.map Tree.id).idxOf a < (ts.map Tree.id).idxOf b)
    (lookup : ∀ id, l.lookup id = latest ts id) : l.Reflects ts := by
  have ids (id : String) : id ∈ l.trees.map Tree.id ↔ id ∈ ts.map Tree.id := by
    rw [← isSome_lookup, lookup, isSome_latest]
  have found {t : Tree} (ht : t ∈ l.trees) : latest ts t.id = some t :=
    (lookup t.id).symm.trans (lookup_of_mem ht)
  refine ⟨ids, l.nodup, order, ?_, lookup, fun id k hk => ?_, fun k hk => ?_, fun node n => ?_,
    fun node => ?_⟩
  · have hsame : (l.trees.map Tree.id).toFinset = (ts.map Tree.id).toFinset :=
      Finset.ext fun id => by rw [List.mem_toFinset, List.mem_toFinset, ids]
    rw [← hsame, List.toFinset_card_of_nodup l.nodup, List.length_map, Library.size]
  · obtain ⟨t, ht, hid⟩ := Option.map_eq_some_iff.1 ((l.indexed id k).1 hk)
    obtain ⟨hlt, rfl⟩ := List.getElem?_eq_some_iff.1 ht
    exact ⟨hlt, hid⟩
  · rw [l.indexed, List.getElem?_eq_getElem hk, Option.map_some]
  · rw [Library.resolve, List.findSome?_eq_some_iff]
    constructor
    · rintro ⟨before, t, after, htrees, hnode, hbefore⟩
      refine ⟨before.map Tree.id, t.id, after.map Tree.id, t, by simp [htrees],
        found (by simp [htrees]), hnode, fun earlier hearlier u hu => ?_⟩
      obtain ⟨v, hv, rfl⟩ := List.mem_map.1 hearlier
      have hfound : latest ts v.id = some v := found (by simp [htrees, hv])
      cases hfound.symm.trans hu
      exact hbefore u hv
    · rintro ⟨before, id, after, t, hids, ht, hnode, hbefore⟩
      obtain ⟨before, rest, htrees, rfl, hrest⟩ := List.map_eq_append_iff.1 hids
      obtain ⟨u, after, rfl, rfl, rfl⟩ := List.map_eq_cons_iff.1 hrest
      have hfound : latest ts u.id = some u := found (by simp [htrees])
      cases hfound.symm.trans ht
      refine ⟨before, t, after, htrees, hnode, fun v hv => ?_⟩
      exact hbefore v.id (List.mem_map_of_mem hv) v (found (by simp [htrees, hv]))
  · rw [Library.resolve, List.findSome?_eq_none_iff]
    constructor
    · intro h id t ht
      exact h t (mem_of_lookup ((lookup id).trans ht)).1
    · intro h t ht
      exact h t.id t (found ht)

theorem empty : Library.empty.Reflects [] := of_lookup .nil fun _ => rfl

theorem register (h : l.Reflects ts) (t : Tree) : (l.register t).Reflects (ts ++ [t]) := by
  refine of_lookup ?_ fun id => ?_
  · -- among ids that were there before, nothing changes
    have horder : (l.trees.map Tree.id).Pairwise fun a b =>
        ((ts ++ [t]).map Tree.id).idxOf a < ((ts ++ [t]).map Tree.id).idxOf b := by
      refine h.order.imp_of_mem fun {a b} ha hb hab => ?_
      rwa [List.map_append, List.idxOf_append_of_mem ((h.ids a).1 ha),
        List.idxOf_append_of_mem ((h.ids b).1 hb)]
    by_cases hmem : t.id ∈ l.trees.map Tree.id
    · rwa [ids_register_of_mem hmem]
    · rw [ids_register_of_not_mem hmem]
      refine List.pairwise_append.2 ⟨horder, List.pairwise_singleton .., fun a ha b hb => ?_⟩
      rw [List.mem_singleton.1 hb, List.map_append, List.idxOf_append_of_mem ((h.ids a).1 ha),
        List.idxOf_append_of_notMem fun hin => hmem ((h.ids _).2 hin)]
      exact Nat.lt_add_right _ (List.idxOf_lt_length_of_mem ((h.ids a).1 ha))
  · rw [lookup_register, h.lookup, latest_append, latest_singleton]
    split <;> simp

theorem foldl_register (h : l.Reflects ts) (us : List Tree) :
    (us.foldl Library.register l).Reflects (ts ++ us) := by
  induction us generalizing l ts with
  | nil => rwa [List.append_nil]
  | cons t us ih =>
    rw [List.append_cons]
    exact ih (h.register t)

end Reflects

end Library

/-! ## Colors of speakers -/

/-- Of the values put under a name, the last one is found there. -/
theorem Table.get?_foldl_set {α β : Type} (key : α → String) (value : α → β) (es : List α)
    (t : Table β) (k : String) :
    (es.foldl (fun t e => t.set (key e) (value e)) t).get? k =
      ((es.reverse.find? (key · == k)).map value).or (t.get? k) := by
  induction es generalizing t with
  | nil => rfl
  | cons e es ih =>
    rw [List.foldl_cons, ih, Table.get?_set, List.reverse_cons, List.find?_append]
    cases es.reverse.find? (key · == k) with
    | some e' => rfl
    | none =>
      rw [Option.map_none, Option.none_or, Option.none_or]
      by_cases hk : key e = k <;> simp [hk]

theorem Table.foldl_set_twice {α β : Type} (key : α → String) (value : α → β) (es : List α)
    (t : Table β) :
    es.foldl (fun t e => t.set (key e) (value e))
        (es.foldl (fun t e => t.set (key e) (value e)) t) =
      es.foldl (fun t e => t.set (key e) (value e)) t := by
  apply Table.ext_get?
  intro k
  rw [Table.get?_foldl_set, Table.get?_foldl_set, ← Option.or_assoc, Option.or_self]

/-- Speakers are given colors one after another, whatever the case of their names. -/
theorem Config.foldl_withSpeaker (es : List (String × Color)) (c : Config) :
    es.foldl (fun c e => c.withSpeaker e.1 e.2) c =
      { c with speakers := es.foldl (fun t e => t.set (Text.lowercase e.1) e.2) c.speakers } := by
  induction es generalizing c with
  | nil => rfl
  | cons e es ih => exact ih (c.withSpeaker e.1 e.2)

/-! ## Sessions -/

/-- What a session is stocked with: single trees, or the content of a file. -/
inductive Delivery where
  | tree (t : Tree)
  | content (c : Content)

/-- The trees that are delivered, in order. -/
def Delivery.trees : Delivery → List Tree
  | .tree t => [t]
  | .content c => c.trees

namespace Session

def receive (s : Session) : Delivery → Session
  | .tree t => s.register t
  | .content c => s.install c

theorem library_receive (s : Session) (d : Delivery) :
    (s.receive d).library = d.trees.foldl Library.register s.library := by
  cases d with
  | tree | content => rfl

theorem foldl_receive {s : Session} {ts : List Tree} (ds : List Delivery)
    (h : s.library.Reflects ts) :
    (ds.foldl receive s).library.Reflects (ts ++ ds.flatMap Delivery.trees) := by
  induction ds generalizing s ts with
  | nil => simpa using h
  | cons d ds ih =>
    rw [List.foldl_cons, List.flatMap_cons, ← List.append_assoc]
    apply ih
    rw [library_receive]
    exact h.foldl_register d.trees

theorem install_twice (s : Session) (c : Content) : (s.install c).install c = s.install c := by
  simp only [install, Config.foldl_withSpeaker, Library.foldl_register_twice,
    Table.foldl_set_twice (fun e : String × Color => Text.lowercase e.1) Prod.snd]

/-- **Trees and index of a library stay in step.** After any deliveries the library reflects the
registrations one by one: its ids in the order in which they came first, under each the tree that
came last, an index that agrees, and nodes of the first tree that has them now. What comes of a
further registration is the tree that has given way. Content that was installed may be installed
again at once without a change. -/
theorem reflects_deliveries (config : Config) (ds : List Delivery) :
    let s := ds.foldl receive { config }
    s.library.Reflects (ds.flatMap Delivery.trees) ∧
      (∀ t, Library.Registers s.library.trees t (s.library.put t).1 (s.register t).library.trees) ∧
      ∀ c, (s.install c).install c = s.install c := by
  intro s
  refine ⟨?_, fun t => s.library.registers_put t, s.install_twice⟩
  simpa using foldl_receive ds (s := { config }) .empty

/-- An inn; then a file with a road, a new inn and the road once more, and with two colors for the
host. -/
def rebuilding : List Delivery :=
  let inn : Tree := .withNode ⟨"inn", "Old Inn", "hall", {}⟩ { id := "hall", isEnd := true }
  let newInn : Tree := .withNode ⟨"inn", "New Inn", "yard", {}⟩ { id := "yard", isEnd := true }
  let road : Tree := .withNode ⟨"road", "", "hall", {}⟩ { id := "hall", next := some "yard" }
  let speakers : Table Color := Sorted.ofList [("HOST", .red), ("Host", .green)]
  [.tree inn, .content { speakers, trees := [road, newInn, road] }]

theorem reflects_deliveries_rebuilding :
    let s := rebuilding.foldl receive {}
    let ts := rebuilding.flatMap Delivery.trees
    ts.map Tree.id = ["inn", "road", "inn", "road"] ∧ s.library.size = 2 ∧
      (s.library.lookup "inn").map Tree.name = some "New Inn" ∧
      (s.library.index.get? "road" = some 1 ∧
        ∃ h : 1 < s.library.trees.length, s.library.trees[1].id = "road") ∧
      (∃ n t, s.library.resolve "hall" = some n ∧ Library.latest ts "road" = some t ∧
        t.node? "hall" = some n) ∧
      ∀ c, rebuilding.getLast? = some (.content c) → s.install c = s := by
  intro s ts
  obtain ⟨reflects, -, -⟩ := reflects_deliveries {} rebuilding
  have hroad : s.library.index.get? "road" = some 1 := by decide
  refine ⟨by decide, ?_, ?_, ⟨hroad, reflects.index "road" 1 hroad⟩, ?_, ?_⟩
  · rw [reflects.size]
    decide
  · rw [reflects.lookup]
    decide
  · obtain ⟨t, ht⟩ : ∃ t, Library.latest ts "road" = some t := ⟨_, rfl⟩
    obtain ⟨n, hn⟩ : ∃ n, t.node? "hall" = some n := by cases ht; exact ⟨_, rfl⟩
    refine ⟨n, t, (reflects.resolve "hall" n).2 ⟨["inn"], "road", [], t, by decide, ht, hn, ?_⟩,
      ht, hn⟩
    simp only [List.forall_mem_singleton]
    intro u hu
    cases hu
    rfl
  · rintro c ⟨⟩
    exact (reflects_deliveries {} (rebuilding.take 1)).2.2 _

end Session

end Dialogue
