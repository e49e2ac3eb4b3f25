import Dialogue.Report
import Dialogue.Proofs.Termination

/-!
# What a report lists

A report lists what is wrong with a library, each time it is wrong, in the order in which the
library is read: tree by tree as they came, node by node as their ids are sorted, the successor
before the choices. A list of this sort has one entry for each place where something is found
(`Enumerates`), and there is only one such list (`Enumerates.unique`). The lists of the parts make
up the list of the whole (`Enumerates.flatMap`), which leads from the ways on from a node up to a
library.
-/

namespace Dialogue

/-! ## Lists of what is found -/

/-- The list has one entry for each place where something is found, in the order of the places. -/
def Enumerates {α π : Type} (before : π → π → Prop) (found : π → α → Prop) (l : List α) : Prop :=
  ∃ entries : List (π × α), entries.Pairwise (fun x y => before x.1 y.1) ∧
    (∀ place a, (place, a) ∈ entries ↔ found place a) ∧ entries.map Prod.snd = l

namespace Enumerates
variable {α β π κ : Type} {before : π → π → Prop} {earlier : κ → κ → Prop}
  {found found' : π → α → Prop} {l l' : List α} {xs : List β} {key : β → κ}

theorem congr (same : ∀ place a, found place a ↔ found' place a) (h : Enumerates before found l) :
    Enumerates before found' l := by
  obtain ⟨entries, hsorted, hfound, hl⟩ := h
  exact ⟨entries, hsorted, fun place a => (hfound place a).trans (same place a), hl⟩

/-- What is found, and the order of the places, determine the list. -/
theorem unique [Std.Asymm before] (h : Enumerates before found l)
    (h' : Enumerates before found l') : l = l' := by
  obtain ⟨entries, hsorted, hfound, rfl⟩ := h
  obtain ⟨entries', hsorted', hfound', rfl⟩ := h'
  have hnodup {m : List (π × α)} (hm : m.Pairwise fun x y => before x.1 y.1) : m.Nodup := by
    refine hm.imp fun {x y} hlt heq => ?_
    subst heq
    exact Std.Asymm.asymm _ _ hlt hlt
  have hperm : entries.Perm entries' := (List.perm_ext_iff_of_nodup (hnodup hsorted)
    (hnodup hsorted')).2 fun e => (hfound e.1 e.2).trans (hfound' e.1 e.2).symm
  exact congrArg _ (hperm.eq_of_pairwise
    (fun x y _ _ hlt hgt => (Std.Asymm.asymm x.1 y.1 hlt hgt).elim) hsorted hsorted')

/-- Nothing is found anywhere. -/
theorem nil (nowhere : ∀ place a, ¬found place a) : Enumerates before found [] :=
  ⟨[], .nil, fun place a => iff_of_false (by simp) (nowhere place a), rfl⟩

/-- What is found in one part comes before what is found in another. -/
theorem append (h : Enumerates before found l) (h' : Enumerates before found' l')
    (apart : ∀ place a, found place a → ∀ place' a', found' place' a' → before place place') :
    Enumerates before (fun place a => found place a ∨ found' place a) (l ++ l') := by
  obtain ⟨entries, hsorted, hfound, rfl⟩ := h
  obtain ⟨entries', hsorted', hfound', rfl⟩ := h'
  refine ⟨entries ++ entries', List.pairwise_append.2 ⟨hsorted, hsorted', fun e he e' he' => ?_⟩,
    fun place a => ?_, List.map_append⟩
  · exact apart e.1 e.2 ((hfound _ _).1 he) e'.1 e'.2 ((hfound' _ _).1 he')
  · rw [List.mem_append, hfound, hfound']

/-- The places, told in another way. -/
theorem map_place {before' : κ → κ → Prop} (h : Enumerates before found l) (f : π → κ)
    (mono : ∀ place place', before place place' → before' (f place) (f place')) :
    Enumerates before' (fun place a => ∃ place', f place' = place ∧ found place' a) l := by
  obtain ⟨entries, hsorted, hfound, rfl⟩ := h
  refine ⟨entries.map fun e => (f e.1, e.2), List.pairwise_map.2 (hsorted.imp (mono _ _)),
    fun place a => ?_, by rw [List.map_map]; rfl⟩
  rw [List.mem_map]
  constructor
  · rintro ⟨e, he, heq⟩
    cases heq
    exact ⟨e.1, rfl, (hfound _ _).1 he⟩
  · rintro ⟨place', rfl, ha⟩
    exact ⟨(place', a), (hfound _ _).2 ha, rfl⟩

/-- Of elements in the order of their keys, those that are found. -/
theorem map_filter (sorted : xs.Pairwise fun x y => earlier (key x) (key y)) (p : β → Bool)
    (g : β → α) :
    Enumerates earlier (fun k a => ∃ x ∈ xs, key x = k ∧ p x = true ∧ g x = a)
      ((xs.filter p).map g) := by
  refine ⟨(xs.filter p).map fun x => (key x, g x), List.pairwise_map.2 (sorted.filter p),
    fun k a => ?_, by rw [List.map_map]; rfl⟩
  rw [List.mem_map]
  constructor
  · rintro ⟨x, hx, heq⟩
    cases heq
    exact ⟨x, (List.mem_filter.1 hx).1, rfl, (List.mem_filter.1 hx).2, rfl⟩
  · rintro ⟨x, hx, rfl, hp, rfl⟩
    exact ⟨x, List.mem_filter.2 ⟨hx, hp⟩, rfl⟩

/-- Of elements in the order of their keys, all that is found in each. -/
theorem flatMap {f : β → List α} {found : β → π → α → Prop}
    (sorted : xs.Pairwise fun x y => earlier (key x) (key y))
    (each : ∀ x ∈ xs, Enumerates before (found x) (f x)) :
    Enumerates (Prod.Lex earlier before)
      (fun place a => ∃ x ∈ xs, key x = place.1 ∧ found x place.2 a) (xs.flatMap f) := by
  induction xs with
  | nil => exact nil (by simp)
  | cons x xs ih =>
    obtain ⟨hx, hxs⟩ := List.pairwise_cons.1 sorted
    obtain ⟨each, hrest⟩ := List.forall_mem_cons.1 each
    have hmono (place place' : π) (h : before place place') :
        Prod.Lex earlier before (key x, place) (key x, place') := .right _ h
    have hfirst := each.map_place (Prod.mk (key x)) hmono
    refine congr (fun place a => ?_) (hfirst.append (ih hxs hrest) ?_)
    · simp only [List.mem_cons, exists_eq_or_imp]
      refine or_congr_left ⟨?_, ?_⟩
      · rintro ⟨inner, rfl, ha⟩
        exact ⟨rfl, ha⟩
      · rintro ⟨hkey, ha⟩
        exact ⟨place.2, Prod.ext hkey rfl, ha⟩
    · rintro _ a ⟨inner, rfl, -⟩ ⟨k, inner'⟩ a' ⟨y, hy, rfl, -⟩
      exact .left _ _ (hx y hy)

/-! Elements of a list in the order of their positions. -/

theorem zipIdx_sorted (xs : List β) : xs.zipIdx.Pairwise fun x y => x.2 < y.2 := by
  have hpositions : (xs.zipIdx.map Prod.snd).Pairwise (· < ·) := by
    rw [List.zipIdx_map_snd]
    exact List.pairwise_lt_range'
  exact List.pairwise_map.1 hpositions

theorem exists_zipIdx_iff {k : Nat} {q : β → Prop} :
    (∃ x ∈ xs.zipIdx, x.2 = k ∧ q x.1) ↔ ∃ x, xs[k]? = some x ∧ q x := by
  constructor
  · rintro ⟨⟨x, _⟩, hx, rfl, h⟩
    exact ⟨x, List.mk_mem_zipIdx_iff_getElem?.1 hx, h⟩
  · rintro ⟨x, hx, h⟩
    exact ⟨(x, k), List.mk_mem_zipIdx_iff_getElem?.2 hx, rfl, h⟩

theorem positions_map_filter (xs : List β) (p : β → Bool) (g : β → α) :
    Enumerates (· < ·) (fun (k : Nat) a => ∃ x, xs[k]? = some x ∧ p x = true ∧ g x = a)
      ((xs.filter p).map g) := by
  have hentries : (xs.filter p).map g =
      (xs.zipIdx.filter fun x => p x.1).map fun x => g x.1 := by
    conv => lhs; rw [← List.zipIdx_map_fst 0 xs, List.filter_map, List.map_map]
    rfl
  rw [hentries]
  exact congr (fun k a => exists_zipIdx_iff) (map_filter (zipIdx_sorted xs) _ _)

theorem positions_flatMap {f : β → List α} {found : β → π → α → Prop}
    (each : ∀ x ∈ xs, Enumerates before (found x) (f x)) :
    Enumerates (Prod.Lex (· < ·) before)
      (fun (place : Nat × π) a => ∃ x, xs[place.1]? = some x ∧ found x place.2 a)
      (xs.flatMap f) := by
  have hentries : xs.flatMap f = xs.zipIdx.flatMap fun x => f x.1 := by
    conv => lhs; rw [← List.zipIdx_map_fst 0 xs, List.flatMap_map]
  rw [hentries]
  exact congr (fun place a => exists_zipIdx_iff) (flatMap (zipIdx_sorted xs) fun x hx =>
    each x.1 (List.fst_mem_of_mem_zipIdx hx))

end Enumerates

/-! ## Places in a library -/

/-- A way on from a node. -/
inductive Way where
  | successor
  /-- The choice at a position. -/
  | choice (k : Nat)

/-- The successor comes first, then the choices as they are declared. -/
inductive Way.Before : Way → Way → Prop
  | successor {k : Nat} : Before .successor (.choice k)
  | choice {j k : Nat} (h : j < k) : Before (.choice j) (.choice k)

instance : Std.Asymm Way.Before where
  asymm := by
    rintro _ _ (_ | hjk) h
    · cases h
    · cases h with
      | choice hkj => exact Nat.lt_asymm hjk hkj

namespace Node
variable {n : Node} {way : Way} {target : String}

/-- The node that is named on a way. -/
def target? (n : Node) : Way → Option String
  | .successor => n.next
  | .choice k => n.choices[k]?.map (·.next)

/-- The ways on from a node, with the nodes that are named on them. -/
def ways (n : Node) : List (Way × String) :=
  n.next.toList.map (.successor, ·) ++ n.choices.zipIdx.map fun c => (.choice c.2, c.1.next)

theorem targets_eq (n : Node) : n.targets = n.ways.map Prod.snd := by
  have hchoices : n.choices.zipIdx.map (fun c => c.1.next) = n.choices.map (·.next) := by
    conv => rhs; rw [← List.zipIdx_map_fst 0 n.choices, List.map_map]
    rfl
  rw [targets, ways, List.map_append, List.map_map, List.map_map, ← hchoices]
  exact congrArg (· ++ _) (List.map_id _).symm

theorem mem_ways : (way, target) ∈ n.ways ↔ n.target? way = some target := by
  rw [ways, List.mem_append, List.mem_map, List.mem_map]
  cases way with
  | successor => simp [target?]
  | choice k =>
    simp only [target?, Option.map_eq_some_iff, Prod.mk.injEq, Way.choice.injEq, reduceCtorEq,
      false_and, and_false, exists_false, false_or]
    exact Enumerates.exists_zipIdx_iff (q := fun c : Choice => c.next = target)

theorem ways_sorted (n : Node) : n.ways.Pairwise fun x y => x.1.Before y.1 := by
  refine List.pairwise_append.2 ⟨?_, ?_, ?_⟩
  · cases n.next <;> simp
  · exact List.pairwise_map.2 ((Enumerates.zipIdx_sorted _).imp .choice)
  · intro x hx y hy
    obtain ⟨_, -, rfl⟩ := List.mem_map.1 hx
    obtain ⟨c, -, rfl⟩ := List.mem_map.1 hy
    exact .successor

end Node

namespace Library

/-- The tree at a position has a node under an id. -/
def Holds (l : Library) (k : Nat) (id : String) (t : Tree) (n : Node) : Prop :=
  l.trees[k]? = some t ∧ t.node? id = some n

/-- Two trees or more have a node under an id. -/
def Shares (l : Library) (id : String) : Prop :=
  ∃ t ∈ l.trees, ∃ u ∈ l.trees, t.id ≠ u.id ∧ id ∈ t.nodes.keys ∧ id ∈ u.nodes.keys

end Library

namespace Report

/-! What is found in a library, place by place. A tree stands at its position. -/

/-- A tree whose root is none of its nodes. -/
def RootlessAt (l : Library) (k : Nat) (tree : String) : Prop :=
  ∃ t, l.trees[k]? = some t ∧ t.root ∉ t.nodes.keys ∧ t.id = tree

/-- A way on to a node that is not found, from a node where no dialogue ends. -/
def LostAt (l : Library) (scope : Scope) : Nat × String × Way → Dangling → Prop :=
  fun (k, id, way) d => ∃ t n, l.Holds k id t n ∧ n.isEnd = false ∧
    n.target? way = some d.target ∧ l.successor scope t.id d.target = none ∧
    d.tree = t.id ∧ d.node = id

/-- A tree with a node under an id. -/
def OwnerAt (l : Library) (id : String) (k : Nat) (tree : String) : Prop :=
  ∃ t, l.trees[k]? = some t ∧ id ∈ t.nodes.keys ∧ t.id = tree

/-- An id that trees share, with all of these trees. -/
def SharedAt (l : Library) (id : String) (c : Collision) : Prop :=
  l.Shares id ∧ c.node = id ∧ Enumerates (· < ·) (OwnerAt l id) c.trees

/-- A node with effects where no dialogue ends. -/
def IdleAt (l : Library) : Nat × String → IgnoredEffects → Prop :=
  fun (k, id) e => ∃ t n, l.Holds k id t n ∧ n.isEnd = false ∧ n.effects ≠ [] ∧ e = ⟨t.id, id⟩

/-- A report that lists everything there is to find in a library whose trees are played in some
scope, and nothing else, each list in its order. -/
structure Exact (l : Library) (scope : Scope) (r : Report) : Prop where
  missingRoots : Enumerates (· < ·) (RootlessAt l) r.missingRoots
  dangling : Enumerates (Prod.Lex (· < ·) (Prod.Lex (· < ·) Way.Before)) (LostAt l scope) r.dangling
  collisions : Enumerates (· < ·) (SharedAt l) r.collisions
  ignoredEffects : Enumerates (Prod.Lex (· < ·) (· < ·)) (IdleAt l) r.ignoredEffects

variable {l : Library} {scope : Scope} {t : Tree} {r r' : Report} {c : Collision} {id : String}

/-- There is one such report only. -/
theorem Exact.unique (h : Exact l scope r) (h' : Exact l scope r') : r = r' := by
  cases r
  cases r'
  exact mk.injEq .. ▸ ⟨h.missingRoots.unique h'.missingRoots, h.dangling.unique h'.dangling,
    h.collisions.unique h'.collisions, h.ignoredEffects.unique h'.ignoredEffects⟩

/-- The nodes of a tree, told by their ids. -/
theorem exists_holds_iff {k : Nat} {q : Tree → String × Node → Prop} :
    (∃ t, l.trees[k]? = some t ∧ ∃ e ∈ t.nodes.toList, e.1 = id ∧ q t e) ↔
      ∃ t n, l.Holds k id t n ∧ q t (id, n) := by
  constructor
  · rintro ⟨t, ht, e, he, rfl, hq⟩
    exact ⟨t, e.2, ⟨ht, Table.get?_of_mem he⟩, hq⟩
  · rintro ⟨t, n, ⟨ht, hn⟩, hq⟩
    exact ⟨t, ht, (id, n), Table.mem_of_get? hn, rfl, hq⟩

theorem resolves_eq (ht : t ∈ l.trees) (scope : Scope) (target : String) :
    resolves l scope t target = (l.successor scope t.id target).isSome := by
  cases scope with
  | global => rfl
  | tree => rw [resolves, Library.successor, Library.resolveIn, Library.lookup_of_mem ht]; rfl

theorem enumerates_missingRoots (l : Library) (scope : Scope) :
    Enumerates (· < ·) (RootlessAt l) (check l scope).missingRoots := by
  refine .congr (fun k tree => ?_) (.positions_map_filter _ _ _)
  simp [RootlessAt, Table.mem_keys_iff, Tree.rootNode?, Tree.node?]

theorem enumerates_danglingFrom (ht : t ∈ l.trees) (scope : Scope) (e : String × Node) :
    Enumerates Way.Before
      (fun way d => e.2.isEnd = false ∧ e.2.target? way = some d.target ∧
        l.successor scope t.id d.target = none ∧ d.tree = t.id ∧ d.node = e.1)
      (danglingFrom l scope t e) := by
  rw [danglingFrom]
  split
  · next ended => exact .nil fun way d h => by simp [ended] at h
  · next live =>
    rw [Node.targets_eq, List.filter_map, List.map_map]
    refine .congr (fun way d => ?_) (.map_filter e.2.ways_sorted _ _)
    simp only [Function.comp_apply, resolves_eq ht, Bool.not_eq_true', Option.isSome_eq_false_iff,
      Option.isNone_iff_eq_none]
    constructor
    · rintro ⟨⟨_, target⟩, hway, rfl, hlost, rfl⟩
      exact ⟨by simpa using live, Node.mem_ways.1 hway, hlost, rfl, rfl⟩
    · rintro ⟨-, htarget, hlost, htree, hnode⟩
      refine ⟨(way, d.target), Node.mem_ways.2 htarget, rfl, hlost, ?_⟩
      rw [← htree, ← hnode]

theorem enumerates_dangling (l : Library) (scope : Scope) :
    Enumerates (Prod.Lex (· < ·) (Prod.Lex (· < ·) Way.Before)) (LostAt l scope)
      (check l scope).dangling := by
  refine .congr (fun place d => ?_) (.positions_flatMap fun t ht =>
    .flatMap t.nodes.sorted fun e _ => enumerates_danglingFrom ht scope e)
  exact exists_holds_iff

theorem enumerates_ignoredEffects (l : Library) (scope : Scope) :
    Enumerates (Prod.Lex (· < ·) (· < ·)) (IdleAt l) (check l scope).ignoredEffects := by
  refine .congr (fun place e => ?_) (.positions_flatMap fun t _ =>
    .map_filter t.nodes.sorted _ _)
  refine exists_holds_iff.trans (exists₂_congr fun t n => and_congr_right fun _ => ?_)
  simp only [Bool.and_eq_true, Bool.not_eq_true', List.isEmpty_eq_false_iff, and_assoc,
    @eq_comm _ e]

/-! ## Shared ids -/

theorem mem_owners_iff {tree : String} :
    tree ∈ owners l id ↔ ∃ t ∈ l.trees, id ∈ t.nodes.keys ∧ t.id = tree := by
  simp only [owners, List.mem_map, List.mem_filter, Sorted.contains_iff_mem_keys, and_assoc]

theorem enumerates_owners (l : Library) (id : String) :
    Enumerates (· < ·) (OwnerAt l id) (owners l id) := by
  refine .congr (fun k tree => ?_) (.positions_map_filter _ _ _)
  simp only [OwnerAt, Sorted.contains_iff_mem_keys]

/-- No tree owns an id twice, so that several owners are several trees. -/
theorem shares_iff : l.Shares id ↔ 1 < (owners l id).length := by
  have hnodup : (owners l id).Nodup := l.nodup.sublist (List.filter_sublist.map Tree.id)
  rw [← List.toFinset_card_of_nodup hnodup, Finset.one_lt_card]
  simp only [List.mem_toFinset, mem_owners_iff]
  constructor
  · rintro ⟨t, ht, u, hu, hne, htid, huid⟩
    exact ⟨t.id, ⟨t, ht, htid, rfl⟩, u.id, ⟨u, hu, huid, rfl⟩, hne⟩
  · rintro ⟨_, ⟨t, ht, htid, rfl⟩, _, ⟨u, hu, huid, rfl⟩, hne⟩
    exact ⟨t, ht, u, hu, hne, htid, huid⟩

theorem mem_nodeIds_of_shares (h : l.Shares id) : id ∈ (nodeIds l).toList := by
  obtain ⟨t, ht, -, -, -, hid, -⟩ := h
  exact NameSet.mem_ofList.2 (List.mem_flatMap.2 ⟨t, ht, hid⟩)

theorem mem_collisions_iff :
    c ∈ (check l scope).collisions ↔ l.Shares c.node ∧ c.trees = owners l c.node := by
  simp only [check, List.mem_filter, List.mem_map, decide_eq_true_eq]
  constructor
  · rintro ⟨⟨id, -, rfl⟩, hcount⟩
    exact ⟨shares_iff.2 hcount, rfl⟩
  · rintro ⟨hshares, htrees⟩
    exact ⟨⟨c.node, mem_nodeIds_of_shares hshares, by rw [← htrees]⟩,
      by rwa [htrees, ← shares_iff]⟩

theorem enumerates_collisions (l : Library) (scope : Scope) :
    Enumerates (· < ·) (SharedAt l) (check l scope).collisions := by
  have hfilter : (check l scope).collisions =
      ((nodeIds l).toList.filter fun id => 1 < (owners l id).length).map fun id =>
        ⟨id, owners l id⟩ := by
    rw [check, List.filter_map]
    rfl
  rw [hfilter]
  refine .congr (fun id c => ?_) (.map_filter (nodeIds l).sorted _ _)
  simp only [decide_eq_true_eq, ← shares_iff]
  constructor
  · rintro ⟨id, -, rfl, hshares, rfl⟩
    exact ⟨hshares, rfl, enumerates_owners l id⟩
  · rintro ⟨hshares, rfl, htrees⟩
    exact ⟨c.node, mem_nodeIds_of_shares hshares, rfl, hshares,
      congrArg (Collision.mk c.node) ((enumerates_owners l c.node).unique htrees)⟩

/-- The first owner is the one that counts in the whole library. -/
theorem resolve_of_owners {first : String} (h : (owners l id).head? = some first) :
    ∃ t n, l.lookup first = some t ∧ t.node? id = some n ∧ l.resolve id = some n := by
  rw [owners, List.head?_map, List.head?_filter] at h
  obtain ⟨t, hfirst, rfl⟩ := Option.map_eq_some_iff.1 h
  obtain ⟨hcontains, before, after, htrees, hbefore⟩ := List.find?_eq_some_iff_append.1 hfirst
  have hnode (u : Tree) : u.nodes.contains id = (u.node? id).isSome := by
    rw [Bool.eq_iff_iff, Sorted.contains_iff_mem_keys, Table.mem_keys_iff, Tree.node?]
  obtain ⟨n, hn⟩ := Option.isSome_iff_exists.1 (hnode t ▸ hcontains)
  refine ⟨t, n, Library.lookup_of_mem (List.mem_of_find?_eq_some hfirst), hn, ?_⟩
  refine List.findSome?_eq_some_iff.2 ⟨before, t, after, htrees, hn, fun u hu => ?_⟩
  simpa [hnode] using hbefore u hu

theorem isClean_iff : r.isClean = true ↔
    r.missingRoots = [] ∧ r.dangling = [] ∧ r.collisions = [] ∧ r.ignoredEffects = [] := by
  simp only [isClean, errorCount, warningCount, beq_iff_eq, Nat.add_eq_zero_iff,
    List.length_eq_zero_iff, and_assoc]

theorem exact_check (l : Library) (scope : Scope) : Exact l scope (check l scope) where
  missingRoots := enumerates_missingRoots l scope
  dangling := enumerates_dangling l scope
  collisions := enumerates_collisions l scope
  ignoredEffects := enumerates_ignoredEffects l scope

/-- **The report is exact.** It is the one report that lists, each in its order, all missing roots,
all ways on to nodes that are not found, all ids that trees share and all effects that never happen,
and nothing else. The first tree of a collision is the one whose node is found in the whole library.
A report is clean when its lists are empty. -/
theorem exact_iff_eq_check (l : Library) (scope : Scope) :
    (∀ r, Exact l scope r ↔ r = check l scope) ∧
    (∀ c ∈ (check l scope).collisions, ∃ first t n, c.trees.head? = some first ∧
      l.lookup first = some t ∧ t.node? c.node = some n ∧ l.resolve c.node = some n) ∧
    ∀ r : Report, r.isClean = true ↔
      r.missingRoots = [] ∧ r.dangling = [] ∧ r.collisions = [] ∧ r.ignoredEffects = [] := by
  have hexact := exact_check l scope
  refine ⟨fun r => ⟨fun h => h.unique hexact, fun h => h ▸ hexact⟩, fun c hc => ?_,
    fun r => isClean_iff⟩
  obtain ⟨hshares, htrees⟩ := mem_collisions_iff.1 hc
  have hpos : 0 < (owners l c.node).length := Nat.lt_trans Nat.one_pos (shares_iff.1 hshares)
  have hsome : (owners l c.node).head?.isSome :=
    List.isSome_head?.2 (List.ne_nil_of_length_pos hpos)
  obtain ⟨first, hfirst⟩ := Option.isSome_iff_exists.1 hsome
  obtain ⟨t, n, h⟩ := resolve_of_owners hfirst
  exact ⟨first, t, n, htrees ▸ hfirst, h⟩

/-- An inn and a road that leads to it, both with a node of farewell, and a ruin without nodes. -/
def wilds : Library :=
  let farewell : Node := { id := "farewell", isEnd := true, next := some "nowhere" }
  let greeting : Node :=
    { id := "greeting", next := some "ghost"
      choices := [{ text := "Follow", next := "ghost" }, { text := "Leave", next := "farewell" }] }
  let setOut : Node := { id := "setting out", next := some "greeting", effects := [.addGold 5] }
  let inn : Tree := .withNode (.withNode ⟨"inn", "The Inn", "greeting", {}⟩ greeting) farewell
  let road : Tree := .withNode (.withNode ⟨"road", "", "setting out", {}⟩ setOut) farewell
  Library.empty.register inn |>.register road |>.register ⟨"ruin", "", "gate", {}⟩

theorem exact_iff_eq_check_wilds :
    let r : Report :=
      { missingRoots := ["ruin"]
        dangling := [⟨"inn", "greeting", "ghost"⟩, ⟨"inn", "greeting", "ghost"⟩,
          ⟨"road", "setting out", "greeting"⟩]
        collisions := [⟨"farewell", ["inn", "road"]⟩]
        ignoredEffects := [⟨"road", "setting out"⟩] }
    Exact wilds .tree r ∧ ¬Exact wilds .global r ∧ r.isClean = false ∧
      ∃ t n, wilds.lookup "inn" = some t ∧ t.node? "farewell" = some n ∧
        wilds.resolve "farewell" = some n := by
  intro r
  have hcheck : r = check wilds .tree := by decide
  obtain ⟨exact, firsts, clean⟩ := exact_iff_eq_check wilds .tree
  have hclean : ¬r.isClean = true := fun h => by simpa [r] using ((clean r).1 h).1
  obtain ⟨first, t, n, hfirst, h⟩ := firsts ⟨"farewell", ["inn", "road"]⟩
    (hcheck ▸ List.mem_singleton_self _)
  obtain rfl : "inn" = first := Option.some.inj hfirst
  refine ⟨(exact r).2 hcheck, fun h => ?_, Bool.eq_false_iff.2 hclean, t, n, h⟩
  exact absurd (((exact_iff_eq_check wilds .global).1 r).1 h) (by decide)

end Report

end Dialogue
