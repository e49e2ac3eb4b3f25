import Dialogue.Content.Tree
import Dialogue.Proofs.Sorted

/-!
# Nodes in the order of their ids

A tree whose nodes stand under their own ids lists them in strict order, whichever way they are
taken out of the tree (`Tree.Keyed.mergeSort_eq`) and in whichever order they were added
(`Tree.foldl_withNode_perm`). The listing makes up the nodes again
(`Tree.Keyed.withListing_listing`).
-/

namespace Dialogue.Tree
variable {t u : Tree}

/-- A tree is determined by its names and by what is found in it. -/
theorem ext_node? (hid : t.id = u.id) (hname : t.name = u.name) (hroot : t.root = u.root)
    (hnodes : ∀ k, t.node? k = u.node? k) : t = u := by
  have heq : t.nodes = u.nodes := Table.ext_get? hnodes
  cases t
  cases u
  cases hid
  cases hname
  cases hroot
  cases heq
  rfl

/-! ## Adding nodes -/

theorem node?_withNode (t : Tree) (n : Node) (k : String) :
    (t.withNode n).node? k = if n.id = k then some n else t.node? k :=
  Table.get?_set ..

/-- Nodes with different ids may be added in either order. -/
theorem withNode_comm (t : Tree) {m n : Node} (h : m.id ≠ n.id) :
    (t.withNode m).withNode n = (t.withNode n).withNode m := by
  refine ext_node? rfl rfl rfl fun k => ?_
  simp only [node?_withNode]
  split
  · next hn =>
    rw [if_neg fun hm => h (hm.trans hn.symm)]
  · rfl

theorem foldl_withNode_perm (t : Tree) {l l' : List Node} (h : l.Perm l')
    (hids : (l.map (·.id)).Nodup) : l.foldl withNode t = l'.foldl withNode t := by
  refine h.foldl_eq' (fun m hm n hn t => ?_) t
  by_cases heq : m.id = n.id
  · rw [eq_of_nodup_keys hids hm hn heq]
  · exact t.withNode_comm heq

/-! ## Listings -/

theorem mem_listing {n : Node} : n ∈ t.listing ↔ n ∈ t.nodes.values :=
  List.mem_mergeSort

/-- The nodes of a listing end up under their own ids, and no others do. -/
theorem mem_withListing {nodes : List Node} {e : String × Node}
    (h : e ∈ (withListing nodes t).nodes.toList) : e.1 = e.2.id ∧ e.2 ∈ nodes := by
  obtain ⟨n, hn, rfl⟩ := List.mem_map.1 (Sorted.mem_of_mem_ofList h)
  exact ⟨rfl, hn⟩

namespace Keyed

theorem pairwise_ids (h : t.Keyed) : t.nodes.values.Pairwise (·.id < ·.id) := by
  refine List.pairwise_map.2 (t.nodes.sorted.imp_of_mem fun ha hb hlt => ?_)
  rwa [← h _ ha, ← h _ hb]

theorem nodup_ids (h : t.Keyed) : (t.nodes.values.map (·.id)).Nodup :=
  List.pairwise_map.2 (h.pairwise_ids.imp String.ne_of_lt)

theorem not_lt (h : t.Keyed) : t.nodes.values.Pairwise fun a b => !decide (b.id < a.id) := by
  refine h.pairwise_ids.imp fun {a b} hlt => ?_
  have hge : ¬b.id < a.id := fun hgt => String.lt_irrefl _ (String.lt_trans hlt hgt)
  rw [decide_eq_false hge]
  rfl

/-- The nodes stand in the order of their ids already. -/
theorem listing_eq (h : t.Keyed) : t.listing = t.nodes.values :=
  List.mergeSort_of_pairwise h.not_lt

/-- The nodes taken out in any order make the same listing, as no two of them have one id. -/
theorem mergeSort_eq (h : t.Keyed) {l : List Node} (hl : l.Perm t.nodes.values) :
    l.mergeSort (fun a b => !decide (b.id < a.id)) = t.listing := by
  have hsorted : (l.mergeSort fun a b => !decide (b.id < a.id)).Pairwise
      fun a b => !decide (b.id < a.id) := by
    refine List.pairwise_mergeSort (fun a b c hab hbc => ?_) (fun a b => ?_) l
    · simp only [Bool.not_eq_true', decide_eq_false_iff_not, String.not_lt] at hab hbc ⊢
      exact String.le_trans hab hbc
    · simp only [Bool.or_eq_true, Bool.not_eq_true', decide_eq_false_iff_not, String.not_lt]
      exact String.le_total ..
  rw [h.listing_eq]
  refine List.Perm.eq_of_pairwise ?_ hsorted h.not_lt ((List.mergeSort_perm ..).trans hl)
  intro a b ha hb hab hba
  simp only [Bool.not_eq_true', decide_eq_false_iff_not] at hab hba
  have ha := hl.subset (List.mem_mergeSort.1 ha)
  exact eq_of_nodup_keys h.nodup_ids ha hb (Sorted.eq_of_not_lt hba hab)

/-- A listing makes up the nodes again, whatever the other parts of the tree are. -/
theorem withListing_listing (h : t.Keyed) :
    withListing t.listing u = { u with nodes := t.nodes } := by
  have hentries : t.listing.map (fun n => (n.id, n)) = t.nodes.toList := by
    rw [h.listing_eq, Table.values, List.map_map]
    refine (List.map_congr_left fun e he => ?_).trans (List.map_id _)
    exact Prod.ext (h e he).symm rfl
  rw [withListing, hentries, Sorted.ofList_toList]

end Keyed

end Dialogue.Tree
