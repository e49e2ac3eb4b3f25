import Dialogue.Sorted

/-!
# Laws of sorted collections

A sorted collection is determined by its elements, and a table by what is found under each name
(`Table.ext_get?`). Adding the elements of a collection in their own order gives the collection back
(`Sorted.ofList_toList`).
-/

namespace Dialogue

/-- Where no key occurs twice, an element is found by its key. -/
theorem find?_of_nodup_keys {α : Type} {key : α → String} {l : List α} {a : α}
    (h : (l.map key).Nodup) (ha : a ∈ l) : l.find? (key · == key a) = some a := by
  induction l with
  | nil => cases ha
  | cons b l ih =>
    obtain ⟨hb, hl⟩ := List.nodup_cons.1 h
    rcases List.mem_cons.1 ha with rfl | ha
    · simp
    · have hne : key b ≠ key a := fun heq => hb (heq ▸ List.mem_map_of_mem ha)
      rw [List.find?_cons_of_neg (by simpa using hne), ih hl ha]

theorem eq_of_nodup_keys {α : Type} {key : α → String} {l : List α} {a b : α}
    (h : (l.map key).Nodup) (ha : a ∈ l) (hb : b ∈ l) (heq : key a = key b) : a = b := by
  have hfind := find?_of_nodup_keys h ha
  rw [heq, find?_of_nodup_keys h hb] at hfind
  exact (Option.some.inj hfind).symm

namespace Sorted
variable {α : Type} {key : α → String}

theorem nodup_keys (s : Sorted α key) : (s.toList.map key).Nodup :=
  List.pairwise_map.2 (s.sorted.imp String.ne_of_lt)

theorem find?_of_mem {s : Sorted α key} {a : α} (h : a ∈ s.toList) :
    s.find? (key a) = some a :=
  find?_of_nodup_keys s.nodup_keys h

/-- Collections with the same elements are equal. -/
theorem ext_mem {s t : Sorted α key} (h : ∀ a, a ∈ s.toList ↔ a ∈ t.toList) : s = t := by
  have hnodup : ∀ u : Sorted α key, u.toList.Nodup := fun u =>
    u.sorted.imp fun hlt heq => String.ne_of_lt hlt (congrArg key heq)
  refine ext (List.Perm.eq_of_pairwise ?_ s.sorted t.sorted
    ((List.perm_ext_iff_of_nodup (hnodup s) (hnodup t)).2 h))
  intro a b _ _ hab hba
  exact absurd (String.lt_trans hab hba) (String.lt_irrefl _)

theorem mem_foldl_insert {l : List α} {s : Sorted α key} {a : α}
    (h : a ∈ (l.foldl insert s).toList) : a ∈ s.toList ∨ a ∈ l := by
  induction l generalizing s with
  | nil => exact .inl h
  | cons b l ih =>
    rcases ih h with hmem | hmem
    · rcases mem_place hmem with rfl | hs
      · exact .inr List.mem_cons_self
      · exact .inl hs
    · exact .inr (List.mem_cons_of_mem _ hmem)

theorem mem_of_mem_ofList {l : List α} {a : α} (h : a ∈ (ofList l : Sorted α key).toList) :
    a ∈ l :=
  (mem_foldl_insert h).resolve_left (by simp [empty])

theorem mem_keys_iff {s : Sorted α key} {k : String} : k ∈ s.keys ↔ (s.find? k).isSome := by
  simp [keys, find?, List.find?_isSome]

theorem contains_iff_mem_keys {s : Sorted α key} {k : String} :
    s.contains k = true ↔ k ∈ s.keys := by
  simp [contains, keys]

theorem mem_keys_insert {s : Sorted α key} {a : α} {k : String} :
    k ∈ (s.insert a).keys ↔ key a = k ∨ k ∈ s.keys := by
  rw [mem_keys_iff, find?_insert, mem_keys_iff]
  split <;> simp [*]

theorem contains_insert (s : Sorted α key) (a : α) (k : String) :
    (s.insert a).contains k = (decide (key a = k) || s.contains k) := by
  rw [Bool.eq_iff_iff, Bool.or_eq_true, decide_eq_true_eq, contains_iff_mem_keys,
    contains_iff_mem_keys, mem_keys_insert]

theorem contains_insert_self (s : Sorted α key) (a : α) : (s.insert a).contains (key a) = true := by
  rw [contains_insert, decide_eq_true rfl, Bool.true_or]

theorem contains_insert_of_ne {a : α} {k : String} (h : key a ≠ k) (s : Sorted α key) :
    (s.insert a).contains k = s.contains k := by
  rw [contains_insert, decide_eq_false h, Bool.false_or]

theorem contains_erase (s : Sorted α key) (k k' : String) :
    (s.erase k).contains k' = (decide (k' ≠ k) && s.contains k') := by
  rw [Bool.eq_iff_iff, Bool.and_eq_true, decide_eq_true_eq, contains_iff_mem_keys,
    contains_iff_mem_keys, keys, erase, List.mem_map, keys, List.mem_map]
  simp only [List.mem_filter, bne_iff_ne]
  constructor
  · rintro ⟨a, ⟨ha, hne⟩, rfl⟩
    exact ⟨hne, a, ha, rfl⟩
  · rintro ⟨hne, a, ha, rfl⟩
    exact ⟨a, ⟨ha, hne⟩, rfl⟩

theorem contains_erase_self (s : Sorted α key) (k : String) : (s.erase k).contains k = false := by
  rw [contains_erase, decide_eq_false (not_not_intro rfl), Bool.false_and]

theorem contains_erase_of_ne {k k' : String} (h : k' ≠ k) (s : Sorted α key) :
    (s.erase k).contains k' = s.contains k' := by
  rw [contains_erase, decide_eq_true h, Bool.true_and]

theorem mem_keys_foldl_insert {l : List α} {s : Sorted α key} {k : String} :
    k ∈ (l.foldl insert s).keys ↔ k ∈ s.keys ∨ k ∈ l.map key := by
  induction l generalizing s with
  | nil => simp
  | cons a l ih =>
    rw [List.foldl_cons, ih, mem_keys_insert, List.map_cons, List.mem_cons, or_assoc, or_left_comm,
      eq_comm]

/-- The keys of a collection made from a list are those of the list. -/
theorem mem_keys_ofList {l : List α} {k : String} :
    k ∈ (ofList l : Sorted α key).keys ↔ k ∈ l.map key := by
  rw [ofList, mem_keys_foldl_insert]
  simp [empty, keys]

theorem place_last {a : α} {l : List α} (h : ∀ b ∈ l, key b < key a) :
    place key a l = l ++ [a] := by
  induction l with
  | nil => rfl
  | cons b l ih =>
    obtain ⟨hb, hl⟩ := List.forall_mem_cons.1 h
    have hab : ¬key a < key b := fun hab => String.lt_irrefl _ (String.lt_trans hab hb)
    rw [place, if_neg hab, if_pos hb, ih hl, List.cons_append]

theorem toList_foldl_insert {l : List α} {s : Sorted α key}
    (h : (s.toList ++ l).Pairwise (key · < key ·)) :
    (l.foldl insert s).toList = s.toList ++ l := by
  induction l generalizing s with
  | nil => simp
  | cons a l ih =>
    have hs : (s.insert a).toList = s.toList ++ [a] :=
      place_last fun b hb => (List.pairwise_append.1 h).2.2 b hb a List.mem_cons_self
    rw [List.foldl_cons, ih (by simpa [hs] using h), hs]
    simp

/-- The elements of a collection, added in order, make it up again. -/
theorem ofList_toList (s : Sorted α key) : ofList s.toList = s :=
  ext (toList_foldl_insert (s := empty) s.sorted)

/-- The elements of a collection make it up again in whichever order they are added. -/
theorem ofList_of_perm {s : Sorted α key} {l : List α} (h : l.Perm s.toList) : ofList l = s := by
  refine ext_mem fun a => ⟨fun ha => h.subset (mem_of_mem_ofList ha), fun ha => ?_⟩
  have hkey : key a ∈ (ofList l : Sorted α key).keys :=
    mem_keys_ofList.2 (List.mem_map_of_mem (h.symm.subset ha))
  obtain ⟨b, hb, heq⟩ := List.mem_map.1 hkey
  exact eq_of_nodup_keys s.nodup_keys (h.subset (mem_of_mem_ofList hb)) ha heq ▸ hb

end Sorted

theorem NameSet.mem_ofList {l : List String} {name : String} :
    name ∈ (Sorted.ofList l : NameSet).toList ↔ name ∈ l := by
  have hkeys : name ∈ (Sorted.ofList l : NameSet).keys ↔ name ∈ l.map id := Sorted.mem_keys_ofList
  rwa [Sorted.keys, List.map_id, List.map_id] at hkeys

/-- Sets of the same names are equal. -/
theorem NameSet.ext_contains {s t : NameSet} (h : ∀ name, s.contains name = t.contains name) :
    s = t := by
  have hmem (u : NameSet) (name : String) : name ∈ u.toList ↔ u.contains name = true := by
    rw [Sorted.contains_iff_mem_keys, Sorted.keys, List.map_id]
  exact Sorted.ext_mem fun name => by rw [hmem, hmem, h]

namespace Table
variable {β : Type} {t u : Table β}

theorem mem_of_get? {k : String} {b : β} (h : t.get? k = some b) : (k, b) ∈ t.toList := by
  obtain ⟨⟨k', b'⟩, hfind, rfl⟩ := Option.map_eq_some_iff.1 h
  have hmem := List.mem_of_find?_eq_some hfind
  obtain rfl : k' = k := by simpa using List.find?_some hfind
  exact hmem

theorem get?_of_mem {e : String × β} (h : e ∈ t.toList) : t.get? e.1 = some e.2 := by
  rw [get?, Sorted.find?_of_mem h, Option.map_some]

theorem mem_keys_iff {k : String} : k ∈ t.keys ↔ (t.get? k).isSome := by
  rw [Sorted.mem_keys_iff, get?, Option.isSome_map]

theorem get?_set_self (t : Table β) (k : String) (b : β) : (t.set k b).get? k = some b :=
  (get?_set ..).trans (if_pos rfl)

theorem get?_set_of_ne {k k' : String} (h : k ≠ k') (t : Table β) (b : β) :
    (t.set k b).get? k' = t.get? k' :=
  (get?_set ..).trans (if_neg h)

theorem mem_keys_set {k : String} (h : k ∈ t.keys) (k' : String) (b : β) :
    k ∈ (t.set k' b).keys := by
  rw [mem_keys_iff, get?_set]
  split
  · rfl
  · exact mem_keys_iff.1 h

theorem keys_modify (t : Table β) (k : String) (f : β → β) : (t.modify k f).keys = t.keys := by
  rw [Sorted.keys, modify, List.map_map]
  refine List.map_congr_left fun e _ => ?_
  dsimp only [Function.comp_apply]
  split <;> rfl

theorem get?_modify (t : Table β) (k : String) (f : β → β) (k' : String) :
    (t.modify k f).get? k' = (t.get? k').map fun b => if k' == k then f b else b := by
  simp only [get?, Sorted.find?, modify]
  induction t.toList with
  | nil => rfl
  | cons e l ih =>
    have hkey : (if e.1 == k then (e.1, f e.2) else e).1 = e.1 := by split <;> rfl
    rw [List.map_cons, List.find?_cons, List.find?_cons, hkey]
    cases he : e.1 == k' with
    | false => exact ih
    | true =>
      obtain rfl : e.1 = k' := by simpa using he
      dsimp only [Option.map_some]
      split <;> rfl

/-- Changes all values of a table. -/
def mapValues {γ : Type} (t : Table β) (f : β → γ) : Table γ where
  toList := t.toList.map fun e => (e.1, f e.2)
  sorted := List.pairwise_map.2 t.sorted

theorem get?_mapValues {γ : Type} (t : Table β) (f : β → γ) (k : String) :
    (t.mapValues f).get? k = (t.get? k).map f := by
  have hfind : (t.mapValues f).find? k = (t.find? k).map fun e => (e.1, f e.2) := List.find?_map
  rw [get?, get?, hfind, Option.map_map, Option.map_map]
  rfl

/-- Tables in which the same is found under every name are equal. -/
theorem ext_get? (h : ∀ k, t.get? k = u.get? k) : t = u := by
  have hsub : ∀ {t u : Table β}, (∀ k, t.get? k = u.get? k) → ∀ e ∈ t.toList, e ∈ u.toList := by
    intro t u h e he
    exact mem_of_get? ((h e.1).symm.trans (get?_of_mem he))
  exact Sorted.ext_mem fun e => ⟨hsub h e, hsub (fun k => (h k).symm) e⟩

end Table

end Dialogue
