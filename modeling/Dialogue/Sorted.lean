/-!
# Collections sorted by key

Collections in which every element has a key and no key occurs twice, kept in increasing order of
key. Equal contents are equal values, whatever the order of insertion; `Table` is the case of
key and value pairs, `NameSet` that of names that are their own keys. An element finds its place in
the order by `place`, which keeps the order (`place_sorted`); what is added is then found under its
key, and all else as before (`find?_insert`, `Table.get?_set`).
-/

namespace Dialogue

/-- Elements in strictly increasing order of `key`. -/
structure Sorted (α : Type) (key : α → String) where
  toList : List α
  sorted : toList.Pairwise (key · < key ·)

namespace Sorted
variable {α : Type} {key : α → String}

theorem ext {s t : Sorted α key} (h : s.toList = t.toList) : s = t := by
  cases s; cases t; cases h; rfl

instance [DecidableEq α] : DecidableEq (Sorted α key) := fun s t =>
  decidable_of_iff (s.toList = t.toList) ⟨ext, fun h => h ▸ rfl⟩

def empty : Sorted α key := ⟨[], .nil⟩

instance : Inhabited (Sorted α key) := ⟨empty⟩
instance : EmptyCollection (Sorted α key) := ⟨empty⟩

def size (s : Sorted α key) : Nat := s.toList.length

def isEmpty (s : Sorted α key) : Bool := s.toList.isEmpty

def keys (s : Sorted α key) : List String := s.toList.map key

/-- The element with the key `k`. -/
def find? (s : Sorted α key) (k : String) : Option α := s.toList.find? (key · == k)

def contains (s : Sorted α key) (k : String) : Bool := s.toList.any (key · == k)

/-- Puts `a` in its place in a list, dropping an element with the same key. -/
def place (key : α → String) (a : α) : List α → List α
  | [] => [a]
  | b :: l =>
    if key a < key b then a :: b :: l
    else if key b < key a then b :: place key a l
    else a :: l

theorem mem_place {a b : α} {l : List α} (h : b ∈ place key a l) : b = a ∨ b ∈ l := by
  induction l with
  | nil => simpa [place] using h
  | cons c l ih =>
    unfold place at h
    split at h
    · simpa using h
    · split at h
      · rcases List.mem_cons.1 h with h | h
        · exact .inr (h ▸ List.mem_cons_self)
        · exact (ih h).imp_right (List.mem_cons_of_mem _)
      · rcases List.mem_cons.1 h with h | h
        · exact .inl h
        · exact .inr (List.mem_cons_of_mem _ h)

theorem eq_of_not_lt {a b : String} (h₁ : ¬a < b) (h₂ : ¬b < a) : a = b :=
  String.le_antisymm (String.not_lt.1 h₂) (String.not_lt.1 h₁)

theorem place_sorted {a : α} {l : List α} (h : l.Pairwise (key · < key ·)) :
    (place key a l).Pairwise (key · < key ·) := by
  induction l with
  | nil => simp [place]
  | cons b l ih =>
    obtain ⟨hb, hl⟩ := List.pairwise_cons.1 h
    unfold place
    split
    · next hab =>
      refine List.pairwise_cons.2 ⟨fun c hc => ?_, h⟩
      rcases List.mem_cons.1 hc with rfl | hc
      · exact hab
      · exact String.lt_trans hab (hb c hc)
    · next hab =>
      split
      · next hba =>
        refine List.pairwise_cons.2 ⟨fun c hc => ?_, ih hl⟩
        rcases mem_place hc with rfl | hc
        · exact hba
        · exact hb c hc
      · next hba =>
        have : key a = key b := eq_of_not_lt hab hba
        exact List.pairwise_cons.2 ⟨fun c hc => this ▸ hb c hc, hl⟩

/-- Adds an element; one with the same key gives way. -/
def insert (s : Sorted α key) (a : α) : Sorted α key :=
  ⟨place key a s.toList, place_sorted s.sorted⟩

theorem find?_place_self (a : α) (l : List α) :
    (place key a l).find? (key · == key a) = some a := by
  induction l with
  | nil => simp [place]
  | cons b l ih =>
    unfold place
    split
    · simp
    · split
      · next hba => rw [List.find?_cons_of_neg (by simpa using String.ne_of_lt hba), ih]
      · simp

theorem find?_place_of_ne {a : α} {k : String} (hk : key a ≠ k) (l : List α) :
    (place key a l).find? (key · == k) = l.find? (key · == k) := by
  have ha : (key a == k) = false := by simpa using hk
  induction l with
  | nil => simp [place, ha]
  | cons b l ih =>
    unfold place
    split
    · rw [List.find?_cons_of_neg (by simpa using hk)]
    · next hab =>
      split
      · rw [List.find?_cons, List.find?_cons, ih]
      · next hba =>
        have hb : key b ≠ k := eq_of_not_lt hab hba ▸ hk
        rw [List.find?_cons_of_neg (by simpa using hk), List.find?_cons_of_neg (by simpa using hb)]

/-- What is added is found under its key, and nothing changes under other keys. -/
theorem find?_insert (s : Sorted α key) (a : α) (k : String) :
    (s.insert a).find? k = if key a = k then some a else s.find? k := by
  split
  · next hk => exact hk ▸ find?_place_self a s.toList
  · next hk => exact find?_place_of_ne hk s.toList

/-- Drops the element with the key `k`. -/
def erase (s : Sorted α key) (k : String) : Sorted α key :=
  ⟨s.toList.filter (key · != k), s.sorted.filter _⟩

/-- All elements of a list; of those with one key, the last. -/
def ofList (l : List α) : Sorted α key := l.foldl insert empty

end Sorted

/-- Names without repetition, in order. -/
abbrev NameSet := Sorted String id

/-- Values under names, in order of name. -/
abbrev Table (β : Type) := Sorted (String × β) Prod.fst

namespace Table
variable {β : Type}

/-- The value under the name `k`. -/
def get? (t : Table β) (k : String) : Option β := (t.find? k).map Prod.snd

/-- Puts `b` under the name `k`, in place of what was there. -/
def set (t : Table β) (k : String) (b : β) : Table β := t.insert (k, b)

theorem get?_set (t : Table β) (k k' : String) (b : β) :
    (t.set k b).get? k' = if k = k' then some b else t.get? k' := by
  rw [get?, set, Sorted.find?_insert]
  split <;> rfl

/-- Changes the value under `k`, if there is one. -/
def modify (t : Table β) (k : String) (f : β → β) : Table β where
  toList := t.toList.map fun e => if e.1 == k then (e.1, f e.2) else e
  sorted := by
    refine List.pairwise_map.2 (t.sorted.imp fun {a b} h => ?_)
    have (e : String × β) : (if e.1 == k then (e.1, f e.2) else e).1 = e.1 := by split <;> rfl
    rwa [this, this]

def values (t : Table β) : List β := t.toList.map Prod.snd

end Table

end Dialogue
