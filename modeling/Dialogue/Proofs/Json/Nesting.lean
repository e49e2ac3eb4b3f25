import Dialogue.Json.Scan

/-!
# How deep documents are

Scanning keeps to the bound on containers: what stands in too many of them is not kept, so that
every document found in a text is within the bound (`depth_scan_le`). All scanners take part in one
induction on their fuel (`Shallow`).
-/

namespace Dialogue.Json

namespace Doc

mutual

/-- How many containers that can be read stand inside one another in the document. -/
def depth : Doc → Nat
  | .seq items _ => itemsDepth items + 1
  | .map members _ => membersDepth members + 1
  | .null | .bool _ | .number _ | .text _ | .unreadable | .broken _ | .deep .. => 0

def itemsDepth : List Doc → Nat
  | [] => 0
  | d :: ds => max d.depth (itemsDepth ds)

def membersDepth : List (Key × Doc) → Nat
  | [] => 0
  | (_, d) :: ms => max d.depth (membersDepth ms)

end

theorem itemsDepth_le {items : List Doc} {n : Nat} :
    itemsDepth items ≤ n ↔ ∀ d ∈ items, d.depth ≤ n := by
  induction items with
  | nil => simp [itemsDepth]
  | cons d ds ih => rw [itemsDepth, Nat.max_le, ih, List.forall_mem_cons]

theorem membersDepth_le {members : List (Key × Doc)} {n : Nat} :
    membersDepth members ≤ n ↔ ∀ m ∈ members, m.2.depth ≤ n := by
  induction members with
  | nil => simp [membersDepth]
  | cons m ms ih =>
    obtain ⟨k, d⟩ := m
    simp only [membersDepth, Nat.max_le, ih, List.forall_mem_cons]

end Doc

theorem depth_scanWord (start : Start) {word : Doc} (h : word.depth = 0) (ws cs : List Char) :
    (scanWord start word ws cs).1.depth = 0 := by
  induction ws generalizing cs with
  | nil => exact h
  | cons w ws ih =>
    cases cs with
    | nil => rfl
    | cons c cs =>
      unfold scanWord
      split
      · exact ih cs
      · rfl

theorem depth_found (x : Numeral) (rest : List Char) : (x.found rest).1.depth = 0 := by
  unfold Numeral.found
  split <;> rfl

theorem depth_scanExponent (x : Numeral) (cs : List Char) : (scanExponent x cs).1.depth = 0 := by
  unfold scanExponent
  split
  · split
    · simp only
      split
      all_goals
        split
        · rfl
        · exact depth_found ..
    · exact depth_found ..
  · exact depth_found ..

theorem depth_scanNumber (negative : Bool) (cs : List Char) :
    (scanNumber negative cs).1.depth = 0 := by
  unfold scanNumber
  simp only
  split
  · rfl
  · split
    · rfl
    · split
      · split
        · rfl
        · exact depth_scanExponent ..
      · exact depth_scanExponent ..

theorem depth_quotation (q : Quotation) : q.doc.depth = 0 := by
  cases q <;> rfl

theorem depth_seq_add_le {items : List Doc} {close : Option Flaw} {level : Nat}
    (hlevel : level < maxDepth) (h : ∀ d ∈ items, d.depth + (level + 1) ≤ maxDepth) :
    (Doc.seq items close).depth + level ≤ maxDepth := by
  have hitems : Doc.itemsDepth items ≤ maxDepth - (level + 1) :=
    Doc.itemsDepth_le.2 fun d hd => Nat.le_sub_of_add_le (h d hd)
  rw [Doc.depth]
  omega

theorem depth_map_add_le {members : List (Key × Doc)} {close : Option Flaw} {level : Nat}
    (hlevel : level < maxDepth) (h : ∀ m ∈ members, m.2.depth + (level + 1) ≤ maxDepth) :
    (Doc.map members close).depth + level ≤ maxDepth := by
  have hmembers : Doc.membersDepth members ≤ maxDepth - (level + 1) :=
    Doc.membersDepth_le.2 fun m hm => Nat.le_sub_of_add_le (h m hm)
  rw [Doc.depth]
  omega

/-- What all scanners keep to: no container that can be read stands in too many others. -/
structure Shallow (fuel level : Nat) (cs : List Char) : Prop where
  value : (scanValue fuel level cs).1.depth + level ≤ maxDepth
  items first : ∀ d ∈ (scanItems fuel level first cs).1, d.depth + level ≤ maxDepth
  members first : ∀ m ∈ (scanMembers fuel level first cs).1, m.2.depth + level ≤ maxDepth
  colon : (scanColon fuel level cs).1.depth + level ≤ maxDepth

theorem shallow_scanValue {fuel level : Nat} (hlevel : level ≤ maxDepth) (cs : List Char)
    (ih : ∀ level ≤ maxDepth, ∀ cs, Shallow fuel level cs) :
    (scanValue (fuel + 1) level cs).1.depth + level ≤ maxDepth := by
  have hzero : ∀ {d : Doc}, d.depth = 0 → d.depth + level ≤ maxDepth := by
    intro d hd
    rwa [hd, Nat.zero_add]
  unfold scanValue
  split
  · exact hzero rfl
  · exact hzero (depth_scanWord _ rfl _ _)
  · exact hzero (depth_scanWord _ rfl _ _)
  · exact hzero (depth_scanWord _ rfl _ _)
  · exact hzero (depth_quotation _)
  · next cs _ =>
    simp only
    split
    · next hlt => exact depth_seq_add_le hlt ((ih (level + 1) hlt cs).items true)
    · exact hzero rfl
  · next cs _ =>
    simp only
    split
    · next hlt => exact depth_map_add_le hlt ((ih (level + 1) hlt cs).members true)
    · exact hzero rfl
  · exact hzero (depth_scanNumber ..)
  · split
    · exact hzero (depth_scanNumber ..)
    · exact hzero rfl

theorem shallow_scanItems {fuel level : Nat} (hlevel : level ≤ maxDepth) (first : Bool)
    (cs : List Char) (ih : ∀ level ≤ maxDepth, ∀ cs, Shallow fuel level cs) :
    ∀ d ∈ (scanItems (fuel + 1) level first cs).1, d.depth + level ≤ maxDepth := by
  unfold scanItems
  split
  · exact List.forall_mem_nil _
  · exact List.forall_mem_nil _
  · next c cs _ _ =>
    split
    · have hitem := (ih level hlevel (if first then c :: cs else cs)).value
      simp only
      split
      · exact List.forall_mem_cons.2 ⟨hitem, List.forall_mem_nil _⟩
      · next rest _ =>
        exact List.forall_mem_cons.2 ⟨hitem, (ih level hlevel rest).items false⟩
    · exact List.forall_mem_nil _

theorem shallow_scanMembers {fuel level : Nat} (hlevel : level ≤ maxDepth) (first : Bool)
    (cs : List Char) (ih : ∀ level ≤ maxDepth, ∀ cs, Shallow fuel level cs) :
    ∀ m ∈ (scanMembers (fuel + 1) level first cs).1, m.2.depth + level ≤ maxDepth := by
  unfold scanMembers
  split
  · exact List.forall_mem_nil _
  · exact List.forall_mem_nil _
  · split
    · simp only
      split
      · refine List.forall_mem_cons.2 ⟨?_, List.forall_mem_nil _⟩
        simpa [Doc.depth] using hlevel
      · next rest _ =>
        have hvalue := (ih level hlevel rest).colon
        split
        · exact List.forall_mem_cons.2 ⟨hvalue, List.forall_mem_nil _⟩
        · next rest _ =>
          exact List.forall_mem_cons.2 ⟨hvalue, (ih level hlevel rest).members false⟩
    · exact List.forall_mem_nil _

theorem shallow_scanColon {fuel level : Nat} (hlevel : level ≤ maxDepth) (cs : List Char)
    (ih : ∀ level ≤ maxDepth, ∀ cs, Shallow fuel level cs) :
    (scanColon (fuel + 1) level cs).1.depth + level ≤ maxDepth := by
  unfold scanColon
  split
  · simpa [Doc.depth] using hlevel
  · exact (ih level hlevel _).value
  · simpa [Doc.depth] using hlevel

theorem shallow (fuel : Nat) : ∀ level ≤ maxDepth, ∀ cs, Shallow fuel level cs := by
  induction fuel with
  | zero =>
    intro level hlevel cs
    have hzero : (0 : Nat) + level ≤ maxDepth := by rwa [Nat.zero_add]
    exact ⟨hzero, fun _ => List.forall_mem_nil _, fun _ => List.forall_mem_nil _, hzero⟩
  | succ fuel ih =>
    intro level hlevel cs
    exact ⟨shallow_scanValue hlevel cs ih, fun first => shallow_scanItems hlevel first cs ih,
      fun first => shallow_scanMembers hlevel first cs ih, shallow_scanColon hlevel cs ih⟩

theorem depth_scan_le (s : String) : (scan s).1.depth ≤ maxDepth :=
  (shallow _ 0 (Nat.zero_le _) _).value

end Dialogue.Json
