import Dialogue.Proofs.Json.Nesting
import Dialogue.Proofs.Json.Reading

/-!
# Where readers take their results from

What is read is made of parts that are read from inside the document. For records, what holds before
reading and is preserved by each field holds of the result (`Format.read_induct`); values of several
kinds are read from operands that stand inside the document (`exists_of_readTagged`). Such facts
bound what is written for a result by the depth of the document (`Bounded`), which makes the written
form canonical (`Canonical.of_bounded`).
-/

namespace Dialogue.Json

/-! ## Documents and their parts -/

section
variable {α : Type}

/-- A text is read if nothing but white space follows a document that is read. -/
theorem readAll_eq_ok_iff {read : Doc → Reading α} {s : String} {a : α} :
    readAll read s = .ok a ↔
      ∃ d rest, scan s = (d, some rest) ∧ (skipSpaces rest).isEmpty ∧ read d = .ok a := by
  obtain ⟨d, rest, hscan⟩ : ∃ d rest, scan s = (d, rest) := ⟨_, _, rfl⟩
  rw [readAll, hscan]
  constructor
  · intro h
    obtain ⟨b, hb, h⟩ := exists_of_bind_ok h
    cases rest with
    | none => cases h
    | some rest =>
      cases hrest : (skipSpaces rest).isEmpty with
      | false =>
        simp only [hrest] at h
        cases h
      | true =>
        simp only [hrest] at h
        cases h
        exact ⟨d, rest, rfl, hrest, hb⟩
  · rintro ⟨d', rest', heq, hrest, hread⟩
    cases heq
    refine bind_eq_ok_iff.2 ⟨a, hread, ?_⟩
    simp only [hrest]
    rfl

/-- What is read from a text is read from a document that is not too deep. -/
theorem exists_of_readAll {read : Doc → Reading α} {s : String} {a : α}
    (h : readAll read s = .ok a) : ∃ d : Doc, d.depth ≤ maxDepth ∧ read d = .ok a := by
  obtain ⟨d, rest, hscan, -, hread⟩ := readAll_eq_ok_iff.1 h
  have hdepth := depth_scan_le s
  rw [hscan] at hdepth
  exact ⟨d, hdepth, hread⟩

theorem exists_of_readList {read : Doc → Reading α} {d : Doc} {l : List α}
    (h : readList read d = .ok l) :
    ∃ items close, d = .seq items close ∧ ∀ a ∈ l, ∃ item ∈ items, read item = .ok a := by
  unfold readList at h
  split at h
  · next items close =>
    obtain ⟨l', hl, h⟩ := exists_of_bind_ok h
    obtain ⟨_, -, h⟩ := exists_of_bind_ok h
    cases h
    exact ⟨items, close, rfl, mem_of_mapM_ok hl⟩
  · cases h
  · cases h

theorem exists_of_readOption {read : Doc → Reading α} {d : Doc} {a : α}
    (h : readOption read d = .ok (some a)) : read d = .ok a := by
  unfold readOption at h
  split at h
  · cases h
  · split at h
    · cases h
    · obtain ⟨b, hb, heq⟩ := exists_of_map_ok h
      cases heq
      exact hb
  · obtain ⟨b, hb, heq⟩ := exists_of_map_ok h
    cases heq
    exact hb

end

/-! ## How deep results are -/

/-- What is read, written again, nests no deeper than where it was read from, or than `k`. -/
def Bounded {α : Type} (k : Nat) (read : Doc → Reading α) (write : α → Json) : Prop :=
  ∀ {d a}, read d = .ok a → (write a).depth ≤ max d.depth k

theorem Bounded.list {α : Type} {k : Nat} {read : Doc → Reading α} {write : α → Json}
    (h : Bounded k read write) : Bounded (k + 1) (readList read) fun l => .seq (l.map write) := by
  intro d l hread
  obtain ⟨items, close, rfl, hitems⟩ := exists_of_readList hread
  have hl : (Json.seq (l.map write)).depth ≤ max (Doc.itemsDepth items) k + 1 := by
    refine depth_list_le fun a ha => ?_
    obtain ⟨item, hmem, hitem⟩ := hitems a ha
    have := Doc.itemsDepth_le.1 (Nat.le_refl _) item hmem
    have := h hitem
    omega
  show (Json.seq (l.map write)).depth ≤ max (Doc.itemsDepth items + 1) (k + 1)
  omega

/-! ## Records -/

/-- The documents among the operands of a kind. -/
def Operands.docs : Operands → List Doc
  | .inl members => members.map (·.2)
  | .inr items => items

namespace Format
variable {σ : Type} {P : List String → σ → Prop} {Q : Doc → Prop}

/-- What reading a field from a document preserves, where `P` speaks of the names read so far and of
the record, and `Q` of the documents read. -/
def Step (P : List String → σ → Prop) (Q : Doc → Prop) (fields : List (Field σ)) : Prop :=
  ∀ f ∈ fields, ∀ d, Q d → ∀ change, f.read d = .ok change →
    ∀ seen s, P seen s → P (f.name :: seen) (change s)

theorem readMembers_nil_iff {fields : List (Field σ)} {close : Option Flaw}
    {seen : List String} {t a : σ} :
    readMembers fields close seen t [] = .ok a ↔
      close = none ∧ (∀ f ∈ fields, f.required = true → f.name ∈ seen) ∧ t = a := by
  have hnone : (fields.find? fun f => f.required && !seen.contains f.name) = none ↔
      ∀ f ∈ fields, f.required = true → f.name ∈ seen := by simp [List.find?_eq_none]
  rw [readMembers, bind_eq_ok_iff, ← hnone]
  constructor
  · rintro ⟨_, hclose, h⟩
    refine ⟨Flaw.check_eq_ok_iff.1 hclose, ?_⟩
    split at h
    · cases h
    · next hfind =>
      cases h
      exact ⟨hfind, rfl⟩
  · rintro ⟨rfl, hfind, rfl⟩
    exact ⟨(), rfl, by rw [hfind]; rfl⟩

theorem readMembers_cons_iff {fields : List (Field σ)} {close : Option Flaw}
    {seen : List String} {t a : σ} {key : Key} {value : Doc} {members : List (Key × Doc)} :
    readMembers fields close seen t ((key, value) :: members) = .ok a ↔
      ∃ name, key.read = .ok name ∧
        ((fields.find? (·.name == name) = none ∧ value.skippingFlaw = none ∧
            readMembers fields close seen t members = .ok a) ∨
          ∃ f, fields.find? (·.name == name) = some f ∧ name ∉ seen ∧
            ∃ change, f.read value = .ok change ∧
              readMembers fields close (name :: seen) (change t) members = .ok a) := by
  rw [readMembers]
  constructor
  · intro h
    obtain ⟨name, hkey, h⟩ := exists_of_bind_ok h
    refine ⟨name, hkey, ?_⟩
    split at h
    · next hnone =>
      obtain ⟨_, hflaw, h⟩ := exists_of_bind_ok h
      exact .inl ⟨hnone, Flaw.check_eq_ok_iff.1 hflaw, h⟩
    · next f hfind =>
      split at h
      · cases h
      · next hseen =>
        obtain ⟨change, hread, h⟩ := exists_of_bind_ok h
        exact .inr ⟨f, hfind, by simpa using hseen, change, hread, h⟩
  · rintro ⟨name, hkey, ⟨hnone, hflaw, h⟩ | ⟨f, hfind, hseen, change, hread, h⟩⟩
    · simp only [hkey, bind, Except.bind, hnone, hflaw, Flaw.check]
      exact h
    · have hunseen : seen.contains name = false := by simpa using hseen
      simp only [hkey, bind, Except.bind, hfind, hunseen, hread]
      exact h

theorem readMembers_induct {fields : List (Field σ)} {close : Option Flaw} {seen : List String}
    {s t : σ} {members : List (Key × Doc)} (step : Step P Q fields)
    (hmembers : ∀ m ∈ members, Q m.2) (hs : P seen s)
    (h : readMembers fields close seen s members = .ok t) :
    ∃ seen', P seen' t ∧ ∀ f ∈ fields, f.required → f.name ∈ seen' := by
  induction members generalizing seen s with
  | nil =>
    obtain ⟨-, hrequired, rfl⟩ := readMembers_nil_iff.1 h
    exact ⟨seen, hs, hrequired⟩
  | cons m ms ih =>
    obtain ⟨hm, hms⟩ := List.forall_mem_cons.1 hmembers
    obtain ⟨name, -, ⟨-, -, h⟩ | ⟨f, hfind, -, change, hread, h⟩⟩ := readMembers_cons_iff.1 h
    · exact ih hms hs h
    · obtain rfl : f.name = name := by simpa using List.find?_some hfind
      exact ih hms (step f (List.mem_of_find?_eq_some hfind) m.2 hm change hread seen s hs) h

theorem readItems_induct {all fields : List (Field σ)} {label : String} {close : Option Flaw}
    {position : Nat} {seen : List String} {s t : σ} {items left : List Doc} (step : Step P Q all)
    (hsub : ∀ f ∈ fields, f ∈ all) (hitems : ∀ d ∈ items, Q d) (hs : P seen s)
    (h : readItems label close position fields s items = .ok (t, left)) :
    ∃ seen', P seen' t ∧ (∀ name ∈ seen, name ∈ seen') ∧
      ∀ f ∈ fields, f.required → f.name ∈ seen' := by
  induction fields generalizing position seen s items with
  | nil =>
    unfold readItems at h
    cases h
    exact ⟨seen, hs, fun _ => id, List.forall_mem_nil _⟩
  | cons f fields ih =>
    obtain ⟨hf, hfields⟩ := List.forall_mem_cons.1 hsub
    cases items with
    | nil =>
      unfold readItems at h
      obtain ⟨_, -, h⟩ := exists_of_bind_ok h
      split at h
      · cases h
      · next hr =>
        obtain ⟨seen', ht, hseen, hreq⟩ := ih hfields hitems hs h
        exact ⟨seen', ht, hseen, List.forall_mem_cons.2 ⟨fun hf => absurd hf hr, hreq⟩⟩
    | cons d items =>
      obtain ⟨hd, hitems⟩ := List.forall_mem_cons.1 hitems
      unfold readItems at h
      obtain ⟨change, hread, h⟩ := exists_of_bind_ok h
      have hs' := step f hf d hd change hread seen s hs
      obtain ⟨seen', ht, hseen, hreq⟩ := ih hfields hitems hs' h
      refine ⟨seen', ht, fun name hname => hseen name (List.mem_cons_of_mem _ hname), ?_⟩
      exact List.forall_mem_cons.2 ⟨fun _ => hseen _ List.mem_cons_self, hreq⟩

variable {format : Format σ}

/-- What holds of the record before reading, and is preserved by each field that is read from inside
the document, holds of the record that is read. All fields that no record does without are read. -/
theorem read_induct {d : Doc} {t : σ}
    (step : Step P (fun e => e.depth < d.depth) format.fields) (hs : P [] format.start)
    (h : format.read d = .ok t) :
    ∃ seen, P seen t ∧ ∀ f ∈ format.fields, f.required → f.name ∈ seen := by
  unfold read at h
  split at h
  · next members close =>
    refine readMembers_induct step (fun m hm => ?_) hs h
    exact Nat.lt_succ_of_le (Doc.membersDepth_le.1 (Nat.le_refl _) m hm)
  · next items close =>
    obtain ⟨⟨s, left⟩, hr, h⟩ := exists_of_bind_ok h
    have hitems : ∀ i ∈ items, i.depth < (Doc.seq items close).depth := fun i hi =>
      Nat.lt_succ_of_le (Doc.itemsDepth_le.1 (Nat.le_refl _) i hi)
    obtain ⟨seen, ht, -, hreq⟩ := readItems_induct step (fun _ => id) hitems hs hr
    simp only at h
    split at h
    · cases h
    · obtain ⟨_, -, h⟩ := exists_of_bind_ok h
      cases h
      exact ⟨seen, ht, hreq⟩
  · cases h
  · cases h

/-- The same of operands, where `Q` holds of all documents among them. -/
theorem readOperands_induct {operands : Operands} {t : σ} (step : Step P Q format.fields)
    (hoperands : ∀ d ∈ operands.docs, Q d) (hs : P [] format.start)
    (h : format.readOperands operands = .ok t) :
    ∃ seen, P seen t ∧ ∀ f ∈ format.fields, f.required → f.name ∈ seen := by
  cases operands with
  | inl members =>
    exact readMembers_induct step (fun m hm => hoperands _ (List.mem_map_of_mem hm)) hs h
  | inr items =>
    obtain ⟨⟨s, left⟩, hr, h⟩ := exists_of_bind_ok h
    obtain ⟨seen, ht, -, hreq⟩ := readItems_induct step (fun _ => id) hoperands hs hr
    simp only at h
    split at h
    · cases h
    · cases h
      exact ⟨seen, ht, hreq⟩

end Format

/-! ## Values of several kinds -/

theorem mem_of_takeKind {nested : Bool} {close : Option Flaw} {kind : Option (String ⊕ Nat)}
    {members operands : List (Key × Doc)} {k : String ⊕ Nat}
    (h : takeKind nested close kind members = .ok (k, operands)) :
    ∀ m ∈ operands, m ∈ members := by
  induction members generalizing kind operands with
  | nil =>
    obtain ⟨_, -, h⟩ := exists_of_bind_ok h
    split at h
    · cases h
      exact List.forall_mem_nil _
    · cases h
  | cons m ms ih =>
    obtain ⟨-, -, _, -, h⟩ | ⟨_, -, -, -, operands', hrest, rfl⟩ := takeKind_cons_iff.1 h
    · exact fun m hm => List.mem_cons_of_mem _ (ih h m hm)
    · exact List.forall_mem_cons.2
        ⟨List.mem_cons_self, fun m hm => List.mem_cons_of_mem _ (ih hrest m hm)⟩

/-- The operands of a document stand inside it. -/
theorem depth_lt_of_takeApart {label : String} {nested : Bool} {d : Doc} {kind : String ⊕ Nat}
    {operands : Operands} (h : takeApart label nested d = .ok (kind, operands)) :
    0 < d.depth ∧ ∀ e ∈ operands.docs, e.depth < d.depth := by
  unfold takeApart at h
  split at h
  · next members close =>
    obtain ⟨⟨_, ms⟩, hr, h⟩ := exists_of_bind_ok h
    cases h
    refine ⟨Nat.succ_pos _, fun e he => ?_⟩
    obtain ⟨m, hm, rfl⟩ := List.mem_map.1 he
    exact Nat.lt_succ_of_le (Doc.membersDepth_le.1 (Nat.le_refl _) m (mem_of_takeKind hr m hm))
  · obtain ⟨_, -, h⟩ := exists_of_bind_ok h
    cases h
  · next item items close =>
    obtain ⟨_, -, h⟩ := exists_of_bind_ok h
    obtain ⟨_, -, h⟩ := exists_of_bind_ok h
    cases h
    refine ⟨Nat.succ_pos _, fun e he => Nat.lt_succ_of_le ?_⟩
    exact Doc.itemsDepth_le.1 (Nat.le_refl _) e (List.mem_cons_of_mem _ he)
  · cases h
  · cases h

section
variable {α β : Type}

theorem eq_of_readNothing {a b : α} {operands : Operands} (h : readNothing a operands = .ok b) :
    b = a := by
  cases operands with
  | inl _ =>
    cases h
    rfl
  | inr items =>
    simp only [readNothing] at h
    split at h
    · cases h
      rfl
    · cases h

/-- A value of one of the kinds is read from operands inside the document, or stands for all kinds
that are not known. -/
theorem exists_of_readTagged {label : String} {nested : Bool} {kinds : List (Kind α)}
    {unknown a : α} {d : Doc} (h : readTagged label nested kinds unknown d = .ok a) :
    0 < d.depth ∧ (a = unknown ∨ ∃ k ∈ kinds, ∃ operands : Operands,
      (∀ e ∈ operands.docs, e.depth < d.depth) ∧ k.read operands = .ok a) := by
  obtain ⟨⟨kind, operands⟩, hr, h⟩ := exists_of_bind_ok h
  obtain ⟨hpos, hdocs⟩ := depth_lt_of_takeApart hr
  refine ⟨hpos, ?_⟩
  simp only at h
  split at h
  · next k hk =>
    refine .inr ⟨k, ?_, operands, hdocs, h⟩
    cases kind with
    | inl name => exact List.mem_of_find?_eq_some hk
    | inr position => exact List.mem_of_getElem? hk
  · exact .inl (eq_of_readNothing h)

theorem Kind.exists_of_map {k : Kind α} {f : α → β} {operands : Operands} {b : β}
    (h : (k.map f).read operands = .ok b) : ∃ a, b = f a := by
  obtain ⟨a, -, ha⟩ := exists_of_map_ok h
  exact ⟨a, ha.symm⟩

/-- The operand of a kind that takes one. -/
theorem Kind.exists_of_one [Inhabited β] {type name field : String} {read : Doc → Reading β}
    {make : β → α} {operands : Operands} {a : α}
    (h : (Kind.one type name field read make).read operands = .ok a) :
    ∃ d ∈ operands.docs, ∃ b, read d = .ok b ∧ a = make b := by
  obtain ⟨b, hb, rfl⟩ := exists_of_map_ok h
  have step : Format.Step
      (fun seen b => field ∈ seen → ∃ d ∈ operands.docs, read d = .ok b) (· ∈ operands.docs)
      [operand field read fun b (_ : β) => b] := by
    intro f hf d hd change hchange seen s _ _
    rw [List.mem_singleton.1 hf] at hchange
    obtain ⟨b, hread, rfl⟩ := exists_of_map_ok hchange
    exact ⟨d, hd, hread⟩
  obtain ⟨seen, hseen, hreq⟩ := Format.readOperands_induct step (fun _ => id) (by rintro ⟨⟩) hb
  obtain ⟨d, hd, hread⟩ := hseen (hreq _ List.mem_cons_self rfl)
  exact ⟨d, hd, b, hread, rfl⟩

end

/-! ## Texts that are written again -/

section
variable {α : Type} {read : Doc → Reading α} {write : α → Json} {regular : α → Prop}

/-- The text that is written for what is read from a text. -/
def rewritten (read : Doc → Reading α) (write : α → Json) (s : String) : Reading String :=
  (fun a => (write a).toText) <$> readAll read s

/-- Regular values that are not too deep are read back from their texts. What is read from any text
is regular and not too deep, so that a text written for it is not changed by writing it again. -/
structure Canonical (read : Doc → Reading α) (write : α → Json) (regular : α → Prop) : Prop where
  restores : ∀ a, regular a → (write a).depth ≤ maxDepth → readAll read (write a).toText = .ok a
  accepted : ∀ s a, readAll read s = .ok a → regular a ∧ (write a).depth ≤ maxDepth
  settles : ∀ s t, rewritten read write s = .ok t → rewritten read write t = .ok t

theorem Canonical.of_bounded {k : Nat} (hconveys : ∀ a, regular a → Conveys read (write a) a)
    (hregular : ∀ d a, read d = .ok a → regular a) (hbounded : Bounded k read write)
    (hk : k ≤ maxDepth) : Canonical read write regular := by
  have hrestores : ∀ a, regular a → (write a).depth ≤ maxDepth →
      readAll read (write a).toText = .ok a := fun a ha hdepth => (hconveys a ha).readAll hdepth
  have haccepted : ∀ s a, readAll read s = .ok a → regular a ∧ (write a).depth ≤ maxDepth := by
    intro s a h
    obtain ⟨d, hd, hread⟩ := exists_of_readAll h
    have := hbounded hread
    exact ⟨hregular d a hread, by omega⟩
  refine ⟨hrestores, haccepted, fun s t h => ?_⟩
  obtain ⟨a, ha, rfl⟩ := exists_of_map_ok h
  obtain ⟨hreg, hdepth⟩ := haccepted s a ha
  rw [rewritten, hrestores a hreg hdepth]
  rfl

end

end Dialogue.Json
