import Dialogue.Proofs.Json.Inversion
import Mathlib.Data.List.Forall2
import Mathlib.Tactic.Choose

/-!
# Edited documents

Documents of written values that have been edited by hand: members of records were left out, put in
another order, or joined by members that mean nothing. An `Editing` says what may be done to the
values of a type, and what an edited value stands for. It suits a reader (`Editing.Suits`) that
takes just that from every such document. Sequences, tables and records are edited within, record
by record; a record is read from what is left of its members (`Format.exists_readMembers`), each of
which settles its own field, as the fields are independent (`Field.Apart`).
-/

namespace Dialogue.Json

/-- A written value, a document that was made of it, and the value that the document stands for. -/
structure Edit where
  value : Json
  doc : Doc
  result : Json

/-- What may be done to the documents of written values. -/
abbrev Editing := Edit → Prop

/-- A member of records: what stands for it where it is left out, if it may be, and how its value
may be edited. -/
structure Part where
  name : String
  default : Option Json
  edits : Editing

namespace Editing

/-- The value stays as it was written. -/
def plain : Editing := fun e =>
  e.result = e.value ∧ ∃ level, Fitting level e.value ∧ e.doc = e.value.docAt level

/-- The items of a sequence are edited each by itself. -/
def list (edits : Editing) : Editing := fun e =>
  ∃ items : List Edit, (∀ i ∈ items, edits i) ∧
    e = ⟨.seq (items.map (·.value)), .seq (items.map (·.doc)) none, .seq (items.map (·.result))⟩

/-- The entries of a table are edited each by itself, and come in any order. -/
def table (edits : Editing) : Editing := fun e =>
  ∃ entries told : List (String × Edit), (∀ m ∈ entries, edits m.2) ∧ told.Perm entries ∧
    e = ⟨.map (entries.map fun m => (m.1, m.2.value)),
      .map (told.map fun m => (.text m.1, m.2.doc)) none,
      .map (entries.map fun m => (m.1, m.2.result))⟩

/-- The members `members`, in a document of a record that has the value `v` under each name of a
part, tell a record that has the values `w`. -/
structure Members (parts : List Part) (v w : String → Json) (members : List (Key × Doc)) :
    Prop where
  /-- A member belongs to a part and holds an edited document, or else it holds any JSON. -/
  told : ∀ m ∈ members, ∃ name, m.1 = .text name ∧
    ((∃ p ∈ parts, p.name = name ∧ p.edits ⟨v name, m.2, w name⟩) ∨
      (name ∉ parts.map (·.name) ∧ m.2.readingFlaw = none))
  /-- No part is told twice. -/
  once : members.Pairwise fun m m' => m.1 = m'.1 → ∀ p ∈ parts, m.1 ≠ .text p.name
  /-- A part may be left out if something stands for it. -/
  leftOut : ∀ p ∈ parts, .text p.name ∉ members.map Prod.fst → p.default = some (w p.name)

/-- The parts of a record are edited each by itself or left out, and come in any order, between
members that are no parts. -/
def record (parts : List Part) : Editing := fun e =>
  ∃ v w members, Members parts v w members ∧
    e = ⟨.map (parts.map fun p => (p.name, v p.name)), .map members none,
      .map (parts.map fun p => (p.name, w p.name))⟩

end Editing

namespace Part

/-- A part that stays as it was written or is left out. -/
def plain (name : String) (default : Json) : Part := ⟨name, some default, .plain⟩

/-- A table that starts out empty. -/
def table (name : String) (edits : Editing) : Part := ⟨name, some (.map []), .table edits⟩

/-- What stands for a record all of whose parts are left out. -/
def defaults (parts : List Part) : Json :=
  .map (parts.filterMap fun p => p.default.map (p.name, ·))

/-- A record within a record. -/
def record (name : String) (parts : List Part) : Part :=
  ⟨name, some (defaults parts), .record parts⟩

end Part

/-! ## Flaws met by skipping -/

theorem Key.skippingFlaw_of_readingFlaw {k : Key} (h : k.readingFlaw = none) :
    k.skippingFlaw = none := by
  match k with
  | .text _ => rfl

mutual

/-- What can be read can be skipped. -/
theorem skippingFlaw_of_readingFlaw {d : Doc} (h : d.readingFlaw = none) :
    d.skippingFlaw = none := by
  match d with
  | .null | .bool _ | .number _ | .text _ => rfl
  | .seq items close =>
    obtain ⟨hitems, rfl⟩ := Option.or_eq_none_iff.1 h
    exact Option.or_eq_none_iff.2 ⟨itemsSkippingFlaw_of_reading hitems, rfl⟩
  | .map members close =>
    obtain ⟨hmembers, rfl⟩ := Option.or_eq_none_iff.1 h
    exact Option.or_eq_none_iff.2 ⟨membersSkippingFlaw_of_reading hmembers, rfl⟩

theorem itemsSkippingFlaw_of_reading {items : List Doc} (h : Doc.itemsReadingFlaw items = none) :
    Doc.itemsSkippingFlaw items = none := by
  match items with
  | [] => rfl
  | d :: ds =>
    obtain ⟨hd, hds⟩ := Option.or_eq_none_iff.1 h
    exact Option.or_eq_none_iff.2
      ⟨skippingFlaw_of_readingFlaw hd, itemsSkippingFlaw_of_reading hds⟩

theorem membersSkippingFlaw_of_reading {members : List (Key × Doc)}
    (h : Doc.membersReadingFlaw members = none) : Doc.membersSkippingFlaw members = none := by
  match members with
  | [] => rfl
  | (k, d) :: ms =>
    obtain ⟨hk, h⟩ := Option.or_eq_none_iff.1 h
    obtain ⟨hd, hms⟩ := Option.or_eq_none_iff.1 h
    exact Option.or_eq_none_iff.2 ⟨Key.skippingFlaw_of_readingFlaw hk, Option.or_eq_none_iff.2
      ⟨skippingFlaw_of_readingFlaw hd, membersSkippingFlaw_of_reading hms⟩⟩

end

/-! ## Records read from what is left of them -/

section
variable {σ : Type}

/-- What the field `f` changes is not written by the field `g`. -/
def Field.Apart (f g : Field σ) : Prop :=
  ∀ d change, f.read d = .ok change → ∀ t, g.write (change t) = g.write t

@[simp] theorem Field.Apart.needed_left {f g : Field σ} : f.needed.Apart g ↔ f.Apart g := .rfl

@[simp] theorem Field.Apart.needed_right {f g : Field σ} : f.Apart g.needed ↔ f.Apart g := .rfl

theorem Field.Apart.of {α β : Type} {name name' : String} {read : Doc → Reading α}
    {read' : Doc → Reading β} {write : α → Json} {write' : β → Json} {get : σ → α} {get' : σ → β}
    {set : α → σ → σ} {set' : β → σ → σ} (h : ∀ a t, get' (set a t) = get' t) :
    (Field.of name read write get set).Apart (.of name' read' write' get' set') := by
  intro d change hread t
  obtain ⟨a, -, rfl⟩ := exists_of_map_ok hread
  exact congrArg (fun b => some (write' b)) (h a t)

/-- The fields have names of their own and are independent. -/
structure Format.Apart (fields : List (Field σ)) : Prop where
  nodup_names : (fields.map (·.name)).Nodup
  apart : ∀ f ∈ fields, ∀ g ∈ fields, f.name ≠ g.name → f.Apart g

theorem Format.Apart.of_pairwise {fields : List (Field σ)}
    (hnames : (fields.map (·.name)).Nodup)
    (h : fields.Pairwise fun f g => f.Apart g ∧ g.Apart f) : Format.Apart fields where
  nodup_names := hnames
  apart _ hf _ hg := by
    have hright : fields.Pairwise fun f g => f.name ≠ g.name → f.Apart g := h.imp fun hfg _ => hfg.1
    have hleft : fields.Pairwise fun f g => g.name ≠ f.name → g.Apart f := h.imp fun hfg _ => hfg.2
    exact hright.forall_of_forall_of_flip (fun _ _ hne => absurd rfl hne) hleft hf hg

/-- The member makes a field write the value that `w` has for it, or it belongs to no field. -/
def Format.Settles (fields : List (Field σ)) (w : String → Json) (m : Key × Doc) : Prop :=
  ∃ name, m.1 = .text name ∧
    ((∃ f ∈ fields, f.name = name ∧
        ∃ change, f.read m.2 = .ok change ∧ ∀ t, f.write (change t) = some (w name)) ∨
      (name ∉ fields.map (·.name) ∧ m.2.skippingFlaw = none))

/-- Members that settle their fields are read in any order: the fields that are not among `seen` are
settled by a member to come or without one. -/
theorem Format.exists_readMembers {fields : List (Field σ)} (happart : Format.Apart fields)
    {w : String → Json} {members : List (Key × Doc)} (hmembers : ∀ m ∈ members, Settles fields w m)
    (honce : members.Pairwise fun m m' => m.1 = m'.1 → ∀ f ∈ fields, m.1 ≠ .text f.name)
    {seen : List String} {t : σ} (hnew : ∀ name ∈ seen, .text name ∉ members.map Prod.fst)
    (hfields : ∀ f ∈ fields, .text f.name ∈ members.map Prod.fst ∨
      ((f.required = true → f.name ∈ seen) ∧ f.write t = some (w f.name))) :
    ∃ t', readMembers fields none seen t members = .ok t' ∧
      ∀ f ∈ fields, f.write t' = some (w f.name) := by
  induction members generalizing seen t with
  | nil =>
    have hsettled := fun f hf => (hfields f hf).resolve_left List.not_mem_nil
    exact ⟨t, readMembers_nil_iff.2 ⟨rfl, fun f hf => (hsettled f hf).1, rfl⟩,
      fun f hf => (hsettled f hf).2⟩
  | cons m members ih =>
    obtain ⟨k, d⟩ := m
    obtain ⟨hm, hms⟩ := List.forall_mem_cons.1 hmembers
    obtain ⟨hfirst, hrest⟩ := List.pairwise_cons.1 honce
    obtain ⟨name, rfl, hm⟩ := hm
    have hlater : ∀ name ∈ seen, .text name ∉ members.map Prod.fst := fun name hname hmem =>
      hnew name hname (List.mem_cons_of_mem _ hmem)
    rcases hm with ⟨f, hf, rfl, change, hread, hwrite⟩ | ⟨hother, hskip⟩
    · have hfind : fields.find? (·.name == f.name) = some f :=
        find?_of_nodup_keys happart.nodup_names hf
      have hunseen : f.name ∉ seen := fun hmem => hnew _ hmem List.mem_cons_self
      have hlast : .text f.name ∉ members.map Prod.fst := by
        intro hmem
        obtain ⟨m', hm', heq⟩ := List.mem_map.1 hmem
        exact hfirst m' hm' heq.symm f hf rfl
      have hsettled : ∀ g ∈ fields, .text g.name ∈ members.map Prod.fst ∨
          ((g.required = true → g.name ∈ f.name :: seen) ∧
            g.write (change t) = some (w g.name)) := by
        intro g hg
        by_cases hname : g.name = f.name
        · obtain rfl : g = f := eq_of_nodup_keys happart.nodup_names hg hf hname
          exact .inr ⟨fun _ => List.mem_cons_self, hwrite t⟩
        · -- the other fields are as they were before this one changed
          rw [happart.apart f hf g hg (Ne.symm hname) d change hread t]
          refine (hfields g hg).imp (fun hmem => ?_) fun ⟨hseen, hw⟩ =>
            ⟨fun hr => List.mem_cons_of_mem _ (hseen hr), hw⟩
          rcases List.mem_cons.1 hmem with heq | hmem
          · exact absurd (Key.text.inj heq) hname
          · exact hmem
      obtain ⟨t', hread', hw⟩ :=
        ih hms hrest (List.forall_mem_cons.2 ⟨hlast, hlater⟩) hsettled
      exact ⟨t', readMembers_cons_iff.2
        ⟨f.name, rfl, .inr ⟨f, hfind, hunseen, change, hread, hread'⟩⟩, hw⟩
    · have hfind : fields.find? (·.name == name) = none :=
        List.find?_eq_none.2 fun f hf heq =>
          hother (beq_iff_eq.1 heq ▸ List.mem_map_of_mem hf)
      obtain ⟨t', hread', hw⟩ := ih hms hrest hlater fun g hg =>
        (hfields g hg).imp_left fun hmem => by
          rcases List.mem_cons.1 hmem with heq | hmem
          · exact absurd (Key.text.inj heq ▸ List.mem_map_of_mem hg) hother
          · exact hmem
      exact ⟨t', readMembers_cons_iff.2 ⟨name, rfl, .inl ⟨hfind, hskip, hread'⟩⟩, hw⟩

end

/-! ## Editings that suit their readers -/

/-- What is left unedited stands for itself, and from a document of what was written the reader
takes what is written as the value that the document stands for. -/
structure Editing.Suits {α : Type} (edits : Editing) (read : Doc → Reading α) (write : α → Json) :
    Prop where
  unedited (a : α) {level : Nat} : Fitting level (write a) →
    edits ⟨write a, (write a).docAt level, write a⟩
  reads {e : Edit} {a : α} : edits e → write a = e.value →
    ∃ b, read e.doc = .ok b ∧ write b = e.result

section
variable {α : Type} {edits : Editing} {read : Doc → Reading α} {write : α → Json}

namespace Editing.Suits

theorem plain (h : ∀ a, Conveys read (write a) a) : Editing.plain.Suits read write where
  unedited _ _ hfit := ⟨rfl, _, hfit, rfl⟩
  reads {e a} he hvalue := by
    obtain ⟨hresult, level, hfit, hdoc⟩ := he
    rw [← hvalue] at hfit hdoc hresult
    exact ⟨a, hdoc ▸ (h a).reads hfit, hresult.symm⟩

theorem list [Inhabited α] (h : edits.Suits read write) :
    (Editing.list edits).Suits (readList read) fun l => .seq (l.map write) where
  unedited l level hfit := by
    obtain ⟨heq, hitems⟩ := hfit.seq
    refine ⟨l.map fun a => ⟨write a, (write a).docAt (level + 1), write a⟩,
      List.forall_mem_map.2 fun a ha => h.unedited a (hitems _ (List.mem_map_of_mem ha)), ?_⟩
    simp only [heq, List.map_map, Function.comp_def]
  reads {_ l} := by
    rintro ⟨items, hitems, rfl⟩ hvalue
    have hread : ∀ i ∈ items, ∃ b, read i.doc = .ok b ∧ write b = i.result := by
      intro i hi
      obtain ⟨a, -, ha⟩ := List.mem_map.1 (Json.seq.inj hvalue ▸ List.mem_map_of_mem hi)
      exact h.reads (hitems i hi) ha
    choose! taken hread hwrite using hread
    refine ⟨items.map taken, ?_, ?_⟩
    · simp only [readList, mapM_eq_ok read hread]
      rfl
    · rw [List.map_map]
      exact congrArg Json.seq (List.map_congr_left hwrite)

theorem table [Inhabited α] (h : edits.Suits read write) :
    (Editing.table edits).Suits (readTable read) fun t =>
      .map (t.toList.map fun m => (m.1, write m.2)) where
  unedited t level hfit := by
    obtain ⟨heq, hmembers⟩ := hfit.map
    refine ⟨t.toList.map fun m => (m.1, ⟨write m.2, (write m.2).docAt (level + 1), write m.2⟩), _,
      List.forall_mem_map.2 fun m hm => h.unedited m.2 (hmembers _ (List.mem_map_of_mem hm)),
      .refl _, ?_⟩
    simp only [heq, memberDocs_eq, List.map_map, Function.comp_def]
  reads {_ t} := by
    rintro ⟨entries, told, hentries, hperm, rfl⟩ hvalue
    have hvalue : t.toList.map (fun m => (m.1, write m.2)) =
      entries.map fun m => (m.1, m.2.value) := Json.map.inj hvalue
    have hread : ∀ m ∈ entries, ∃ b, read m.2.doc = .ok b ∧ write b = m.2.result := by
      intro m hm
      obtain ⟨a, -, ha⟩ := List.mem_map.1 (hvalue ▸ List.mem_map_of_mem hm)
      exact h.reads (hentries m hm) (Prod.mk.inj ha).2
    choose! taken hread hwrite using hread
    have hnames : t.toList.map Prod.fst = entries.map Prod.fst := by
      simpa only [List.map_map, Function.comp_def] using congrArg (List.map Prod.fst) hvalue
    have hsorted : (entries.map fun m => (m.1, taken m)).Pairwise (·.1 < ·.1) := by
      have hkeys : (t.toList.map Prod.fst).Pairwise (· < ·) := List.pairwise_map.2 t.sorted
      rw [hnames] at hkeys
      exact List.pairwise_map.2 (List.pairwise_map.1 hkeys)
    refine ⟨⟨_, hsorted⟩, ?_, ?_⟩
    · have htold := mapM_eq_ok (readMember read) (l := told)
        (f := fun m => (Key.text m.1, m.2.doc)) (g := fun m => (m.1, taken m)) fun m hm => by
          simp only [readMember, hread m (hperm.subset hm)]
          rfl
      simp only [readTable, htold]
      exact congrArg Except.ok (Sorted.ofList_of_perm (hperm.map _))
    · rw [List.map_map]
      exact congrArg Json.map (List.map_congr_left fun m hm => Prod.ext rfl (hwrite m hm))

end Editing.Suits

end

/-! ## Editings of records -/

section
variable {σ α : Type}

/-- The part says of a field how its values may be edited, and what is written of it at the start
of reading. -/
structure Part.Suits (start : σ) (f : Field σ) (p : Part) : Prop where
  name : f.name = p.name
  written (t : σ) : (f.write t).isSome
  unedited {t : σ} {v : Json} {level : Nat} : f.write t = some v → Fitting level v →
    p.edits ⟨v, v.docAt level, v⟩
  reads {t : σ} {e : Edit} : p.edits e → f.write t = some e.value →
    ∃ change, f.read e.doc = .ok change ∧ ∀ t, f.write (change t) = some e.result
  default {w : Json} : p.default = some w → f.required = false ∧ f.write start = some w

namespace Part.Suits
variable {start : σ} {name : String} {edits : Editing} {read : Doc → Reading α} {write : α → Json}
  {get : σ → α} {set : α → σ → σ} {f : Field σ} {p : Part} {default : Option Json}

theorem of (h : edits.Suits read write) (hget : ∀ a t, get (set a t) = a)
    (hdefault : default = some (write (get start))) :
    Suits start (.of name read write get set) ⟨name, default, edits⟩ where
  name := rfl
  written _ := rfl
  unedited hv hfit := by
    cases hv
    exact h.unedited _ hfit
  reads he hv := by
    obtain ⟨b, hread, hwrite⟩ := h.reads he (Option.some.inj hv)
    refine ⟨set b, ?_, fun t => ?_⟩
    · simp only [Field.of, hread]
      rfl
    · rw [← hwrite]
      exact congrArg (some <| write ·) (hget b t)
  default hw := ⟨rfl, hdefault.symm.trans hw⟩

/-- A field that no record does without, whose part cannot be left out. -/
theorem needed (h : Suits start f p) : Suits start f.needed ⟨p.name, none, p.edits⟩ where
  name := h.name
  written := h.written
  unedited := h.unedited
  reads := h.reads
  default hw := nomatch hw

end Part.Suits

namespace Format
variable {format : Format σ} {fields : List (Field σ)} {parts : List Part} {start s : σ}

theorem map_name_eq (h : List.Forall₂ (Part.Suits start) fields parts) :
    fields.map (·.name) = parts.map (·.name) := by
  induction h with
  | nil => rfl
  | cons hp _ ih => rw [List.map_cons, List.map_cons, hp.name, ih]

theorem exists_part (h : List.Forall₂ (Part.Suits start) fields parts) :
    (∀ f ∈ fields, ∃ p ∈ parts, p.Suits start f) ∧ ∀ p ∈ parts, ∃ f ∈ fields, p.Suits start f := by
  induction h with
  | nil => exact ⟨List.forall_mem_nil _, List.forall_mem_nil _⟩
  | cons hp _ ih =>
    obtain ⟨hfields, hparts⟩ := ih
    refine ⟨List.forall_mem_cons.2 ⟨⟨_, List.mem_cons_self, hp⟩, fun f hf => ?_⟩,
      List.forall_mem_cons.2 ⟨⟨_, List.mem_cons_self, hp⟩, fun p hp => ?_⟩⟩
    · obtain ⟨p, hmem, hp⟩ := hfields f hf
      exact ⟨p, List.mem_cons_of_mem _ hmem, hp⟩
    · obtain ⟨f, hmem, hf⟩ := hparts p hp
      exact ⟨f, List.mem_cons_of_mem _ hmem, hf⟩

/-- What is written of fields that are always written, as a value for each name. -/
theorem written_eq_map_iff {v : String → Json} (h : ∀ f ∈ fields, (f.write s).isSome) :
    written s fields = fields.map (fun f => (f.name, v f.name)) ↔
      ∀ f ∈ fields, f.write s = some (v f.name) := by
  induction fields with
  | nil => exact ⟨fun _ => List.forall_mem_nil _, fun _ => rfl⟩
  | cons f fields ih =>
    obtain ⟨hf, hfields⟩ := List.forall_mem_cons.1 h
    obtain ⟨w, hw⟩ := Option.isSome_iff_exists.1 hf
    have hcons : written s (f :: fields) = (f.name, w) :: written s fields :=
      List.filterMap_cons_some (by rw [hw]; rfl)
    rw [hcons, List.map_cons, List.cons.injEq, ih hfields, List.forall_mem_cons, hw]
    simp

/-- A record whose fields suit parts is written as a value for each part. -/
theorem write_eq_iff (h : List.Forall₂ (Part.Suits format.start) format.fields parts)
    {v : String → Json} : format.write s = .map (parts.map fun p => (p.name, v p.name)) ↔
      ∀ f ∈ format.fields, f.write s = some (v f.name) := by
  have hsome : ∀ f ∈ format.fields, (f.write s).isSome := by
    intro f hf
    obtain ⟨p, -, hp⟩ := (exists_part h).1 f hf
    exact hp.written s
  have hparts : parts.map (fun p => (p.name, v p.name)) =
      format.fields.map fun f => (f.name, v f.name) := by
    have hnames := congrArg (List.map fun name => (name, v name)) (map_name_eq h)
    simpa only [List.map_map, Function.comp_def] using hnames.symm
  rw [hparts, ← written_eq_map_iff hsome, write, Json.map.injEq]
  rfl

/-- A record suits an editing of records whose parts suit its fields. -/
theorem suits (hparts : List.Forall₂ (Part.Suits format.start) format.fields parts)
    (happart : Format.Apart format.fields) :
    (Editing.record parts).Suits format.read format.write where
  unedited t level hfit := by
    obtain ⟨v, hv⟩ : ∃ v : String → Json, ∀ f ∈ format.fields, f.write t = some (v f.name) := by
      refine ⟨fun name => ((format.fields.find? (·.name == name)).bind (·.write t)).getD .null,
        fun f hf => ?_⟩
      obtain ⟨p, -, hsuits⟩ := (exists_part hparts).1 f hf
      obtain ⟨w, hw⟩ := Option.isSome_iff_exists.1 (hsuits.written t)
      simp only [find?_of_nodup_keys happart.nodup_names hf, Option.bind_some, hw, Option.getD_some]
    have hwrite := (write_eq_iff hparts).2 hv
    rw [hwrite] at hfit ⊢
    obtain ⟨heq, hmembers⟩ := hfit.map
    rw [heq, memberDocs_eq, List.map_map]
    refine ⟨v, v, _, ⟨?_, ?_, ?_⟩, rfl⟩
    · intro m hm
      obtain ⟨p, hp, rfl⟩ := List.mem_map.1 hm
      obtain ⟨f, hf, hsuits⟩ := (exists_part hparts).2 p hp
      have hvalue : f.write t = some (v p.name) := hsuits.name ▸ hv f hf
      exact ⟨p.name, rfl, .inl ⟨p, hp, rfl,
        hsuits.unedited hvalue (hmembers _ (List.mem_map_of_mem hp))⟩⟩
    · have hnames : (parts.map (·.name)).Nodup := map_name_eq hparts ▸ happart.nodup_names
      exact List.pairwise_map.2 ((List.pairwise_map.1 hnames).imp fun hne heq =>
        absurd (Key.text.inj heq) hne)
    · intro p hp hleft
      rw [List.map_map] at hleft
      exact absurd (List.mem_map.2 ⟨p, hp, rfl⟩) hleft
  reads {_ t} := by
    rintro ⟨v, w, members, hmembers, rfl⟩ hvalue
    have hv : ∀ f ∈ format.fields, f.write t = some (v f.name) := write_eq_iff hparts |>.1 hvalue
    have hsettles : ∀ m ∈ members, Settles format.fields w m := by
      intro m hm
      obtain ⟨name, hname, ⟨p, hp, rfl, he⟩ | ⟨hother, hflaw⟩⟩ := hmembers.told m hm
      · obtain ⟨f, hf, hsuits⟩ := (exists_part hparts).2 p hp
        have hvalue : f.write t = some (v p.name) := hsuits.name ▸ hv f hf
        exact ⟨p.name, hname, .inl ⟨f, hf, hsuits.name, hsuits.reads he hvalue⟩⟩
      · rw [← map_name_eq hparts] at hother
        exact ⟨name, hname, .inr ⟨hother, skippingFlaw_of_readingFlaw hflaw⟩⟩
    have honce : members.Pairwise fun m m' => m.1 = m'.1 →
        ∀ f ∈ format.fields, m.1 ≠ .text f.name := by
      refine hmembers.once.imp fun hm heq f hf => ?_
      obtain ⟨p, hp, hsuits⟩ := (exists_part hparts).1 f hf
      exact hsuits.name ▸ hm heq p hp
    have hstart : ∀ f ∈ format.fields, .text f.name ∈ members.map Prod.fst ∨
        ((f.required = true → f.name ∈ []) ∧ f.write format.start = some (w f.name)) := by
      intro f hf
      obtain ⟨p, hp, hsuits⟩ := (exists_part hparts).1 f hf
      rw [hsuits.name]
      by_cases hmem : Key.text p.name ∈ members.map Prod.fst
      · exact .inl hmem
      · obtain ⟨hr, hw⟩ := hsuits.default (hmembers.leftOut p hp hmem)
        exact .inr ⟨fun h => Bool.noConfusion (hr.symm.trans h), hw⟩
    obtain ⟨t', hread, hwrite⟩ :=
      exists_readMembers happart hsettles honce (List.forall_mem_nil _) hstart
    exact ⟨t', hread, (write_eq_iff hparts).2 hwrite⟩

end Format

end

end Dialogue.Json
