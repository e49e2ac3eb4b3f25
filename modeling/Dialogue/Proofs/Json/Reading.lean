import Dialogue.Json.Tagged
import Dialogue.Proofs.Except
import Dialogue.Proofs.Json.Printing
import Dialogue.Proofs.Sorted

/-!
# What readers take from written values

A value tells a reader something (`Conveys`) when the document that says it is read so wherever it
fits below the bound on containers. Records are taken field by field (`Tells`): a format whose
fields each restore their part of a record reads what it writes (`Format.Restores.conveys`). Values
of several kinds are read back from their operands (`Conveys.tagged`).
-/

namespace Dialogue.Json

/-! ## How deep values are -/

mutual

/-- How many containers stand inside one another in the value. -/
def depth : Json → Nat
  | .null | .bool _ | .int _ | .text _ => 0
  | .seq items => itemsDepth items + 1
  | .map members => membersDepth members + 1

def itemsDepth : List Json → Nat
  | [] => 0
  | v :: vs => max v.depth (itemsDepth vs)

def membersDepth : List (String × Json) → Nat
  | [] => 0
  | (_, v) :: ms => max v.depth (membersDepth ms)

end

@[simp] theorem depth_null : Json.null.depth = 0 := rfl
@[simp] theorem depth_bool (b : Bool) : (Json.bool b).depth = 0 := rfl
@[simp] theorem depth_int (n : Int) : (Json.int n).depth = 0 := rfl
@[simp] theorem depth_text (s : String) : (Json.text s).depth = 0 := rfl

theorem itemsDepth_le {items : List Json} {n : Nat} :
    itemsDepth items ≤ n ↔ ∀ v ∈ items, v.depth ≤ n := by
  induction items with
  | nil => simp [itemsDepth]
  | cons v vs ih => rw [itemsDepth, Nat.max_le, ih, List.forall_mem_cons]

theorem membersDepth_le {members : List (String × Json)} {n : Nat} :
    membersDepth members ≤ n ↔ ∀ m ∈ members, m.2.depth ≤ n := by
  induction members with
  | nil => simp [membersDepth]
  | cons m ms ih =>
    obtain ⟨k, v⟩ := m
    simp only [membersDepth, Nat.max_le, ih, List.forall_mem_cons]

theorem depth_seq_le {items : List Json} {n : Nat} :
    (Json.seq items).depth ≤ n + 1 ↔ ∀ v ∈ items, v.depth ≤ n := by
  rw [depth, Nat.add_le_add_iff_right, itemsDepth_le]

theorem depth_map_le {members : List (String × Json)} {n : Nat} :
    (Json.map members).depth ≤ n + 1 ↔ ∀ m ∈ members, m.2.depth ≤ n := by
  rw [depth, Nat.add_le_add_iff_right, membersDepth_le]

theorem depth_list_le {α : Type} {write : α → Json} {l : List α} {n : Nat}
    (h : ∀ a ∈ l, (write a).depth ≤ n) : (Json.seq (l.map write)).depth ≤ n + 1 :=
  depth_seq_le.2 fun v hv => by
    obtain ⟨a, ha, rfl⟩ := List.mem_map.1 hv
    exact h a ha

theorem depth_ofOption_le {α : Type} {write : α → Json} {o : Option α} {n : Nat}
    (h : ∀ a ∈ o, (write a).depth ≤ n) : (ofOption write o).depth ≤ n := by
  cases o with
  | none => exact Nat.zero_le n
  | some a => exact h a rfl

theorem depth_texts_le (l : List String) : (ofTexts l).depth ≤ 1 :=
  depth_list_le fun _ _ => Nat.le_refl 0

theorem itemDocs_eq (level : Nat) (items : List Json) :
    itemDocs level items = items.map (·.docAt level) := by
  induction items with
  | nil => rfl
  | cons v vs ih => rw [itemDocs, ih, List.map_cons]

theorem memberDocs_eq (level : Nat) (members : List (String × Json)) :
    memberDocs level members = members.map fun m => (Key.text m.1, m.2.docAt level) := by
  induction members with
  | nil => rfl
  | cons m ms ih => rw [memberDocs, ih, List.map_cons]

/-- The value can stand inside `level` containers. -/
def Fitting (level : Nat) (v : Json) : Prop := level + v.depth ≤ maxDepth

theorem Fitting.seq {level : Nat} {items : List Json} (h : Fitting level (.seq items)) :
    (Json.seq items).docAt level = .seq (items.map (·.docAt (level + 1))) none ∧
      ∀ v ∈ items, Fitting (level + 1) v := by
  have hdepth : level + (itemsDepth items + 1) ≤ maxDepth := h
  constructor
  · rw [docAt, if_pos (by omega), itemDocs_eq]
  · intro v hv
    have := itemsDepth_le.1 (Nat.le_refl _) v hv
    show level + 1 + v.depth ≤ maxDepth
    omega

theorem Fitting.map {level : Nat} {members : List (String × Json)}
    (h : Fitting level (.map members)) :
    (Json.map members).docAt level = .map (memberDocs (level + 1) members) none ∧
      ∀ m ∈ members, Fitting (level + 1) m.2 := by
  have hdepth : level + (membersDepth members + 1) ≤ maxDepth := h
  constructor
  · rw [docAt, if_pos (by omega)]
  · intro m hm
    have := membersDepth_le.1 (Nat.le_refl _) m hm
    show level + 1 + m.2.depth ≤ maxDepth
    omega

mutual

/-- A written value can be read wherever it fits. -/
theorem readingFlaw_docAt {level : Nat} (v : Json) (h : Fitting level v) :
    (v.docAt level).readingFlaw = none := by
  match v with
  | .null | .bool _ | .int _ | .text _ => rfl
  | .seq items =>
    obtain ⟨heq, hitems⟩ := h.seq
    rw [heq, Doc.readingFlaw, itemsReadingFlaw_map items hitems]
    rfl
  | .map members =>
    obtain ⟨heq, hmembers⟩ := h.map
    rw [heq, Doc.readingFlaw, membersReadingFlaw_memberDocs members hmembers]
    rfl

theorem itemsReadingFlaw_map {level : Nat} (items : List Json)
    (h : ∀ v ∈ items, Fitting level v) :
    Doc.itemsReadingFlaw (items.map (·.docAt level)) = none := by
  match items with
  | [] => rfl
  | v :: vs =>
    obtain ⟨hv, hvs⟩ := List.forall_mem_cons.1 h
    rw [List.map_cons, Doc.itemsReadingFlaw, readingFlaw_docAt v hv, itemsReadingFlaw_map vs hvs]
    rfl

theorem membersReadingFlaw_memberDocs {level : Nat} (members : List (String × Json))
    (h : ∀ m ∈ members, Fitting level m.2) :
    Doc.membersReadingFlaw (memberDocs level members) = none := by
  match members with
  | [] => rfl
  | (k, v) :: ms =>
    obtain ⟨hv, hms⟩ := List.forall_mem_cons.1 h
    rw [memberDocs, Doc.membersReadingFlaw, readingFlaw_docAt v hv,
      membersReadingFlaw_memberDocs ms hms]
    rfl

end

/-! ## Plain values -/

theorem text_ne_null (s : String) : Json.text s ≠ .null := by
  intro h
  cases h

/-- The value `v` tells the reader `a`, wherever it fits. -/
structure Conveys {α : Type} (read : Doc → Reading α) (v : Json) (a : α) : Prop where
  sound : v.Sound
  reads {level : Nat} : Fitting level v → read (v.docAt level) = .ok a

namespace Conveys
variable {α : Type} {read : Doc → Reading α} {write : α → Json}

/-- What a value tells is read from its text. -/
theorem readAll {v : Json} {a : α} (h : Conveys read v a) (hv : v.depth ≤ maxDepth) :
    readAll read v.toText = .ok a := by
  have hread : read v.doc = .ok a := h.reads (by rwa [Fitting, Nat.zero_add])
  simp only [Json.readAll, scan_toText h.sound, hread]
  rfl

theorem text (s : String) : Conveys readText (.text s) s := ⟨.text, fun _ => rfl⟩

theorem bool (b : Bool) : Conveys readBool (.bool b) b := ⟨.bool, fun _ => rfl⟩

theorem ranged {lo hi : Int} (name : String) (hlo : -9223372036854775808 ≤ lo)
    (hhi : hi ≤ 18446744073709551615) (a : Ranged lo hi) :
    Conveys (readRanged lo hi name) (.int a.val) a where
  sound := .int ⟨Int.le_trans hlo a.lo_le, Int.le_trans a.le_hi hhi⟩
  reads _ := by
    simp only [docAt, readRanged, Ranged.ofInt?_val]

theorem list {l : List α} (h : ∀ a ∈ l, Conveys read (write a) a) :
    Conveys (readList read) (.seq (l.map write)) l where
  sound := .seq fun v hv => by
    obtain ⟨a, ha, rfl⟩ := List.mem_map.1 hv
    exact (h a ha).sound
  reads hfit := by
    obtain ⟨heq, hitems⟩ := hfit.seq
    have hread := mapM_eq_ok read (g := id) (f := fun a => (write a).docAt _) fun a ha =>
      (h a ha).reads (hitems _ (List.mem_map_of_mem ha))
    rw [heq, List.map_map]
    simp only [readList, Function.comp_def, hread, List.map_id]
    rfl

theorem texts (l : List String) : Conveys (readList readText) (ofTexts l) l :=
  list fun s _ => text s

theorem nameSet (s : NameSet) : Conveys readNameSet (ofTexts s.toList) s where
  sound := (texts s.toList).sound
  reads hfit := by
    rw [readNameSet, (texts s.toList).reads hfit]
    exact congrArg Except.ok (Sorted.ofList_toList s)

theorem table {t : Table α} (h : ∀ e ∈ t.toList, Conveys read (write e.2) e.2) :
    Conveys (readTable read) (.map (t.toList.map fun e => (e.1, write e.2))) t where
  sound := .map fun m hm => by
    obtain ⟨e, he, rfl⟩ := List.mem_map.1 hm
    exact (h e he).sound
  reads {level} hfit := by
    obtain ⟨heq, hmembers⟩ := hfit.map
    have hread := mapM_eq_ok (readMember read) (g := id)
      (f := fun e => (Key.text e.1, (write e.2).docAt (level + 1))) (l := t.toList) fun e he => by
        simp only [readMember, (h e he).reads (hmembers _ (List.mem_map_of_mem he))]
        rfl
    rw [heq, memberDocs_eq, List.map_map]
    simp only [readTable, Function.comp_def, hread, List.map_id]
    exact congrArg Except.ok (Sorted.ofList_toList t)

/-- A value that is not null tells an optional reader that there is something. -/
theorem present {v : Json} {a : α} (h : Conveys read v a) (hv : v ≠ .null) :
    Conveys (readOption read) v (some a) where
  sound := h.sound
  reads {level} hfit := by
    have hopt : readOption read (v.docAt level) = some <$> read (v.docAt level) := by
      match v with
      | .null => exact absurd rfl hv
      | .bool _ | .int _ | .text _ => rfl
      | .seq _ => rw [hfit.seq.1]; rfl
      | .map _ => rw [hfit.map.1]; rfl
    rw [hopt, h.reads hfit]
    rfl

theorem option {o : Option α} (h : ∀ a ∈ o, Conveys read (write a) a ∧ write a ≠ .null) :
    Conveys (readOption read) (ofOption write o) o := by
  cases o with
  | none => exact ⟨.null, fun _ => rfl⟩
  | some a => exact (h a rfl).1.present (h a rfl).2

theorem vocabulary [DecidableEq α] {v : Vocabulary α} {a : α}
    (h : v.meaning (v.nameOf a) = .ok a) : Conveys v.read (.text (v.nameOf a)) a :=
  ⟨.text, fun _ => h⟩

end Conveys

/-! ## Records -/

section
variable {σ : Type}

/-- The members tell the fields, in their order, and so make the record `t'` of `t`. -/
inductive Tells : List (Field σ) → List (String × Json) → σ → σ → Prop
  | nil {t} : Tells [] [] t t
  | written {f fields v members change t t'} : Conveys f.read v change →
    Tells fields members (change t) t' → Tells (f :: fields) ((f.name, v) :: members) t t'
  | absent {f fields members t t'} : f.required = false →
    Tells fields members t t' → Tells (f :: fields) members t t'

/-- The names `seen` belong to the fields `past`, and those are among them that no record does
without. -/
structure Seen (past : List (Field σ)) (seen : List String) : Prop where
  names : ∀ name ∈ seen, name ∈ past.map (·.name)
  required : ∀ f ∈ past, f.required → f.name ∈ seen

namespace Seen
variable {past fields : List (Field σ)} {seen : List String} {f : Field σ}

theorem nil : Seen ([] : List (Field σ)) [] := ⟨List.forall_mem_nil _, List.forall_mem_nil _⟩

theorem written (h : Seen past seen) : Seen (past ++ [f]) (f.name :: seen) where
  names name hname := by
    rw [List.map_append]
    rcases List.mem_cons.1 hname with rfl | hname
    · exact List.mem_append_right _ List.mem_cons_self
    · exact List.mem_append_left _ (h.names name hname)
  required g hg hr := by
    rcases List.mem_append.1 hg with hg | hg
    · exact List.mem_cons_of_mem _ (h.required g hg hr)
    · rw [List.mem_singleton.1 hg]
      exact List.mem_cons_self

theorem absent (h : Seen past seen) (hf : f.required = false) : Seen (past ++ [f]) seen where
  names name hname := by
    rw [List.map_append]
    exact List.mem_append_left _ (h.names name hname)
  required g hg hr := by
    rcases List.mem_append.1 hg with hg | hg
    · exact h.required g hg hr
    · rw [List.mem_singleton.1 hg, hf] at hr
      cases hr

theorem contains_eq_false (h : Seen past seen)
    (hnames : ((past ++ f :: fields).map (·.name)).Nodup) : seen.contains f.name = false := by
  simp only [List.contains_eq_mem, decide_eq_false_iff_not]
  intro hmem
  rw [List.map_append, List.nodup_append] at hnames
  exact hnames.2.2 _ (h.names _ hmem) _ List.mem_cons_self rfl

theorem find?_eq_none (h : Seen past seen) :
    (past.find? fun f => f.required && !seen.contains f.name) = none := by
  refine List.find?_eq_none.2 fun f hf => ?_
  cases hr : f.required with
  | false => simp
  | true => simpa using h.required f hf hr

end Seen

namespace Tells

theorem sound {fields : List (Field σ)} {members : List (String × Json)} {t t' : σ}
    (h : Tells fields members t t') : ∀ m ∈ members, m.2.Sound := by
  induction h with
  | nil => exact List.forall_mem_nil _
  | written hc _ ih => exact List.forall_mem_cons.2 ⟨hc.sound, ih⟩
  | absent _ _ ih => exact ih

/-- Members that tell the fields are read field by field, whatever fields there were before. -/
theorem readMembers {past fields : List (Field σ)} {members : List (String × Json)} {t t' : σ}
    {level : Nat} {seen : List String} (h : Tells fields members t t')
    (hnames : ((past ++ fields).map (·.name)).Nodup) (hseen : Seen past seen)
    (hfit : ∀ m ∈ members, Fitting level m.2) :
    Format.readMembers (past ++ fields) none seen t (memberDocs level members) = .ok t' := by
  induction h generalizing past seen with
  | nil =>
    rw [List.append_nil]
    simp only [memberDocs, Format.readMembers, hseen.find?_eq_none]
    rfl
  | @written f fields v members change t t' hc _ ih =>
    obtain ⟨hv, hfit⟩ := List.forall_mem_cons.1 hfit
    have hnew := hseen.contains_eq_false hnames
    have hfind : (past ++ f :: fields).find? (·.name == f.name) = some f :=
      find?_of_nodup_keys hnames (by simp)
    have hkey : (Key.text f.name).read = .ok f.name := rfl
    simp only [memberDocs, Format.readMembers, hkey, bind, Except.bind, hfind, hnew, hc.reads hv]
    rw [List.append_cons] at hnames ⊢
    exact ih hnames hseen.written hfit
  | absent hr _ ih =>
    rw [List.append_cons] at hnames ⊢
    exact ih hnames (hseen.absent hr) hfit

theorem readMembers_all {fields : List (Field σ)} {members : List (String × Json)} {t t' : σ}
    {level : Nat} (h : Tells fields members t t') (hnames : (fields.map (·.name)).Nodup)
    (hfit : ∀ m ∈ members, Fitting level m.2) :
    Format.readMembers fields none [] t (memberDocs level members) = .ok t' := by
  have hnames' : ((([] : List (Field σ)) ++ fields).map (·.name)).Nodup := hnames
  exact h.readMembers hnames' .nil hfit

end Tells

/-- What reading makes of a record at a field that was written for the record `s`. -/
inductive Field.Restores (s : σ) (f : Field σ) : σ → σ → Prop
  | written {v change t} : f.write s = some v → Conveys f.read v change →
    Restores s f t (change t)
  | absent {t} : f.write s = none → f.required = false → Restores s f t t

namespace Field.Restores

theorem of {α : Type} {name : String} {read : Doc → Reading α} {write : α → Json}
    {get : σ → α} {set : α → σ → σ} {s t : σ} (h : Conveys read (write (get s)) (get s)) :
    (Field.of name read write get set).Restores s t (set (get s) t) := by
  have hchange : Conveys (Field.of name read write get set).read (write (get s)) (set (get s)) := by
    refine ⟨h.sound, fun hfit => ?_⟩
    simp only [Field.of, h.reads hfit]
    rfl
  exact .written rfl hchange

theorem needed {f : Field σ} {s t t' : σ} (h : f.Restores s t t') (hw : (f.write s).isSome) :
    f.needed.Restores s t t' := by
  cases h with
  | written hv h => exact .written hv h
  | absent hv => simp [hv] at hw

theorem omitted {f : Field σ} {absent : σ → Bool} {s t t' : σ} (h : f.Restores s t t')
    (ha : absent s = true → t' = t) (hr : f.required = false) :
    (f.unless absent).Restores s t t' := by
  cases hs : absent s with
  | true =>
    rw [ha hs]
    exact .absent (if_pos hs) hr
  | false =>
    have hwrite : (f.unless absent).write s = f.write s := if_neg (by simp [hs])
    cases h with
    | written hv h => exact .written (hwrite.trans hv) h
    | absent hv hr => exact .absent (hwrite.trans hv) hr

/-- An optional field, left out where there is nothing. -/
theorem option {α : Type} {name : String} {read : Doc → Reading α} {write : α → Json} {s t : σ}
    {get : σ → Option α} {set : Option α → σ → σ}
    (h : ∀ a ∈ get s, Conveys read (write a) a ∧ write a ≠ .null) (hset : set none t = t) :
    ((Field.of name (readOption read) (ofOption write) get set).unless fun s =>
      (get s).isNone).Restores s t (set (get s) t) := by
  refine .omitted (.of (.option h)) (fun habsent => ?_) rfl
  rw [Option.isNone_iff_eq_none.1 habsent, hset]

/-- A field for a list, left out where the list is empty. -/
theorem list {α : Type} {name : String} {read : Doc → Reading α} {write : α → Json} {s t : σ}
    {get : σ → List α} {set : List α → σ → σ}
    (h : ∀ a ∈ get s, Conveys read (write a) a) (hset : set [] t = t) :
    ((Field.of name (readList read) (fun l => .seq (l.map write)) get set).unless fun s =>
      (get s).isEmpty).Restores s t (set (get s) t) := by
  refine .omitted (.of (.list h)) (fun habsent => ?_) rfl
  rw [List.isEmpty_iff.1 habsent, hset]

end Field.Restores

theorem Field.mem_write_of_unless {f : Field σ} {absent : σ → Bool} {s : σ}
    {v : Json} (h : v ∈ (f.unless absent).write s) : v ∈ f.write s := by
  cases hs : absent s with
  | true => simp [Field.unless, hs] at h
  | false => simpa [Field.unless, hs] using h

namespace Format
variable {format : Format σ} {s : σ}

/-- The members that are written for some fields of a record. -/
def written (s : σ) (fields : List (Field σ)) : List (String × Json) :=
  fields.filterMap fun f => (f.write s).map (f.name, ·)

/-- What is written for some fields of the record `s` makes the record `t'` of `t`. -/
def Restores (s : σ) (fields : List (Field σ)) (t t' : σ) : Prop :=
  Tells fields (written s fields) t t'

namespace Restores

theorem nil {t : σ} : Restores s [] t t := Tells.nil

theorem cons {f : Field σ} {fields : List (Field σ)} {t t' t'' : σ} (hf : f.Restores s t t')
    (h : Restores s fields t' t'') : Restores s (f :: fields) t t'' := by
  cases hf with
  | @written v change _ hv hc =>
    have hcons : written s (f :: fields) = (f.name, v) :: written s fields :=
      List.filterMap_cons_some (by rw [hv]; rfl)
    rw [Restores, hcons]
    exact .written hc h
  | absent hv hr =>
    have hcons : written s (f :: fields) = written s fields :=
      List.filterMap_cons_none (by rw [hv]; rfl)
    rw [Restores, hcons]
    exact .absent hr h

/-- A record is read back if each field restores its part. -/
theorem conveys (h : Restores s format.fields format.start s)
    (hnames : (format.fields.map (·.name)).Nodup) :
    Conveys format.read (format.write s) s where
  sound := .map h.sound
  reads hfit := by
    obtain ⟨heq, hmembers⟩ := hfit.map
    rw [write, heq]
    exact h.readMembers_all hnames hmembers

end Restores

theorem depth_write_le {n : Nat} (h : ∀ f ∈ format.fields, ∀ v ∈ f.write s, v.depth ≤ n) :
    (format.write s).depth ≤ n + 1 := by
  refine depth_map_le.2 fun m hm => ?_
  obtain ⟨f, hf, hwrite⟩ := List.mem_filterMap.1 hm
  obtain ⟨v, hv, rfl⟩ := Option.map_eq_some_iff.1 hwrite
  exact h f hf v hv

end Format

end

/-! ## Values of several kinds -/

section
variable {α β γ : Type}

/-- The operands `operands` tell the kind `a`, wherever they fit. -/
structure Kind.Takes (k : Kind α) (operands : List (String × Json)) (a : α) : Prop where
  names : ∀ m ∈ operands, m.1 ≠ kindField
  sound : ∀ m ∈ operands, m.2.Sound
  reads {level : Nat} : (∀ m ∈ operands, Fitting level m.2) →
    k.read (.inl (memberDocs level operands)) = .ok a

theorem Flaw.check_eq_ok_iff {flaw : Option Flaw} {u : Unit} :
    Flaw.check flaw = .ok u ↔ flaw = none := by
  cases flaw <;> simp [Flaw.check]

theorem takeKind_cons_iff {nested : Bool} {close : Option Flaw} {kind : Option (String ⊕ Nat)}
    {key : Key} {value : Doc} {members operands : List (Key × Doc)} {k : String ⊕ Nat} :
    takeKind nested close kind ((key, value) :: members) = .ok (k, operands) ↔
      (key.read = .ok kindField ∧ kind = none ∧ ∃ k', readKind nested value = .ok k' ∧
        takeKind nested close (some k') members = .ok (k, operands)) ∨
      ∃ name, key.read = .ok name ∧ name ≠ kindField ∧ value.readingFlaw = none ∧
        ∃ operands', takeKind nested close kind members = .ok (k, operands') ∧
          operands = (key, value) :: operands' := by
  rw [takeKind]
  constructor
  · intro h
    obtain ⟨name, hkey, h⟩ := exists_of_bind_ok h
    split at h
    · next hname =>
      cases kind with
      | some _ => cases h
      | none =>
        obtain ⟨k', hkind, h⟩ := exists_of_bind_ok h
        exact .inl ⟨hname ▸ hkey, rfl, k', hkind, h⟩
    · next hname =>
      obtain ⟨_, hflaw, h⟩ := exists_of_bind_ok h
      obtain ⟨⟨_, operands'⟩, hrest, h⟩ := exists_of_bind_ok h
      cases h
      exact .inr ⟨name, hkey, hname, Flaw.check_eq_ok_iff.1 hflaw, operands', hrest, rfl⟩
  · rintro (⟨hkey, rfl, k', hkind, h⟩ | ⟨name, hkey, hname, hflaw, operands', h, rfl⟩)
    · rw [hkey]
      show readKind nested value >>= _ = _
      rw [hkind]
      exact h
    · rw [hkey]
      show (if name = kindField then _ else _ : Reading _) = _
      rw [if_neg hname, hflaw]
      show takeKind nested close kind members >>= _ = _
      rw [h]
      rfl

/-- Members that have nothing to do with the kind are all operands. -/
theorem takeKind_plain {nested : Bool} {k : String ⊕ Nat} {members : List (Key × Doc)}
    (h : ∀ m ∈ members, ∃ name, m.1 = .text name ∧ name ≠ kindField ∧ m.2.readingFlaw = none) :
    takeKind nested none (some k) members = .ok (k, members) := by
  induction members with
  | nil => rfl
  | cons m members ih =>
    obtain ⟨⟨name, hkey, hname, hflaw⟩, hrest⟩ := List.forall_mem_cons.1 h
    have hread : m.1.read = .ok name := by
      rw [hkey]
      rfl
    exact takeKind_cons_iff.2 (.inr ⟨name, hread, hname, hflaw, members, ih hrest, rfl⟩)

theorem takeKind_memberDocs {level : Nat} {kind : String ⊕ Nat} {operands : List (String × Json)}
    (nested : Bool) (hnames : ∀ m ∈ operands, m.1 ≠ kindField)
    (hfit : ∀ m ∈ operands, Fitting level m.2) :
    takeKind nested none (some kind) (memberDocs level operands) =
      .ok (kind, memberDocs level operands) := by
  refine takeKind_plain fun m hm => ?_
  rw [memberDocs_eq] at hm
  obtain ⟨o, ho, rfl⟩ := List.mem_map.1 hm
  exact ⟨o.1, rfl, hnames o ho, readingFlaw_docAt o.2 (hfit o ho)⟩

/-- A value of a kind is read back from its operands. -/
theorem Conveys.tagged {label name : String} {nested : Bool} {kinds : List (Kind α)} {unknown a : α}
    {k : Kind α} {operands : List (String × Json)}
    (hfind : kinds.find? (fun k => k.name == name) = some k) (h : k.Takes operands a) :
    Conveys (readTagged label nested kinds unknown) (writeTagged name operands) a where
  sound := .map fun m hm => by
    rcases List.mem_cons.1 hm with rfl | hm
    · exact .text
    · exact h.sound m hm
  reads {level} hfit := by
    obtain ⟨heq, hmembers⟩ := hfit.map
    have hoperands := (List.forall_mem_cons.1 hmembers).2
    have htake : takeKind nested none none
        (memberDocs (level + 1) ((kindField, .text name) :: operands)) =
          .ok (.inl name, memberDocs (level + 1) operands) := by
      rw [memberDocs, takeKind]
      exact takeKind_memberDocs nested h.names hoperands
    rw [writeTagged, heq]
    simp only [readTagged, takeApart, htake, bind, Except.bind, pure, Except.pure, hfind]
    exact h.reads hoperands

/-- Operands that tell the fields of a format are read field by field. -/
theorem Tells.readOperands {σ : Type} {format : Format σ} {operands : List (String × Json)}
    {t : σ} {level : Nat} (h : Tells format.fields operands format.start t)
    (hnames : (format.fields.map (·.name)).Nodup) (hfit : ∀ m ∈ operands, Fitting level m.2) :
    format.readOperands (.inl (memberDocs level operands)) = .ok t :=
  h.readMembers_all hnames hfit

/-- An operand tells a change of what has been read before. -/
theorem Conveys.operand {σ : Type} {name : String} {read : Doc → Reading β}
    {set : β → σ → σ} {v : Json} {b : β} (h : Conveys read v b) :
    Conveys (Json.operand name read set).read v (set b) where
  sound := h.sound
  reads hfit := by
    simp only [Json.operand, h.reads hfit]
    rfl

namespace Kind.Takes

theorem plain {name : String} {a : α} : (Kind.plain name a).Takes [] a :=
  ⟨List.forall_mem_nil _, List.forall_mem_nil _, fun _ => rfl⟩

/-- A kind takes the operands that tell the fields it reads. -/
theorem of_tells {σ : Type} {format : Format σ} {name : String} {make : σ → α} {t : σ}
    {operands : List (String × Json)} (h : Tells format.fields operands format.start t)
    (hnames : (format.fields.map (·.name)).Nodup) (hkind : ∀ m ∈ operands, m.1 ≠ kindField) :
    Kind.Takes ⟨name, fun o => make <$> format.readOperands o⟩ operands (make t) where
  names := hkind
  sound := h.sound
  reads hfit := by
    show make <$> format.readOperands _ = _
    rw [h.readOperands hnames hfit]
    rfl

theorem one [Inhabited β] {type name field : String} {read : Doc → Reading β} {make : β → α}
    {v : Json} {b : β} (h : Conveys read v b) (hfield : field ≠ kindField) :
    (Kind.one type name field read make).Takes [(field, v)] (make b) :=
  of_tells (.written h.operand .nil) (by simp) (by simpa using hfield)

theorem two [Inhabited β] [Inhabited γ] {type name field₁ field₂ : String}
    {read₁ : Doc → Reading β} {read₂ : Doc → Reading γ} {make : β → γ → α} {v w : Json} {b : β}
    {c : γ} (hb : Conveys read₁ v b) (hc : Conveys read₂ w c) (hne : field₁ ≠ field₂)
    (h₁ : field₁ ≠ kindField) (h₂ : field₂ ≠ kindField) :
    (Kind.two type name field₁ read₁ field₂ read₂ make).Takes [(field₁, v), (field₂, w)]
      (make b c) := by
  refine of_tells (t := (b, c)) (.written hb.operand (.written hc.operand .nil)) ?_ ?_
  · simpa [Json.operand] using hne
  · simpa using ⟨h₁, h₂⟩

theorem map {k : Kind α} {operands : List (String × Json)} {a : α} (f : α → β)
    (h : k.Takes operands a) : (k.map f).Takes operands (f a) where
  names := h.names
  sound := h.sound
  reads hfit := by
    show f <$> k.read _ = _
    rw [h.reads hfit]
    rfl

end Kind.Takes

section
variable {label : String} {nested : Bool} {kinds : List (Kind α)} {unknown : α}

/-- The value names the kind at a position and gives the operands that make `a` of it. -/
def Spells (kinds : List (Kind α)) (position : Nat) (v : Json) (a : α) : Prop :=
  ∃ k operands, kinds[position]? = some k ∧ v = writeTagged k.name operands ∧ k.Takes operands a

theorem Spells.conveys {i : Nat} {v : Json} {a : α} (h : Spells kinds i v a)
    (hnames : (kinds.map (·.name)).Nodup) :
    Conveys (readTagged label nested kinds unknown) v a := by
  obtain ⟨k, operands, hk, rfl, htakes⟩ := h
  exact .tagged (find?_of_nodup_keys hnames (List.mem_of_getElem? hk)) htakes

/-- A kind that is not known tells what stands for all such. -/
theorem Conveys.tagged_unknown {name : String}
    (hname : name ∉ kinds.map (·.name)) :
    Conveys (readTagged label nested kinds unknown) (writeTagged name []) unknown where
  sound := .map (by simpa using Sound.text)
  reads {level} hfit := by
    rw [writeTagged, hfit.map.1]
    have htake : takeKind nested none none
        (memberDocs (level + 1) [(kindField, .text name)]) = .ok (.inl name, []) := rfl
    have hnone : kinds.find? (fun k => k.name == name) = none :=
      List.find?_eq_none.2 fun k hk heq => hname (beq_iff_eq.1 heq ▸ List.mem_map_of_mem hk)
    simp only [readTagged, takeApart, htake, bind, Except.bind, pure, Except.pure, hnone]
    rfl

theorem depth_writeTagged_le {name : String} {operands : List (String × Json)} {n : Nat} :
    (writeTagged name operands).depth ≤ n + 1 ↔ ∀ m ∈ operands, m.2.depth ≤ n := by
  rw [writeTagged, depth_map_le]
  simp

end

end

end Dialogue.Json
