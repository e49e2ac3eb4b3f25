import Dialogue.Proofs.Json.Inversion

/-!
# Documents with one part replaced

What readers make of a document in which one part gives way to another. A `Rewording` says how
documents are reworded and what becomes of the values that are read from them; readers follow it
(`Rewording.Follows`) in sequences, in the fields of records (`Format.read_frame`) and in the
operands of kinds (`readTagged_frame`), wherever the part stands.
-/

namespace Dialogue.Json

/-! ## Fields of records -/

/-- The names of the fields, in their order. -/
def Format.names {σ : Type} (format : Format σ) : List String := format.fields.map (·.name)

/-- The documents of records with the names `names` that have a place for the value of `name`. -/
inductive Frame (names : List String) (name : String) : (Doc → Doc) → Prop
  | member {before after close} :
    Frame names name fun e => .map (before ++ (.text name, e) :: after) close
  | item {before after close} : names[before.length]? = some name →
    Frame names name fun e => .seq (before ++ e :: after) close

section
variable {σ α : Type}

/-- It makes no difference whether `alter` is done before or after what is read of the field. -/
def Field.Commutes (alter : σ → σ) (f : Field σ) : Prop :=
  ∀ d change, f.read d = .ok change → ∀ t, change (alter t) = alter (change t)

@[simp] theorem Field.commutes_needed {alter : σ → σ} {f : Field σ} :
    f.needed.Commutes alter ↔ f.Commutes alter := .rfl

@[simp] theorem Field.commutes_unless {alter : σ → σ} {f : Field σ} {absent : σ → Bool} :
    (f.unless absent).Commutes alter ↔ f.Commutes alter := .rfl

theorem Field.Commutes.of {alter : σ → σ} {name : String} {read : Doc → Reading α}
    {write : α → Json} {get : σ → α} {set : α → σ → σ}
    (h : ∀ a t, set a (alter t) = alter (set a t)) :
    (Field.of name read write get set).Commutes alter := by
  intro d change hread t
  obtain ⟨a, -, rfl⟩ := exists_of_map_ok hread
  exact h a t

namespace Format
variable {fields : List (Field σ)} {f : Field σ} {alter : σ → σ} {close : Option Flaw}
  {seen : List String} {s t : σ}

/-- What is done to a field that has been read may be done before the other members are read. -/
theorem readMembers_alter {name : String} {members : List (Key × Doc)}
    (hcomm : ∀ g ∈ fields, g.name ≠ name → g.Commutes alter) (hseen : name ∈ seen)
    (h : readMembers fields close seen t members = .ok s) :
    readMembers fields close seen (alter t) members = .ok (alter s) := by
  induction members generalizing seen t with
  | nil =>
    obtain ⟨hclose, hrequired, rfl⟩ := readMembers_nil_iff.1 h
    exact readMembers_nil_iff.2 ⟨hclose, hrequired, rfl⟩
  | cons m members ih =>
    obtain ⟨other, hkey, ⟨hnone, hflaw, h⟩ | ⟨g, hfind, hnew, change, hread, h⟩⟩ :=
      readMembers_cons_iff.1 h
    · exact readMembers_cons_iff.2 ⟨other, hkey, .inl ⟨hnone, hflaw, ih hseen h⟩⟩
    · obtain rfl : g.name = other := by simpa using List.find?_some hfind
      have hne : g.name ≠ name := fun heq => hnew (heq ▸ hseen)
      have hrest := ih (List.mem_cons_of_mem _ hseen) h
      rw [← hcomm g (List.mem_of_find?_eq_some hfind) hne _ _ hread t] at hrest
      exact readMembers_cons_iff.2 ⟨g.name, hkey, .inr ⟨g, hfind, hnew, change, hread, hrest⟩⟩

theorem readMembers_frame {before after : List (Key × Doc)} {e : Doc}
    (hnames : (fields.map (·.name)).Nodup) (hf : f ∈ fields)
    (h : readMembers fields close seen t (before ++ (.text f.name, e) :: after) = .ok s) :
    ∃ change, f.read e = .ok change ∧ ∀ e' change' alter, f.read e' = .ok change' →
      (∀ t, change' t = alter (change t)) →
      (∀ g ∈ fields, g.name ≠ f.name → g.Commutes alter) →
      readMembers fields close seen t (before ++ (.text f.name, e') :: after) = .ok (alter s) := by
  induction before generalizing seen t with
  | nil =>
    have hfind : fields.find? (·.name == f.name) = some f := find?_of_nodup_keys hnames hf
    obtain ⟨name, hkey, h⟩ := readMembers_cons_iff.1 h
    obtain rfl : f.name = name := Except.ok.inj hkey
    obtain ⟨hnone, -⟩ | ⟨g, hsome, hnew, change, hread, h⟩ := h
    · simp [hfind] at hnone
    · obtain rfl : f = g := Option.some.inj (hfind.symm.trans hsome)
      refine ⟨change, hread, fun e' change' alter hread' hchange hcomm => ?_⟩
      have hrest := readMembers_alter hcomm List.mem_cons_self h
      rw [← hchange] at hrest
      exact readMembers_cons_iff.2 ⟨f.name, hkey, .inr ⟨f, hsome, hnew, change', hread', hrest⟩⟩
  | cons m before ih =>
    obtain ⟨other, hkey, ⟨hnone, hflaw, h⟩ | ⟨g, hfind, hnew, gchange, hgread, h⟩⟩ :=
      readMembers_cons_iff.1 h
    · obtain ⟨change, hread, hframe⟩ := ih h
      refine ⟨change, hread, fun e' change' alter hread' hchange hcomm => ?_⟩
      exact readMembers_cons_iff.2 ⟨other, hkey, .inl ⟨hnone, hflaw,
        hframe e' change' alter hread' hchange hcomm⟩⟩
    · obtain ⟨change, hread, hframe⟩ := ih h
      refine ⟨change, hread, fun e' change' alter hread' hchange hcomm => ?_⟩
      exact readMembers_cons_iff.2 ⟨other, hkey, .inr ⟨g, hfind, hnew, gchange, hgread,
        hframe e' change' alter hread' hchange hcomm⟩⟩

theorem readItems_alter {label : String} {position : Nat} {items left : List Doc}
    (hcomm : ∀ g ∈ fields, g.Commutes alter)
    (h : readItems label close position fields t items = .ok (s, left)) :
    readItems label close position fields (alter t) items = .ok (alter s, left) := by
  induction fields generalizing position t items with
  | nil =>
    cases h
    rfl
  | cons g fields ih =>
    obtain ⟨hg, hcomm⟩ := List.forall_mem_cons.1 hcomm
    cases items with
    | nil =>
      obtain ⟨_, hclose, h⟩ := exists_of_bind_ok h
      split at h
      · cases h
      · next hr =>
        refine bind_eq_ok_iff.2 ⟨_, hclose, ?_⟩
        rw [if_neg hr]
        exact ih hcomm h
    | cons item items =>
      obtain ⟨change, hread, h⟩ := exists_of_bind_ok h
      have hrest := ih hcomm h
      rw [← hg _ _ hread t] at hrest
      exact bind_eq_ok_iff.2 ⟨change, hread, hrest⟩

theorem readItems_frame {label : String} {position : Nat} {before after left : List Doc} {e : Doc}
    (hnames : (fields.map (·.name)).Nodup) (hplace : fields[before.length]? = some f)
    (h : readItems label close position fields t (before ++ e :: after) = .ok (s, left)) :
    ∃ change, f.read e = .ok change ∧ ∀ e' change' alter, f.read e' = .ok change' →
      (∀ t, change' t = alter (change t)) →
      (∀ g ∈ fields, g.name ≠ f.name → g.Commutes alter) →
      readItems label close position fields t (before ++ e' :: after) = .ok (alter s, left) := by
  induction before generalizing fields position t with
  | nil =>
    obtain ⟨fields, rfl⟩ : ∃ rest, fields = f :: rest :=
      List.head?_eq_some_iff.1 (List.head?_eq_getElem?.trans hplace)
    obtain ⟨change, hread, h⟩ := exists_of_bind_ok h
    refine ⟨change, hread, fun e' change' alter hread' hchange hcomm => ?_⟩
    have hnew := (List.nodup_cons.1 hnames).1
    have hrest : ∀ g ∈ fields, g.Commutes alter := fun g hg =>
      hcomm g (List.mem_cons_of_mem _ hg) fun heq => hnew (List.mem_map.2 ⟨g, hg, heq⟩)
    have halter := readItems_alter hrest h
    rw [← hchange] at halter
    exact bind_eq_ok_iff.2 ⟨change', hread', halter⟩
  | cons item before ih =>
    obtain _ | ⟨g, fields⟩ := fields
    · simp at hplace
    · obtain ⟨gchange, hgread, h⟩ := exists_of_bind_ok h
      obtain ⟨change, hread, hframe⟩ := ih (List.nodup_cons.1 hnames).2 hplace h
      refine ⟨change, hread, fun e' change' alter hread' hchange hcomm => ?_⟩
      exact bind_eq_ok_iff.2 ⟨gchange, hgread, hframe e' change' alter hread' hchange fun g hg =>
        hcomm g (List.mem_cons_of_mem _ hg)⟩

/-- What becomes of a record when the document of one field gives way to another. -/
theorem read_frame {format : Format σ} {C : Doc → Doc} {e : Doc} {name : String}
    {read : Doc → Reading α} {set : α → σ → σ} (hnames : format.names.Nodup)
    (hfield : ∃ f ∈ format.fields, f.name = name ∧ f.read = fun d => set <$> read d)
    (hC : Frame format.names name C) (h : format.read (C e) = .ok s) :
    ∃ a, read e = .ok a ∧ ∀ e' a' alter, read e' = .ok a' → (∀ t, set a' t = alter (set a t)) →
      (∀ g ∈ format.fields, g.name ≠ name → g.Commutes alter) →
      format.read (C e') = .ok (alter s) := by
  obtain ⟨f, hf, rfl, hset⟩ := hfield
  have hframe : ∃ change, f.read e = .ok change ∧ ∀ e' change' alter, f.read e' = .ok change' →
      (∀ t, change' t = alter (change t)) →
      (∀ g ∈ format.fields, g.name ≠ f.name → g.Commutes alter) →
      format.read (C e') = .ok (alter s) := by
    cases hC with
    | member => exact readMembers_frame hnames hf h
    | @item before after close hplace =>
      rw [names, List.getElem?_map] at hplace
      obtain ⟨g, hg, hname⟩ := Option.map_eq_some_iff.1 hplace
      obtain rfl : g = f := eq_of_nodup_keys hnames (List.mem_of_getElem? hg) hf hname
      obtain ⟨⟨s', left⟩, hitems, h⟩ := exists_of_bind_ok h
      obtain ⟨change, hread, hframe⟩ := readItems_frame hnames hg hitems
      refine ⟨change, hread, fun e' change' alter hread' hchange hcomm => ?_⟩
      refine bind_eq_ok_iff.2 ⟨_, hframe e' change' alter hread' hchange hcomm, ?_⟩
      simp only at h ⊢
      split at h
      · cases h
      · next hleft =>
        obtain ⟨_, hclose, h⟩ := exists_of_bind_ok h
        cases h
        rw [if_neg hleft]
        exact bind_eq_ok_iff.2 ⟨_, hclose, rfl⟩
  obtain ⟨change, hchange, hframe⟩ := hframe
  rw [hset] at hchange hframe
  obtain ⟨a, ha, rfl⟩ := exists_of_map_ok hchange
  refine ⟨a, ha, fun e' a' alter ha' => hframe e' (set a') alter ?_⟩
  simp only [ha']
  rfl

/-- The same of a field that is seen through `get`: its value alone changes. -/
theorem read_field_frame {format : Format σ} {C : Doc → Doc} {e : Doc} {name : String}
    {read : Doc → Reading α} (get : σ → α) (set : α → σ → σ) (hnames : format.names.Nodup)
    (hfield : ∃ f ∈ format.fields, f.name = name ∧ f.read = fun d => set <$> read d)
    (hget : ∀ a t, get (set a t) = a) (hset : ∀ a b t, set a (set b t) = set a t)
    (hcomm : ∀ f : α → α, ∀ g ∈ format.fields, g.name ≠ name →
      g.Commutes fun t => set (f (get t)) t)
    (hC : Frame format.names name C) (h : format.read (C e) = .ok s) :
    ∃ a, read e = .ok a ∧ ∀ e' (f : α → α), read e' = .ok (f a) →
      format.read (C e') = .ok (set (f (get s)) s) := by
  obtain ⟨a, ha, hframe⟩ := read_frame hnames hfield hC h
  refine ⟨a, ha, fun e' f ha' => ?_⟩
  exact hframe e' (f a) (fun t => set (f (get t)) t) ha' (fun t => by rw [hget, hset]) (hcomm f)

end Format

end

/-! ## Operands of kinds -/

/-- The document tells the kind `kind` by its name or, inside another value of the sort, by its
position among `kinds`. -/
inductive TellsKind (kinds : List String) (kind : String) : (nested : Bool) → Doc → Prop
  | name {nested} : TellsKind kinds kind nested (.text kind)
  | position {i : Nat} : kinds[i]? = some kind → TellsKind kinds kind true (.number (.int i))

/-- The documents of values of the kind `kind` that have a place for its operand `field`. -/
inductive OperandFrame (kinds : List String) (kind field : String) (nested : Bool) :
    (Doc → Doc) → Prop
  | member {k before after close} : TellsKind kinds kind nested k →
    (.text kindField, k) ∈ before ++ after →
    OperandFrame kinds kind field nested fun e => .map (before ++ (.text field, e) :: after) close
  | item {k close} : TellsKind kinds kind nested k →
    OperandFrame kinds kind field nested fun e => .seq [k, e] close

/-- An object of a kind that is none of `kinds`, with any members. -/
inductive Unfamiliar (kinds : List String) : Doc → Prop
  | intro {kind before after} : kind ∉ kinds →
    (∀ m ∈ before ++ after, ∃ name, m.1 = .text name ∧ name ≠ kindField ∧
      m.2.readingFlaw = none) →
    Unfamiliar kinds (.map (before ++ (.text kindField, .text kind) :: after) none)

section
variable {α β : Type} {nested : Bool} {close : Option Flaw} {k : String ⊕ Nat}
  {told : Option (String ⊕ Nat)} {members operands before after : List (Key × Doc)} {e : Doc}

theorem eq_of_takeKind_some {k' : String ⊕ Nat}
    (h : takeKind nested close (some k') members = .ok (k, operands)) :
    k = k' ∧ ∀ d, (.text kindField, d) ∉ members := by
  induction members generalizing operands with
  | nil =>
    obtain ⟨_, -, h⟩ := exists_of_bind_ok h
    cases h
    exact ⟨rfl, fun _ => List.not_mem_nil⟩
  | cons m members ih =>
    obtain ⟨-, hnone, -⟩ | ⟨name, hkey, hname, -, operands', h, -⟩ := takeKind_cons_iff.1 h
    · cases hnone
    · obtain ⟨rfl, hrest⟩ := ih h
      refine ⟨rfl, fun d hd => ?_⟩
      rcases List.mem_cons.1 hd with rfl | hd
      · exact hname (Except.ok.inj hkey).symm
      · exact hrest d hd

/-- The kind that is taken is the one that is told by a member for it. -/
theorem readKind_of_takeKind {d : Doc}
    (h : takeKind nested close none members = .ok (k, operands))
    (hd : (.text kindField, d) ∈ members) : readKind nested d = .ok k := by
  induction members generalizing operands with
  | nil => cases hd
  | cons m members ih =>
    obtain ⟨-, -, k', hkind, h⟩ | ⟨name, hkey, hname, -, operands', h, -⟩ := takeKind_cons_iff.1 h
    · obtain ⟨rfl, hrest⟩ := eq_of_takeKind_some h
      rcases List.mem_cons.1 hd with rfl | hd
      · exact hkind
      · exact absurd hd (hrest d)
    · rcases List.mem_cons.1 hd with rfl | hd
      · exact absurd (Except.ok.inj hkey).symm hname
      · exact ih h hd

theorem takeKind_frame {field : String} (hfield : field ≠ kindField)
    (h : takeKind nested close told (before ++ (.text field, e) :: after) = .ok (k, operands)) :
    e.readingFlaw = none ∧ ∃ before' after', operands = before' ++ (.text field, e) :: after' ∧
      ∀ e', e'.readingFlaw = none →
        takeKind nested close told (before ++ (.text field, e') :: after) =
          .ok (k, before' ++ (.text field, e') :: after') := by
  induction before generalizing told operands with
  | nil =>
    obtain ⟨hkey, -⟩ | ⟨name, hkey, hname, hflaw, operands', hrest, rfl⟩ := takeKind_cons_iff.1 h
    · exact absurd (Except.ok.inj hkey) hfield
    · exact ⟨hflaw, [], operands', rfl, fun e' he' =>
        takeKind_cons_iff.2 (.inr ⟨name, hkey, hname, he', operands', hrest, rfl⟩)⟩
  | cons m before ih =>
    obtain ⟨hkey, hnone, k', hkind, hrest⟩ | ⟨name, hkey, hname, hflaw, operands', hrest, rfl⟩ :=
      takeKind_cons_iff.1 h
    · obtain ⟨he, before', after', heq, hframe⟩ := ih hrest
      exact ⟨he, before', after', heq, fun e' he' =>
        takeKind_cons_iff.2 (.inl ⟨hkey, hnone, k', hkind, hframe e' he'⟩)⟩
    · obtain ⟨he, before', after', rfl, hframe⟩ := ih hrest
      exact ⟨he, m :: before', after', rfl, fun e' he' =>
        takeKind_cons_iff.2 (.inr ⟨name, hkey, hname, hflaw, _, hframe e' he', rfl⟩)⟩

/-! ### Kinds with one operand -/

section
variable [Inhabited β] {type name field : String} {read : Doc → Reading β} {make : β → α}

theorem Kind.one_read_item (e : Doc) :
    (Kind.one type name field read make).read (.inr [e]) = make <$> read e := by
  show make <$> (((fun b (_ : β) => b) <$> read e) >>= _ >>= _) = _
  cases read e <;> rfl

theorem Kind.one_read_frame {a : α}
    (h : (Kind.one type name field read make).read (.inl (before ++ (.text field, e) :: after)) =
      .ok a) :
    ∃ b, read e = .ok b ∧ a = make b ∧ ∀ e' b', read e' = .ok b' →
      (Kind.one type name field read make).read (.inl (before ++ (.text field, e') :: after)) =
        .ok (make b') := by
  obtain ⟨s, hs, rfl⟩ := exists_of_map_ok h
  obtain ⟨change, hchange, hframe⟩ := Format.readMembers_frame (by simp) List.mem_cons_self hs
  obtain ⟨b, hb, rfl⟩ := exists_of_map_ok hchange
  -- whatever was there before, the operand alone decides what is read
  have hread : ∀ e' b', read e' = .ok b' →
      Format.readMembers [operand field read fun b (_ : β) => b] none [] default
        (before ++ (.text field, e') :: after) = .ok b' := by
    intro e' b' hb'
    refine hframe e' (fun _ => b') (fun _ => b') ?_ (fun _ => rfl) ?_
    · show (fun b (_ : β) => b) <$> read e' = _
      rw [hb']
      rfl
    · intro g hg hne
      rw [List.mem_singleton.1 hg] at hne
      exact absurd rfl hne
  refine ⟨b, hb, congrArg make (Except.ok.inj (hs.symm.trans (hread e b hb))), fun e' b' hb' => ?_⟩
  show make <$> Format.readMembers _ _ _ _ _ = _
  rw [hread e' b' hb']
  rfl

variable {kinds : List (Kind α)}

/-- The kind that a name or position stands for. -/
def Kind.named? (kinds : List (Kind α)) : String ⊕ Nat → Option (Kind α)
  | .inl name => kinds.find? (·.name == name)
  | .inr position => kinds[position]?

theorem readTagged_of_takeApart {label : String} {unknown : α} {d : Doc} {operands : Operands}
    (h : takeApart label nested d = .ok (k, operands)) :
    readTagged label nested kinds unknown d =
      ((Kind.named? kinds k).elim (readNothing unknown) Kind.read) operands := by
  cases k with
  | inl name =>
    cases hfind : kinds.find? (·.name == name) <;>
      simp [readTagged, h, Kind.named?, hfind, bind, Except.bind]
  | inr position =>
    cases hfind : kinds[position]? <;>
      simp [readTagged, h, Kind.named?, hfind, bind, Except.bind]

/-- A kind is found by what a document tells of it. -/
theorem named?_of_tellsKind {K : Kind α} {d : Doc} (hnames : (kinds.map (·.name)).Nodup)
    (hK : K ∈ kinds) (htells : TellsKind (kinds.map (·.name)) K.name nested d)
    (hread : readKind nested d = .ok k) : Kind.named? kinds k = some K := by
  generalize hkind : K.name = kind at htells
  cases htells with
  | name =>
    cases hread
    subst hkind
    exact find?_of_nodup_keys hnames hK
  | @position i hi =>
    have hk : readKind true (.number (.int i)) = .ok (.inr i) := by simp [readKind]
    rw [hk] at hread
    cases hread
    rw [List.getElem?_map] at hi
    obtain ⟨K', hK', heq⟩ := Option.map_eq_some_iff.1 hi
    obtain rfl : K' = K :=
      eq_of_nodup_keys hnames (List.mem_of_getElem? hK') hK (heq.trans hkind.symm)
    exact hK'

/-- What becomes of a value of a kind when the document of its operand gives way to another. -/
theorem readTagged_frame {label : String} {unknown a : α} {C : Doc → Doc}
    (hnames : (kinds.map (·.name)).Nodup) (hK : Kind.one type name field read make ∈ kinds)
    (hfield : field ≠ kindField) (hC : OperandFrame (kinds.map (·.name)) name field nested C)
    (h : readTagged label nested kinds unknown (C e) = .ok a) :
    e.readingFlaw = none ∧ ∃ b, read e = .ok b ∧ a = make b ∧ ∀ e' b', e'.readingFlaw = none →
      read e' = .ok b' → readTagged label nested kinds unknown (C e') = .ok (make b') := by
  obtain ⟨⟨k, operands⟩, hapart, -⟩ := exists_of_bind_ok h
  rw [readTagged_of_takeApart hapart] at h
  cases hC with
  | @member d before after close htells hd =>
    obtain ⟨⟨k, operands⟩, htake, hapart⟩ := exists_of_bind_ok hapart
    cases hapart
    obtain ⟨he, before', after', rfl, hframe⟩ := takeKind_frame hfield htake
    have hkind : readKind nested d = .ok k := by
      refine readKind_of_takeKind htake ?_
      rcases List.mem_append.1 hd with hd | hd
      · exact List.mem_append_left _ hd
      · exact List.mem_append_right _ (List.mem_cons_of_mem _ hd)
    have hknown := named?_of_tellsKind hnames hK htells hkind
    rw [hknown] at h
    obtain ⟨b, hb, rfl, hread⟩ := Kind.one_read_frame h
    refine ⟨he, b, hb, rfl, fun e' b' he' hb' => ?_⟩
    have hapart' : takeApart label nested (.map (before ++ (.text field, e') :: after) close) =
        .ok (k, .inl (before' ++ (.text field, e') :: after')) :=
      bind_eq_ok_iff.2 ⟨_, hframe e' he', rfl⟩
    rw [readTagged_of_takeApart hapart', hknown]
    exact hread e' b' hb'
  | @item d close htells =>
    obtain ⟨k, hkind, hapart⟩ := exists_of_bind_ok hapart
    obtain ⟨_, hflaw, hapart⟩ := exists_of_bind_ok hapart
    cases hapart
    have hknown := named?_of_tellsKind hnames hK htells hkind
    rw [hknown] at h
    obtain ⟨b, hb, rfl⟩ := exists_of_map_ok ((Kind.one_read_item e).symm.trans h)
    obtain ⟨hitems, rfl⟩ := Option.or_eq_none_iff.1 (Flaw.check_eq_ok_iff.1 hflaw)
    have he : e.readingFlaw = none := (Option.or_eq_none_iff.1 hitems).1
    refine ⟨he, b, hb, rfl, fun e' b' he' hb' => ?_⟩
    have hitems' : Doc.itemsReadingFlaw [e'] = none := Option.or_eq_none_iff.2 ⟨he', rfl⟩
    have hapart' : takeApart label nested (.seq [d, e'] none) = .ok (k, .inr [e']) := by
      refine bind_eq_ok_iff.2 ⟨k, hkind, ?_⟩
      rw [hitems']
      rfl
    rw [readTagged_of_takeApart hapart', hknown]
    show (Kind.one type name field read make).read (.inr [e']) = _
    rw [Kind.one_read_item, hb']
    rfl

end

/-! ### Unfamiliar kinds -/

theorem takeKind_unfamiliar {kind : String}
    (h : ∀ m ∈ before ++ after, ∃ name, m.1 = .text name ∧ name ≠ kindField ∧
      m.2.readingFlaw = none) :
    takeKind nested none none (before ++ (.text kindField, .text kind) :: after) =
      .ok (.inl kind, before ++ after) := by
  induction before with
  | nil => exact takeKind_cons_iff.2 (.inl ⟨rfl, rfl, _, rfl, takeKind_plain h⟩)
  | cons m before ih =>
    obtain ⟨⟨name, hkey, hname, hflaw⟩, hrest⟩ := List.forall_mem_cons.1 h
    have hread : m.1.read = .ok name := by
      rw [hkey]
      rfl
    exact takeKind_cons_iff.2 (.inr ⟨name, hread, hname, hflaw, before ++ after, ih hrest, rfl⟩)

/-- Whatever its members are, an object of an unfamiliar kind is read as unknown. -/
theorem Unfamiliar.readTagged_eq {label : String} {kinds : List (Kind α)} {unknown : α} {d : Doc}
    (h : Unfamiliar (kinds.map (·.name)) d) :
    readTagged label nested kinds unknown d = .ok unknown := by
  obtain @⟨kind, before, after, hkind, hmembers⟩ := h
  have hapart : takeApart label nested
      (.map (before ++ (.text kindField, .text kind) :: after) none) =
        .ok (.inl kind, .inl (before ++ after)) :=
    bind_eq_ok_iff.2 ⟨_, takeKind_unfamiliar hmembers, rfl⟩
  have hnone : Kind.named? kinds (.inl kind) = none :=
    List.find?_eq_none.2 fun K hK heq => hkind (beq_iff_eq.1 heq ▸ List.mem_map_of_mem hK)
  rw [readTagged_of_takeApart hapart, hnone]
  rfl

/-! ### Flaws -/

theorem itemsReadingFlaw_eq_none_iff {items : List Doc} :
    Doc.itemsReadingFlaw items = none ↔ ∀ d ∈ items, d.readingFlaw = none := by
  induction items with
  | nil => simp [Doc.itemsReadingFlaw]
  | cons d items ih => rw [Doc.itemsReadingFlaw, Option.or_eq_none_iff, ih, List.forall_mem_cons]

theorem membersReadingFlaw_eq_none_iff {members : List (Key × Doc)} :
    Doc.membersReadingFlaw members = none ↔
      ∀ m ∈ members, m.1.readingFlaw = none ∧ m.2.readingFlaw = none := by
  induction members with
  | nil => simp [Doc.membersReadingFlaw]
  | cons m members ih =>
    obtain ⟨k, d⟩ := m
    rw [Doc.membersReadingFlaw, Option.or_eq_none_iff, Option.or_eq_none_iff, ih,
      List.forall_mem_cons, and_assoc]

theorem Unfamiliar.readingFlaw {kinds : List String} {d : Doc} (h : Unfamiliar kinds d) :
    d.readingFlaw = none := by
  obtain ⟨-, hmembers⟩ := h
  refine Option.or_eq_none_iff.2 ⟨membersReadingFlaw_eq_none_iff.2 fun m hm => ?_, rfl⟩
  rcases List.mem_append.1 hm with hm | hm
  · obtain ⟨name, hkey, -, hflaw⟩ := hmembers m (List.mem_append_left _ hm)
    exact ⟨by rw [hkey]; rfl, hflaw⟩
  · rcases List.mem_cons.1 hm with rfl | hm
    · exact ⟨rfl, rfl⟩
    · obtain ⟨name, hkey, -, hflaw⟩ := hmembers m (List.mem_append_right _ hm)
      exact ⟨by rw [hkey]; rfl, hflaw⟩

theorem readingFlaw_seq_frame {before after : List Doc} {e e' : Doc}
    (h : (Doc.seq (before ++ e :: after) close).readingFlaw = none)
    (he' : e.readingFlaw = none → e'.readingFlaw = none) :
    (Doc.seq (before ++ e' :: after) close).readingFlaw = none := by
  obtain ⟨hitems, hclose⟩ := Option.or_eq_none_iff.1 h
  refine Option.or_eq_none_iff.2 ⟨itemsReadingFlaw_eq_none_iff.2 ?_, hclose⟩
  have hitems := itemsReadingFlaw_eq_none_iff.1 hitems
  rw [List.forall_mem_append, List.forall_mem_cons] at hitems ⊢
  obtain ⟨hbefore, he, hafter⟩ := hitems
  exact ⟨hbefore, he' he, hafter⟩

theorem OperandFrame.readingFlaw {kinds : List String} {kind field : String} {C : Doc → Doc}
    {e e' : Doc} (hC : OperandFrame kinds kind field nested C) (h : (C e).readingFlaw = none)
    (he' : e.readingFlaw = none → e'.readingFlaw = none) : (C e').readingFlaw = none := by
  cases hC with
  | member =>
    obtain ⟨hmembers, hclose⟩ := Option.or_eq_none_iff.1 h
    refine Option.or_eq_none_iff.2 ⟨membersReadingFlaw_eq_none_iff.2 ?_, hclose⟩
    have hmembers := membersReadingFlaw_eq_none_iff.1 hmembers
    rw [List.forall_mem_append, List.forall_mem_cons] at hmembers ⊢
    obtain ⟨hbefore, ⟨hkey, he⟩, hafter⟩ := hmembers
    exact ⟨hbefore, ⟨hkey, he' he⟩, hafter⟩
  | @item k close =>
    have hseq : (Doc.seq ([k] ++ e :: []) close).readingFlaw = none := h
    show (Doc.seq ([k] ++ e' :: []) close).readingFlaw = none
    exact readingFlaw_seq_frame hseq he'

end

/-! ## Sequences, tables and optional values -/

section
variable {α : Type} {read : Doc → Reading α}

theorem readList_frame {before after : List Doc} {e : Doc} {close : Option Flaw} {l : List α}
    (h : readList read (.seq (before ++ e :: after) close) = .ok l) :
    ∃ a, read e = .ok a ∧ ∀ e' f, read e' = .ok (f a) →
      readList read (.seq (before ++ e' :: after) close) = .ok (l.modify before.length f) := by
  obtain ⟨l', hitems, h⟩ := exists_of_bind_ok h
  obtain ⟨_, hclose, h⟩ := exists_of_bind_ok h
  cases h
  obtain ⟨a, ha, hmodify⟩ := mapM_append_cons_ok hitems
  exact ⟨a, ha, fun e' f ha' =>
    bind_eq_ok_iff.2 ⟨_, hmodify e' f ha', bind_eq_ok_iff.2 ⟨_, hclose, rfl⟩⟩⟩

theorem readTable_frame {before after : List (Key × Doc)} {key : Key} {e : Doc}
    {close : Option Flaw} {t : Table α} {entries : List (String × α)}
    (hentries : (before ++ (key, e) :: after).mapM (readMember read) = .ok entries)
    (h : readTable read (.map (before ++ (key, e) :: after) close) = .ok t) :
    ∃ a, read e = .ok a ∧ ∀ e' (f : α → α), read e' = .ok (f a) →
      readTable read (.map (before ++ (key, e') :: after) close) =
        .ok (Sorted.ofList (entries.modify before.length fun m => (m.1, f m.2))) := by
  obtain ⟨_, -, h⟩ := exists_of_bind_ok h
  obtain ⟨_, hclose, -⟩ := exists_of_bind_ok h
  obtain ⟨m, hm, hmodify⟩ := mapM_append_cons_ok hentries
  obtain ⟨name, hname, hm⟩ := exists_of_bind_ok hm
  obtain ⟨a, ha, hm⟩ := exists_of_bind_ok hm
  cases hm
  refine ⟨a, ha, fun e' f ha' => bind_eq_ok_iff.2 ⟨_, hmodify (key, e') _ ?_,
    bind_eq_ok_iff.2 ⟨_, hclose, rfl⟩⟩⟩
  exact bind_eq_ok_iff.2 ⟨name, hname, bind_eq_ok_iff.2 ⟨f a, ha', rfl⟩⟩

/-- The document says that there is something. -/
def Doc.Present (d : Doc) : Prop := d ≠ .null ∧ ∀ b, d ≠ .broken b

theorem readOption_of_present {d : Doc} (h : d.Present) :
    readOption read d = some <$> read d := by
  match d with
  | .null => exact absurd rfl h.1
  | .broken b => exact absurd rfl (h.2 b)
  | .bool _ | .number _ | .text _ | .unreadable | .seq .. | .map .. | .deep .. => rfl

end

/-! ## Rewordings -/

/-- How documents are reworded, and what becomes of the values that are read from them. -/
abbrev Rewording (α : Type) := Doc → Doc → (α → α) → Prop

namespace Rewording
variable {α : Type}

/-- What the reader takes from a reworded document is what has become of what it took before. -/
def Follows (read : Doc → Reading α) (r : Rewording α) : Prop :=
  ∀ {d d' f a}, r d d' f → read d = .ok a → read d' = .ok (f a)

/-- One item of a sequence is reworded, and the value at its position changes. -/
inductive Item (r : Rewording α) : Rewording (List α)
  | intro {before after e e' close f} : r e e' f →
    Item r (.seq (before ++ e :: after) close) (.seq (before ++ e' :: after) close)
      (·.modify before.length f)

/-- Documents are reworded in one place after another. -/
inductive Repeated (r : Rewording α) : Rewording α
  | none {d} : Repeated r d d id
  | more {d d' d'' f g} : Repeated r d d' f → r d' d'' g → Repeated r d d'' (g ∘ f)

variable {read : Doc → Reading α} {r : Rewording α}

theorem Follows.item (h : r.Follows read) : (Item r).Follows (readList read) := by
  rintro d d' f l ⟨hr⟩ hread
  obtain ⟨a, ha, hframe⟩ := readList_frame hread
  exact hframe _ _ (h hr ha)

theorem Follows.option (h : r.Follows read) {d d' : Doc} {f : α → α} {o : Option α}
    (hr : r d d' f) (hd : d.Present) (hd' : d'.Present) (hread : readOption read d = .ok o) :
    readOption read d' = .ok (o.map f) := by
  rw [readOption_of_present hd] at hread
  obtain ⟨a, ha, rfl⟩ := exists_of_map_ok hread
  rw [readOption_of_present hd', h hr ha]
  rfl

theorem Follows.repeated (h : r.Follows read) : (Repeated r).Follows read := by
  intro d d' f a hr hread
  induction hr with
  | none => exact hread
  | more _ hlast ih =>
    have hnext := h hlast (ih hread)
    exact hnext

end Rewording

end Dialogue.Json
