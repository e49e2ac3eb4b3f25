import Mathlib.Data.List.Forall2

/-!
# Steps that succeed

Where the result of steps that may fail comes from, once it is known that they did not.
-/

namespace Dialogue
variable {ε α β γ : Type}

theorem exists_of_bind_ok {x : Except ε α} {f : α → Except ε β} {b : β}
    (h : x >>= f = .ok b) : ∃ a, x = .ok a ∧ f a = .ok b := by
  cases x with
  | error _ => cases h
  | ok a => exact ⟨a, rfl, h⟩

theorem bind_eq_ok_iff {x : Except ε α} {f : α → Except ε β} {b : β} :
    x >>= f = .ok b ↔ ∃ a, x = .ok a ∧ f a = .ok b := by
  refine ⟨exists_of_bind_ok, ?_⟩
  rintro ⟨a, rfl, h⟩
  exact h

theorem eq_ok_of_toOption {x : Except ε α} {a : α} (h : x.toOption = some a) : x = .ok a := by
  cases x with
  | error _ => cases h
  | ok a =>
    cases h
    rfl

theorem eq_ok_of_mapError {ε' : Type} {f : ε → ε'} {x : Except ε α} {a : α}
    (h : x.mapError f = .ok a) : x = .ok a := by
  cases x with
  | error _ => cases h
  | ok a =>
    cases h
    rfl

theorem exists_of_map_ok {f : α → β} {x : Except ε α} {b : β} (h : f <$> x = .ok b) :
    ∃ a, x = .ok a ∧ f a = b := by
  cases x with
  | error _ => cases h
  | ok a => exact ⟨a, rfl, Except.ok.inj h⟩

theorem mem_of_mapM_ok {f : α → Except ε β} {l : List α} {l' : List β}
    (h : l.mapM f = .ok l') : ∀ b ∈ l', ∃ a ∈ l, f a = .ok b := by
  induction l generalizing l' with
  | nil =>
    cases h
    exact List.forall_mem_nil _
  | cons a l ih =>
    rw [List.mapM_cons] at h
    obtain ⟨b, ha, h⟩ := exists_of_bind_ok h
    obtain ⟨bs, hl, h⟩ := exists_of_bind_ok h
    cases h
    refine List.forall_mem_cons.2 ⟨⟨a, List.mem_cons_self, ha⟩, fun b hb => ?_⟩
    obtain ⟨a, hmem, ha⟩ := ih hl b hb
    exact ⟨a, List.mem_cons_of_mem _ hmem, ha⟩

theorem exists_of_mapM_ok {f : α → Except ε β} {l : List α} {l' : List β}
    (h : l.mapM f = .ok l') : ∀ a ∈ l, ∃ b ∈ l', f a = .ok b := by
  induction l generalizing l' with
  | nil => exact List.forall_mem_nil _
  | cons a l ih =>
    rw [List.mapM_cons] at h
    obtain ⟨b, ha, h⟩ := exists_of_bind_ok h
    obtain ⟨bs, hl, h⟩ := exists_of_bind_ok h
    cases h
    refine List.forall_mem_cons.2 ⟨⟨b, List.mem_cons_self, ha⟩, fun a hmem => ?_⟩
    obtain ⟨b, hb, ha⟩ := ih hl a hmem
    exact ⟨b, List.mem_cons_of_mem _ hb, ha⟩

/-- Steps that all give what other steps gave. -/
theorem mapM_ok_of_imp {f g : α → Except ε β} {l : List α} {l' : List β} (h : l.mapM f = .ok l')
    (imp : ∀ a ∈ l, ∀ b, f a = .ok b → g a = .ok b) : l.mapM g = .ok l' := by
  induction l generalizing l' with
  | nil => exact h
  | cons a l ih =>
    obtain ⟨ha, hl⟩ := List.forall_mem_cons.1 imp
    rw [List.mapM_cons] at h ⊢
    obtain ⟨b, hb, h⟩ := exists_of_bind_ok h
    obtain ⟨bs, hbs, h⟩ := exists_of_bind_ok h
    cases h
    rw [ha b hb, ih hbs hl]
    rfl

/-- Either all steps succeed, or there is a first one that fails, and nothing but it is told of. -/
theorem mapM_cases (step : α → Except ε β) (l : List α) :
    (∃ bs, List.Forall₂ (fun a b => step a = .ok b) l bs ∧ l.mapM step = .ok bs) ∨
      ∃ before a after e, l = before ++ a :: after ∧ (∀ b ∈ before, ∃ c, step b = .ok c) ∧
        step a = .error e ∧ l.mapM step = .error e := by
  induction l with
  | nil => exact .inl ⟨[], .nil, rfl⟩
  | cons a l ih =>
    cases ha : step a with
    | error e =>
      refine .inr ⟨[], a, l, e, rfl, List.forall_mem_nil _, ha, ?_⟩
      rw [List.mapM_cons, ha]
      rfl
    | ok b =>
      rcases ih with ⟨bs, hall, hl⟩ | ⟨before, c, after, e, rfl, hbefore, hc, hl⟩
      · refine .inl ⟨b :: bs, .cons ha hall, ?_⟩
        rw [List.mapM_cons, ha, hl]
        rfl
      · refine .inr ⟨a :: before, c, after, e, rfl, List.forall_mem_cons.2 ⟨⟨b, ha⟩, hbefore⟩, hc,
          ?_⟩
        rw [List.mapM_cons, ha, hl]
        rfl

/-- Steps that succeed one by one succeed together. -/
theorem mapM_eq_ok {f : α → β} {g : α → γ} (step : β → Except ε γ) {l : List α}
    (h : ∀ a ∈ l, step (f a) = .ok (g a)) : (l.map f).mapM step = .ok (l.map g) := by
  induction l with
  | nil => rfl
  | cons a l ih =>
    obtain ⟨ha, hl⟩ := List.forall_mem_cons.1 h
    rw [List.map_cons, List.mapM_cons, ha, ih hl]
    rfl

/-- Where one of several steps is replaced by one that gives another result, the other results stay
as they are. -/
theorem mapM_append_cons_ok {step : α → Except ε β} {before after : List α} {a : α} {l : List β}
    (h : (before ++ a :: after).mapM step = .ok l) :
    ∃ b, step a = .ok b ∧ ∀ a' f, step a' = .ok (f b) →
      (before ++ a' :: after).mapM step = .ok (l.modify before.length f) := by
  induction before generalizing l with
  | nil =>
    rw [List.nil_append, List.mapM_cons] at h
    obtain ⟨b, ha, h⟩ := exists_of_bind_ok h
    obtain ⟨bs, hafter, h⟩ := exists_of_bind_ok h
    cases h
    refine ⟨b, ha, fun a' f ha' => ?_⟩
    rw [List.nil_append, List.mapM_cons, ha', hafter]
    rfl
  | cons c before ih =>
    rw [List.cons_append, List.mapM_cons] at h
    obtain ⟨d, hc, h⟩ := exists_of_bind_ok h
    obtain ⟨bs, hrest, h⟩ := exists_of_bind_ok h
    cases h
    obtain ⟨b, ha, hmodify⟩ := ih hrest
    refine ⟨b, ha, fun a' f ha' => ?_⟩
    rw [List.cons_append, List.mapM_cons, hc, hmodify a' f ha']
    rfl

end Dialogue
