import Dialogue.Proofs.Machine
import Mathlib.Data.List.Forall2
import Mathlib.Logic.Relation

/-!
# Gates with parts of unknown kind

What becomes of a gate when parts of its condition are of a kind that is not known. Such a part
holds always, so that under an even number of negations it can only open the gate, and under an odd
number only shut it (`Condition.Forgets.holds_imp`). A gate stays open if all parts of the second
sort held anyway (`Condition.Fades.holds`), and then every choice that was offered still is.
-/

namespace Dialogue

namespace Condition

/-- `Forgets x upright c d`: one part `x` of the condition `c` is of unknown kind in `d`. If
`upright`, the part stands under an even number of negations, and otherwise under an odd number. -/
inductive Forgets (x : Condition) : (upright : Bool) → Condition → Condition → Prop
  | here : Forgets x true x .unknown
  | all {upright c d} (before after : List Condition) (part : Forgets x upright c d) :
    Forgets x upright (.all (before ++ c :: after)) (.all (before ++ d :: after))
  | any {upright c d} (before after : List Condition) (part : Forgets x upright c d) :
    Forgets x upright (.any (before ++ c :: after)) (.any (before ++ d :: after))
  | not {upright c d} (part : Forgets x upright c d) : Forgets x (!upright) (.not c) (.not d)

/-- A part that holds is no loss. -/
theorem Forgets.holds_eq {p : Profile} (h : Forgets x upright c d) (hx : x.holds p = true) :
    d.holds p = c.holds p := by
  induction h with
  | here => exact hx.symm
  | all _ _ _ ih | any _ _ _ ih | not _ ih => simp [holds, ih]

/-- A part of unknown kind can only open the condition that it stands upright in, and only shut the
others. -/
theorem Forgets.holds_imp {p : Profile} (h : Forgets x upright c d) :
    (upright = true → c.holds p = true → d.holds p = true) ∧
      (upright = false → d.holds p = true → c.holds p = true) := by
  induction h with
  | here => exact ⟨fun _ _ => rfl, nofun⟩
  | all _ _ _ ih =>
    simp only [holds, allHold_eq, List.all_append, List.all_cons, Bool.and_eq_true]
    exact ⟨fun hu ⟨hb, hc, ha⟩ => ⟨hb, ih.1 hu hc, ha⟩, fun hu ⟨hb, hd, ha⟩ => ⟨hb, ih.2 hu hd, ha⟩⟩
  | any _ _ _ ih =>
    simp only [holds, anyHolds_eq, List.any_append, List.any_cons, Bool.or_eq_true]
    exact ⟨fun hu => Or.imp_right (Or.imp_left (ih.1 hu)),
      fun hu => Or.imp_right (Or.imp_left (ih.2 hu))⟩
  | not _ ih =>
    -- a negation turns the two halves of the hypothesis around
    simp only [holds, Bool.not_eq_true', Bool.eq_false_iff]
    exact ⟨fun hu => mt (ih.2 (by simpa using hu)), fun hu => mt (ih.1 (by simpa using hu))⟩

/-- `Fades p c d`: some parts of the condition `c` are of unknown kind in `d`, where a part under an
odd number of negations held of the profile `p`. -/
def Fades (p : Profile) : Condition → Condition → Prop :=
  Relation.ReflTransGen fun c d =>
    ∃ x upright, Forgets x upright c d ∧ (upright = true ∨ x.holds p = true)

theorem Fades.holds {p : Profile} (h : Fades p c d) (hc : c.holds p = true) :
    d.holds p = true := by
  induction h with
  | refl => exact hc
  | tail _ step ih =>
    obtain ⟨x, upright, hforgets, rfl | hx⟩ := step
    · exact hforgets.holds_imp.1 rfl ih
    · rw [hforgets.holds_eq hx, ih]

end Condition

/-- The same choice, behind a gate with parts of unknown kind. -/
def Choice.Fades (p : Profile) (c d : Choice) : Prop :=
  ∃ gate, Option.Rel (Condition.Fades p) c.condition gate ∧ d = { c with condition := gate }

theorem gateOpen_of_fades {p : Profile} {gate gate' : Option Condition}
    (h : Option.Rel (Condition.Fades p) gate gate') (hopen : gateOpen p gate = true) :
    gateOpen p gate' = true := by
  cases h with
  | none => rfl
  | some h => exact h.holds hopen

/-- **Parts of unknown kind do not hide choices**, unless they stand under an odd number of
negations and did not hold. -/
theorem Node.offers_of_fades (p : Profile) :
    (∀ c d, Condition.Fades p c d → c.holds p = true → d.holds p = true) ∧
    ∀ (n : Node) (choices : List Choice), List.Forall₂ (Choice.Fades p) n.choices choices →
      ∀ i c, (i, c) ∈ n.offers p →
        ∃ gate, (i, { c with condition := gate }) ∈ ({ n with choices } : Node).offers p := by
  refine ⟨fun c d h => h.holds, fun n choices h i c hc => ?_⟩
  obtain ⟨hi, hopen⟩ := Node.mem_offers.1 hc
  obtain ⟨hlt, rfl⟩ := List.getElem?_eq_some_iff.1 hi
  have hlt' : i < choices.length := h.length_eq ▸ hlt
  obtain ⟨gate, hgate, hd⟩ := h.get hlt hlt'
  refine ⟨gate, Node.mem_offers.2 ⟨?_, gateOpen_of_fades hgate hopen⟩⟩
  rw [List.getElem?_eq_getElem hlt']
  exact congrArg some hd

/-- Entry for those who come by day and are not banished guests. -/
def Condition.welcome : Condition :=
  .all [.test (.lacksFlag "night"), .not (.all [.test (.lacksFlag "host"), .test (.hasFlag "banished")])]

theorem Node.offers_of_fades_welcome :
    let faded : Condition := .all [.unknown, .not (.all [.unknown, .test (.hasFlag "banished")])]
    let enter : Choice := { text := "Enter", next := "hall", condition := some .welcome }
    Condition.welcome.holds {} = true ∧ Condition.Fades {} .welcome faded ∧
      faded.holds {} = true ∧ (0, enter) ∈ ({ id := "door", choices := [enter] } : Node).offers {} ∧
      ∃ gate, (0, { enter with condition := gate }) ∈
        ({ id := "door", choices := [{ enter with condition := some faded }] } : Node).offers {} := by
  intro faded enter
  have hholds : Condition.welcome.holds {} = true := by decide
  have hnight : Condition.Forgets (.test (.lacksFlag "night")) true .welcome
      (.all [.unknown, .not (.all [.test (.lacksFlag "host"), .test (.hasFlag "banished")])]) :=
    .all [] _ .here
  have hhost : Condition.Forgets (.test (.lacksFlag "host")) false
      (.all [.unknown, .not (.all [.test (.lacksFlag "host"), .test (.hasFlag "banished")])])
      faded :=
    .all [.unknown] [] (.not (.all [] _ .here))
  have hfades : Condition.Fades {} .welcome faded :=
    .tail (.single ⟨_, true, hnight, .inl rfl⟩) ⟨_, false, hhost, .inr (by decide)⟩
  have hoffer : (0, enter) ∈ ({ id := "door", choices := [enter] } : Node).offers {} :=
    Node.mem_offers.2 ⟨rfl, hholds⟩
  have hchoices : List.Forall₂ (Choice.Fades {}) [enter] [{ enter with condition := some faded }] :=
    .cons ⟨some faded, .some hfades, rfl⟩ .nil
  exact ⟨hholds, hfades, (Node.offers_of_fades {}).1 _ _ hfades hholds, hoffer,
    (Node.offers_of_fades {}).2 { id := "door", choices := [enter] } _ hchoices 0 enter hoffer⟩

/-- A negated part of unknown kind hides a choice that was offered, where the part did not hold. -/
theorem Node.offers_of_negated_unknown :
    let banished : Condition := .test (.hasFlag "banished")
    let enter : Choice := { text := "Enter", next := "hall", condition := some (.not banished) }
    Condition.Forgets banished false (.not banished) (.not .unknown) ∧
      (Condition.not banished).holds {} = true ∧ (Condition.not .unknown).holds {} = false ∧
      (0, enter) ∈ ({ id := "door", choices := [enter] } : Node).offers {} ∧
      ({ id := "door", choices := [{ enter with condition := some (.not .unknown) }] } : Node).offers {}
        = [] := by
  intro banished enter
  exact ⟨.not .here, by decide, rfl, Node.mem_offers.2 ⟨rfl, by decide⟩, rfl⟩

end Dialogue
