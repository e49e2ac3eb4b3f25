import Dialogue.Content.Tree
import Mathlib.Data.List.Basic

/-!
# Colors of choices

By the rule for prompts, gains in chivalry among the effects of a choice decide its color, then
gains in darkness, and then its tone (`Choice.ruledColor`). What a choice has is the color of the
first gain of either kind (`Choice.GainsFirst.color_eq`). This is the color of the rule unless
chivalry comes after darkness (`Choice.color_eq_ruledColor_iff`), and the order of the effects
counts for choices with both kinds only (`Choice.color_of_perm_iff`).
-/

namespace Dialogue

/-- The side of alignment that the effect is a gain in, whatever its amount. -/
def Effect.side? : Effect → Option Alignment
  | .addChivalry _ => some .chivalry
  | .addDarkness _ => some .darkness
  | _ => none

/-- The color of choices for a gain in alignment. -/
def Alignment.gainColor : Alignment → Color
  | .chivalry => .brightCyan
  | .darkness => .darkRed

namespace Choice
variable {c : Choice} {side : Alignment}

/-- Some effect of the choice is a gain in the side. -/
def Gains (c : Choice) (side : Alignment) : Prop := ∃ e ∈ c.effects, e.side? = some side

instance : Decidable (c.Gains side) :=
  inferInstanceAs (Decidable (∃ e ∈ c.effects, e.side? = some side))

/-- The first effect of the choice that is a gain in any side is one in this side. -/
def GainsFirst (c : Choice) (side : Alignment) : Prop :=
  ∃ before e after, c.effects = before ++ e :: after ∧ e.side? = some side ∧
    ∀ x ∈ before, x.side? = none

/-- The color of the rule: chivalry goes before darkness, and both go before the tone. -/
def ruledColor (c : Choice) : Color :=
  if c.Gains .chivalry then .brightCyan
  else if c.Gains .darkness then .darkRed
  else c.tone.color

/-! ## The first gain -/

theorem gainsFirst_iff : c.GainsFirst side ↔ c.effects.findSome? Effect.side? = some side :=
  List.findSome?_eq_some_iff.symm

theorem GainsFirst.gains (h : c.GainsFirst side) : c.Gains side := by
  obtain ⟨before, e, after, heffects, hside, -⟩ := h
  exact ⟨e, heffects ▸ List.mem_append_right before List.mem_cons_self, hside⟩

theorem GainsFirst.unique {side' : Alignment} (h : c.GainsFirst side) (h' : c.GainsFirst side') :
    side = side' :=
  Option.some.inj ((gainsFirst_iff.1 h).symm.trans (gainsFirst_iff.1 h'))

theorem color_eq (c : Choice) :
    c.color = ((c.effects.findSome? Effect.side?).map Alignment.gainColor).getD c.tone.color := by
  rw [color, List.map_findSome?]
  congr 2
  funext e
  cases e <;> rfl

theorem GainsFirst.color_eq (h : c.GainsFirst side) : c.color = side.gainColor := by
  rw [Choice.color_eq, gainsFirst_iff.1 h]
  rfl

theorem color_of_not_gains (h : ∀ side, ¬c.Gains side) : c.color = c.tone.color := by
  have hnone : c.effects.findSome? Effect.side? = none := by
    refine List.findSome?_eq_none_iff.2 fun e he => Option.eq_none_iff_forall_ne_some.2 ?_
    exact fun side hs => h side ⟨e, he, hs⟩
  rw [color_eq, hnone]
  rfl

/-- Some gain comes first, or there is none. -/
theorem gainsFirst_or (c : Choice) : (∃ side, c.GainsFirst side) ∨ ∀ side, ¬c.Gains side := by
  cases h : c.effects.findSome? Effect.side? with
  | some side => exact .inl ⟨side, gainsFirst_iff.2 h⟩
  | none =>
    refine .inr fun side ⟨e, he, hs⟩ => ?_
    rw [List.findSome?_eq_none_iff.1 h e he] at hs
    cases hs

/-! ## The rule -/

theorem color_eq_ruledColor_iff :
    c.color = c.ruledColor ↔ ¬(c.GainsFirst .darkness ∧ c.Gains .chivalry) := by
  rcases c.gainsFirst_or with ⟨side, first⟩ | plain
  · cases side with
    | chivalry =>
      have hruled : c.ruledColor = .brightCyan := if_pos first.gains
      rw [first.color_eq, hruled]
      exact iff_of_true rfl fun h => nomatch first.unique h.1
    | darkness =>
      rw [first.color_eq, ruledColor]
      by_cases hchivalry : c.Gains .chivalry
      · rw [if_pos hchivalry]
        exact iff_of_false (by decide) (not_not_intro ⟨first, hchivalry⟩)
      · rw [if_neg hchivalry, if_pos first.gains]
        exact iff_of_true rfl fun h => hchivalry h.2
  · rw [color_of_not_gains plain, ruledColor, if_neg (plain .chivalry), if_neg (plain .darkness)]
    exact iff_of_true rfl fun h => plain .chivalry h.2

theorem color_eq_ruledColor (h : ¬(c.Gains .chivalry ∧ c.Gains .darkness)) :
    c.color = c.ruledColor :=
  color_eq_ruledColor_iff.2 fun ⟨first, hchivalry⟩ => h ⟨hchivalry, first.gains⟩

theorem gains_of_perm {effects : List Effect} (h : effects.Perm c.effects) :
    ({ c with effects } : Choice).Gains side ↔ c.Gains side := by
  unfold Gains
  simp only [h.mem_iff]

theorem ruledColor_of_perm {effects : List Effect} (h : effects.Perm c.effects) :
    ({ c with effects } : Choice).ruledColor = c.ruledColor := by
  simp only [ruledColor, gains_of_perm h]

/-- A gain can be put before all other effects. -/
theorem exists_perm_of_gains (h : c.Gains side) :
    ∃ effects, effects.Perm c.effects ∧ ({ c with effects } : Choice).color = side.gainColor := by
  obtain ⟨e, he, hside⟩ := h
  refine ⟨e :: c.effects.erase e, (List.perm_cons_erase he).symm, ?_⟩
  exact GainsFirst.color_eq ⟨[], e, c.effects.erase e, rfl, hside, List.forall_mem_nil _⟩

theorem color_of_perm_iff :
    (∀ effects, effects.Perm c.effects → ({ c with effects } : Choice).color = c.color) ↔
      ¬(c.Gains .chivalry ∧ c.Gains .darkness) := by
  constructor
  · rintro same ⟨hchivalry, hdarkness⟩
    obtain ⟨effects, hperm, hcyan⟩ := exists_perm_of_gains hchivalry
    obtain ⟨effects', hperm', hred⟩ := exists_perm_of_gains hdarkness
    have heq := (same effects hperm).trans (same effects' hperm').symm
    rw [hcyan, hred] at heq
    exact absurd heq (by decide)
  · intro h effects hperm
    have h' : ¬(({ c with effects } : Choice).Gains .chivalry ∧
        ({ c with effects } : Choice).Gains .darkness) := by
      rwa [gains_of_perm hperm, gains_of_perm hperm]
    rw [color_eq_ruledColor h', ruledColor_of_perm hperm, color_eq_ruledColor h]

/-- **The color of a choice is that of the rule**, unless its first gain is one in darkness and
there is one in chivalry as well; it is dark red then. The order of the effects does not count for
choices without gains of both kinds, and for no others. -/
theorem color_of_gains (c : Choice) :
    (c.color = c.ruledColor ↔ ¬(c.GainsFirst .darkness ∧ c.Gains .chivalry)) ∧
    (c.GainsFirst .darkness → c.color = .darkRed) ∧
    ((∀ effects, effects.Perm c.effects → ({ c with effects } : Choice).color = c.color) ↔
      ¬(c.Gains .chivalry ∧ c.Gains .darkness)) :=
  ⟨color_eq_ruledColor_iff, GainsFirst.color_eq, color_of_perm_iff⟩

/-- A choice for someone who gives in to temptation, and then thinks better of it. -/
def penitent : Choice where
  text := "Return the ring"
  next := "shrine"
  effects := [.giveItem "Ring", .addDarkness 5, .addChivalry 20]

theorem color_of_gains_penitent :
    let thief : Choice := { penitent with effects := [.giveItem "Ring", .addDarkness 5] }
    penitent.GainsFirst .darkness ∧ penitent.color = .darkRed ∧
      thief.color = thief.ruledColor ∧ [.addDarkness 5, .giveItem "Ring"].Perm thief.effects ∧
      ({ thief with effects := [.addDarkness 5, .giveItem "Ring"] } : Choice).color =
        thief.color := by
  intro thief
  have first : penitent.GainsFirst .darkness := gainsFirst_iff.2 (by decide)
  have hthief : ¬thief.Gains .chivalry := by decide
  have swapped : [.addDarkness 5, .giveItem "Ring"].Perm thief.effects := .swap ..
  obtain ⟨-, dark, -⟩ := color_of_gains penitent
  obtain ⟨ruled, -, ordered⟩ := color_of_gains thief
  exact ⟨first, dark first, ruled.2 fun h => hthief h.2, swapped,
    ordered.2 (fun h => hthief h.1) _ swapped⟩

/-- A gain in chivalry that comes too late: the rule has another color for the choice, which the
choice itself has with its effects in reverse. -/
theorem color_ne_ruledColor :
    penitent.Gains .chivalry ∧ penitent.ruledColor = .brightCyan ∧ penitent.color = .darkRed ∧
      ({ penitent with effects := penitent.effects.reverse } : Choice).color = .brightCyan := by
  decide

end Choice

end Dialogue
