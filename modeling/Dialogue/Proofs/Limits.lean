import Dialogue.Proofs.Attempts
import Dialogue.Proofs.Counters
import Dialogue.Proofs.Progress

/-!
# Documented limits

Hit points, bonds and betrayal scores keep within their documented limits (`Profile.InRange`),
whatever amounts the effects of a dialogue have: each effect keeps them (`Effect.inRange`), and what
each effect keeps is kept by all dialogues that are played in turn (`Tour.invariant`). Within these
limits all counters are exact (`Profile.InRange.regular`), and no evaluation fails.
-/

namespace Dialogue
open Machine

/-! ## What is within its limits -/

structure Companion.InRange (c : Companion) : Prop where
  loyalty : 0 ≤ c.loyalty.val ∧ c.loyalty.val ≤ 100
  trust : 0 ≤ c.trust.val ∧ c.trust.val ≤ 100
  romance : 0 ≤ c.romance.val ∧ c.romance.val ≤ 10

/-- Hit points, bonds and betrayal scores are within their limits. -/
structure Profile.InRange (p : Profile) : Prop where
  hp : 0 ≤ p.player.hp.val ∧ p.player.hp.val ≤ p.player.maxHp.val
  bonds : ∀ name c, p.companions.get? name = some c → c.InRange
  points : ∀ npc score, p.betrayals.points.get? npc = some score → 0 ≤ score.val

theorem Awakening.level_mem (a : Awakening) : 0 ≤ a.level.val ∧ a.level.val ≤ 7 :=
  Ranged.between_mem (by decide) _

theorem Memory.recoveryPercent_mem (m : Memory) :
    0 ≤ m.recoveryPercent.val ∧ m.recoveryPercent.val ≤ 100 := by
  rw [recoveryPercent]
  split
  · decide
  · have hundredfold : 0 ≤ (Ranged.clamp (m.recovered.size * 100) : Size).val := Ranged.lo_le _
    have hquotient := Int.ediv_nonneg hundredfold m.total.lo_le
    dsimp only
    rw [Ranged.clamp_val]
    omega

/-! ## Effects -/

theorem Player.adjustHp_mem {p : Player} (h : 0 ≤ p.maxHp.val) (amount : Amount) :
    0 ≤ (p.adjustHp amount).hp.val ∧ (p.adjustHp amount).hp.val ≤ p.maxHp.val := by
  have hzero : (0 : Amount).val = 0 := rfl
  have hmax : (max p.maxHp 0).val = p.maxHp.val := by
    rw [Ranged.max_val, hzero]
    omega
  have hlimits : (0 : Amount).val ≤ (max p.maxHp 0).val := by omega
  have hbetween := Ranged.between_mem hlimits (p.hp.plus amount.val)
  rwa [hmax] at hbetween

namespace Companion.InRange
variable {c : Companion}

theorem adjustLoyalty (h : c.InRange) (amount : Amount) (reason : String) :
    (c.adjustLoyalty amount reason).InRange :=
  { h with loyalty := Ranged.between_mem (show (0 : Amount).val ≤ maxBond.val by decide) _ }

theorem adjustTrust (h : c.InRange) (amount : Amount) : (c.adjustTrust amount).InRange :=
  { h with trust := Ranged.between_mem (show (0 : Amount).val ≤ maxBond.val by decide) _ }

theorem deepenRomance (h : c.InRange) : c.deepenRomance.InRange := by
  have hromance := h.romance
  refine { h with romance := ?_ }
  rw [deepenRomance_val]
  omega

theorem die (h : c.InRange) : c.die.InRange := { h with }

end Companion.InRange

namespace Profile.InRange
variable {p : Profile}

theorem modify (h : p.InRange) {name : String} {f : Companion → Companion}
    (hf : ∀ c, c.InRange → (f c).InRange) :
    { p with companions := p.companions.modify name f }.InRange := by
  refine { h with bonds := fun name' c hc => ?_ }
  rw [Companions.get?, Companions.modify, Table.get?_modify] at hc
  obtain ⟨x, hx, rfl⟩ := Option.map_eq_some_iff.1 hc
  split
  · exact hf x (h.bonds name' x hx)
  · exact h.bonds name' x hx

theorem setPoints (h : p.InRange) (npc : String) (score : Amount) (log : List String) :
    { p with betrayals := { p.betrayals with
      points := p.betrayals.points.set npc (max score 0), log } }.InRange := by
  refine { h with points := fun npc' score' hscore => ?_ }
  rw [Table.get?_set] at hscore
  split at hscore
  · cases hscore
    rw [Ranged.max_val]
    exact Int.le_max_right ..
  · exact h.points npc' score' hscore

theorem adjustHp (h : p.InRange) (amount : Amount) :
    { p with player := p.player.adjustHp amount }.InRange :=
  { h with hp := Player.adjustHp_mem (Int.le_trans h.hp.1 h.hp.2) amount }

end Profile.InRange

theorem Effect.inRange (e : Effect) {p : Profile} (h : p.InRange) : (e.apply p).InRange := by
  cases e with
  | heal | damage => exact h.adjustHp _
  | modifyLoyalty companion amount => exact h.modify fun _ hc => hc.adjustLoyalty amount _
  | modifyTrust companion amount => exact h.modify fun _ hc => hc.adjustTrust amount
  | advanceRomance companion => exact h.modify fun _ hc => hc.deepenRomance
  | companionDeath companion => exact h.modify fun _ hc => hc.die
  | addBetrayal | reduceBetrayal => exact h.setPoints ..
  | _ => exact { h with }

/-! ## Dialogues -/

theorem Effect.invariant {I : Profile → Prop} (step : ∀ p e, I p → I (Effect.apply p e))
    {p : Profile} (hp : I p) (effects : List Effect) : I (applyAll p effects) := by
  induction effects generalizing p with
  | nil => exact hp
  | cons e effects ih => exact ih (step p e hp)

/-- However a node is left, its profile is changed by effects. -/
theorem Machine.Leaves.exists_effects (h : Leaves n p inputs said departure q rest) :
    ∃ effects, q = Effect.applyAll p effects := by
  cases h with
  | terminal | automatic | chosen => exact ⟨_, rfl⟩
  | stuck | successor | silence | closed => exact ⟨[], rfl⟩

theorem Machine.Plays.invariant {I : Profile → Prop} (step : ∀ p e, I p → I (Effect.apply p e))
    {stage : Stage} {visits acts outcome} (h : Plays stage n p inputs visits acts outcome)
    (hp : I p) : (∀ v ∈ visits, I v.2) ∧ I outcome.profile := by
  induction h with
  | stop leaves | dangling leaves =>
    obtain ⟨effects, rfl⟩ := leaves.exists_effects
    exact ⟨List.forall_mem_singleton.2 hp, Effect.invariant step hp effects⟩
  | go leaves _ _ ih =>
    obtain ⟨effects, rfl⟩ := leaves.exists_effects
    obtain ⟨hvisits, hlast⟩ := ih (Effect.invariant step hp effects)
    exact ⟨List.forall_mem_cons.2 ⟨hp, hvisits⟩, hlast⟩

theorem Session.Displays.invariant {I : Profile → Prop}
    (step : ∀ p e, I p → I (Effect.apply p e)) {s : Session} {fuel : Nat} {tree : String}
    {p : Profile} {inputs : List String} {visits : List (Node × Profile)} {r : Performance}
    (displays : s.Displays tree p inputs visits r) (h : s.start fuel tree p inputs = some r)
    (hp : I p) : (∀ v ∈ visits, I v.2) ∧ I r.profile := by
  rcases s.entered_or_barred tree with ⟨t, root, found, entry⟩ | barred
  · exact (displays.plays t root found entry).invariant step hp
  · obtain ⟨w, hrefuse⟩ := exists_refuse barred
    cases (hrefuse fuel p inputs).symm.trans h
    rw [displays.barred barred]
    exact ⟨List.forall_mem_nil _, hp⟩

/-- What every effect keeps holds throughout all dialogues that are played in turn. -/
theorem Tour.invariant {I : Profile → Prop} (step : ∀ p e, I p → I (Effect.apply p e))
    {visits : List (Node × Profile)} (h : Tour p visits q) (hp : I p) :
    (∀ v ∈ visits, I v.2) ∧ I q := by
  induction h with
  | done p => exact ⟨List.forall_mem_nil _, hp⟩
  | play h displays _ ih =>
    obtain ⟨hvisits, hr⟩ := displays.invariant step h hp
    obtain ⟨hlater, hq⟩ := ih hr
    exact ⟨List.forall_mem_append.2 ⟨hvisits, hlater⟩, hq⟩

/-! ## All documented limits -/

/-- Within the limits there is no damage that is not exact. -/
theorem Profile.InRange.regular {p : Profile} (h : p.InRange) (e : Effect) : e.Regular p := by
  cases e with
  | damage amount => exact .inl h.hp.1
  | _ => trivial

/-- **Documented limits hold throughout.** They are kept by all effects, whatever their amounts, by
every visit to a node, and by all dialogues that are played in turn; levels and percentages are
always within theirs. No evaluation fails, and what is moved into range goes to the nearest value
there: every counter to that nearest to the exact sum, and romance up by one, no further than
ten. -/
theorem Tour.within_limits :
    (∀ (p : Profile) effects, p.InRange → (Effect.applyAll p effects).InRange) ∧
    (∀ (stage : Stage) n (p : Profile) inputs, p.InRange →
      (stage.visit n p inputs).after.InRange) ∧
    (∀ (s : Session) fuel tree p inputs r, s.start fuel tree p inputs = some r →
      ∃ visits, s.Displays tree p inputs visits r) ∧
    (∀ (p : Profile) visits q, Tour p visits q → p.InRange →
      (∀ v ∈ visits, v.2.InRange) ∧ q.InRange) ∧
    (∀ p : Profile, (0 ≤ p.awakening.level.val ∧ p.awakening.level.val ≤ 7) ∧
      0 ≤ p.memory.recoveryPercent.val ∧ p.memory.recoveryPercent.val ≤ 100) ∧
    (∀ p effects, Effect.attemptAll p effects = some (Effect.applyAll p effects)) ∧
    (∀ (p : Profile) (e : Effect) k n, p.InRange → (k, n) ∈ e.changes →
      k.value? (e.apply p) =
        (k.start? p).map fun v => nearest (k.limits p).1 (k.limits p).2 (v + n)) ∧
    (∀ (p : Profile) name c, p.companions.get? name = some c →
      ∃ d, ((Effect.advanceRomance name).apply p).companions.get? name = some d ∧
        d.romance.val = min (c.romance.val + 1) 10) ∧
    (∀ p : Profile, p.awakening.attemptLevel = some p.awakening.level ∧
      p.memory.attemptPercent = some p.memory.recoveryPercent ∧
      p.stranger.attemptOpenness = some p.stranger.openness) ∧
    ∀ lo hi [Bounds lo hi] (n : Int) (a : Ranged lo hi),
      ((Ranged.clamp n : Ranged lo hi).val - n).natAbs ≤ (a.val - n).natAbs := by
  have step (p : Profile) (e : Effect) (h : p.InRange) : (e.apply p).InRange := e.inRange h
  refine ⟨fun p effects h => Effect.invariant step h effects, fun stage n p inputs h => ?_,
    fun s fuel tree p inputs r => Session.exists_displays,
    fun p visits q tour => tour.invariant step,
    fun p => ⟨p.awakening.level_mem, p.memory.recoveryPercent_mem⟩, Effect.attemptAll_eq,
    fun p e k n h changed => Counter.value?_of_mem changed (h.regular e),
    fun p name c recruited =>
      ⟨_, Companions.get?_modify_self recruited _, c.deepenRomance_val⟩,
    fun p => ⟨p.awakening.attemptLevel_eq, p.memory.attemptPercent_eq,
      p.stranger.attemptOpenness_eq⟩, fun _ _ _ => Ranged.clamp_nearest⟩
  obtain ⟨said, leaves, -⟩ := exists_leaves_visit stage n p inputs
  obtain ⟨effects, heffects⟩ := leaves.exists_effects
  exact heffects ▸ Effect.invariant step h effects

/-- A companion, and the most extreme amounts there are. -/
theorem Tour.within_limits_extreme :
    let most : Amount := Ranged.clamp 9223372036854775807
    let least : Amount := Ranged.clamp (-9223372036854775808)
    let p : Profile := { companions := ({} : Companions).recruit "Lyra" }
    let effects : List Effect := [.heal most, .damage least, .modifyLoyalty "Lyra" least,
      .modifyTrust "Lyra" most, .addBetrayal "Vex" most, .reduceBetrayal "Vex" least]
    p.InRange ∧ (Effect.applyAll p effects).InRange ∧
      Effect.attemptAll p effects = some (Effect.applyAll p effects) ∧
      (Effect.applyAll p effects).player.hp = 100 ∧
      (Effect.applyAll p effects).betrayals.points.get? "Vex" = some most ∧
      (Counter.gold, least.val) ∈ (Effect.addGold least).changes ∧
      Counter.gold.value? ((Effect.addGold least).apply p) = some (-9223372036854775808) ∧
      (∃ d, ((Effect.advanceRomance "Lyra").apply p).companions.get? "Lyra" = some d ∧
        d.romance.val = 1) ∧
      ∃ (r : Performance) (visits : List (Node × Profile)),
        Session.wayside.start 3 "road" p ["2", "1"] = some r ∧
          (∀ v ∈ visits, v.2.InRange) ∧ r.profile.InRange := by
  intro most least p effects
  obtain ⟨kept, -, displayed, toured, -, attempted, moved, deepened, -⟩ := within_limits
  have hp : p.InRange := by
    refine ⟨by decide, fun name c hc => ?_, fun npc score hscore => ?_⟩
    · obtain rfl : c = {} := by
        have hmem : (name, c) ∈ [("Lyra", ({} : Companion))] := Table.mem_of_get? hc
        exact (Prod.mk.inj (List.mem_singleton.1 hmem)).2
      constructor <;> decide
    · cases Table.mem_of_get? hscore
  have hgold : (Counter.gold, least.val) ∈ (Effect.addGold least).changes := by decide
  have recruited : p.companions.get? "Lyra" = some {} := by decide
  obtain ⟨r, hr⟩ : ∃ r, Session.wayside.start 3 "road" p ["2", "1"] = some r :=
    Option.isSome_iff_exists.1 (by decide)
  obtain ⟨visits, displays⟩ := displayed _ _ _ _ _ _ hr
  have tour : Tour p (visits ++ []) r.profile := .play hr displays (.done _)
  exact ⟨hp, kept p effects hp, attempted p effects, by decide, by decide, hgold,
    moved p _ _ _ hp hgold, deepened p "Lyra" {} recruited, r, _, hr, toured _ _ _ tour hp⟩

end Dialogue
