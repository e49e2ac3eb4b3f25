import Dialogue.Proofs.Attempts
import Dialogue.Proofs.Footprint
import Dialogue.Proofs.Profile

/-!
# Counters

Effects add amounts to the counters of a profile. Some sums are moved into range twice, to where
there are amounts at all and then to the limits of the counter; one move of the exact sum comes to
the same (`Ranged.between_plus_val`), and so each counter is the exact sum within its limits
(`Counter.value?_of_mem`). Only the opposite of the least amount is not exact, which damage shows
for hit points below zero, and the difference of chivalry and darkness at the two ends of its range.
Bonds are within their limits after each change, but for romance, which is moved down to its limit
and never up (`Companion.bonds_after`).
-/

namespace Dialogue

/-! ## Exact sums -/

/-- The integer between `low` and `high` nearest to `n`, for `low ≤ high`. -/
def nearest (low high n : Int) : Int := max low (min n high)

namespace Ranged
variable {lo hi : Int} [Bounds lo hi]

/-- To move a sum into range, and then between limits, is to move it between the limits. -/
theorem between_plus_val {low high : Ranged lo hi} (h : low ≤ high) (a : Ranged lo hi) (n : Int) :
    ((a.plus n).between low high).val = nearest low.val high.val (a.val + n) := by
  have h : low.val ≤ high.val := h
  have hlow := low.lo_le
  have hhigh := high.le_hi
  rw [between_val, plus, clamp_val, nearest]
  omega

theorem max_plus_val (a low : Ranged lo hi) (n : Int) :
    (max (a.plus n) low).val = nearest low.val hi (a.val + n) := by
  have hlow := low.lo_le
  have hhigh := low.le_hi
  rw [max_val, plus, clamp_val, nearest]
  omega

theorem min_plus_val (a high : Ranged lo hi) (n : Int) :
    (min (a.plus n) high).val = nearest lo high.val (a.val + n) := by
  have hlow := high.lo_le
  have hhigh := high.le_hi
  rw [min_val, plus, clamp_val, nearest]
  omega

theorem minus_eq (a : Ranged lo hi) (n : Int) : a.minus n = a.plus (-n) := by
  rw [minus, plus, Int.sub_eq_add_neg]

end Ranged

namespace Player
variable {p : Player}

theorem adjustHp_val (p : Player) (amount : Amount) :
    (p.adjustHp amount).hp.val = nearest 0 (max 0 p.maxHp.val) (p.hp.val + amount.val) := by
  have hmax : (max p.maxHp 0).val = max 0 p.maxHp.val := by
    rw [Ranged.max_val, Int.max_comm]
    rfl
  have hlimits : (0 : Amount) ≤ max p.maxHp 0 := by
    show (0 : Int) ≤ (max p.maxHp 0).val
    omega
  rw [adjustHp, Ranged.between_plus_val hlimits, hmax]
  rfl

/-- The least amount has no opposite; the greatest amount does as well where no hit points are
missing to zero. -/
theorem adjustHp_opposite_val {amount : Amount}
    (h : 0 ≤ p.hp.val ∨ amount.val ≠ -9223372036854775808) :
    (p.adjustHp amount.opposite).hp.val =
      nearest 0 (max 0 p.maxHp.val) (p.hp.val - amount.val) := by
  have hlow := amount.lo_le
  have hhigh := amount.le_hi
  have hmax := p.maxHp.le_hi
  rw [adjustHp_val, Ranged.opposite, Ranged.clamp_val, nearest, nearest]
  omega

/-- Beyond the greatest amount, all differences are taken for the greatest. -/
theorem lt_netAlignment_iff {value : Amount} (h : value.val ≠ 9223372036854775807) :
    value < p.netAlignment ↔ value.val < p.chivalry.val - p.darkness.val := by
  have hlow := value.lo_le
  have hhigh := value.le_hi
  show value.val < p.netAlignment.val ↔ _
  rw [netAlignment, Ranged.minus, Ranged.clamp_val]
  omega

theorem netAlignment_lt_iff {value : Amount} (h : value.val ≠ -9223372036854775808) :
    p.netAlignment < value ↔ p.chivalry.val - p.darkness.val < value.val := by
  have hlow := value.lo_le
  have hhigh := value.le_hi
  show p.netAlignment.val < value.val ↔ _
  rw [netAlignment, Ranged.minus, Ranged.clamp_val]
  omega

end Player

/-! ## Counters -/

/-- A number of a profile that effects change by an amount. -/
inductive Counter where
  | alignment (side : Alignment)
  | deeds (side : Alignment)
  | gold
  | experience
  | hp
  | loyalty (companion : String)
  | trust (companion : String)
  | betrayal (npc : String)
  | insight
  deriving DecidableEq

namespace Counter

/-- What a counter stands at. Only the recruited have loyalty and trust, and only those who have
ever got points a score. -/
def value? (p : Profile) : Counter → Option Int
  | .alignment side => some (p.player.alignment side).val
  | .deeds side => some (p.player.deeds side).val
  | .gold => some p.player.gold.val
  | .experience => some p.player.experience.val
  | .hp => some p.player.hp.val
  | .loyalty companion => (p.companions.get? companion).map (·.loyalty.val)
  | .trust companion => (p.companions.get? companion).map (·.trust.val)
  | .betrayal npc => (p.betrayals.points.get? npc).map Ranged.val
  | .insight => some p.awakening.points.val

/-- What a counter starts from when it is changed: scores begin at zero. -/
def start? (p : Profile) : Counter → Option Int
  | .betrayal npc => some (((Counter.betrayal npc).value? p).getD 0)
  | k => k.value? p

/-- The least and the greatest that a counter is moved to. -/
def limits (p : Profile) : Counter → Int × Int
  | .alignment _ | .gold | .experience | .insight => (-9223372036854775808, 9223372036854775807)
  | .deeds _ => (0, 4294967295)
  | .hp => (0, max 0 p.player.maxHp.val)
  | .loyalty _ | .trust _ => (0, 100)
  | .betrayal _ => (0, 9223372036854775807)

/-- The cell of a profile that holds the counter. -/
def cell : Counter → Cell
  | .alignment .chivalry | .deeds .chivalry => .chivalry
  | .alignment .darkness | .deeds .darkness => .darkness
  | .gold => .gold
  | .experience => .experience
  | .hp => .hp
  | .loyalty companion => .bond companion .loyalty
  | .trust companion => .bond companion .trust
  | .betrayal npc => .points npc
  | .insight => .insight

end Counter

namespace Effect

/-- The counters that the effect changes, each with what is added to it. -/
def changes : Effect → List (Counter × Int)
  | .addChivalry amount => [(.alignment .chivalry, amount.val), (.deeds .chivalry, 1)]
  | .addDarkness amount => [(.alignment .darkness, amount.val), (.deeds .darkness, 1)]
  | .addGold amount => [(.gold, amount.val)]
  | .addExperience amount => [(.experience, amount.val)]
  | .heal amount => [(.hp, amount.val)]
  | .damage amount => [(.hp, -amount.val)]
  | .modifyLoyalty companion amount => [(.loyalty companion, amount.val)]
  | .modifyTrust companion amount => [(.trust companion, amount.val)]
  | .addBetrayal npc amount => [(.betrayal npc, amount.val)]
  | .reduceBetrayal npc amount => [(.betrayal npc, -amount.val)]
  | .gainInsight amount => [(.insight, amount.val)]
  | _ => []

/-- The effect does no damage of the least amount to someone with hit points below zero. -/
def Regular (p : Profile) : Effect → Prop
  | .damage amount => 0 ≤ p.player.hp.val ∨ amount.val ≠ -9223372036854775808
  | _ => True

end Effect

namespace Counter
variable {p q : Profile} {e : Effect} {k : Counter} {n : Int}

/-- A counter is read from its cell. -/
theorem value?_congr (h : k.cell.read p = k.cell.read q) : k.value? p = k.value? q := by
  cases k with
  | alignment side | deeds side =>
    cases side <;> simp_all [cell, Cell.read, value?, Player.alignment, Player.deeds]
  | gold | experience | hp => exact congrArg (fun a : Amount => some a.val) h
  | insight => exact congrArg (fun v : Amount × List Amount => some v.1.val) h
  | betrayal => exact congrArg (Option.map Ranged.val) h
  | loyalty =>
    have hloyalty := congrArg (Option.map fun v : Amount × List String => v.1.val) h
    simp only [cell, Cell.read, Option.map_map] at hloyalty
    exact hloyalty
  | trust =>
    have htrust := congrArg (Option.map Ranged.val) h
    simp only [cell, Cell.read, Option.map_map] at htrust
    exact htrust

/-- An effect that writes the cell of a counter changes the counter. -/
theorem mem_changes_of_cell_mem (h : k.cell ∈ e.footprint p) : k ∈ e.changes.map Prod.fst := by
  cases e with
  | modifyLoyalty | modifyTrust | advanceRomance | companionDeath =>
    have hcell := Companions.mem_written h
    cases k with
    | alignment side | deeds side => cases side <;> cases hcell
    | loyalty | trust => cases hcell <;> exact List.mem_singleton_self _
    | _ => cases hcell
  | _ =>
    cases k with
    | alignment side | deeds side =>
      cases side <;> simp_all [cell, Effect.footprint, Effect.changes]
    | _ => simp_all [cell, Effect.footprint, Effect.changes]

theorem value?_of_not_mem (h : k ∉ e.changes.map Prod.fst) : k.value? (e.apply p) = k.value? p :=
  value?_congr (Effect.read_of_not_mem (mt mem_changes_of_cell_mem h))

theorem value?_betrayals (p : Profile) (npc : String) (score : Amount) (log : List String) :
    (betrayal npc).value? { p with betrayals := { p.betrayals with
      points := p.betrayals.points.set npc score, log } } = some score.val := by
  rw [value?, Table.get?_set_self, Option.map_some]

theorem start?_betrayal (p : Profile) (npc : String) :
    (betrayal npc).start? p = some (p.betrayals.pointsOf npc).val := by
  rw [start?, value?, Betrayals.pointsOf]
  cases p.betrayals.points.get? npc <;> rfl

theorem value?_of_mem (h : (k, n) ∈ e.changes) (regular : e.Regular p) :
    k.value? (e.apply p) =
      (k.start? p).map fun v => nearest (k.limits p).1 (k.limits p).2 (v + n) := by
  cases e with
  | addChivalry amount | addDarkness amount =>
    rcases List.mem_cons.1 h with h | h
    · cases h
      rfl
    · cases List.mem_singleton.1 h
      rfl
  | addGold amount | addExperience amount | gainInsight amount =>
    cases List.mem_singleton.1 h
    rfl
  | heal amount =>
    cases List.mem_singleton.1 h
    exact congrArg some (Player.adjustHp_val p.player amount)
  | damage amount =>
    cases List.mem_singleton.1 h
    exact congrArg some (Player.adjustHp_opposite_val regular)
  | modifyLoyalty companion amount | modifyTrust companion amount =>
    cases List.mem_singleton.1 h
    simp only [value?, start?, Effect.apply, Companions.get?_modify, Option.map_map]
    refine Option.map_congr fun c _ => ?_
    simp only [Function.comp_apply, beq_self_eq_true, if_true]
    exact Ranged.between_plus_val (by decide) _ _
  | addBetrayal npc amount =>
    cases List.mem_singleton.1 h
    rw [start?_betrayal]
    refine (value?_betrayals ..).trans (congrArg some ?_)
    exact Ranged.max_plus_val _ 0 _
  | reduceBetrayal npc amount =>
    cases List.mem_singleton.1 h
    rw [start?_betrayal]
    refine (value?_betrayals ..).trans (congrArg some ?_)
    rw [Ranged.minus_eq]
    exact Ranged.max_plus_val _ 0 _
  | _ => cases h

end Counter

namespace Effect

/-- **Counters are exact sums within their limits.** An effect moves each counter that it changes
from where it starts to the exact sum, or else to the limit nearest to it, and leaves all other
counters as they are; no step of it fails. Tests compare the exact difference of chivalry and
darkness, unless their threshold is at the end of the range beyond which there is nothing to
compare. -/
theorem counters_exact :
    (∀ (p : Profile) (e : Effect) (k : Counter) (n : Int), (k, n) ∈ e.changes → e.Regular p →
      k.value? (e.apply p) =
        (k.start? p).map fun v => nearest (k.limits p).1 (k.limits p).2 (v + n)) ∧
    (∀ (p : Profile) (e : Effect), ∀ k ∉ e.changes.map Prod.fst,
      k.value? (e.apply p) = k.value? p) ∧
    (∀ (p : Profile) (value : Amount), value.val ≠ 9223372036854775807 →
      ((Test.alignmentAbove value).passes p = true ↔
        value.val < p.player.chivalry.val - p.player.darkness.val)) ∧
    (∀ (p : Profile) (value : Amount), value.val ≠ -9223372036854775808 →
      ((Test.alignmentBelow value).passes p = true ↔
        p.player.chivalry.val - p.player.darkness.val < value.val)) ∧
    ∀ (p : Profile) (e : Effect), e.attempt p = some (e.apply p) :=
  ⟨fun _ _ _ _ => Counter.value?_of_mem, fun _ _ _ => Counter.value?_of_not_mem,
    fun _ _ h => decide_eq_true_iff.trans (Player.lt_netAlignment_iff h),
    fun _ _ h => decide_eq_true_iff.trans (Player.netAlignment_lt_iff h), attempt_eq⟩

/-- The greatest and the least amounts, for someone with a companion. -/
theorem counters_exact_extreme :
    let most : Amount := Ranged.clamp 9223372036854775807
    let least : Amount := Ranged.clamp (-9223372036854775808)
    let p : Profile :=
      { player := { gold := most, chivalry := most, darkness := least }
        companions := Companions.recruit {} "Lyra" }
    (Counter.gold, most.val) ∈ (Effect.addGold most).changes ∧
      Counter.gold.value? ((Effect.addGold most).apply p) = some 9223372036854775807 ∧
      (Counter.hp, -least.val) ∈ (Effect.damage least).changes ∧ (Effect.damage least).Regular p ∧
      Counter.hp.value? ((Effect.damage least).apply p) = some 100 ∧
      (Counter.loyalty "Lyra").value? ((Effect.modifyLoyalty "Lyra" least).apply p) = some 0 ∧
      (Counter.betrayal "Vex").value? ((Effect.reduceBetrayal "Vex" least).apply p) =
        some 9223372036854775807 ∧
      Counter.hp ∉ (Effect.addGold most).changes.map Prod.fst ∧
      Counter.hp.value? ((Effect.addGold most).apply p) = Counter.hp.value? p ∧
      (0 : Amount).val ≠ 9223372036854775807 ∧ (Test.alignmentAbove 0).passes p = true ∧
      (0 : Amount).val ≠ -9223372036854775808 ∧ ¬(Test.alignmentBelow 0).passes p = true ∧
      (Effect.damage least).attempt p = some ((Effect.damage least).apply p) := by
  intro most least p
  obtain ⟨moved, kept, above, below, attempted⟩ := counters_exact
  have hgold : (Counter.gold, most.val) ∈ (Effect.addGold most).changes := by decide
  have hdamage : (Counter.hp, -least.val) ∈ (Effect.damage least).changes := by decide
  have hregular : (Effect.damage least).Regular p := .inl (by decide)
  have hother : Counter.hp ∉ (Effect.addGold most).changes.map Prod.fst := by decide
  have hmost : (0 : Amount).val ≠ 9223372036854775807 := by decide
  have hleast : (0 : Amount).val ≠ -9223372036854775808 := by decide
  exact ⟨hgold, moved p _ _ _ hgold trivial, hdamage, hregular, moved p _ _ _ hdamage hregular,
    moved p (.modifyLoyalty "Lyra" least) _ _ (List.mem_singleton_self _) trivial,
    moved p (.reduceBetrayal "Vex" least) _ _ (List.mem_singleton_self _) trivial,
    hother, kept p _ _ hother, hmost, (above p 0 hmost).2 (by decide), hleast,
    mt (below p 0 hleast).1 (by decide), attempted p _⟩

-- damage of the least amount falls short by one
example :
    let least : Amount := Ranged.clamp (-9223372036854775808)
    let p : Profile :=
      { player := { hp := Ranged.clamp (-5), maxHp := Ranged.clamp 9223372036854775807 } }
    Counter.hp.value? ((Effect.damage least).apply p) = some 9223372036854775802 := by decide

end Effect

/-! ## Bonds -/

theorem Companions.get?_modify_self {c : Companions} {name : String} {x : Companion}
    (h : c.get? name = some x) (f : Companion → Companion) :
    (c.modify name f).get? name = some (f x) := by
  rw [get?_modify, h, Option.map_some, beq_self_eq_true, if_pos rfl]

namespace Companion
variable {p : Profile} {name : String} {c : Companion}

/-- Romance is moved down to its limit, and never up to it. -/
theorem deepenRomance_val (c : Companion) :
    c.deepenRomance.romance.val = min (c.romance.val + 1) 10 := by
  have hlow := c.romance.lo_le
  have hlimit : maxRomance.val = 10 := rfl
  rw [deepenRomance, Ranged.min_plus_val, hlimit, nearest]
  omega

theorem romance_after (recruited : p.companions.get? name = some c) (k : Nat) :
    ∃ d, (Effect.applyAll p (List.replicate (k + 1) (.advanceRomance name))).companions.get? name =
      some d ∧ d.romance.val = min (c.romance.val + (k + 1)) 10 := by
  induction k generalizing p c with
  | zero => exact ⟨_, Companions.get?_modify_self recruited _, deepenRomance_val c⟩
  | succ k ih =>
    have hnext : ((Effect.advanceRomance name).apply p).companions.get? name =
        some c.deepenRomance := Companions.get?_modify_self recruited _
    obtain ⟨d, hd, hromance⟩ := ih hnext
    refine ⟨d, hd, hromance.trans ?_⟩
    rw [deepenRomance_val]
    omega

/-- **Bonds after a change.** Whatever loyalty and trust were and whatever the amount is, they are
within their limits after it. Romance that is deepened for some times goes up as often, and no
further than ten; it is within its limits then if and only if it was not too far below zero
before. -/
theorem bonds_after (recruited : p.companions.get? name = some c) :
    (∀ amount, ∃ d, ((Effect.modifyLoyalty name amount).apply p).companions.get? name = some d ∧
      0 ≤ d.loyalty.val ∧ d.loyalty.val ≤ 100) ∧
    (∀ amount, ∃ d, ((Effect.modifyTrust name amount).apply p).companions.get? name = some d ∧
      0 ≤ d.trust.val ∧ d.trust.val ≤ 100) ∧
    ∀ k : Nat, ∃ d, (Effect.applyAll p
        (List.replicate (k + 1) (.advanceRomance name))).companions.get? name = some d ∧
      d.romance.val = min (c.romance.val + (k + 1)) 10 ∧
      (0 ≤ d.romance.val ∧ d.romance.val ≤ 10 ↔ -(k + 1) ≤ c.romance.val) := by
  have hbond : (0 : Amount).val ≤ maxBond.val := by decide
  refine ⟨fun amount => ⟨_, Companions.get?_modify_self recruited _, ?_⟩,
    fun amount => ⟨_, Companions.get?_modify_self recruited _, ?_⟩, fun k => ?_⟩
  · exact Ranged.between_mem hbond _
  · exact Ranged.between_mem hbond _
  · obtain ⟨d, hd, hromance⟩ := romance_after recruited k
    exact ⟨d, hd, hromance, by omega⟩

/-- Someone whose bonds are far out of their limits. -/
def stray : Companion :=
  { loyalty := Ranged.clamp (-700), trust := 4000, romance := Ranged.clamp (-5) }

def strayProfile : Profile := { companions := { roster := Table.set {} "Lyra" stray } }

theorem bonds_after_stray :
    let q := Effect.applyAll strayProfile (List.replicate 5 (.advanceRomance "Lyra"))
    strayProfile.companions.get? "Lyra" = some stray ∧
      (∃ d, ((Effect.modifyLoyalty "Lyra" 20).apply strayProfile).companions.get? "Lyra" = some d ∧
        0 ≤ d.loyalty.val ∧ d.loyalty.val ≤ 100) ∧
      (∃ d, ((Effect.modifyTrust "Lyra" 20).apply strayProfile).companions.get? "Lyra" = some d ∧
        0 ≤ d.trust.val ∧ d.trust.val ≤ 100) ∧
      ∃ d, q.companions.get? "Lyra" = some d ∧ d.romance.val = 0 ∧
        (0 ≤ d.romance.val ∧ d.romance.val ≤ 10) := by
  intro q
  have recruited : strayProfile.companions.get? "Lyra" = some stray := by decide
  obtain ⟨loyalty, trust, romance⟩ := bonds_after recruited
  obtain ⟨d, hd, hromance, hrange⟩ := romance 4
  exact ⟨recruited, loyalty 20, trust 20, d, hd, hromance, hrange.2 (by decide)⟩

/-- Romance far below zero, as a profile may well have it, is still below zero when it has been
deepened. -/
theorem romance_after_stray :
    ∃ text p c d, Profile.ofText text = .ok p ∧ p.companions.get? "Lyra" = some c ∧
      c.romance.val = -5 ∧
      ((Effect.advanceRomance "Lyra").apply p).companions.get? "Lyra" = some d ∧
      d.romance.val = -4 :=
  ⟨strayProfile.toText, strayProfile, stray, stray.deepenRomance, Profile.ofText_toText _,
    by decide, by decide, by decide, by decide⟩

end Companion

end Dialogue
