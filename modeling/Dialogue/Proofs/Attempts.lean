import Dialogue.Content.Effect
import Dialogue.Proofs.Sorted

/-!
# Evaluations that may fail

Some steps of arithmetic have no result for some operands: a value has no place between bounds that
are crossed, and quotients may be missing. Evaluations that take care of this never fail and agree
with the plain ones (`Effect.attempt_eq`).
-/

namespace Dialogue

namespace Ranged
variable {lo hi : Int}

/-- The value between `low` and `high` nearest to `a`, unless these are crossed. -/
def between? (a low high : Ranged lo hi) : Option (Ranged lo hi) :=
  if low ≤ high then some (a.between low high) else none

/-- The quotient by `n`, rounded toward zero, if there is one in range. -/
def quotient? (a : Ranged lo hi) (n : Int) : Option (Ranged lo hi) :=
  if n = 0 then none else ofInt? (a.val.tdiv n)

theorem between?_eq {low high : Ranged lo hi} (h : low ≤ high) (a : Ranged lo hi) :
    a.between? low high = some (a.between low high) := if_pos h

/-- What is in range is not moved. -/
theorem ofInt?_eq_clamp [Bounds lo hi] {n : Int} (h : lo ≤ n ∧ n ≤ hi) :
    (ofInt? n : Option (Ranged lo hi)) = some (clamp n) := by
  rw [ofInt?, dif_pos h]
  refine congrArg some (ext ?_)
  show n = max lo (min n hi)
  omega

end Ranged

/-! ## Effects -/

def Player.attemptHp (p : Player) (amount : Amount) : Option Player := do
  let hp ← (p.hp.plus amount.val).between? 0 (max p.maxHp 0)
  return { p with hp }

namespace Companion

def attemptLoyalty (c : Companion) (amount : Amount) (reason : String) : Option Companion := do
  let loyalty ← (c.loyalty.plus amount.val).between? 0 maxBond
  return { c with loyalty, history := c.history ++ [reason] }

def attemptTrust (c : Companion) (amount : Amount) : Option Companion := do
  let trust ← (c.trust.plus amount.val).between? 0 maxBond
  return { c with trust }

end Companion

/-- Changes a companion, if recruited, by a change that may fail. -/
def Companions.attempt (c : Companions) (name : String) (f : Companion → Option Companion) :
    Option Companions :=
  match c.get? name with
  | none => some c
  | some x => (f x).map fun y => { roster := c.roster.set name y }

namespace Effect

/-- The profile after the effect, with care for bounds that may be crossed. The effects that are not
listed only add, subtract and compare; what their sums are is said by `Counter.value?_of_mem` and
`Companion.deepenRomance_val`. -/
def attempt (p : Profile) : Effect → Option Profile
  | .heal amount => do return { p with player := ← p.player.attemptHp amount }
  | .damage amount => do return { p with player := ← p.player.attemptHp amount.opposite }
  | .modifyLoyalty companion amount => do
    let companions ← p.companions.attempt companion (·.attemptLoyalty amount "dialogue choice")
    return { p with companions }
  | .modifyTrust companion amount => do
    let companions ← p.companions.attempt companion (·.attemptTrust amount)
    return { p with companions }
  | e => some (e.apply p)

def attemptAll (p : Profile) (effects : List Effect) : Option Profile := effects.foldlM attempt p

end Effect

theorem Player.attemptHp_eq (p : Player) (amount : Amount) :
    p.attemptHp amount = some (p.adjustHp amount) := by
  have hbounds : (0 : Amount) ≤ max p.maxHp 0 := by
    show (0 : Amount).val ≤ (max p.maxHp 0).val
    rw [Ranged.max_val]
    exact Int.le_max_right ..
  rw [attemptHp, Ranged.between?_eq hbounds]
  rfl

/-- A change that never fails is made as if it could not. -/
theorem Companions.attempt_eq {f : Companion → Option Companion} {g : Companion → Companion}
    (h : ∀ x, f x = some (g x)) (c : Companions) (name : String) :
    c.attempt name f = some (c.modify name g) := by
  cases c with
  | mk roster =>
  have hmodify (k : String) : (roster.modify name g).get? k =
      (roster.get? k).map fun x => if k == name then g x else x := Table.get?_modify ..
  cases hget : roster.get? name with
  | none =>
    have heq : roster = roster.modify name g := Table.ext_get? fun k => by
      by_cases hk : k = name <;> simp [hmodify, hk, hget]
    simp only [attempt, get?, hget, modify, ← heq]
  | some x =>
    have heq : roster.set name (g x) = roster.modify name g := Table.ext_get? fun k => by
      rw [hmodify, Table.get?_set]
      by_cases hk : name = k
      · simp [← hk, hget]
      · simp [hk, Ne.symm hk]
    simp only [attempt, get?, hget, h, Option.map_some, modify, heq]

theorem Effect.attempt_eq (p : Profile) (e : Effect) : e.attempt p = some (e.apply p) := by
  have hbond (a : Amount) : a.between? 0 Companion.maxBond = some (a.between 0 Companion.maxBond) :=
    Ranged.between?_eq (by decide) a
  cases e with
  | heal amount | damage amount =>
    simp only [attempt, Player.attemptHp_eq]
    rfl
  | modifyLoyalty companion amount =>
    have hloyalty (x : Companion) : x.attemptLoyalty amount "dialogue choice" =
        some (x.adjustLoyalty amount "dialogue choice") := by
      rw [Companion.attemptLoyalty, hbond]
      rfl
    simp only [attempt, Companions.attempt_eq hloyalty]
    rfl
  | modifyTrust companion amount =>
    have htrust (x : Companion) : x.attemptTrust amount = some (x.adjustTrust amount) := by
      rw [Companion.attemptTrust, hbond]
      rfl
    simp only [attempt, Companions.attempt_eq htrust]
    rfl
  | _ => rfl

theorem Effect.attemptAll_eq (p : Profile) (effects : List Effect) :
    attemptAll p effects = some (applyAll p effects) := by
  induction effects generalizing p with
  | nil => rfl
  | cons e effects ih =>
    rw [attemptAll, List.foldlM_cons, attempt_eq]
    exact ih (e.apply p)

/-! ## Levels and percentages -/

def Awakening.attemptLevel (a : Awakening) : Option Amount := do
  let full ← a.points.quotient? pointsPerLevel
  full.between? 0 maxLevel

def Memory.attemptPercent (m : Memory) : Option Amount :=
  if m.total.val = 0 then some 100
  else do
    let hundredfold : Size := Ranged.clamp (m.recovered.size * 100)
    let percent ← hundredfold.quotient? m.total.val
    Ranged.ofInt? (min percent.val 100)

def Stranger.attemptOpenness (s : Stranger) : Option Amount :=
  s.receptivity.between? (Ranged.clamp (-100)) 100

theorem Awakening.attemptLevel_eq (a : Awakening) : a.attemptLevel = some a.level := by
  have hlo := a.points.lo_le
  have hhi := a.points.le_hi
  have hrange : -9223372036854775808 ≤ a.points.val.tdiv pointsPerLevel ∧
      a.points.val.tdiv pointsPerLevel ≤ 9223372036854775807 := by
    have hsign : Int.sign 10 = 1 := rfl
    rw [pointsPerLevel, Int.tdiv_eq_ediv, hsign]
    split <;> omega
  have hquotient : a.points.quotient? pointsPerLevel =
      some (Ranged.clamp (a.points.val.tdiv pointsPerLevel)) := by
    rw [Ranged.quotient?, if_neg (by decide), Ranged.ofInt?_eq_clamp hrange]
  have hbounds : (0 : Amount) ≤ maxLevel := by decide
  simp only [attemptLevel, hquotient]
  exact Ranged.between?_eq hbounds _

theorem Memory.attemptPercent_eq (m : Memory) : m.attemptPercent = some m.recoveryPercent := by
  rw [attemptPercent, recoveryPercent]
  split
  · rfl
  · next hne =>
    generalize (Ranged.clamp (m.recovered.size * 100) : Size) = hundredfold
    have htotal := m.total.lo_le
    have hlo := Int.ediv_nonneg hundredfold.lo_le htotal
    have hhi : hundredfold.val / m.total.val ≤ 18446744073709551615 :=
      Int.le_trans (Int.ediv_le_self _ hundredfold.lo_le) hundredfold.le_hi
    have hquotient : hundredfold.quotient? m.total.val =
        some ⟨hundredfold.val / m.total.val, hlo, hhi⟩ := by
      rw [Ranged.quotient?, if_neg hne, Int.tdiv_eq_ediv_of_nonneg hundredfold.lo_le,
        Ranged.ofInt?, dif_pos ⟨hlo, hhi⟩]
    have hpercent : (-9223372036854775808 : Int) ≤ min (hundredfold.val / m.total.val) 100 ∧
        min (hundredfold.val / m.total.val) 100 ≤ 9223372036854775807 := by omega
    simp only [hquotient]
    exact Ranged.ofInt?_eq_clamp hpercent

theorem Stranger.attemptOpenness_eq (s : Stranger) : s.attemptOpenness = some s.openness :=
  Ranged.between?_eq (by decide) _

end Dialogue
