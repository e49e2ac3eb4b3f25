/-!
# Integers within bounds

Integers kept within fixed bounds. Counters of a game never wrap and never fail: every operation
computes the exact integer and then moves it to the nearest value in range, which `clamp_val` says
in terms of the bounds.
-/

namespace Dialogue

/-- An integer between `lo` and `hi`, both included. -/
structure Ranged (lo hi : Int) where
  val : Int
  lo_le : lo ≤ val
  le_hi : val ≤ hi
  deriving DecidableEq

/-- The bounds leave room for a value. -/
class Bounds (lo hi : Int) : Prop where
  le : lo ≤ hi

namespace Ranged
variable {lo hi : Int}

/-- The value in range nearest to `n`. -/
def clamp [b : Bounds lo hi] (n : Int) : Ranged lo hi where
  val := max lo (min n hi)
  lo_le := Int.le_max_left ..
  le_hi := Int.max_le.2 ⟨b.le, Int.min_le_right ..⟩

/-- The integer itself, if it is in range. -/
def ofInt? (n : Int) : Option (Ranged lo hi) :=
  if h : lo ≤ n ∧ n ≤ hi then some ⟨n, h.1, h.2⟩ else none

theorem ext {a b : Ranged lo hi} (h : a.val = b.val) : a = b := by
  cases a; cases b; cases h; rfl

/-- The exact sum, moved into range. -/
def plus [Bounds lo hi] (a : Ranged lo hi) (n : Int) : Ranged lo hi := clamp (a.val + n)

/-- The exact difference, moved into range. -/
def minus [Bounds lo hi] (a : Ranged lo hi) (n : Int) : Ranged lo hi := clamp (a.val - n)

/-- The exact opposite, moved into range. -/
def opposite [Bounds lo hi] (a : Ranged lo hi) : Ranged lo hi := clamp (-a.val)

theorem clamp_val [Bounds lo hi] (n : Int) :
    (clamp n : Ranged lo hi).val = max lo (min n hi) := rfl

/-- No other value in range is nearer to `n`. -/
theorem clamp_nearest [Bounds lo hi] (n : Int) (a : Ranged lo hi) :
    ((clamp n : Ranged lo hi).val - n).natAbs ≤ (a.val - n).natAbs := by
  have := a.lo_le
  have := a.le_hi
  rw [clamp_val]
  omega

/-- A value already in range stays as it is. -/
theorem clamp_self [Bounds lo hi] (a : Ranged lo hi) : clamp a.val = a := by
  refine ext ?_
  have := a.lo_le; have := a.le_hi
  rw [clamp_val]; omega

theorem ofInt?_val (a : Ranged lo hi) : ofInt? a.val = some a := by
  simp [ofInt?, a.lo_le, a.le_hi]

instance : LE (Ranged lo hi) := ⟨fun a b => a.val ≤ b.val⟩
instance : LT (Ranged lo hi) := ⟨fun a b => a.val < b.val⟩
instance (a b : Ranged lo hi) : Decidable (a ≤ b) := inferInstanceAs (Decidable (a.val ≤ b.val))
instance (a b : Ranged lo hi) : Decidable (a < b) := inferInstanceAs (Decidable (a.val < b.val))
instance : Min (Ranged lo hi) := ⟨fun a b => if a ≤ b then a else b⟩
instance : Max (Ranged lo hi) := ⟨fun a b => if a ≤ b then b else a⟩

/-- The value between `low` and `high` nearest to `a`, for `low ≤ high`. -/
def between (a low high : Ranged lo hi) : Ranged lo hi := max low (min a high)

theorem min_val (a b : Ranged lo hi) : (min a b).val = min a.val b.val := by
  show (if a.val ≤ b.val then a else b).val = _
  split <;> omega

theorem max_val (a b : Ranged lo hi) : (max a b).val = max a.val b.val := by
  show (if a.val ≤ b.val then b else a).val = _
  split <;> omega

theorem between_val (a low high : Ranged lo hi) :
    (a.between low high).val = max low.val (min a.val high.val) := by
  rw [between, max_val, min_val]

theorem between_mem {low high : Ranged lo hi} (h : low ≤ high) (a : Ranged lo hi) :
    low.val ≤ (a.between low high).val ∧ (a.between low high).val ≤ high.val := by
  have h : low.val ≤ high.val := h
  rw [between_val]
  omega

instance : ToString (Ranged lo hi) := ⟨fun a => toString a.val⟩

end Ranged

/-- A signed quantity of 64 bits: gold, experience, alignment, thresholds. -/
abbrev Amount := Ranged (-9223372036854775808) 9223372036854775807

/-- An unsigned quantity of 32 bits: chapters, cycles, deeds. -/
abbrev Count := Ranged 0 4294967295

/-- An unsigned quantity of 64 bits: sizes and positions. -/
abbrev Size := Ranged 0 18446744073709551615

instance : Bounds (-9223372036854775808) 9223372036854775807 := ⟨by decide⟩
instance : Bounds 0 4294967295 := ⟨by decide⟩
instance : Bounds 0 18446744073709551615 := ⟨by decide⟩

instance (n : Nat) : OfNat Amount n := ⟨Ranged.clamp n⟩
instance (n : Nat) : OfNat Count n := ⟨Ranged.clamp n⟩
instance (n : Nat) : OfNat Size n := ⟨Ranged.clamp n⟩
instance : Inhabited Amount := ⟨0⟩
instance : Inhabited Count := ⟨0⟩
instance : Inhabited Size := ⟨0⟩

end Dialogue
