import Dialogue.Proofs.Limits
import Mathlib.Data.Finset.Card

/-!
# Recovered memories

How far the recovery of memories has come depends on how many are recovered
(`Memory.recoveryPercent_congr`), where each counts once, however often it is revealed
(`Memory.size_revealAll`). Where the hundredfold of what there is to recover is a size, the
percentage is a hundred if and only if the truth is revealed
(`Memory.recoveryPercent_eq_hundred_iff`).
-/

namespace Dialogue

namespace Memory
variable {m m' : Memory}

/-! ## Memories revealed in turn -/

/-- The memory when each of the names has been revealed in turn. -/
def revealAll (m : Memory) (names : List String) : Memory := names.foldl reveal m

/-- All names that are recovered then. -/
def known (m : Memory) (names : List String) : Finset String :=
  (m.recovered.keys ++ names).toFinset

theorem revealAll_eq (m : Memory) (names : List String) :
    m.revealAll names = { m with recovered := names.foldl Sorted.insert m.recovered } := by
  induction names generalizing m with
  | nil => rfl
  | cons name names ih => exact ih (m.reveal name)

theorem revealAll_append (m : Memory) (names more : List String) :
    m.revealAll (names ++ more) = (m.revealAll names).revealAll more := List.foldl_append

theorem onward_reveal (m : Memory) (name : String) : m.Onward (m.reveal name) :=
  { Onward.refl m with recovered := Sorted.keys_subset_insert .. }

theorem onward_revealAll (m : Memory) (names : List String) : m.Onward (m.revealAll names) := by
  induction names generalizing m with
  | nil => exact .refl m
  | cons name names ih => exact (m.onward_reveal name).trans (ih (m.reveal name))

theorem keys_revealAll (m : Memory) (names : List String) :
    (m.revealAll names).recovered.keys.toFinset = m.known names := by
  ext name
  rw [known, List.mem_toFinset, List.mem_toFinset, List.mem_append, revealAll_eq,
    Sorted.mem_keys_foldl_insert, List.map_id]

/-- Memories count once, however often they are revealed. -/
theorem size_revealAll (m : Memory) (names : List String) :
    (m.revealAll names).recovered.size = (m.known names).card := by
  have hnodup : (m.revealAll names).recovered.keys.Nodup := Sorted.nodup_keys _
  rw [← keys_revealAll, List.toFinset_card_of_nodup hnodup, Sorted.keys, List.length_map,
    Sorted.size]

/-! ## Percentage and truth -/

/-- Which memories are recovered does not count, but only how many. -/
theorem recoveryPercent_congr (total : m'.total = m.total)
    (size : m'.recovered.size = m.recovered.size) : m'.recoveryPercent = m.recoveryPercent := by
  rw [recoveryPercent, recoveryPercent, total, size]

theorem recoveryPercent_val (h : m.total.val ≠ 0) :
    m.recoveryPercent.val =
      min (min ((m.recovered.size : Int) * 100) 18446744073709551615 / m.total.val) 100 := by
  have hundredfold : (Ranged.clamp (m.recovered.size * 100) : Size).val =
      min ((m.recovered.size : Int) * 100) 18446744073709551615 := by
    rw [Ranged.clamp_val]
    omega
  have hquotient : 0 ≤ min ((m.recovered.size : Int) * 100) 18446744073709551615 / m.total.val :=
    Int.ediv_nonneg (by omega) m.total.lo_le
  rw [recoveryPercent, if_neg h]
  dsimp only
  rw [hundredfold, Ranged.clamp_val]
  omega

/-- The percentage is a hundred if and only if everything is recovered and the hundredfold of
everything is a size. -/
theorem recoveryPercent_eq_hundred_iff : m.recoveryPercent.val = 100 ↔
    m.truthRevealed = true ∧ m.total.val * 100 ≤ 18446744073709551615 := by
  rw [truthRevealed, decide_eq_true_eq]
  have htotal := m.total.lo_le
  by_cases hzero : m.total.val = 0
  · have hpercent : m.recoveryPercent.val = 100 := by
      rw [recoveryPercent, if_pos hzero]
      rfl
    omega
  · have hquotient : 100 ≤ min ((m.recovered.size : Int) * 100) 18446744073709551615 / m.total.val ↔
        100 * m.total.val ≤ min ((m.recovered.size : Int) * 100) 18446744073709551615 :=
      Int.le_ediv_iff_mul_le (by omega)
    rw [recoveryPercent_val hzero]
    omega

theorem recoveryPercent_eq_hundred_iff_of_few (few : m.recovered.size < 144115188075855872) :
    m.recoveryPercent.val = 100 ↔ m.truthRevealed = true := by
  rw [recoveryPercent_eq_hundred_iff, and_iff_left_iff_imp, truthRevealed, decide_eq_true_eq]
  intro truth
  omega

theorem lt_recoveryPercent_iff : 99 < m.recoveryPercent ↔ m.recoveryPercent.val = 100 := by
  have hmem := m.recoveryPercent_mem
  show (99 : Int) < m.recoveryPercent.val ↔ _
  omega

/-- **The recovery of memories is coherent.** Whatever names are revealed in turn, the percentage is
between zero and a hundred, never goes down, and depends on nothing but the total and which names
are recovered. It is a hundred if and only if the truth is revealed and the hundredfold of the total
is a size. Fewer than 2 ^ 57 recovered memories cannot reach a larger total, so that with them the
tests of percentage and truth agree. -/
theorem recovery_coherent (m : Memory) (names : List String) :
    (0 ≤ (m.revealAll names).recoveryPercent.val ∧
      (m.revealAll names).recoveryPercent.val ≤ 100) ∧
    (∀ more, (m.revealAll names).recoveryPercent ≤ (m.revealAll (names ++ more)).recoveryPercent) ∧
    (∀ (m' : Memory) names', m'.total = m.total → m'.known names' = m.known names →
      (m'.revealAll names').recoveryPercent = (m.revealAll names).recoveryPercent) ∧
    ((m.revealAll names).recoveryPercent.val = 100 ↔
      (m.revealAll names).truthRevealed = true ∧ m.total.val * 100 ≤ 18446744073709551615) ∧
    ((m.revealAll names).recovered.size < 144115188075855872 →
      ((m.revealAll names).recoveryPercent.val = 100 ↔ (m.revealAll names).truthRevealed = true) ∧
      ∀ p : Profile, p.memory = m.revealAll names →
        (Test.memoryAbove 99).passes p = Test.truthRevealed.passes p) := by
  refine ⟨recoveryPercent_mem _, fun more => ?_, fun m' names' total known => ?_, ?_,
    fun few => ⟨recoveryPercent_eq_hundred_iff_of_few few, fun p hp => ?_⟩⟩
  · rw [revealAll_append]
    exact (onward_revealAll _ more).recoveryPercent
  · have hsize : (m'.revealAll names').recovered.size = (m.revealAll names).recovered.size := by
      rw [size_revealAll, size_revealAll, known]
    have htotal : (m'.revealAll names').total = (m.revealAll names).total :=
      (m'.onward_revealAll names').total.trans (total.trans (m.onward_revealAll names).total.symm)
    exact recoveryPercent_congr htotal hsize
  · rw [recoveryPercent_eq_hundred_iff, (m.onward_revealAll names).total]
  · rw [Test.passes, Test.passes, hp, Bool.eq_iff_iff, decide_eq_true_eq, lt_recoveryPercent_iff]
    exact recoveryPercent_eq_hundred_iff_of_few few

/-- Three memories, one of which is revealed twice. -/
theorem recovery_coherent_veteran :
    let m : Memory := { total := 3 }
    let p : Profile := { memory := m.revealAll ["war", "oath", "war", "fall"] }
    (m.revealAll ["war", "oath", "war"]).recoveryPercent ≤ p.memory.recoveryPercent ∧
      m.known ["oath", "war"] = m.known ["war", "oath", "war"] ∧
      (m.revealAll ["oath", "war"]).recoveryPercent =
        (m.revealAll ["war", "oath", "war"]).recoveryPercent ∧
      (m.revealAll ["oath", "war"]).recoveryPercent = 66 ∧
      p.memory.recovered.size < 144115188075855872 ∧ p.memory.truthRevealed = true ∧
      p.memory.recoveryPercent.val = 100 ∧ (Test.memoryAbove 99).passes p = true := by
  intro m p
  have hknown : m.known ["oath", "war"] = m.known ["war", "oath", "war"] := by decide
  have few : p.memory.recovered.size < 144115188075855872 := by decide
  have truth : p.memory.truthRevealed = true := by decide
  obtain ⟨-, rises, depends, -, -⟩ := recovery_coherent m ["war", "oath", "war"]
  obtain ⟨-, -, -, -, agrees⟩ := recovery_coherent m ["war", "oath", "war", "fall"]
  obtain ⟨whole, tests⟩ := agrees few
  exact ⟨rises ["fall"], hknown, depends m _ rfl hknown, by decide, few, truth, whole.2 truth,
    (tests p rfl).trans truth⟩

end Memory

end Dialogue
