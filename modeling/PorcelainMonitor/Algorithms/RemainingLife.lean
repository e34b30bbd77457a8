import PorcelainMonitor.Algorithms.RiskLevel

/-!
# The remaining life of a crack

`estimate_remaining_life` lets a crack grow hour by hour and counts the hours.
Its loop is left when the crack is critical, at the cap of 1e8 s, or after an hour
of negligible growth, and the caller is not told which.  So a crack that hardly
grows is given the hours up to then.

* `estimateRemainingLife_hours`: the loop is left after the first number of hours
  that meets one of the three conditions, and that number is returned.
* `estimateRemainingLife_sound_iff`: the estimate is right exactly if no hour
  before the cap has a negligible growth that leaves the crack below its critical
  length.
-/

namespace PorcelainMonitor.Algorithms

variable {R : Type} [Field R] [LinearOrder R]

/-! ## The hours -/

section Hours

variable (math : CMath R) (params : ParisLawParameters R) (a0 criticalLength : R)

/-- The length after so many hours. -/
def hourlyLength (k : Nat) : R := (fun a => a + rungeKuttaStep math params a 3600)^[k] a0

/-- What the crack grows by in the hour after that. -/
def hourlyGrowth (k : Nat) : R := rungeKuttaStep math params (hourlyLength math params a0 k) 3600

/-- The loop is left after so many hours. -/
def LifeEnds (k : Nat) : Prop :=
  criticalLength ≤ hourlyLength math params a0 k ∨ (10 : R) ^ 8 ≤ k * 3600 ∨
    ∃ j, k = j + 1 ∧ hourlyGrowth math params a0 j < 1 / 10 ^ 15

variable {math params a0 criticalLength}

theorem hourlyLength_succ (k : Nat) : hourlyLength math params a0 (k + 1) =
    hourlyLength math params a0 k + hourlyGrowth math params a0 k :=
  Function.iterate_succ_apply' _ _ _

/-- From the top of a pass on, the loop returns the first hour at which it is left,
if the fuel lasts. -/
theorem remainingLifeLoop_hours (fuel i : Nat)
    (hgrew : ∀ j, i = j + 1 → ¬ hourlyGrowth math params a0 j < 1 / 10 ^ 15) :
    ∃ k, i ≤ k ∧ k ≤ i + fuel ∧
      remainingLifeLoop math params criticalLength fuel (hourlyLength math params a0 i)
        (i * 3600) = k * 3600 ∧
      (∀ j, i ≤ j → j < k → ¬ LifeEnds math params a0 criticalLength j) ∧
      (k = i + fuel ∨ LifeEnds math params a0 criticalLength k) := by
  induction fuel generalizing i with
  | zero => exact ⟨i, le_rfl, le_rfl, rfl, fun j hij hj => by omega, .inl rfl⟩
  | succ fuel ih =>
      rw [remainingLifeLoop]
      by_cases hgo : hourlyLength math params a0 i < criticalLength ∧ (i : R) * 3600 < 10 ^ 8
      · have hstays : ¬ LifeEnds math params a0 criticalLength i := by
          rintro (hlong | hcap | ⟨j, hj, hsmall⟩)
          · exact absurd hgo.1 (not_lt.mpr hlong)
          · exact absurd hgo.2 (not_lt.mpr hcap)
          · exact hgrew j hj hsmall
        have hnext : (i : R) * 3600 + 3600 = ((i + 1 : Nat) : R) * 3600 := by
          push_cast
          ring
        rw [if_pos hgo, hnext]
        by_cases hsmall : hourlyGrowth math params a0 i < 1 / 10 ^ 15
        · refine ⟨i + 1, by omega, by omega, if_pos hsmall, fun j hij hj => ?_,
            .inr (.inr (.inr ⟨i, rfl, hsmall⟩))⟩
          have hji : j = i := by omega
          rwa [hji]
        · obtain ⟨k, hik, hk, hloop, hbefore, hleft⟩ := ih (i + 1) (by
            rintro j hj
            cases hj
            exact hsmall)
          rw [hourlyLength_succ] at hloop
          refine ⟨k, by omega, by omega, (if_neg hsmall).trans hloop, fun j hij hj => ?_, ?_⟩
          · rcases Nat.eq_or_lt_of_le hij with rfl | hlt
            · exact hstays
            · exact hbefore j hlt hj
          · rwa [← Nat.add_assoc, Nat.add_right_comm]
      · rw [if_neg hgo]
        refine ⟨i, le_rfl, by omega, rfl, fun j hij hj => by omega, .inr ?_⟩
        rcases not_and_or.mp hgo with hlong | hcap
        · exact .inl (not_lt.mp hlong)
        · exact .inr (.inl (not_lt.mp hcap))

variable [IsStrictOrderedRing R]

/-- The loop always ends, at the cap if not before. -/
theorem estimateRemainingLife_hours (math : CMath R) (params : ParisLawParameters R)
    (a0 criticalLength : R) :
    ∃ k ≤ 27778, estimateRemainingLife math params a0 criticalLength = (k : Nat) ∧
      LifeEnds math params a0 criticalLength k ∧
      ∀ j < k, ¬ LifeEnds math params a0 criticalLength j := by
  rw [estimateRemainingLife]
  split_ifs with hlong
  · exact ⟨0, by omega, by simp, .inl hlong, fun j hj => by omega⟩
  · obtain ⟨k, -, hk, hloop, hbefore, hleft⟩ :=
      @remainingLifeLoop_hours R _ _ math params a0 criticalLength 27778 0 (by simp)
    refine ⟨k, by omega, ?_, ?_, fun j hj => hbefore j (Nat.zero_le j) hj⟩
    · rw [Nat.cast_zero, zero_mul] at hloop
      change remainingLifeLoop math params criticalLength 27778 a0 0 = _ at hloop
      rw [hloop]
      field_simp
    · rcases hleft with rfl | hleft
      · refine .inr (.inl ?_)
        norm_num
      · exact hleft

/-- A crack that does not shrink. -/
theorem monotone_hourlyLength {math : CMath R} {params : ParisLawParameters R} (a0 : R)
    (hgrow : ∀ a, 0 ≤ growthPerSecond math params a) :
    Monotone (hourlyLength math params a0) := by
  refine monotone_nat_of_le_succ fun k => ?_
  rw [hourlyLength_succ]
  exact le_add_of_nonneg_right (mul_nonneg (hgrow _) (by norm_num))

end Hours

/-! ## Soundness -/

section Sound

variable (math : CMath R) (params : ParisLawParameters R) (a0 criticalLength : R)

/-- The estimate can be relied on. -/
structure SoundLife : Prop where
  /-- Below the cap, the crack has become critical in that time. -/
  reached : estimateRemainingLife math params a0 criticalLength < 10 ^ 8 / 3600 →
    ∃ k : Nat, (k : R) ≤ estimateRemainingLife math params a0 criticalLength ∧
      criticalLength ≤ hourlyLength math params a0 k
  /-- A crack that does not grow reaches the cap. -/
  still : (∀ a, growthPerSecond math params a = 0) → a0 < criticalLength →
    10 ^ 8 / 3600 ≤ estimateRemainingLife math params a0 criticalLength
  /-- A crack that is never shorter does not live longer. -/
  slower : ∀ (math' : CMath R) (params' : ParisLawParameters R),
    (∀ k, hourlyLength math params a0 k ≤ hourlyLength math' params' a0 k) →
    estimateRemainingLife math' params' a0 criticalLength ≤
      estimateRemainingLife math params a0 criticalLength

/-- In every hour before the cap that leaves it below the critical length, the
crack grows by more than is negligible. -/
def KeepsGrowing : Prop :=
  ∀ k < 27777, hourlyLength math params a0 (k + 1) < criticalLength →
    ¬ hourlyGrowth math params a0 k < 1 / 10 ^ 15

variable {math params a0 criticalLength} [IsStrictOrderedRing R]

/-- The hours below the cap. -/
theorem lt_cap_iff {k : Nat} : (k : R) < 10 ^ 8 / 3600 ↔ k ≤ 27777 := by
  calc (k : R) < 10 ^ 8 / 3600
      ↔ (k : R) * 3600 < 10 ^ 8 := lt_div_iff₀ (by norm_num)
    _ ↔ k * 3600 < 10 ^ 8 := by exact_mod_cast Iff.rfl
    _ ↔ k ≤ 27777 := by omega

omit [IsStrictOrderedRing R] in
/-- A crack that does not grow keeps its length. -/
theorem hourlyLength_of_still (h : ∀ a, growthPerSecond math params a = 0) (k : Nat) :
    hourlyLength math params a0 k = a0 := by
  induction k with
  | zero => rfl
  | succ k ih =>
      have hzero : hourlyGrowth math params a0 k = 0 := by
        rw [hourlyGrowth, rungeKuttaStep, ← growthPerSecond, h, zero_mul]
      rw [hourlyLength_succ, ih, hzero, add_zero]

/-- A crack that keeps growing leaves the loop at its critical length or at the
cap. -/
theorem KeepsGrowing.critical (h : KeepsGrowing math params a0 criticalLength) {k : Nat}
    (hk : k ≤ 27777) (hleft : LifeEnds math params a0 criticalLength k) :
    criticalLength ≤ hourlyLength math params a0 k := by
  rcases hleft with hlong | hcap | ⟨j, rfl, hsmall⟩
  · exact hlong
  · have hbelow := (lt_div_iff₀ (by norm_num)).mp (lt_cap_iff (R := R).mpr hk)
    exact absurd hbelow (not_lt.mpr hcap)
  · by_contra hshort
    exact h j (by omega) (not_le.mp hshort) hsmall

theorem KeepsGrowing.sound (h : KeepsGrowing math params a0 criticalLength) :
    SoundLife math params a0 criticalLength := by
  obtain ⟨k, hk, hlife, hleft, hbefore⟩ := estimateRemainingLife_hours math params a0 criticalLength
  have hreached : estimateRemainingLife math params a0 criticalLength < 10 ^ 8 / 3600 →
      criticalLength ≤ hourlyLength math params a0 k := by
    intro hcap
    rw [hlife, lt_cap_iff] at hcap
    exact h.critical hcap hleft
  constructor
  case reached => exact fun hcap => ⟨k, hlife.ge, hreached hcap⟩
  case still =>
    intro hstill hshort
    refine not_lt.mp fun hcap => ?_
    have hlong := hreached hcap
    rw [hourlyLength_of_still hstill] at hlong
    exact absurd hshort (not_lt.mpr hlong)
  case slower =>
    intro math' params' hle
    obtain ⟨k', hk', hlife', hleft', hbefore'⟩ :=
      estimateRemainingLife_hours math' params' a0 criticalLength
    rw [hlife, hlife', Nat.cast_le]
    by_contra hlonger
    have hkcap : k ≤ 27777 := by omega
    refine hbefore' k (by omega) (.inl ((h.critical hkcap hleft).trans (hle k)))

/-- An hour of negligible growth ends the loop, however short the crack is. -/
theorem SoundLife.keepsGrowing (hgrow : ∀ a, 0 ≤ growthPerSecond math params a)
    (h : SoundLife math params a0 criticalLength) : KeepsGrowing math params a0 criticalLength := by
  intro j hj hshort hsmall
  obtain ⟨k, -, hlife, -, hbefore⟩ := estimateRemainingLife_hours math params a0 criticalLength
  have hk : k ≤ j + 1 := by
    by_contra hlater
    exact hbefore (j + 1) (by omega) (.inr (.inr ⟨j, rfl, hsmall⟩))
  obtain ⟨i, hi, hlong⟩ := h.reached (by rw [hlife, lt_cap_iff]; omega)
  rw [hlife, Nat.cast_le] at hi
  have hle : hourlyLength math params a0 i ≤ hourlyLength math params a0 (j + 1) :=
    monotone_hourlyLength a0 hgrow (by omega)
  exact absurd (hlong.trans hle) (not_le.mpr hshort)

/-- The loop ends after the first number of hours at which it is left, and the
estimate is sound exactly if the crack keeps growing. -/
theorem estimateRemainingLife_sound_iff (hgrow : ∀ a, 0 ≤ growthPerSecond math params a)
    (a0 criticalLength : R) :
    (∃ k ≤ 27778, estimateRemainingLife math params a0 criticalLength = (k : Nat) ∧
      LifeEnds math params a0 criticalLength k ∧
      ∀ j < k, ¬ LifeEnds math params a0 criticalLength j) ∧
    (SoundLife math params a0 criticalLength ↔ KeepsGrowing math params a0 criticalLength) :=
  ⟨estimateRemainingLife_hours math params a0 criticalLength, SoundLife.keepsGrowing hgrow,
    KeepsGrowing.sound⟩

end Sound

/-! ## The default parameters -/

theorem estimateRemainingLife_sound_iff_default :
    (∃ k ≤ 27778, estimateRemainingLife cmath .default (1 / 10000) (1 / 2000) = (k : Nat) ∧
      LifeEnds cmath .default (1 / 10000) (1 / 2000) k ∧
      ∀ j < k, ¬ LifeEnds cmath .default (1 / 10000) (1 / 2000) j) ∧
    (SoundLife cmath .default (1 / 10000) (1 / 2000) ↔
      KeepsGrowing cmath .default (1 / 10000) (1 / 2000)) :=
  estimateRemainingLife_sound_iff growthPerSecond_default (1 / 10000) (1 / 2000)

/-- The residual stress of the default parameters is so compressive that no crack
grows. -/
theorem growthPerSecond_default_eq_zero (a : ℝ) : growthPerSecond cmath .default a = 0 := by
  have hsqrt : 0 ≤ Real.sqrt (Real.pi * a) := Real.sqrt_nonneg _
  have hmax : calculateEffectiveStress cmath .default (25 * 10 ^ 6) 0 = 11 * 10 ^ 6 := by
    simp only [calculateEffectiveStress, ParisLawParameters.default, cmath, Real.cos_zero,
      Real.sin_zero, if_true]
    norm_num
  have hmin : calculateEffectiveStress cmath .default (25 * 10 ^ 5) 0 = -(115 * 10 ^ 5) := by
    simp only [calculateEffectiveStress, ParisLawParameters.default, cmath, Real.cos_zero,
      Real.sin_zero, if_true]
    norm_num
  have hkMax : calculateStressIntensity cmath .default a (11 * 10 ^ 6) ≤ 0 := by
    have hfactor : (1 : ℝ) * (11 * 10 ^ 6 * (1 + (-35 * 10 ^ 6 * 1 + -20 * 10 ^ 6 * 1) /
        (2 * |11 * 10 ^ 6| + 1)) + 3 / 10 * (-35 * 10 ^ 6 * 1)) ≤ 0 := by norm_num
    exact mul_nonpos_of_nonpos_of_nonneg hfactor hsqrt
  have hkMin : 0 ≤ calculateStressIntensity cmath .default a (-(115 * 10 ^ 5)) := by
    have hfactor : (0 : ℝ) ≤ 1 * (-(115 * 10 ^ 5) * (1 + (-35 * 10 ^ 6 * 1 + -20 * 10 ^ 6 * 1) /
        (2 * |-(115 * 10 ^ 5)| + 1)) + 3 / 10 * (-35 * 10 ^ 6 * 1)) := by norm_num
    exact mul_nonneg hfactor hsqrt
  have hK : deltaK cmath .default a ≤ 0 := by
    have hmaxStress : (ParisLawParameters.default (R := ℝ)).maximumStress = 25 * 10 ^ 6 := rfl
    have hminStress : (ParisLawParameters.default (R := ℝ)).minimumStress = 25 * 10 ^ 5 := rfl
    rw [deltaK, hmaxStress, hminStress, hmax, hmin]
    exact sub_nonpos.mpr (hkMax.trans hkMin)
  rw [growthPerSecond, calculateCrackGrowthRate, if_pos hK, zero_mul]

/-- With the default parameters a crack that does not grow is given one hour. -/
theorem still_crack_is_given_an_hour :
    ¬ ∀ (params : ParisLawParameters ℝ) (a0 criticalLength : ℝ),
      (∀ a, 0 ≤ growthPerSecond cmath params a) → SoundLife cmath params a0 criticalLength := by
  intro h
  have hlife : estimateRemainingLife cmath .default (1 / 10000) (1 / 2000 : ℝ) = 1 := by
    have hgrowth : rungeKuttaStep cmath .default (1 / 10000 : ℝ) 3600 = 0 := by
      rw [rungeKuttaStep, ← growthPerSecond, growthPerSecond_default_eq_zero, zero_mul]
    rw [estimateRemainingLife, if_neg (by norm_num), remainingLifeLoop, if_pos (by norm_num)]
    simp only [hgrowth]
    norm_num
  have hcap := (h .default (1 / 10000) (1 / 2000) growthPerSecond_default).still
    growthPerSecond_default_eq_zero (by norm_num)
  rw [hlife] at hcap
  norm_num at hcap

end PorcelainMonitor.Algorithms
