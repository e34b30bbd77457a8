import Mathlib.Algebra.Order.Field.Basic
import Mathlib.Analysis.Real.Pi.Bounds
import Mathlib.Analysis.SpecialFunctions.Pow.Real
import Mathlib.Tactic.Positivity
import PorcelainMonitor.Algorithms.CrackPropagation
import PorcelainMonitor.Lib.Loop

/-!
# The risk level of a failing crack

`predict` sets `time_to_failure_hours` to the start of the step in which the
crack becomes critical, and `assess_risk_level` calls a time critical if it lies
strictly between 0 and 720 hours.  A crack that is critical before the
simulation starts, or after its first step, gets the time 0 and a lower level.
-/

namespace PorcelainMonitor.Algorithms

variable {R : Type} [Field R] [LinearOrder R]

/-- The growth per second at a crack length. -/
def growthPerSecond (math : CMath R) (params : ParisLawParameters R) (a : R) : R :=
  calculateCrackGrowthRate math params (deltaK math params a) * params.cyclicFrequency

/-! ## The loop -/

namespace Simulation

variable (sim : Simulation R)

/-- The simulated length after `i` steps. -/
def lengthAt (i : Nat) : R := (sim.next^[i] sim.start).a

/-- The time to failure that the loop leaves behind. -/
theorem loop_timeToFailureHours (criticalLength : R) :
    ∀ (n : Nat) (s : Sample R) (result : ParisLawResult R),
      (sim.loop criticalLength n s result).timeToFailureHours =
        match Loop.stopIndex sim.next (fun s => criticalLength ≤ s.a) n s with
        | some j => sim.tHours (s.i + j)
        | none => result.timeToFailureHours
  | 0, s, result => rfl
  | n + 1, s, result => by
      rw [loop, Loop.stopIndex]
      by_cases hs : criticalLength ≤ (sim.next s).a
      · rw [if_pos hs, if_pos hs]
        rfl
      · rw [if_neg hs, if_neg hs, loop_timeToFailureHours criticalLength n]
        cases Loop.stopIndex sim.next (fun s => criticalLength ≤ s.a) n (sim.next s) with
        | none => rfl
        | some j =>
            have hi : (sim.next s).i + j = s.i + (j + 1) := Nat.succ_add_eq_add_succ s.i j
            simp only [Option.map_some, hi]

/-- A critical length after some step makes the loop break in that step or in an
earlier one, whose start it leaves as the time to failure. -/
theorem loop_breaks {criticalLength : R} {n i : Nat} (hi : i < n)
    (hlong : criticalLength ≤ sim.lengthAt (i + 1)) (result : ParisLawResult R) :
    ∃ j ≤ i, criticalLength ≤ sim.lengthAt (j + 1) ∧
      (sim.loop criticalLength n sim.start result).timeToFailureHours = sim.tHours j := by
  obtain ⟨j, hj, hbreak⟩ := @Loop.stopIndex_le _ sim.next (fun s => criticalLength ≤ s.a) _ n i
    sim.start hi hlong
  refine ⟨j, hj, (Loop.stopIndex_eq_some.mp hbreak).2.1, ?_⟩
  have hstart : sim.start.i + j = j := Nat.zero_add j
  simp only [loop_timeToFailureHours, hbreak, hstart]

/-- The crack is critical at the start, or after a step that starts before 720
hours. -/
def FailsBefore720 (criticalLength : R) (n : Nat) : Prop :=
  criticalLength ≤ sim.lengthAt 0 ∨
    ∃ i < n, sim.tHours i < 720 ∧ criticalLength ≤ sim.lengthAt (i + 1)

variable [IsStrictOrderedRing R]

theorem growth_nonneg (hdt : 0 ≤ sim.dt) (hgrow : ∀ a, 0 ≤ growthPerSecond sim.math sim.params a)
    (a : R) : 0 ≤ sim.growth a := by
  have hstep : ∀ b, 0 ≤ rungeKuttaStep sim.math sim.params b sim.dt := by
    intro b
    exact mul_nonneg (hgrow b) hdt
  simp only [growth]
  have h1 := hstep a
  generalize rungeKuttaStep sim.math sim.params a sim.dt = k1 at h1 ⊢
  have h2 := hstep (a + 5 / 10 * k1 * sim.dt)
  generalize rungeKuttaStep sim.math sim.params (a + 5 / 10 * k1 * sim.dt) sim.dt = k2 at h2 ⊢
  have h3 := hstep (a + 5 / 10 * k2 * sim.dt)
  generalize rungeKuttaStep sim.math sim.params (a + 5 / 10 * k2 * sim.dt) sim.dt = k3 at h3 ⊢
  have h4 := hstep (a + k3 * sim.dt)
  generalize rungeKuttaStep sim.math sim.params (a + k3 * sim.dt) sim.dt = k4 at h4 ⊢
  positivity

theorem tHours_pos (hdt : 0 < sim.dt) (i : Nat) : 0 < sim.tHours (i + 1) := by
  rw [tHours]
  positivity

theorem tHours_le (hdt : 0 ≤ sim.dt) {i j : Nat} (hij : i ≤ j) : sim.tHours i ≤ sim.tHours j := by
  have hcast : (i : R) ≤ j := Nat.cast_le.mpr hij
  rw [tHours, tHours]
  gcongr

end Simulation

/-! ## The risk level -/

theorem assessRiskLevel_eq_critical (result : ParisLawResult R) :
    assessRiskLevel result = "CRITICAL" ↔
      0 < result.timeToFailureHours ∧ result.timeToFailureHours < 720 := by
  rw [assessRiskLevel]
  split
  · next h => simp [h]
  · next h =>
      simp only [h, iff_false]
      split_ifs <;> decide

omit [LinearOrder R] in
theorem pick720_timeToFailureHours (index : Int) (result : ParisLawResult R) :
    (pick720 index result).timeToFailureHours = result.timeToFailureHours := by
  rw [pick720]
  split_ifs <;> rfl

section Predict

variable (math : CMath R) (params : ParisLawParameters R) (crack : CrackInfo R)
  {timeHorizonHours timeSteps : Int}

/-- A failure time that the loop finds decides the risk level. -/
theorem predict_riskLevel (hH : timeHorizonHours ≠ 0) (hn : 0 ≤ timeSteps) :
    let sim := Simulation.of math params crack timeHorizonHours timeSteps
    let t := (sim.loop (criticalCrackLength math params) timeSteps.toNat sim.start
      (.start params)).timeToFailureHours
    ∃ result, predict math params crack timeHorizonHours timeSteps = .ok result ∧
      (0 ≤ t → (result.riskLevel = "CRITICAL" ↔ 0 < t ∧ t < 720)) := by
  intro sim t
  refine ⟨_, by rw [predict, if_neg hH, if_pos hn], fun ht => ?_⟩
  simp only [assessRiskLevel_eq_critical, pick720_timeToFailureHours]
  rw [if_neg (not_lt.mpr ht), pick720_timeToFailureHours]

variable [IsStrictOrderedRing R]

/-- A crack that is critical after the first step fails at time 0, which no level
calls critical. -/
theorem predict_first_step (hH : 1 ≤ timeHorizonHours) (hn : 1 ≤ timeSteps)
    (hone : criticalCrackLength math params ≤
      (Simulation.of math params crack timeHorizonHours timeSteps).lengthAt 1) :
    ∃ result, predict math params crack timeHorizonHours timeSteps = .ok result ∧
      result.riskLevel ≠ "CRITICAL" := by
  obtain ⟨result, hresult, hlevel⟩ := predict_riskLevel math params crack
    (show timeHorizonHours ≠ 0 by omega) (show 0 ≤ timeSteps by omega)
  refine ⟨result, hresult, fun hcritical => ?_⟩
  obtain ⟨j, hj, _, ht⟩ := Simulation.loop_breaks _ (show 0 < timeSteps.toNat by omega) hone
    (.start params)
  have hzero : (Simulation.of math params crack timeHorizonHours timeSteps).tHours 0 = 0 := by
    simp [Simulation.tHours]
  rw [ht, Nat.le_zero.mp hj, hzero] at hlevel
  exact lt_irrefl _ ((hlevel le_rfl).mp hcritical).1

/-- A crack that is critical before 720 hours is called critical exactly when it
is still below the critical length after the first step. -/
theorem predict_critical_iff (hH : 1 ≤ timeHorizonHours) (hn : 1 ≤ timeSteps)
    (hgrow : ∀ a, 0 ≤ growthPerSecond math params a) :
    let sim := Simulation.of math params crack timeHorizonHours timeSteps
    let criticalLength := criticalCrackLength math params
    ∃ result, predict math params crack timeHorizonHours timeSteps = .ok result ∧
      ((sim.FailsBefore720 criticalLength timeSteps.toNat → result.riskLevel = "CRITICAL") ↔
        sim.lengthAt 1 < criticalLength) := by
  intro sim criticalLength
  have hdt : 0 < sim.dt := by
    have hHpos : (0 : R) < timeHorizonHours := Int.cast_pos.mpr (by omega)
    have hnpos : (0 : R) < timeSteps := Int.cast_pos.mpr (by omega)
    exact div_pos (mul_pos hHpos (by norm_num)) hnpos
  obtain ⟨result, hresult, hlevel⟩ := predict_riskLevel math params crack
    (show timeHorizonHours ≠ 0 by omega) (show 0 ≤ timeSteps by omega)
  refine ⟨result, hresult, ?_⟩
  constructor
  · intro hcritical
    by_contra hnot
    have hone : criticalLength ≤ sim.lengthAt 1 := not_lt.mp hnot
    have hfails : sim.FailsBefore720 criticalLength timeSteps.toNat :=
      .inr ⟨0, by omega, by simp [Simulation.tHours], hone⟩
    obtain ⟨result', hresult', hnever⟩ := predict_first_step math params crack hH hn hone
    cases hresult.symm.trans hresult'
    exact hnever (hcritical hfails)
  · intro hone hfails
    have hstep : ∃ i < timeSteps.toNat, sim.tHours i < 720 ∧
        criticalLength ≤ sim.lengthAt (i + 1) := by
      rcases hfails with hstart | hstep
      · have hmono : sim.lengthAt 0 ≤ sim.lengthAt 1 :=
          le_add_of_nonneg_right (sim.growth_nonneg hdt.le hgrow _)
        exact absurd (lt_of_le_of_lt (hstart.trans hmono) hone) (lt_irrefl _)
      · exact hstep
    obtain ⟨i, hi, hbefore, hlong⟩ := hstep
    obtain ⟨j, hj, hlongj, ht⟩ := sim.loop_breaks hi hlong (.start params)
    cases j with
    | zero => exact absurd (lt_of_le_of_lt hlongj hone) (lt_irrefl _)
    | succ j =>
        rw [ht] at hlevel
        have hpos := sim.tHours_pos hdt j
        exact (hlevel hpos.le).mpr ⟨hpos, lt_of_le_of_lt (sim.tHours_le hdt.le hj) hbefore⟩

end Predict

/-! ## A crack that is critical from the start -/

/-- `<cmath>` on the real numbers. -/
noncomputable def cmath : CMath ℝ where
  pi := Real.pi
  sqrt := Real.sqrt
  pow := fun x y => x ^ y
  sin := Real.sin
  cos := Real.cos

/-- A crack without a measured length, which `predict` takes to be 1 mm long. -/
noncomputable def unmeasuredCrack : CrackInfo ℝ where
  id := 1
  porcelainId := 1
  crackCode := "CRK-1"
  maxDepth := 0
  maxWidth := 0
  totalLength := 0
  status := "ACTIVE"
  points := []
  detectedAt := 0

/-- The default parameters let no crack shrink. -/
theorem growthPerSecond_default (a : ℝ) : 0 ≤ growthPerSecond cmath .default a := by
  rw [growthPerSecond, calculateCrackGrowthRate]
  split_ifs with h
  · simp
  · have hK : 0 ≤ deltaK cmath .default a := (not_le.mp h).le
    have hpow : 0 ≤ cmath.pow (deltaK cmath .default a) (ParisLawParameters.default (R := ℝ)).m :=
      Real.rpow_nonneg hK _
    simp only [ParisLawParameters.default] at hpow ⊢
    positivity

/-- The critical length of the default parameters is about half a millimetre. -/
theorem criticalCrackLength_default : criticalCrackLength cmath .default ≤ 1 / 1000 := by
  have hpow : cmath.pow ((ParisLawParameters.default (R := ℝ)).fractureToughness /
      ((ParisLawParameters.default (R := ℝ)).geometricFactorY *
        (ParisLawParameters.default (R := ℝ)).maximumStress)) 2 = 16 / 10000 := by
    simp only [cmath, ParisLawParameters.default, Real.rpow_two]
    norm_num
  have hpi : 3 < cmath.pi := Real.pi_gt_three
  rw [criticalCrackLength, hpow, div_le_iff₀ (by linarith)]
  linarith

/-- The equivalence at the crack that is critical from the start. -/
theorem predict_critical_iff_unmeasured :
    let sim := Simulation.of cmath .default unmeasuredCrack 720 100
    let criticalLength := criticalCrackLength cmath .default
    ∃ result, predict cmath .default unmeasuredCrack 720 100 = .ok result ∧
      ((sim.FailsBefore720 criticalLength (100 : Int).toNat → result.riskLevel = "CRITICAL") ↔
        sim.lengthAt 1 < criticalLength) :=
  predict_critical_iff cmath .default unmeasuredCrack (by decide) (by decide)
    growthPerSecond_default

/-- The crack is critical at time 0, and its risk level is another. -/
theorem predict_misses_critical_crack :
    ¬ ∀ (params : ParisLawParameters ℝ) (crack : CrackInfo ℝ) (timeHorizonHours timeSteps : Int),
      1 ≤ timeHorizonHours → 1 ≤ timeSteps → (∀ a, 0 ≤ growthPerSecond cmath params a) →
      ∀ result, predict cmath params crack timeHorizonHours timeSteps = .ok result →
        (Simulation.of cmath params crack timeHorizonHours timeSteps).FailsBefore720
          (criticalCrackLength cmath params) timeSteps.toNat →
        result.riskLevel = "CRITICAL" := by
  intro h
  let sim := Simulation.of cmath .default unmeasuredCrack 720 100
  have hstart : criticalCrackLength cmath .default ≤ sim.lengthAt 0 := by
    refine criticalCrackLength_default.trans (le_of_eq ?_)
    simp [sim, Simulation.lengthAt, Simulation.start, Simulation.of, unmeasuredCrack]
  have hdt : 0 ≤ sim.dt := by
    simp only [sim, Simulation.of]
    norm_num
  have hone : criticalCrackLength cmath .default ≤ sim.lengthAt 1 :=
    hstart.trans (le_add_of_nonneg_right (sim.growth_nonneg hdt growthPerSecond_default _))
  obtain ⟨result, hresult, hnever⟩ := predict_first_step cmath .default unmeasuredCrack
    (by decide) (by decide) hone
  exact hnever (h .default unmeasuredCrack 720 100 (by decide) (by decide)
    growthPerSecond_default result hresult (.inl hstart))

end PorcelainMonitor.Algorithms
