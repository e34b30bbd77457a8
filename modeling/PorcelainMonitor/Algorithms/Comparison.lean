import PorcelainMonitor.Algorithms.RungeKutta

/-!
# Two predictions compared

The range of the stress intensity is a factor times the root of the length, and
the factor does not depend on the length.  So Paris' law never slows down as a
crack gets longer, and a crack that starts no shorter in a material that grows
no slower stays ahead: in every step it has grown by no less (`lengthAt_le`), and
its simulation ends no later (`recorded_le_recorded`).
-/

namespace PorcelainMonitor.Algorithms

open RungeKutta (increment Dominated)

section Order

variable {R : Type} [Field R] [LinearOrder R]

/-! ## Simulations with steps of one length -/

namespace Simulation

variable {sim sim' : Simulation R}

/-- The loop that reaches the critical length first records no more. -/
theorem recorded_le_recorded {criticalLength : R} {n : Nat}
    (hle : ∀ i, sim.lengthAt i ≤ sim'.lengthAt i) :
    sim'.recorded criticalLength n sim'.start ≤ sim.recorded criticalLength n sim.start := by
  rcases sim.recorded_cases criticalLength n with ⟨hcount, _⟩ | ⟨j, hj, hcount, hlong, _⟩
  · rw [hcount]
    exact sim'.recorded_le criticalLength n
  · rw [hcount]
    by_contra hmore
    have hshort : sim'.lengthAt (j + 1) < criticalLength :=
      sim'.recorded_short criticalLength n (not_le.mp hmore)
    exact absurd (hlong.trans (hle (j + 1))) (not_le.mpr hshort)

variable [IsStrictOrderedRing R]

/-- The faster growth stays ahead. -/
theorem growth_le (hdt : sim'.dt = sim.dt) {a b : R} (hrate : Dominated sim.rate sim'.rate a)
    (hab : a ≤ b) : 0 ≤ sim.growth a ∧ sim.growth a ≤ sim'.growth b := by
  rw [growth_eq, growth_eq, hdt]
  exact hrate.increment_le hab (mul_self_nonneg sim.dt)

/-- In every step both have grown, and the one ahead by no less. -/
theorem lengthAt_le (hdt : sim'.dt = sim.dt) (hrate : Dominated sim.rate sim'.rate sim.a0)
    (ha0 : sim.a0 ≤ sim'.a0) (i : Nat) : sim.a0 ≤ sim.lengthAt i ∧
      sim.lengthAt i - sim.a0 ≤ sim'.lengthAt i - sim'.a0 := by
  induction i with
  | zero => simp [lengthAt, start]
  | succ i ih =>
      obtain ⟨hstart, hgrown⟩ := ih
      have hahead : sim.lengthAt i ≤ sim'.lengthAt i := by linarith
      obtain ⟨hgrow, hfaster⟩ := growth_le hdt (hrate.mono hstart) hahead
      rw [lengthAt_succ, lengthAt_succ]
      constructor
      · linarith
      · linarith

end Simulation

/-! ## Paris' law -/

section Law

variable (math : CMath R) (params : ParisLawParameters R)

/-- The stress of `calculateStressIntensity` after its correction. -/
def correctedStress (stress : R) : R :=
  if params.enableResidualStressCorrection then
    let residualParallel := params.residualStressParallel * params.residualStressCalibrationFactor
    let residualPerp := params.residualStressPerpendicular * params.residualStressCalibrationFactor
    stress * (1 + (residualParallel + residualPerp) / (2 * |stress| + 1)) +
      3 / 10 * residualParallel
  else stress

/-- What the range of the stress intensity is a multiple of. -/
def rangeFactor : R :=
  params.geometricFactorY *
    (correctedStress params (calculateEffectiveStress math params params.maximumStress 0) -
      correctedStress params (calculateEffectiveStress math params params.minimumStress 0))

theorem deltaK_eq (a : R) :
    deltaK math params a = rangeFactor math params * math.sqrt (math.pi * a) := by
  have hintensity : ∀ stress, calculateStressIntensity math params a stress =
      params.geometricFactorY * correctedStress params stress * math.sqrt (math.pi * a) :=
    fun _ => rfl
  simp only [deltaK, hintensity, rangeFactor]
  ring

end Law

end Order

/-! ## The law on the real numbers -/

section Real

variable (params : ParisLawParameters ℝ)

/-- A material that grows no slower: a larger constant, and more cycles a second. -/
def ParisLawParameters.faster (C cyclicFrequency : ℝ) : ParisLawParameters ℝ :=
  { params with C := C, cyclicFrequency := cyclicFrequency }

variable {params}

theorem calculateCrackGrowthRate_nonneg (hC : 0 ≤ params.C) (k : ℝ) :
    0 ≤ calculateCrackGrowthRate cmath params k := by
  rw [calculateCrackGrowthRate]
  split_ifs with hk
  · exact le_rfl
  · exact mul_nonneg hC (Real.rpow_nonneg (not_le.mp hk).le _)

theorem calculateCrackGrowthRate_le {C f : ℝ} (hm : 0 ≤ params.m) (hC : 0 ≤ params.C)
    (hCC : params.C ≤ C) {k l : ℝ} (hkl : k ≤ l) :
    calculateCrackGrowthRate cmath params k ≤
      calculateCrackGrowthRate cmath (params.faster C f) l := by
  by_cases hk : k ≤ 0
  · have hlarger : 0 ≤ (params.faster C f).C := hC.trans hCC
    rw [calculateCrackGrowthRate, if_pos hk]
    exact calculateCrackGrowthRate_nonneg hlarger l
  · have hkpos : 0 < k := not_le.mp hk
    have hlpos : ¬ l ≤ 0 := not_le.mpr (hkpos.trans_le hkl)
    rw [calculateCrackGrowthRate, if_neg hk, calculateCrackGrowthRate, if_neg hlpos]
    exact mul_le_mul hCC (Real.rpow_le_rpow hkpos.le hkl hm) (Real.rpow_nonneg hkpos.le _)
      (hC.trans hCC)

/-- A longer crack grows no slower.  With a negative factor none grows. -/
theorem dominated_growthPerSecond {C f : ℝ} (hm : 0 ≤ params.m) (hC : 0 ≤ params.C)
    (hCC : params.C ≤ C) (hf : 0 ≤ params.cyclicFrequency) (hff : params.cyclicFrequency ≤ f)
    (a : ℝ) :
    Dominated (growthPerSecond cmath params) (growthPerSecond cmath (params.faster C f)) a := by
  have hrange : ∀ b c, b ≤ c →
      calculateCrackGrowthRate cmath params (deltaK cmath params b) ≤
        calculateCrackGrowthRate cmath (params.faster C f) (deltaK cmath params c) := by
    intro b c hbc
    have hsqrt : Real.sqrt (Real.pi * b) ≤ Real.sqrt (Real.pi * c) :=
      Real.sqrt_le_sqrt (mul_le_mul_of_nonneg_left hbc Real.pi_pos.le)
    rcases le_total 0 (rangeFactor cmath params) with hfactor | hfactor
    · refine calculateCrackGrowthRate_le hm hC hCC ?_
      rw [deltaK_eq, deltaK_eq]
      exact mul_le_mul_of_nonneg_left hsqrt hfactor
    · have hnone : deltaK cmath params b ≤ 0 := by
        rw [deltaK_eq]
        exact mul_nonpos_of_nonpos_of_nonneg hfactor (Real.sqrt_nonneg _)
      have hlarger : 0 ≤ (params.faster C f).C := hC.trans hCC
      rw [calculateCrackGrowthRate, if_pos hnone]
      exact calculateCrackGrowthRate_nonneg hlarger _
  have hnonneg : ∀ b, 0 ≤ calculateCrackGrowthRate cmath params (deltaK cmath params b) :=
    fun b => calculateCrackGrowthRate_nonneg hC _
  constructor
  · intro b _
    exact mul_nonneg (hnonneg b) hf
  · intro b c _ hbc
    exact mul_le_mul (hrange b c hbc) hff hf ((hnonneg b).trans (hrange b c hbc))

/-! ## Two predictions -/

/-- A crack that starts no shorter, in a material that grows no slower, is
predicted to be no shorter and to have grown by no less in every step, and its
prediction does not run longer. -/
theorem predict_mono (params : ParisLawParameters ℝ) (crack crack' : CrackInfo ℝ)
    {timeHorizonHours timeSteps : Int} (hH : 1 ≤ timeHorizonHours) (hn : 1 ≤ timeSteps)
    {C f : ℝ} (hm : 0 ≤ params.m) (hC : 0 ≤ params.C) (hCC : params.C ≤ C)
    (hf : 0 ≤ params.cyclicFrequency) (hff : params.cyclicFrequency ≤ f) :
    let a0 := (Simulation.of cmath params crack timeHorizonHours timeSteps).a0
    let a0' := (Simulation.of cmath params crack' timeHorizonHours timeSteps).a0
    a0 ≤ a0' → ∃ result result',
      predict cmath params crack timeHorizonHours timeSteps = .ok result ∧
      predict cmath (params.faster C f) crack' timeHorizonHours timeSteps = .ok result' ∧
      result'.crackLength.length ≤ result.crackLength.length ∧
      ∀ (i : Nat) a a', result.crackLength[i]? = some a → result'.crackLength[i]? = some a' →
        a ≤ a' ∧ a - a0 ≤ a' - a0' := by
  intro a0 a0' ha0
  obtain ⟨result, hresult, hpredicted, -⟩ := predict_predicted cmath params crack
    (show timeHorizonHours ≠ 0 by omega) (show 0 ≤ timeSteps by omega)
  obtain ⟨result', hresult', hpredicted', -⟩ := predict_predicted cmath (params.faster C f) crack'
    (show timeHorizonHours ≠ 0 by omega) (show 0 ≤ timeSteps by omega)
  let sim := Simulation.of cmath params crack timeHorizonHours timeSteps
  let sim' := Simulation.of cmath (params.faster C f) crack' timeHorizonHours timeSteps
  have hrate : Dominated sim.rate sim'.rate sim.a0 :=
    dominated_growthPerSecond hm hC hCC hf hff sim.a0
  have hdt : sim'.dt = sim.dt := rfl
  have hgrown : ∀ i, sim.lengthAt i - a0 ≤ sim'.lengthAt i - a0' :=
    fun i => (Simulation.lengthAt_le hdt hrate ha0 i).2
  have hahead : ∀ i, sim.lengthAt i ≤ sim'.lengthAt i := by
    intro i
    linarith [hgrown i]
  refine ⟨result, result', hresult, hresult', ?_, ?_⟩
  · rw [hpredicted.crackLength, hpredicted'.crackLength, List.length_map, List.length_map,
      List.length_range, List.length_range]
    exact Simulation.recorded_le_recorded hahead
  · intro i a a' ha ha'
    rw [hpredicted.crackLength] at ha
    rw [hpredicted'.crackLength] at ha'
    obtain ⟨-, rfl⟩ := getElem?_map_range.mp ha
    obtain ⟨-, rfl⟩ := getElem?_map_range.mp ha'
    exact ⟨hahead i, hgrown i⟩

/-- A crack without a measured length and one of 2 mm, in a tough material without
residual stress. -/
theorem predict_mono_unmeasured :
    let params : ParisLawParameters ℝ :=
      { ParisLawParameters.default with
        fractureToughness := 5 * 10 ^ 6
        enableResidualStressCorrection := false }
    let crack : CrackInfo ℝ := { unmeasuredCrack with totalLength := 2 / 1000 }
    ∃ result result', predict cmath params unmeasuredCrack 720 100 = .ok result ∧
      predict cmath (params.faster params.C params.cyclicFrequency) crack 720 100 = .ok result' ∧
      result'.crackLength.length ≤ result.crackLength.length ∧
      ∀ (i : Nat) a a', result.crackLength[i]? = some a → result'.crackLength[i]? = some a' →
        a ≤ a' ∧ a - (Simulation.of cmath params unmeasuredCrack 720 100).a0 ≤
          a' - (Simulation.of cmath params crack 720 100).a0 := by
  intro params crack
  refine predict_mono params unmeasuredCrack crack (by decide) (by decide)
    ?_ ?_ le_rfl ?_ le_rfl ?_
  · norm_num [params, ParisLawParameters.default]
  · norm_num [params, ParisLawParameters.default]
  · norm_num [params, ParisLawParameters.default]
  · norm_num [crack, Simulation.of, unmeasuredCrack]

end Real

end PorcelainMonitor.Algorithms
