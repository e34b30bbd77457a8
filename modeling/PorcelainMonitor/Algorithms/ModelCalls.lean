import PorcelainMonitor.Algorithms.Comparison
import PorcelainMonitor.Algorithms.XrdCalibration

/-!
# A model over its calls

`predict` writes the initial length to the parameters, the two calibrations write
the constant of Paris' law and the residual stress, and `predict_with_history`
calibrates before it predicts.  Whatever is called in whatever order, the bounds of
the two calibrations hold and nothing else of the material changes, so every
prediction has the shape of `predict_shape` (`calls_sound`).

`calibrate_with_measurement` divides by the range of the applied stress, and
`predict` multiplies by the range of the corrected one.  So the calibrated model
gives the measured growth only where the two agree (`calibration_exact_iff`).
-/

namespace PorcelainMonitor.Algorithms

open RungeKutta (Dominated)

section Calls

variable {R : Type} [Field R] [LinearOrder R]

/-! ## The calls -/

/-- The growth in every cycle between the first and the last measurement. -/
def measuredGrowth (params : ParisLawParameters R) (times lengths : List R) : R :=
  let dt := times.getLastD 0 - times.headD 0
  let da := lengths.getLastD 0 - lengths.headD 0
  let cycles := params.cyclicFrequency * dt * 3600
  da / cycles

/-- The length that the measured growth belongs to. -/
def averageLength (lengths : List R) : R := (lengths.getLastD 0 + lengths.headD 0) / 2

/-- The range of the stress intensity, without the correction of the stress. -/
def appliedDeltaK (math : CMath R) (params : ParisLawParameters R) (a : R) : R :=
  let deltaStress := params.maximumStress - params.minimumStress
  params.geometricFactorY * deltaStress * math.sqrt (math.pi * a)

def calibrateWithMeasurement (math : CMath R) (params : ParisLawParameters R)
    (times lengths : List R) : ParisLawParameters R :=
  if times.length < 2 ∨ lengths.length < 2 then params
  else
    let dt := times.getLastD 0 - times.headD 0
    let da := lengths.getLastD 0 - lengths.headD 0
    if dt > 0 ∧ da > 0 then
      let deltaK := appliedDeltaK math params (averageLength lengths)
      if deltaK > 0 then
        let C := measuredGrowth params times lengths / math.pow deltaK params.m
        { params with C := max (1 / 10 ^ 12) (min (1 / 10 ^ 8) C) }
      else params
    else params

/-- `duration_cast<hours>` of a time since the epoch. -/
def hoursSinceEpoch (t : Int) : Int := t.tdiv (3600 * 10 ^ 9)

/-- The parameters that `predict_with_history` predicts with. -/
def calibrateWithHistory (math : CMath R) (params : ParisLawParameters R)
    (history : List (CrackInfo R)) : ParisLawParameters R :=
  if history.length ≥ 2 then
    calibrateWithMeasurement math params
      (history.map fun h => (hoursSinceEpoch h.detectedAt : R))
      (history.map CrackInfo.totalLength)
  else params

/-- A call of a model that may change its parameters. -/
inductive ModelCall (R : Type) where
  | predict (crack : CrackInfo R) (timeHorizonHours timeSteps : Int)
  | predictWithHistory (crack : CrackInfo R) (history : List (CrackInfo R))
      (timeHorizonHours : Int)
  | calibrateWithMeasurement (times lengths : List R)
  | calibrateWithXrd (xrdData : List (XRDResidualStressData R))

/-- What `predict` writes to the parameters. -/
def ParisLawParameters.predicted (params : ParisLawParameters R) (crack : CrackInfo R) :
    ParisLawParameters R :=
  { params with
    initialCrackLength := if crack.totalLength > 0 then crack.totalLength else 1 / 1000 }

/-- The parameters after a call. -/
def ModelCall.run (math : CMath R) (params : ParisLawParameters R) :
    ModelCall R → ParisLawParameters R
  | predict crack _ _ => params.predicted crack
  | predictWithHistory crack history _ => (calibrateWithHistory math params history).predicted crack
  | calibrateWithMeasurement times lengths =>
      Algorithms.calibrateWithMeasurement math params times lengths
  | calibrateWithXrd xrdData => Algorithms.calibrateWithXrd params xrdData

/-! ## What every call keeps -/

/-- The readings that a call takes the residual stress from. -/
def ModelCall.readings? : ModelCall R → Option (List (XRDResidualStressData R))
  | calibrateWithXrd xrdData => if (validReadings xrdData).isEmpty then none else some xrdData
  | _ => none

/-- The readings of the last calibration that had a valid one. -/
def lastReadings (calls : List (ModelCall R)) : Option (List (XRDResidualStressData R)) :=
  (calls.filterMap ModelCall.readings?).getLast?

/-- The parameters of a material after these calls, calibrated within the bounds of the
code.  The residual stress is that of the material, or the mean of the last readings. -/
structure ParisLawParameters.Sound (material : ParisLawParameters R) (calls : List (ModelCall R))
    (params : ParisLawParameters R) : Prop where
  C_ge : 1 / 10 ^ 12 ≤ params.C
  C_le : params.C ≤ 1 / 10 ^ 8
  factor_ge : 5 / 10 ≤ params.residualStressCalibrationFactor
  factor_le : params.residualStressCalibrationFactor ≤ 2
  m : params.m = material.m
  stressRatioR : params.stressRatioR = material.stressRatioR
  maximumStress : params.maximumStress = material.maximumStress
  minimumStress : params.minimumStress = material.minimumStress
  fractureToughness : params.fractureToughness = material.fractureToughness
  geometricFactorY : params.geometricFactorY = material.geometricFactorY
  cyclicFrequency : params.cyclicFrequency = material.cyclicFrequency
  correction : params.enableResidualStressCorrection = material.enableResidualStressCorrection
  residualParallel : params.residualStressParallel =
    (lastReadings calls).elim material.residualStressParallel
      (meanStress · XRDResidualStressData.sigmaParallel)
  residualPerpendicular : params.residualStressPerpendicular =
    (lastReadings calls).elim material.residualStressPerpendicular
      (meanStress · XRDResidualStressData.sigmaPerpendicular)

variable {math : CMath R} {material params : ParisLawParameters R} {calls : List (ModelCall R)}
  {call : ModelCall R}

omit [Field R] [LinearOrder R] in
theorem lastReadings_of_none (h : call.readings? = none) :
    lastReadings (calls ++ [call]) = lastReadings calls := by
  rw [lastReadings, List.filterMap_append, List.filterMap_cons, h, List.filterMap_nil,
    List.append_nil, lastReadings]

omit [Field R] [LinearOrder R] in
theorem lastReadings_of_some {xrdData : List (XRDResidualStressData R)}
    (h : call.readings? = some xrdData) : lastReadings (calls ++ [call]) = some xrdData := by
  rw [lastReadings, List.filterMap_append, List.filterMap_cons, h, List.filterMap_nil,
    List.getLast?_concat]

/-- The measured constant is only a constant. -/
theorem calibrateWithMeasurement_cases (math : CMath R) (params : ParisLawParameters R)
    (times lengths : List R) : calibrateWithMeasurement math params times lengths = params ∨
      ∃ C, calibrateWithMeasurement math params times lengths =
        { params with C := max (1 / 10 ^ 12) (min (1 / 10 ^ 8) C) } := by
  rw [calibrateWithMeasurement]
  dsimp only
  split_ifs
  · exact .inl rfl
  · exact .inr ⟨_, rfl⟩
  · exact .inl rfl
  · exact .inl rfl

namespace ParisLawParameters.Sound

theorem predicted (h : material.Sound calls params) (crack : CrackInfo R) :
    material.Sound calls (params.predicted crack) :=
  { h with }

/-- A call that takes no residual stress. -/
theorem append (h : material.Sound calls params) (hcall : call.readings? = none) :
    material.Sound (calls ++ [call]) params := by
  have hlast : lastReadings (calls ++ [call]) = lastReadings calls := lastReadings_of_none hcall
  exact { h with
    residualParallel := by rw [hlast]; exact h.residualParallel
    residualPerpendicular := by rw [hlast]; exact h.residualPerpendicular }

variable [IsStrictOrderedRing R]

theorem calibrateWithMeasurement (h : material.Sound calls params) (times lengths : List R) :
    material.Sound calls (calibrateWithMeasurement math params times lengths) := by
  rcases calibrateWithMeasurement_cases math params times lengths with hsame | ⟨C, hC⟩
  · rwa [hsame]
  · have hbounds : (1 : R) / 10 ^ 12 ≤ 1 / 10 ^ 8 := by norm_num
    rw [hC]
    exact { h with
      C_ge := le_max_left _ _
      C_le := max_le hbounds (min_le_left _ _) }

theorem calibrateWithHistory (h : material.Sound calls params) (history : List (CrackInfo R)) :
    material.Sound calls (calibrateWithHistory math params history) := by
  rw [Algorithms.calibrateWithHistory]
  split_ifs
  · exact h.calibrateWithMeasurement _ _
  · exact h

theorem calibrateWithXrd (h : material.Sound calls params)
    (xrdData : List (XRDResidualStressData R)) :
    material.Sound (calls ++ [.calibrateWithXrd xrdData]) (calibrateWithXrd params xrdData) := by
  by_cases hvalid : validReadings xrdData = []
  · have hkept : material.Sound (calls ++ [.calibrateWithXrd xrdData]) params := h.append (by
      rw [ModelCall.readings?, hvalid]
      rfl)
    rw [calibrateWithXrd_of_nil xrdData hvalid]
    split_ifs
    · exact hkept
    · exact { hkept with }
  · have hbounds : (5 : R) / 10 ≤ 2 := by norm_num
    have hfactor : 5 / 10 ≤ calibratedFactor xrdData params ∧
        calibratedFactor xrdData params ≤ 2 := by
      rw [calibratedFactor]
      split_ifs
      · exact ⟨le_max_left _ _, max_le hbounds (min_le_left _ _)⟩
      · exact ⟨h.factor_ge, h.factor_le⟩
    have hlast : lastReadings (calls ++ [.calibrateWithXrd xrdData]) = some xrdData :=
      lastReadings_of_some (if_neg (by simpa using hvalid))
    rw [calibrateWithXrd_of_ne_nil xrdData hvalid]
    exact { h with
      factor_ge := hfactor.1
      factor_le := hfactor.2
      residualParallel := by rw [hlast]; rfl
      residualPerpendicular := by rw [hlast]; rfl }

/-- What a call keeps. -/
theorem run (h : material.Sound calls params) (call : ModelCall R) :
    material.Sound (calls ++ [call]) (call.run math params) := by
  cases call with
  | predict crack timeHorizonHours timeSteps => exact (h.predicted crack).append rfl
  | predictWithHistory crack history timeHorizonHours =>
      exact ((h.calibrateWithHistory history).predicted crack).append rfl
  | calibrateWithMeasurement times lengths =>
      exact (h.calibrateWithMeasurement times lengths).append rfl
  | calibrateWithXrd xrdData => exact h.calibrateWithXrd xrdData

/-- What all calls keep. -/
theorem foldl_run (h : material.Sound calls params) (more : List (ModelCall R)) :
    material.Sound (calls ++ more) (more.foldl (ModelCall.run math) params) := by
  induction more generalizing calls params with
  | nil => simpa using h
  | cons call more ih => simpa using ih (h.run call)

end ParisLawParameters.Sound

variable [IsStrictOrderedRing R]

theorem sound_default : (ParisLawParameters.default (R := R)).Sound [] .default where
  C_ge := by norm_num [ParisLawParameters.default]
  C_le := by norm_num [ParisLawParameters.default]
  factor_ge := by norm_num [ParisLawParameters.default]
  factor_le := by norm_num [ParisLawParameters.default]
  m := rfl
  stressRatioR := rfl
  maximumStress := rfl
  minimumStress := rfl
  fractureToughness := rfl
  geometricFactorY := rfl
  cyclicFrequency := rfl
  correction := rfl
  residualParallel := rfl
  residualPerpendicular := rfl

/-- Since its parameters were set a model has made any calls.  Its constant and its
factor are within the bounds of the calibrations, its residual stress is that of the last
readings, the rest of the material is as it was set, and every prediction has its shape. -/
theorem calls_sound (hmaterial : material.Sound [] material)
    (hfrequency : 0 ≤ material.cyclicFrequency) (hpow : ∀ x y, 0 < x → 0 ≤ math.pow x y)
    (calls : List (ModelCall R)) :
    let params := calls.foldl (ModelCall.run math) material
    material.Sound calls params ∧
    ∀ (crack : CrackInfo R) (timeHorizonHours timeSteps : Int),
      1 ≤ timeHorizonHours → 1 ≤ timeSteps →
      ∃ result, predict math params crack timeHorizonHours timeSteps = .ok result ∧
        ∃ count, (Simulation.of math params crack timeHorizonHours timeSteps).Shape
          (criticalCrackLength math material) timeHorizonHours timeSteps count result := by
  intro params
  have hsound : material.Sound calls params := hmaterial.foldl_run calls
  have hC : 0 ≤ params.C := le_trans (by positivity) hsound.C_ge
  have hcritical : criticalCrackLength math params = criticalCrackLength math material := by
    rw [criticalCrackLength, criticalCrackLength, hsound.fractureToughness,
      hsound.geometricFactorY, hsound.maximumStress]
  refine ⟨hsound, fun crack timeHorizonHours timeSteps hH hn => ?_⟩
  rw [← hcritical]
  exact predict_shape math crack hH hn hC (hfrequency.trans_eq hsound.cyclicFrequency.symm) hpow

end Calls

/-- Two readings, of which one is valid, and a prediction. -/
noncomputable def readingCalls : List (ModelCall ℝ) :=
  [.calibrateWithXrd [⟨-30 * 10 ^ 6, -10 * 10 ^ 6, true⟩, ⟨0, 0, false⟩],
    .predict unmeasuredCrack 720 100, .calibrateWithXrd []]

theorem calls_sound_xrd :
    let params := readingCalls.foldl (ModelCall.run cmath) .default
    params.residualStressParallel = -30 * 10 ^ 6 ∧
    ParisLawParameters.default.Sound readingCalls params ∧
    ∀ (crack : CrackInfo ℝ) (timeHorizonHours timeSteps : Int),
      1 ≤ timeHorizonHours → 1 ≤ timeSteps →
      ∃ result, predict cmath params crack timeHorizonHours timeSteps = .ok result ∧
        ∃ count, (Simulation.of cmath params crack timeHorizonHours timeSteps).Shape
          (criticalCrackLength cmath .default) timeHorizonHours timeSteps count result := by
  intro params
  have hpow : ∀ x y : ℝ, 0 < x → 0 ≤ cmath.pow x y := fun _ _ hx => Real.rpow_nonneg hx.le _
  obtain ⟨hsound, hpredict⟩ := calls_sound sound_default
    (by norm_num [ParisLawParameters.default]) hpow readingCalls
  refine ⟨hsound.residualParallel.trans ?_, hsound, hpredict⟩
  have hlast : lastReadings readingCalls =
      some [⟨-30 * 10 ^ 6, -10 * 10 ^ 6, true⟩, ⟨0, 0, false⟩] := rfl
  rw [hlast]
  norm_num [validReadings, meanStress]

/-! ## What a measurement calibrates -/

section Exact

variable (params : ParisLawParameters ℝ) {times lengths : List ℝ}

/-- The growth of a model in every cycle at a crack length. -/
noncomputable def growthPerCycle (a : ℝ) : ℝ :=
  calculateCrackGrowthRate cmath params (deltaK cmath params a)

/-- The range of the stress that the calibration divides by. -/
def appliedFactor : ℝ := params.geometricFactorY * (params.maximumStress - params.minimumStress)

/-- The constant that fits the measurement. -/
noncomputable def fittedC (times lengths : List ℝ) : ℝ :=
  measuredGrowth params times lengths /
    appliedDeltaK cmath params (averageLength lengths) ^ params.m

/-- Two measurements, at least, of a growing crack under a stress that changes. -/
structure Measures (times lengths : List ℝ) : Prop where
  times_length : 2 ≤ times.length
  lengths_length : 2 ≤ lengths.length
  later : times.headD 0 < times.getLastD 0
  longer : lengths.headD 0 < lengths.getLastD 0
  average : 0 < averageLength lengths
  factor : 0 < appliedFactor params
  frequency : 0 < params.cyclicFrequency

variable {params}

theorem Measures.measuredGrowth_pos (h : Measures params times lengths) :
    0 < measuredGrowth params times lengths := by
  have hdt : 0 < times.getLastD 0 - times.headD 0 := sub_pos.mpr h.later
  have hda : 0 < lengths.getLastD 0 - lengths.headD 0 := sub_pos.mpr h.longer
  exact div_pos hda (mul_pos (mul_pos h.frequency hdt) (by norm_num))

theorem Measures.sqrt_pos (h : Measures params times lengths) :
    0 < Real.sqrt (Real.pi * averageLength lengths) :=
  Real.sqrt_pos.mpr (mul_pos Real.pi_pos h.average)

theorem Measures.appliedDeltaK_pos (h : Measures params times lengths) :
    0 < appliedDeltaK cmath params (averageLength lengths) :=
  mul_pos h.factor h.sqrt_pos

theorem Measures.fittedC_mul (h : Measures params times lengths) :
    fittedC params times lengths * appliedDeltaK cmath params (averageLength lengths) ^ params.m =
      measuredGrowth params times lengths :=
  div_mul_cancel₀ _ (Real.rpow_pos_of_pos h.appliedDeltaK_pos _).ne'

theorem Measures.calibrate_eq (h : Measures params times lengths) :
    calibrateWithMeasurement cmath params times lengths =
      { params with C := max (1 / 10 ^ 12) (min (1 / 10 ^ 8) (fittedC params times lengths)) } := by
  have hmany : ¬ (times.length < 2 ∨ lengths.length < 2) := by
    have htimes := h.times_length
    have hlengths := h.lengths_length
    omega
  have hgrown : times.getLastD 0 - times.headD 0 > 0 ∧ lengths.getLastD 0 - lengths.headD 0 > 0 :=
    ⟨sub_pos.mpr h.later, sub_pos.mpr h.longer⟩
  rw [calibrateWithMeasurement, if_neg hmany]
  dsimp only
  rw [if_pos hgrown, if_pos h.appliedDeltaK_pos]
  rfl

/-- The growth of the calibrated model. -/
theorem Measures.growthPerCycle_eq (h : Measures params times lengths) (a : ℝ) :
    growthPerCycle (calibrateWithMeasurement cmath params times lengths) a =
      if deltaK cmath params a ≤ 0 then 0
      else max (1 / 10 ^ 12) (min (1 / 10 ^ 8) (fittedC params times lengths)) *
        deltaK cmath params a ^ params.m := by
  rw [h.calibrate_eq]
  rfl

theorem clamp_eq_iff {lo hi x : ℝ} (hle : lo ≤ hi) : max lo (min hi x) = x ↔ lo ≤ x ∧ x ≤ hi := by
  constructor
  · intro h
    have hx : x ≤ hi := by
      rw [← h]
      exact max_le hle (min_le_left _ _)
    exact ⟨(le_max_left lo _).trans_eq h, hx⟩
  · rintro ⟨hlo, hhi⟩
    rw [min_eq_right hhi, max_eq_right hlo]

/-- With the range that it divides by, the calibration is exact where the constant
needs no clamp.  Without a clamp it is exact only with that range. -/
theorem calibration_exact_iff (h : Measures params times lengths) (hm : params.m ≠ 0) :
    let calibrated := calibrateWithMeasurement cmath params times lengths
    let unclamped := 1 / 10 ^ 12 ≤ fittedC params times lengths ∧
      fittedC params times lengths ≤ 1 / 10 ^ 8
    let exact := growthPerCycle calibrated (averageLength lengths) =
      measuredGrowth params times lengths
    (rangeFactor cmath params = appliedFactor params → (exact ↔ unclamped)) ∧
    (unclamped → (exact ↔ rangeFactor cmath params = appliedFactor params)) := by
  intro calibrated unclamped exact
  let avg := averageLength lengths
  have hpow : 0 < appliedDeltaK cmath params avg ^ params.m :=
    Real.rpow_pos_of_pos h.appliedDeltaK_pos _
  have hclamp : max (1 / 10 ^ 12) (min (1 / 10 ^ 8) (fittedC params times lengths)) =
      fittedC params times lengths ↔ unclamped := clamp_eq_iff (by norm_num)
  have hsame : rangeFactor cmath params = appliedFactor params → (exact ↔ unclamped) := by
    intro hfactor
    have hrange : deltaK cmath params avg = appliedDeltaK cmath params avg := by
      rw [deltaK_eq, hfactor]
      rfl
    have hpos : ¬ deltaK cmath params avg ≤ 0 := by
      rw [hrange]
      exact not_le.mpr h.appliedDeltaK_pos
    rw [← hclamp]
    simp only [exact, calibrated]
    rw [h.growthPerCycle_eq, if_neg hpos, hrange, ← h.fittedC_mul]
    exact mul_left_inj' hpow.ne'
  refine ⟨hsame, fun hunclamped =>
    ⟨fun hexact => ?_, fun hfactor => (hsame hfactor).mpr hunclamped⟩⟩
  have hC : fittedC params times lengths ≠ 0 :=
    (lt_of_lt_of_le (by norm_num) hunclamped.1).ne'
  simp only [exact, calibrated] at hexact
  rw [h.growthPerCycle_eq, hclamp.mpr hunclamped] at hexact
  split_ifs at hexact with hnone
  · exact absurd hexact h.measuredGrowth_pos.ne
  · rw [← h.fittedC_mul] at hexact
    have hrange : deltaK cmath params avg = appliedDeltaK cmath params avg :=
      (Real.rpow_left_inj (not_le.mp hnone).le h.appliedDeltaK_pos.le hm).mp
        (mul_left_cancel₀ hC hexact)
    rw [deltaK_eq] at hrange
    exact mul_right_cancel₀ h.sqrt_pos.ne' hrange

/-- A crack of 1 mm that grows by 2 nm a day, in a material without residual stress. -/
theorem calibration_exact_iff_daily :
    let params : ParisLawParameters ℝ :=
      { ParisLawParameters.default with enableResidualStressCorrection := false }
    let times : List ℝ := [0, 24]
    let lengths : List ℝ := [1 / 1000, 1 / 1000 + 2 / 10 ^ 9]
    let calibrated := calibrateWithMeasurement cmath params times lengths
    let unclamped := 1 / 10 ^ 12 ≤ fittedC params times lengths ∧
      fittedC params times lengths ≤ 1 / 10 ^ 8
    let exact := growthPerCycle calibrated (averageLength lengths) =
      measuredGrowth params times lengths
    (rangeFactor cmath params = appliedFactor params → (exact ↔ unclamped)) ∧
    (unclamped → (exact ↔ rangeFactor cmath params = appliedFactor params)) := by
  intro params times lengths
  have hmeasures : Measures params times lengths := by
    constructor <;>
      norm_num [params, times, lengths, averageLength, appliedFactor, ParisLawParameters.default]
  exact calibration_exact_iff hmeasures (by norm_num [params, ParisLawParameters.default])

end Exact

end PorcelainMonitor.Algorithms
