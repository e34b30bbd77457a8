import Mathlib.Algebra.BigOperators.Group.List.Basic
import Mathlib.Algebra.Order.Ring.Rat
import Mathlib.Tactic.NormNum
import PorcelainMonitor.Algorithms.CrackPropagation

/-!
# Calibration with XRD readings

`calibrate_with_xrd` takes the mean of the valid readings for the residual stress.
The factor is the ratio of that mean to the stress it replaces, and the model
multiplies the new stress by it.  So the stress the model works with is the
measured one only if the factor is `1`, and a second calibration, which finds the
ratio `1`, changes the model again.
-/

namespace PorcelainMonitor.Algorithms

variable {R : Type} [Field R] [LinearOrder R]

/-! ## The calibration -/

/-- The local variables of the loop over the readings. -/
structure XrdSums (R : Type) where
  sumParallel : R
  sumPerp : R
  validCount : Nat

omit [LinearOrder R] in
/-- The body of the loop. -/
def XrdSums.add (sums : XrdSums R) (dp : XRDResidualStressData R) : XrdSums R :=
  if !dp.isValid then sums
  else ⟨sums.sumParallel + dp.sigmaParallel, sums.sumPerp + dp.sigmaPerpendicular,
    sums.validCount + 1⟩

def calibrateWithXrd (params : ParisLawParameters R) (xrdData : List (XRDResidualStressData R)) :
    ParisLawParameters R :=
  if xrdData.isEmpty then params
  else
    let params := { params with xrdCalibrationData := xrdData }
    let sums := xrdData.foldl XrdSums.add ⟨0, 0, 0⟩
    if 0 < sums.validCount then
      let avgParallel := sums.sumParallel / sums.validCount
      let avgPerp := sums.sumPerp / sums.validCount
      let params :=
        if |params.residualStressParallel| > 1 / 10 ^ 6 then
          { params with
            residualStressCalibrationFactor :=
              max (5 / 10) (min 2 (avgParallel / params.residualStressParallel)) }
        else params
      { params with
        residualStressParallel := avgParallel
        residualStressPerpendicular := avgPerp }
    else params

/-! ## The readings -/

section Readings

variable (xrdData : List (XRDResidualStressData R))

/-- The readings that count. -/
def validReadings : List (XRDResidualStressData R) := xrdData.filter XRDResidualStressData.isValid

/-- The mean of a component of the stress. -/
def meanStress (component : XRDResidualStressData R → R) : R :=
  ((validReadings xrdData).map component).sum / (validReadings xrdData).length

omit [LinearOrder R] in
theorem foldl_add (sums : XrdSums R) : xrdData.foldl XrdSums.add sums =
    ⟨sums.sumParallel + ((validReadings xrdData).map XRDResidualStressData.sigmaParallel).sum,
      sums.sumPerp + ((validReadings xrdData).map XRDResidualStressData.sigmaPerpendicular).sum,
      sums.validCount + (validReadings xrdData).length⟩ := by
  induction xrdData generalizing sums with
  | nil => simp [validReadings]
  | cons dp xrdData ih =>
      rw [List.foldl_cons, ih]
      cases hvalid : dp.isValid with
      | false => simp [XrdSums.add, validReadings, hvalid]
      | true =>
          simp [XrdSums.add, validReadings, hvalid, add_assoc, Nat.add_comm]

/-- The factor after a calibration. -/
def calibratedFactor (params : ParisLawParameters R) : R :=
  if |params.residualStressParallel| > 1 / 10 ^ 6 then
    max (5 / 10) (min 2
      (meanStress xrdData XRDResidualStressData.sigmaParallel / params.residualStressParallel))
  else params.residualStressCalibrationFactor

/-- Without a valid reading only the list is kept. -/
theorem calibrateWithXrd_of_nil {params : ParisLawParameters R}
    (hvalid : validReadings xrdData = []) : calibrateWithXrd params xrdData =
      if xrdData.isEmpty then params else { params with xrdCalibrationData := xrdData } := by
  have hcount : ¬ 0 < (xrdData.foldl XrdSums.add (⟨0, 0, 0⟩ : XrdSums R)).validCount := by
    rw [foldl_add, hvalid]
    exact Nat.lt_irrefl 0
  rw [calibrateWithXrd, if_neg hcount]

theorem calibrateWithXrd_of_ne_nil {params : ParisLawParameters R}
    (hvalid : validReadings xrdData ≠ []) :
    calibrateWithXrd params xrdData = { params with
      xrdCalibrationData := xrdData
      residualStressCalibrationFactor := calibratedFactor xrdData params
      residualStressParallel := meanStress xrdData XRDResidualStressData.sigmaParallel
      residualStressPerpendicular :=
        meanStress xrdData XRDResidualStressData.sigmaPerpendicular } := by
  have hne : ¬ xrdData.isEmpty := by
    intro hempty
    rw [List.isEmpty_iff.mp hempty] at hvalid
    exact hvalid rfl
  have hcount : 0 < (xrdData.foldl XrdSums.add (⟨0, 0, 0⟩ : XrdSums R)).validCount := by
    rw [foldl_add, Nat.zero_add]
    exact List.length_pos_of_ne_nil hvalid
  rw [calibrateWithXrd, if_neg hne, if_pos hcount]
  simp only [foldl_add, zero_add, calibratedFactor, meanStress]
  split_ifs
  · rfl
  · rfl

end Readings

/-! ## What a calibration should do -/

section Calibrated

variable (params : ParisLawParameters R) (xrdData : List (XRDResidualStressData R))

/-- The parallel stress that the model works with. -/
def effectiveResidualStress : R :=
  params.residualStressParallel * params.residualStressCalibrationFactor

structure Calibrated : Prop where
  idempotent : calibrateWithXrd (calibrateWithXrd params xrdData) xrdData =
    calibrateWithXrd params xrdData
  measured : validReadings xrdData ≠ [] →
    effectiveResidualStress (calibrateWithXrd params xrdData) =
      meanStress xrdData XRDResidualStressData.sigmaParallel

/-- The readings confirm the stress there is, or its factor is `1` and is kept. -/
def Confirms : Prop :=
  if |params.residualStressParallel| > 1 / 10 ^ 6 then
    meanStress xrdData XRDResidualStressData.sigmaParallel = params.residualStressParallel
  else params.residualStressCalibrationFactor = 1

variable {params xrdData} [IsStrictOrderedRing R]

/-- The limits of the factor are on both sides of `1`. -/
theorem clamp_eq_one_iff {x : R} : max (5 / 10) (min 2 x) = 1 ↔ x = 1 := by
  have hlow : (5 / 10 : R) < 1 := by norm_num
  have hhigh : (1 : R) < 2 := by norm_num
  constructor
  · intro h
    rcases max_choice (5 / 10) (min 2 x) with hmax | hmax
    · rw [hmax] at h
      exact absurd h hlow.ne
    · rw [hmax] at h
      rcases min_choice 2 x with hmin | hmin
      · rw [hmin] at h
        exact absurd h hhigh.ne'
      · rwa [hmin] at h
  · rintro rfl
    rw [min_eq_right hhigh.le, max_eq_right hlow.le]

theorem calibratedFactor_eq_one_iff : calibratedFactor xrdData params = 1 ↔
    Confirms params xrdData := by
  rw [calibratedFactor, Confirms]
  split_ifs with hstress
  · have hne : params.residualStressParallel ≠ 0 := by
      rintro hzero
      rw [hzero, abs_zero] at hstress
      exact absurd hstress (not_lt.mpr (by positivity))
    rw [clamp_eq_one_iff, div_eq_one_iff_eq hne]
  · rfl

/-- A second calibration finds the ratio `1`, or no stress to compare with. -/
theorem calibratedFactor_again (hvalid : validReadings xrdData ≠ [])
    (h : meanStress xrdData XRDResidualStressData.sigmaParallel = 0 ∨
      calibratedFactor xrdData params = 1) :
    calibratedFactor xrdData (calibrateWithXrd params xrdData) =
      calibratedFactor xrdData params := by
  have hstress : (calibrateWithXrd params xrdData).residualStressParallel =
      meanStress xrdData XRDResidualStressData.sigmaParallel := by
    rw [calibrateWithXrd_of_ne_nil xrdData hvalid]
  have hfactor : (calibrateWithXrd params xrdData).residualStressCalibrationFactor =
      calibratedFactor xrdData params := by
    rw [calibrateWithXrd_of_ne_nil xrdData hvalid]
  rw [calibratedFactor, hstress, hfactor]
  split_ifs with hlarge
  · have hne : meanStress xrdData XRDResidualStressData.sigmaParallel ≠ 0 := by
      intro hzero
      rw [hzero, abs_zero] at hlarge
      exact absurd hlarge (not_lt.mpr (by positivity))
    rw [h.resolve_left hne, clamp_eq_one_iff, div_self hne]
  · rfl

/-- A calibration does what it should exactly if there is nothing to measure, if
the mean is zero, or if the readings confirm the stress. -/
theorem calibrateWithXrd_iff (params : ParisLawParameters R)
    (xrdData : List (XRDResidualStressData R)) :
    Calibrated params xrdData ↔ validReadings xrdData = [] ∨
      meanStress xrdData XRDResidualStressData.sigmaParallel = 0 ∨ Confirms params xrdData := by
  rw [← calibratedFactor_eq_one_iff]
  by_cases hvalid : validReadings xrdData = []
  · refine iff_of_true ⟨?_, fun h => absurd hvalid h⟩ (.inl hvalid)
    rw [calibrateWithXrd_of_nil xrdData hvalid, calibrateWithXrd_of_nil xrdData hvalid]
    split_ifs
    · rfl
    · rfl
  · have heffective : effectiveResidualStress (calibrateWithXrd params xrdData) =
        meanStress xrdData XRDResidualStressData.sigmaParallel *
          calibratedFactor xrdData params := by
      rw [calibrateWithXrd_of_ne_nil xrdData hvalid, effectiveResidualStress]
    constructor
    · intro h
      have hmeasured := h.measured hvalid
      rw [heffective] at hmeasured
      exact .inr (mul_right_eq_self₀.mp hmeasured).symm
    · intro h
      have h' := h.resolve_left hvalid
      constructor
      · have hagain := calibratedFactor_again hvalid h'
        refine (calibrateWithXrd_of_ne_nil xrdData hvalid).trans ?_
        rw [hagain, calibrateWithXrd_of_ne_nil xrdData hvalid]
      · intro _
        rw [heffective]
        rcases h' with hzero | hone
        · rw [hzero, zero_mul]
        · rw [hone, mul_one]

end Calibrated

/-- A reading of 50 MPa, where the parameters have 35 MPa. -/
def strongReading : XRDResidualStressData ℚ := ⟨-50 * 10 ^ 6, -20 * 10 ^ 6, true⟩

theorem calibrateWithXrd_iff_strongReading :
    Calibrated (.default : ParisLawParameters ℚ) [strongReading] ↔
      validReadings [strongReading] = [] ∨
        meanStress [strongReading] XRDResidualStressData.sigmaParallel = 0 ∨
        Confirms .default [strongReading] :=
  calibrateWithXrd_iff .default [strongReading]

/-- The model works with 71 MPa instead of 50 MPa. -/
theorem strongReading_is_overstated :
    ¬ ∀ (params : ParisLawParameters ℚ) (xrdData : List (XRDResidualStressData ℚ)),
      Calibrated params xrdData := by
  intro h
  have hmean : meanStress [strongReading] XRDResidualStressData.sigmaParallel = -50 * 10 ^ 6 := by
    simp [meanStress, validReadings, strongReading]
  have hfactor : calibratedFactor [strongReading] .default = 10 / 7 := by
    rw [calibratedFactor, hmean]
    norm_num [ParisLawParameters.default, abs_of_neg]
  have hmeasured := (h .default [strongReading]).measured (by simp [validReadings, strongReading])
  rw [calibrateWithXrd_of_ne_nil _ (by simp [validReadings, strongReading]),
    effectiveResidualStress] at hmeasured
  simp only [hmean, hfactor] at hmeasured
  norm_num at hmeasured

end PorcelainMonitor.Algorithms
