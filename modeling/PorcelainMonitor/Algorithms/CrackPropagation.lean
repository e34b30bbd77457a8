import Mathlib.Algebra.Order.Field.Basic
import Mathlib.Algebra.Order.Group.Unbundled.Abs
import PorcelainMonitor.Common

/-!
# `CrackPropagationModel`

Paris' law for a crack under cyclic load, integrated over a horizon in equal
steps (`crack_propagation.cpp`).  Numbers are the elements of an ordered field,
so arithmetic is exact.  `CMath` stands for the constant and the functions of
`<cmath>` that the code calls.

`int` arithmetic is that of `Int`, wrapped at the one product that can leave the
range of `int`.
-/

namespace PorcelainMonitor.Algorithms

/-- What the code uses of `<cmath>`. -/
structure CMath (R : Type) where
  pi : R
  sqrt : R → R
  pow : R → R → R
  sin : R → R
  cos : R → R

structure XRDResidualStressData (R : Type) where
  sigmaParallel : R
  sigmaPerpendicular : R
  isValid : Bool

structure ParisLawParameters (R : Type) where
  C : R
  m : R
  stressRatioR : R
  initialCrackLength : R
  maximumStress : R
  minimumStress : R
  residualStressParallel : R
  residualStressPerpendicular : R
  residualStressCalibrationFactor : R
  fractureToughness : R
  geometricFactorY : R
  cyclicFrequency : R
  enableResidualStressCorrection : Bool
  xrdCalibrationData : List (XRDResidualStressData R)

structure ParisLawResult (R : Type) where
  timeHours : List R
  crackLength : List R
  crackDepth : List R
  crackWidth : List R
  stressIntensityRange : List R
  crackGrowthRate : List R
  predictedLength720h : R
  predictedDepth720h : R
  predictedWidth720h : R
  timeToFailureHours : R
  confidence : R
  riskLevel : String
  parameters : ParisLawParameters R

variable {R : Type} [Field R] [LinearOrder R]

/-- The default member initialisers. -/
def ParisLawParameters.default : ParisLawParameters R where
  C := 15 / 10 ^ 11
  m := 3
  stressRatioR := 1 / 10
  initialCrackLength := 0
  maximumStress := 25 * 10 ^ 6
  minimumStress := 25 * 10 ^ 5
  residualStressParallel := -35 * 10 ^ 6
  residualStressPerpendicular := -20 * 10 ^ 6
  residualStressCalibrationFactor := 1
  fractureToughness := 10 ^ 6
  geometricFactorY := 1
  cyclicFrequency := 1 / 10800
  enableResidualStressCorrection := true
  xrdCalibrationData := []

/-- The default member initialisers, with the parameters filled in. -/
def ParisLawResult.start (params : ParisLawParameters R) : ParisLawResult R where
  timeHours := []
  crackLength := []
  crackDepth := []
  crackWidth := []
  stressIntensityRange := []
  crackGrowthRate := []
  predictedLength720h := 0
  predictedDepth720h := 0
  predictedWidth720h := 0
  timeToFailureHours := -1
  confidence := 85 / 100
  riskLevel := "LOW"
  parameters := params

/-! ## Stress and growth -/

section Model

variable (math : CMath R) (params : ParisLawParameters R)

def calculateStressIntensity (crackLength stress : R) : R :=
  let effectiveStress :=
    if params.enableResidualStressCorrection then
      let residualParallel := params.residualStressParallel * params.residualStressCalibrationFactor
      let residualPerp :=
        params.residualStressPerpendicular * params.residualStressCalibrationFactor
      let kSigma := 1 + (residualParallel + residualPerp) / (2 * |stress| + 1)
      stress * kSigma + 3 / 10 * residualParallel
    else stress
  params.geometricFactorY * effectiveStress * math.sqrt (math.pi * crackLength)

def calculateEffectiveStress (appliedStress crackAngleRad : R) : R :=
  if params.enableResidualStressCorrection then
    let cos2 := math.cos crackAngleRad * math.cos crackAngleRad
    let sin2 := math.sin crackAngleRad * math.sin crackAngleRad
    let sigmaXx := params.residualStressParallel * params.residualStressCalibrationFactor
    let sigmaYy := params.residualStressPerpendicular * params.residualStressCalibrationFactor
    let residualOnCrack := sigmaXx * cos2 + sigmaYy * sin2
    appliedStress + 4 / 10 * residualOnCrack
  else appliedStress

def calculateCrackGrowthRate (deltaK : R) : R :=
  if deltaK ≤ 0 then 0 else params.C * math.pow deltaK params.m

def criticalCrackLength : R :=
  math.pow (params.fractureToughness / (params.geometricFactorY * params.maximumStress)) 2 /
    math.pi

/-- The range of the stress intensity at a crack length. -/
def deltaK (a : R) : R :=
  let sigmaMaxEff := calculateEffectiveStress math params params.maximumStress 0
  let sigmaMinEff := calculateEffectiveStress math params params.minimumStress 0
  let kMax := calculateStressIntensity math params a sigmaMaxEff
  let kMin := calculateStressIntensity math params a sigmaMinEff
  kMax - kMin

/-- The time is an argument of the source that nothing reads. -/
def rungeKuttaStep (a dt : R) : R :=
  calculateCrackGrowthRate math params (deltaK math params a) * params.cyclicFrequency * dt

/-! ## Remaining life -/

/-- The passes of the loop, at most `fuel` of them. -/
def remainingLifeLoop (criticalLength : R) : Nat → R → R → R
  | 0, _, t => t
  | fuel + 1, a, t =>
      if a < criticalLength ∧ t < 10 ^ 8 then
        let da := rungeKuttaStep math params a 3600
        if da < 1 / 10 ^ 15 then t + 3600
        else remainingLifeLoop criticalLength fuel (a + da) (t + 3600)
      else t

/-- A pass adds 3600 s and the loop ends at 1e8 s, so 27778 passes suffice. -/
def estimateRemainingLife (initialLength criticalLength : R) : R :=
  if criticalLength ≤ initialLength then 0
  else remainingLifeLoop math params criticalLength 27778 initialLength 0 / 3600

end Model

/-! ## The simulation -/

/-- The local variables of `predict` that its loop reads. -/
structure Simulation (R : Type) where
  math : CMath R
  params : ParisLawParameters R
  a0 : R
  depth0 : R
  width0 : R
  dt : R

/-- The loop variables of `predict`. -/
structure Sample (R : Type) where
  i : Nat
  a : R
  depth : R
  width : R

namespace Simulation

variable (sim : Simulation R)

def start : Sample R := ⟨0, sim.a0, sim.depth0, sim.width0⟩

def tHours (i : Nat) : R := i * sim.dt / 3600

/-- The growth over one step. -/
def growth (a : R) : R :=
  let step := rungeKuttaStep sim.math sim.params
  let k1 := step a sim.dt
  let k2 := step (a + 5 / 10 * k1 * sim.dt) sim.dt
  let k3 := step (a + 5 / 10 * k2 * sim.dt) sim.dt
  let k4 := step (a + k3 * sim.dt) sim.dt
  (k1 + 2 * k2 + 2 * k3 + k4) * sim.dt / 6

def next (s : Sample R) : Sample R :=
  let a := s.a + sim.growth s.a
  ⟨s.i + 1, a, sim.depth0 + (a - sim.a0) * (4 / 10), sim.width0 + (a - sim.a0) * (25 / 100)⟩

/-- The six `push_back` calls at the top of the loop. -/
def record (s : Sample R) (result : ParisLawResult R) : ParisLawResult R :=
  let dK := deltaK sim.math sim.params s.a
  { result with
    timeHours := result.timeHours ++ [sim.tHours s.i]
    crackLength := result.crackLength ++ [s.a]
    crackDepth := result.crackDepth ++ [s.depth]
    crackWidth := result.crackWidth ++ [s.width]
    stressIntensityRange := result.stressIntensityRange ++ [dK]
    crackGrowthRate :=
      result.crackGrowthRate ++ [calculateCrackGrowthRate sim.math sim.params dK] }

/-- The loop, with `n` steps still to go. -/
def loop (criticalLength : R) : Nat → Sample R → ParisLawResult R → ParisLawResult R
  | 0, s, result => sim.record s result
  | n + 1, s, result =>
      let result := sim.record s result
      if criticalLength ≤ (sim.next s).a then
        { result with timeToFailureHours := sim.tHours s.i }
      else loop criticalLength n (sim.next s) result

end Simulation

/-! ## Prediction -/

def assessRiskLevel (result : ParisLawResult R) : String :=
  if 0 < result.timeToFailureHours ∧ result.timeToFailureHours < 720 then "CRITICAL"
  else
    let growthRate := result.crackGrowthRate.getLastD 0
    if growthRate > 1 / 10 ^ 8 then "HIGH"
    else if growthRate > 1 / 10 ^ 10 then "MEDIUM"
    else if growthRate > 1 / 10 ^ 12 then "LOW"
    else "NEGLIGIBLE"

/-- `std::min(time_steps, 720 * time_steps / time_horizon_hours)`. -/
def index720 (timeHorizonHours timeSteps : Int) : Int :=
  min timeSteps ((toInt32 (720 * timeSteps)).tdiv timeHorizonHours)

/-- The figures for 720 hours.  A negative index compares as a large one. -/
def pick720 (index : Int) (result : ParisLawResult R) : ParisLawResult R :=
  if 0 ≤ index ∧ index.toNat < result.crackLength.length then
    { result with
      predictedLength720h := result.crackLength.getD index.toNat 0
      predictedDepth720h := result.crackDepth.getD index.toNat 0
      predictedWidth720h := result.crackWidth.getD index.toNat 0 }
  else if result.crackLength.isEmpty then result
  else
    { result with
      predictedLength720h := result.crackLength.getLastD 0
      predictedDepth720h := result.crackDepth.getLastD 0
      predictedWidth720h := result.crackWidth.getLastD 0 }

/-- The simulation that `predict` runs for a crack. -/
def Simulation.of (math : CMath R) (params : ParisLawParameters R) (crack : CrackInfo R)
    (timeHorizonHours timeSteps : Int) : Simulation R where
  math := math
  params := params
  a0 := if crack.totalLength > 0 then crack.totalLength else 1 / 1000
  depth0 := if crack.maxDepth > 0 then crack.maxDepth else 5 / 10000
  width0 := if crack.maxWidth > 0 then crack.maxWidth else 1 / 10000
  dt := timeHorizonHours * 3600 / timeSteps

def predict (math : CMath R) (params : ParisLawParameters R) (crack : CrackInfo R)
    (timeHorizonHours timeSteps : Int) : Except Failure (ParisLawResult R) :=
  let sim := Simulation.of math params crack timeHorizonHours timeSteps
  let criticalLength := criticalCrackLength math params
  let ttf := estimateRemainingLife math params sim.a0 criticalLength
  let result := ParisLawResult.start params
  let result :=
    if 0 ≤ timeSteps then sim.loop criticalLength timeSteps.toNat sim.start result else result
  if timeHorizonHours = 0 then .error .divisionByZero
  else
    let result := pick720 (index720 timeHorizonHours timeSteps) result
    let result :=
      if result.timeToFailureHours < 0 then { result with timeToFailureHours := ttf } else result
    let result := { result with riskLevel := assessRiskLevel result }
    .ok { result with
      confidence :=
        if 0 < ttf ∧ ttf < timeHorizonHours then 9 / 10
        else if sim.a0 / criticalLength > 5 / 10 then 8 / 10
        else 75 / 100 }

/-- `result_to_json`. -/
def resultToJson (result : ParisLawResult R) : Json R :=
  .object [
    ("time_hours", .numbers result.timeHours),
    ("crack_length", .numbers result.crackLength),
    ("crack_depth", .numbers result.crackDepth),
    ("crack_width", .numbers result.crackWidth),
    ("stress_intensity_range", .numbers result.stressIntensityRange),
    ("crack_growth_rate", .numbers result.crackGrowthRate),
    ("predicted_length_720h", .float result.predictedLength720h),
    ("predicted_depth_720h", .float result.predictedDepth720h),
    ("predicted_width_720h", .float result.predictedWidth720h),
    ("time_to_failure_hours", .float result.timeToFailureHours),
    ("confidence", .float result.confidence),
    ("risk_level", .text result.riskLevel),
    ("parameters", .object [
      ("C", .float result.parameters.C),
      ("m", .float result.parameters.m),
      ("stress_ratio", .float result.parameters.stressRatioR),
      ("initial_crack_length", .float result.parameters.initialCrackLength),
      ("maximum_stress", .float result.parameters.maximumStress),
      ("fracture_toughness", .float result.parameters.fractureToughness),
      ("residual_stress_parallel", .float result.parameters.residualStressParallel),
      ("residual_stress_perpendicular", .float result.parameters.residualStressPerpendicular),
      ("residual_stress_calibration_factor",
        .float result.parameters.residualStressCalibrationFactor),
      ("enable_residual_stress_correction",
        .bool result.parameters.enableResidualStressCorrection),
      ("xrd_calibration_points", .int result.parameters.xrdCalibrationData.length)])]

end PorcelainMonitor.Algorithms
