import PorcelainMonitor.Algorithms.PredictionShape
import PorcelainMonitor.Lib.RungeKutta

/-!
# The step of `predict` as a Runge-Kutta step

`runge_kutta_step` returns what the crack grows by in `dt` seconds, and
`estimate_remaining_life` adds that to the length.  `predict` takes it for a
slope and multiplies by `dt` once more in every stage.  So its step of `dt`
seconds is a classical step of `dt * dt` seconds (`Simulation.growth_eq`).
-/

namespace PorcelainMonitor.Algorithms

open RungeKutta (increment Rising)

variable {R : Type} [Field R] [LinearOrder R]

namespace Simulation

variable (sim : Simulation R)

/-- The growth per second. -/
def rate (a : R) : R := growthPerSecond sim.math sim.params a

/-- The loop goes on from a sample as the classical method does. -/
def Classical (s : Sample R) : Prop := (sim.next s).a = s.a + increment sim.rate sim.dt s.a

variable [IsStrictOrderedRing R]

/-- The loop makes a classical step of another length. -/
theorem growth_eq (a : R) : sim.growth a = increment sim.rate (sim.dt * sim.dt) a := by
  have hstep : ∀ b, rungeKuttaStep sim.math sim.params b sim.dt = sim.rate b * sim.dt :=
    fun _ => rfl
  have hhalf : ∀ k, a + 5 / 10 * (k * sim.dt) * sim.dt = a + sim.dt * sim.dt / 2 * k := by
    intro k
    ring
  have hfull : ∀ k, a + k * sim.dt * sim.dt = a + sim.dt * sim.dt * k := by
    intro k
    ring
  simp only [growth, increment, Nat.cast_ofNat, hstep, hhalf, hfull]
  ring

theorem classical_iff (s : Sample R) :
    sim.Classical s ↔ increment sim.rate (sim.dt * sim.dt) s.a = increment sim.rate sim.dt s.a := by
  have hnext : (sim.next s).a = s.a + sim.growth s.a := rfl
  rw [Classical, hnext, growth_eq, add_right_inj]

theorem classical_of {s : Sample R} (h : sim.dt = 1 ∨ sim.rate s.a = 0) : sim.Classical s := by
  rw [classical_iff]
  rcases h with hdt | hzero
  · rw [hdt, mul_one]
  · rw [RungeKutta.increment_of_zero hzero, RungeKutta.increment_of_zero hzero]

/-- Where growth does not slow down, only the step of one second is classical. -/
theorem classical_iff_of_rising (hdt : 0 < sim.dt) {s : Sample R} (h : Rising sim.rate s.a) :
    sim.Classical s ↔ sim.dt = 1 ∨ sim.rate s.a = 0 := by
  rw [classical_iff, h.increment_eq_iff (mul_nonneg hdt.le hdt.le) hdt.le,
    mul_eq_left₀ hdt.ne']

omit [IsStrictOrderedRing R] in
/-- A growth that does not depend on the length. -/
theorem rising_of_const {r a : R} (hr : 0 ≤ r) (hrate : ∀ b, a ≤ b → sim.rate b = r) :
    Rising sim.rate a where
  nonneg b hb := by rwa [hrate b hb]
  le b c hb hbc := by rw [hrate b hb, hrate c (hb.trans hbc)]

/-- The lengths that a constant growth leads to. -/
theorem lengthAt_const {r : R} (hdt : 0 ≤ sim.dt) (hr : 0 ≤ r)
    (hrate : ∀ b, sim.a0 ≤ b → sim.rate b = r) (i : Nat) :
    sim.lengthAt i = sim.a0 + r * i * (sim.dt * sim.dt) := by
  induction i with
  | zero => simp [lengthAt, start]
  | succ i ih =>
      have hlength : sim.a0 ≤ sim.lengthAt i := by
        rw [ih]
        exact le_add_of_nonneg_right (by positivity)
      rw [lengthAt_succ, growth_eq, RungeKutta.increment_const (mul_nonneg hdt hdt) hr
        fun b hb => hrate b (hlength.trans hb), ih]
      push_cast
      ring

end Simulation

/-! ## Every growth -/

section Iff

/-- A crack that grows by `1` in every second. -/
def steadySimulation (dt : R) : Simulation R where
  math := ⟨0, fun _ => 1, fun _ _ => 1, fun _ => 0, fun _ => 0⟩
  params := { ParisLawParameters.default with
    C := 1
    maximumStress := 1
    minimumStress := 0
    cyclicFrequency := 1
    enableResidualStressCorrection := false }
  a0 := 1
  depth0 := 1
  width0 := 1
  dt := dt

variable [IsStrictOrderedRing R]

theorem steadySimulation_rate (dt a : R) : (steadySimulation dt).rate a = 1 := by
  simp [steadySimulation, Simulation.rate, growthPerSecond, deltaK, calculateEffectiveStress,
    calculateStressIntensity, calculateCrackGrowthRate, ParisLawParameters.default]

/-- The classical method is met by every growth only with steps of one second. -/
theorem forall_classical_iff {dt : R} (hdt : 0 < dt) :
    (∀ sim : Simulation R, sim.dt = dt → ∀ s, sim.Classical s) ↔ dt = 1 := by
  constructor
  · intro h
    have hrising : Rising (steadySimulation dt).rate 1 :=
      (steadySimulation dt).rising_of_const zero_le_one fun b _ => steadySimulation_rate dt b
    have hclassical := h (steadySimulation dt) rfl (steadySimulation dt).start
    rcases ((steadySimulation dt).classical_iff_of_rising hdt hrising).mp hclassical with
      hone | hzero
    · exact hone
    · rw [steadySimulation_rate] at hzero
      exact absurd hzero one_ne_zero
  · rintro rfl sim hsim s
    exact sim.classical_of (.inl hsim)

/-- The recorded lengths of a constant growth. -/
theorem predict_const_iff (math : CMath R) (params : ParisLawParameters R) (crack : CrackInfo R)
    {timeHorizonHours timeSteps : Int} (hH : 1 ≤ timeHorizonHours) (hn : 1 ≤ timeSteps) {r : R}
    (hr : 0 ≤ r) :
    let sim := Simulation.of math params crack timeHorizonHours timeSteps
    (∀ b, sim.a0 ≤ b → sim.rate b = r) →
    ∃ result, predict math params crack timeHorizonHours timeSteps = .ok result ∧
      ((∀ (i : Nat) a, result.crackLength[i]? = some a → a = sim.a0 + r * i * sim.dt) ↔
        sim.dt = 1 ∨ r = 0 ∨ criticalCrackLength math params ≤ sim.a0 + r * (sim.dt * sim.dt)) := by
  intro sim hrate
  obtain ⟨result, hresult, hpredicted, -⟩ := predict_predicted math params crack
    (show timeHorizonHours ≠ 0 by omega) (show 0 ≤ timeSteps by omega)
  let criticalLength := criticalCrackLength math params
  change sim.Predicted (sim.recorded criticalLength timeSteps.toNat sim.start) _ result
    at hpredicted
  have hdt : 0 < sim.dt := Simulation.of_dt_pos math crack hH hn
  have hlength : ∀ i : Nat, sim.lengthAt i = sim.a0 + r * i * (sim.dt * sim.dt) :=
    sim.lengthAt_const hdt.le hr hrate
  have hfirst : sim.lengthAt 1 = sim.a0 + r * (sim.dt * sim.dt) := by
    rw [hlength, Nat.cast_one, mul_one]
  refine ⟨result, hresult, ?_⟩
  rw [hpredicted.crackLength, ← hfirst]
  constructor
  · intro hall
    by_contra hnot
    obtain ⟨hdt1, hr0, hshort⟩ := not_or.mp hnot |>.imp id not_or.mp
    have hcount : 1 < sim.recorded criticalLength timeSteps.toNat sim.start := by
      rcases sim.recorded_cases criticalLength timeSteps.toNat with
        ⟨hcount, _⟩ | ⟨j, _, hcount, hlong, _⟩
      · omega
      · cases j with
        | zero => exact absurd hlong hshort
        | succ j => omega
    have hsame := hall 1 _ (getElem?_map_range.mpr ⟨hcount, rfl⟩)
    rw [hfirst, Nat.cast_one, mul_one, add_right_inj] at hsame
    have hdtdt : sim.dt * sim.dt = sim.dt := mul_left_cancel₀ hr0 hsame
    exact hdt1 ((mul_eq_left₀ hdt.ne').mp hdtdt)
  · intro hcondition i a ha
    obtain ⟨hi, rfl⟩ := getElem?_map_range.mp ha
    rcases hcondition with hone | hzero | hlong
    · rw [hlength, hone, mul_one]
    · rw [hlength, hzero, zero_mul, zero_mul, zero_mul]
    · cases i with
      | zero => simp [hlength]
      | succ i =>
          have hshort := sim.recorded_short criticalLength timeSteps.toNat
            (show 0 + 1 < sim.recorded criticalLength timeSteps.toNat sim.start by omega)
          exact absurd hlong (not_le.mpr hshort)

/-- One step of the loop is classical for every growth exactly if it lasts one
second.  For a growth that does not slow down it is classical only then, or where
nothing grows, and so are the lengths recorded for a constant growth, unless
there is only one. -/
theorem predict_classical_iff {dt : R} (hdt : 0 < dt) :
    ((∀ sim : Simulation R, sim.dt = dt → ∀ s, sim.Classical s) ↔ dt = 1) ∧
    (∀ sim : Simulation R, sim.dt = dt → ∀ s,
      (dt = 1 ∨ sim.rate s.a = 0 → sim.Classical s) ∧
      (Rising sim.rate s.a → (sim.Classical s ↔ dt = 1 ∨ sim.rate s.a = 0))) ∧
    ∀ (math : CMath R) (params : ParisLawParameters R) (crack : CrackInfo R)
      (timeHorizonHours timeSteps : Int), 1 ≤ timeHorizonHours → 1 ≤ timeSteps →
      let sim := Simulation.of math params crack timeHorizonHours timeSteps
      sim.dt = dt → ∀ r, 0 ≤ r → (∀ b, sim.a0 ≤ b → sim.rate b = r) →
      ∃ result, predict math params crack timeHorizonHours timeSteps = .ok result ∧
        ((∀ (i : Nat) a, result.crackLength[i]? = some a → a = sim.a0 + r * i * dt) ↔
          dt = 1 ∨ r = 0 ∨ criticalCrackLength math params ≤ sim.a0 + r * (dt * dt)) := by
  refine ⟨forall_classical_iff hdt, ?_, ?_⟩
  · rintro sim rfl s
    exact ⟨sim.classical_of, sim.classical_iff_of_rising hdt⟩
  · rintro math params crack timeHorizonHours timeSteps hH hn sim rfl r hr hrate
    exact predict_const_iff math params crack hH hn hr hrate

end Iff

/-- The steps of 720 hours in 100 parts. -/
theorem predict_classical_iff_month :
    ((∀ sim : Simulation ℝ, sim.dt = 25920 → ∀ s, sim.Classical s) ↔ (25920 : ℝ) = 1) ∧
    (∀ sim : Simulation ℝ, sim.dt = 25920 → ∀ s,
      ((25920 : ℝ) = 1 ∨ sim.rate s.a = 0 → sim.Classical s) ∧
      (Rising sim.rate s.a → (sim.Classical s ↔ (25920 : ℝ) = 1 ∨ sim.rate s.a = 0))) ∧
    ∀ (math : CMath ℝ) (params : ParisLawParameters ℝ) (crack : CrackInfo ℝ)
      (timeHorizonHours timeSteps : Int), 1 ≤ timeHorizonHours → 1 ≤ timeSteps →
      let sim := Simulation.of math params crack timeHorizonHours timeSteps
      sim.dt = 25920 → ∀ r, 0 ≤ r → (∀ b, sim.a0 ≤ b → sim.rate b = r) →
      ∃ result, predict math params crack timeHorizonHours timeSteps = .ok result ∧
        ((∀ (i : Nat) a, result.crackLength[i]? = some a → a = sim.a0 + r * i * 25920) ↔
          (25920 : ℝ) = 1 ∨ r = 0 ∨
            criticalCrackLength math params ≤ sim.a0 + r * (25920 * 25920)) :=
  predict_classical_iff (by norm_num)

/-! ## A growth that does not depend on the length -/

/-- Paris' law with the exponent 0 and without residual stress. -/
noncomputable def flatParameters : ParisLawParameters ℝ :=
  { ParisLawParameters.default with m := 0, enableResidualStressCorrection := false }

/-- A growth in every cycle that is the same for every length. -/
theorem flatParameters_rate {a : ℝ} (ha : 0 < a) :
    growthPerSecond cmath flatParameters a = 15 / 10 ^ 11 * (1 / 10800) := by
  have hsqrt : 0 < Real.sqrt (Real.pi * a) := Real.sqrt_pos.mpr (mul_pos Real.pi_pos ha)
  have hK : deltaK cmath flatParameters a = 225 * 10 ^ 5 * Real.sqrt (Real.pi * a) := by
    simp only [deltaK, calculateEffectiveStress, calculateStressIntensity, flatParameters,
      ParisLawParameters.default, cmath, Bool.false_eq_true, if_false]
    ring
  have hpos : ¬ deltaK cmath flatParameters a ≤ 0 := by
    rw [hK]
    exact not_le.mpr (by positivity)
  have hpow : cmath.pow (deltaK cmath flatParameters a) flatParameters.m = 1 := Real.rpow_zero _
  rw [growthPerSecond, calculateCrackGrowthRate, if_neg hpos, hpow]
  simp only [flatParameters, ParisLawParameters.default, mul_one]

/-- The prediction that the server asks for makes steps of 25920 s, and the first
one is not classical. -/
theorem predict_is_not_classical :
    ¬ ∀ (params : ParisLawParameters ℝ) (crack : CrackInfo ℝ) (timeHorizonHours timeSteps : Int),
      1 ≤ timeHorizonHours → 1 ≤ timeSteps →
      let sim := Simulation.of cmath params crack timeHorizonHours timeSteps
      sim.Classical sim.start := by
  intro h
  let sim := Simulation.of cmath flatParameters unmeasuredCrack 720 100
  have hclassical : sim.Classical sim.start :=
    h flatParameters unmeasuredCrack 720 100 (by decide) (by decide)
  have ha0 : sim.start.a = 1 / 1000 := by
    simp [sim, Simulation.start, Simulation.of, unmeasuredCrack]
  have hdt : sim.dt = 25920 := by
    simp only [sim, Simulation.of]
    norm_num
  have hrate : ∀ b, sim.start.a ≤ b → sim.rate b = 15 / 10 ^ 11 * (1 / 10800) := by
    intro b hb
    rw [ha0] at hb
    exact flatParameters_rate (by linarith)
  have hrising := sim.rising_of_const (by norm_num) hrate
  rcases (sim.classical_iff_of_rising (by rw [hdt]; norm_num) hrising).mp hclassical with
    hone | hzero
  · rw [hdt] at hone
    norm_num at hone
  · rw [hrate _ le_rfl] at hzero
    norm_num at hzero

end PorcelainMonitor.Algorithms
