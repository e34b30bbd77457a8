import Mathlib.Order.Bounds.Basic
import Mathlib.Order.Bounds.Lattice
import PorcelainMonitor.Algorithms.Containment

/-!
# The figures of `run` and the steps it makes

`run` adds up over the steps, and after every hundredth one but the first it leaves
the loop if the particles are slow.  The number of steps, the time and the mean force
are computed from `max_steps`, as if it had not.
-/

namespace PorcelainMonitor.Algorithms

variable {R : Type} [Field R] [LinearOrder R] (math : CMath R) (draws : Nat → Nat → Vec R)

/-! ## The steps -/

/-- The simulation after so many steps. -/
def simAfter (sim : DEMSimulation R) (k : Nat) : DEMSimulation R :=
  steps math sim ((List.range k).map draws)

/-- The loop is left after the step with this number. -/
def Stops (sim : DEMSimulation R) (k : Nat) : Prop :=
  k % 100 = 0 ∧ 0 < k ∧
    averageVelocity math (simAfter math draws sim (k + 1)).particles < 1 / 10 ^ 12

instance (sim : DEMSimulation R) (k : Nat) : Decidable (Stops math draws sim k) :=
  inferInstanceAs (Decidable (_ ∧ _))

/-- The number of calls of `step()`, with so many to go and so many made. -/
def executedFrom (sim : DEMSimulation R) : Nat → Nat → Nat
  | 0, k => k
  | n + 1, k => if Stops math draws sim k then k + 1 else executedFrom sim n (k + 1)

/-- The number of calls of `step()` in a run. -/
def executed (sim : DEMSimulation R) (maxSteps : Int) : Nat :=
  executedFrom math draws sim maxSteps.toNat 0

/-- The norms of the forces after a step. -/
def stepForces (sim : DEMSimulation R) (k : Nat) : List R :=
  (simAfter math draws sim (k + 1)).particles.map fun p => vectorNorm math p.force

/-- The result is that of a run of `s` steps. -/
structure DescribesRun (dem : DEMObject R) (s : Nat) (result : DEMResult R) : Prop where
  totalSteps : result.totalSteps = s
  simulationTime : result.simulationTime = s * dem.sim.params.timeStep
  avgForce : result.avgForce =
    if s = 0 then 0
    else ((List.range s).map fun k => (stepForces math draws dem.sim k).sum).sum / s
  maxForce : IsGreatest (insert 0 {f | ∃ k < s, f ∈ stepForces math draws dem.sim k})
    result.maxForce
  energyHistory : result.energyHistory.length = (s + 9) / 10
  forceHistory : result.forceHistory.length = (s + 9) / 10
  particleCount : result.particleCount = result.particles.length

theorem simAfter_succ (sim : DEMSimulation R) (k : Nat) :
    simAfter math draws sim (k + 1) = step math (draws k) (simAfter math draws sim k) := by
  rw [simAfter, List.range_succ, List.map_append, steps, List.foldl_append]
  rfl

/-- All steps are made if the loop is not left before the last. -/
theorem executedFrom_eq_iff (sim : DEMSimulation R) (n k : Nat) :
    executedFrom math draws sim n k = k + n ↔
      ∀ i, k ≤ i → i + 1 < k + n → ¬ Stops math draws sim i := by
  induction n generalizing k with
  | zero =>
      refine iff_of_true rfl fun i hki hlt => ?_
      omega
  | succ n ih =>
      have hnext := ih (k + 1)
      have hsum : k + 1 + n = k + (n + 1) := by omega
      rw [hsum] at hnext
      rw [executedFrom]
      split
      · next hstop =>
          constructor
          · intro hlast i hki hlt
            omega
          · intro hnone
            by_contra hne
            exact hnone k (Nat.le_refl k) (by omega) hstop
      · next hgo =>
          rw [hnext]
          constructor
          · intro hnone i hki hlt
            rcases Nat.eq_or_lt_of_le hki with rfl | hki
            · exact hgo
            · exact hnone i hki hlt
          · intro hnone i hki hlt
            exact hnone i (Nat.le_of_succ_le hki) hlt

/-! ## The loop variables -/

/-- The loop variables after so many steps. -/
def statsAt (dem : DEMObject R) : Nat → RunState R
  | 0 => ⟨dem, 0, 0, [], []⟩
  | k + 1 => (statsAt dem k).advance math (draws k) k

theorem statsAt_dem (dem : DEMObject R) (k : Nat) :
    (statsAt math draws dem k).dem = { dem with sim := simAfter math draws dem.sim k } := by
  induction k with
  | zero => rfl
  | succ k ih =>
      have hstep : (statsAt math draws dem (k + 1)).dem =
          { (statsAt math draws dem k).dem with
            sim := step math (draws k) (statsAt math draws dem k).dem.sim } := rfl
      rw [hstep, ih, simAfter_succ]

theorem statsAt_sim (dem : DEMObject R) (k : Nat) :
    (statsAt math draws dem k).dem.sim = simAfter math draws dem.sim k :=
  congrArg DEMObject.sim (statsAt_dem math draws dem k)

/-- The forces that the loop looks at. -/
theorem stepForces_eq (dem : DEMObject R) (k : Nat) :
    stepForces math draws dem.sim k =
      (step math (draws k) (statsAt math draws dem k).dem.sim).particles.map fun p =>
        vectorNorm math p.force := by
  rw [stepForces, simAfter_succ, statsAt_sim]

theorem loop_eq_statsAt (dem : DEMObject R) (n k : Nat) :
    RunState.loop math draws n k (statsAt math draws dem k) =
      statsAt math draws dem (executedFrom math draws dem.sim n k) := by
  induction n generalizing k with
  | zero => rfl
  | succ n ih =>
      have hstep : (statsAt math draws dem k).advance math (draws k) k =
          statsAt math draws dem (k + 1) := rfl
      rw [RunState.loop, executedFrom, hstep, statsAt_sim]
      split
      · next hslow =>
          have hstop : Stops math draws dem.sim k := hslow
          rw [if_pos hstop]
      · next hfast =>
          have hgo : ¬ Stops math draws dem.sim k := hfast
          rw [if_neg hgo, ih]

theorem statsAt_sumForce (dem : DEMObject R) (k : Nat) :
    (statsAt math draws dem k).sumForce =
      ((List.range k).map fun i => (stepForces math draws dem.sim i).sum).sum := by
  induction k with
  | zero => rfl
  | succ k ih =>
      have hstep : (statsAt math draws dem (k + 1)).sumForce =
          (statsAt math draws dem k).sumForce + (stepForces math draws dem.sim k).sum := by
        rw [stepForces_eq]
        rfl
      rw [hstep, ih, List.range_succ, List.map_append, List.sum_append, List.map_singleton,
        List.sum_singleton]

omit [Field R] in
theorem isGreatest_foldl_max (a : R) (xs : List R) :
    IsGreatest (insert a {x | x ∈ xs}) (xs.foldl max a) := by
  induction xs generalizing a with
  | nil => simp
  | cons x xs ih =>
      obtain ⟨hmem, hupper⟩ := ih (max a x)
      rw [List.foldl_cons]
      refine ⟨?_, ?_⟩
      · rcases hmem with heq | hxs
        · rcases max_choice a x with hmax | hmax
          · exact .inl (heq.trans hmax)
          · exact .inr (List.mem_cons.mpr (.inl (heq.trans hmax)))
        · exact .inr (List.mem_cons_of_mem x hxs)
      · have htop : max a x ≤ xs.foldl max (max a x) := hupper (.inl rfl)
        rintro y (rfl | hy)
        · exact (le_max_left _ _).trans htop
        · rcases List.mem_cons.mp hy with rfl | hy
          · exact (le_max_right _ _).trans htop
          · exact hupper (.inr hy)

theorem statsAt_maxForce (dem : DEMObject R) (k : Nat) :
    IsGreatest (insert 0 {f | ∃ i < k, f ∈ stepForces math draws dem.sim i})
      (statsAt math draws dem k).maxForce := by
  induction k with
  | zero =>
      have hnone : {f | ∃ i < 0, f ∈ stepForces math draws dem.sim i} = ∅ := by
        simp
      rw [hnone]
      simp [statsAt]
  | succ k ih =>
      have hstep : (statsAt math draws dem (k + 1)).maxForce =
          max (statsAt math draws dem k).maxForce
            ((stepForces math draws dem.sim k).foldl max 0) := by
        rw [stepForces_eq]
        rfl
      have hset : insert 0 {f | ∃ i < k + 1, f ∈ stepForces math draws dem.sim i} =
          insert 0 {f | ∃ i < k, f ∈ stepForces math draws dem.sim i} ∪
            insert 0 {f | f ∈ stepForces math draws dem.sim k} := by
        ext f
        simp only [Nat.lt_succ_iff_lt_or_eq, Set.mem_insert_iff, Set.mem_ofPred_eq, Set.mem_union]
        constructor
        · rintro (hzero | ⟨i, hi | rfl, hf⟩)
          · exact .inl (.inl hzero)
          · exact .inl (.inr ⟨i, hi, hf⟩)
          · exact .inr (.inr hf)
        · rintro ((hzero | ⟨i, hi, hf⟩) | (hzero | hf))
          · exact .inl hzero
          · exact .inr ⟨i, .inl hi, hf⟩
          · exact .inl hzero
          · exact .inr ⟨k, .inr rfl, hf⟩
      rw [hstep, hset]
      exact ih.union (isGreatest_foldl_max 0 _)

theorem statsAt_histories (dem : DEMObject R) (k : Nat) :
    (statsAt math draws dem k).energyHistory.length = (k + 9) / 10 ∧
      (statsAt math draws dem k).forceHistory.length = (k + 9) / 10 := by
  induction k with
  | zero => exact ⟨rfl, rfl⟩
  | succ k ih =>
      obtain ⟨henergy, hforce⟩ := ih
      simp only [statsAt, RunState.advance]
      split
      · simp only [List.length_append, List.length_singleton, henergy, hforce]
        omega
      · rw [henergy, hforce]
        omega

/-- No step makes or loses a particle of the boundary. -/
theorem countP_steps (sim : DEMSimulation R) (draws : List (Nat → Vec R)) :
    (steps math sim draws).particles.countP (fun p => !p.isBoundary) =
      sim.particles.countP fun p => !p.isBoundary := by
  have hframed : (steps math sim draws).particles.map DEMParticle.framed =
      sim.particles.map DEMParticle.framed := steps_framed sim draws
  have hcount := congrArg (List.countP fun p => !p.isBoundary) hframed
  rw [List.countP_map, List.countP_map] at hcount
  exact hcount

/-! ## The result -/

/-- The figures of a run that returns describe the steps it has made exactly if
`max_steps` is not negative and the loop is not left before the last step. -/
theorem run_described_iff (dem after : DEMObject R) (maxSteps : Int) (result : DEMResult R)
    (hrun : dem.run math draws maxSteps = .ok (result, after)) :
    DescribesRun math draws dem (executed math draws dem.sim maxSteps) result ↔
      0 ≤ maxSteps ∧ ∀ k : Nat, (k : Int) + 1 < maxSteps → ¬ Stops math draws dem.sim k := by
  have hloop : RunState.loop math draws maxSteps.toNat 0 ⟨dem, 0, 0, [], []⟩ =
      statsAt math draws dem (executed math draws dem.sim maxSteps) :=
    loop_eq_statsAt math draws dem maxSteps.toNat 0
  have hall : executed math draws dem.sim maxSteps = maxSteps.toNat ↔
      ∀ k : Nat, (k : Int) + 1 < maxSteps → ¬ Stops math draws dem.sim k := by
    have hiff := executedFrom_eq_iff math draws dem.sim maxSteps.toNat 0
    rw [Nat.zero_add] at hiff
    refine hiff.trans (forall_congr' fun k => ?_)
    have hlt : k + 1 < maxSteps.toNat ↔ (k : Int) + 1 < maxSteps := by omega
    rw [hlt, forall_prop_of_true (Nat.zero_le k)]
  rw [DEMObject.run, hloop] at hrun
  split at hrun
  · cases hrun
  · cases hrun
    constructor
    · intro h
      have htotal : maxSteps = executed math draws dem.sim maxSteps := h.totalSteps
      exact ⟨by omega, hall.mp (by omega)⟩
    · intro ⟨hpos, hnone⟩
      have hsteps := hall.mpr hnone
      have htotal : maxSteps = executed math draws dem.sim maxSteps := by omega
      have htime : (maxSteps : R) = (executed math draws dem.sim maxSteps : R) := by
        have hcast := congrArg (fun n : Int => (n : R)) htotal
        rwa [Int.cast_natCast] at hcast
      refine ⟨htotal, ?_, ?_, ?_, ?_, ?_, ?_⟩
      · show (maxSteps : R) * dem.sim.params.timeStep = _
        rw [htime]
      · show (if 0 < maxSteps then
            (statsAt math draws dem (executed math draws dem.sim maxSteps)).sumForce / maxSteps
          else 0) = _
        rw [statsAt_sumForce, htime]
        by_cases hzero : executed math draws dem.sim maxSteps = 0
        · rw [if_pos hzero, if_neg (by omega)]
        · rw [if_neg hzero, if_pos (by omega)]
      · exact statsAt_maxForce math draws dem _
      · exact (statsAt_histories math draws dem _).1
      · exact (statsAt_histories math draws dem _).2
      · show (dem.sim.particles.countP (fun p => !p.isBoundary) : Int) =
          ((statsAt math draws dem (executed math draws dem.sim maxSteps)).dem.sim.particles.filter
            fun p => !p.isBoundary).length
        rw [statsAt_dem, ← List.countP_eq_length_filter]
        exact congrArg Int.ofNat (countP_steps math dem.sim _).symm

/-- The crack with the three grains in it. -/
def grainyCrack : DEMObject ℚ := { openCrack with sim := threeGrains }

/-- A run of twelve steps is not left early. -/
theorem run_described_iff_grainyCrack :
    ∃ result after,
      grainyCrack.run rationalMath (fun _ _ => 0) 12 = .ok (result, after) ∧
        result.totalSteps = 12 ∧
        DescribesRun rationalMath (fun _ _ => 0) grainyCrack
          (executed rationalMath (fun _ _ => 0) grainyCrack.sim 12) result := by
  refine ⟨_, _, rfl, rfl, ?_⟩
  refine (run_described_iff rationalMath (fun _ _ => 0) grainyCrack _ 12 _ rfl).mpr
    ⟨by decide, fun k hk hstops => ?_⟩
  obtain ⟨hhundred, hpos, -⟩ := hstops
  omega

/-- Nothing moves, so the loop is left after 101 steps, but 1000 are reported. -/
theorem early_exit_reports_all_steps :
    ¬ ∀ (math : CMath ℚ) (draws : Nat → Nat → Vec ℚ) (dem after : DEMObject ℚ) (maxSteps : Int)
        (result : DEMResult ℚ), dem.run math draws maxSteps = .ok (result, after) →
          DescribesRun math draws dem (executed math draws dem.sim maxSteps) result := by
  intro h
  let draws : Nat → Nat → Vec ℚ := fun _ _ => 0
  have htotal : (1000 : Int) = executed rationalMath draws openCrack.sim 1000 :=
    (h rationalMath draws openCrack _ 1000 _ rfl).totalSteps
  have hall : executedFrom rationalMath draws openCrack.sim 1000 0 = 0 + 1000 :=
    (Int.ofNat_inj.mp htotal).symm
  have hempty : (simAfter rationalMath draws openCrack.sim 101).particles = [] :=
    List.map_eq_nil_iff.mp (steps_framed openCrack.sim _)
  refine (executedFrom_eq_iff rationalMath draws openCrack.sim 1000 0).mp hall 100
    (Nat.zero_le _) (by omega) ⟨rfl, by omega, ?_⟩
  rw [hempty]
  decide +kernel

end PorcelainMonitor.Algorithms
