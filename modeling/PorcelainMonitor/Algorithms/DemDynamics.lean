import Mathlib.Algebra.Field.Rat
import Mathlib.Algebra.Module.Torsion.Pi
import Mathlib.Algebra.Order.Ring.Rat
import Mathlib.Data.Fintype.Basic
import Mathlib.Tactic.FinCases
import Mathlib.Tactic.Ring
import PorcelainMonitor.Algorithms.DemSimulation

/-!
# The motion of a particle

Collisions only write forces, and positions are integrated right after them, which
sets every force back to the weight.  So contact forces are gone before a velocity
is integrated, and a particle that is not put back into the crack moves as if
nothing touched it (`steps_particle`).  Each step integrates its velocity over
half a time step only.

The impulse law asks for two half kicks a step, contact forces included.  It
holds exactly in the degenerate cases (`impulseLaw_iff`).
-/

namespace PorcelainMonitor.Algorithms

variable {R : Type} [Field R] [LinearOrder R] {math : CMath R}

/-! ## Collisions write forces only -/

omit [Field R] [LinearOrder R] in
theorem set_of_getElem? {α : Type*} {l : List α} {i : Nat} {a : α} (h : l[i]? = some a) :
    l.set i a = l := by
  obtain ⟨hi, rfl⟩ := List.getElem?_eq_some_iff.mp h
  exact List.set_getElem_self hi

omit [LinearOrder R] in
/-- A particle without its force. -/
def DEMParticle.unforced (p : DEMParticle R) : DEMParticle R := { p with force := 0 }

/-- The same but for forces and contacts. -/
structure SameMotion (s t : DEMSimulation R) : Prop where
  params : t.params = s.params
  geometry : t.geometry = s.geometry
  particles : t.particles.map DEMParticle.unforced = s.particles.map DEMParticle.unforced

namespace SameMotion

variable {s t u : DEMSimulation R}

omit [LinearOrder R] in
theorem refl (s : DEMSimulation R) : SameMotion s s := ⟨rfl, rfl, rfl⟩

omit [LinearOrder R] in
theorem trans (h : SameMotion s t) (h' : SameMotion t u) : SameMotion s u :=
  ⟨h'.params.trans h.params, h'.geometry.trans h.geometry, h'.particles.trans h.particles⟩

omit [LinearOrder R] in
theorem getElem? (h : SameMotion s t) (i : Nat) :
    (t.particles[i]?).map DEMParticle.unforced = (s.particles[i]?).map DEMParticle.unforced := by
  rw [← List.getElem?_map, ← List.getElem?_map, h.particles]

end SameMotion

theorem computeContactForces_unforced (params : DEMParameters R) (a b : DEMParticle R) :
    (computeContactForces math params a b).1.unforced = a.unforced ∧
      (computeContactForces math params a b).2.1.unforced = b.unforced := by
  rw [computeContactForces]
  split
  · exact ⟨rfl, rfl⟩
  · exact ⟨rfl, rfl⟩

theorem sameMotion_collide (sim : DEMSimulation R) (i j : Nat) :
    SameMotion sim (collide math sim i j) := by
  rw [collide]
  split
  · next a b ha hb =>
      obtain ⟨ha', hb'⟩ : (computeContactForces math sim.params a b).1.unforced = a.unforced ∧ _ :=
        computeContactForces_unforced sim.params a b
      refine ⟨rfl, rfl, ?_⟩
      have hi : (sim.particles.map DEMParticle.unforced)[i]? = some a.unforced := by
        rw [List.getElem?_map, ha]
        rfl
      have hj : (sim.particles.map DEMParticle.unforced)[j]? = some b.unforced := by
        rw [List.getElem?_map, hb]
        rfl
      simp only [List.map_set, ha', hb', set_of_getElem? hi, set_of_getElem? hj]
  · exact .refl sim

theorem sameMotion_collideWith (i : Nat) (js : List Nat) (sim : DEMSimulation R) :
    SameMotion sim (collideWith math i js sim) := by
  induction js generalizing sim with
  | nil => exact .refl sim
  | cons j js ih =>
      rw [collideWith]
      split
      · exact .refl sim
      · exact (sameMotion_collide sim i j).trans (ih _)

theorem sameMotion_collideAll (is : List Nat) (sim : DEMSimulation R) :
    SameMotion sim (collideAll math is sim) := by
  induction is generalizing sim with
  | nil => exact .refl sim
  | cons i is ih =>
      rw [collideAll]
      split
      · exact sameMotion_collideWith i _ sim
      · exact (sameMotion_collideWith i _ sim).trans (ih _)

theorem sameMotion_detectCollisions (sim : DEMSimulation R) :
    SameMotion sim (detectCollisions math sim) :=
  SameMotion.trans (t := { sim with contacts := [] }) ⟨rfl, rfl, rfl⟩
    (sameMotion_collideAll _ _)

/-! ## The motion of a particle -/

/-- A step of a particle that nothing touches. -/
def coast (timeStep : R) (p : DEMParticle R) : DEMParticle R :=
  integratePosition timeStep (integrateVelocity timeStep p)

/-- The particle is put back into the crack in the next step. -/
def Replaced (math : CMath R) (sim : DEMSimulation R) (i : Nat) : Prop :=
  ∃ q, (advance math sim).particles[i]? = some q ∧ q.isFixed = false ∧
    outside sim.geometry q = true

omit [LinearOrder R] in
/-- Positions are integrated without a look at the force. -/
theorem integratePosition_congr {timeStep : R} {p q : DEMParticle R}
    (h : p.unforced = q.unforced) (hp : p.isFixed = false) :
    integratePosition timeStep p = integratePosition timeStep q := by
  obtain ⟨position, velocity, force, radius, mass, materialId, isBoundary, isFixed, id⟩ := p
  obtain
    ⟨position', velocity', force', radius', mass', materialId', isBoundary', isFixed', id'⟩ := q
  cases h
  cases hp
  rfl

theorem integrateVelocity_isFixed (timeStep : R) (p : DEMParticle R) :
    (integrateVelocity timeStep p).isFixed = p.isFixed := by
  rw [integrateVelocity]
  split <;> rfl

theorem advance_geometry (sim : DEMSimulation R) : (advance math sim).geometry = sim.geometry :=
  (sameMotion_detectCollisions (integrateVelocities sim)).geometry

theorem advance_params (sim : DEMSimulation R) : (advance math sim).params = sim.params :=
  (sameMotion_detectCollisions (integrateVelocities sim)).params

theorem step_params (points : Nat → Vec R) (sim : DEMSimulation R) :
    (step math points sim).params = sim.params := advance_params sim

section Particle

variable {sim : DEMSimulation R} {i : Nat} {p : DEMParticle R}

theorem advance_particle (hp : sim.particles[i]? = some p) (hfree : p.isFixed = false) :
    (advance math sim).particles[i]? = some (coast sim.params.timeStep p) := by
  have hsame : SameMotion (integrateVelocities sim)
      (detectCollisions math (integrateVelocities sim)) := sameMotion_detectCollisions _
  have hv : (integrateVelocities sim).particles[i]? =
      some (integrateVelocity sim.params.timeStep p) := by
    rw [integrateVelocities, List.getElem?_map, hp]
    rfl
  have hget := hsame.getElem? i
  rw [hv] at hget
  obtain ⟨q, hq, hunforced⟩ := Option.map_eq_some_iff.mp hget
  have hfixed : q.isFixed = false := by
    have h := congrArg DEMParticle.isFixed hunforced
    exact h.trans ((integrateVelocity_isFixed _ p).trans hfree)
  have hcoast : integratePosition sim.params.timeStep q = coast sim.params.timeStep p :=
    integratePosition_congr hunforced hfixed
  rw [advance, integratePositions, List.getElem?_map, hq, hsame.params, ← hcoast]
  rfl

theorem coast_isFixed (timeStep : R) (hfree : p.isFixed = false) :
    (coast timeStep p).isFixed = false := by
  have hfixed : (integrateVelocity timeStep p).isFixed = false :=
    (integrateVelocity_isFixed timeStep p).trans hfree
  simp [coast, integratePosition, hfixed]

/-- A particle that is not put back moves as if nothing touched it. -/
theorem step_particle (points : Nat → Vec R) (hp : sim.particles[i]? = some p)
    (hfree : p.isFixed = false) (hkept : ¬ Replaced math sim i) :
    (step math points sim).particles[i]? = some (coast sim.params.timeStep p) := by
  have hadvance : (advance math sim).particles[i]? = some (coast sim.params.timeStep p) :=
    advance_particle hp hfree
  have hfixed := coast_isFixed sim.params.timeStep hfree
  have hinside : outside sim.geometry (coast sim.params.timeStep p) = false := by
    cases h : outside sim.geometry (coast sim.params.timeStep p) with
    | false => rfl
    | true => exact absurd ⟨_, hadvance, hfixed, h⟩ hkept
  rw [step, applyBoundaryConditions, List.getElem?_mapIdx, hadvance, advance_geometry]
  simp [applyBoundary, hfixed, hinside]

theorem steps_particle (draws : List (Nat → Vec R)) (hp : sim.particles[i]? = some p)
    (hfree : p.isFixed = false)
    (hkept : ∀ k < draws.length, ¬ Replaced math (steps math sim (draws.take k)) i) :
    (steps math sim draws).particles[i]? =
      some ((coast sim.params.timeStep)^[draws.length] p) := by
  induction draws generalizing sim p with
  | nil => exact hp
  | cons points draws ih =>
      have hfirst := step_particle points hp hfree (hkept 0 (Nat.succ_pos _))
      have hrest := ih hfirst (coast_isFixed _ hfree) fun k hk =>
        hkept (k + 1) (Nat.succ_lt_succ hk)
      rw [step_params] at hrest
      exact hrest

end Particle

/-! ## Contacts -/

omit [LinearOrder R] in
def forceAt (sim : DEMSimulation R) (i : Nat) : Vec R :=
  ((sim.particles[i]?).map DEMParticle.force).getD 0

/-- The total force that the collisions of the next step add for a particle. -/
def contactForce (math : CMath R) (sim : DEMSimulation R) (i : Nat) : Vec R :=
  forceAt (detectCollisions math (integrateVelocities sim)) i -
    forceAt (integrateVelocities sim) i

/-- No other particle passes the test of `compute_contact_forces` with this one. -/
def Apart (math : CMath R) (sim : DEMSimulation R) (i : Nat) : Prop :=
  ∀ j a b, j ≠ i → sim.particles[min i j]? = some a → sim.particles[max i j]? = some b →
    touching math a b = false

/-- The particle has no contact in the next step. -/
def Untouched (math : CMath R) (sim : DEMSimulation R) (i : Nat) : Prop :=
  Apart math (integrateVelocities sim) i

/-! ## The velocity -/

/-- The acceleration `(0, 0, -9.81)`. -/
def gravity : Vec R := ![0, 0, -(981 / 100)]

def weight (p : DEMParticle R) : Vec R := ![0, 0, -(981 / 100) * p.mass]

omit [LinearOrder R] in
theorem vectorAdd_eq (a b : Vec R) : vectorAdd a b = a + b := by
  funext i
  fin_cases i <;> rfl

omit [LinearOrder R] in
theorem vectorMul_eq (v : Vec R) (s : R) : vectorMul v s = s • v := by
  funext i
  fin_cases i <;> exact mul_comm _ _

omit [LinearOrder R] in
theorem weight_eq (p : DEMParticle R) : weight p = p.mass • gravity := by
  funext i
  fin_cases i
  · exact (mul_zero _).symm
  · exact (mul_zero _).symm
  · exact mul_comm _ _

/-- Half a time step of gravity, and the force is the weight again. -/
theorem coast_of_weight {timeStep : R} {p : DEMParticle R} (hfree : p.isFixed = false)
    (hmass : 0 < p.mass) (hforce : p.force = weight p) :
    (coast timeStep p).velocity = p.velocity + (timeStep * (1 / 2)) • gravity ∧
      (coast timeStep p).mass = p.mass ∧ (coast timeStep p).force = weight p := by
  have hmassive : (!p.isFixed && decide (0 < p.mass)) = true := by simp [hfree, hmass]
  have hacc : vectorMul p.force (1 / p.mass) = gravity := by
    rw [hforce, vectorMul_eq, weight_eq, smul_smul, one_div_mul_cancel (ne_of_gt hmass), one_smul]
  have hkick : integrateVelocity timeStep p =
      { p with velocity := p.velocity + (timeStep * (1 / 2)) • gravity } := by
    rw [integrateVelocity, if_pos hmassive]
    simp only [hacc, vectorAdd_eq, vectorMul_eq]
  have hpositive : (!p.isFixed) = true := by rw [hfree]; rfl
  rw [coast, hkick, integratePosition, if_pos hpositive]
  exact ⟨rfl, rfl, rfl⟩

theorem coast_iterate {timeStep : R} (n : Nat) {p : DEMParticle R} (hfree : p.isFixed = false)
    (hmass : 0 < p.mass) (hforce : p.force = weight p) :
    ((coast timeStep)^[n] p).velocity = p.velocity + (n * (timeStep * (1 / 2))) • gravity := by
  induction n generalizing p with
  | zero => simp
  | succ n ih =>
      obtain ⟨hvelocity, hmass', hforce'⟩ :
          (coast timeStep p).velocity = p.velocity + (timeStep * (1 / 2)) • gravity ∧ _ :=
        coast_of_weight hfree hmass hforce
      have hweight : weight (coast timeStep p) = weight p := by rw [weight_eq, weight_eq, hmass']
      rw [Function.iterate_succ_apply, ih (coast_isFixed timeStep hfree) (by rwa [hmass'])
        (hforce'.trans hweight.symm), hvelocity, add_assoc, ← add_smul]
      rw [Nat.cast_succ, add_one_mul, add_comm (timeStep * (1 / 2))]

/-! ## The impulse law -/

section Law

variable (math) (sim : DEMSimulation R) (draws : List (Nat → Vec R)) (i : Nat) (p : DEMParticle R)

/-- The state before step `k`. -/
def before (k : Nat) : DEMSimulation R := steps math sim (draws.take k)

/-- `p` is the particle at `i`, is not fixed, has a positive mass and its weight as
force, and is not put back into the crack during the steps. -/
structure Tracked : Prop where
  there : sim.particles[i]? = some p
  free : p.isFixed = false
  mass : 0 < p.mass
  force : p.force = weight p
  kept : ∀ k < draws.length, ¬ Replaced math (before math sim draws k) i

/-- The particle has no contact in the steps, but for those listed. -/
def UntouchedBut (ks : List Nat) : Prop :=
  ∀ k < draws.length, k ∉ ks → Untouched math (before math sim draws k) i

omit [LinearOrder R] in
def velocityAt (sim : DEMSimulation R) (i : Nat) : Vec R :=
  ((sim.particles[i]?).map DEMParticle.velocity).getD 0

/-- Without a contact, the steps add their time in gravity to the velocity.  A
contact in one step only, followed by another step, changes the velocity from what
it is without the contact by the time step times the contact force over the mass. -/
structure ImpulseLaw : Prop where
  gravity : UntouchedBut math sim draws i [] →
    velocityAt (steps math sim draws) i =
      p.velocity + (draws.length * sim.params.timeStep) • gravity
  contact : ∀ k, draws.length = k + 2 → UntouchedBut math sim draws i [k] →
    velocityAt (steps math sim draws) i =
      ((coast sim.params.timeStep)^[draws.length] p).velocity +
        (sim.params.timeStep / p.mass) • contactForce math (before math sim draws k) i

variable {math sim draws i p}

theorem Tracked.velocityAt_steps (h : Tracked math sim draws i p) :
    velocityAt (steps math sim draws) i =
      ((coast sim.params.timeStep)^[draws.length] p).velocity := by
  rw [velocityAt, steps_particle draws h.there h.free h.kept]
  rfl

variable [IsStrictOrderedRing R]

omit [LinearOrder R] [IsStrictOrderedRing R] in
/-- A vector along gravity is zero only if its factor is. -/
theorem smul_gravity_eq_zero [CharZero R] {a : R} (h : a • (gravity : Vec R) = 0) : a = 0 := by
  have hz : a * -(981 / 100) = 0 := congrFun h 2
  rcases mul_eq_zero.mp hz with ha | hg
  · exact ha
  · norm_num at hg

theorem Tracked.gravity_iff (h : Tracked math sim draws i p) :
    velocityAt (steps math sim draws) i =
        p.velocity + (draws.length * sim.params.timeStep) • gravity ↔
      draws = [] ∨ sim.params.timeStep = 0 := by
  rw [h.velocityAt_steps, coast_iterate _ h.free h.mass h.force, add_right_inj]
  constructor
  · intro hsame
    have hdiff : ((draws.length : R) * sim.params.timeStep * (1 / 2)) • (gravity : Vec R) = 0 := by
      have hhalf : (draws.length : R) * sim.params.timeStep * (1 / 2) =
          draws.length * sim.params.timeStep - draws.length * (sim.params.timeStep * (1 / 2)) := by
        ring
      rw [hhalf, sub_smul, hsame, sub_self]
    have hzero := smul_gravity_eq_zero hdiff
    simpa using hzero
  · rintro (rfl | hstep)
    · simp
    · simp [hstep]

theorem Tracked.contact_iff (h : Tracked math sim draws i p) (c : Vec R) :
    velocityAt (steps math sim draws) i =
        ((coast sim.params.timeStep)^[draws.length] p).velocity +
          (sim.params.timeStep / p.mass) • c ↔
      sim.params.timeStep = 0 ∨ c = 0 := by
  have hmass : p.mass ≠ 0 := ne_of_gt h.mass
  rw [h.velocityAt_steps, left_eq_add, smul_eq_zero, div_eq_zero_iff, or_iff_left hmass]

/-- The impulse law holds for a particle exactly if, should it have no contact,
there is no step or the time step is zero, and, should it have contacts in the last
step but one only, the time step or the contact force is zero. -/
theorem impulseLaw_iff (h : Tracked math sim draws i p) :
    ImpulseLaw math sim draws i p ↔
      (UntouchedBut math sim draws i [] → draws = [] ∨ sim.params.timeStep = 0) ∧
      ∀ k, draws.length = k + 2 → UntouchedBut math sim draws i [k] →
        sim.params.timeStep = 0 ∨ contactForce math (before math sim draws k) i = 0 := by
  constructor
  · intro hlaw
    exact ⟨fun hfree => h.gravity_iff.mp (hlaw.gravity hfree),
      fun k hk hfree => (h.contact_iff _).mp (hlaw.contact k hk hfree)⟩
  · rintro ⟨hgravity, hcontact⟩
    exact ⟨fun hfree => h.gravity_iff.mpr (hgravity hfree),
      fun k hk hfree => (h.contact_iff _).mpr (hcontact k hk hfree)⟩

end Law

/-! ## One particle -/

/-- A grain at rest in a crack of length one, and nothing else. -/
def grain : DEMParticle ℚ where
  position := 0
  velocity := 0
  force := ![0, 0, -(981 / 100)]
  radius := 1 / 10
  mass := 1
  materialId := 1
  isBoundary := false
  isFixed := false
  id := 0

def oneGrain : DEMSimulation ℚ where
  params := ⟨1, 0, 1, 1 / 100, 0⟩
  geometry := ⟨0, 1, 1, 1⟩
  particles := [grain]
  contacts := []

/-- One step, with nothing to draw. -/
def oneDraw : List (Nat → Vec ℚ) := [fun _ => 0]

def plainMath : CMath ℚ := ⟨3, id, fun x _ => x, id, id⟩

theorem tracked_oneGrain : Tracked plainMath oneGrain oneDraw 0 grain where
  there := rfl
  free := rfl
  mass := zero_lt_one
  force := by
    rw [weight, show grain.mass = 1 from rfl, mul_one]
    rfl
  kept := by
    intro k hk hreplaced
    obtain rfl : k = 0 := Nat.lt_one_iff.mp hk
    obtain ⟨q, hq, -, houtside⟩ := hreplaced
    have hcoast : (advance plainMath oneGrain).particles[0]? =
        some (coast oneGrain.params.timeStep grain) := advance_particle rfl rfl
    obtain rfl : coast oneGrain.params.timeStep grain = q :=
      Option.some.inj (hcoast.symm.trans hq)
    have hinside : outside oneGrain.geometry (coast oneGrain.params.timeStep grain) = false := by
      decide +kernel
    exact absurd (hinside.symm.trans houtside) (by decide)

/-- The law for a step of the grain. -/
theorem impulseLaw_iff_grain :
    ImpulseLaw plainMath oneGrain oneDraw 0 grain ↔
      (UntouchedBut plainMath oneGrain oneDraw 0 [] →
        oneDraw = [] ∨ oneGrain.params.timeStep = 0) ∧
      ∀ k, oneDraw.length = k + 2 → UntouchedBut plainMath oneGrain oneDraw 0 [k] →
        oneGrain.params.timeStep = 0 ∨
          contactForce plainMath (before plainMath oneGrain oneDraw k) 0 = 0 :=
  impulseLaw_iff tracked_oneGrain

/-- In one step the grain gets half the velocity that gravity gives in its time. -/
theorem grain_falls_half :
    ¬ ∀ (math : CMath ℚ) (sim : DEMSimulation ℚ) (draws : List (Nat → Vec ℚ)) (i : Nat)
        (p : DEMParticle ℚ), Tracked math sim draws i p → ImpulseLaw math sim draws i p := by
  intro h
  have hlaw := h plainMath oneGrain oneDraw 0 grain tracked_oneGrain
  have huntouched : UntouchedBut plainMath oneGrain oneDraw 0 [] := by
    intro k hk _ j a b hj _ hb
    obtain rfl : k = 0 := Nat.lt_one_iff.mp hk
    have hlt : max 0 j < 1 := (List.getElem?_eq_some_iff.mp hb).1
    rw [Nat.zero_max] at hlt
    exact absurd (Nat.lt_one_iff.mp hlt) hj
  rcases tracked_oneGrain.gravity_iff.mp (hlaw.gravity huntouched) with hnil | hstep
  · cases hnil
  · revert hstep
    decide +kernel

end PorcelainMonitor.Algorithms
