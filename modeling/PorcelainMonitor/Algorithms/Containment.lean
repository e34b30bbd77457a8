import Mathlib.Data.List.Forall2
import Mathlib.Tactic.Linarith
import PorcelainMonitor.Algorithms.Packing

/-!
# What the steps keep, and where particles are after one

A step writes velocities, forces, and positions of particles that are not fixed.
The boundary conditions come last.  They stop the fixed particles and draw a new
place for a free one that is too far from the origin of the crack, and the box of
the draws lies within the limit of that test.
-/

namespace PorcelainMonitor.Algorithms

variable {R : Type} [Field R] [LinearOrder R] {math : CMath R}

/-! ## What the steps keep -/

omit [LinearOrder R] in
/-- What no step changes of a particle: the place of a fixed one, and all but motion. -/
def DEMParticle.framed (p : DEMParticle R) : DEMParticle R :=
  { p with position := if p.isFixed then p.position else 0, velocity := 0, force := 0 }

theorem framed_integrateVelocity (timeStep : R) (p : DEMParticle R) :
    (integrateVelocity timeStep p).framed = p.framed := by
  rw [integrateVelocity]
  split <;> rfl

omit [LinearOrder R] in
theorem framed_integratePosition (timeStep : R) (p : DEMParticle R) :
    (integratePosition timeStep p).framed = p.framed := by
  rw [integratePosition]
  split
  · next hfree =>
      have hfixed : p.isFixed = false := by simpa using hfree
      simp [DEMParticle.framed, hfixed]
  · rfl

theorem framed_applyBoundary (geometry : DEMGeometry R) (point : Vec R) (p : DEMParticle R) :
    (applyBoundary geometry point p).framed = p.framed := by
  rw [applyBoundary]
  split
  · rfl
  · next hfree =>
      split
      · simp [DEMParticle.framed, hfree]
      · rfl

theorem step_framed (points : Nat → Vec R) (sim : DEMSimulation R) :
    (step math points sim).particles.map DEMParticle.framed =
      sim.particles.map DEMParticle.framed := by
  have hvelocities : (integrateVelocities sim).particles.map DEMParticle.framed =
      sim.particles.map DEMParticle.framed := by
    rw [integrateVelocities, List.map_map]
    exact List.map_congr_left fun p _ => framed_integrateVelocity _ p
  have hcollisions : ∀ t : DEMSimulation R, (detectCollisions math t).particles.map
      DEMParticle.framed = t.particles.map DEMParticle.framed := by
    intro t
    have hsame : SameMotion t (detectCollisions math t) := sameMotion_detectCollisions t
    have hmotion := congrArg (List.map DEMParticle.framed) hsame.particles
    rw [List.map_map, List.map_map] at hmotion
    exact hmotion
  have hpositions : ∀ t : DEMSimulation R, (integratePositions t).particles.map
      DEMParticle.framed = t.particles.map DEMParticle.framed := by
    intro t
    rw [integratePositions, List.map_map]
    exact List.map_congr_left fun p _ => framed_integratePosition _ p
  have hboundary : ∀ t : DEMSimulation R, (applyBoundaryConditions points t).particles.map
      DEMParticle.framed = t.particles.map DEMParticle.framed := by
    intro t
    refine List.ext_getElem? fun i => ?_
    rw [applyBoundaryConditions, List.getElem?_map, List.getElem?_map, List.getElem?_mapIdx,
      Option.map_map]
    exact Option.map_congr fun p _ => framed_applyBoundary _ _ p
  rw [step, hboundary, advance, hpositions, hcollisions, hvelocities]

theorem steps_framed (sim : DEMSimulation R) (draws : List (Nat → Vec R)) :
    (steps math sim draws).particles.map DEMParticle.framed =
      sim.particles.map DEMParticle.framed := by
  induction draws generalizing sim with
  | nil => rfl
  | cons points draws ih => exact (ih (step math points sim)).trans (step_framed points sim)

theorem steps_geometry (sim : DEMSimulation R) (draws : List (Nat → Vec R)) :
    (steps math sim draws).geometry = sim.geometry := by
  induction draws generalizing sim with
  | nil => rfl
  | cons points draws ih => exact (ih (step math points sim)).trans (advance_geometry sim)

/-! ## Where particles are after a step -/

/-- What `random_point_in_crack` can return. -/
def Drawable (geometry : DEMGeometry R) (point : Vec R) : Prop :=
  ∃ offset, (∀ k, |offset k| ≤ halfSize geometry k) ∧ point = randomPointInCrack geometry offset

/-- The largest extent of the crack. -/
def extent (geometry : DEMGeometry R) : R :=
  max (max geometry.crackLength (geometry.crackWidth * (1 / 10 ^ 6)))
    (geometry.crackDepth * (1 / 10 ^ 6))

/-- A particle before and after some steps. -/
structure Contained (geometry : DEMGeometry R) (p q : DEMParticle R) : Prop where
  id : q.id = p.id
  radius : q.radius = p.radius
  mass : q.mass = p.mass
  isBoundary : q.isBoundary = p.isBoundary
  isFixed : q.isFixed = p.isFixed
  fixed : p.isFixed = true →
    q.position = p.position ∧ q.velocity = ![0, 0, 0] ∧ q.force = ![0, 0, 0]
  free : p.isFixed = false → ∀ k, |q.position k - geometry.crackOrigin k| ≤ extent geometry

/-- The end of a step for a particle. -/
structure Settled (geometry : DEMGeometry R) (q : DEMParticle R) : Prop where
  fixed : q.isFixed = true → q.velocity = ![0, 0, 0] ∧ q.force = ![0, 0, 0]
  free : q.isFixed = false → ∀ k, |q.position k - geometry.crackOrigin k| ≤ extent geometry

section Limit

variable [IsStrictOrderedRing R]

/-- The box of the draws is within the limit. -/
theorem halfSize_le_extent {geometry : DEMGeometry R} {k : Fin 3} (h : 0 ≤ halfSize geometry k) :
    halfSize geometry k ≤ extent geometry := by
  fin_cases k
  · refine le_trans ?_ ((le_max_left _ _).trans (le_max_left _ _))
    have hpos : 0 ≤ geometry.crackLength * (5 / 10) := h
    show geometry.crackLength * (5 / 10) ≤ geometry.crackLength
    linarith
  · refine le_trans ?_ ((le_max_right _ _).trans (le_max_left _ _))
    have hpos : 0 ≤ geometry.crackWidth * (5 / 10) * (1 / 10 ^ 6) := h
    show geometry.crackWidth * (5 / 10) * (1 / 10 ^ 6) ≤ geometry.crackWidth * (1 / 10 ^ 6)
    linarith
  · refine le_trans ?_ (le_max_right _ _)
    have hpos : 0 ≤ geometry.crackDepth * (5 / 10) * (1 / 10 ^ 6) := h
    show geometry.crackDepth * (5 / 10) * (1 / 10 ^ 6) ≤ geometry.crackDepth * (1 / 10 ^ 6)
    linarith

theorem Drawable.within {geometry : DEMGeometry R} {point : Vec R} (h : Drawable geometry point)
    (k : Fin 3) : |point k - geometry.crackOrigin k| ≤ extent geometry := by
  obtain ⟨offset, hoffset, rfl⟩ := h
  have hrel : randomPointInCrack geometry offset k - geometry.crackOrigin k = offset k := by
    fin_cases k <;> exact add_sub_cancel_left _ _
  rw [hrel]
  exact (hoffset k).trans (halfSize_le_extent ((abs_nonneg _).trans (hoffset k)))

omit [IsStrictOrderedRing R] in
theorem within_of_not_outside {geometry : DEMGeometry R} {p : DEMParticle R}
    (h : outside geometry p = false) (k : Fin 3) :
    |p.position k - geometry.crackOrigin k| ≤ extent geometry := by
  have hlt : ∀ k : Fin 3, ¬ extent geometry < |vectorSub p.position geometry.crackOrigin k| := by
    simp only [outside, Bool.or_eq_false_iff, decide_eq_false_iff_not] at h
    obtain ⟨⟨hx, hy⟩, hz⟩ := h
    intro k
    fin_cases k
    · exact hx
    · exact hy
    · exact hz
  have hle := not_lt.mp (hlt k)
  fin_cases k <;> exact hle

theorem settled_applyBoundary {geometry : DEMGeometry R} {point : Vec R}
    (h : Drawable geometry point) (p : DEMParticle R) :
    Settled geometry (applyBoundary geometry point p) := by
  rw [applyBoundary]
  split
  · next hfixed =>
      exact ⟨fun _ => ⟨rfl, rfl⟩, fun hfree => absurd (hfree.symm.trans hfixed) (by simp)⟩
  · next hfree =>
      split
      · exact ⟨fun hfixed => absurd hfixed hfree, fun _ => h.within⟩
      · next hinside =>
          refine ⟨fun hfixed => absurd hfixed hfree, fun _ => ?_⟩
          exact within_of_not_outside (Bool.eq_false_iff.mpr hinside)

theorem step_settled {points : Nat → Vec R} (sim : DEMSimulation R)
    (h : ∀ i, Drawable sim.geometry (points i)) :
    ∀ q ∈ (step math points sim).particles, Settled sim.geometry q := by
  intro q hq
  rw [step, applyBoundaryConditions, advance_geometry] at hq
  obtain ⟨i, hi, rfl⟩ := List.mem_mapIdx.mp hq
  exact settled_applyBoundary (h i) _

end Limit

/-- Two particles that agree in what no step changes. -/
theorem contained_of_framed {geometry : DEMGeometry R} {p q : DEMParticle R}
    (hframed : q.framed = p.framed) (hsettled : Settled geometry q) : Contained geometry p q := by
  have hfixed : q.isFixed = p.isFixed := (congrArg DEMParticle.isFixed hframed :)
  refine ⟨(congrArg DEMParticle.id hframed :), (congrArg DEMParticle.radius hframed :),
    (congrArg DEMParticle.mass hframed :), (congrArg DEMParticle.isBoundary hframed :), hfixed,
    fun hp => ⟨?_, hsettled.fixed (hfixed.trans hp)⟩, fun hp => hsettled.free (hfixed.trans hp)⟩
  have hposition := congrArg DEMParticle.position hframed
  simpa [DEMParticle.framed, hp, hfixed.trans hp] using hposition

/-- After any number of steps and one more, every particle is contained, in order. -/
theorem steps_contained [IsStrictOrderedRing R] (math : CMath R) (sim : DEMSimulation R)
    (draws : List (Nat → Vec R)) (points : Nat → Vec R)
    (hdraws : ∀ i, Drawable sim.geometry (points i)) :
    List.Forall₂ (Contained sim.geometry) sim.particles
      (steps math sim (draws ++ [points])).particles := by
  have hsteps : steps math sim (draws ++ [points]) = step math points (steps math sim draws) :=
    List.foldl_append
  have hgeometry : (steps math sim draws).geometry = sim.geometry := steps_geometry sim draws
  have hsettled : ∀ q ∈ (steps math sim (draws ++ [points])).particles,
      Settled sim.geometry q := by
    rw [hsteps, ← hgeometry]
    exact step_settled _ (hgeometry ▸ hdraws)
  have hframed : (steps math sim (draws ++ [points])).particles.map DEMParticle.framed =
      sim.particles.map DEMParticle.framed := steps_framed sim _
  have hpairs : List.Forall₂ (· = ·) ((steps math sim (draws ++ [points])).particles.map
      DEMParticle.framed) (sim.particles.map DEMParticle.framed) := by
    rw [hframed, List.forall₂_eq_eq_eq]
  rw [List.forall₂_map_left_iff, List.forall₂_map_right_iff] at hpairs
  have hboth := (List.forall₂_and_left _ _).mpr ⟨hsettled, hpairs⟩
  exact hboth.flip.imp fun p q h => contained_of_framed h.2 h.1

/-! ### Three grains -/

/-- The grain, a fixed one that it touches, and one that leaves the crack in the second
step. -/
def threeGrains : DEMSimulation ℚ where
  params := ⟨70, 1 / 5, 1, 1 / 100, 1 / 2⟩
  geometry := oneGrain.geometry
  particles := [
    grain,
    { grain with
      position := ![1 / 10, 0, 0]
      velocity := ![1, 0, 0]
      isBoundary := true
      isFixed := true
      id := 1 },
    { grain with
      position := ![0, 1 / 2, 0]
      velocity := ![60, 0, 0]
      id := 2 }]
  contacts := []

/-- A first step, whose draws are not within the crack. -/
def farDraw : List (Nat → Vec ℚ) := [fun _ => ![9, 9, 9]]

/-- The second step puts the fast grain back. -/
theorem steps_contained_threeGrains :
    Replaced rationalMath (steps rationalMath threeGrains farDraw) 2 ∧
      List.Forall₂ (Contained threeGrains.geometry) threeGrains.particles
        (steps rationalMath threeGrains
          (farDraw ++ [fun _ => randomPointInCrack threeGrains.geometry 0])).particles := by
  constructor
  · let before := steps rationalMath threeGrains farDraw
    have hleaves : ((advance rationalMath before).particles[2]?).any
        (fun q => !q.isFixed && outside before.geometry q) = true := by
      decide +kernel
    obtain ⟨q, hq, hout⟩ := (Option.any_eq_true _ _).mp hleaves
    obtain ⟨hfree, houtside⟩ := Bool.and_eq_true_iff.mp hout
    exact ⟨q, hq, by simpa using hfree, houtside⟩
  · refine steps_contained rationalMath threeGrains farDraw _ fun _ => ⟨0, fun k => ?_, rfl⟩
    exact abs_zero.trans_le (halfSize_oneGrain_nonneg k)

end PorcelainMonitor.Algorithms
