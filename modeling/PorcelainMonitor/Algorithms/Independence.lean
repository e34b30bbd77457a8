import PorcelainMonitor.Algorithms.Containment

/-!
# Particles do not see each other

The forces of the contacts are written between the two halves of a step, and both halves
forget them: `integrate_positions` gives each free particle its weight as its force, and
`apply_boundary_conditions` clears the force of a fixed one.  So a step of all particles is
a step of each of them alone (`step_alone`), and the path of a particle depends neither
on the other particles nor on the parameters of the contacts (`steps_independent`).
-/

namespace PorcelainMonitor.Algorithms

variable {R : Type} [Field R] [LinearOrder R] {math : CMath R}

/-- A step of a particle without any others. -/
def DEMParticle.alone (geometry : DEMGeometry R) (timeStep : R) (point : Vec R)
    (p : DEMParticle R) : DEMParticle R :=
  applyBoundary geometry point (coast timeStep p)

/-- The second half of a step does not look at the force. -/
theorem applyBoundary_congr (geometry : DEMGeometry R) (timeStep : R) (point : Vec R)
    {p q : DEMParticle R} (h : p.unforced = q.unforced) :
    applyBoundary geometry point (integratePosition timeStep p) =
      applyBoundary geometry point (integratePosition timeStep q) := by
  have hfixed : p.isFixed = q.isFixed :=
    show p.unforced.isFixed = q.unforced.isFixed from congrArg DEMParticle.isFixed h
  cases hp : p.isFixed with
  | false => rw [integratePosition_congr h hp]
  | true =>
      have hstays : ∀ r : DEMParticle R, r.isFixed = true →
          applyBoundary geometry point (integratePosition timeStep r) =
            { r.unforced with velocity := ![0, 0, 0], force := ![0, 0, 0] } := by
        intro r hr
        simp [integratePosition, applyBoundary, hr, DEMParticle.unforced]
      rw [hstays p hp, hstays q (hfixed.symm.trans hp), h]

/-- A step of the simulation is a step of each particle alone. -/
theorem step_alone (points : Nat → Vec R) (sim : DEMSimulation R) (i : Nat) :
    (step math points sim).particles[i]? =
      (sim.particles[i]?).map (.alone sim.geometry sim.params.timeStep (points i)) := by
  have hsame : SameMotion (integrateVelocities sim)
      (detectCollisions math (integrateVelocities sim)) := sameMotion_detectCollisions _
  have hvelocities : (integrateVelocities sim).particles[i]? =
      (sim.particles[i]?).map (integrateVelocity sim.params.timeStep) := by
    rw [integrateVelocities, List.getElem?_map]
  have hget := hsame.getElem? i
  rw [step, applyBoundaryConditions, advance_geometry, List.getElem?_mapIdx, advance,
    integratePositions, List.getElem?_map, hsame.params]
  rw [hvelocities] at hget
  cases hp : sim.particles[i]? with
  | none =>
      rw [hp] at hget
      rw [Option.map_eq_none_iff.mp hget]
      rfl
  | some p =>
      rw [hp] at hget
      obtain ⟨q, hq, hunforced⟩ := Option.map_eq_some_iff.mp hget
      rw [hq]
      exact congrArg some (applyBoundary_congr _ _ _ hunforced)

/-- The path of a particle, from the points drawn for it. -/
def DEMParticle.path (geometry : DEMGeometry R) (timeStep : R) (points : List (Vec R))
    (p : DEMParticle R) : DEMParticle R :=
  points.foldl (fun p point => p.alone geometry timeStep point) p

theorem steps_alone (draws : List (Nat → Vec R)) (sim : DEMSimulation R) (i : Nat) :
    (steps math sim draws).particles[i]? = (sim.particles[i]?).map
      (.path sim.geometry sim.params.timeStep (draws.map fun points => points i)) := by
  induction draws generalizing sim with
  | nil => exact Option.map_id'.symm
  | cons points draws ih =>
      have hrest := ih (step math points sim)
      rw [step_alone, step_params, Option.map_map] at hrest
      have hgeometry : (step math points sim).geometry = sim.geometry := advance_geometry sim
      rw [hgeometry] at hrest
      exact hrest

/-- Two simulations in the same crack take a particle the same way, whatever else is in them
and whatever the parameters of the contacts are, as long as its draws are the same. -/
theorem steps_independent {math' : CMath R} {sim sim' : DEMSimulation R}
    {draws draws' : List (Nat → Vec R)} {i j : Nat} (hgeometry : sim'.geometry = sim.geometry)
    (htime : sim'.params.timeStep = sim.params.timeStep)
    (hparticle : sim'.particles[j]? = sim.particles[i]?)
    (hdraws : (draws'.map fun points => points j) = draws.map fun points => points i) :
    (steps math' sim' draws').particles[j]? = (steps math sim draws).particles[i]? := by
  rw [steps_alone, steps_alone, hgeometry, htime, hparticle, hdraws]

/-- The collision with the fixed grain writes a force, and the path is that of the grain
by itself. -/
theorem steps_independent_grain :
    contactForce rationalMath threeGrains 0 ≠ 0 ∧
      (steps rationalMath threeGrains (farDraw ++ farDraw)).particles[0]? =
        (steps rationalMath oneGrain (farDraw ++ farDraw)).particles[0]? := by
  constructor
  · decide +kernel
  · exact steps_independent rfl rfl rfl rfl

end PorcelainMonitor.Algorithms
