import Mathlib.Algebra.Module.Pi
import Mathlib.Data.Fin.VecNotation
import PorcelainMonitor.Algorithms.CrackPropagation

/-!
# `DEMSimulation`

The discrete element simulation of `dem_simulation.cpp`: particles under gravity
and contact forces in a crack.  A step goes through four phases, which share the
field `force` of a particle: velocities are integrated from it, collisions add to
it, positions are integrated and set it back to the weight, and the boundary
conditions take particles that have left the crack back into it.

Numbers are the elements of an ordered field.  A step is given the points that
`random_point_in_crack` draws.
-/

namespace PorcelainMonitor.Algorithms

/-! ## Vectors -/

/-- `std::array<double, 3>` -/
abbrev Vec (R : Type) := Fin 3 → R

instance neZero_three : NeZero 3 := ⟨by omega⟩

section Vectors

variable {R : Type} [Field R] [LinearOrder R]

def vectorSub (a b : Vec R) : Vec R := ![a 0 - b 0, a 1 - b 1, a 2 - b 2]

def vectorAdd (a b : Vec R) : Vec R := ![a 0 + b 0, a 1 + b 1, a 2 + b 2]

def vectorMul (v : Vec R) (s : R) : Vec R := ![v 0 * s, v 1 * s, v 2 * s]

def vectorDot (a b : Vec R) : R := a 0 * b 0 + a 1 * b 1 + a 2 * b 2

def vectorNorm (math : CMath R) (v : Vec R) : R := math.sqrt (v 0 * v 0 + v 1 * v 1 + v 2 * v 2)

def vectorNormalize (math : CMath R) (v : Vec R) : Vec R :=
  let n := vectorNorm math v
  if n < 1 / 10 ^ 15 then ![0, 0, 0] else ![v 0 / n, v 1 / n, v 2 / n]

end Vectors

/-! ## The simulation -/

structure DEMParticle (R : Type) where
  position : Vec R
  velocity : Vec R
  force : Vec R
  radius : R
  mass : R
  materialId : Int
  isBoundary : Bool
  isFixed : Bool
  id : Int

structure DEMContact (R : Type) where
  particleA : Int
  particleB : Int
  normal : Vec R
  overlap : R
  normalForce : R
  tangentForce : Vec R

structure DEMParameters (R : Type) where
  youngsModulus : R
  poissonsRatio : R
  density : R
  timeStep : R
  dampingCoeff : R

structure DEMGeometry (R : Type) where
  crackOrigin : Vec R
  crackLength : R
  crackDepth : R
  crackWidth : R

structure DEMSimulation (R : Type) where
  params : DEMParameters R
  geometry : DEMGeometry R
  particles : List (DEMParticle R)
  contacts : List (DEMContact R)

/-- `MAX_CONTACTS` -/
def maxContacts : Nat := 50000

section Model

variable {R : Type} [Field R] [LinearOrder R] (math : CMath R)

/-! ## Contact forces -/

def effectiveRadius (r1 r2 : R) : R := (r1 * r2) / (r1 + r2)

def effectiveModulus (params : DEMParameters R) : R :=
  params.youngsModulus / (2 * (1 - params.poissonsRatio * params.poissonsRatio))

def hertzContactForce (params : DEMParameters R) (overlap radiusA radiusB : R) : R :=
  if overlap ≤ 0 then 0
  else
    let rEff := effectiveRadius radiusA radiusB
    let eEff := effectiveModulus params
    let kH := (4 / 3) * eEff * math.sqrt rEff
    kH * math.pow overlap (3 / 2)

def dampingForce (params : DEMParameters R) (relativeVelocity overlap : R) : R :=
  if overlap ≤ 0 then 0
  else
    let gamma := 2 * params.dampingCoeff * math.sqrt (params.youngsModulus * params.density);
    -gamma * relativeVelocity * math.sqrt overlap

def vanDerWaalsForce (distance radius : R) : R :=
  let hamaker := 1 / 10 ^ 19
  let distance := if distance < 1 / 10 ^ 10 then 1 / 10 ^ 10 else distance;
  -hamaker * radius / (6 * distance * distance)

/-- The test of `compute_contact_forces`. -/
def touching (a b : DEMParticle R) : Bool :=
  let dist := vectorNorm math (vectorSub b.position a.position)
  dist < a.radius + b.radius && 1 / 10 ^ 15 < dist

/-- The two particles after it, and the contact that it records. -/
def computeContactForces (params : DEMParameters R) (a b : DEMParticle R) :
    DEMParticle R × DEMParticle R × List (DEMContact R) :=
  let diff := vectorSub b.position a.position
  let dist := vectorNorm math diff
  let minDist := a.radius + b.radius
  if touching math a b then
    let normal := vectorNormalize math diff
    let overlap := minDist - dist
    let relVel := vectorDot (vectorSub b.velocity a.velocity) normal
    let fHertz := hertzContactForce math params overlap a.radius b.radius
    let fDamp := dampingForce math params relVel overlap
    let fVdw := vanDerWaalsForce dist ((a.radius + b.radius) / 2)
    let fNormal := fHertz + fDamp + fVdw
    let forceVec := vectorMul normal (-fNormal)
    ({ a with force := vectorAdd a.force forceVec },
      { b with force := vectorSub b.force forceVec },
      [{ particleA := a.id
         particleB := b.id
         normal := normal
         overlap := overlap
         normalForce := fNormal
         tangentForce := ![0, 0, 0] }])
  else (a, b, [])

/-! ## The phases of a step -/

/-- The call for the particles at two places. -/
def collide (sim : DEMSimulation R) (i j : Nat) : DEMSimulation R :=
  match sim.particles[i]?, sim.particles[j]? with
  | some a, some b =>
      let (a, b, contacts) := computeContactForces math sim.params a b
      { sim with
        particles := (sim.particles.set i a).set j b
        contacts := sim.contacts ++ contacts }
  | _, _ => sim

/-- The inner loop of `detect_collisions` for the particle at `i`. -/
def collideWith (i : Nat) : List Nat → DEMSimulation R → DEMSimulation R
  | [], sim => sim
  | j :: js, sim =>
      if maxContacts ≤ sim.contacts.length then sim
      else collideWith i js (collide math sim i j)

/-- The outer loop. -/
def collideAll : List Nat → DEMSimulation R → DEMSimulation R
  | [], sim => sim
  | i :: is, sim =>
      let next := collideWith math i
        (List.range' (i + 1) (sim.particles.length - (i + 1))) sim
      if maxContacts ≤ next.contacts.length then next else collideAll is next

def detectCollisions (sim : DEMSimulation R) : DEMSimulation R :=
  collideAll math (List.range sim.particles.length) { sim with contacts := [] }

/-- The body of the loop of `integrate_velocities`. -/
def integrateVelocity (timeStep : R) (p : DEMParticle R) : DEMParticle R :=
  if !p.isFixed && 0 < p.mass then
    let acc := vectorMul p.force (1 / p.mass)
    { p with velocity := vectorAdd p.velocity (vectorMul acc (timeStep * (1 / 2))) }
  else p

def integrateVelocities (sim : DEMSimulation R) : DEMSimulation R :=
  { sim with particles := sim.particles.map (integrateVelocity sim.params.timeStep) }

/-- The body of the loop of `integrate_positions`. -/
def integratePosition (timeStep : R) (p : DEMParticle R) : DEMParticle R :=
  if !p.isFixed then
    { p with
      position := vectorAdd p.position (vectorMul p.velocity timeStep)
      force := ![0, 0, -(981 / 100) * p.mass] }
  else p

def integratePositions (sim : DEMSimulation R) : DEMSimulation R :=
  { sim with particles := sim.particles.map (integratePosition sim.params.timeStep) }

/-- The test of `apply_boundary_conditions` for a particle that is not fixed. -/
def outside (geometry : DEMGeometry R) (p : DEMParticle R) : Bool :=
  let maxDist := max (max geometry.crackLength (geometry.crackWidth * (1 / 10 ^ 6)))
    (geometry.crackDepth * (1 / 10 ^ 6))
  let rel := vectorSub p.position geometry.crackOrigin
  maxDist < |rel 0| || maxDist < |rel 1| || maxDist < |rel 2|

/-- The body of the loop, with the point that would be drawn. -/
def applyBoundary (geometry : DEMGeometry R) (point : Vec R) (p : DEMParticle R) :
    DEMParticle R :=
  if p.isFixed then { p with velocity := ![0, 0, 0], force := ![0, 0, 0] }
  else if outside geometry p then { p with velocity := ![0, 0, 0], position := point }
  else p

def applyBoundaryConditions (points : Nat → Vec R) (sim : DEMSimulation R) : DEMSimulation R :=
  { sim with particles := sim.particles.mapIdx fun i => applyBoundary sim.geometry (points i) }

/-- A step before the boundary conditions. -/
def advance (sim : DEMSimulation R) : DEMSimulation R :=
  integratePositions (detectCollisions math (integrateVelocities sim))

def step (points : Nat → Vec R) (sim : DEMSimulation R) : DEMSimulation R :=
  applyBoundaryConditions points (advance math sim)

/-- Calls of `step()` with the points drawn in each. -/
def steps (sim : DEMSimulation R) (draws : List (Nat → Vec R)) : DEMSimulation R :=
  draws.foldl (fun sim points => step math points sim) sim

end Model

end PorcelainMonitor.Algorithms
