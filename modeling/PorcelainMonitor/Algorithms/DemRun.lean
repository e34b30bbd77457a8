import Mathlib.Algebra.BigOperators.Group.List.Basic
import PorcelainMonitor.Algorithms.DemSimulation
import PorcelainMonitor.Settings.Config

/-!
# A run of `DEMSimulation`

What stands around the steps of `dem_simulation.cpp`: the crack and the material are
set, particles are put into the crack and fixed ones along its boundary, and `run`
makes the steps and computes the figures of the result.

`random_double` is not modelled.  What it would draw is given: for each candidate of
`generate_particles` a radius and the offsets of its point, and for each step the
points that particles are put back to.
-/

namespace PorcelainMonitor.Algorithms

/-- What `generate_particles` draws for a candidate. -/
structure Candidate (R : Type) where
  radius : R
  /-- From the origin of the crack. -/
  offset : Vec R

/-- The object, with what its steps leave alone. -/
structure DEMObject (R : Type) where
  sim : DEMSimulation R
  minParticleRadius : R
  maxParticleRadius : R
  bondStrength : R
  boundaryPoints : List (Vec R)
  /-- The id of `material_`, whose other fields nothing reads. -/
  materialId : Int

structure DEMResult (R : Type) where
  particles : List (DEMParticle R)
  totalSteps : Int
  simulationTime : R
  fillingRate : R
  averagePackingDensity : R
  bondingStrength : R
  surfaceSmoothness : R
  durabilityScore : R
  particleCount : Int
  contactCount : Int
  maxForce : R
  avgForce : R
  porosity : R
  energyHistory : List R
  forceHistory : List R
  parameters : DEMParameters R
  minParticleRadius : R
  maxParticleRadius : R

section Model

variable {R : Type} [Field R] [LinearOrder R] (math : CMath R)

namespace DEMObject

/-! ## The crack and the material -/

/-- The constructor.  The settings have no particle radii, so those of
`DEMParameters` stay.  The geometry and the id of the material are not set. -/
def new (cfg : Settings.DEM R) (unset : DEMGeometry R) (unsetId : Int) : DEMObject R where
  sim := {
    params := {
      youngsModulus := cfg.youngsModulus
      poissonsRatio := cfg.poissonsRatio
      density := cfg.density
      timeStep := cfg.timeStep
      dampingCoeff := 5 / 100 }
    geometry := unset
    particles := []
    contacts := [] }
  minParticleRadius := 15 / 10 ^ 9
  maxParticleRadius := 35 / 10 ^ 9
  bondStrength := 100 * 10 ^ 6
  boundaryPoints := []
  materialId := unsetId

/-- The place of a point of a crack. -/
def place (point : Point3D R) : Vec R := ![point.x, point.y, point.z]

/-- A crack without points leaves the origin as it is. -/
def setCrackGeometry (crack : CrackInfo R) (dem : DEMObject R) : DEMObject R :=
  { dem with
    sim := { dem.sim with
      geometry := {
        crackOrigin :=
          match crack.points with
          | point :: _ => place point
          | [] => dem.sim.geometry.crackOrigin
        crackLength := crack.totalLength
        crackDepth := crack.maxDepth
        crackWidth := crack.maxWidth } }
    boundaryPoints := dem.boundaryPoints ++ crack.points.map place }

def setMaterialProperties (material : RepairMaterial R) (dem : DEMObject R) : DEMObject R :=
  { dem with
    sim := { dem.sim with
      params := { dem.sim.params with
        youngsModulus := 70 * 10 ^ 9
        density :=
          match material.type with
          | .zirconia => 5890
          | .silica => 2200
          | .composite => 3950 } }
    minParticleRadius := material.particleSizeNm * (6 / 10) * (1 / 10 ^ 9)
    maxParticleRadius := material.particleSizeNm * (14 / 10) * (1 / 10 ^ 9)
    materialId := material.id }

end DEMObject

/-- `random_point_in_crack`, for the offsets that it draws. -/
def randomPointInCrack (geometry : DEMGeometry R) (offset : Vec R) : Vec R :=
  ![geometry.crackOrigin 0 + offset 0, geometry.crackOrigin 1 + offset 1,
    geometry.crackOrigin 2 + offset 2]

/-- Half the size of the crack along each axis. -/
def halfSize (geometry : DEMGeometry R) : Vec R :=
  ![geometry.crackLength * (5 / 10), geometry.crackWidth * (5 / 10) * (1 / 10 ^ 6),
    geometry.crackDepth * (5 / 10) * (1 / 10 ^ 6)]

def isInsideCrack (geometry : DEMGeometry R) (point : Vec R) : Bool :=
  let rel := vectorSub point geometry.crackOrigin
  let half := halfSize geometry
  |rel 0| ≤ half 0 && |rel 1| ≤ half 1 && |rel 2| ≤ half 2

/-! ## Particles -/

/-- The volume of a ball. -/
def ballVolume (radius : R) : R := 4 / 3 * math.pi * math.pow radius 3

namespace DEMObject

/-- The pass of the loop of `generate_particles` for the candidate `i`. -/
def placeCandidate (dem : DEMObject R) (i : Nat) (candidate : Candidate R) : DEMObject R :=
  let pos := randomPointInCrack dem.sim.geometry candidate.offset
  let overlapping := dem.sim.particles.any fun p =>
    vectorNorm math (vectorSub pos p.position) < candidate.radius + p.radius
  if overlapping then dem
  else
    { dem with
      sim := { dem.sim with
        particles := dem.sim.particles ++ [{
          position := pos
          velocity := ![0, 0, 0]
          force := ![0, 0, -(981 / 100) * dem.sim.params.density * ballVolume math candidate.radius]
          radius := candidate.radius
          mass := dem.sim.params.density * ballVolume math candidate.radius
          materialId := dem.materialId
          isBoundary := false
          isFixed := false
          id := i }] } }

def generateParticles (candidates : Nat → Candidate R) (count : Nat) (dem : DEMObject R) :
    DEMObject R :=
  (List.range count).foldl (fun dem i => dem.placeCandidate math i (candidates i))
    { dem with sim := { dem.sim with particles := [] } }

/-- The pass of the loop of `generate_boundary` for the point at `i`. -/
def placeBoundary (dem : DEMObject R) (i : Nat) (point : Vec R) : DEMObject R :=
  { dem with
    sim := { dem.sim with
      particles := dem.sim.particles ++ [{
        position := point
        velocity := ![0, 0, 0]
        force := ![0, 0, 0]
        radius := 5 / 10 ^ 7
        mass := 10 ^ 6
        materialId := 0
        isBoundary := true
        isFixed := true
        id := toInt32 (dem.sim.particles.length + i) }] } }

/-- The number of rounds, cast to `int`. -/
def boundaryCount (dem : DEMObject R) : Nat := (toInt32 dem.boundaryPoints.length).toNat

def generateBoundary (dem : DEMObject R) : DEMObject R :=
  (dem.boundaryPoints.take dem.boundaryCount).zipIdx.foldl
    (fun dem (point, i) => dem.placeBoundary i point) dem

/-! ## Figures -/

/-- The particles that fill the crack. -/
def filling (dem : DEMObject R) : List (DEMParticle R) :=
  dem.sim.particles.filter fun p => !p.isBoundary && isInsideCrack dem.sim.geometry p.position

def calculateFillingRate (dem : DEMObject R) : R :=
  let geometry := dem.sim.geometry
  if geometry.crackLength ≤ 0 ∨ geometry.crackWidth ≤ 0 ∨ geometry.crackDepth ≤ 0 then 0
  else
    let crackVolume := geometry.crackLength * geometry.crackWidth * (1 / 10 ^ 6) *
      geometry.crackDepth * (1 / 10 ^ 6)
    let particleVolume := (dem.filling.map fun p => ballVolume math p.radius).sum
    if 0 < crackVolume then min 1 (particleVolume / crackVolume) else 0

def calculatePackingDensity (dem : DEMObject R) : R :=
  let occupiedVolume :=
    ((dem.sim.particles.filter fun p => !p.isBoundary).map fun p => ballVolume math p.radius).sum
  let half := halfSize dem.sim.geometry
  let totalVolume := 8 * half 0 * half 1 * half 2
  if 0 < totalVolume then occupiedVolume / totalVolume else 0

def calculateSurfaceSmoothness (dem : DEMObject R) : R :=
  if dem.sim.particles.length < 2 then 1
  else
    let heights := dem.filling.map fun p => p.position 2
    let variance :=
      if 0 < heights.length then
        let meanZ := heights.sum / heights.length
        (heights.map fun z => math.pow (z - meanZ) 2).sum / heights.length
      else 0
    let roughness := math.sqrt variance
    let smoothness := 1 - min 1 (roughness / (dem.maxParticleRadius * 2))
    max 0 smoothness

def calculateBondingStrength (dem : DEMObject R) : R :=
  let bonds := (dem.sim.contacts.filter fun c => 0 < c.normalForce).map fun c =>
    c.normalForce / max (1 / 10 ^ 9) c.overlap
  if bonds.length = 0 then 5 / 10
  else
    let avgBond := bonds.sum / bonds.length
    let normalized := avgBond / (dem.bondStrength * (1 / 10 ^ 6))
    min 1 normalized

def calculateDurability (dem : DEMObject R) : R :=
  35 / 100 * dem.calculateFillingRate math + 3 / 10 * dem.calculateBondingStrength +
    2 / 10 * dem.calculateSurfaceSmoothness math + 15 / 100 * dem.calculatePackingDensity math

def calculatePorosity (dem : DEMObject R) : R := 1 - dem.calculatePackingDensity math

end DEMObject

/-! ## Runs -/

/-- The loop variables of `run`, and the histories. -/
structure RunState (R : Type) where
  dem : DEMObject R
  maxForce : R
  sumForce : R
  energyHistory : List R
  forceHistory : List R

/-- Kinetic and potential energy. -/
def totalEnergy (particles : List (DEMParticle R)) : R :=
  let free := particles.filter fun p => !p.isFixed
  (free.map fun p => 5 / 10 * p.mass * vectorDot p.velocity p.velocity).sum +
    (free.map fun p => p.mass * (981 / 100) * p.position 2).sum

/-- The mean speed, and zero without particles that move. -/
def averageVelocity (particles : List (DEMParticle R)) : R :=
  let speeds := (particles.filter fun p => !p.isFixed).map fun p => vectorNorm math p.velocity
  if 0 < speeds.length then speeds.sum / speeds.length else speeds.sum

namespace RunState

/-- The body of the loop of `run` up to the test that may leave it. -/
def advance (points : Nat → Vec R) (step : Nat) (state : RunState R) : RunState R :=
  let sim := Algorithms.step math points state.dem.sim
  let forces := sim.particles.map fun p => vectorNorm math p.force
  let stepMaxForce := forces.foldl max 0
  { dem := { state.dem with sim := sim }
    maxForce := max state.maxForce stepMaxForce
    sumForce := state.sumForce + forces.sum
    energyHistory :=
      if step % 10 = 0 then state.energyHistory ++ [totalEnergy sim.particles]
      else state.energyHistory
    forceHistory :=
      if step % 10 = 0 then state.forceHistory ++ [stepMaxForce] else state.forceHistory }

/-- The loop of `run` from a step on, with so many to go. -/
def loop (draws : Nat → Nat → Vec R) : Nat → Nat → RunState R → RunState R
  | 0, _, state => state
  | remaining + 1, step, state =>
      let state := state.advance math (draws step) step
      if step % 100 = 0 ∧ 0 < step ∧
          averageVelocity math state.dem.sim.particles < 1 / 10 ^ 12 then state
      else loop draws remaining (step + 1) state

end RunState

/-- `run`, whose `reserve` refuses a size below zero. -/
def DEMObject.run (draws : Nat → Nat → Vec R) (maxSteps : Int) (dem : DEMObject R) :
    Except Failure (DEMResult R × DEMObject R) :=
  if maxSteps.tdiv 10 + 1 < 0 then .error (.exception "vector::reserve")
  else
    let state := RunState.loop math draws maxSteps.toNat 0 ⟨dem, 0, 0, [], []⟩
    let after := state.dem
    .ok ({
      particles := after.sim.particles.filter fun p => !p.isBoundary
      totalSteps := maxSteps
      simulationTime := maxSteps * dem.sim.params.timeStep
      fillingRate := after.calculateFillingRate math
      averagePackingDensity := after.calculatePackingDensity math
      bondingStrength := after.calculateBondingStrength
      surfaceSmoothness := after.calculateSurfaceSmoothness math
      durabilityScore := after.calculateDurability math
      particleCount := (dem.sim.particles.countP fun p => !p.isBoundary : Nat)
      contactCount := after.sim.contacts.length
      maxForce := state.maxForce
      avgForce := if 0 < maxSteps then state.sumForce / maxSteps else 0
      porosity := after.calculatePorosity math
      energyHistory := state.energyHistory
      forceHistory := state.forceHistory
      parameters := dem.sim.params
      minParticleRadius := dem.minParticleRadius
      maxParticleRadius := dem.maxParticleRadius }, after)

/-- `result_to_json`. -/
def DEMResult.toJson (result : DEMResult R) : Json R :=
  .object [
    ("total_steps", .int result.totalSteps),
    ("simulation_time", .float result.simulationTime),
    ("particle_count", .int result.particleCount),
    ("contact_count", .int result.contactCount),
    ("filling_rate", .float result.fillingRate),
    ("packing_density", .float result.averagePackingDensity),
    ("bonding_strength", .float result.bondingStrength),
    ("surface_smoothness", .float result.surfaceSmoothness),
    ("durability_score", .float result.durabilityScore),
    ("porosity", .float result.porosity),
    ("max_force", .float result.maxForce),
    ("avg_force", .float result.avgForce),
    ("energy_history", .numbers result.energyHistory),
    ("force_history", .numbers result.forceHistory),
    ("particles", .arr ((result.particles.filter fun p => !p.isBoundary).map fun p =>
      .object [
        ("id", .int p.id),
        ("position", .numbers [p.position 0, p.position 1, p.position 2]),
        ("radius", .float p.radius)])),
    ("parameters", .object [
      ("youngs_modulus", .float result.parameters.youngsModulus),
      ("poissons_ratio", .float result.parameters.poissonsRatio),
      ("density", .float result.parameters.density),
      ("particle_radius_range",
        .numbers [result.minParticleRadius, result.maxParticleRadius])])]

end Model

end PorcelainMonitor.Algorithms
