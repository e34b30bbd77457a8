import Mathlib.Data.Rat.Sqrt
import Mathlib.Data.Rat.Floor
import PorcelainMonitor.Algorithms.DemDynamics
import PorcelainMonitor.Algorithms.DemRun
import PorcelainMonitor.Lib.Greedy

/-!
# The particles before the first step

`generate_particles` keeps a candidate if it overlaps with no particle that it has
kept, and gives it the number of its round.  `generate_boundary` adds one fixed
particle for a point of the crack, and numbers it by the size of the list, which
grows, and the round, so its numbers go up by two.
-/

namespace PorcelainMonitor.Algorithms

variable {R : Type} [Field R] [LinearOrder R] (math : CMath R)

/-! ## Kept candidates -/

namespace DEMObject

variable (dem : DEMObject R)

/-- The object with other particles. -/
def withParticles (particles : List (DEMParticle R)) : DEMObject R :=
  { dem with sim := { dem.sim with particles := particles } }

/-- The particle that a candidate becomes. -/
def grain (i : Nat) (candidate : Candidate R) : DEMParticle R where
  position := randomPointInCrack dem.sim.geometry candidate.offset
  velocity := ![0, 0, 0]
  force := ![0, 0, -(981 / 100) * dem.sim.params.density * ballVolume math candidate.radius]
  radius := candidate.radius
  mass := dem.sim.params.density * ballVolume math candidate.radius
  materialId := dem.materialId
  isBoundary := false
  isFixed := false
  id := i

/-- The distance of the places of two candidates is less than the sum of their radii. -/
def overlap (candidate other : Candidate R) : Bool :=
  vectorNorm math (vectorSub (randomPointInCrack dem.sim.geometry candidate.offset)
    (randomPointInCrack dem.sim.geometry other.offset)) < candidate.radius + other.radius

/-- The candidates that `generate_particles` keeps. -/
def keptCandidates (candidates : Nat → Candidate R) (count : Nat) : List Nat :=
  Greedy.kept (dem.overlap math) candidates count

theorem generateParticles_eq (candidates : Nat → Candidate R) (count : Nat) :
    dem.generateParticles math candidates count =
      dem.withParticles ((dem.keptCandidates math candidates count).map fun i =>
        dem.grain math i (candidates i)) := by
  let clashes (candidate : Candidate R) (p : DEMParticle R) : Bool :=
    vectorNorm math (vectorSub (randomPointInCrack dem.sim.geometry candidate.offset) p.position) <
      candidate.radius + p.radius
  have hround : ∀ particles i, (dem.withParticles particles).placeCandidate math i (candidates i) =
      dem.withParticles (if particles.any (clashes (candidates i)) then particles
        else particles ++ [dem.grain math i (candidates i)]) := by
    intro particles i
    by_cases hany : particles.any (clashes (candidates i)) = true
    · rw [if_pos hany]
      exact if_pos hany
    · rw [if_neg hany]
      exact if_neg hany
  have hkept := Greedy.foldl_eq_kept (n := count) (dem.overlap math) candidates
    (fun i => dem.grain math i (candidates i)) clashes fun i j => rfl
  rw [keptCandidates, ← hkept]
  exact List.foldl_hom dem.withParticles hround

/-! ## The packing -/

/-- A candidate that can be drawn. -/
structure Drawn (candidate : Candidate R) : Prop where
  radius_ge : dem.minParticleRadius ≤ candidate.radius
  radius_le : candidate.radius ≤ dem.maxParticleRadius
  offset : ∀ k, |candidate.offset k| ≤ halfSize dem.sim.geometry k

structure ValidPacking (count : Int) (particles : List (DEMParticle R)) : Prop where
  inside : ∀ p ∈ particles, isInsideCrack dem.sim.geometry p.position = true
  radius : ∀ p ∈ particles, dem.minParticleRadius ≤ p.radius ∧ p.radius ≤ dem.maxParticleRadius
  mass : ∀ p ∈ particles,
    p.mass = dem.sim.params.density * (4 / 3) * math.pi * math.pow p.radius 3
  apart : particles.Pairwise fun p q =>
    p.radius + q.radius ≤ vectorNorm math (vectorSub p.position q.position) ∧
      p.radius + q.radius ≤ vectorNorm math (vectorSub q.position p.position)
  length_le : particles.length ≤ count.toNat
  ids : (particles.map DEMParticle.id).Pairwise (· < ·)

end DEMObject

omit [LinearOrder R] in
theorem vectorNorm_sub_comm (a b : Vec R) :
    vectorNorm math (vectorSub a b) = vectorNorm math (vectorSub b a) := by
  have hsquare : ∀ x y : R, (x - y) * (x - y) = (y - x) * (y - x) := fun x y => by ring
  have hsum : (a 0 - b 0) * (a 0 - b 0) + (a 1 - b 1) * (a 1 - b 1) + (a 2 - b 2) * (a 2 - b 2) =
      (b 0 - a 0) * (b 0 - a 0) + (b 1 - a 1) * (b 1 - a 1) + (b 2 - a 2) * (b 2 - a 2) := by
    rw [hsquare (a 0), hsquare (a 1), hsquare (a 2)]
  exact congrArg math.sqrt hsum

omit math in
/-- The box of the draws is the one of the test. -/
theorem isInsideCrack_randomPoint (geometry : DEMGeometry R) {offset : Vec R}
    (h : ∀ k, |offset k| ≤ halfSize geometry k) :
    isInsideCrack geometry (randomPointInCrack geometry offset) = true := by
  have hrel : vectorSub (randomPointInCrack geometry offset) geometry.crackOrigin =
      ![offset 0, offset 1, offset 2] := by
    simp [vectorSub, randomPointInCrack]
  simp only [isInsideCrack, hrel]
  simp [h 0, h 1, h 2]

/-- The packing is valid, for any draws within their ranges. -/
theorem packing_valid (dem : DEMObject R) (candidates : Nat → Candidate R) (count : Int)
    (hdrawn : ∀ i < count.toNat, dem.Drawn (candidates i)) :
    dem.ValidPacking math count
      (dem.generateParticles math candidates count.toNat).sim.particles := by
  have hkept : ∀ i ∈ dem.keptCandidates math candidates count.toNat, dem.Drawn (candidates i) :=
    fun i hi => hdrawn i (Greedy.lt_of_mem_kept _ _ hi)
  rw [dem.generateParticles_eq math candidates]
  refine ⟨?_, ?_, ?_, ?_, ?_, ?_⟩
  · exact List.forall_mem_map.mpr fun i hi => isInsideCrack_randomPoint _ (hkept i hi).offset
  · exact List.forall_mem_map.mpr fun i hi => ⟨(hkept i hi).radius_ge, (hkept i hi).radius_le⟩
  · refine List.forall_mem_map.mpr fun i _ => ?_
    simp only [DEMObject.grain, ballVolume, mul_assoc]
  · refine List.pairwise_map.mpr ((Greedy.kept_pairwise _ _).imp fun {i j} hclash => ?_)
    have hle := not_lt.mp (of_decide_eq_false hclash)
    rw [add_comm] at hle
    exact ⟨(vectorNorm_sub_comm math _ _).trans_ge hle, hle⟩
  · exact (List.length_map _).trans_le (Greedy.length_kept_le _ _)
  · refine List.pairwise_map.mpr (List.pairwise_map.mpr ?_)
    exact (Greedy.kept_sorted _ _).imp fun hlt => Int.ofNat_lt.mpr hlt

/-! ### Three draws -/

/-- Roots and powers of rational numbers, right where they are rational. -/
def rationalMath : CMath ℚ := ⟨22 / 7, Rat.sqrt, fun x y => x ^ ⌊y⌋, id, id⟩

theorem halfSize_oneGrain_nonneg (k : Fin 3) : 0 ≤ halfSize oneGrain.geometry k := by
  fin_cases k <;> norm_num [halfSize, oneGrain]

/-- A crack of length one with a point at its origin. -/
def openCrack : DEMObject ℚ where
  sim := { oneGrain with particles := [] }
  minParticleRadius := 1 / 10
  maxParticleRadius := 1 / 10
  bondStrength := 1
  boundaryPoints := [0]
  materialId := 1

/-- The second overlaps with the first. -/
def threeDraws (i : Nat) : Candidate ℚ := ⟨1 / 10, ![if i = 2 then 1 / 2 else 0, 0, 0]⟩

theorem drawn_threeDraws (i : Nat) : openCrack.Drawn (threeDraws i) where
  radius_ge := le_refl _
  radius_le := le_refl _
  offset := by
    intro k
    fin_cases k
    · show |if i = 2 then (1 / 2 : ℚ) else 0| ≤ 1 * (5 / 10)
      split <;> norm_num
    · exact abs_zero.trans_le (halfSize_oneGrain_nonneg 1)
    · exact abs_zero.trans_le (halfSize_oneGrain_nonneg 2)

theorem packing_valid_threeDraws :
    openCrack.ValidPacking rationalMath 3
      (openCrack.generateParticles rationalMath threeDraws 3).sim.particles :=
  packing_valid rationalMath openCrack threeDraws 3 fun i _ => drawn_threeDraws i

/-! ## The numbers of the particles -/

/-- Numbers that go up by two are different after the cast. -/
theorem toInt32_add_two_mul_inj {n k k' : Nat} (hk : k < 2 ^ 31) (hk' : k' < 2 ^ 31)
    (h : toInt32 ((n + 2 * k : Nat) : Int) = toInt32 ((n + 2 * k' : Nat) : Int)) : k = k' := by
  simp only [toInt32, Int.bmod] at h
  omega

namespace DEMObject

/-- The numbers of the particles. -/
def ids (dem : DEMObject R) : List Int := dem.sim.particles.map DEMParticle.id

omit [LinearOrder R] in
theorem ids_placeBoundary (dem : DEMObject R) (j : Nat) (points : List (Vec R)) :
    ids ((points.zipIdx j).foldl (fun dem (point, i) => dem.placeBoundary i point) dem) =
      dem.ids ++ (List.range points.length).map fun k =>
        toInt32 ((dem.sim.particles.length + j + 2 * k : Nat) : Int) := by
  induction points generalizing dem j with
  | nil => exact (List.append_nil _).symm
  | cons point points ih =>
      have hlength : (dem.placeBoundary j point).sim.particles.length =
          dem.sim.particles.length + 1 := List.length_append
      have hids : (dem.placeBoundary j point).ids =
          dem.ids ++ [toInt32 ((dem.sim.particles.length + j : Nat) : Int)] := by
        rw [ids, ids, placeBoundary, List.map_append, List.map_singleton, Int.natCast_add]
      have hnext : ∀ k, dem.sim.particles.length + 1 + (j + 1) + 2 * k =
          dem.sim.particles.length + j + 2 * (k + 1) := fun k => by omega
      rw [List.zipIdx_cons, List.foldl_cons, ih, hids, hlength, List.append_assoc,
        List.length_cons, List.range_succ_eq_map, List.map_cons, List.map_map]
      simp only [hnext, Nat.mul_zero, Nat.add_zero, List.singleton_append, Function.comp_def]

omit [Field R] [LinearOrder R] in
/-- The cast does not make the count larger. -/
theorem boundaryCount_le (dem : DEMObject R) :
    dem.boundaryCount ≤ dem.boundaryPoints.length ∧ dem.boundaryCount < 2 ^ 31 := by
  simp only [boundaryCount, toInt32, Int.bmod]
  omega

omit [LinearOrder R] in
theorem ids_generateBoundary (dem : DEMObject R) :
    dem.generateBoundary.ids = dem.ids ++ (List.range dem.boundaryCount).map fun k =>
      toInt32 ((dem.sim.particles.length + 2 * k : Nat) : Int) := by
  rw [generateBoundary, ids_placeBoundary, List.length_take,
    Nat.min_eq_left dem.boundaryCount_le.1, Nat.add_zero]

end DEMObject

/-- The numbers of the particles are distinct exactly if no fixed particle gets the
number of the round in which a candidate was kept. -/
theorem ids_nodup_iff (dem : DEMObject R) (candidates : Nat → Candidate R) (count : Int) :
    (dem.generateParticles math candidates count.toNat).generateBoundary.ids.Nodup ↔
      ∀ k < dem.boundaryCount, ∀ i ∈ dem.keptCandidates math candidates count.toNat,
        toInt32 (((dem.keptCandidates math candidates count.toNat).length + 2 * k : Nat) : Int) ≠
          i := by
  have hids : (dem.generateParticles math candidates count.toNat).ids =
      (dem.keptCandidates math candidates count.toNat).map fun i : Nat => (i : Int) := by
    rw [dem.generateParticles_eq math candidates]
    exact List.map_map
  have hlength : (dem.generateParticles math candidates count.toNat).sim.particles.length =
      (dem.keptCandidates math candidates count.toNat).length := by
    rw [dem.generateParticles_eq math candidates]
    exact List.length_map _
  have hcount : (dem.generateParticles math candidates count.toNat).boundaryCount =
      dem.boundaryCount := by
    rw [dem.generateParticles_eq math candidates]
    rfl
  rw [DEMObject.ids_generateBoundary, hids, hlength, hcount, List.nodup_append]
  constructor
  · intro ⟨_, _, hdisjoint⟩ k hk i hi h
    exact hdisjoint _ (List.mem_map_of_mem hi) _
      (List.mem_map_of_mem (List.mem_range.mpr hk)) h.symm
  · intro h
    refine ⟨?_, ?_, ?_⟩
    · refine List.Nodup.map (fun i j hij => Int.ofNat_inj.mp hij) ?_
      exact (Greedy.kept_sorted _ _).imp fun hlt => Nat.ne_of_lt hlt
    · refine List.Nodup.map_on (fun k hk k' hk' hsame => ?_) List.nodup_range
      have hlt := dem.boundaryCount_le.2
      exact toInt32_add_two_mul_inj ((List.mem_range.mp hk).trans hlt)
        ((List.mem_range.mp hk').trans hlt) hsame
    · intro a ha b hb hab
      obtain ⟨i, hi, rfl⟩ := List.mem_map.mp ha
      obtain ⟨k, hk, rfl⟩ := List.mem_map.mp hb
      exact h k (List.mem_range.mp hk) i hi hab.symm

/-- One of three candidates is rejected, and the only fixed particle gets the number
two, which the last candidate has. -/
theorem fixed_particle_reuses_id :
    ¬ ∀ (math : CMath ℚ) (dem : DEMObject ℚ) candidates (count : Int),
        (dem.generateParticles math candidates count.toNat).generateBoundary.ids.Nodup := by
  intro h
  have hnodup := h rationalMath openCrack threeDraws 3
  revert hnodup
  decide +kernel

end PorcelainMonitor.Algorithms
