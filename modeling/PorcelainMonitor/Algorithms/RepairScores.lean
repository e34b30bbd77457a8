import Mathlib.Algebra.Order.BigOperators.Group.List
import Mathlib.Order.Interval.Set.Defs
import Mathlib.Tactic.FieldSimp
import Mathlib.Tactic.Linarith
import PorcelainMonitor.Algorithms.Packing

/-!
# The scores of a repair

Filling rate, bonding strength and smoothness are cut off at zero and one.  The
packing density is not.  It divides the volume of the balls by the volume of the
crack, and a ball with its centre in a small crack can be larger than the crack.
Porosity and durability are computed from it.
-/

namespace PorcelainMonitor.Algorithms

variable {R : Type} [Field R] [LinearOrder R] (math : CMath R)

/-- `sqrt` and the squares of `pow`, with exact arithmetic. -/
structure ExactMath : Prop where
  sqrt_nonneg : ∀ x, 0 ≤ x → 0 ≤ math.sqrt x
  pow_two : ∀ x, math.pow x 2 = x * x

omit [LinearOrder R] in
/-- The volume of the box of the draws. -/
def crackVolume (geometry : DEMGeometry R) : R :=
  geometry.crackLength * geometry.crackWidth * (1 / 10 ^ 6) * geometry.crackDepth * (1 / 10 ^ 6)

namespace DEMObject

/-- The volume of the balls that are kept. -/
def keptVolume (dem : DEMObject R) (candidates : Nat → Candidate R) (count : Nat) : R :=
  ((dem.keptCandidates math candidates count).map fun i =>
    ballVolume math (candidates i).radius).sum

/-- The five scores are between zero and one. -/
structure Normalised (dem : DEMObject R) : Prop where
  fillingRate : dem.calculateFillingRate math ∈ Set.Icc 0 1
  bondingStrength : dem.calculateBondingStrength ∈ Set.Icc 0 1
  surfaceSmoothness : dem.calculateSurfaceSmoothness math ∈ Set.Icc 0 1
  durability : dem.calculateDurability math ∈ Set.Icc 0 1
  porosity : dem.calculatePorosity math ∈ Set.Icc 0 1

/-- A crack that `calculate_filling_rate` accepts, and positive parameters. -/
structure Positive (dem : DEMObject R) : Prop where
  crackLength : 0 < dem.sim.geometry.crackLength
  crackWidth : 0 < dem.sim.geometry.crackWidth
  crackDepth : 0 < dem.sim.geometry.crackDepth
  maxParticleRadius : 0 < dem.maxParticleRadius
  bondStrength : 0 < dem.bondStrength

end DEMObject

/-! ## Scores that are cut off -/

section Scores

variable [IsStrictOrderedRing R] {math} {dem : DEMObject R}

theorem bondingStrength_mem (h : 0 < dem.bondStrength) :
    dem.calculateBondingStrength ∈ Set.Icc 0 1 := by
  rw [DEMObject.calculateBondingStrength]
  split
  · constructor <;> norm_num
  · refine ⟨le_min zero_le_one (div_nonneg (div_nonneg ?_ (Nat.cast_nonneg _)) ?_), min_le_left _ _⟩
    · refine List.sum_nonneg fun x hx => ?_
      obtain ⟨c, hc, rfl⟩ := List.mem_map.mp hx
      have hforce : 0 < c.normalForce := of_decide_eq_true (List.mem_filter.mp hc).2
      have hoverlap : (0 : R) ≤ max (1 / 10 ^ 9) c.overlap := le_max_of_le_left (by positivity)
      exact div_nonneg hforce.le hoverlap
    · have hunit : (0 : R) ≤ 1 / 10 ^ 6 := by positivity
      exact mul_nonneg h.le hunit

theorem surfaceSmoothness_mem (hmath : ExactMath math) (h : 0 < dem.maxParticleRadius) :
    dem.calculateSurfaceSmoothness math ∈ Set.Icc 0 1 := by
  rw [DEMObject.calculateSurfaceSmoothness]
  split
  · exact ⟨zero_le_one, le_refl _⟩
  · refine ⟨le_max_left _ _, max_le zero_le_one (sub_le_self _ (le_min zero_le_one ?_))⟩
    refine div_nonneg (hmath.sqrt_nonneg _ ?_) (mul_nonneg h.le zero_le_two)
    split
    · refine div_nonneg (List.sum_nonneg fun x hx => ?_) (Nat.cast_nonneg _)
      obtain ⟨z, _, rfl⟩ := List.mem_map.mp hx
      rw [hmath.pow_two]
      exact mul_self_nonneg _
    · exact le_refl _

theorem DEMObject.Positive.crackVolume_pos (h : dem.Positive) :
    0 < crackVolume dem.sim.geometry := by
  have hunit : (0 : R) < 1 / 10 ^ 6 := by positivity
  exact mul_pos (mul_pos (mul_pos (mul_pos h.crackLength h.crackWidth) hunit) h.crackDepth) hunit

theorem fillingRate_mem {volume : R} (hpos : dem.Positive)
    (hvolume : (dem.filling.map fun p => ballVolume math p.radius).sum = volume)
    (h : 0 ≤ volume) : dem.calculateFillingRate math ∈ Set.Icc 0 1 := by
  have hcrack := hpos.crackVolume_pos
  have hsized : ¬ (dem.sim.geometry.crackLength ≤ 0 ∨ dem.sim.geometry.crackWidth ≤ 0 ∨
      dem.sim.geometry.crackDepth ≤ 0) := by
    simp [hpos.crackLength, hpos.crackWidth, hpos.crackDepth]
  have hrate : dem.calculateFillingRate math = min 1 (volume / crackVolume dem.sim.geometry) := by
    rw [DEMObject.calculateFillingRate, if_neg hsized, hvolume]
    exact if_pos hcrack
  rw [hrate]
  exact ⟨le_min zero_le_one (div_nonneg h hcrack.le), min_le_left _ _⟩

theorem packingDensity_eq {volume : R} (hcrack : 0 < crackVolume dem.sim.geometry)
    (hvolume : ((dem.sim.particles.filter fun p => !p.isBoundary).map fun p =>
      ballVolume math p.radius).sum = volume) :
    dem.calculatePackingDensity math = volume / crackVolume dem.sim.geometry := by
  have htotal : 8 * halfSize dem.sim.geometry 0 * halfSize dem.sim.geometry 1 *
      halfSize dem.sim.geometry 2 = crackVolume dem.sim.geometry := by
    simp only [halfSize, crackVolume, Matrix.cons_val_zero, Matrix.cons_val_one, Matrix.cons_val]
    ring
  rw [DEMObject.calculatePackingDensity, hvolume]
  simp only [htotal, if_pos hcrack]

theorem durability_mem (hfilling : dem.calculateFillingRate math ∈ Set.Icc 0 1)
    (hbonding : dem.calculateBondingStrength ∈ Set.Icc 0 1)
    (hsmooth : dem.calculateSurfaceSmoothness math ∈ Set.Icc 0 1)
    (hpacking : dem.calculatePackingDensity math ∈ Set.Icc 0 1) :
    dem.calculateDurability math ∈ Set.Icc 0 1 := by
  obtain ⟨hf, hf'⟩ := hfilling
  obtain ⟨hb, hb'⟩ := hbonding
  obtain ⟨hs, hs'⟩ := hsmooth
  obtain ⟨hp, hp'⟩ := hpacking
  rw [DEMObject.calculateDurability]
  constructor
  · linarith
  · linarith

end Scores

/-! ## The particles of `generate_particles` -/

theorem generated_volume (dem : DEMObject R) (candidates : Nat → Candidate R) (count : Nat) :
    (((dem.generateParticles math candidates count).sim.particles.filter fun p =>
        !p.isBoundary).map fun p => ballVolume math p.radius).sum =
      dem.keptVolume math candidates count := by
  have hfree : ((dem.generateParticles math candidates count).sim.particles.filter fun p =>
      !p.isBoundary) = (dem.generateParticles math candidates count).sim.particles := by
    rw [dem.generateParticles_eq math candidates]
    exact List.filter_eq_self.mpr (List.forall_mem_map.mpr fun _ _ => rfl)
  rw [hfree, dem.generateParticles_eq math candidates]
  exact congrArg List.sum List.map_map

/-- All of them are in the crack. -/
theorem generated_filling (dem : DEMObject R) {candidates : Nat → Candidate R} {count : Nat}
    (hdrawn : ∀ i < count, dem.Drawn (candidates i)) :
    (dem.generateParticles math candidates count).filling =
      (dem.generateParticles math candidates count).sim.particles.filter fun p =>
        !p.isBoundary := by
  rw [dem.generateParticles_eq math candidates]
  refine List.filter_congr (List.forall_mem_map.mpr fun i hi => ?_)
  have hinside : isInsideCrack dem.sim.geometry (dem.grain math i (candidates i)).position = true :=
    isInsideCrack_randomPoint _ (hdrawn i (Greedy.lt_of_mem_kept _ _ hi)).offset
  exact (Bool.true_and _).trans hinside

theorem generated_fillingVolume (dem : DEMObject R) {candidates : Nat → Candidate R}
    {count : Nat} (hdrawn : ∀ i < count, dem.Drawn (candidates i)) :
    ((dem.generateParticles math candidates count).filling.map fun p =>
      ballVolume math p.radius).sum = dem.keptVolume math candidates count := by
  rw [generated_filling math dem hdrawn, generated_volume]

theorem porosity_mem_iff [IsStrictOrderedRing R] {dem : DEMObject R} (hpos : dem.Positive)
    (candidates : Nat → Candidate R) (count : Nat) :
    (dem.generateParticles math candidates count).calculatePorosity math ∈ Set.Icc 0 1 ↔
      0 ≤ dem.keptVolume math candidates count ∧
        dem.keptVolume math candidates count ≤ crackVolume dem.sim.geometry := by
  have hgeometry : (dem.generateParticles math candidates count).sim.geometry =
      dem.sim.geometry := by
    rw [dem.generateParticles_eq math candidates]
    rfl
  have hcrack := hpos.crackVolume_pos
  have hpacking := packingDensity_eq (hgeometry ▸ hcrack)
    (generated_volume math dem candidates count)
  rw [DEMObject.calculatePorosity, hpacking, hgeometry, Set.mem_Icc, sub_nonneg, sub_le_self_iff,
    div_le_one hcrack, le_div_iff₀ hcrack, zero_mul, and_comm]

/-- The scores of any particles that `generate_particles` makes, with any contacts, are
normalised exactly if the volume of the balls is not negative and not larger than that
of the crack. -/
theorem scores_normalised_iff [IsStrictOrderedRing R] (hmath : ExactMath math)
    (dem : DEMObject R) (hpos : dem.Positive) (candidates : Nat → Candidate R) (count : Int)
    (hdrawn : ∀ i < count.toNat, dem.Drawn (candidates i)) :
    (dem.generateParticles math candidates count.toNat).Normalised math ↔
      0 ≤ dem.keptVolume math candidates count.toNat ∧
        dem.keptVolume math candidates count.toNat ≤ crackVolume dem.sim.geometry := by
  have hpos' : (dem.generateParticles math candidates count.toNat).Positive := by
    rw [dem.generateParticles_eq math candidates]
    exact ⟨hpos.crackLength, hpos.crackWidth, hpos.crackDepth, hpos.maxParticleRadius,
      hpos.bondStrength⟩
  have hiff := porosity_mem_iff math hpos candidates count.toNat
  constructor
  · intro h
    exact hiff.mp h.porosity
  · intro h
    have hporosity := hiff.mpr h
    have hdense : (dem.generateParticles math candidates count.toNat).calculatePackingDensity math ∈
        Set.Icc 0 1 := by
      obtain ⟨hle, hge⟩ := hporosity
      rw [DEMObject.calculatePorosity] at hle hge
      exact ⟨by linarith, by linarith⟩
    have hfilling := fillingRate_mem hpos' (generated_fillingVolume math dem hdrawn) h.1
    have hbonding := bondingStrength_mem hpos'.bondStrength
    have hsmooth := surfaceSmoothness_mem hmath hpos'.maxParticleRadius
    exact ⟨hfilling, hbonding, hsmooth, durability_mem hfilling hbonding hsmooth hdense, hporosity⟩

/-! ### A crack smaller than a particle -/

/-- A crack of a thousandth of a micrometre in width and depth. -/
def nanoCrack : DEMObject ℚ where
  sim := { oneGrain with
    geometry := ⟨0, 1 / 10 ^ 6, 1 / 1000, 1 / 1000⟩
    particles := [] }
  minParticleRadius := 15 / 10 ^ 9
  maxParticleRadius := 35 / 10 ^ 9
  bondStrength := 100 * 10 ^ 6
  boundaryPoints := []
  materialId := 1

/-- A particle of 25 nm at the origin of the crack. -/
def centred (_ : Nat) : Candidate ℚ := ⟨25 / 10 ^ 9, 0⟩

theorem exactMath_rational : ExactMath rationalMath where
  sqrt_nonneg x _ := Rat.sqrt_nonneg x
  pow_two x := by
    have hfloor : ⌊(2 : ℚ)⌋ = 2 := Int.floor_ofNat 2
    show x ^ ⌊(2 : ℚ)⌋ = x * x
    rw [hfloor]
    exact zpow_two x

theorem positive_nanoCrack : nanoCrack.Positive where
  crackLength := by norm_num [nanoCrack]
  crackWidth := by norm_num [nanoCrack]
  crackDepth := by norm_num [nanoCrack]
  maxParticleRadius := by norm_num [nanoCrack]
  bondStrength := by norm_num [nanoCrack]

theorem drawn_centred (i : Nat) : nanoCrack.Drawn (centred i) where
  radius_ge := by norm_num [nanoCrack, centred]
  radius_le := by norm_num [nanoCrack, centred]
  offset := by
    intro k
    fin_cases k <;> norm_num [nanoCrack, centred, halfSize]

theorem scores_normalised_iff_nanoCrack :
    (nanoCrack.generateParticles rationalMath centred 1).Normalised rationalMath ↔
      0 ≤ nanoCrack.keptVolume rationalMath centred 1 ∧
        nanoCrack.keptVolume rationalMath centred 1 ≤ crackVolume nanoCrack.sim.geometry :=
  scores_normalised_iff rationalMath exactMath_rational nanoCrack positive_nanoCrack centred 1
    fun i _ => drawn_centred i

theorem porosity_negative :
    ¬ ∀ (math : CMath ℚ) (dem : DEMObject ℚ) (candidates : Nat → Candidate ℚ) (count : Int),
        ExactMath math → dem.Positive → (∀ i < count.toNat, dem.Drawn (candidates i)) →
          (dem.generateParticles math candidates count.toNat).Normalised math := by
  intro h
  have hscores := h rationalMath nanoCrack centred 1 exactMath_rational positive_nanoCrack
    fun i _ => drawn_centred i
  have hle := ((porosity_mem_iff rationalMath positive_nanoCrack centred 1).mp hscores.porosity).2
  revert hle
  decide +kernel

end PorcelainMonitor.Algorithms
