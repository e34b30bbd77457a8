import Mathlib.Algebra.BigOperators.Group.List.Basic
import Mathlib.Data.List.ProdSigma
import Mathlib.Tactic.Abel
import PorcelainMonitor.Algorithms.DemDynamics
import PorcelainMonitor.Lib.CappedLoop

/-!
# What `detect_collisions` finds

The two loops go through the pairs of particles in lexicographic order, and both
end when `contacts_` is full.  A round writes forces and contacts.  The test, the
normal and the overlap depend on neither, so each pair is tested as it was before
the call.  The two forces of a contact are opposite.
-/

namespace PorcelainMonitor.Algorithms

open CappedLoop (loop)

variable {R : Type} [Field R] [LinearOrder R] (math : CMath R)

/-! ## Contacts -/

/-- The distance of two particles. -/
def distance (a b : DEMParticle R) : R := vectorNorm math (vectorSub b.position a.position)

/-- The contact of two particles. -/
structure ContactOf (a b : DEMParticle R) (c : DEMContact R) : Prop where
  particleA : c.particleA = a.id
  particleB : c.particleB = b.id
  normal : ∀ k, c.normal k = (b.position k - a.position k) / distance math a b
  overlap : c.overlap = a.radius + b.radius - distance math a b

/-- The pairs of places of a list, in lexicographic order. -/
def placePairs (n : Nat) : List (Nat × Nat) :=
  (List.range n ×ˢ List.range n).filter fun ij => ij.1 < ij.2

/-- The particles at two places are in contact. -/
def inContact (sim : DEMSimulation R) (ij : Nat × Nat) : Bool :=
  match sim.particles[ij.1]?, sim.particles[ij.2]? with
  | some a, some b => 1 / 10 ^ 15 < distance math a b && distance math a b < a.radius + b.radius
  | _, _ => false

/-- What `contacts_` is after the call, and what becomes of the particles. -/
structure Detected (sim after : DEMSimulation R) : Prop where
  contacts : List.Forall₂
    (fun ij c => ∃ a b, sim.particles[ij.1]? = some a ∧ sim.particles[ij.2]? = some b ∧
      ContactOf math a b c)
    (((placePairs sim.particles.length).filter (inContact math sim)).take maxContacts)
    after.contacts
  forces : (after.particles.map DEMParticle.force).sum =
    (sim.particles.map DEMParticle.force).sum
  motion : after.particles.map DEMParticle.unforced = sim.particles.map DEMParticle.unforced

/-! ## The pairs of the two loops -/

theorem filter_lt_range {i n : Nat} (hi : i < n) :
    (List.range n).filter (fun j => decide (i < j)) = List.range' (i + 1) (n - (i + 1)) := by
  have hsplit : List.range n = List.range' 0 (i + 1) ++ List.range' (i + 1) (n - (i + 1)) := by
    have happend := List.range'_append_1 (s := 0) (m := i + 1) (n := n - (i + 1))
    rw [Nat.zero_add, Nat.add_sub_of_le hi] at happend
    rw [List.range_eq_range', happend]
  have hbelow : (List.range' 0 (i + 1)).filter (fun j => decide (i < j)) = [] := by
    refine List.filter_eq_nil_iff.mpr fun j hj => ?_
    have hlt := (List.mem_range'_1.mp hj).2
    simp only [decide_eq_true_eq]
    omega
  have habove : (List.range' (i + 1) (n - (i + 1))).filter (fun j => decide (i < j)) =
      List.range' (i + 1) (n - (i + 1)) := by
    refine List.filter_eq_self.mpr fun j hj => ?_
    exact decide_eq_true (List.mem_range'_1.mp hj).1
  rw [hsplit, List.filter_append, hbelow, habove, List.nil_append]

theorem placePairs_eq (n : Nat) :
    placePairs n = (List.range n).flatMap fun i =>
      (List.range' (i + 1) (n - (i + 1))).map fun j => (i, j) := by
  have hrow : ∀ i ∈ List.range n,
      ((List.range n).map (Prod.mk i)).filter (fun ij => decide (ij.1 < ij.2)) =
        (List.range' (i + 1) (n - (i + 1))).map fun j => (i, j) := by
    intro i hi
    rw [List.filter_map, ← filter_lt_range (List.mem_range.mp hi)]
    rfl
  have hproduct : List.range n ×ˢ List.range n =
      (List.range n).flatMap fun i => (List.range n).map (Prod.mk i) := rfl
  rw [placePairs, hproduct, List.filter_flatMap]
  exact List.flatMap_congr hrow

/-- The test of both breaks. -/
def contactsFull (sim : DEMSimulation R) : Bool := maxContacts ≤ sim.contacts.length

variable {math}

theorem collideWith_eq_loop (i : Nat) (js : List Nat) (sim : DEMSimulation R) :
    collideWith math i js sim = loop contactsFull (fun j sim => collide math sim i j) js sim := by
  induction js generalizing sim with
  | nil => rfl
  | cons j js ih =>
      rw [collideWith, loop, ih]
      simp only [contactsFull, decide_eq_true_eq]

/-- The number of particles stays, so the two loops are one over the pairs. -/
theorem collideAll_eq_loop (n : Nat) (is : List Nat) (sim : DEMSimulation R)
    (hn : sim.particles.length = n) :
    collideAll math is sim =
      loop contactsFull (fun ij sim => collide math sim ij.1 ij.2)
        (is.flatMap fun i => (List.range' (i + 1) (n - (i + 1))).map fun j => (i, j)) sim := by
  induction is generalizing sim with
  | nil => rfl
  | cons i is ih =>
      have hinner : collideWith math i (List.range' (i + 1) (n - (i + 1))) sim =
          loop contactsFull (fun ij sim => collide math sim ij.1 ij.2)
            ((List.range' (i + 1) (n - (i + 1))).map fun j => (i, j)) sim := by
        rw [collideWith_eq_loop, CappedLoop.loop_map]
      have hlength : (collideWith math i (List.range' (i + 1) (n - (i + 1))) sim).particles.length =
          n := by
        have hsame : SameMotion sim (collideWith math i (List.range' (i + 1) (n - (i + 1))) sim) :=
          sameMotion_collideWith i _ sim
        have hmap := congrArg List.length hsame.particles
        rw [List.length_map, List.length_map, hn] at hmap
        exact hmap
      rw [collideAll, List.flatMap_cons, CappedLoop.loop_append, ← hinner, hn]
      split
      · next hfull =>
          have hstop : contactsFull
              (collideWith math i (List.range' (i + 1) (n - (i + 1))) sim) = true :=
            decide_eq_true hfull
          exact (CappedLoop.loop_of_full hstop).symm
      · exact ih _ hlength

theorem detectCollisions_eq_loop (sim : DEMSimulation R) :
    detectCollisions math sim =
      loop contactsFull (fun ij sim => collide math sim ij.1 ij.2)
        (placePairs sim.particles.length) { sim with contacts := [] } := by
  rw [placePairs_eq]
  exact collideAll_eq_loop sim.particles.length _ { sim with contacts := [] } rfl

/-! ## A round -/

/-- What a round for two particles writes to `contacts_`. -/
def contactsAt (math : CMath R) (sim : DEMSimulation R) (ij : Nat × Nat) : List (DEMContact R) :=
  match sim.particles[ij.1]?, sim.particles[ij.2]? with
  | some a, some b => (computeContactForces math sim.params a b).2.2
  | _, _ => []

theorem computeContactForces_contacts (params : DEMParameters R) {a a' b b' : DEMParticle R}
    (ha : a.unforced = a'.unforced) (hb : b.unforced = b'.unforced) :
    (computeContactForces math params a b).2.2 = (computeContactForces math params a' b').2.2 := by
  have hforce : ∀ a b : DEMParticle R, (computeContactForces math params a b).2.2 =
      (computeContactForces math params a.unforced b.unforced).2.2 := by
    intro a b
    have htouching : touching math a.unforced b.unforced = touching math a b := rfl
    simp only [computeContactForces, htouching]
    split
    · rfl
    · rfl
  rw [hforce a b, hforce a' b', ha, hb]

theorem contactsAt_congr {sim t : DEMSimulation R} (h : SameMotion sim t) (ij : Nat × Nat) :
    contactsAt math t ij = contactsAt math sim ij := by
  have hi := h.getElem? ij.1
  have hj := h.getElem? ij.2
  rw [contactsAt, contactsAt, h.params]
  cases ha : t.particles[ij.1]? with
  | none =>
      rw [ha] at hi
      rw [Option.map_eq_none_iff.mp hi.symm]
  | some a =>
      rw [ha] at hi
      obtain ⟨a', ha', hunforced⟩ := Option.map_eq_some_iff.mp hi.symm
      cases hb : t.particles[ij.2]? with
      | none =>
          rw [hb] at hj
          rw [Option.map_eq_none_iff.mp hj.symm, ha']
      | some b =>
          rw [hb] at hj
          obtain ⟨b', hb', hunforced'⟩ := Option.map_eq_some_iff.mp hj.symm
          rw [ha', hb']
          exact computeContactForces_contacts sim.params hunforced.symm hunforced'.symm

theorem collide_contacts (sim : DEMSimulation R) (ij : Nat × Nat) :
    (collide math sim ij.1 ij.2).contacts = sim.contacts ++ contactsAt math sim ij := by
  rw [collide, contactsAt]
  cases sim.particles[ij.1]? with
  | none => exact (List.append_nil _).symm
  | some a =>
      cases sim.particles[ij.2]? with
      | none => exact (List.append_nil _).symm
      | some b => rfl

/-- Of two particles in contact a round writes their contact, and else nothing. -/
theorem contactsAt_of_inContact {sim : DEMSimulation R} {ij : Nat × Nat}
    (h : inContact math sim ij = true) :
    ∃ c, contactsAt math sim ij = [c] ∧
      ∃ a b, sim.particles[ij.1]? = some a ∧ sim.particles[ij.2]? = some b ∧
        ContactOf math a b c := by
  rw [inContact] at h
  split at h
  · next a b ha hb =>
      have htouching : touching math a b = true := (Bool.and_comm _ _).trans h
      have hfar : 1 / 10 ^ 15 < distance math a b :=
        of_decide_eq_true (Bool.and_eq_true_iff.mp h).1
      have hnormal : vectorNormalize math (vectorSub b.position a.position) =
          ![(b.position 0 - a.position 0) / distance math a b,
            (b.position 1 - a.position 1) / distance math a b,
            (b.position 2 - a.position 2) / distance math a b] :=
        if_neg (not_lt_of_gt hfar)
      rw [contactsAt, ha, hb]
      simp only [computeContactForces, htouching, if_true]
      refine ⟨_, rfl, a, b, rfl, rfl, rfl, rfl, fun k => ?_, rfl⟩
      rw [hnormal]
      fin_cases k <;> rfl
  · cases h

theorem contactsAt_of_not_inContact {sim : DEMSimulation R} {ij : Nat × Nat}
    (h : inContact math sim ij = false) : contactsAt math sim ij = [] := by
  rw [inContact] at h
  rw [contactsAt]
  split
  · next a b ha hb =>
      simp only [ha, hb] at h
      have htouching : touching math a b = false := (Bool.and_comm _ _).trans h
      simp only [computeContactForces, htouching, Bool.false_eq_true, if_false]
  · rfl

/-! ## Forces -/

omit [LinearOrder R] in
theorem vectorSub_eq (a b : Vec R) : vectorSub a b = a - b := by
  funext k
  fin_cases k <;> rfl

variable (math) in
/-- Two particles get opposite forces. -/
theorem computeContactForces_opposite (params : DEMParameters R) (a b : DEMParticle R) :
    ∃ f : Vec R, (computeContactForces math params a b).1.force = a.force + f ∧
      (computeContactForces math params a b).2.1.force = b.force - f := by
  rw [computeContactForces]
  split
  · exact ⟨_, vectorAdd_eq _ _, vectorSub_eq _ _⟩
  · exact ⟨0, (add_zero _).symm, (sub_zero _).symm⟩

omit [LinearOrder R] in
/-- The vector sum of the forces. -/
def totalForce (sim : DEMSimulation R) : Vec R := (sim.particles.map DEMParticle.force).sum

theorem totalForce_collide (sim : DEMSimulation R) {i j : Nat} (hij : i ≠ j) :
    totalForce (collide math sim i j) = totalForce sim := by
  rw [collide]
  split
  · next a b ha hb =>
      obtain ⟨hi, rfl⟩ := List.getElem?_eq_some_iff.mp ha
      obtain ⟨hj, rfl⟩ := List.getElem?_eq_some_iff.mp hb
      obtain ⟨f, hfa, hfb⟩ := computeContactForces_opposite math sim.params
        sim.particles[i] sim.particles[j]
      simp only [totalForce, List.map_set, hfa, hfb, List.sum_set', List.length_set,
        List.length_map, hi, hj, dif_pos, List.getElem_set_ne hij, List.getElem_map]
      abel
  · rfl

/-! ## The call -/

theorem detectCollisions_contacts (sim : DEMSimulation R) :
    (detectCollisions math sim).contacts =
      ((placePairs sim.particles.length).flatMap (contactsAt math sim)).take maxContacts := by
  have hfull : ∀ t : DEMSimulation R, contactsFull t = true ↔ maxContacts ≤ t.contacts.length :=
    fun _ => decide_eq_true_iff
  have hround : ∀ ij ∈ placePairs sim.particles.length, ∀ t, SameMotion sim t →
      SameMotion sim (collide math t ij.1 ij.2) ∧
        (collide math t ij.1 ij.2).contacts = t.contacts ++ contactsAt math sim ij := by
    intro ij _ t ht
    refine ⟨ht.trans (sameMotion_collide t ij.1 ij.2), ?_⟩
    rw [collide_contacts, contactsAt_congr ht]
  have honce : ∀ ij ∈ placePairs sim.particles.length, (contactsAt math sim ij).length ≤ 1 := by
    intro ij _
    cases hij : inContact math sim ij with
    | false =>
        rw [contactsAt_of_not_inContact hij]
        exact Nat.zero_le 1
    | true =>
        obtain ⟨c, hc, -⟩ := contactsAt_of_inContact hij
        rw [hc]
        exact Nat.le_refl 1
  have hstart : SameMotion sim { sim with contacts := [] } := ⟨rfl, rfl, rfl⟩
  rw [detectCollisions_eq_loop, CappedLoop.out_loop hfull hround honce hstart]
  exact List.nil_append _

theorem detectCollisions_totalForce (sim : DEMSimulation R) :
    totalForce (detectCollisions math sim) = totalForce sim := by
  rw [detectCollisions_eq_loop]
  refine CappedLoop.loop_invariant (P := fun t => totalForce t = totalForce sim) ?_ rfl
  intro ij hij t ht
  have hlt : ij.1 < ij.2 := of_decide_eq_true (List.mem_filter.mp hij).2
  rw [totalForce_collide t (Nat.ne_of_lt hlt), ht]

variable (math)

/-- The contacts are those of the first pairs in contact, the total force is what it
was, and so is all else about the particles. -/
theorem collisions_detected (sim : DEMSimulation R) :
    Detected math sim (detectCollisions math sim) where
  contacts := by
    rw [detectCollisions_contacts]
    exact List.forall₂_take _ (CappedLoop.forall₂_flatMap
      (fun _ _ hij => contactsAt_of_inContact hij) fun _ _ hij => contactsAt_of_not_inContact hij)
  forces := detectCollisions_totalForce sim
  motion := (sameMotion_detectCollisions sim).particles

end PorcelainMonitor.Algorithms
