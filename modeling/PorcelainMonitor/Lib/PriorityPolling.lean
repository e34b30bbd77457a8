import Mathlib.Algebra.BigOperators.Group.Finset.Piecewise
import Mathlib.Algebra.Order.BigOperators.Group.Finset
import Mathlib.Tactic.Ring

/-!
# Polling inputs by priority

A worker tries `n` inputs one after the other.  It takes from the first that is
not empty, handles what it took, and starts over with the first input.  Only the
numbers count: how much waits at each input, and how much was taken from it.

* `taken_of_works`: what waits at an input is taken after a number of moves of the
  worker that grows with what waits before it and with what arrives at the inputs
  of higher priority, and with nothing else.
* `starves`: what waits at any other input than the first may wait for ever.
-/

namespace PriorityPolling

open Finset (range)

/-- Where the worker stands: before a round, before it tries an input, or handling
what it took. -/
inductive Pc where
  | test
  | trying (i : Nat)
  | handle
deriving DecidableEq, Repr

structure Worker where
  waiting : Nat → Nat
  taken : Nat → Nat
  pc : Pc

inductive Event where
  | work
  | arrive (i : Nat)
deriving DecidableEq, Repr

variable (n : Nat)

/-- The worker goes on. -/
def Worker.work (w : Worker) : Worker :=
  match w.pc with
  | .test => { w with pc := .trying 0 }
  | .trying i =>
      if w.waiting i = 0 then { w with pc := if i + 1 < n then .trying (i + 1) else .test }
      else { w with
        waiting := Function.update w.waiting i (w.waiting i - 1)
        taken := Function.update w.taken i (w.taken i + 1)
        pc := .handle }
  | .handle => { w with pc := .test }

def Worker.step (w : Worker) : Event → Worker
  | .work => w.work n
  | .arrive i => { w with waiting := Function.update w.waiting i (w.waiting i + 1) }

def Worker.run (w : Worker) (es : List Event) : Worker := es.foldl (Worker.step n) w

/-! ## Waiting -/

/-- So much arrives at inputs before the `i`-th. -/
def arrivalsBefore (i : Nat) (es : List Event) : Nat :=
  es.countP fun e => match e with
    | .work => false
    | .arrive j => j < i

/-- What is taken before the last of what is owed from the `i`-th input. -/
def Worker.ahead (i owed : Nat) (w : Worker) : Nat := ∑ j ∈ range i, w.waiting j + owed

/-- The moves to the next try of the `i`-th input. -/
def distance (i : Nat) : Pc → Nat
  | .trying j => if j ≤ i then i - j else i + 2 + (n - j)
  | .test => i + 1
  | .handle => i + 2

/-- The moves until all that is owed from the `i`-th input is taken. -/
def Worker.potential (i owed : Nat) (w : Worker) : Nat :=
  (i + 3) * w.ahead i owed + distance n i w.pc

variable {n}

/-- The worker stands before an input that there is. -/
def Worker.Valid (n : Nat) (w : Worker) : Prop := ∀ i, w.pc = .trying i → i < n

theorem Worker.Valid.step {w : Worker} (h : w.Valid n) (hn : 0 < n) (e : Event) :
    (w.step n e).Valid n := by
  cases e with
  | arrive j => exact h
  | work =>
      intro i hi
      simp only [Worker.step, Worker.work] at hi
      split at hi
      · cases hi
        exact hn
      · split_ifs at hi with hempty hlast
        · cases hi
          exact hlast
      · cases hi

theorem sum_update {i k v : Nat} (f : Nat → Nat) (hk : k < i) :
    ∑ j ∈ range i, Function.update f k v j + f k = ∑ j ∈ range i, f j + v := by
  have hmem : k ∈ range i := Finset.mem_range.mpr hk
  have hnew := Finset.sum_update_of_mem hmem f v
  have hold := Finset.sum_update_of_mem hmem f (f k)
  rw [Function.update_eq_self] at hold
  omega

theorem sum_update_of_le {i k v : Nat} (f : Nat → Nat) (hk : i ≤ k) :
    ∑ j ∈ range i, Function.update f k v j = ∑ j ∈ range i, f j :=
  Finset.sum_update_of_notMem (by simpa using hk) f v

/-- Taking what is ahead outweighs the way back to the `i`-th input. -/
theorem Worker.potential_lt {i owed owed' : Nat} {v w : Worker} (hpc : v.pc = .handle)
    (hahead : v.ahead i owed' + 1 = w.ahead i owed) :
    v.potential n i owed' < w.potential n i owed := by
  rw [Worker.potential, Worker.potential, hpc, distance, ← hahead, Nat.mul_add]
  omega

/-- Until `total` messages are taken from the `i`-th input, so many are there. -/
structure Owes (i total : Nat) (w : Worker) : Prop where
  enough : total ≤ w.taken i + w.waiting i
  owed : w.taken i < total

/-- A move of the worker brings it nearer to the last message that is owed. -/
theorem Owes.work {i total : Nat} {w : Worker} (h : Owes i total w) (hi : i < n)
    (hv : w.Valid n) : total ≤ (w.work n).taken i + (w.work n).waiting i ∧
      (w.work n).potential n i (total - (w.work n).taken i) <
        w.potential n i (total - w.taken i) := by
  obtain ⟨henough, howed⟩ := h
  rw [Worker.work]
  split
  case h_1 hpc =>
    refine ⟨henough, ?_⟩
    simp [Worker.potential, Worker.ahead, distance, hpc]
  case h_2 j hpc =>
    have hj : j < n := hv j hpc
    split_ifs with hempty hlast
    · refine ⟨henough, ?_⟩
      simp only [Worker.potential, Worker.ahead, distance, hpc]
      grind
    · refine ⟨henough, ?_⟩
      simp only [Worker.potential, Worker.ahead, distance, hpc]
      grind
    · rcases Nat.lt_trichotomy j i with hlt | rfl | hlt
      · have hsum := sum_update (v := w.waiting j - 1) w.waiting hlt
        refine ⟨by simpa [hlt.ne'] using henough, Worker.potential_lt rfl ?_⟩
        simp only [Worker.ahead, Function.update_of_ne hlt.ne']
        omega
      · have hsum := sum_update_of_le (v := w.waiting j - 1) w.waiting (le_refl j)
        refine ⟨?_, Worker.potential_lt rfl ?_⟩
        · simp only [Function.update_self]
          omega
        · simp only [Worker.ahead, Function.update_self, hsum]
          omega
      · have hsum := sum_update_of_le (v := w.waiting j - 1) w.waiting hlt.le
        refine ⟨by simpa [hlt.ne] using henough, ?_⟩
        simp only [Worker.potential, Worker.ahead, Function.update_of_ne hlt.ne, hsum, distance,
          hpc, if_neg (Nat.not_le.mpr hlt)]
        omega
  case h_3 hpc =>
    refine ⟨henough, ?_⟩
    simp [Worker.potential, Worker.ahead, distance, hpc]

/-- What arrives before the `i`-th input is ahead of it. -/
theorem Owes.arrive {i total : Nat} {w : Worker} (h : Owes i total w) (j : Nat) :
    total ≤ (w.step n (.arrive j)).taken i + (w.step n (.arrive j)).waiting i ∧
      (w.step n (.arrive j)).potential n i (total - w.taken i) ≤
        w.potential n i (total - w.taken i) + if j < i then i + 3 else 0 := by
  obtain ⟨henough, howed⟩ := h
  constructor
  · simp only [Worker.step, Function.update_apply]
    split_ifs with hj
    · subst hj
      omega
    · exact henough
  · simp only [Worker.step, Worker.potential, Worker.ahead]
    split_ifs with hj
    · have hsum := sum_update (v := w.waiting j + 1) w.waiting hj
      have hone : ∑ k ∈ range i, Function.update w.waiting j (w.waiting j + 1) k =
          ∑ k ∈ range i, w.waiting k + 1 := by omega
      rw [hone]
      simp only [Nat.mul_add]
      omega
    · rw [sum_update_of_le w.waiting (Nat.not_lt.mp hj)]
      exact le_rfl

theorem Worker.taken_le_step (w : Worker) (i : Nat) (e : Event) :
    w.taken i ≤ (w.step n e).taken i := by
  cases e with
  | arrive j => exact le_rfl
  | work =>
      simp only [Worker.step, Worker.work]
      split
      · exact le_rfl
      · split_ifs
        · exact le_rfl
        · exact le_rfl
        · simp only [Function.update_apply]
          split_ifs with hi
          · subst hi
            omega
          · exact le_rfl
      · exact le_rfl

theorem Worker.taken_le_run (w : Worker) (i : Nat) (es : List Event) :
    w.taken i ≤ (w.run n es).taken i := by
  induction es generalizing w with
  | nil => exact le_rfl
  | cons e es ih => exact (w.taken_le_step i e).trans (ih (w.step n e))

/-- In a run all that is owed is taken, or every move of the worker has been paid
for. -/
theorem Owes.run {i : Nat} (total : Nat) {w : Worker} (es : List Event)
    (hv : w.Valid n) (hi : i < n) (henough : total ≤ w.taken i + w.waiting i) :
    total ≤ (w.run n es).taken i ∨
      Owes i total (w.run n es) ∧
      (w.run n es).potential n i (total - (w.run n es).taken i) + es.count .work ≤
        w.potential n i (total - w.taken i) + (i + 3) * arrivalsBefore i es := by
  induction es generalizing w with
  | nil =>
      rcases Nat.lt_or_ge (w.taken i) total with howed | hdone
      · exact .inr ⟨⟨henough, howed⟩, by simp [Worker.run, arrivalsBefore]⟩
      · exact .inl hdone
  | cons e es ih =>
      rcases Nat.lt_or_ge (w.taken i) total with howed | hdone
      · have howes : Owes i total w := ⟨henough, howed⟩
        have hvalid : (w.step n e).Valid n := hv.step (by omega) e
        cases e with
        | work =>
            obtain ⟨hleft, hless⟩ := howes.work hi hv
            refine (ih hvalid hleft).imp_right fun ⟨hrest, hpaid⟩ => ⟨hrest, ?_⟩
            have hcount : arrivalsBefore i (.work :: es) = arrivalsBefore i es := by
              simp [arrivalsBefore]
            have hwork : w.step n .work = w.work n := rfl
            rw [hwork] at hpaid
            rw [hcount, List.count_cons_self]
            simp only [Worker.run, List.foldl_cons, hwork] at hpaid ⊢
            omega
        | arrive j =>
            obtain ⟨hleft, hmore⟩ := howes.arrive (n := n) j
            refine (ih hvalid hleft).imp_right fun ⟨hrest, hpaid⟩ => ⟨hrest, ?_⟩
            have hcount : arrivalsBefore i (.arrive j :: es) =
                arrivalsBefore i es + if j < i then 1 else 0 := by
              simp [arrivalsBefore, List.countP_cons]
            have hsame : (w.step n (.arrive j)).taken i = w.taken i := rfl
            rw [hsame] at hpaid
            rw [hcount, Nat.mul_add, List.count_cons_of_ne (by simp)]
            simp only [Worker.run, List.foldl_cons] at hpaid ⊢
            split_ifs at hmore ⊢ <;> omega
      · exact .inl (hdone.trans (w.taken_le_run i (e :: es)))

theorem distance_le {i : Nat} {w : Worker} (hi : i < n) (hv : w.Valid n) :
    distance n i w.pc ≤ n + 1 := by
  cases hpc : w.pc with
  | test =>
      simp only [distance]
      omega
  | trying j =>
      have hj : j < n := hv j hpc
      simp only [distance]
      split_ifs
      · omega
      · omega
  | handle =>
      simp only [distance]
      omega

/-- What waits at an input is taken in time. -/
theorem taken_of_works {i : Nat} {w : Worker} {es : List Event} (hi : i < n) (hv : w.Valid n)
    (hworks : (i + 3) * (∑ j ∈ range (i + 1), w.waiting j + arrivalsBefore i es) + n + 1 ≤
      es.count .work) : w.taken i + w.waiting i ≤ (w.run n es).taken i := by
  rcases Owes.run (w.taken i + w.waiting i) es hv hi le_rfl with hdone | ⟨howes, hpaid⟩
  · exact hdone
  · have hstart : w.potential n i (w.taken i + w.waiting i - w.taken i) ≤
        (i + 3) * ∑ j ∈ range (i + 1), w.waiting j + (n + 1) := by
      rw [Worker.potential, Worker.ahead, Finset.sum_range_succ, Nat.add_sub_cancel_left]
      exact Nat.add_le_add_left (distance_le hi hv) _
    have hend : 0 < (w.run n es).potential n i
        (w.taken i + w.waiting i - (w.run n es).taken i) := by
      have howed := howes.owed
      have hahead : 0 < (w.run n es).ahead i
          (w.taken i + w.waiting i - (w.run n es).taken i) := by
        rw [Worker.ahead]
        omega
      exact Nat.lt_of_lt_of_le (Nat.mul_pos (by omega) hahead) (Nat.le_add_right _ _)
    rw [Nat.mul_add] at hworks
    omega

/-! ## Starving -/

/-- One message at the first input, and the round that takes it. -/
def firstRound : List Event := [.arrive 0, .work, .work, .work]

theorem Worker.run_firstRound {w : Worker} (hpc : w.pc = .test) : w.run n firstRound =
    { w with taken := Function.update w.taken 0 (w.taken 0 + 1) } := by
  obtain ⟨waiting, taken, pc⟩ := w
  subst hpc
  simp [Worker.run, firstRound, Worker.step, Worker.work]

/-- As long as messages arrive at the first input the others get no turn. -/
theorem starves {w : Worker} (hpc : w.pc = .test) (k : Nat) :
    w.run n (List.replicate k firstRound).flatten =
      { w with taken := Function.update w.taken 0 (w.taken 0 + k) } := by
  induction k generalizing w with
  | zero => simp [Worker.run]
  | succ k ih =>
      rw [List.replicate_succ, List.flatten_cons, Worker.run, List.foldl_append]
      change ((w.run n firstRound).run n _) = _
      rw [Worker.run_firstRound hpc, ih (by exact hpc)]
      simp only [Function.update_self, Function.update_idem, Nat.add_right_comm, Nat.add_assoc]

end PriorityPolling
