import Mathlib.Logic.Function.Iterate

/-!
# Loops with a break

A loop applies `f` to its state at most `n` times and breaks at the first new
state that meets `stop`.  `stopIndex` is the number of the application that
breaks, counted from zero.
-/

namespace Loop

variable {σ : Type*} (f : σ → σ) (stop : σ → Prop) [DecidablePred stop]

/-- The first of `n` applications whose result meets `stop`. -/
def stopIndex : Nat → σ → Option Nat
  | 0, _ => none
  | n + 1, s => if stop (f s) then some 0 else (stopIndex n (f s)).map (· + 1)

variable {f stop}

/-- The loop runs to its end exactly when no state it would reach meets `stop`. -/
theorem stopIndex_eq_none : ∀ {n : Nat} {s : σ},
    stopIndex f stop n s = none ↔ ∀ i < n, ¬ stop (f^[i + 1] s)
  | 0, s => by simp [stopIndex]
  | n + 1, s => by
      rw [stopIndex]
      by_cases hs : stop (f s)
      · simp only [hs, if_true, reduceCtorEq, false_iff]
        exact fun h => h 0 (Nat.succ_pos n) hs
      · simp only [hs, if_false, Option.map_eq_none_iff, stopIndex_eq_none]
        constructor
        · intro h i hi
          cases i with
          | zero => exact hs
          | succ i => exact h i (Nat.lt_of_succ_lt_succ hi)
        · intro h i hi
          exact h (i + 1) (Nat.succ_lt_succ hi)

/-- The loop breaks at the first application whose result meets `stop`. -/
theorem stopIndex_eq_some : ∀ {n : Nat} {s : σ} {j : Nat},
    stopIndex f stop n s = some j ↔
      j < n ∧ stop (f^[j + 1] s) ∧ ∀ i < j, ¬ stop (f^[i + 1] s)
  | 0, s, j => by simp [stopIndex]
  | n + 1, s, j => by
      rw [stopIndex]
      by_cases hs : stop (f s)
      · simp only [hs, if_true, Option.some.injEq]
        constructor
        · rintro rfl
          exact ⟨Nat.succ_pos n, hs, fun i hi => absurd hi (Nat.not_lt_zero i)⟩
        · rintro ⟨_, _, hfirst⟩
          cases j with
          | zero => rfl
          | succ j => exact absurd hs (hfirst 0 (Nat.succ_pos j))
      · simp only [hs, if_false, Option.map_eq_some_iff]
        constructor
        · rintro ⟨k, hk, rfl⟩
          obtain ⟨hkn, hstop, hfirst⟩ := stopIndex_eq_some.mp hk
          refine ⟨Nat.succ_lt_succ hkn, hstop, fun i hi => ?_⟩
          cases i with
          | zero => exact hs
          | succ i => exact hfirst i (Nat.lt_of_succ_lt_succ hi)
        · rintro ⟨hjn, hstop, hfirst⟩
          cases j with
          | zero => exact absurd hstop hs
          | succ j =>
              refine ⟨j, stopIndex_eq_some.mpr ⟨Nat.lt_of_succ_lt_succ hjn, hstop, ?_⟩, rfl⟩
              exact fun i hi => hfirst (i + 1) (Nat.succ_lt_succ hi)

/-- A state that meets `stop` makes the loop break there or before. -/
theorem stopIndex_le {n i : Nat} {s : σ} (hi : i < n) (hstop : stop (f^[i + 1] s)) :
    ∃ j ≤ i, stopIndex f stop n s = some j := by
  cases h : stopIndex f stop n s with
  | none => exact absurd hstop (stopIndex_eq_none.mp h i hi)
  | some j =>
      refine ⟨j, ?_, rfl⟩
      by_contra hij
      exact (stopIndex_eq_some.mp h).2.2 i (by omega) hstop

end Loop
