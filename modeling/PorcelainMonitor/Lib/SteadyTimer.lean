import Mathlib.Data.Bool.Basic

/-!
# Timers with one wait

A timer that a program arms with `expires_after` and `async_wait`, one after the
other.  Arming and cancelling end a wait that has not expired, without a call.
Once a wait has expired its handler is queued and runs, whatever is done to the
timer afterwards.

`outstanding` counts the calls still to come.  An expiry leaves it as it is
(`outstanding_of_expire`) and a call takes one away (`outstanding_of_take`).
-/

/-- A timer with at most one wait, and the handlers of the waits before it. -/
structure SteadyTimer where
  /-- A wait has not expired yet. -/
  waiting : Bool
  /-- Expired waits whose handlers have not run. -/
  queued : Nat
deriving DecidableEq, Repr

namespace SteadyTimer

/-- Nothing to wait for, and no handler to call. -/
def idle : SteadyTimer := ⟨false, 0⟩

/-- A new wait.  It takes the place of the one before, whose handler is not called. -/
def expiresAfter (t : SteadyTimer) : SteadyTimer := { t with waiting := true }

/-- A handler that is queued already is still called. -/
def cancel (t : SteadyTimer) : SteadyTimer := { t with waiting := false }

/-- The wait expires. -/
def expire (t : SteadyTimer) : Option SteadyTimer :=
  if t.waiting then some ⟨false, t.queued + 1⟩ else none

/-- A queued handler is called. -/
def take (t : SteadyTimer) : Option SteadyTimer :=
  match t.queued with
  | 0 => none
  | n + 1 => some { t with queued := n }

/-- The handlers that will be called if nothing is cancelled. -/
def outstanding (t : SteadyTimer) : Nat := t.waiting.toNat + t.queued

variable {t u : SteadyTimer}

@[simp] theorem outstanding_expiresAfter : t.expiresAfter.outstanding = t.queued + 1 :=
  Nat.add_comm 1 t.queued

theorem eq_idle_of_outstanding (h : t.outstanding = 0) : t = idle := by
  obtain ⟨waiting, queued⟩ := t
  cases waiting with
  | false =>
      obtain rfl : queued = 0 := by simpa [outstanding] using h
      rfl
  | true => simp [outstanding] at h

theorem queued_of_outstanding (h : t.outstanding = 0) : t.queued = 0 := by
  rw [eq_idle_of_outstanding h]
  rfl

/-- A wait that expires becomes a queued handler. -/
theorem outstanding_of_expire (h : t.expire = some u) : u.outstanding = t.outstanding := by
  obtain ⟨waiting, queued⟩ := t
  cases waiting with
  | false => cases h
  | true =>
      cases h
      simp [outstanding, Nat.add_comm]

theorem outstanding_of_take (h : t.take = some u) : u.outstanding + 1 = t.outstanding := by
  obtain ⟨waiting, queued⟩ := t
  cases queued with
  | zero => cases h
  | succ n =>
      cases h
      exact Nat.add_assoc _ _ _

end SteadyTimer
