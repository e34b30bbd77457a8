import Mathlib.Data.List.Basic
import PorcelainMonitor.Lib.Steps

/-!
# Handlers that start operations

A program hands operations to a reactor.  The reactor completes them in any
order, each once, and a completion runs the handler of the operation's kind `κ`
with a result `ρ`.  A handler may start further operations and make calls `γ`.
The program can be shut down at any time, and again.

A program that has been shut down is drained once every operation outstanding at
that moment has completed.  What the handlers of these started is outstanding
then, and nothing further should be started or called.

* `Drained.step`: a drained program stays so.
* `stepsMeet_quiet_iff`: it is quiet along a run exactly if no step from a drained
  state is a completion that starts or calls something.
* `exec_outstanding`: a kind of operation that its handlers start again is
  outstanding for ever.
-/

namespace Reactor

variable {σ κ ρ γ : Type*}

/-- What a handler does. -/
structure Effect (σ κ γ : Type*) where
  state : σ
  started : List κ
  called : List γ

structure Program (σ κ ρ γ : Type*) where
  /-- An operation of this kind can have this result. -/
  possible : κ → ρ → Bool
  handle : σ → κ → ρ → Effect σ κ γ
  shutdown : σ → σ
  /-- The kinds that are not to be started once the program is drained. -/
  counted : κ → Bool

structure Operation (κ : Type*) where
  kind : κ
  /-- It was outstanding at the first shutdown. -/
  awaited : Bool

structure State (σ κ : Type*) where
  inner : σ
  outstanding : List (Operation κ)
  stopped : Bool

/-- An operation, by its place among those outstanding, completes. -/
inductive Event (ρ : Type*) where
  | complete (i : Nat) (result : ρ)
  | shutdown

/-- A program that has been started, with its first operations. -/
def State.start (inner : σ) (kinds : List κ) : State σ κ where
  inner := inner
  outstanding := kinds.map fun kind => ⟨kind, false⟩
  stopped := false

namespace Program

variable (p : Program σ κ ρ γ)

/-- A later shutdown has to wait for all that the first waits for. -/
def step (s : State σ κ) : Event ρ → Option (State σ κ)
  | .complete i result =>
      match s.outstanding[i]? with
      | none => none
      | some op =>
          if p.possible op.kind result then
            let effect := p.handle s.inner op.kind result
            some { s with
              inner := effect.state
              outstanding := s.outstanding.eraseIdx i ++
                effect.started.map fun kind => ⟨kind, false⟩ }
          else none
  | .shutdown => some {
      inner := p.shutdown s.inner
      outstanding :=
        if s.stopped then s.outstanding
        else s.outstanding.map fun op => { op with awaited := true }
      stopped := true }

/-- The handler starts nothing that counts and calls nothing. -/
def Silent (inner : σ) (kind : κ) (result : ρ) : Prop :=
  (p.handle inner kind result).started.filter p.counted = [] ∧
    (p.handle inner kind result).called = []

end Program

/-- Every operation outstanding at the shutdown has completed. -/
structure Drained (s : State σ κ) : Prop where
  stopped : s.stopped = true
  awaited : ∀ op ∈ s.outstanding, op.awaited = false

namespace Program

variable (p : Program σ κ ρ γ)

/-- In a drained state, nothing is started or called. -/
def Quiet (s : State σ κ) (e : Event ρ) : Prop :=
  Drained s → ∀ i result op, e = .complete i result → s.outstanding[i]? = some op →
    p.Silent s.inner op.kind result

/-- In a drained state, no operation completes in this way. -/
def Avoids (loud : κ → ρ → Prop) (s : State σ κ) (e : Event ρ) : Prop :=
  Drained s → ∀ i result op, e = .complete i result → s.outstanding[i]? = some op →
    ¬ loud op.kind result

end Program

variable {p : Program σ κ ρ γ} {s t : State σ κ} {e : Event ρ}

/-- What a completion does. -/
theorem step_complete {i : Nat} {result : ρ} (hst : p.step s (.complete i result) = some t) :
    ∃ op, s.outstanding[i]? = some op ∧ p.possible op.kind result = true ∧
      t = { s with
        inner := (p.handle s.inner op.kind result).state
        outstanding := s.outstanding.eraseIdx i ++
          (p.handle s.inner op.kind result).started.map fun kind => ⟨kind, false⟩ } := by
  simp only [Program.step] at hst
  split at hst
  · cases hst
  · next op hop =>
      split at hst
      · next hpossible =>
          cases hst
          exact ⟨op, hop, hpossible, rfl⟩
      · cases hst

theorem Drained.step (h : Drained s) (hst : p.step s e = some t) : Drained t := by
  cases e with
  | complete i result =>
      obtain ⟨op, _, _, rfl⟩ := step_complete hst
      refine ⟨h.stopped, fun op' hop' => ?_⟩
      rcases List.mem_append.mp hop' with hold | hnew
      · exact h.awaited op' (List.mem_of_mem_eraseIdx hold)
      · obtain ⟨kind, _, rfl⟩ := List.mem_map.mp hnew
        rfl
  | shutdown =>
      cases hst
      refine ⟨rfl, ?_⟩
      rw [if_pos h.stopped]
      exact h.awaited

/-- A run is quiet once drained exactly if, once drained, it has none of the
completions whose handlers start or call something. -/
theorem stepsMeet_quiet_iff {loud : κ → ρ → Prop}
    (hloud : ∀ inner kind result, p.possible kind result = true →
      (p.Silent inner kind result ↔ ¬ loud kind result)) {es : List (Event ρ)} :
    Steps.StepsMeet p.step p.Quiet s es ↔ Steps.StepsMeet p.step (Program.Avoids loud) s es := by
  have keep : ∀ (s : State σ κ) (e : Event ρ) t, True → True → p.step s e = some t → True :=
    fun _ _ _ _ _ _ => trivial
  have agree : ∀ s e t, True → p.step s e = some t →
      (p.Quiet s e ↔ Program.Avoids loud s e) := by
    intro s e t _ hst
    refine forall_congr' fun _ => forall_congr' fun i => forall_congr' fun result =>
      forall_congr' fun op => forall_congr' fun he => forall_congr' fun hop => ?_
    subst he
    obtain ⟨op', hop', hpossible, _⟩ := step_complete hst
    cases hop'.symm.trans hop
    exact hloud s.inner op.kind result hpossible
  exact Steps.stepsMeet_congr keep agree trivial (.of_forall fun _ _ _ => trivial)

/-! ## Operations that are started again -/

/-- An operation of this kind is outstanding. -/
def Outstanding (kinds : κ → Prop) (s : State σ κ) : Prop :=
  ∃ op ∈ s.outstanding, kinds op.kind

theorem Outstanding.step {kinds : κ → Prop}
    (hagain : ∀ inner kind result, p.possible kind result = true → kinds kind →
      ∃ kind' ∈ (p.handle inner kind result).started, kinds kind')
    (h : Outstanding kinds s) (hst : p.step s e = some t) : Outstanding kinds t := by
  obtain ⟨op, hmem, hkind⟩ := h
  cases e with
  | complete i result =>
      obtain ⟨op', hop', hpossible, rfl⟩ := step_complete hst
      obtain ⟨j, hj⟩ := List.mem_iff_getElem?.mp hmem
      by_cases hij : j = i
      · -- The operation itself completes, and its handler starts the next.
        subst hij
        cases hop'.symm.trans hj
        obtain ⟨kind', hstarted, hkind'⟩ := hagain s.inner op.kind result hpossible hkind
        exact ⟨⟨kind', false⟩, List.mem_append_right _ (List.mem_map_of_mem hstarted), hkind'⟩
      · have hrest := List.mem_eraseIdx_iff_getElem?.mpr ⟨j, hij, hj⟩
        exact ⟨op, List.mem_append_left _ hrest, hkind⟩
  | shutdown =>
      cases hst
      simp only [Outstanding]
      split
      · exact ⟨op, hmem, hkind⟩
      · exact ⟨{ op with awaited := true }, List.mem_map_of_mem hmem, hkind⟩

theorem exec_outstanding {kinds : κ → Prop}
    (hagain : ∀ inner kind result, p.possible kind result = true → kinds kind →
      ∃ kind' ∈ (p.handle inner kind result).started, kinds kind')
    (h : Outstanding kinds s) {es : List (Event ρ)} (hexec : Steps.exec p.step s es = some t) :
    Outstanding kinds t :=
  Steps.exec_invariant (fun _ _ _ hs hst => hs.step hagain hst) h hexec

end Reactor
