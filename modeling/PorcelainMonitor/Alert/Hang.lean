import PorcelainMonitor.Alert.Shutdown

/-!
# `stop` waiting for a blocked worker

`stop` clears `running_` without `queue_mutex_`, so it may do so, and notify,
after the predicate of `cv_.wait` has failed and before the worker blocks.  The
notification is lost, the worker blocks with nothing to do, and `join` waits for
it.  Only another `enqueue_alert` can wake the worker up then.

Whoever is inside `enqueue_alert` has still to notify.  So the server hangs
exactly if the worker blocks behind the notification of `stop` with nobody there
(`stop_hangs_iff`).
-/

namespace PorcelainMonitor.Alerts

variable {ι T : Type}

/-- The caller has still to notify. -/
def EnqueuePc.toNotify : EnqueuePc T → Bool
  | .idle => false
  | .lock _ => true
  | .push _ => true
  | .unlock _ => true
  | .notify _ => true
  | .return _ => false

/-- The worker is blocked with an empty queue and no notification to come, while
`stop` waits for it. -/
structure Hung (s : WorkerState ι T) : Prop where
  worker : s.worker = .blocked
  alertQueue : s.alertQueue = []
  silent : ∀ i, (s.enqueue i).toNotify = false
  stop : s.stop = .join

/-- The worker does not block behind the notification of `stop`, unless somebody
has still to notify. -/
def BlockOk (s : WorkerState ι T) (a : WorkerAction ι T) : Prop :=
  a = .worker → s.worker = .waitBlock → s.stop = .join → ∃ i, (s.enqueue i).toNotify = true

/-- `stop` does not notify between the failed predicate of the worker and its
blocking. -/
def NotifyOk (s : WorkerState ι T) (a : WorkerAction ι T) : Prop :=
  a = .stop → s.stop = .notify → s.worker ≠ .waitBlock

/-! ## The position of the worker -/

namespace WorkerPc

theorem woken_ne_blocked (pc : WorkerPc T) : pc.woken ≠ .blocked := by
  cases pc <;> simp [woken]

theorem woken_eq_waitBlock {pc : WorkerPc T} (h : pc.woken = .waitBlock) : pc = .waitBlock := by
  cases pc with
  | blocked => cases h
  | _ => exact h

end WorkerPc

/-- A step of the worker leaves the others alone.  It blocks from one position
only, and gets there only with an empty queue and `running_` set. -/
structure WorkerStep (s t : WorkerState ι T) : Prop where
  enqueue : t.enqueue = s.enqueue
  stop : t.stop = s.stop
  blocked : t.worker = .blocked → s.worker = .waitBlock ∧ t.alertQueue = s.alertQueue
  waitBlock : t.worker = .waitBlock → t.alertQueue = [] ∧ s.running = true

namespace WorkerStep

/-- A step to any other position. -/
theorem elsewhere {s t : WorkerState ι T} (henqueue : t.enqueue = s.enqueue)
    (hstop : t.stop = s.stop) (hblocked : t.worker ≠ .blocked) (hwait : t.worker ≠ .waitBlock) :
    WorkerStep s t :=
  ⟨henqueue, hstop, fun h => absurd h hblocked, fun h => absurd h hwait⟩

theorem of_step {s t : WorkerState ι T} (hst : s.workerStep = some t) : WorkerStep s t := by
  rw [WorkerState.workerStep] at hst
  cases hpc : s.worker with
  | test =>
      simp only [hpc] at hst
      cases hst
      refine .elsewhere rfl rfl ?_ ?_
      · split <;> simp
      · split <;> simp
  | waitTest =>
      simp only [hpc] at hst
      cases hst
      refine ⟨rfl, rfl, fun h => ?_, fun h => ?_⟩
      · simp only at h
        split at h <;> cases h
      · simp only at h
        split at h
        · cases h
        · next hfailed => simpa using hfailed
  | waitBlock =>
      simp only [hpc] at hst
      cases hst
      exact ⟨rfl, rfl, fun _ => ⟨hpc, rfl⟩, fun h => by cases h⟩
  | drain =>
      simp only [hpc] at hst
      split at hst
      · cases hst
        exact .elsewhere rfl rfl (by simp) (by simp)
      · cases hst
        exact .elsewhere rfl rfl (by simp) (by simp)
  | unlock alert =>
      simp only [hpc] at hst
      cases hst
      exact .elsewhere rfl rfl (by simp) (by simp)
  | release =>
      simp only [hpc] at hst
      cases hst
      exact .elsewhere rfl rfl (by simp) (by simp)
  | blocked => simp [hpc] at hst
  | dispatch alert => simp [hpc] at hst
  | exited => simp [hpc] at hst
  | _ =>
      simp only [hpc] at hst
      split at hst
      · cases hst
        exact .elsewhere rfl rfl (by simp) (by simp)
      · cases hst

end WorkerStep

/-! ## The other parties -/

/-- What a step of another party does. -/
inductive OtherStep (a : WorkerAction ι T) (s t : WorkerState ι T) : Prop where
  /-- It leaves the worker where it is, and everybody who has to notify.  Whoever
  touches the queue holds the lock. -/
  | stays : t.worker = s.worker →
      (∀ i, (s.enqueue i).toNotify = true → (t.enqueue i).toNotify = true) →
      (t.stop = .join → s.stop = .join) →
      (t.alertQueue = s.alertQueue ∨ ∃ i, (s.enqueue i).holds = true) → OtherStep a s t
  | notifies : t.worker = s.worker.woken →
      (t.stop = .join → s.stop = .join ∨ a = .stop ∧ s.stop = .notify) →
      t.alertQueue = s.alertQueue → OtherStep a s t

variable [DecidableEq ι]

/-- A caller who has still to notify afterwards. -/
theorem toNotify_update {f : ι → EnqueuePc T} {i : ι} {pc : EnqueuePc T}
    (h : (f i).toNotify = true → pc.toNotify = true) (j : ι) (hj : (f j).toNotify = true) :
    (Function.update f i pc j).toNotify = true := by
  by_cases hij : j = i
  · subst hij
    simpa using h hj
  · simpa [hij] using hj

theorem WorkerState.enqueueStep_other {s t : WorkerState ι T} {i : ι}
    (hst : s.enqueueStep i = some t) : OtherStep (.enqueue i) s t := by
  rw [WorkerState.enqueueStep] at hst
  cases hpc : s.enqueue i with
  | idle => simp [hpc] at hst
  | lock alert =>
      simp only [hpc] at hst
      split at hst
      · cases hst
        exact .stays rfl (toNotify_update fun _ => rfl) id (.inl rfl)
      · cases hst
  | push alert =>
      simp only [hpc] at hst
      cases hst
      exact .stays rfl (toNotify_update fun _ => rfl) id (.inr ⟨i, by rw [hpc]; rfl⟩)
  | unlock position =>
      simp only [hpc] at hst
      cases hst
      exact .stays rfl (toNotify_update fun _ => rfl) id (.inl rfl)
  | notify position =>
      simp only [hpc] at hst
      cases hst
      exact .notifies rfl .inl rfl
  | «return» position =>
      simp only [hpc] at hst
      cases hst
      refine .stays rfl (toNotify_update ?_) id (.inl rfl)
      intro h
      rw [hpc] at h
      cases h

omit [DecidableEq ι] in
theorem WorkerState.stopStep_other {s t : WorkerState ι T} (hst : s.stopStep = some t) :
    OtherStep .stop s t := by
  rw [WorkerState.stopStep] at hst
  cases hpc : s.stop with
  | notCalled => simp [hpc] at hst
  | store =>
      simp only [hpc] at hst
      cases hst
      exact .stays rfl (fun _ => id) (fun h => by cases h) (.inl rfl)
  | notify =>
      simp only [hpc] at hst
      cases hst
      exact .notifies rfl (fun _ => .inr ⟨rfl, hpc⟩) rfl
  | join =>
      simp only [hpc] at hst
      split at hst
      · cases hst
        exact .stays rfl (fun _ => id) (fun h => by cases h) (.inl rfl)
      · cases hst
  | returned => simp [hpc] at hst

/-- Only the worker itself blocks. -/
theorem WorkerState.step_party {s t : WorkerState ι T} {a : WorkerAction ι T}
    (hst : s.step a = some t) :
    WorkerStep s t ∧ (t.worker = .blocked → a = .worker) ∨ OtherStep a s t := by
  cases a with
  | callEnqueue i alert =>
      simp only [WorkerState.step] at hst
      split at hst
      · cases hst
        exact .inr (.stays rfl (toNotify_update fun _ => rfl) id (.inl rfl))
      · cases hst
  | enqueue i => exact .inr (WorkerState.enqueueStep_other hst)
  | worker => exact .inl ⟨.of_step hst, fun _ => rfl⟩
  | dispatched threw =>
      simp only [WorkerState.step] at hst
      split at hst
      · cases hst
        exact .inl ⟨.elsewhere rfl rfl (by simp) (by simp), fun h => by cases h⟩
      · cases hst
  | spuriousWakeup =>
      simp only [WorkerState.step] at hst
      split at hst
      · cases hst
        exact .inl ⟨.elsewhere rfl rfl (by simp) (by simp), fun h => by cases h⟩
      · cases hst
  | callStop =>
      simp only [WorkerState.step] at hst
      split at hst
      · cases hst
        exact .inr (.stays rfl (fun _ => id) (fun h => by cases h) (.inl rfl))
      · cases hst
  | stop => exact .inr (WorkerState.stopStep_other hst)

/-! ## Runs -/

variable {s t : WorkerState ι T} {a : WorkerAction ι T}

/-- A blocked worker that `stop` waits for has somebody to wake it up. -/
structure Wakeful (s : WorkerState ι T) : Prop where
  inv : WorkerInv s
  empty : s.worker = .waitBlock → s.alertQueue = []
  awake : s.worker = .blocked → s.stop = .join → ∃ i, (s.enqueue i).toNotify = true

omit [DecidableEq ι] in
theorem Wakeful.init : Wakeful (.init : WorkerState ι T) :=
  ⟨.init, fun h => (by cases h), fun h => by cases h⟩

theorem Wakeful.step (h : Wakeful s) (hok : BlockOk s a) (hst : s.step a = some t) :
    Wakeful t := by
  refine ⟨h.inv.step hst, fun hw => ?_, fun hw hstop => ?_⟩
  · rcases WorkerState.step_party hst with ⟨hworker, _⟩ | hother
    · exact (hworker.waitBlock hw).1
    · cases hother with
      | stays hsame _ _ hqueue =>
          rw [hsame] at hw
          rcases hqueue with hqueue | ⟨i, hholds⟩
          · rw [hqueue]
            exact h.empty hw
          · have hnot := h.inv.worker_not_holding hholds
            rw [hw] at hnot
            cases hnot
      | notifies hwoken _ hqueue =>
          rw [hwoken] at hw
          rw [hqueue]
          exact h.empty (WorkerPc.woken_eq_waitBlock hw)
  · rcases WorkerState.step_party hst with ⟨hworker, hself⟩ | hother
    · have hbefore := (hworker.blocked hw).1
      rw [hworker.stop] at hstop
      rw [hworker.enqueue]
      exact hok (hself hw) hbefore hstop
    · cases hother with
      | stays hsame hnotify hjoin _ =>
          rw [hsame] at hw
          obtain ⟨i, hi⟩ := h.awake hw (hjoin hstop)
          exact ⟨i, hnotify i hi⟩
      | notifies hwoken _ _ =>
          rw [hwoken] at hw
          exact absurd hw (WorkerPc.woken_ne_blocked _)

omit [DecidableEq ι] in
theorem Wakeful.not_hung (h : Wakeful s) : ¬ Hung s := by
  intro hung
  obtain ⟨i, hi⟩ := h.awake hung.worker hung.stop
  rw [hung.silent i] at hi
  cases hi

/-- Blocking with nobody there hangs. -/
theorem Hung.of_block (h : Wakeful s) (hbad : ¬ BlockOk s a) (hst : s.step a = some t) :
    Hung t := by
  have hn : a = .worker ∧ s.worker = .waitBlock ∧ s.stop = .join ∧
      ∀ i, (s.enqueue i).toNotify = false := by
    simpa only [BlockOk, Classical.not_imp, not_exists, Bool.not_eq_true] using hbad
  obtain ⟨rfl, hw, hstop, hsilent⟩ := hn
  simp only [WorkerState.step, WorkerState.workerStep, hw] at hst
  cases hst
  exact ⟨rfl, h.empty hw, hsilent, hstop⟩

/-- Only a new call or a spurious wakeup ends a hang. -/
theorem Hung.step (h : Hung s) (hcall : ∀ i alert, a ≠ .callEnqueue i alert)
    (hwakeup : a ≠ .spuriousWakeup) (hst : s.step a = some t) : Hung t := by
  cases a with
  | callEnqueue i alert => exact absurd rfl (hcall i alert)
  | enqueue i =>
      have hsilent := h.silent i
      simp only [WorkerState.step, WorkerState.enqueueStep] at hst
      cases hpc : s.enqueue i with
      | idle => simp [hpc] at hst
      | «return» position =>
          simp only [hpc] at hst
          cases hst
          refine ⟨h.worker, h.alertQueue, fun j => ?_, h.stop⟩
          by_cases hj : j = i
          · subst hj
            simp [WorkerState.setEnqueue, EnqueuePc.toNotify]
          · simpa [WorkerState.setEnqueue, hj] using h.silent j
      | _ =>
          rw [hpc] at hsilent
          cases hsilent
  | worker => simp [WorkerState.step, WorkerState.workerStep, h.worker] at hst
  | dispatched threw => simp [WorkerState.step, h.worker] at hst
  | spuriousWakeup => exact absurd rfl hwakeup
  | callStop => simp [WorkerState.step, h.stop] at hst
  | stop => simp [WorkerState.step, WorkerState.stopStep, h.stop, h.worker] at hst

/-- The worker is not about to block behind the notification of `stop`. -/
structure Timely (s : WorkerState ι T) : Prop where
  inv : WorkerInv s
  notBehind : s.worker = .waitBlock → s.stop ≠ .join

omit [DecidableEq ι] in
theorem Timely.init : Timely (.init : WorkerState ι T) := ⟨.init, fun h => by cases h⟩

theorem Timely.step (h : Timely s) (hok : NotifyOk s a) (hst : s.step a = some t) : Timely t := by
  refine ⟨h.inv.step hst, fun hw hstop => ?_⟩
  rcases WorkerState.step_party hst with ⟨hworker, _⟩ | hother
  · -- The predicate fails only while `running_` is set.
    have hrunning := (hworker.waitBlock hw).2
    rw [hworker.stop] at hstop
    rw [h.inv.running, hstop] at hrunning
    cases hrunning
  · cases hother with
    | stays hsame _ hjoin _ =>
        rw [hsame] at hw
        exact h.notBehind hw (hjoin hstop)
    | notifies hwoken hjoin _ =>
        rw [hwoken] at hw
        have hbefore := WorkerPc.woken_eq_waitBlock hw
        rcases hjoin hstop with hjoined | ⟨ha, hnotify⟩
        · exact h.notBehind hbefore hjoined
        · exact hok ha hnotify hbefore

/-- A run never hangs exactly if the worker never blocks behind the notification
of `stop` with nobody left to notify.  It does not if `stop` never notifies
between the failed predicate of the worker and its blocking. -/
theorem stop_hangs_iff (es : List (WorkerAction ι T)) :
    (Steps.StatesMeet WorkerState.step (fun s => ¬ Hung s) .init es ↔
        Steps.StepsMeet WorkerState.step BlockOk .init es) ∧
      (Steps.StepsMeet WorkerState.step NotifyOk .init es →
        Steps.StatesMeet WorkerState.step (fun s => ¬ Hung s) .init es) := by
  have hiff : Steps.StatesMeet WorkerState.step (fun s => ¬ Hung s) .init es ↔
      Steps.StepsMeet WorkerState.step BlockOk .init es :=
    Steps.statesMeet_iff (fun _ _ _ hs hok hst => hs.step hok hst) (fun _ hs => hs.not_hung)
      (fun _ _ _ hs hbad hst hnot => hnot (.of_block hs hbad hst)) Wakeful.init
  refine ⟨hiff, fun hok => hiff.mpr ?_⟩
  have hagree : ∀ (s : WorkerState ι T) a t, Timely s → s.step a = some t →
      (True ↔ BlockOk s a) := fun s a t hs _ =>
    iff_of_true trivial fun _ hw hstop => absurd hstop (hs.notBehind hw)
  exact (Steps.stepsMeet_congr (fun _ _ _ hs he hst => hs.step he hst) hagree Timely.init hok).mp
    (.of_forall fun _ _ _ => trivial)

/-- The predicate fails, `stop` clears `running_` and notifies, and the worker
blocks. -/
def lostWakeupRun : List (WorkerAction Unit Nat) :=
  [.worker, .worker, .worker, .callStop, .stop, .stop, .worker]

theorem stop_waits_for_blocked_worker :
    ¬ ∀ (es : List (WorkerAction Unit Nat)) (s : WorkerState Unit Nat),
        Steps.exec WorkerState.step .init es = some s → ¬ Hung s := by
  intro h
  exact h lostWakeupRun _ rfl ⟨rfl, rfl, fun _ => rfl, rfl⟩

end PorcelainMonitor.Alerts
