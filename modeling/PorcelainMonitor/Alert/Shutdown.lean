import PorcelainMonitor.Alert.Worker

/-!
# Alerts at shutdown

At all times the enqueued alerts are the taken ones followed by the queue.  The
worker tests `running_` without the lock, so `stop` may clear it while the worker
is about to test it with alerts in the queue.  These are lost, and this is the
only way to lose an alert whose `enqueue_alert` returned before `stop` was
called.
-/

namespace PorcelainMonitor.Alerts

variable {ι T : Type}

/-! ## Facts about positions in the code -/

namespace EnqueuePc

/-- The caller holds the lock. -/
def holds : EnqueuePc T → Bool
  | .push _ => true
  | .unlock _ => true
  | _ => false

/-- The position the caller's alert got. -/
def position? : EnqueuePc T → Option Nat
  | .unlock position => some position
  | .notify position => some position
  | .return position => some position
  | _ => none

end EnqueuePc

namespace WorkerPc

/-- The worker holds the lock. -/
def holds : WorkerPc T → Bool
  | .waitTest => true
  | .waitBlock => true
  | .drain => true
  | .unlock _ => true
  | .release => true
  | _ => false

@[simp] theorem holds_woken (pc : WorkerPc T) : pc.woken.holds = pc.holds := by
  cases pc <;> rfl

theorem woken_eq_release {pc : WorkerPc T} (h : pc.woken = .release) : pc = .release := by
  cases pc with
  | blocked => cases h
  | _ => exact h

theorem woken_eq_exited {pc : WorkerPc T} (h : pc.woken = .exited) : pc = .exited := by
  cases pc with
  | blocked => cases h
  | _ => exact h

theorem woken_eq_test {pc : WorkerPc T} (h : pc.woken = .test) : pc = .test := by
  cases pc with
  | blocked => cases h
  | _ => exact h

theorem woken_exited {pc : WorkerPc T} (h : pc = .exited) : pc.woken = .exited := by
  rw [h]
  rfl

/-- Whoever holds the lock is inside the loop. -/
theorem inside_of_holds {pc : WorkerPc T} (h : pc.holds = true) : pc ≠ .test ∧ pc ≠ .exited := by
  constructor
  · rintro rfl
    cases h
  · rintro rfl
    cases h

end WorkerPc

/-- What a step of the worker does. -/
inductive WorkerMove (s : WorkerState ι T) : WorkerState ι T → Prop where
  | test : s.worker = .test →
      WorkerMove s { s with worker := if s.running then .lock else .exited }
  | acquire {pc : WorkerPc T} : s.owner = none → s.worker ≠ .test ∧ s.worker ≠ .exited →
      pc.holds = true → pc ≠ .release → WorkerMove s { s with owner := some .worker, worker := pc }
  /-- It goes on with the lock, and leaves the inner loop only if the queue is empty. -/
  | inside {pc : WorkerPc T} : s.worker.holds = true → pc.holds = true →
      (pc = .release → s.alertQueue = []) → WorkerMove s { s with worker := pc }
  | take {alert : T} {rest : List T} : s.worker.holds = true → s.alertQueue = alert :: rest →
      WorkerMove s { s with
        alertQueue := rest
        taken := s.taken ++ [alert]
        worker := .unlock alert }
  /-- It gives the lock back, and only at the end of the outer loop's body gets to the test. -/
  | giveBack {pc : WorkerPc T} : s.worker.holds = true → pc.holds = false → pc ≠ .exited →
      (pc = .test → s.worker = .release) → WorkerMove s { s with owner := none, worker := pc }

theorem WorkerMove.of_step {s t : WorkerState ι T} (hst : s.workerStep = some t) :
    WorkerMove s t := by
  rw [WorkerState.workerStep] at hst
  cases hpc : s.worker with
  | test =>
      simp only [hpc] at hst
      cases hst
      exact .test hpc
  | lock =>
      simp only [hpc] at hst
      split at hst
      · next ho =>
          cases hst
          exact .acquire ho (by simp [hpc]) rfl (by simp)
      · cases hst
  | waitTest =>
      simp only [hpc] at hst
      cases hst
      refine .inside (by rw [hpc]; rfl) ?_ ?_
      · split <;> rfl
      · intro hr
        split at hr <;> cases hr
  | waitBlock =>
      simp only [hpc] at hst
      cases hst
      exact .giveBack (by rw [hpc]; rfl) rfl (by simp) (by simp)
  | blocked => simp [hpc] at hst
  | relock =>
      simp only [hpc] at hst
      split at hst
      · next ho =>
          cases hst
          exact .acquire ho (by simp [hpc]) rfl (by simp)
      · cases hst
  | drain =>
      have hholds : s.worker.holds = true := by rw [hpc]; rfl
      simp only [hpc] at hst
      split at hst
      · next hq =>
          cases hst
          exact .inside hholds rfl fun _ => hq
      · next hq =>
          cases hst
          exact .take hholds hq
  | unlock alert =>
      simp only [hpc] at hst
      cases hst
      exact .giveBack (by rw [hpc]; rfl) rfl (by simp) (by simp)
  | dispatch alert => simp [hpc] at hst
  | relockAfter =>
      simp only [hpc] at hst
      split at hst
      · next ho =>
          cases hst
          exact .acquire ho (by simp [hpc]) rfl (by simp)
      · cases hst
  | release =>
      simp only [hpc] at hst
      cases hst
      exact .giveBack (by rw [hpc]; rfl) rfl (by simp) fun _ => hpc
  | exited => simp [hpc] at hst

/-- `running_` has not been cleared. -/
def StopPc.beforeStore : StopPc → Bool
  | .notCalled => true
  | .store => true
  | _ => false

/-! ## The invariant -/

structure WorkerInv (s : WorkerState ι T) : Prop where
  fifo : s.enqueued = s.taken ++ s.alertQueue
  before : ∀ p ∈ s.before, p < s.enqueued.length
  position : ∀ i p, (s.enqueue i).position? = some p → p < s.enqueued.length
  caller : ∀ i, (s.enqueue i).holds = true → s.owner = some (.caller i)
  worker : s.worker.holds = true → s.owner = some .worker
  /-- The worker leaves the inner loop with an empty queue, and no caller gets
  in until it releases the lock. -/
  released : s.worker = .release → s.alertQueue = []
  running : s.running = s.stop.beforeStore
  exited : s.worker = .exited → s.running = false
  returned : s.stop = .returned → s.worker = .exited

namespace WorkerInv

theorem init : WorkerInv (.init : WorkerState ι T) where
  fifo := rfl
  before := fun _ h => by cases h
  position := fun _ _ h => by cases h
  caller := fun _ h => by cases h
  worker := fun h => by cases h
  released := fun h => by cases h
  running := rfl
  exited := fun h => by cases h
  returned := fun h => by cases h

variable {s t : WorkerState ι T}

/-- The lock has one owner. -/
theorem caller_unique (h : WorkerInv s) {i j : ι} (hi : (s.enqueue i).holds = true)
    (hj : (s.enqueue j).holds = true) : i = j := by
  have he := (h.caller i hi).symm.trans (h.caller j hj)
  cases he
  rfl

theorem worker_not_holding (h : WorkerInv s) {i : ι} (hi : (s.enqueue i).holds = true) :
    s.worker.holds = false := by
  cases hw : s.worker.holds with
  | false => rfl
  | true =>
      have he := (h.caller i hi).symm.trans (h.worker hw)
      cases he

/-- Whoever finds the lock free finds nobody holding it. -/
theorem free (h : WorkerInv s) (ho : s.owner = none) :
    (∀ i, (s.enqueue i).holds = false) ∧ s.worker.holds = false := by
  constructor
  · intro i
    cases hi : (s.enqueue i).holds with
    | false => rfl
    | true =>
        have he := h.caller i hi
        rw [ho] at he
        cases he
  · cases hw : s.worker.holds with
    | false => rfl
    | true =>
        have he := h.worker hw
        rw [ho] at he
        cases he

/-! ## Callers -/

variable [DecidableEq ι]

theorem position_update {f : ι → EnqueuePc T} {n : Nat} {i : ι} {pc : EnqueuePc T}
    (hpc : ∀ p, pc.position? = some p → p < n) (h : ∀ j p, (f j).position? = some p → p < n) :
    ∀ j p, (Function.update f i pc j).position? = some p → p < n := by
  intro j p hp
  by_cases hj : j = i
  · subst hj
    exact hpc p (by simpa using hp)
  · exact h j p (by simpa [hj] using hp)

theorem caller_update {f : ι → EnqueuePc T} {owner : Option (Owner ι)} {i : ι} {pc : EnqueuePc T}
    (hpc : pc.holds = true → owner = some (.caller i))
    (h : ∀ j, j ≠ i → (f j).holds = true → owner = some (.caller j)) :
    ∀ j, (Function.update f i pc j).holds = true → owner = some (.caller j) := by
  intro j hp
  by_cases hj : j = i
  · subst hj
    exact hpc (by simpa using hp)
  · exact h j hj (by simpa [hj] using hp)

/-- A caller who does not touch the lock keeps the invariant. -/
theorem setEnqueue (h : WorkerInv s) {i : ι} {pc : EnqueuePc T}
    (hpos : ∀ p, pc.position? = some p → p < s.enqueued.length) (hpc : pc.holds = false) :
    WorkerInv (s.setEnqueue i pc) := by
  refine { h with position := position_update hpos h.position, caller := caller_update ?_ ?_ }
  · intro hp
    rw [hpc] at hp
    cases hp
  · exact fun j _ => h.caller j

omit [DecidableEq ι] in
/-- A notification keeps the invariant. -/
theorem woken (h : WorkerInv s) : WorkerInv { s with worker := s.worker.woken } where
  fifo := h.fifo
  before := h.before
  position := h.position
  caller := h.caller
  worker := fun hw => h.worker (WorkerPc.holds_woken s.worker ▸ hw)
  released := fun hr => h.released (WorkerPc.woken_eq_release hr)
  running := h.running
  exited := fun he => h.exited (WorkerPc.woken_eq_exited he)
  returned := fun hr => WorkerPc.woken_exited (h.returned hr)

theorem enqueueStep (h : WorkerInv s) {i : ι} (hst : s.enqueueStep i = some t) : WorkerInv t := by
  rw [WorkerState.enqueueStep] at hst
  cases hpc : s.enqueue i with
  | idle =>
      rw [hpc] at hst
      cases hst
  | lock alert =>
      rw [hpc] at hst
      cases ho : s.owner with
      | some o => simp [ho] at hst
      | none =>
          simp only [ho, Option.some.injEq] at hst
          subst hst
          obtain ⟨hcallers, hworker⟩ := h.free ho
          refine ⟨h.fifo, h.before, position_update (fun _ hp => by cases hp) h.position,
            caller_update (fun _ => rfl) ?_, ?_, h.released, h.running, h.exited, h.returned⟩
          · intro j _ hj
            rw [hcallers j] at hj
            cases hj
          · intro hw
            exact absurd (hworker ▸ hw) Bool.false_ne_true
  | push alert =>
      rw [hpc] at hst
      cases hst
      have hi : (s.enqueue i).holds = true := by rw [hpc]; rfl
      have hw := h.worker_not_holding hi
      have hlen : s.enqueued.length < (s.enqueued ++ [alert]).length := by simp
      refine ⟨?_, ?_, position_update ?_ ?_, caller_update (fun _ => h.caller i hi)
        (fun j _ => h.caller j), h.worker, ?_, h.running, h.exited, h.returned⟩
      · show s.enqueued ++ [alert] = s.taken ++ (s.alertQueue ++ [alert])
        rw [h.fifo, List.append_assoc]
      · exact fun p hp => Nat.lt_trans (h.before p hp) hlen
      · intro p hp
        cases hp
        exact hlen
      · exact fun j p hp => Nat.lt_trans (h.position j p hp) hlen
      · intro hr
        change s.worker = .release at hr
        rw [hr] at hw
        cases hw
  | unlock position =>
      rw [hpc] at hst
      cases hst
      have hi : (s.enqueue i).holds = true := by rw [hpc]; rfl
      have hw := h.worker_not_holding hi
      refine ⟨h.fifo, h.before, position_update ?_ h.position, caller_update (fun hp => by cases hp)
        ?_, ?_, h.released, h.running, h.exited, h.returned⟩
      · intro p hp
        cases hp
        exact h.position i position (by rw [hpc]; rfl)
      · exact fun j hj hp => absurd (h.caller_unique hp hi) hj
      · intro hp
        exact absurd (hw ▸ hp) Bool.false_ne_true
  | notify position =>
      rw [hpc] at hst
      cases hst
      refine h.woken.setEnqueue ?_ rfl
      intro p hp
      cases hp
      exact h.position i position (by rw [hpc]; rfl)
  | «return» position =>
      rw [hpc] at hst
      cases hst
      have hreturned : WorkerInv { s with
          before := if s.stop = StopPc.notCalled then s.before ++ [position] else s.before } := by
        refine { h with before := ?_ }
        intro p hp
        simp only at hp
        split at hp
        · rcases List.mem_append.mp hp with hp | hp
          · exact h.before p hp
          · rw [List.mem_singleton.mp hp]
            exact h.position i position (by rw [hpc]; rfl)
        · exact h.before p hp
      exact hreturned.setEnqueue (fun p hp => by cases hp) rfl

/-! ## The worker -/

omit [DecidableEq ι] in
/-- A step of the worker that neither touches the lock nor takes an alert. -/
theorem setWorker (h : WorkerInv s) {pc : WorkerPc T} (hholds : pc.holds = s.worker.holds)
    (hreleased : pc = .release → s.alertQueue = []) (hexited : pc = .exited → s.running = false)
    (hlive : s.worker ≠ .exited) : WorkerInv { s with worker := pc } where
  fifo := h.fifo
  before := h.before
  position := h.position
  caller := h.caller
  worker := fun hw => h.worker (hholds ▸ hw)
  released := hreleased
  running := h.running
  exited := hexited
  returned := fun hr => absurd (h.returned hr) hlive

omit [DecidableEq ι] in
/-- The worker takes the free lock. -/
theorem acquire (h : WorkerInv s) (ho : s.owner = none) {pc : WorkerPc T}
    (hreleased : pc ≠ .release) (hexited : pc ≠ .exited) (hlive : s.worker ≠ .exited) :
    WorkerInv { s with owner := some .worker, worker := pc } where
  fifo := h.fifo
  before := h.before
  position := h.position
  caller := fun i hi => by
    rw [(h.free ho).1 i] at hi
    cases hi
  worker := fun _ => rfl
  released := fun hr => absurd hr hreleased
  running := h.running
  exited := fun he => absurd he hexited
  returned := fun hr => absurd (h.returned hr) hlive

omit [DecidableEq ι] in
/-- The worker gives the lock back. -/
theorem unlock (h : WorkerInv s) (hw : s.worker.holds = true) {pc : WorkerPc T}
    (hpc : pc.holds = false) (hexited : pc ≠ .exited) (hlive : s.worker ≠ .exited) :
    WorkerInv { s with owner := none, worker := pc } where
  fifo := h.fifo
  before := h.before
  position := h.position
  caller := fun i hi => by
    rw [h.worker_not_holding hi] at hw
    cases hw
  worker := fun hp => absurd (hpc ▸ hp) Bool.false_ne_true
  released := fun hr => by
    change pc = .release at hr
    rw [hr] at hpc
    cases hpc
  running := h.running
  exited := fun he => absurd he hexited
  returned := fun hr => absurd (h.returned hr) hlive

omit [DecidableEq ι] in
theorem workerStep (h : WorkerInv s) (hst : s.workerStep = some t) : WorkerInv t := by
  cases WorkerMove.of_step hst with
  | test hw =>
      refine h.setWorker ?_ ?_ ?_ (by simp [hw])
      · rw [hw]
        split <;> rfl
      · intro he
        split at he <;> cases he
      · intro he
        split at he
        · cases he
        · next hr => simpa using hr
  | acquire ho hw hpc hrelease =>
      exact h.acquire ho hrelease (WorkerPc.inside_of_holds hpc).2 hw.2
  | inside hw hpc hrelease =>
      refine h.setWorker (hpc.trans hw.symm) hrelease ?_ (WorkerPc.inside_of_holds hw).2
      exact fun he => absurd he (WorkerPc.inside_of_holds hpc).2
  | take hw hq =>
      refine ⟨by simp [h.fifo, hq], h.before, h.position, h.caller, fun _ => h.worker hw,
        fun hr => ?_, h.running, fun he => ?_, fun hr => ?_⟩
      · cases hr
      · cases he
      · exact absurd (h.returned hr) (WorkerPc.inside_of_holds hw).2
  | giveBack hw hpc hexited _ => exact h.unlock hw hpc hexited (WorkerPc.inside_of_holds hw).2

/-! ## Any step -/

omit [DecidableEq ι] in
theorem stopStep (h : WorkerInv s) (hst : s.stopStep = some t) : WorkerInv t := by
  rw [WorkerState.stopStep] at hst
  cases hpc : s.stop with
  | notCalled =>
      rw [hpc] at hst
      cases hst
  | store =>
      rw [hpc] at hst
      cases hst
      exact ⟨h.fifo, h.before, h.position, h.caller, h.worker, h.released, rfl, fun _ => rfl,
        fun hr => by cases hr⟩
  | notify =>
      rw [hpc] at hst
      cases hst
      have hrun := h.running
      rw [hpc] at hrun
      exact { h.woken with running := hrun, returned := fun hr => by cases hr }
  | join =>
      simp only [hpc] at hst
      have hrun := h.running
      rw [hpc] at hrun
      split at hst
      · next hw =>
          cases hst
          exact { h with running := hrun, returned := fun _ => hw }
      · cases hst
  | returned =>
      rw [hpc] at hst
      cases hst

theorem step (h : WorkerInv s) {a : WorkerAction ι T} (hst : s.step a = some t) : WorkerInv t := by
  cases a with
  | callEnqueue i alert =>
      cases hpc : s.enqueue i with
      | idle =>
          simp only [WorkerState.step, hpc, Option.some.injEq] at hst
          subst hst
          exact h.setEnqueue (fun p hp => by cases hp) rfl
      | _ => simp [WorkerState.step, hpc] at hst
  | enqueue i => exact h.enqueueStep hst
  | worker => exact h.workerStep hst
  | dispatched threw =>
      cases hpc : s.worker with
      | dispatch alert =>
          simp only [WorkerState.step, hpc, Option.some.injEq] at hst
          subst hst
          exact h.setWorker (by rw [hpc]; rfl) (fun he => by cases he) (fun he => by cases he)
            (by simp [hpc])
      | _ => simp [WorkerState.step, hpc] at hst
  | spuriousWakeup =>
      cases hpc : s.worker with
      | blocked =>
          simp only [WorkerState.step, hpc, Option.some.injEq] at hst
          subst hst
          exact h.setWorker (by rw [hpc]; rfl) (fun he => by cases he) (fun he => by cases he)
            (by simp [hpc])
      | _ => simp [WorkerState.step, hpc] at hst
  | callStop =>
      simp only [WorkerState.step] at hst
      split at hst
      · next hstop =>
          cases hst
          have hrun := h.running
          rw [hstop] at hrun
          exact { h with running := hrun, returned := fun hr => by cases hr }
      · cases hst
  | stop => exact h.stopStep hst

end WorkerInv

/-! ## Alerts that are lost -/

/-- Every alert whose `enqueue_alert` returned before `stop` was called has been
taken for dispatch. -/
def Lossless (s : WorkerState ι T) : Prop := ∀ p ∈ s.before, p < s.taken.length

/-- The worker is about to leave its loop if `running_` is clear, or has left. -/
def Leaving (s : WorkerState ι T) : Prop := s.worker = .test ∨ s.worker = .exited

/-- The alert enqueued at this position is in the queue. -/
def Waiting (s : WorkerState ι T) (position : Nat) : Prop :=
  s.enqueued.length ≤ position + s.alertQueue.length

/-- When `stop` clears `running_` and the worker is about to test it, no alert
enqueued before is in the queue. -/
def StoreOk (s : WorkerState ι T) (a : WorkerAction ι T) : Prop :=
  a = .stop → s.stop = .store → s.worker = .test → ∀ p ∈ s.before, ¬ Waiting s p

theorem WorkerInv.waiting_iff {s : WorkerState ι T} (h : WorkerInv s) (p : Nat) :
    Waiting s p ↔ s.taken.length ≤ p := by
  rw [Waiting, h.fifo, List.length_append, Nat.add_le_add_iff_right]

theorem WorkerInv.lossless_iff {s : WorkerState ι T} (h : WorkerInv s) :
    Lossless s ↔ ∀ p ∈ s.before, ¬ Waiting s p :=
  forall₂_congr fun p _ => by rw [h.waiting_iff, Nat.not_le]

/-- What a step that leaves `running_` alone does to what matters here. -/
structure Progress (s t : WorkerState ι T) : Prop where
  running : t.running = s.running
  before : s.stop ≠ .notCalled → t.before = s.before
  taken : s.taken.length ≤ t.taken.length
  /-- The test is reached by releasing the lock, and the exit from the test. -/
  reached : Leaving t → Leaving s ∨ s.worker = .release
  /-- A worker that finds `running_` clear takes nothing more. -/
  stuck : s.running = false → Leaving s → Leaving t ∧ t.taken = s.taken

namespace Progress

/-- The same worker, or one just woken up, with nothing taken. -/
theorem of_others {s t : WorkerState ι T} (hrunning : t.running = s.running)
    (hbefore : s.stop ≠ .notCalled → t.before = s.before) (htaken : t.taken = s.taken)
    (hworker : t.worker = s.worker ∨ t.worker = s.worker.woken) : Progress s t := by
  refine ⟨hrunning, hbefore, Nat.le_of_eq (by rw [htaken]), ?_, ?_⟩
  · intro h
    left
    rcases hworker with hw | hw
    · rwa [Leaving, hw] at h
    · rw [Leaving, hw] at h
      exact h.imp WorkerPc.woken_eq_test WorkerPc.woken_eq_exited
  · intro _ h
    refine ⟨?_, htaken⟩
    rcases hworker with hw | hw
    · rw [Leaving, hw]
      exact h
    · rw [Leaving, hw]
      rcases h with h | h
      · rw [h]
        exact .inl rfl
      · rw [h]
        exact .inr rfl

/-- A worker that was not leaving and is not leaving, with something taken or not. -/
theorem of_worker {s t : WorkerState ι T} (hrunning : t.running = s.running)
    (hbefore : t.before = s.before) (htaken : s.taken.length ≤ t.taken.length)
    (hs : ¬ Leaving s) (ht : ¬ Leaving t ∨ s.worker = .release) : Progress s t where
  running := hrunning
  before := fun _ => hbefore
  taken := htaken
  reached := fun h => .inr (ht.resolve_left fun hn => hn h)
  stuck := fun _ h => absurd h hs

end Progress

namespace WorkerState

theorem workerStep_progress {s t : WorkerState ι T} (hst : s.workerStep = some t) :
    Progress s t := by
  have hnot : ∀ {u : WorkerState ι T}, u.worker.holds = true → ¬ Leaving u := fun hw hl =>
    hl.elim (WorkerPc.inside_of_holds hw).1 (WorkerPc.inside_of_holds hw).2
  cases WorkerMove.of_step hst with
  | test hw =>
      refine ⟨rfl, fun _ => rfl, Nat.le_refl _, fun _ => .inl (.inl hw), fun hr _ => ⟨?_, rfl⟩⟩
      exact .inr (by simp [hr])
  | acquire _ hw hpc _ =>
      exact .of_worker rfl rfl (Nat.le_refl _) (fun hl => hl.elim hw.1 hw.2) (.inl (hnot hpc))
  | inside hw hpc _ => exact .of_worker rfl rfl (Nat.le_refl _) (hnot hw) (.inl (hnot hpc))
  | take hw _ => exact .of_worker rfl rfl (by simp) (hnot hw) (.inl (hnot rfl))
  | giveBack hw _ hexited htest =>
      refine .of_worker rfl rfl (Nat.le_refl _) (hnot hw) ?_
      by_cases hpc : s.worker = .release
      · exact .inr hpc
      · exact .inl fun hl => hl.elim (fun ht => hpc (htest ht)) hexited

variable [DecidableEq ι]

theorem enqueueStep_progress {s t : WorkerState ι T} {i : ι} (hst : s.enqueueStep i = some t) :
    Progress s t := by
  rw [enqueueStep] at hst
  cases hpc : s.enqueue i with
  | idle => simp [hpc] at hst
  | lock alert =>
      simp only [hpc] at hst
      split at hst
      · cases hst
        exact .of_others rfl (fun _ => rfl) rfl (.inl rfl)
      · cases hst
  | push alert =>
      simp only [hpc] at hst
      cases hst
      exact .of_others rfl (fun _ => rfl) rfl (.inl rfl)
  | unlock position =>
      simp only [hpc] at hst
      cases hst
      exact .of_others rfl (fun _ => rfl) rfl (.inl rfl)
  | notify position =>
      simp only [hpc] at hst
      cases hst
      exact .of_others rfl (fun _ => rfl) rfl (.inr rfl)
  | «return» position =>
      simp only [hpc] at hst
      cases hst
      exact .of_others rfl (fun h => if_neg h) rfl (.inl rfl)

/-- Every step makes progress, or is the store of `stop`. -/
theorem step_progress {s t : WorkerState ι T} {a : WorkerAction ι T} (hst : s.step a = some t) :
    Progress s t ∨
      a = .stop ∧ s.stop = .store ∧ t = { s with running := false, stop := .notify } := by
  cases a with
  | callEnqueue i alert =>
      left
      simp only [step] at hst
      split at hst
      · cases hst
        exact .of_others rfl (fun _ => rfl) rfl (.inl rfl)
      · cases hst
  | enqueue i => exact .inl (enqueueStep_progress hst)
  | worker => exact .inl (workerStep_progress hst)
  | dispatched threw =>
      left
      simp only [step] at hst
      split at hst
      · next hpc =>
          cases hst
          exact .of_worker rfl rfl (Nat.le_refl _) (by simp [Leaving, hpc])
            (.inl (by simp [Leaving]))
      · cases hst
  | spuriousWakeup =>
      left
      simp only [step] at hst
      split at hst
      · next hpc =>
          cases hst
          exact .of_worker rfl rfl (Nat.le_refl _) (by simp [Leaving, hpc])
            (.inl (by simp [Leaving]))
      · cases hst
  | callStop =>
      left
      simp only [step] at hst
      split at hst
      · cases hst
        exact .of_others rfl (fun _ => rfl) rfl (.inl rfl)
      · cases hst
  | stop =>
      simp only [step, stopStep] at hst
      cases hpc : s.stop with
      | notCalled => simp [hpc] at hst
      | store =>
          simp only [hpc] at hst
          cases hst
          exact .inr ⟨rfl, rfl, rfl⟩
      | notify =>
          simp only [hpc] at hst
          cases hst
          exact .inl (.of_others rfl (fun _ => rfl) rfl (.inr rfl))
      | join =>
          simp only [hpc] at hst
          split at hst
          · cases hst
            exact .inl (.of_others rfl (fun _ => rfl) rfl (.inl rfl))
          · cases hst
      | returned => simp [hpc] at hst

end WorkerState

/-! ## Runs -/

variable [DecidableEq ι] {s t : WorkerState ι T} {a : WorkerAction ι T}

/-- Once `running_` is clear, a leaving worker has left nothing behind. -/
structure Settled (s : WorkerState ι T) : Prop where
  inv : WorkerInv s
  lossless : s.running = false → Leaving s → Lossless s

/-- A worker leaves an alert behind. -/
structure Lost (s : WorkerState ι T) : Prop where
  inv : WorkerInv s
  running : s.running = false
  leaving : Leaving s
  lossy : ¬ Lossless s

omit [DecidableEq ι] in
theorem WorkerInv.lossless_of_release (h : WorkerInv s) (hw : s.worker = .release) :
    Lossless s := by
  have hfifo := h.fifo
  rw [h.released hw, List.append_nil] at hfifo
  intro p hp
  rw [← hfifo]
  exact h.before p hp

omit [DecidableEq ι] in
/-- `running_` is clear only after `stop` was called. -/
theorem WorkerInv.stop_called (h : WorkerInv s) (hr : s.running = false) :
    s.stop ≠ .notCalled := by
  intro hs
  rw [h.running, hs] at hr
  cases hr

theorem Settled.step (h : Settled s) (hok : StoreOk s a) (hst : s.step a = some t) :
    Settled t := by
  refine ⟨h.inv.step hst, fun hr hleaving => ?_⟩
  rcases WorkerState.step_progress hst with hp | ⟨ha, hstore, rfl⟩
  · rw [hp.running] at hr
    have hlossless : Lossless s := by
      rcases hp.reached hleaving with hl | hrel
      · exact h.lossless hr hl
      · exact h.inv.lossless_of_release hrel
    intro p hmem
    rw [hp.before (h.inv.stop_called hr)] at hmem
    exact Nat.lt_of_lt_of_le (hlossless p hmem) hp.taken
  · rcases hleaving with hw | hw
    · exact h.inv.lossless_iff.mpr (hok ha hstore hw)
    · have hexit := h.inv.exited hw
      rw [h.inv.running, hstore] at hexit
      cases hexit

/-- The store with an alert in the queue of a worker about to test loses it. -/
theorem Lost.of_store (h : Settled s) (hbad : ¬ StoreOk s a) (hst : s.step a = some t) :
    Lost t := by
  have hinv := h.inv.step hst
  have hn : a = .stop ∧ s.stop = .store ∧ s.worker = .test ∧ ¬ Lossless s := by
    rw [h.inv.lossless_iff]
    simpa only [StoreOk, Classical.not_imp] using hbad
  obtain ⟨rfl, hstore, hw, hlossy⟩ := hn
  simp only [WorkerState.step, WorkerState.stopStep, hstore] at hst
  cases hst
  exact ⟨hinv, rfl, .inl hw, hlossy⟩

theorem Lost.step (h : Lost s) (hst : s.step a = some t) : Lost t := by
  have hinv := h.inv.step hst
  rcases WorkerState.step_progress hst with hp | ⟨_, _, rfl⟩
  · obtain ⟨hleaving, htaken⟩ := hp.stuck h.running h.leaving
    refine ⟨hinv, hp.running.trans h.running, hleaving, fun hlossless => h.lossy ?_⟩
    rwa [Lossless, hp.before (h.inv.stop_called h.running), htaken] at hlossless
  · exact ⟨hinv, rfl, h.leaving, h.lossy⟩

omit [DecidableEq ι] in
theorem Settled.init : Settled (.init : WorkerState ι T) where
  inv := .init
  lossless := fun _ _ p hp => by cases hp

omit [DecidableEq ι] in
/-- When `stop` has returned the worker has left its loop. -/
theorem Settled.lossless_of_returned (h : Settled s) (hr : s.stop = .returned) : Lossless s :=
  have hw := h.inv.returned hr
  h.lossless (h.inv.exited hw) (.inr hw)

/-- The alerts are taken in the order of their enqueueing, each once.  Once
`stop` has returned, the run has taken every alert whose `enqueue_alert`
returned before `stop` was called exactly if `stop` did not clear `running_`
while the worker stood before its test with such an alert in the queue. -/
theorem shutdown_lossless_iff {es : List (WorkerAction ι T)}
    (h : Steps.exec WorkerState.step .init es = some s) :
    s.taken <+: s.enqueued ∧
      (s.stop = .returned → (Lossless s ↔ Steps.StepsMeet WorkerState.step StoreOk .init es)) := by
  have hinv : WorkerInv s := Steps.exec_invariant (fun _ _ _ hs hst => hs.step hst) .init h
  refine ⟨⟨s.alertQueue, hinv.fifo.symm⟩, fun hreturned => ⟨fun hlossless => ?_, fun hok => ?_⟩⟩
  · by_contra hbad
    have hlost : Lost s := Steps.exec_bad_of (fun _ _ _ hs hok hst => hs.step hok hst)
      (fun _ _ _ hs hn hst => .of_store hs hn hst) (fun _ _ _ hs hst => hs.step hst)
      .init h hbad
    exact hlost.lossy hlossless
  · have hsettled : Settled s :=
      Steps.exec_invariant_of (fun _ _ _ hs hok hst => hs.step hok hst) .init hok h
    exact hsettled.lossless_of_returned hreturned

/-- One alert is enqueued and taken before `stop` is called. -/
def orderlyRun : List (WorkerAction Unit Nat) :=
  [.callEnqueue () 7, .enqueue (), .enqueue (), .enqueue (), .enqueue (), .enqueue (),
    .worker, .worker, .worker, .worker, .worker, .dispatched true, .worker, .worker, .worker,
    .callStop, .stop, .stop, .worker, .stop]

theorem shutdown_lossless_iff_orderly :
    ∃ s, Steps.exec WorkerState.step .init orderlyRun = some s ∧ s.taken <+: s.enqueued ∧
      (s.stop = .returned →
        (Lossless s ↔ Steps.StepsMeet WorkerState.step StoreOk .init orderlyRun)) := by
  obtain ⟨s, hs⟩ : ∃ s, Steps.exec WorkerState.step .init orderlyRun = some s := ⟨_, rfl⟩
  exact ⟨s, hs, shutdown_lossless_iff hs⟩

/-- The worker tests `running_` only after `stop` has cleared it, with the alert
of a finished `enqueue_alert` in the queue. -/
def hastyRun : List (WorkerAction Unit Nat) :=
  [.callEnqueue () 7, .enqueue (), .enqueue (), .enqueue (), .enqueue (), .enqueue (),
    .callStop, .stop, .stop, .worker, .stop]

theorem stop_loses_enqueued_alert :
    ¬ ∀ (es : List (WorkerAction Unit Nat)) (s : WorkerState Unit Nat),
        Steps.exec WorkerState.step .init es = some s → s.stop = .returned → Lossless s := by
  intro h
  have hlossless := h hastyRun _ rfl rfl
  exact Nat.lt_irrefl 0 (hlossless 0 (List.mem_singleton.mpr rfl))

end PorcelainMonitor.Alerts
