import Mathlib.Logic.Function.Basic
import PorcelainMonitor.Lib.Steps

/-!
# The worker of `AlertManager`

`enqueue_alert` pushes an alert under `queue_mutex_` and notifies the worker.
The worker waits for alerts, takes them one by one and drops the lock while it
runs the callbacks.  `stop` clears `running_`, notifies and joins.

A step is one access to the lock or to `running_`, or one run of the callbacks.
`cv_.wait` tests its predicate under the lock, and if that fails releases the
lock and blocks in one step.  A blocked worker wakes up by a notification or for
no reason.
-/

namespace PorcelainMonitor.Alerts

/-- Where a caller stands in `enqueue_alert`. -/
inductive EnqueuePc (T : Type) where
  | idle
  | lock (alert : T)
  | push (alert : T)
  /-- The alert has been pushed at this position. -/
  | unlock (position : Nat)
  | notify (position : Nat)
  | return (position : Nat)

/-- Where the worker stands in `process_alerts`. -/
inductive WorkerPc (T : Type) where
  /-- `while (running_)` -/
  | test
  | lock
  /-- The predicate of `cv_.wait`. -/
  | waitTest
  /-- The predicate failed. -/
  | waitBlock
  | blocked
  /-- Woken up, and still to get the lock back. -/
  | relock
  /-- `while (!alert_queue_.empty())` -/
  | drain
  | unlock (alert : T)
  | dispatch (alert : T)
  | relockAfter
  /-- The end of the outer loop body, which releases the lock. -/
  | release
  | exited

/-- Where the caller of `stop` stands. -/
inductive StopPc where
  | notCalled
  | store
  | notify
  | join
  | returned
deriving DecidableEq, Repr

/-- A notification wakes a blocked worker. -/
def WorkerPc.woken {T : Type} : WorkerPc T → WorkerPc T
  | .blocked => .relock
  | pc => pc

/-- Who holds `queue_mutex_`. -/
inductive Owner (ι : Type) where
  | worker
  | caller (i : ι)
deriving DecidableEq

structure WorkerState (ι T : Type) where
  running : Bool
  owner : Option (Owner ι)
  alertQueue : List T
  worker : WorkerPc T
  enqueue : ι → EnqueuePc T
  stop : StopPc
  /-- The alerts pushed, in order. -/
  enqueued : List T
  /-- The alerts taken for dispatch, in order. -/
  taken : List T
  /-- The positions of the alerts whose `enqueue_alert` returned before `stop`
  was called. -/
  before : List Nat

inductive WorkerAction (ι T : Type) where
  | callEnqueue (i : ι) (alert : T)
  /-- A caller goes on in `enqueue_alert`. -/
  | enqueue (i : ι)
  /-- The worker goes on. -/
  | worker
  /-- The callbacks return, or throw an exception that is caught. -/
  | dispatched (threw : Bool)
  | spuriousWakeup
  | callStop
  /-- The caller of `stop` goes on. -/
  | stop

namespace WorkerState

variable {ι T : Type}

/-- After `start`. -/
def init : WorkerState ι T where
  running := true
  owner := none
  alertQueue := []
  worker := .test
  enqueue := fun _ => .idle
  stop := .notCalled
  enqueued := []
  taken := []
  before := []

variable [DecidableEq ι]

def setEnqueue (s : WorkerState ι T) (i : ι) (pc : EnqueuePc T) : WorkerState ι T :=
  { s with enqueue := Function.update s.enqueue i pc }

/-- A caller's step through `enqueue_alert`. -/
def enqueueStep (s : WorkerState ι T) (i : ι) : Option (WorkerState ι T) :=
  match s.enqueue i with
  | .idle => none
  | .lock alert =>
      match s.owner with
      | none => some ({ s with owner := some (.caller i) }.setEnqueue i (.push alert))
      | some _ => none
  | .push alert => some ({ s with
      alertQueue := s.alertQueue ++ [alert]
      enqueued := s.enqueued ++ [alert] }.setEnqueue i (.unlock s.enqueued.length))
  | .unlock position => some ({ s with owner := none }.setEnqueue i (.notify position))
  | .notify position => some ({ s with worker := s.worker.woken }.setEnqueue i (.return position))
  | .return position => some ({ s with
      before := if s.stop = StopPc.notCalled then s.before ++ [position] else s.before
    }.setEnqueue i .idle)

/-- The worker's step through `process_alerts`. -/
def workerStep (s : WorkerState ι T) : Option (WorkerState ι T) :=
  match s.worker with
  | .test => some { s with worker := if s.running then .lock else .exited }
  | .lock =>
      match s.owner with
      | none => some { s with owner := some .worker, worker := .waitTest }
      | some _ => none
  | .waitTest => some { s with
      worker := if !s.alertQueue.isEmpty || !s.running then .drain else .waitBlock }
  | .waitBlock => some { s with owner := none, worker := .blocked }
  | .blocked => none
  | .relock =>
      match s.owner with
      | none => some { s with owner := some .worker, worker := .waitTest }
      | some _ => none
  | .drain =>
      match s.alertQueue with
      | [] => some { s with worker := .release }
      | alert :: rest => some { s with
          alertQueue := rest
          taken := s.taken ++ [alert]
          worker := .unlock alert }
  | .unlock alert => some { s with owner := none, worker := .dispatch alert }
  | .dispatch _ => none
  | .relockAfter =>
      match s.owner with
      | none => some { s with owner := some .worker, worker := .drain }
      | some _ => none
  | .release => some { s with owner := none, worker := .test }
  | .exited => none

/-- A step through `stop`. -/
def stopStep (s : WorkerState ι T) : Option (WorkerState ι T) :=
  match s.stop with
  | .notCalled => none
  | .store => some { s with running := false, stop := .notify }
  | .notify => some { s with worker := s.worker.woken, stop := .join }
  | .join =>
      match s.worker with
      | .exited => some { s with stop := .returned }
      | _ => none
  | .returned => none

def step (s : WorkerState ι T) : WorkerAction ι T → Option (WorkerState ι T)
  | .callEnqueue i alert =>
      match s.enqueue i with
      | .idle => some (s.setEnqueue i (.lock alert))
      | _ => none
  | .enqueue i => s.enqueueStep i
  | .worker => s.workerStep
  | .dispatched _ =>
      match s.worker with
      | .dispatch _ => some { s with worker := .relockAfter }
      | _ => none
  | .spuriousWakeup =>
      match s.worker with
      | .blocked => some { s with worker := .relock }
      | _ => none
  | .callStop => if s.stop = .notCalled then some { s with stop := .store } else none
  | .stop => s.stopStep

end WorkerState

end PorcelainMonitor.Alerts
