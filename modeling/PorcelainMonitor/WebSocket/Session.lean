import PorcelainMonitor.Lib.Steps

/-!
# The outgoing queue of a `WebSocketSession`

Two handlers share `send_queue_` and `mutex_`.  `do_send` pushes a message, and
starts a write if the queue was empty.  `on_write` runs when the write is
complete, pops the written message and calls `do_send` for the next one.

`mutex_` is not recursive, and both handlers hold it for their whole body, so one
handler runs at a time and the steps of the model are whole handlers.  A handler
that locks `mutex_` while it holds it never returns.  The session then makes no
further step (`Run.selfLocked`).
-/

namespace PorcelainMonitor.WebSocket

/-! ## The handlers -/

structure WebSocketSession where
  sendQueue : List String
  /-- The running handler holds `mutex_`. -/
  locked : Bool
  /-- The messages given to `async_write`, in order. -/
  handed : List String
  /-- The writes started and not yet completed. -/
  outstanding : Nat
deriving DecidableEq, Repr

namespace WebSocketSession

/-- `lock_guard lock(mutex_)`.  The error is the state a handler hangs in. -/
def lock (s : WebSocketSession) : Except WebSocketSession WebSocketSession :=
  if s.locked then .error s else .ok { s with locked := true }

def unlock (s : WebSocketSession) : WebSocketSession := { s with locked := false }

/-- `ws_.async_write` of the front of the queue. -/
def asyncWrite (s : WebSocketSession) : WebSocketSession :=
  { s with
    handed := s.handed ++ s.sendQueue.head?.toList
    outstanding := s.outstanding + 1 }

def doSend (message : String) (s : WebSocketSession) :
    Except WebSocketSession WebSocketSession := do
  let s ← s.lock
  let wasEmpty := s.sendQueue.isEmpty
  let s := { s with sendQueue := s.sendQueue ++ [message] }
  let s := if wasEmpty then s.asyncWrite else s
  return s.unlock

def onWrite (ec : Bool) (s : WebSocketSession) : Except WebSocketSession WebSocketSession :=
  if ec then
    return s
  else do
    let s ← s.lock
    let s := { s with sendQueue := s.sendQueue.tail }
    let s ← match s.sendQueue with
      | [] => pure s
      | front :: _ => s.doSend front
    return s.unlock

/-- A session whose handshake is done. -/
def init : WebSocketSession := ⟨[], false, [], 0⟩

end WebSocketSession

/-! ## Runs -/

inductive Event where
  /-- The executor runs a posted `do_send`. -/
  | doSend (message : String)
  /-- The outstanding write completes, with an error or without. -/
  | onWrite (ec : Bool)
deriving DecidableEq, Repr

/-- A session and what has happened to it. -/
structure Run where
  session : WebSocketSession
  /-- The messages sent, in order. -/
  sent : List String
  writeError : Bool
  /-- A handler has locked `mutex_` while holding it. -/
  selfLocked : Bool
deriving DecidableEq, Repr

namespace Run

def init : Run := ⟨.init, [], false, false⟩

/-- The handler returns, or hangs. -/
def finish (r : Run) : Except WebSocketSession WebSocketSession → Run
  | .ok s => { r with session := s }
  | .error s => { r with session := s, selfLocked := true }

end Run

def step (r : Run) (e : Event) : Option Run :=
  if r.selfLocked then none
  else match e with
    | .doSend message =>
        some (Run.finish { r with sent := r.sent ++ [message] } (r.session.doSend message))
    | .onWrite ec =>
        if r.session.outstanding = 0 then none
        else
          let s := { r.session with outstanding := r.session.outstanding - 1 }
          some (Run.finish { r with writeError := r.writeError || ec } (s.onWrite ec))

/-! ## What a handler does -/

namespace WebSocketSession

/-- A message sent into an empty queue is handed over at once. -/
theorem doSend_empty {s : WebSocketSession} (hl : s.locked = false) (hq : s.sendQueue = [])
    (message : String) :
    s.doSend message = .ok { s with
      sendQueue := [message]
      handed := s.handed ++ [message]
      outstanding := s.outstanding + 1 } := by
  obtain ⟨queue, locked, handed, outstanding⟩ := s
  cases hl
  cases hq
  rfl

/-- A message sent into a queue that is not empty waits. -/
theorem doSend_waiting {s : WebSocketSession} (hl : s.locked = false) (hq : s.sendQueue ≠ [])
    (message : String) :
    s.doSend message = .ok { s with sendQueue := s.sendQueue ++ [message] } := by
  obtain ⟨queue, locked, handed, outstanding⟩ := s
  cases hl
  cases queue with
  | nil => exact absurd rfl hq
  | cons m q => rfl

/-- The completion of the only write leaves the queue empty. -/
theorem onWrite_last {s : WebSocketSession} (hl : s.locked = false) {m : String}
    (hq : s.sendQueue = [m]) : s.onWrite false = .ok { s with sendQueue := [] } := by
  obtain ⟨queue, locked, handed, outstanding⟩ := s
  cases hl
  cases hq
  rfl

/-- With a second message in the queue, `on_write` hangs in the lock of the
`do_send` it calls. -/
theorem onWrite_waiting {s : WebSocketSession} (hl : s.locked = false) {m n : String}
    {q : List String} (hq : s.sendQueue = m :: n :: q) :
    s.onWrite false = .error { s with sendQueue := n :: q, locked := true } := by
  obtain ⟨queue, locked, handed, outstanding⟩ := s
  cases hl
  cases hq
  rfl

end WebSocketSession

/-! ## The invariant -/

/-- No handler has locked `mutex_` twice, at most one write is outstanding, the
messages handed over are the first of those sent, and unless a write has failed
the queue is empty or being written. -/
structure Good (r : Run) : Prop where
  noSelfLock : r.selfLocked = false
  outstanding : r.session.outstanding ≤ 1
  handed : r.session.handed <+: r.sent
  writing : r.writeError = false → r.session.sendQueue ≠ [] → r.session.outstanding = 1

/-- Between two handlers the session is in one of three phases. -/
inductive Phase (r : Run) : Prop where
  | idle (queue : r.session.sendQueue = []) (outstanding : r.session.outstanding = 0)
      (handed : r.session.handed = r.sent)
  | writing (m : String) (q : List String) (queue : r.session.sendQueue = m :: q)
      (outstanding : r.session.outstanding = 1) (handed : r.session.handed ++ q = r.sent)
  /-- After a failed write the queue is never empty again. -/
  | failed (error : r.writeError = true) (queue : r.session.sendQueue ≠ [])
      (outstanding : r.session.outstanding = 0) (handed : r.session.handed <+: r.sent)

structure Inv (r : Run) : Prop where
  noSelfLock : r.selfLocked = false
  unlocked : r.session.locked = false
  phase : Phase r

/-- When a write completes without error, no second message waits behind it. -/
def LastWrite (r : Run) (e : Event) : Prop :=
  e = .onWrite false → r.session.sendQueue.length ≤ 1

theorem Inv.init : Inv .init := ⟨rfl, rfl, .idle rfl rfl rfl⟩

theorem Inv.good {r : Run} (h : Inv r) : Good r := by
  cases h.phase with
  | idle queue outstanding handed =>
      exact ⟨h.noSelfLock, by omega, handed ▸ List.prefix_rfl, fun _ hq => absurd queue hq⟩
  | writing m q queue outstanding handed =>
      exact ⟨h.noSelfLock, by omega, handed ▸ List.prefix_append _ _, fun _ _ => outstanding⟩
  | failed error queue outstanding handed =>
      refine ⟨h.noSelfLock, by omega, handed, fun hno => ?_⟩
      rw [error] at hno
      cases hno

/-- `do_send` starts a write in the idle phase and queues the message in the
others. -/
theorem Inv.doSend {r t : Run} (h : Inv r) {message : String}
    (hst : step r (.doSend message) = some t) : Inv t := by
  rw [step, if_neg (by simp [h.noSelfLock])] at hst
  cases hst
  cases h.phase with
  | idle queue outstanding handed =>
      rw [WebSocketSession.doSend_empty h.unlocked queue]
      exact ⟨h.noSelfLock, h.unlocked, .writing message [] rfl (by simp [Run.finish, outstanding])
        (by simp [Run.finish, handed])⟩
  | writing m q queue outstanding handed =>
      rw [WebSocketSession.doSend_waiting h.unlocked (by simp [queue])]
      exact ⟨h.noSelfLock, h.unlocked, .writing m (q ++ [message]) (by simp [Run.finish, queue])
        outstanding (by simp [Run.finish, ← handed])⟩
  | failed error queue outstanding handed =>
      rw [WebSocketSession.doSend_waiting h.unlocked queue]
      exact ⟨h.noSelfLock, h.unlocked, .failed error (by simp [Run.finish]) outstanding
        (handed.trans (List.prefix_append _ _))⟩

/-- A completion finds the session writing. -/
theorem Inv.onWrite_cases {r t : Run} (h : Inv r) {ec : Bool}
    (hst : step r (.onWrite ec) = some t) :
    ∃ m q, r.session.sendQueue = m :: q ∧ r.session.handed ++ q = r.sent ∧
      t = Run.finish { r with writeError := r.writeError || ec }
        (WebSocketSession.onWrite ec { r.session with outstanding := 0 }) := by
  rw [step, if_neg (by simp [h.noSelfLock])] at hst
  cases h.phase with
  | idle queue outstanding handed => simp [outstanding] at hst
  | writing m q queue outstanding handed =>
      rw [outstanding] at hst
      cases hst
      exact ⟨m, q, queue, handed, rfl⟩
  | failed error queue outstanding handed => simp [outstanding] at hst

/-- A completion that leaves no message behind keeps the invariant. -/
theorem Inv.keep {r t : Run} {e : Event} (h : Inv r) (hok : LastWrite r e)
    (hst : step r e = some t) : Inv t := by
  cases e with
  | doSend message => exact h.doSend hst
  | onWrite ec =>
      obtain ⟨m, q, queue, handed, rfl⟩ := h.onWrite_cases hst
      cases ec with
      | true =>
          refine ⟨h.noSelfLock, h.unlocked, .failed (Bool.or_true _) ?_ rfl ?_⟩
          · exact queue ▸ List.cons_ne_nil m q
          · exact handed ▸ List.prefix_append _ _
      | false =>
          have hq : q = [] := by
            have hlen := hok rfl
            rw [queue] at hlen
            exact List.length_eq_zero_iff.mp (by simpa using hlen)
          subst hq
          rw [List.append_nil] at handed
          have hw := WebSocketSession.onWrite_last (s := { r.session with outstanding := 0 })
            h.unlocked queue
          rw [hw]
          exact ⟨h.noSelfLock, h.unlocked, .idle rfl rfl handed⟩

/-- A completion with a second message in the queue hangs. -/
theorem Inv.breaks {r t : Run} {e : Event} (h : Inv r) (hok : ¬ LastWrite r e)
    (hst : step r e = some t) : ¬ Good t := by
  obtain ⟨rfl, hlen⟩ := Classical.not_imp.mp hok
  obtain ⟨m, q, queue, -, rfl⟩ := h.onWrite_cases hst
  cases q with
  | nil => exact absurd (by simp [queue]) hlen
  | cons n q =>
      have hw := WebSocketSession.onWrite_waiting (s := { r.session with outstanding := 0 })
        h.unlocked queue
      rw [hw]
      intro hgood
      cases hgood.noSelfLock

/-- A run of sends and completions is good in every state it reaches exactly when
every write that completes without error is the last message of the queue. -/
theorem good_iff_lastWrite (es : List Event) :
    Steps.StatesMeet step Good .init es ↔ Steps.StepsMeet step LastWrite .init es :=
  Steps.statesMeet_iff (fun _ _ _ h hok hst => h.keep hok hst) (fun _ h => h.good)
    (fun _ _ _ h hok hst => h.breaks hok hst) Inv.init

/-- Two messages sent before the first write completes hang the session. -/
theorem second_message_hangs : ¬ ∀ es, Steps.StatesMeet step Good .init es := by
  intro h
  have hgood := h [.doSend "a", .doSend "b", .onWrite false]
  cases ((hgood.2 _ rfl).2 _ rfl).2 _ rfl |>.noSelfLock

end PorcelainMonitor.WebSocket
