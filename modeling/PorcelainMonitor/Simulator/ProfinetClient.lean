import PorcelainMonitor.Lib.SteadyTimer
import PorcelainMonitor.Lib.Steps

/-!
# The connection of a simulated sensor

`ProfinetClient` (`simulator/main.cpp`) keeps one connection to the server.  A
failed connect, a failed write and a simulated disconnect each call
`schedule_reconnect`, which counts the calls since the last successful connect
and arms the reconnect timer, or gives up after ten.

The events are the completions of connects and writes, the expiries of the three
timers, the calls of their handlers, and `stop`.  They come in any order.  So the
durations play no part: an order that some `interval_ms` allows is one of these.
The operations on a closed socket complete like others, with an error or not.

The sent bytes are those of `build_profinet_packet`.  They have no influence on
the connection and are left out here.
-/

namespace PorcelainMonitor.Simulator

open Steps

/-! ## The client -/

structure ProfinetClient where
  running : Bool
  connected : Bool
  reconnectCount : Nat
  /-- `timer_`, which is null until the first connect succeeds. -/
  timer : SteadyTimer
  reconnectTimer : SteadyTimer
  disconnectSimTimer : SteadyTimer
  /-- The `async_connect` operations that have not completed. -/
  connects : Nat
  /-- The `async_write` operations that have not completed. -/
  writes : Nat
  /-- The connects that have failed since the last one that succeeded. -/
  failures : Nat
  /-- `schedule_reconnect` has given up since then. -/
  gaveUp : Bool
deriving DecidableEq, Repr

def maxReconnectAttempts : Nat := 10

namespace ProfinetClient

def new : ProfinetClient where
  running := false
  connected := false
  reconnectCount := 0
  timer := .idle
  reconnectTimer := .idle
  disconnectSimTimer := .idle
  connects := 0
  writes := 0
  failures := 0
  gaveUp := false

def connect (c : ProfinetClient) : ProfinetClient := { c with connects := c.connects + 1 }

def start (c : ProfinetClient) : ProfinetClient := connect { c with running := true }

/-- A wait on `timer_`, `reconnect_timer_` or `disconnect_sim_timer_` that has not
expired never calls its handler. -/
def stop (c : ProfinetClient) : ProfinetClient :=
  { c with
    running := false
    timer := c.timer.cancel
    reconnectTimer := c.reconnectTimer.cancel
    disconnectSimTimer := c.disconnectSimTimer.cancel }

def scheduleReconnect (c : ProfinetClient) : ProfinetClient :=
  if maxReconnectAttempts ≤ c.reconnectCount then { c with gaveUp := true }
  else
    { c with
      reconnectCount := c.reconnectCount + 1
      reconnectTimer := c.reconnectTimer.expiresAfter }

def scheduleRandomDisconnect (c : ProfinetClient) : ProfinetClient :=
  { c with disconnectSimTimer := c.disconnectSimTimer.expiresAfter }

def sendData (c : ProfinetClient) : ProfinetClient := { c with writes := c.writes + 1 }

def scheduleNextSend (c : ProfinetClient) : ProfinetClient :=
  if c.running then { c with timer := c.timer.expiresAfter } else c

/-- The new timer takes the place of the old one, whose wait ends with it. -/
def startSending (c : ProfinetClient) : ProfinetClient :=
  scheduleNextSend { c with timer := c.timer.cancel }

/-! ## The handlers -/

/-- The handler of `async_connect`. -/
def onConnect (ec : Bool) (c : ProfinetClient) : ProfinetClient :=
  if ec then
    let c := { c with connected := false, failures := c.failures + 1 }
    if c.running then c.scheduleReconnect else c
  else
    let c := { c with connected := true, reconnectCount := 0, failures := 0, gaveUp := false }
    c.startSending.scheduleRandomDisconnect

/-- The handler of `async_write`. -/
def onWrite (ec : Bool) (c : ProfinetClient) : ProfinetClient :=
  if ec then
    let c := { c with connected := false }
    if c.running then c.scheduleReconnect else c
  else c

def onSendTimer (c : ProfinetClient) : ProfinetClient :=
  if c.running then c.sendData.scheduleNextSend else c

def onReconnectTimer (c : ProfinetClient) : ProfinetClient :=
  if c.running then c.connect else c

def onDisconnectSimTimer (c : ProfinetClient) : ProfinetClient :=
  if c.running && c.connected then
    scheduleReconnect { c with connected := false, timer := c.timer.cancel }
  else c

end ProfinetClient

/-! ## Runs -/

inductive Timer where
  | send
  | reconnect
  | disconnectSim
deriving DecidableEq, Repr

inductive Event where
  | connectDone (ec : Bool)
  | writeDone (ec : Bool)
  | expires (timer : Timer)
  /-- The handler of an expired wait runs. -/
  | fires (timer : Timer)
  | stop
deriving DecidableEq, Repr

namespace ProfinetClient

def timerOf (c : ProfinetClient) : Timer → SteadyTimer
  | .send => c.timer
  | .reconnect => c.reconnectTimer
  | .disconnectSim => c.disconnectSimTimer

def setTimer (c : ProfinetClient) (t : SteadyTimer) : Timer → ProfinetClient
  | .send => { c with timer := t }
  | .reconnect => { c with reconnectTimer := t }
  | .disconnectSim => { c with disconnectSimTimer := t }

def onTimer (c : ProfinetClient) : Timer → ProfinetClient
  | .send => c.onSendTimer
  | .reconnect => c.onReconnectTimer
  | .disconnectSim => c.onDisconnectSimTimer

def step (c : ProfinetClient) : Event → Option ProfinetClient
  | .connectDone ec =>
      if c.connects = 0 then none
      else some (onConnect ec { c with connects := c.connects - 1 })
  | .writeDone ec =>
      if c.writes = 0 then none
      else some (onWrite ec { c with writes := c.writes - 1 })
  | .expires timer => (c.timerOf timer).expire.map fun t => c.setTimer t timer
  | .fires timer => (c.timerOf timer).take.map fun t => (c.setTimer t timer).onTimer timer
  | .stop => some c.stop

/-- A connect operation or a wait on the reconnect timer is pending. -/
def Reconnecting (c : ProfinetClient) : Prop := 0 < c.connects + c.reconnectTimer.outstanding

/-- While it runs, the client gives up only after ten connects in a row have failed,
and until then it is connected or reconnecting. -/
structure Persistent (c : ProfinetClient) : Prop where
  gaveUp : c.running = true → c.gaveUp = true → maxReconnectAttempts ≤ c.failures
  trying : c.running = true → c.connected = false → c.gaveUp = false → c.Reconnecting

/-- No write of a running client fails while it is reconnecting. -/
def FailsOnce (c : ProfinetClient) (e : Event) : Prop :=
  e = .writeDone true → c.running = true → ¬ c.Reconnecting

/-! ## What a call does -/

variable {c d : ProfinetClient}

theorem scheduleReconnect_of_lt (h : c.reconnectCount < maxReconnectAttempts) :
    c.scheduleReconnect = { c with
      reconnectCount := c.reconnectCount + 1
      reconnectTimer := c.reconnectTimer.expiresAfter } :=
  if_neg (Nat.not_le.mpr h)

theorem scheduleReconnect_of_le (h : maxReconnectAttempts ≤ c.reconnectCount) :
    c.scheduleReconnect = { c with gaveUp := true } :=
  if_pos h

/-- The fields that `schedule_reconnect` does not touch. -/
theorem scheduleReconnect_frame (c : ProfinetClient) : ∃ count timer gaveUp,
    c.scheduleReconnect = { c with
      reconnectCount := count, reconnectTimer := timer, gaveUp := gaveUp } := by
  rw [scheduleReconnect]
  split
  · exact ⟨c.reconnectCount, c.reconnectTimer, true, rfl⟩
  · exact ⟨c.reconnectCount + 1, c.reconnectTimer.expiresAfter, c.gaveUp, rfl⟩

/-- While the client runs, the send timer is armed again with each packet. -/
theorem onSendTimer_of_running (h : c.running = true) :
    c.onSendTimer = { c with writes := c.writes + 1, timer := c.timer.expiresAfter } := by
  simp [onSendTimer, sendData, scheduleNextSend, h]

/-- A completed connect was one of those outstanding. -/
theorem step_connectDone {ec : Bool} (hst : c.step (.connectDone ec) = some d) :
    0 < c.connects ∧ d = onConnect ec { c with connects := c.connects - 1 } := by
  rw [step] at hst
  split at hst
  · cases hst
  · next h =>
      cases hst
      exact ⟨Nat.pos_of_ne_zero h, rfl⟩

theorem step_writeDone {ec : Bool} (hst : c.step (.writeDone ec) = some d) :
    0 < c.writes ∧ d = onWrite ec { c with writes := c.writes - 1 } := by
  rw [step] at hst
  split at hst
  · cases hst
  · next h =>
      cases hst
      exact ⟨Nat.pos_of_ne_zero h, rfl⟩

theorem step_expires {timer : Timer} (hst : c.step (.expires timer) = some d) :
    ∃ t, (c.timerOf timer).expire = some t ∧ d = c.setTimer t timer := by
  obtain ⟨t, ht, rfl⟩ := Option.map_eq_some_iff.mp hst
  exact ⟨t, ht, rfl⟩

theorem step_fires {timer : Timer} (hst : c.step (.fires timer) = some d) :
    ∃ t, (c.timerOf timer).take = some t ∧ d = (c.setTimer t timer).onTimer timer := by
  obtain ⟨t, ht, rfl⟩ := Option.map_eq_some_iff.mp hst
  exact ⟨t, ht, rfl⟩

/-! ## The invariant -/

/-- A client that is not connected.  `lost` is 1 if the connection was lost and 0 if
there was none: losing it took one of the attempts. -/
inductive Trying (c : ProfinetClient) (lost : Nat) : Prop where
  | active (pending : c.connects + c.reconnectTimer.outstanding = 1)
      (count : c.reconnectCount = c.failures + lost)
      (bound : c.reconnectCount ≤ maxReconnectAttempts) (gaveUp : c.gaveUp = false)
  | gaveUp (pending : c.connects + c.reconnectTimer.outstanding = 0)
      (count : c.reconnectCount = maxReconnectAttempts)
      (failures : maxReconnectAttempts ≤ c.failures) (gaveUp : c.gaveUp = true)

/-- The states of a running client. -/
inductive Phase (c : ProfinetClient) : Prop where
  /-- No connect has succeeded yet, so nothing is sent. -/
  | first (connected : c.connected = false) (writes : c.writes = 0) (timer : c.timer = .idle)
      (disconnectSimTimer : c.disconnectSimTimer = .idle) (trying : c.Trying 0)
  | up (connected : c.connected = true) (pending : c.connects + c.reconnectTimer.outstanding = 0)
      (count : c.reconnectCount = 0) (failures : c.failures = 0) (gaveUp : c.gaveUp = false)
  | lost (connected : c.connected = false) (trying : c.Trying 1)

def Inv (c : ProfinetClient) : Prop := c.running = true → c.Phase

theorem Trying.persistent {lost : Nat} (h : c.Trying lost) : c.Persistent := by
  cases h with
  | active pending count bound gaveUp =>
      exact ⟨fun _ hg => by simp [gaveUp] at hg, fun _ _ _ => by simp [Reconnecting, pending]⟩
  | gaveUp pending count failures gaveUp =>
      exact ⟨fun _ _ => failures, fun _ _ hg => by simp [gaveUp] at hg⟩

theorem Inv.persistent (h : c.Inv) : c.Persistent := by
  by_cases hrunning : c.running = true
  · cases h hrunning with
    | first connected writes timer disconnectSimTimer trying => exact trying.persistent
    | up connected pending count failures gaveUp =>
        exact ⟨fun _ hg => by simp [gaveUp] at hg, fun _ hc => by simp [connected] at hc⟩
    | lost connected trying => exact trying.persistent
  · exact ⟨fun hr => absurd hr hrunning, fun hr => absurd hr hrunning⟩

/-- A connect or the wait of an attempt goes on as the other. -/
theorem Trying.of_eq {lost : Nat} (h : c.Trying lost)
    (hpending : d.connects + d.reconnectTimer.outstanding =
      c.connects + c.reconnectTimer.outstanding)
    (hcount : d.reconnectCount = c.reconnectCount) (hfailures : d.failures = c.failures)
    (hgaveUp : d.gaveUp = c.gaveUp) : d.Trying lost := by
  cases h with
  | active pending count bound gaveUp =>
      exact .active (by rw [hpending, pending]) (by rw [hcount, hfailures, count])
        (by rw [hcount]; exact bound) (by rw [hgaveUp, gaveUp])
  | gaveUp pending count failures gaveUp =>
      exact .gaveUp (by rw [hpending, pending]) (by rw [hcount, count])
        (by rw [hfailures]; exact failures) (by rw [hgaveUp, gaveUp])

/-- The same for the phases, where the other fields stay as well. -/
theorem Phase.of_eq (h : c.Phase) (hconnected : d.connected = c.connected)
    (hfirst : c.writes = 0 → c.timer = .idle → c.disconnectSimTimer = .idle →
      d.writes = 0 ∧ d.timer = .idle ∧ d.disconnectSimTimer = .idle)
    (hpending : d.connects + d.reconnectTimer.outstanding =
      c.connects + c.reconnectTimer.outstanding)
    (hcount : d.reconnectCount = c.reconnectCount) (hfailures : d.failures = c.failures)
    (hgaveUp : d.gaveUp = c.gaveUp) : d.Phase := by
  cases h with
  | first connected writes timer disconnectSimTimer trying =>
      obtain ⟨hwrites, htimer, hsim⟩ := hfirst writes timer disconnectSimTimer
      exact .first (hconnected.trans connected) hwrites htimer hsim
        (trying.of_eq hpending hcount hfailures hgaveUp)
  | up connected pending count failures gaveUp =>
      exact .up (hconnected.trans connected) (hpending.trans pending) (hcount.trans count)
        (hfailures.trans failures) (hgaveUp.trans gaveUp)
  | lost connected trying =>
      exact .lost (hconnected.trans connected) (trying.of_eq hpending hcount hfailures hgaveUp)

/-- One more failed connect, or a lost connection, with nothing pending: the timer is
armed for the next attempt, or that was the last. -/
theorem Trying.schedule {lost : Nat} (hlost : lost ≤ 1)
    (hpending : c.connects + c.reconnectTimer.outstanding = 0)
    (hcount : c.reconnectCount + 1 = c.failures + lost)
    (hbound : c.reconnectCount ≤ maxReconnectAttempts) (hgaveUp : c.gaveUp = false) :
    c.scheduleReconnect.Trying lost := by
  obtain ⟨hconnects, houtstanding⟩ := Nat.add_eq_zero_iff.mp hpending
  by_cases hlt : c.reconnectCount < maxReconnectAttempts
  · rw [scheduleReconnect_of_lt hlt]
    have hqueued := SteadyTimer.queued_of_outstanding houtstanding
    exact .active (by simp [hconnects, hqueued]) hcount hlt hgaveUp
  · rw [scheduleReconnect_of_le (Nat.le_of_not_lt hlt)]
    have hlast : c.reconnectCount = maxReconnectAttempts :=
      Nat.le_antisymm hbound (Nat.le_of_not_lt hlt)
    exact .gaveUp hpending hlast (show maxReconnectAttempts ≤ c.failures by omega) rfl

/-! ## The handlers keep the invariant -/

/-- A connect that succeeds ends whatever was before it. -/
theorem Phase.connectDone (h : c.Phase) (hconnects : 0 < c.connects) :
    (onConnect false { c with connects := c.connects - 1 }).Phase := by
  have hpending : c.connects - 1 + c.reconnectTimer.outstanding = 0 := by
    cases h with
    | first connected writes timer disconnectSimTimer trying =>
        cases trying <;> omega
    | up connected pending count failures gaveUp => omega
    | lost connected trying => cases trying <;> omega
  rw [onConnect, if_neg Bool.false_ne_true]
  dsimp only [startSending, scheduleNextSend]
  split
  · exact .up rfl hpending rfl rfl rfl
  · exact .up rfl hpending rfl rfl rfl

theorem Trying.connectFailed {lost : Nat} (hlost : lost ≤ 1) (h : c.Trying lost)
    (hconnects : 0 < c.connects) :
    (scheduleReconnect { c with
      connects := c.connects - 1, connected := false,
      failures := c.failures + 1 }).Trying lost := by
  cases h with
  | active pending count bound gaveUp =>
      exact .schedule hlost (show c.connects - 1 + c.reconnectTimer.outstanding = 0 by omega)
        (show c.reconnectCount + 1 = c.failures + 1 + lost by omega) bound gaveUp
  | gaveUp pending count failures gaveUp => omega

theorem Phase.connectFailed (h : c.Phase) (hrunning : c.running = true)
    (hconnects : 0 < c.connects) :
    (onConnect true { c with connects := c.connects - 1 }).Phase := by
  rw [onConnect, if_pos rfl]
  dsimp only
  rw [if_pos hrunning]
  have hframe := scheduleReconnect_frame { c with
    connects := c.connects - 1, connected := false, failures := c.failures + 1 }
  obtain ⟨count', timer', gaveUp', heq⟩ := hframe
  cases h with
  | first connected writes timer disconnectSimTimer trying =>
      have htrying := trying.connectFailed (Nat.zero_le 1) hconnects
      rw [heq] at htrying ⊢
      exact .first rfl writes timer disconnectSimTimer htrying
  | up connected pending count failures gaveUp => omega
  | lost connected trying =>
      have htrying := trying.connectFailed (Nat.le_refl 1) hconnects
      rw [heq] at htrying ⊢
      exact .lost rfl htrying

/-- Losing the connection, by a write that fails or by the simulation, takes the first
attempt. -/
theorem Phase.lose (hpending : c.connects + c.reconnectTimer.outstanding = 0)
    (hconnected : c.connected = false) (hcount : c.reconnectCount = 0) (hfailures : c.failures = 0)
    (hgaveUp : c.gaveUp = false) : c.scheduleReconnect.Phase := by
  have htrying : c.scheduleReconnect.Trying 1 :=
    .schedule (Nat.le_refl 1) hpending (by rw [hcount, hfailures]) (by rw [hcount]; decide) hgaveUp
  obtain ⟨count, timer, gaveUp, heq⟩ := c.scheduleReconnect_frame
  rw [heq] at htrying ⊢
  exact .lost hconnected htrying

/-- A client that has given up gives up again. -/
theorem Trying.again {lost : Nat} (h : c.Trying lost)
    (hpending : c.connects + c.reconnectTimer.outstanding = 0) :
    c.scheduleReconnect.Trying lost := by
  cases h with
  | active pending count bound gaveUp => omega
  | gaveUp pending count failures gaveUp =>
      rw [scheduleReconnect_of_le (Nat.le_of_eq count.symm)]
      exact .gaveUp pending count failures rfl

theorem Phase.writeFailed (h : c.Phase) (hrunning : c.running = true) (hwrites : 0 < c.writes)
    (hpending : c.connects + c.reconnectTimer.outstanding = 0) :
    (onWrite true { c with writes := c.writes - 1 }).Phase := by
  rw [onWrite, if_pos rfl]
  dsimp only
  rw [if_pos hrunning]
  cases h with
  | first connected writes timer disconnectSimTimer trying => omega
  | up connected pending count failures gaveUp => exact .lose pending rfl count failures gaveUp
  | lost connected trying =>
      have htrying : Trying { c with writes := c.writes - 1, connected := false } 1 :=
        trying.of_eq rfl rfl rfl rfl
      have hagain := htrying.again hpending
      obtain ⟨count', timer', gaveUp', heq⟩ :=
        scheduleReconnect_frame { c with writes := c.writes - 1, connected := false }
      rw [heq] at hagain ⊢
      exact .lost rfl hagain

/-- An expiry changes no count. -/
theorem Phase.expires (h : c.Phase) {timer : Timer} {t : SteadyTimer}
    (ht : (c.timerOf timer).expire = some t) : (c.setTimer t timer).Phase := by
  cases timer with
  | send =>
      refine h.of_eq rfl (fun hwrites htimer hsim => ?_) rfl rfl rfl rfl
      rw [timerOf, htimer] at ht
      cases ht
  | reconnect =>
      have houtstanding := SteadyTimer.outstanding_of_expire ht
      refine h.of_eq rfl (fun hwrites htimer hsim => ⟨hwrites, htimer, hsim⟩) ?_ rfl rfl rfl
      exact congrArg (c.connects + ·) houtstanding
  | disconnectSim =>
      refine h.of_eq rfl (fun hwrites htimer hsim => ?_) rfl rfl rfl rfl
      rw [timerOf, hsim] at ht
      cases ht

theorem Phase.fires (h : c.Phase) (hrunning : c.running = true) {timer : Timer} {t : SteadyTimer}
    (ht : (c.timerOf timer).take = some t) : ((c.setTimer t timer).onTimer timer).Phase := by
  cases timer with
  | send =>
      rw [onTimer, onSendTimer_of_running (show (c.setTimer t .send).running = true from hrunning)]
      refine h.of_eq rfl (fun hwrites htimer hsim => ?_) rfl rfl rfl rfl
      rw [timerOf, htimer] at ht
      cases ht
  | reconnect =>
      rw [onTimer, onReconnectTimer, setTimer, if_pos hrunning]
      have houtstanding := SteadyTimer.outstanding_of_take ht
      refine h.of_eq rfl (fun hwrites htimer hsim => ⟨hwrites, htimer, hsim⟩) ?_ rfl rfl rfl
      rw [timerOf] at houtstanding
      show c.connects + 1 + t.outstanding = _
      omega
  | disconnectSim =>
      rw [onTimer, onDisconnectSimTimer, setTimer]
      cases h with
      | first connected writes timer disconnectSimTimer trying =>
          rw [timerOf, disconnectSimTimer] at ht
          cases ht
      | up connected pending count failures gaveUp =>
          rw [if_pos (by simp [hrunning, connected])]
          exact .lose pending rfl count failures gaveUp
      | lost connected trying =>
          rw [if_neg (by simp [connected])]
          exact .lost connected (trying.of_eq rfl rfl rfl rfl)

/-- A client that was stopped stays so. -/
theorem stopped_of_step {e : Event} (h : c.running = false) (hst : c.step e = some d) :
    d.running = false := by
  cases e with
  | connectDone ec =>
      obtain ⟨_, rfl⟩ := step_connectDone hst
      cases ec <;> simp [onConnect, startSending, scheduleNextSend, scheduleRandomDisconnect, h]
  | writeDone ec =>
      obtain ⟨_, rfl⟩ := step_writeDone hst
      cases ec <;> simp [onWrite, h]
  | expires timer =>
      obtain ⟨t, _, rfl⟩ := step_expires hst
      cases timer <;> exact h
  | fires timer =>
      obtain ⟨t, _, rfl⟩ := step_fires hst
      cases timer <;>
        simp [onTimer, setTimer, onSendTimer, onReconnectTimer, onDisconnectSimTimer, h]
  | stop =>
      cases hst
      rfl

theorem Inv.keep {e : Event} (h : c.Inv) (hok : c.FailsOnce e) (hst : c.step e = some d) :
    d.Inv := by
  intro hd
  have hrunning : c.running = true := by
    by_contra hr
    rw [stopped_of_step (Bool.eq_false_iff.mpr hr) hst] at hd
    cases hd
  have hphase := h hrunning
  cases e with
  | connectDone ec =>
      obtain ⟨hconnects, rfl⟩ := step_connectDone hst
      cases ec with
      | false => exact hphase.connectDone hconnects
      | true => exact hphase.connectFailed hrunning hconnects
  | writeDone ec =>
      obtain ⟨hwrites, rfl⟩ := step_writeDone hst
      cases ec with
      | false =>
          refine hphase.of_eq rfl (fun hnone => ?_) rfl rfl rfl rfl
          omega
      | true =>
          have hpending := Nat.eq_zero_of_not_pos (hok rfl hrunning)
          exact hphase.writeFailed hrunning hwrites hpending
  | expires timer =>
      obtain ⟨t, ht, rfl⟩ := step_expires hst
      exact hphase.expires ht
  | fires timer =>
      obtain ⟨t, ht, rfl⟩ := step_fires hst
      exact hphase.fires hrunning ht
  | stop =>
      cases hst
      cases hd

theorem Inv.start : new.start.Inv := fun _ =>
  .first rfl rfl rfl rfl (.active rfl rfl (Nat.zero_le _) rfl)

/-! ## Writes that fail meanwhile -/

/-- Two calls of `schedule_reconnect` since the last success were not failed
connects, and the timer runs. -/
structure Ahead (c : ProfinetClient) : Prop where
  running : c.running = true
  waiting : c.reconnectTimer.waiting = true
  count : c.reconnectCount = c.failures + 2
  bound : c.reconnectCount ≤ maxReconnectAttempts

/-- The client whose next attempt has failed, before `schedule_reconnect`. -/
def afterAttempt (c : ProfinetClient) : ProfinetClient :=
  { c with
    connected := false
    reconnectTimer := c.reconnectTimer.cancel
    failures := c.failures + 1 }

/-- The timer expires, its handler starts a connect, and the connect fails. -/
theorem Ahead.attempt (h : c.Ahead)
    (hescapes : Escapes step FailsOnce Persistent c.afterAttempt.scheduleReconnect) :
    Escapes step FailsOnce Persistent c := by
  have hexpires : c.step (.expires .reconnect) =
      some { c with reconnectTimer := ⟨false, c.reconnectTimer.queued + 1⟩ } := by
    simp [step, timerOf, setTimer, SteadyTimer.expire, h.waiting]
  have hfires : step { c with reconnectTimer := ⟨false, c.reconnectTimer.queued + 1⟩ }
      (.fires .reconnect) =
        some { c with reconnectTimer := c.reconnectTimer.cancel, connects := c.connects + 1 } := by
    simp [step, timerOf, setTimer, SteadyTimer.take, SteadyTimer.cancel, onTimer, onReconnectTimer,
      connect, h.running]
  have hfails : step
      { c with reconnectTimer := c.reconnectTimer.cancel, connects := c.connects + 1 }
      (.connectDone true) = some c.afterAttempt.scheduleReconnect := by
    simp [step, onConnect, afterAttempt, h.running]
  have hok : ∀ (d : ProfinetClient) (e : Event), e ≠ .writeDone true → d.FailsOnce e :=
    fun d e he heq => absurd heq he
  refine .next hexpires (hok _ _ (by simp)) (.next hfires (hok _ _ (by simp)) ?_)
  exact .next hfails (hok _ _ (by simp)) hescapes

/-- The last attempts fail, and the client gives up after nine. -/
theorem Ahead.escapes {n : Nat} (h : c.Ahead) (hn : c.reconnectCount + n = maxReconnectAttempts) :
    Escapes step FailsOnce Persistent c := by
  induction n generalizing c with
  | zero =>
      refine h.attempt (.here fun hpersistent => ?_)
      have hlast : maxReconnectAttempts ≤ c.reconnectCount := Nat.le_of_eq hn.symm
      have hgives : c.afterAttempt.scheduleReconnect =
          { c.afterAttempt with gaveUp := true } := scheduleReconnect_of_le hlast
      rw [hgives] at hpersistent
      have hfailures : maxReconnectAttempts ≤ c.failures + 1 := hpersistent.gaveUp h.running rfl
      have := h.count
      omega
  | succ n ih =>
      have hlt : c.afterAttempt.reconnectCount < maxReconnectAttempts :=
        show c.reconnectCount < maxReconnectAttempts by omega
      refine h.attempt ?_
      rw [scheduleReconnect_of_lt hlt]
      have hcount : c.reconnectCount + 1 = c.failures + 1 + 2 := by rw [h.count]
      exact ih ⟨h.running, rfl, hcount, hlt⟩ (show c.reconnectCount + 1 + n = _ by omega)

/-- One call of `schedule_reconnect` was no failed connect, and here is another. -/
theorem escapes_of_taken (hrunning : c.running = true) (hcount : c.reconnectCount = c.failures + 1)
    (hbound : c.reconnectCount ≤ maxReconnectAttempts) :
    Escapes step FailsOnce Persistent c.scheduleReconnect := by
  by_cases hlt : c.reconnectCount < maxReconnectAttempts
  · rw [scheduleReconnect_of_lt hlt]
    have hahead : Ahead { c with
        reconnectCount := c.reconnectCount + 1
        reconnectTimer := c.reconnectTimer.expiresAfter } :=
      ⟨hrunning, rfl, by simp [hcount], hlt⟩
    exact hahead.escapes (Nat.add_sub_cancel' hlt)
  · have hlast := Nat.le_of_not_lt hlt
    rw [scheduleReconnect_of_le hlast]
    refine .here fun hpersistent => ?_
    have hfailures : maxReconnectAttempts ≤ c.failures := hpersistent.gaveUp hrunning rfl
    omega

/-- A write that fails while the client is reconnecting takes an attempt. -/
theorem Inv.breaks {e : Event} (h : c.Inv) (hok : ¬ c.FailsOnce e) (hst : c.step e = some d) :
    Escapes step FailsOnce Persistent d := by
  simp only [FailsOnce, Classical.not_imp, not_not] at hok
  obtain ⟨rfl, hrunning, hreconnecting⟩ := hok
  obtain ⟨hwrites, rfl⟩ := step_writeDone hst
  rw [Reconnecting] at hreconnecting
  rw [onWrite, if_pos rfl]
  dsimp only
  rw [if_pos hrunning]
  cases h hrunning with
  | first connected writes timer disconnectSimTimer trying => omega
  | up connected pending count failures gaveUp => omega
  | lost connected trying =>
      cases trying with
      | active pending count bound gaveUp => exact escapes_of_taken hrunning count bound
      | gaveUp pending count failures gaveUp => omega

/-- A client gives up only after ten failed connects, and is reconnecting until then,
in the runs in which no write fails meanwhile.  After such a write it can give up
earlier. -/
theorem persistent_exact (es : List Event) : Exact step FailsOnce Persistent new.start es :=
  exact_of (fun _ _ _ h hok hst => h.keep hok hst) (fun _ h => h.persistent)
    (fun _ _ _ h hok hst => h.breaks hok hst) Inv.start es

/-- The server goes away.  Each packet that cannot be sent takes an attempt and puts
the next connect off, until the eleventh gives up.  The wait that is left leads to one
connect. -/
def serverGone : List Event :=
  [.connectDone false] ++
    (List.replicate 11 [.expires .send, .fires .send, .writeDone true]).flatten ++
    [.expires .reconnect, .fires .reconnect, .connectDone true]

/-- It gives up after that one, and nothing is pending then. -/
theorem gives_up_without_connect : ¬ ∀ es, StatesMeet step Persistent new.start es := by
  intro h
  have hpersistent := (h serverGone).last rfl
  have hfailures := hpersistent.gaveUp rfl rfl
  exact absurd hfailures (by decide)

example : (exec step new.start serverGone).map
    (fun c => (c.gaveUp, c.failures, c.connects + c.reconnectTimer.outstanding)) =
      some (true, 1, 0) := by
  decide

end ProfinetClient

end PorcelainMonitor.Simulator
