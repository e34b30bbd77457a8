import PorcelainMonitor.Lib.Steps

/-!
# The browser's WebSocket client

`WebSocketClient` (`websocket-client.js`) opens a socket, keeps a heartbeat interval
while it is open and connects again some time after it has closed.
`reconnectAttempts` counts the timers set since a socket was last open.
`disconnect` sets it to its maximum, so that `scheduleReconnect` sets no more.

The events are the calls of `connect` and `disconnect`, the `open`, `close` and
`error` events of any socket made so far, and the expiry of a reconnect timer, in any
order that the interface of `WebSocket` allows: a socket opens at most once and before
it is closed, and closes once.  `new WebSocket` may throw.

The listeners that `emit` calls show the status and do not call the client.  Messages
do not change its state and are left out.
-/

namespace PorcelainMonitor.Frontend

open Steps

/-! ## The client -/

inductive ReadyState where
  | connecting
  | opened
  | closing
  | closed
deriving DecidableEq, Repr

/-- `close()`, which a socket that is closing or closed ignores. -/
def ReadyState.close : ReadyState → ReadyState
  | .connecting | .opened => .closing
  | state => state

/-- A running interval and the socket whose `onopen` has set it. -/
structure Interval where
  id : Nat
  socket : Nat
deriving DecidableEq, Repr

structure WebSocketClient where
  /-- Every socket made so far. -/
  sockets : List ReadyState
  ws : Option Nat
  reconnectAttempts : Nat
  heartbeatInterval : Option Nat
  isConnected : Bool
  /-- The intervals that run, and how many were ever set. -/
  intervals : List Interval
  intervalCount : Nat
  /-- The reconnect timers that have not expired. -/
  timers : Nat
  /-- `disconnect` was called, and the user has not called `connect` since. -/
  disconnected : Bool
  /-- A socket was made meanwhile. -/
  madeLate : Bool
deriving DecidableEq, Repr

def maxReconnectAttempts : Nat := 10

namespace WebSocketClient

def new : WebSocketClient where
  sockets := []
  ws := none
  reconnectAttempts := 0
  heartbeatInterval := none
  isConnected := false
  intervals := []
  intervalCount := 0
  timers := 0
  disconnected := false
  madeLate := false

def startHeartbeat (socket : Nat) (c : WebSocketClient) : WebSocketClient :=
  { c with
    heartbeatInterval := some (c.intervalCount + 1)
    intervals := c.intervals ++ [⟨c.intervalCount + 1, socket⟩]
    intervalCount := c.intervalCount + 1 }

def stopHeartbeat (c : WebSocketClient) : WebSocketClient :=
  match c.heartbeatInterval with
  | none => c
  | some id =>
      { c with
        intervals := c.intervals.filter fun interval => interval.id ≠ id
        heartbeatInterval := none }

def scheduleReconnect (c : WebSocketClient) : WebSocketClient :=
  if maxReconnectAttempts ≤ c.reconnectAttempts then c
  else { c with reconnectAttempts := c.reconnectAttempts + 1, timers := c.timers + 1 }

/-- `made` says whether `new WebSocket` returns or throws. -/
def connect (made : Bool) (c : WebSocketClient) : WebSocketClient :=
  if made then
    { c with
      sockets := c.sockets ++ [.connecting]
      ws := some c.sockets.length
      madeLate := c.madeLate || c.disconnected }
  else c.scheduleReconnect

/-- The sockets after `if (this.ws) this.ws.close()`. -/
def closeWs (c : WebSocketClient) : List ReadyState :=
  match c.ws with
  | none => c.sockets
  | some socket => c.sockets.modify socket .close

def disconnect (c : WebSocketClient) : WebSocketClient :=
  { stopHeartbeat { c with sockets := c.closeWs } with
    reconnectAttempts := maxReconnectAttempts }

def onopen (socket : Nat) (c : WebSocketClient) : WebSocketClient :=
  startHeartbeat socket { c with isConnected := true, reconnectAttempts := 0 }

def onclose (c : WebSocketClient) : WebSocketClient :=
  (stopHeartbeat { c with isConnected := false }).scheduleReconnect

end WebSocketClient

/-! ## Runs -/

inductive Event where
  | connect (made : Bool)
  | disconnect
  | opened (socket : Nat)
  | closed (socket : Nat)
  | error (socket : Nat)
  | timerExpires (made : Bool)
deriving DecidableEq, Repr

namespace WebSocketClient

def step (c : WebSocketClient) : Event → Option WebSocketClient
  | .connect made => some (connect made { c with disconnected := false })
  | .disconnect => some { c.disconnect with disconnected := true }
  | .opened socket =>
      if c.sockets[socket]? = some .connecting then
        some (onopen socket { c with sockets := c.sockets.set socket .opened })
      else none
  | .closed socket =>
      match c.sockets[socket]? with
      | none | some .closed => none
      | some _ => some (onclose { c with sockets := c.sockets.set socket .closed })
  | .error socket =>
      match c.sockets[socket]? with
      | none | some .closed => none
      | some _ => some c
  | .timerExpires made =>
      if c.timers = 0 then none else some (connect made { c with timers := c.timers - 1 })

/-- No socket is made between `disconnect` and the user's next `connect`, and no more
than one interval runs, which an open socket has set. -/
structure LifeCycle (c : WebSocketClient) : Prop where
  made : c.madeLate = false
  single : c.intervals.length ≤ 1
  owned : ∀ interval ∈ c.intervals, c.sockets[interval.socket]? = some .opened

/-- `disconnect` is called while no timer is pending and no socket but the last is
connecting, and a socket opens while no heartbeat runs. -/
def Orderly (c : WebSocketClient) : Event → Prop
  | .disconnect =>
      c.timers = 0 ∧ ∀ socket, c.sockets[socket]? = some .connecting → c.ws = some socket
  | .opened _ => c.heartbeatInterval = none
  | _ => True

/-! ## What a call does -/

variable {c d : WebSocketClient}

theorem scheduleReconnect_of_le (h : maxReconnectAttempts ≤ c.reconnectAttempts) :
    c.scheduleReconnect = c :=
  if_pos h

theorem scheduleReconnect_of_lt (h : c.reconnectAttempts < maxReconnectAttempts) :
    c.scheduleReconnect = { c with
      reconnectAttempts := c.reconnectAttempts + 1, timers := c.timers + 1 } :=
  if_neg (Nat.not_le.mpr h)

/-- The fields that `scheduleReconnect` does not touch. -/
theorem scheduleReconnect_frame (c : WebSocketClient) : ∃ attempts timers,
    c.scheduleReconnect = { c with reconnectAttempts := attempts, timers := timers } := by
  rw [scheduleReconnect]
  split
  · exact ⟨c.reconnectAttempts, c.timers, rfl⟩
  · exact ⟨c.reconnectAttempts + 1, c.timers + 1, rfl⟩

/-- Nor does `stopHeartbeat` touch the others. -/
theorem stopHeartbeat_frame (c : WebSocketClient) : ∃ named intervals,
    c.stopHeartbeat = { c with heartbeatInterval := named, intervals := intervals } := by
  rw [stopHeartbeat]
  split
  · exact ⟨c.heartbeatInterval, c.intervals, rfl⟩
  · exact ⟨none, _, rfl⟩

theorem step_opened {socket : Nat} (hst : c.step (.opened socket) = some d) :
    c.sockets[socket]? = some .connecting ∧
      d = onopen socket { c with sockets := c.sockets.set socket .opened } := by
  rw [step] at hst
  split at hst
  · next h =>
      cases hst
      exact ⟨h, rfl⟩
  · cases hst

theorem step_closed {socket : Nat} (hst : c.step (.closed socket) = some d) :
    d = onclose { c with sockets := c.sockets.set socket .closed } := by
  rw [step] at hst
  split at hst
  · cases hst
  · cases hst
  · cases hst
    rfl

theorem step_error {socket : Nat} (hst : c.step (.error socket) = some d) : d = c := by
  rw [step] at hst
  split at hst
  · cases hst
  · cases hst
  · cases hst
    rfl

theorem step_timerExpires {made : Bool} (hst : c.step (.timerExpires made) = some d) :
    0 < c.timers ∧ d = connect made { c with timers := c.timers - 1 } := by
  rw [step] at hst
  split at hst
  · cases hst
  · next h =>
      cases hst
      exact ⟨Nat.pos_of_ne_zero h, rfl⟩

/-! ## The invariant -/

/-- The interval that `heartbeatInterval` names is the one that runs, if any does. -/
inductive Heartbeat (c : WebSocketClient) : Prop where
  | silent (named : c.heartbeatInterval = none) (intervals : c.intervals = [])
  | beats (interval : Interval) (named : c.heartbeatInterval = some interval.id)
      (intervals : c.intervals = [interval])
      (owned : c.sockets[interval.socket]? = some .opened)

/-- After `disconnect` nothing can set a timer. -/
structure Stopped (c : WebSocketClient) : Prop where
  timers : c.timers = 0
  attempts : maxReconnectAttempts ≤ c.reconnectAttempts
  settled : ∀ socket : Nat, c.sockets[socket]? ≠ some ReadyState.connecting

structure Inv (c : WebSocketClient) : Prop where
  made : c.madeLate = false
  heartbeat : c.Heartbeat
  stopped : c.disconnected = true → c.Stopped

theorem Inv.new : Inv WebSocketClient.new := ⟨rfl, .silent rfl rfl, fun h => by cases h⟩

theorem Inv.lifeCycle (h : c.Inv) : c.LifeCycle := by
  cases h.heartbeat with
  | silent named intervals => exact ⟨h.made, by simp [intervals], by simp [intervals]⟩
  | beats interval named intervals owned =>
      exact ⟨h.made, by simp [intervals], by simpa [intervals] using owned⟩

/-- The interval that runs is the one that `stopHeartbeat` clears, whatever has become
of the sockets. -/
theorem Heartbeat.stop (h : c.Heartbeat) (sockets : List ReadyState) (isConnected : Bool) :
    stopHeartbeat { c with sockets := sockets, isConnected := isConnected } =
      { c with
        sockets := sockets
        isConnected := isConnected
        heartbeatInterval := none
        intervals := [] } := by
  cases h with
  | silent named intervals => simp [stopHeartbeat, named, intervals]
  | beats interval named intervals owned => simp [stopHeartbeat, named, intervals]

theorem Inv.scheduleReconnect (h : c.Inv) : c.scheduleReconnect.Inv := by
  by_cases hd : c.disconnected = true
  · rw [scheduleReconnect_of_le (h.stopped hd).attempts]
    exact h
  · obtain ⟨attempts, timers, heq⟩ := c.scheduleReconnect_frame
    rw [heq]
    refine ⟨h.made, ?_, fun hd' => absurd hd' hd⟩
    cases h.heartbeat with
    | silent named intervals => exact .silent named intervals
    | beats interval named intervals owned => exact .beats interval named intervals owned

/-- A call of `connect` while `disconnect` is not the last the user has called. -/
theorem Inv.connect (h : c.Inv) (hwanted : c.disconnected = false) (made : Bool) :
    (c.connect made).Inv := by
  cases made with
  | false => exact h.scheduleReconnect
  | true =>
      rw [WebSocketClient.connect, if_pos rfl]
      refine ⟨by simp [h.made, hwanted], ?_, fun hd => by simp [hwanted] at hd⟩
      cases h.heartbeat with
      | silent named intervals => exact .silent named intervals
      | beats interval named intervals owned =>
          refine .beats interval named intervals ?_
          exact (List.getElem?_append_left (List.getElem?_eq_some_iff.mp owned).1).trans owned

/-- A socket that opens while no heartbeat runs starts the only one. -/
theorem Inv.opened (h : c.Inv) {socket : Nat} (hsilent : c.heartbeatInterval = none)
    (hstate : c.sockets[socket]? = some .connecting) :
    (onopen socket { c with sockets := c.sockets.set socket .opened }).Inv := by
  have hlength := (List.getElem?_eq_some_iff.mp hstate).1
  refine ⟨h.made, ?_, fun hd => absurd hstate ((h.stopped hd).settled socket)⟩
  cases h.heartbeat with
  | silent named intervals =>
      refine .beats ⟨c.intervalCount + 1, socket⟩ rfl ?_ ?_
      · simp [onopen, startHeartbeat, intervals]
      · exact List.getElem?_set_self hlength
  | beats interval named intervals owned => simp [hsilent] at named

/-- A socket that closes ends the heartbeat, its own or another's. -/
theorem Inv.closed (h : c.Inv) (socket : Nat) :
    (onclose { c with sockets := c.sockets.set socket .closed }).Inv := by
  rw [onclose, h.heartbeat.stop]
  refine Inv.scheduleReconnect ⟨h.made, .silent rfl rfl, fun hd => ?_⟩
  have hstopped := h.stopped hd
  refine ⟨hstopped.timers, hstopped.attempts, fun other hother => ?_⟩
  have hne : socket ≠ other := by
    rintro rfl
    simp [List.getElem?_set] at hother
  exact hstopped.settled other ((List.getElem?_set_ne hne).symm.trans hother)

/-- A socket other than the last goes on connecting. -/
theorem closeWs_connecting (socket : Nat) :
    c.closeWs[socket]? = some .connecting ↔
      c.sockets[socket]? = some .connecting ∧ c.ws ≠ some socket := by
  rw [closeWs]
  cases c.ws with
  | none => simp
  | some last =>
      rw [List.getElem?_modify]
      by_cases hlast : last = socket
      · cases hstate : c.sockets[socket]? with
        | none => simp [hlast]
        | some state => cases state <;> simp [hlast, ReadyState.close]
      · simp [hlast]

theorem Heartbeat.disconnect (h : c.Heartbeat) : c.disconnect = { c with
    sockets := c.closeWs
    reconnectAttempts := maxReconnectAttempts
    heartbeatInterval := none
    intervals := [] } := by
  rw [WebSocketClient.disconnect, h.stop c.closeWs c.isConnected]

/-- The last socket was the only one that could still open. -/
theorem Inv.disconnect (h : c.Inv) (hok : c.Orderly .disconnect) :
    Inv { c.disconnect with disconnected := true } := by
  obtain ⟨htimers, hlast⟩ := hok
  rw [h.heartbeat.disconnect]
  refine ⟨h.made, .silent rfl rfl, fun _ => ⟨htimers, Nat.le_refl _, fun socket hs => ?_⟩⟩
  obtain ⟨hstate, hother⟩ := (closeWs_connecting socket).mp hs
  exact hother (hlast socket hstate)

/-- Once the user wants a connection, any number of timers may be pending. -/
theorem Inv.wanted (h : c.Inv) (timers : Nat) :
    Inv { c with timers := timers, disconnected := false } := by
  refine ⟨h.made, ?_, fun hd => by cases hd⟩
  cases h.heartbeat with
  | silent named intervals => exact .silent named intervals
  | beats interval named intervals owned => exact .beats interval named intervals owned

/-- After `disconnect` no timer is left to expire. -/
theorem Inv.timerExpires (h : c.Inv) (htimers : 0 < c.timers) (made : Bool) :
    (WebSocketClient.connect made { c with timers := c.timers - 1 }).Inv := by
  cases hd : c.disconnected with
  | true =>
      have hnone := (h.stopped hd).timers
      omega
  | false =>
      exact (h.wanted (c.timers - 1)).connect rfl made

theorem Inv.keep {e : Event} (h : c.Inv) (hok : c.Orderly e) (hst : c.step e = some d) : d.Inv := by
  cases e with
  | connect made =>
      cases hst
      exact (h.wanted c.timers).connect rfl made
  | disconnect =>
      cases hst
      exact h.disconnect hok
  | opened socket =>
      obtain ⟨hstate, rfl⟩ := step_opened hst
      exact h.opened hok hstate
  | closed socket =>
      obtain rfl := step_closed hst
      exact h.closed socket
  | error socket =>
      obtain rfl := step_error hst
      exact h
  | timerExpires made =>
      obtain ⟨htimers, rfl⟩ := step_timerExpires hst
      exact h.timerExpires htimers made

/-! ## Disorderly events -/

/-- A timer that was pending at `disconnect` makes a socket. -/
theorem escapes_of_timer (hd : c.disconnected = true) (htimers : 0 < c.timers) :
    Escapes step Orderly LifeCycle c := by
  have hst : c.step (.timerExpires true) =
      some (connect true { c with timers := c.timers - 1 }) :=
    if_neg (Nat.pos_iff_ne_zero.mp htimers)
  refine .next hst trivial (.here fun hlife => ?_)
  have hmade := hlife.made
  simp [connect, hd] at hmade

theorem escapes_of_schedule (hd : c.disconnected = true)
    (hattempts : c.reconnectAttempts < maxReconnectAttempts) :
    Escapes step Orderly LifeCycle c.scheduleReconnect := by
  rw [scheduleReconnect_of_lt hattempts]
  exact escapes_of_timer hd (Nat.succ_pos c.timers)

/-- So does a socket that opens after `disconnect` and closes again. -/
theorem escapes_of_connecting (hd : c.disconnected = true) (hsilent : c.heartbeatInterval = none)
    {socket : Nat} (hstate : c.sockets[socket]? = some .connecting) :
    Escapes step Orderly LifeCycle c := by
  let opened := onopen socket { c with sockets := c.sockets.set socket .opened }
  have hopens : c.step (.opened socket) = some opened := if_pos hstate
  have hopened : opened.sockets[socket]? = some .opened :=
    List.getElem?_set_self (List.getElem?_eq_some_iff.mp hstate).1
  have hcloses : opened.step (.closed socket) =
      some (onclose { opened with sockets := opened.sockets.set socket .closed }) := by
    simp [step, hopened]
  refine .next hopens hsilent (.next hcloses trivial ?_)
  obtain ⟨named, intervals, heq⟩ := stopHeartbeat_frame { opened with
    sockets := opened.sockets.set socket .closed, isConnected := false }
  rw [onclose, heq]
  exact escapes_of_schedule hd (show 0 < maxReconnectAttempts by decide)

theorem Inv.breaks {e : Event} (h : c.Inv) (hok : ¬ c.Orderly e) (hst : c.step e = some d) :
    Escapes step Orderly LifeCycle d := by
  cases e with
  | disconnect =>
      cases hst
      rw [h.heartbeat.disconnect]
      by_cases htimers : c.timers = 0
      · have hopen : ∃ socket, c.sockets[socket]? = some ReadyState.connecting ∧
            c.ws ≠ some socket := by
          simpa [Orderly, htimers] using hok
        obtain ⟨socket, hstate⟩ := hopen
        exact escapes_of_connecting rfl rfl ((closeWs_connecting socket).mpr hstate)
      · exact escapes_of_timer rfl (Nat.pos_of_ne_zero htimers)
  | opened socket =>
      obtain ⟨_, rfl⟩ := step_opened hst
      refine .here fun hlife => ?_
      cases h.heartbeat with
      | silent named intervals => exact hok named
      | beats interval named intervals owned =>
          have hsingle := hlife.single
          simp [onopen, startHeartbeat, intervals] at hsingle
  | connect made => exact absurd trivial hok
  | closed socket => exact absurd trivial hok
  | error socket => exact absurd trivial hok
  | timerExpires made => exact absurd trivial hok

/-- The life cycle is kept in the runs whose events are orderly, and after another
event there is a way on that breaks it. -/
theorem lifeCycle_exact (es : List Event) : Exact step Orderly LifeCycle new es :=
  exact_of (fun _ _ _ h hok hst => h.keep hok hst) (fun _ h => h.lifeCycle)
    (fun _ _ _ h hok hst => h.breaks hok hst) Inv.new es

/-- The timer set when the first socket failed outlives `disconnect`. -/
theorem timer_outlives_disconnect : ¬ ∀ es, StatesMeet step LifeCycle new es := by
  intro h
  have hlife := (h [.connect true, .closed 0, .disconnect, .timerExpires true]).last rfl
  exact absurd hlife.made (by decide)

end WebSocketClient

end PorcelainMonitor.Frontend
