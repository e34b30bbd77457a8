import PorcelainMonitor.Modules.Delivery
import PorcelainMonitor.Profinet.TcpSession

/-!
# `MonitorServer::stop`

A reading goes through the hands of several threads: a handler of the PROFINET
server decodes a frame, calls back, and acknowledges the frame; the callback
pushes a message; the worker of `AlertWsModule` takes it and handles it.  `stop`
ends these threads one after the other, and each of them tests its `running_`
before it looks at its queue.

So a message may be left in the queue of the vibrations when its worker leaves
(`acknowledged_handled_iff`).  A laser frame is never acknowledged, since its
callback ends the process.

A handler of the IO threads may go on until `stop` has joined these, whatever
their number.  Positions count the calls of the callback of one kind.
-/

namespace PorcelainMonitor.Modules

open Profinet

/-! ## Threads -/

/-- A call of the laser or of the vibration callback, by its position. -/
inductive Reading where
  | laser (position : Nat)
  | vibration (position : Nat)
deriving DecidableEq, Repr

/-- A TCP session, or the UDP server, which keeps no bytes. -/
structure Handler (R : Type) where
  cfg : SessionConfig R
  frameBuf : List UInt8
  /-- What the handler that is running has still to do. -/
  pending : List (SessionEvent R)
  /-- The reading that the frame at hand has been. -/
  current : Option Reading

/-- The modules whose thread is `ModuleBase::run_loop`. -/
inductive LoopModule where
  | laserFanout
  | crackRouter
  | crackFanout
  | fatiguePredictor
  | demSimulator
deriving DecidableEq, Repr

/-- Where `run_loop` stands. -/
inductive LoopPc where
  | test
  | round
  | exited
deriving DecidableEq, Repr

/-- Where the worker of `AlertWsModule` stands: before its test of `running_`,
before one of its four calls of `try_pop`, in a handler, or past its loop. -/
inductive AlertWsPc (R : Type) where
  | test
  | laser
  | vibration
  | prediction
  | dem
  | handle (taken : Taken R)
  | exited

/-- What `MonitorServer::stop` does after clearing `g_running`. -/
inductive StopStep where
  | closeAcceptor
  | clear (m : LoopModule)
  | join (m : LoopModule)
  | clearAlertWs
  | joinAlertWs
  | stopAlertManager
  | stopWebSocketServer
  | stopHttpServer
  | stopIoContext
  | joinIoThreads
deriving DecidableEq, Repr

def stopProgram : List StopStep :=
  [.closeAcceptor,
    .clear .laserFanout, .join .laserFanout, .clear .crackRouter, .join .crackRouter,
    .clear .crackFanout, .join .crackFanout, .clear .fatiguePredictor, .join .fatiguePredictor,
    .clear .demSimulator, .join .demSimulator,
    .clearAlertWs, .joinAlertWs, .stopAlertManager, .stopWebSocketServer,
    .stopHttpServer, .stopIoContext, .joinIoThreads]

/-! ## The running server -/

/-- What the server takes from outside. -/
structure Site (R : Type) extends Env R where
  lib : Decoding R
  uninit : List UInt8 → Uninit

structure ServerRun (R : Type) where
  /-- Messages count as received once the worker has taken them. -/
  pipeline : Pipeline R
  sessions : List (Handler R)
  udp : Handler R
  running : LoopModule → Bool
  loop : LoopModule → LoopPc
  alertWsRunning : Bool
  alertWs : AlertWsPc R
  /-- What is left of `stop`; `none` before it is called. -/
  stop : Option (List StopStep)
  laserCalls : List (ParsedLaserMessage R)
  vibrationCalls : List (ParsedVibrationMessage R)
  /-- The readings acknowledged before `stop` was called. -/
  acknowledged : List Reading
  /-- The messages whose handler has come to its end. -/
  handled : Received R

inductive ServerEvent (R : Type) where
  | accept (remoteIp localIp : String)
  | read (i : Nat) (bytes : List UInt8)
  | datagram (remoteIp : String) (bytes : List UInt8)
  /-- The handler of a session goes on. -/
  | session (i : Nat)
  | udp
  | loop (m : LoopModule) (outcomes : Nat → DemOutcome R)
  | alertWs
  | callStop
  | stop

def Received.add {R : Type} (r : Received R) : Taken R → Received R
  | .laser msg => { r with laser := r.laser ++ [msg] }
  | .vibration msg => { r with vibration := r.vibration ++ [msg] }
  | .prediction msg => { r with predictions := r.predictions ++ [msg] }
  | .dem msg => { r with dems := r.dems ++ [msg] }
  | .nothing => r

/-- A round of `run_loop` with `running_` set. -/
def LoopModule.event {R : Type} (outcomes : Nat → DemOutcome R) : LoopModule → Event R
  | .laserFanout => .laserFanOut
  | .crackRouter => .crackRouter
  | .crackFanout => .crackFanOut
  | .fatiguePredictor => .fatiguePredictor
  | .demSimulator => .demSimulator outcomes

namespace ServerRun

variable {R : Type}

/-- The session made for a connection, or the UDP server: `start` of the parser
module has set both callbacks. -/
def newHandler (site : Site R) (remoteIp localIp : String) : Handler R where
  cfg := ⟨site.lib, site.uninit, remoteIp, localIp, true, true⟩
  frameBuf := []
  pending := []
  current := none

/-- `stop` has not got to these steps yet. -/
def remaining (s : ServerRun R) : List StopStep := s.stop.getD stopProgram

variable [Field R] [LinearOrder R]

/-- The server after `start`. -/
def start (site : Site R) (unset : RepairMaterial R) (localIp : String) : ServerRun R where
  pipeline := .start unset [] []
  sessions := []
  udp := newHandler site "" localIp
  running := fun _ => true
  loop := fun _ => .test
  alertWsRunning := true
  alertWs := .test
  stop := none
  laserCalls := []
  vibrationCalls := []
  acknowledged := []
  handled := ⟨[], [], [], []⟩

/-! ## Handlers of the PROFINET server -/

/-- The next thing that a handler does. -/
def perform (site : Site R) (s : ServerRun R) (h : Handler R) :
    Option (ServerRun R × Handler R) :=
  match h.pending with
  | [] => none
  | .handed _ :: rest => some (s, { h with pending := rest, current := none })
  | .laser packet data :: rest =>
      (Pipeline.step site.toEnv { s.pipeline with laserPending := [⟨packet, data⟩] }
        .laserCallback).map fun p =>
          ({ s with pipeline := p, laserCalls := s.laserCalls ++ [⟨packet, data⟩] },
            { h with pending := rest, current := some (.laser s.laserCalls.length) })
  | .vibration packet data :: rest =>
      (Pipeline.step site.toEnv { s.pipeline with vibrationPending := [⟨packet, data⟩] }
        .vibrationCallback).map fun p =>
          ({ s with pipeline := p, vibrationCalls := s.vibrationCalls ++ [⟨packet, data⟩] },
            { h with pending := rest, current := some (.vibration s.vibrationCalls.length) })
  | .acknowledge _ :: rest =>
      some ({ s with
        acknowledged := s.acknowledged ++ if s.stop.isNone then h.current.toList else [] },
        { h with pending := rest, current := none })
  | .discarded _ :: rest => some (s, { h with pending := rest, current := none })

/-! ## The worker of `AlertWsModule` -/

/-- `try_pop` on one of the inputs, and the next position if that is empty. -/
def tryTake {t : Topic} (s : ServerRun R) (input : SharedQueue t) (taken : Msg R t → Taken R)
    (next : AlertWsPc R) : ServerRun R :=
  match s.pipeline.queues.tryPop input with
  | none => { s with alertWs := next }
  | some (msg, qs) => { s with
      pipeline.queues := qs
      pipeline.received := s.pipeline.received.add (taken msg)
      alertWs := .handle (taken msg) }

def alertWsStep (s : ServerRun R) : Option (ServerRun R) :=
  match s.alertWs with
  | .test => some { s with alertWs := if s.alertWsRunning then .laser else .exited }
  | .laser => some (s.tryTake s.pipeline.server.alertWs.laserIn .laser .vibration)
  | .vibration => some (s.tryTake s.pipeline.server.alertWs.vibrationIn .vibration .prediction)
  | .prediction => some (s.tryTake s.pipeline.server.alertWs.predictionIn .prediction .dem)
  | .dem => some (s.tryTake s.pipeline.server.alertWs.demIn .dem .test)
  | .handle taken => some { s with handled := s.handled.add taken, alertWs := .test }
  | .exited => none

/-! ## `run_loop` and `stop` -/

def loopStep (site : Site R) (s : ServerRun R) (m : LoopModule) (outcomes : Nat → DemOutcome R) :
    Option (ServerRun R) :=
  match s.loop m with
  | .test => some { s with
      loop := Function.update s.loop m (if s.running m then .round else .exited) }
  | .round => (Pipeline.step site.toEnv s.pipeline (m.event outcomes)).map fun p =>
      { s with pipeline := p, loop := Function.update s.loop m .test }
  | .exited => none

/-- No handler is running. -/
def handlersDone (s : ServerRun R) : Bool :=
  s.udp.pending.isEmpty && s.sessions.all fun h => h.pending.isEmpty

def stopStep (s : ServerRun R) : Option (ServerRun R) :=
  match s.stop with
  | none => none
  | some [] => none
  | some (.clear m :: rest) =>
      some { s with running := Function.update s.running m false, stop := some rest }
  | some (.join m :: rest) =>
      if s.loop m = .exited then some { s with stop := some rest } else none
  | some (.clearAlertWs :: rest) => some { s with alertWsRunning := false, stop := some rest }
  | some (.joinAlertWs :: rest) =>
      match s.alertWs with
      | .exited => some { s with stop := some rest }
      | _ => none
  | some (.joinIoThreads :: rest) =>
      if s.handlersDone then some { s with stop := some rest } else none
  | some (.closeAcceptor :: rest) => some { s with stop := some rest }
  | some (.stopAlertManager :: rest) => some { s with stop := some rest }
  | some (.stopWebSocketServer :: rest) => some { s with stop := some rest }
  | some (.stopHttpServer :: rest) => some { s with stop := some rest }
  | some (.stopIoContext :: rest) => some { s with stop := some rest }

/-- After `ioc_.stop()` no further handler is called. -/
def step (site : Site R) (s : ServerRun R) (e : ServerEvent R) : Option (ServerRun R) :=
  if s.pipeline.crashed then none
  else match e with
    | .accept remoteIp localIp =>
        -- The handler of an accept may run after the acceptor has been closed.
        if .stopIoContext ∈ s.remaining then
          some { s with sessions := s.sessions ++ [newHandler site remoteIp localIp] }
        else none
    | .read i bytes =>
        match s.sessions[i]? with
        | none => none
        | some h =>
            if .stopIoContext ∈ s.remaining ∧ h.pending.isEmpty ∧ 0 < bytes.length ∧
                bytes.length ≤ 8192 then
              let t := doRead h.cfg { frameBuf := h.frameBuf } bytes
              some { s with
                sessions := s.sessions.set i { h with frameBuf := t.frameBuf, pending := t.log } }
            else none
    | .datagram remoteIp bytes =>
        if .stopIoContext ∈ s.remaining ∧ s.udp.pending.isEmpty ∧ 0 < bytes.length then
          some { s with
            udp.pending := handleFrame { s.udp.cfg with remoteIp := remoteIp } bytes }
        else none
    | .session i =>
        match s.sessions[i]? with
        | none => none
        | some h => (s.perform site h).map fun (t, h) => { t with sessions := t.sessions.set i h }
    | .udp => (s.perform site s.udp).map fun (t, h) => { t with udp := h }
    | .loop m outcomes => s.loopStep site m outcomes
    | .alertWs => s.alertWsStep
    | .callStop => if s.stop.isNone then some { s with stop := some stopProgram } else none
    | .stop => s.stopStep

/-! ## What is to survive -/

/-- The message of a call of a callback has gone through its handler. -/
def Handled (s : ServerRun R) : Reading → Prop
  | .laser p => ∃ msg, s.laserCalls[p]? = some msg ∧ s.handled.laser[p]? = some msg
  | .vibration p => ∃ msg, s.vibrationCalls[p]? = some msg ∧ s.handled.vibration[p]? = some msg

/-- Every reading acknowledged before `stop` was called has been handled. -/
def Survives (s : ServerRun R) : Prop := ∀ r ∈ s.acknowledged, s.Handled r

/-- So many vibration messages have been taken, or will be before the worker
comes to its next test, if there are so many. -/
def withinReach (s : ServerRun R) : Nat :=
  match s.alertWs with
  | .laser => s.pipeline.received.vibration.length + 1
  | .vibration => s.pipeline.received.vibration.length + 1
  | _ => s.pipeline.received.vibration.length

/-- When `stop` clears the flag of `AlertWsModule`, the vibrations acknowledged
before `stop` was called have been taken from their queue, but for one that the
worker is about to take. -/
def ClearOk (s : ServerRun R) (e : ServerEvent R) : Prop :=
  e = .stop → s.remaining.head? = some .clearAlertWs →
    ∀ p, .vibration p ∈ s.acknowledged → p < s.withinReach

/-! ## What every step keeps -/

/-- The queue between the parser and `AlertWsModule`, which `wire_pipeline` makes
last. -/
abbrev vibrationQ : Nat := 12

omit [Field R] [LinearOrder R] in
/-- The vibration messages in that queue. -/
def waiting (s : ServerRun R) : List (ParsedVibrationMessage R) :=
  s.pipeline.queues .vibration vibrationQ

/-- The vibration message that is in its handler. -/
def inHandler : AlertWsPc R → List (ParsedVibrationMessage R)
  | .handle (.vibration msg) => [msg]
  | _ => []

/-- The callback behind a reading has been called.  That for a laser frame ends
the process. -/
def Called (s : ServerRun R) : Reading → Prop
  | .laser _ => s.pipeline.crashed = true
  | .vibration p => p < s.vibrationCalls.length

structure RunInv (unset : RepairMaterial R) (s : ServerRun R) : Prop where
  server : s.pipeline.server = .init unset
  queues : s.pipeline.queues.OnlyVibration
  fifo : s.pipeline.received.vibration ++ s.waiting = s.vibrationCalls
  handled : s.handled.vibration ++ inHandler s.alertWs = s.pipeline.received.vibration
  udp : ∀ r ∈ s.udp.current, s.Called r
  sessions : ∀ h ∈ s.sessions, ∀ r ∈ h.current, s.Called r
  acknowledged : ∀ r ∈ s.acknowledged, ∃ p, r = .vibration p ∧ p < s.vibrationCalls.length
  suffix : s.remaining <:+ stopProgram
  running : s.alertWsRunning = true ↔ .clearAlertWs ∈ s.remaining
  exited : s.alertWs = .exited → s.alertWsRunning = false
  joined : .joinAlertWs ∉ s.remaining → s.alertWs = .exited

/-- What a step does that leaves the worker of `AlertWsModule` alone. -/
structure Aside (s t : ServerRun R) : Prop where
  alertWs : t.alertWs = s.alertWs
  received : t.pipeline.received = s.pipeline.received
  running : t.alertWsRunning = s.alertWsRunning
  acknowledged : s.stop ≠ none → t.acknowledged = s.acknowledged

section Keeps

variable {site : Site R} {unset : RepairMaterial R} {s t : ServerRun R} {e : ServerEvent R}
  {h h' : Handler R}

omit [LinearOrder R] in
theorem RunInv.start (site : Site R) (unset : RepairMaterial R) (localIp : String) :
    RunInv unset (.start site unset localIp) where
  server := rfl
  queues := fun _ _ _ => rfl
  fifo := rfl
  handled := rfl
  udp := fun r hr => by cases hr
  sessions := fun h hh => by cases hh
  acknowledged := fun r hr => by cases hr
  suffix := List.suffix_rfl
  running := ⟨fun _ => show StopStep.clearAlertWs ∈ stopProgram by decide, fun _ => rfl⟩
  exited := fun hpc => by cases hpc
  joined := fun hj => absurd (show StopStep.joinAlertWs ∈ stopProgram by decide) hj

/-! ### Handlers -/

omit [Field R] [LinearOrder R] in
/-- What was called stays called. -/
theorem Called.mono {r : Reading} (hr : s.Called r)
    (hcrashed : s.pipeline.crashed = true → t.pipeline.crashed = true)
    (hcalls : s.vibrationCalls.length ≤ t.vibrationCalls.length) : t.Called r := by
  cases r with
  | laser p => exact hcrashed hr
  | vibration p => exact Nat.lt_of_lt_of_le hr hcalls

omit [LinearOrder R] in
theorem RunInv.setSessions (hi : RunInv unset s) {sessions : List (Handler R)}
    (hsessions : ∀ h ∈ sessions, ∀ r ∈ h.current, s.Called r) :
    RunInv unset { s with sessions := sessions } :=
  ⟨hi.server, hi.queues, hi.fifo, hi.handled, hi.udp, hsessions, hi.acknowledged, hi.suffix,
    hi.running, hi.exited, hi.joined⟩

omit [LinearOrder R] in
theorem RunInv.setSession (hi : RunInv unset s) (i : Nat) (hcurrent : ∀ r ∈ h.current, s.Called r) :
    RunInv unset { s with sessions := s.sessions.set i h } :=
  hi.setSessions fun g hg r hr => by
    rcases List.mem_or_eq_of_mem_set hg with hg | rfl
    · exact hi.sessions g hg r hr
    · exact hcurrent r hr

omit [LinearOrder R] in
theorem RunInv.setUdp (hi : RunInv unset s) {udp : Handler R}
    (hudp : ∀ r ∈ udp.current, s.Called r) : RunInv unset { s with udp := udp } :=
  ⟨hi.server, hi.queues, hi.fifo, hi.handled, hudp, hi.sessions, hi.acknowledged, hi.suffix,
    hi.running, hi.exited, hi.joined⟩

/-- The laser callback of the wired server dereferences a null pointer. -/
theorem RunInv.laserCallback (hi : RunInv unset s) (hc : s.pipeline.crashed = false)
    (msg : ParsedLaserMessage R) :
    Pipeline.step site.toEnv { s.pipeline with laserPending := [msg] } .laserCallback =
      some { s.pipeline with laserPending := [], crashed := true } := by
  simp only [Pipeline.step, hc, hi.server]
  rfl

/-- The vibration callback of the wired server pushes to the queue. -/
theorem RunInv.vibrationCallback (hi : RunInv unset s) (hc : s.pipeline.crashed = false)
    (msg : ParsedVibrationMessage R) :
    Pipeline.step site.toEnv { s.pipeline with vibrationPending := [msg] } .vibrationCallback =
      some { s.pipeline with
        vibrationPending := []
        queues := s.pipeline.queues.push vibrationQ (show Msg R .vibration from msg) } := by
  simp only [Pipeline.step, hc, hi.server]
  rfl

omit [LinearOrder R] in
/-- The laser callback has ended the process. -/
theorem RunInv.callLaser (hi : RunInv unset s) (msg : ParsedLaserMessage R) :
    RunInv unset { s with
      pipeline := { s.pipeline with laserPending := [], crashed := true }
      laserCalls := s.laserCalls ++ [msg] } := by
  have hmono : ∀ r, s.Called r → Called { s with
      pipeline := { s.pipeline with laserPending := [], crashed := true }
      laserCalls := s.laserCalls ++ [msg] } r :=
    fun r hr => hr.mono (fun _ => rfl) (Nat.le_refl _)
  exact ⟨hi.server, hi.queues, hi.fifo, hi.handled, fun r hr => hmono r (hi.udp r hr),
    fun g hg r hr => hmono r (hi.sessions g hg r hr), hi.acknowledged, hi.suffix, hi.running,
    hi.exited, hi.joined⟩

omit [LinearOrder R] in
/-- The vibration callback has pushed its message. -/
theorem RunInv.callVibration (hi : RunInv unset s) (msg : ParsedVibrationMessage R) :
    RunInv unset { s with
      pipeline := { s.pipeline with
        vibrationPending := []
        queues := s.pipeline.queues.push vibrationQ (show Msg R .vibration from msg) }
      vibrationCalls := s.vibrationCalls ++ [msg] } := by
  have hlength : s.vibrationCalls.length ≤ (s.vibrationCalls ++ [msg]).length := by
    rw [List.length_append]
    exact Nat.le_add_right _ _
  have hmono : ∀ r, s.Called r → Called { s with
      pipeline := { s.pipeline with
        vibrationPending := []
        queues := s.pipeline.queues.push vibrationQ (show Msg R .vibration from msg) }
      vibrationCalls := s.vibrationCalls ++ [msg] } r :=
    fun r hr => hr.mono id hlength
  refine ⟨hi.server, hi.queues.update _, ?_, hi.handled, fun r hr => hmono r (hi.udp r hr),
    fun g hg r hr => hmono r (hi.sessions g hg r hr), ?_, hi.suffix, hi.running, hi.exited,
    hi.joined⟩
  · rw [← hi.fifo, List.append_assoc]
    simp only [waiting, Queues.push, Function.update_self]
    rfl
  · intro r hr
    obtain ⟨p, rfl, hlt⟩ := hi.acknowledged r hr
    exact ⟨p, rfl, Nat.lt_of_lt_of_le hlt hlength⟩

omit [LinearOrder R] in
/-- An acknowledged reading is one for vibrations: the callback for a laser frame
would have ended the process. -/
theorem RunInv.acknowledge (hi : RunInv unset s) (hc : s.pipeline.crashed = false)
    {current : List Reading} (hcurrent : ∀ r ∈ current, s.Called r) :
    RunInv unset { s with acknowledged := s.acknowledged ++ current } := by
  refine ⟨hi.server, hi.queues, hi.fifo, hi.handled, hi.udp, hi.sessions, fun r hr => ?_,
    hi.suffix, hi.running, hi.exited, hi.joined⟩
  rcases List.mem_append.mp hr with hr | hr
  · exact hi.acknowledged r hr
  · have hcalled := hcurrent r hr
    cases r with
    | laser p => exact absurd (hc.symm.trans hcalled) (by simp)
    | vibration p => exact ⟨p, rfl, hcalled⟩

theorem RunInv.perform (hi : RunInv unset s) (hc : s.pipeline.crashed = false)
    (hcurrent : ∀ r ∈ h.current, s.Called r) (hp : s.perform site h = some (t, h')) :
    RunInv unset t ∧ (∀ r ∈ h'.current, t.Called r) ∧ Aside s t := by
  rw [ServerRun.perform] at hp
  split at hp
  · cases hp
  · cases hp
    exact ⟨hi, fun r hr => (by cases hr), rfl, rfl, rfl, fun _ => rfl⟩
  · next packet data rest _ =>
      rw [hi.laserCallback hc] at hp
      cases hp
      refine ⟨hi.callLaser _, fun r hr => ?_, rfl, rfl, rfl, fun _ => rfl⟩
      cases hr
      rfl
  · next packet data rest _ =>
      rw [hi.vibrationCallback hc] at hp
      cases hp
      refine ⟨hi.callVibration _, fun r hr => ?_, rfl, rfl, rfl, fun _ => rfl⟩
      cases hr
      simp [Called]
  · cases hp
    refine ⟨hi.acknowledge hc fun r hr => ?_, fun r hr => (by cases hr), rfl, rfl, rfl, ?_⟩
    · split at hr
      · exact hcurrent r (Option.mem_toList.mp hr)
      · cases hr
    · intro hstop
      simp [Option.isNone_iff_eq_none.not.mpr hstop]
  · cases hp
    exact ⟨hi, fun r hr => (by cases hr), rfl, rfl, rfl, fun _ => rfl⟩

/-! ### The worker -/

/-- What the worker of `AlertWsModule` does in the wired server. -/
inductive WorkerTurn (s : ServerRun R) : ServerRun R → Prop where
  | test (hpc : s.alertWs = .test) :
      WorkerTurn s { s with alertWs := if s.alertWsRunning then .laser else .exited }
  /-- An input that is not the one for vibrations is empty. -/
  | skip {next : AlertWsPc R}
      (hpc : s.alertWs = .laser ∧ next = .vibration ∨ s.alertWs = .prediction ∧ next = .dem ∨
        s.alertWs = .dem ∧ next = .test) : WorkerTurn s { s with alertWs := next }
  | none (hpc : s.alertWs = .vibration) (hwaiting : s.waiting = []) :
      WorkerTurn s { s with alertWs := .prediction }
  | take {msg : ParsedVibrationMessage R} {rest : List (ParsedVibrationMessage R)}
      (hpc : s.alertWs = .vibration) (hwaiting : s.waiting = msg :: rest) :
      WorkerTurn s { s with
        pipeline.queues := Function.update s.pipeline.queues .vibration
          (Function.update (s.pipeline.queues .vibration) vibrationQ rest)
        pipeline.received := s.pipeline.received.add (.vibration msg)
        alertWs := .handle (.vibration msg) }
  | handled {taken : Taken R} (hpc : s.alertWs = .handle taken) :
      WorkerTurn s { s with handled := s.handled.add taken, alertWs := .test }

omit [LinearOrder R] in
/-- The other inputs are empty in the wired server. -/
theorem RunInv.tryTake_next (hi : RunInv unset s) {q : Topic} (hq : q ≠ .vibration)
    (input : SharedQueue q) (taken : Msg R q → Taken R) (next : AlertWsPc R) :
    s.tryTake input taken next = { s with alertWs := next } := by
  rw [tryTake, hi.queues.tryPop hq]

omit [LinearOrder R] in
theorem RunInv.workerTurn (hi : RunInv unset s) (hst : s.alertWsStep = some t) :
    WorkerTurn s t := by
  rw [alertWsStep] at hst
  cases hpc : s.alertWs with
  | test =>
      simp only [hpc] at hst
      cases hst
      exact .test hpc
  | laser =>
      have hnext : s.tryTake s.pipeline.server.alertWs.laserIn .laser .vibration =
          { s with alertWs := .vibration } := hi.tryTake_next (by decide) _ _ _
      simp only [hpc] at hst
      cases hst
      rw [hnext]
      exact .skip (.inl ⟨hpc, rfl⟩)
  | vibration =>
      have hin : s.pipeline.server.alertWs.vibrationIn = some vibrationQ := by
        rw [hi.server]
        rfl
      simp only [hpc, hin, tryTake, Queues.tryPop] at hst
      cases hw : s.pipeline.queues .vibration vibrationQ with
      | nil =>
          simp only [hw] at hst
          cases hst
          exact .none hpc hw
      | cons msg rest =>
          simp only [hw] at hst
          cases hst
          exact .take hpc hw
  | prediction =>
      have hnext : s.tryTake s.pipeline.server.alertWs.predictionIn .prediction .dem =
          { s with alertWs := .dem } := hi.tryTake_next (by decide) _ _ _
      simp only [hpc] at hst
      cases hst
      rw [hnext]
      exact .skip (.inr (.inl ⟨hpc, rfl⟩))
  | dem =>
      have hnext : s.tryTake s.pipeline.server.alertWs.demIn .dem .test =
          { s with alertWs := .test } := hi.tryTake_next (by decide) _ _ _
      simp only [hpc] at hst
      cases hst
      rw [hnext]
      exact .skip (.inr (.inr ⟨hpc, rfl⟩))
  | handle taken =>
      simp only [hpc] at hst
      cases hst
      exact .handled hpc
  | exited => simp [hpc] at hst

omit [LinearOrder R] in
/-- The worker moves on without a message. -/
theorem RunInv.setAlertWs (hi : RunInv unset s) {pc : AlertWsPc R}
    (hin : inHandler pc = inHandler s.alertWs) (hs : s.alertWs ≠ .exited)
    (hexited : pc = .exited → s.alertWsRunning = false) :
    RunInv unset { s with alertWs := pc } :=
  ⟨hi.server, hi.queues, hi.fifo, by rw [hin]; exact hi.handled, hi.udp, hi.sessions,
    hi.acknowledged, hi.suffix, hi.running, hexited, fun hj => absurd (hi.joined hj) hs⟩

omit [LinearOrder R] in
theorem RunInv.worker (hi : RunInv unset s) (hst : s.alertWsStep = some t) : RunInv unset t := by
  cases hi.workerTurn hst with
  | test hpc =>
      refine hi.setAlertWs ?_ (by simp [hpc]) ?_
      · rw [hpc]
        split <;> rfl
      · cases s.alertWsRunning with
        | false => exact fun _ => rfl
        | true => simp
  | skip hpc =>
      rcases hpc with ⟨hpc, rfl⟩ | ⟨hpc, rfl⟩ | ⟨hpc, rfl⟩
      · exact hi.setAlertWs (by rw [hpc]; rfl) (by simp [hpc]) (by simp)
      · exact hi.setAlertWs (by rw [hpc]; rfl) (by simp [hpc]) (by simp)
      · exact hi.setAlertWs (by rw [hpc]; rfl) (by simp [hpc]) (by simp)
  | none hpc _ => exact hi.setAlertWs (by rw [hpc]; rfl) (by simp [hpc]) (by simp)
  | @take msg rest hpc hwaiting =>
      refine ⟨hi.server, hi.queues.update _, ?_, ?_, hi.udp, hi.sessions, hi.acknowledged,
        hi.suffix, hi.running, fun hx => (by cases hx), fun hj => ?_⟩
      · rw [← hi.fifo, hwaiting]
        have hrest : Function.update (s.pipeline.queues .vibration) vibrationQ rest vibrationQ =
            rest := Function.update_self _ _ _
        simp only [waiting, Received.add, Function.update_self]
        exact (congrArg (s.pipeline.received.vibration ++ [msg] ++ ·) hrest).trans
          (List.append_assoc _ _ _)
      · have hhandled := hi.handled
        rw [hpc, inHandler, List.append_nil] at hhandled
        · rw [hhandled]
          rfl
        · simp
      · exact absurd (hi.joined hj) (by simp [hpc])
  | @handled taken hpc =>
      have hhandled := hi.handled
      rw [hpc] at hhandled
      refine ⟨hi.server, hi.queues, hi.fifo, ?_, hi.udp, hi.sessions, hi.acknowledged,
        hi.suffix, hi.running, fun hx => (by cases hx), fun hj => ?_⟩
      · rw [← hhandled]
        cases taken with
        | vibration msg => exact List.append_nil _
        | laser msg => rfl
        | prediction msg => rfl
        | dem msg => rfl
        | nothing => rfl
      · exact absurd (hi.joined hj) (by simp [hpc])

/-! ### The other modules, and `stop` -/

/-- Their inputs are empty in the wired server. -/
theorem RunInv.round_idle (hi : RunInv unset s) (hc : s.pipeline.crashed = false)
    (m : LoopModule) (outcomes : Nat → DemOutcome R) :
    Pipeline.step site.toEnv s.pipeline (m.event outcomes) = some s.pipeline := by
  refine Pipeline.step_onlyVibration hi.queues hc ?_ ?_ ?_
  all_goals cases m <;> simp [LoopModule.event]

omit [LinearOrder R] in
theorem RunInv.setLoop (hi : RunInv unset s) (loop : LoopModule → LoopPc) :
    RunInv unset { s with loop := loop } :=
  ⟨hi.server, hi.queues, hi.fifo, hi.handled, hi.udp, hi.sessions, hi.acknowledged, hi.suffix,
    hi.running, hi.exited, hi.joined⟩

theorem RunInv.loop (hi : RunInv unset s) (hc : s.pipeline.crashed = false) {m : LoopModule}
    {outcomes : Nat → DemOutcome R} (hst : s.loopStep site m outcomes = some t) :
    RunInv unset t ∧ Aside s t := by
  rw [loopStep] at hst
  split at hst
  · cases hst
    exact ⟨hi.setLoop _, rfl, rfl, rfl, fun _ => rfl⟩
  · rw [hi.round_idle hc] at hst
    cases hst
    exact ⟨hi.setLoop _, rfl, rfl, rfl, fun _ => rfl⟩
  · cases hst

/-- What a step of `stop` does. -/
inductive StopMove (s : ServerRun R) : ServerRun R → Prop where
  | clearAlertWs {rest : List StopStep} (hstop : s.stop = some (.clearAlertWs :: rest)) :
      StopMove s { s with alertWsRunning := false, stop := some rest }
  | other {a : StopStep} {rest : List StopStep} (running : LoopModule → Bool)
      (hstop : s.stop = some (a :: rest)) (ha : a ≠ .clearAlertWs)
      (hjoin : a = .joinAlertWs → s.alertWs = .exited) :
      StopMove s { s with running := running, stop := some rest }

omit [Field R] [LinearOrder R] in
theorem stopMove (hst : s.stopStep = some t) : StopMove s t := by
  rw [stopStep] at hst
  split at hst
  · cases hst
  · cases hst
  · next hstop =>
      cases hst
      exact .other _ hstop (by simp) (by simp)
  · next hstop =>
      split at hst
      · cases hst
        exact .other _ hstop (by simp) (by simp)
      · cases hst
  · next hstop =>
      cases hst
      exact .clearAlertWs hstop
  · next hstop =>
      split at hst
      · next hexited =>
          cases hst
          exact .other _ hstop (by simp) fun _ => hexited
      · cases hst
  · next hstop =>
      split at hst
      · cases hst
        exact .other _ hstop (by simp) (by simp)
      · cases hst
  all_goals
    next hstop =>
      cases hst
      exact .other _ hstop (by simp) (by simp)

omit [LinearOrder R] in
theorem RunInv.stop (hi : RunInv unset s) (hst : StopMove s t) : RunInv unset t := by
  have hnodup : stopProgram.Nodup := by decide
  cases hst with
  | @clearAlertWs rest hstop =>
      have hremaining : s.remaining = .clearAlertWs :: rest := by rw [remaining, hstop]; rfl
      have hsuffix := hi.suffix
      have hjoined := hi.joined
      rw [hremaining] at hsuffix hjoined
      have hnot := (List.nodup_cons.mp (hnodup.sublist hsuffix.sublist)).1
      refine ⟨hi.server, hi.queues, hi.fifo, hi.handled, hi.udp, hi.sessions, hi.acknowledged,
        (List.suffix_cons _ _).trans hsuffix, ⟨fun hr => (by cases hr), fun hm => absurd hm hnot⟩,
        fun _ => rfl, fun hj => hjoined ?_⟩
      exact List.not_mem_cons_of_ne_of_not_mem (by simp) hj
  | @other a rest running hstop ha hjoin =>
      have hremaining : s.remaining = a :: rest := by rw [remaining, hstop]; rfl
      have hsuffix := hi.suffix
      have hjoined := hi.joined
      have hrunning := hi.running
      rw [hremaining] at hsuffix hjoined hrunning
      refine ⟨hi.server, hi.queues, hi.fifo, hi.handled, hi.udp, hi.sessions, hi.acknowledged,
        (List.suffix_cons _ _).trans hsuffix, hrunning.trans ?_, hi.exited, fun hj => ?_⟩
      · exact List.mem_cons.trans (or_iff_right ha.symm)
      · by_cases h : a = .joinAlertWs
        · exact hjoin h
        · exact hjoined (List.not_mem_cons_of_ne_of_not_mem (Ne.symm h) hj)

/-! ### Any step -/

/-- A step keeps the invariant.  It leaves the worker alone, or it is one of the
worker, or it clears the flag of `AlertWsModule`. -/
theorem RunInv.step (hi : RunInv unset s) (hst : ServerRun.step site s e = some t) :
    RunInv unset t ∧ (Aside s t ∨ WorkerTurn s t ∨
      e = .stop ∧ ∃ rest, s.stop = some (.clearAlertWs :: rest) ∧
        t = { s with alertWsRunning := false, stop := some rest }) := by
  unfold ServerRun.step at hst
  split at hst
  · cases hst
  · next hcrashed =>
      have hc : s.pipeline.crashed = false := by simpa using hcrashed
      cases e with
      | accept remoteIp localIp =>
          simp only at hst
          split at hst
          · cases hst
            refine ⟨hi.setSessions fun g hg r hr => ?_, .inl ⟨rfl, rfl, rfl, fun _ => rfl⟩⟩
            rcases List.mem_append.mp hg with hg | hg
            · exact hi.sessions g hg r hr
            · cases List.mem_singleton.mp hg
              cases hr
          · cases hst
      | read i bytes =>
          cases hget : s.sessions[i]? with
          | none => simp [hget] at hst
          | some g =>
              simp only [hget] at hst
              split at hst
              · cases hst
                exact ⟨hi.setSession i (hi.sessions g (List.mem_of_getElem? hget)),
                  .inl ⟨rfl, rfl, rfl, fun _ => rfl⟩⟩
              · cases hst
      | datagram remoteIp bytes =>
          simp only at hst
          split at hst
          · cases hst
            exact ⟨hi.setUdp hi.udp, .inl ⟨rfl, rfl, rfl, fun _ => rfl⟩⟩
          · cases hst
      | session i =>
          cases hget : s.sessions[i]? with
          | none => simp [hget] at hst
          | some g =>
              simp only [hget] at hst
              obtain ⟨⟨u, g'⟩, hp, ht⟩ := Option.map_eq_some_iff.mp hst
              obtain ⟨hu, hcurrent, haside⟩ :=
                hi.perform hc (hi.sessions g (List.mem_of_getElem? hget)) hp
              subst ht
              exact ⟨hu.setSession i hcurrent, .inl ⟨haside.1, haside.2, haside.3, haside.4⟩⟩
      | udp =>
          obtain ⟨⟨u, g'⟩, hp, ht⟩ := Option.map_eq_some_iff.mp hst
          obtain ⟨hu, hcurrent, haside⟩ := hi.perform hc hi.udp hp
          subst ht
          exact ⟨hu.setUdp hcurrent, .inl ⟨haside.1, haside.2, haside.3, haside.4⟩⟩
      | loop m outcomes =>
          obtain ⟨ht, haside⟩ := hi.loop hc hst
          exact ⟨ht, .inl haside⟩
      | alertWs => exact ⟨hi.worker hst, .inr (.inl (hi.workerTurn hst))⟩
      | callStop =>
          simp only at hst
          split at hst
          · next hnone =>
              cases hst
              have hremaining : s.remaining = stopProgram := by
                rw [remaining, Option.isNone_iff_eq_none.mp hnone]
                rfl
              have hrunning := hi.running
              have hjoined := hi.joined
              rw [hremaining] at hrunning hjoined
              refine ⟨⟨hi.server, hi.queues, hi.fifo, hi.handled, hi.udp, hi.sessions,
                hi.acknowledged, List.suffix_rfl, hrunning, hi.exited, hjoined⟩, .inl ?_⟩
              exact ⟨rfl, rfl, rfl, fun _ => rfl⟩
          · cases hst
      | stop =>
          have hmove := stopMove hst
          refine ⟨hi.stop hmove, ?_⟩
          cases hmove with
          | clearAlertWs hstop => exact .inr (.inr ⟨rfl, _, hstop, rfl⟩)
          | other running hstop ha hjoin => exact .inl ⟨rfl, rfl, rfl, fun _ => rfl⟩

end Keeps

/-! ## What is left in the queue -/

/-- The acknowledged vibrations have been taken, or will be before the worker
comes to its next test. -/
def Covered (s : ServerRun R) : Prop := ∀ p, .vibration p ∈ s.acknowledged → p < s.withinReach

section Runs

variable {site : Site R} {unset : RepairMaterial R} {s t : ServerRun R} {e : ServerEvent R}

omit [LinearOrder R] in
/-- The flag is clear only after `stop` was called. -/
theorem RunInv.stop_called (hi : RunInv unset s) (hr : s.alertWsRunning = false) :
    s.stop ≠ none := by
  intro hstop
  have hmem : .clearAlertWs ∈ s.remaining := by
    rw [remaining, hstop]
    exact show StopStep.clearAlertWs ∈ stopProgram by decide
  rw [hi.running.mpr hmem] at hr
  cases hr

omit [LinearOrder R] in
/-- With the flag clear, a step of the worker brings no acknowledged message
within reach, and takes what is within reach. -/
theorem RunInv.covered_worker (hi : RunInv unset s) (hr : s.alertWsRunning = false)
    (hst : WorkerTurn s t) : Covered t ↔ Covered s := by
  have hcalls : s.waiting = [] → ∀ p, .vibration p ∈ s.acknowledged →
      p < s.pipeline.received.vibration.length := by
    intro hwaiting p hp
    obtain ⟨q, hq, hlt⟩ := hi.acknowledged _ hp
    cases hq
    rwa [← hi.fifo, hwaiting, List.append_nil] at hlt
  cases hst with
  | test hpc => simp [Covered, withinReach, hpc, hr]
  | skip hpc =>
      rcases hpc with ⟨hpc, rfl⟩ | ⟨hpc, rfl⟩ | ⟨hpc, rfl⟩
      · simp [Covered, withinReach, hpc]
      · simp [Covered, withinReach, hpc]
      · simp [Covered, withinReach, hpc]
  | none hpc hwaiting =>
      constructor
      · intro _ p hp
        rw [withinReach, hpc]
        exact Nat.lt_succ_of_lt (hcalls hwaiting p hp)
      · exact fun _ p hp => hcalls hwaiting p hp
  | take hpc hwaiting => simp [Covered, withinReach, hpc, Received.add]
  | handled hpc => simp [Covered, withinReach, hpc]

/-- Once the flag is clear it stays so, and what is covered stays the same. -/
theorem RunInv.covered_iff (hi : RunInv unset s) (hr : s.alertWsRunning = false)
    (hst : ServerRun.step site s e = some t) :
    t.alertWsRunning = false ∧ (Covered t ↔ Covered s) := by
  obtain ⟨_, haside | hworker | ⟨_, rest, hstop, rfl⟩⟩ := hi.step hst
  · refine ⟨haside.running.trans hr, ?_⟩
    rw [Covered, Covered, withinReach, withinReach, haside.alertWs, haside.received,
      haside.acknowledged (hi.stop_called hr)]
  · refine ⟨?_, hi.covered_worker hr hworker⟩
    cases hworker <;> exact hr
  · exact ⟨rfl, Iff.rfl⟩

/-- Once the flag is clear, the acknowledged vibrations are covered. -/
structure Settled (unset : RepairMaterial R) (s : ServerRun R) : Prop where
  inv : RunInv unset s
  covered : s.alertWsRunning = false → Covered s

/-- The flag is clear, and an acknowledged vibration is out of reach. -/
structure Lost (unset : RepairMaterial R) (s : ServerRun R) : Prop where
  inv : RunInv unset s
  running : s.alertWsRunning = false
  lost : ¬ Covered s

theorem Settled.step (h : Settled unset s) (hok : ClearOk s e)
    (hst : ServerRun.step site s e = some t) : Settled unset t := by
  refine ⟨(h.inv.step hst).1, fun hr => ?_⟩
  cases hrs : s.alertWsRunning with
  | false => exact (h.inv.covered_iff hrs hst).2.mpr (h.covered hrs)
  | true =>
      obtain ⟨_, haside | hworker | ⟨rfl, rest, hstop, rfl⟩⟩ := h.inv.step hst
      · rw [haside.running, hrs] at hr
        cases hr
      · have hsame : t.alertWsRunning = s.alertWsRunning := by cases hworker <;> rfl
        rw [hsame, hrs] at hr
        cases hr
      · exact hok rfl (by rw [remaining, hstop]; rfl)

/-- A step outside the condition clears the flag. -/
theorem Lost.of_clear (h : Settled unset s) (hbad : ¬ ClearOk s e)
    (hst : ServerRun.step site s e = some t) : Lost unset t := by
  have hn : e = .stop ∧ s.remaining.head? = some .clearAlertWs ∧ ¬ Covered s := by
    simpa only [ClearOk, Classical.not_imp, Covered] using hbad
  obtain ⟨rfl, hhead, hlost⟩ := hn
  have hinv := (h.inv.step hst).1
  have hmove : StopMove s t := by
    refine stopMove ?_
    unfold ServerRun.step at hst
    split at hst
    · cases hst
    · exact hst
  cases hmove with
  | clearAlertWs hstop => exact ⟨hinv, rfl, hlost⟩
  | other running hstop ha hjoin =>
      rw [remaining, hstop] at hhead
      exact absurd (Option.some.inj hhead) ha

theorem Lost.step (h : Lost unset s) (hst : ServerRun.step site s e = some t) : Lost unset t := by
  obtain ⟨hr, hcovered⟩ := h.inv.covered_iff h.running hst
  exact ⟨(h.inv.step hst).1, hr, fun hc => h.lost (hcovered.mp hc)⟩

omit [LinearOrder R] in
/-- When `stop` has returned, the covered vibrations are the handled ones. -/
theorem RunInv.survives_iff (hi : RunInv unset s) (hreturned : s.stop = some []) :
    s.Survives ↔ Covered s := by
  have hexited : s.alertWs = .exited := hi.joined (by rw [remaining, hreturned]; simp)
  have hhandled := hi.handled
  have hfifo := hi.fifo
  rw [hexited, inHandler, List.append_nil] at hhandled
  · have hreach : s.withinReach = s.handled.vibration.length := by
      rw [withinReach, hexited, hhandled]
    constructor
    · intro h p hp
      obtain ⟨msg, _, hmsg⟩ := h _ hp
      rw [hreach]
      exact (List.getElem?_eq_some_iff.mp hmsg).1
    · intro h r hr
      obtain ⟨p, rfl, _⟩ := hi.acknowledged r hr
      have hlt := h p hr
      rw [hreach] at hlt
      refine ⟨s.handled.vibration[p], ?_, List.getElem?_eq_getElem hlt⟩
      rw [← hfifo, ← hhandled, List.getElem?_append_left hlt]
      exact List.getElem?_eq_getElem hlt
  · simp

/-- Once `stop` has returned, every reading acknowledged before it was called has
been handled, exactly if no acknowledged vibration was out of reach when `stop`
cleared the flag of `AlertWsModule`. -/
theorem acknowledged_handled_iff (site : Site R) (unset : RepairMaterial R) (localIp : String)
    {es : List (ServerEvent R)} {s : ServerRun R}
    (h : Steps.exec (step site) (start site unset localIp) es = some s)
    (hreturned : s.stop = some []) :
    s.Survives ↔ Steps.StepsMeet (step site) ClearOk (start site unset localIp) es := by
  have hinit : Settled unset (start site unset localIp) :=
    ⟨.start site unset localIp, fun hr => by cases hr⟩
  constructor
  · intro hsurvives
    by_contra hbad
    have hlost : Lost unset s := Steps.exec_bad_of (fun _ _ _ hs hok hst => hs.step hok hst)
      (fun _ _ _ hs hn hst => .of_clear hs hn hst) (fun _ _ _ hs hst => hs.step hst) hinit h hbad
    exact hlost.lost ((hlost.inv.survives_iff hreturned).mp hsurvives)
  · intro hok
    have hsettled : Settled unset s :=
      Steps.exec_invariant_of (fun _ _ _ hs hok hst => hs.step hok hst) hinit hok h
    have hexited : s.alertWs = .exited :=
      hsettled.inv.joined (by rw [remaining, hreturned]; simp)
    exact (hsettled.inv.survives_iff hreturned).mpr
      (hsettled.covered (hsettled.inv.exited hexited))

end Runs

/-! ## Two runs -/

/-- A site that reads every number as zero. -/
def zeroSite : Site ℚ where
  math := ⟨3, id, fun x _ => x, id, id⟩
  predictionHorizonHours := 720
  lib := ⟨fun _ => 0, fun _ => 0, fun _ => .ok .null⟩
  uninit := fun _ => ⟨0, fun _ => 0⟩

def zeroMaterial : RepairMaterial ℚ := ⟨1, .zirconia, "", "", 25, 0, 0, 0, 0, .null⟩

/-- A vibration of zeros.  Its timestamp spells the length of the frame. -/
def zeroVibration : SentFrame :=
  ⟨PacketType.vibrationData, 7, 0x4000000000, List.replicate 56 0, by decide⟩

def arrival : List (ServerEvent ℚ) :=
  [.accept "10.0.0.9" "10.0.0.1", .read 0 zeroVibration.bytes]

def acknowledgment : List (ServerEvent ℚ) := [.session 0, .session 0, .session 0]

/-- `stop` finds the thread of every module before its test. -/
def promptStop : List (ServerEvent ℚ) :=
  let quick (m : LoopModule) : List (ServerEvent ℚ) :=
    [.stop, .loop m fun _ => ⟨0, 0, 0, 0, 0, .null⟩, .stop]
  [.callStop, .stop] ++ quick .laserFanout ++ quick .crackRouter ++ quick .crackFanout ++
    quick .fatiguePredictor ++ quick .demSimulator ++
    [.stop, .alertWs, .stop, .stop, .stop, .stop, .stop, .stop]

/-- The only session. -/
def zeroHandler : Handler ℚ := newHandler zeroSite "10.0.0.9" "10.0.0.1"

/-- The server before this session starts on the frame. -/
def framed : ServerRun ℚ :=
  { start zeroSite zeroMaterial "10.0.0.1" with
    sessions := [{ zeroHandler with
      pending := handleFrame zeroHandler.cfg zeroVibration.bytes }] }

theorem step_read {R : Type} [Field R] [LinearOrder R] {site : Site R} {s : ServerRun R} {i : Nat}
    {h : Handler R} {bytes : List UInt8} (hc : s.pipeline.crashed = false)
    (hget : s.sessions[i]? = some h)
    (henabled : StopStep.stopIoContext ∈ s.remaining ∧ h.pending.isEmpty ∧ 0 < bytes.length ∧
      bytes.length ≤ 8192) :
    step site s (.read i bytes) = some { s with
      sessions := s.sessions.set i { h with
        frameBuf := (doRead h.cfg { frameBuf := h.frameBuf } bytes).frameBuf
        pending := (doRead h.cfg { frameBuf := h.frameBuf } bytes).log } } := by
  simp only [step, hc, hget, henabled]
  rfl

/-- The session has got the frame. -/
theorem exec_arrival (es : List (ServerEvent ℚ)) :
    Steps.exec (step zeroSite) (start zeroSite zeroMaterial "10.0.0.1") (arrival ++ es) =
      Steps.exec (step zeroSite) framed es := by
  have htotal : frameBufFraming.total zeroVibration.bytes = some zeroVibration.bytes.length :=
    (total_bytes_iff zeroVibration).mpr (by decide)
  have hframe : doRead zeroHandler.cfg { frameBuf := zeroHandler.frameBuf } zeroVibration.bytes =
      { frameBuf := [], log := handleFrame zeroHandler.cfg zeroVibration.bytes } :=
    doRead_frame htotal
  have henabled : StopStep.stopIoContext ∈ stopProgram ∧ ([] : List (SessionEvent ℚ)).isEmpty ∧
      0 < zeroVibration.bytes.length ∧ zeroVibration.bytes.length ≤ 8192 := by decide
  let accepted : ServerRun ℚ :=
    { start zeroSite zeroMaterial "10.0.0.1" with sessions := [zeroHandler] }
  have hread : step zeroSite accepted (.read 0 zeroVibration.bytes) = some framed := by
    have hget : accepted.sessions[0]? = some zeroHandler := rfl
    rw [step_read (s := accepted) rfl hget henabled, hframe]
    rfl
  rw [Steps.exec_append]
  exact congrArg (Option.bind · _) (Steps.exec_cons_some.mpr ⟨accepted, rfl,
    Steps.exec_cons_some.mpr ⟨framed, hread, rfl⟩⟩)

/-- The worker takes the message and handles it before `stop` is called. -/
theorem acknowledged_handled_iff_calm :
    ∃ s, Steps.exec (step zeroSite) (start zeroSite zeroMaterial "10.0.0.1")
        (arrival ++ (acknowledgment ++ ([.alertWs, .alertWs, .alertWs, .alertWs] ++ promptStop))) =
          some s ∧
      (s.Survives ↔ Steps.StepsMeet (step zeroSite) ClearOk
        (start zeroSite zeroMaterial "10.0.0.1")
        (arrival ++ (acknowledgment ++ ([.alertWs, .alertWs, .alertWs, .alertWs] ++ promptStop))))
      := by
  obtain ⟨s, hs, hreturned⟩ : ∃ s, Steps.exec (step zeroSite) framed
      (acknowledgment ++ ([.alertWs, .alertWs, .alertWs, .alertWs] ++ promptStop)) = some s ∧
        s.stop = some [] := ⟨_, rfl, rfl⟩
  rw [← exec_arrival] at hs
  exact ⟨s, hs, acknowledged_handled_iff zeroSite zeroMaterial "10.0.0.1" hs hreturned⟩

/-- `stop` clears the flag with the message in the queue. -/
theorem stop_leaves_acknowledged_vibration :
    ¬ ∀ (site : Site ℚ) (unset : RepairMaterial ℚ) (localIp : String) (es : List (ServerEvent ℚ))
        (s : ServerRun ℚ),
      Steps.exec (step site) (start site unset localIp) es = some s → s.stop = some [] →
      s.Survives := by
  intro h
  obtain ⟨s, hs, hreturned, hacknowledged, hhandled⟩ : ∃ s,
      Steps.exec (step zeroSite) framed (acknowledgment ++ promptStop) = some s ∧
        s.stop = some [] ∧ s.acknowledged = [.vibration 0] ∧ s.handled.vibration = [] :=
    ⟨_, rfl, rfl, rfl, rfl⟩
  rw [← exec_arrival] at hs
  have hmem : Reading.vibration 0 ∈ s.acknowledged := by
    rw [hacknowledged]
    exact List.mem_singleton_self _
  obtain ⟨msg, _, hmsg⟩ := h _ _ _ _ s hs hreturned _ hmem
  rw [hhandled] at hmsg
  cases hmsg

end ServerRun

end PorcelainMonitor.Modules
