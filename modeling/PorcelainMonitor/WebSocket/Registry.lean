import PorcelainMonitor.WebSocket.Session

/-!
# The sessions of `WebSocketServer`

`broadcast` sends to every session in `sessions_`.  Two functions put sessions
there.  `handle_accept` does so for every connection, and starts a read, but never
calls `run`, so there is no handshake.  `handle_http_request` does so before the
handshake, which `run` starts; nothing calls it, and here it may be called at any
time.  A handler that finds its session closed or failed returns without taking
it out again.  `stop` alone takes sessions out.

A session is alive if its handshake is done and no read or write of it has ended
with an error or a close.  Then, and only then, its read loop is running and its
queue is not stuck (`PeerInv.live_iff`).
-/

namespace PorcelainMonitor.WebSocket

/-! ## Sessions -/

/-- How a session came into `sessions_`. -/
inductive Origin where
  | handleAccept
  | handleHttpRequest
deriving DecidableEq, Repr

inductive Handshake where
  | none
  /-- `async_accept` is outstanding. -/
  | pending
  | done
  | refused
deriving DecidableEq, Repr

inductive ReadResult where
  | ok
  | closed
  | error
deriving DecidableEq, Repr

/-- A session with the operations it has outstanding and what they have come to. -/
structure Peer where
  origin : Origin
  handshake : Handshake
  /-- The `async_read` of `do_read` is outstanding. -/
  reading : Bool
  /-- The `async_read` of `handle_accept` is outstanding. -/
  acceptReading : Bool
  closed : Bool
  readError : Bool
  /-- The messages of the calls of `do_send` that are posted. -/
  posted : List String
  run : Run
deriving DecidableEq, Repr

inductive PeerEvent where
  | onAccept (ec : Bool)
  | onRead (result : ReadResult)
  /-- The read of `handle_accept` completes. -/
  | acceptRead (ec : Bool)
  | doSend
  | onWrite (ec : Bool)
deriving DecidableEq, Repr

namespace Peer

/-- What `handle_accept` makes. -/
def accepted : Peer := ⟨.handleAccept, .none, false, true, false, false, [], .init⟩

/-- What `handle_http_request` makes, and `run`. -/
def upgraded : Peer := ⟨.handleHttpRequest, .pending, false, false, false, false, [], .init⟩

def onAccept (ec : Bool) (p : Peer) : Peer :=
  if ec then { p with handshake := .refused }
  else { p with handshake := .done, reading := true }

/-- The completed read is outstanding again only if `do_read` is called. -/
def onRead (p : Peer) : ReadResult → Peer
  | .ok => p
  | .closed => { p with reading := false, closed := true }
  | .error => { p with reading := false, readError := true }

def step (p : Peer) : PeerEvent → Option Peer
  | .onAccept ec => if p.handshake = .pending then some (p.onAccept ec) else none
  | .onRead result => if p.reading then some (p.onRead result) else none
  | .acceptRead ec =>
      if p.acceptReading then
        some { p with acceptReading := false, readError := p.readError || ec }
      else none
  | .doSend =>
      match p.posted with
      | [] => none
      | message :: rest =>
          (WebSocket.step p.run (.doSend message)).map fun run =>
            { p with posted := rest, run := run }
  | .onWrite ec => (WebSocket.step p.run (.onWrite ec)).map fun run => { p with run := run }

/-- The session is worth sending to. -/
structure Live (p : Peer) : Prop where
  handshake : p.handshake = .done
  closed : p.closed = false
  readError : p.readError = false
  writeError : p.run.writeError = false

end Peer

/-! ## The server -/

/-- The acceptor, with one `async_accept` outstanding. -/
inductive Acceptor where
  | opened
  /-- Closed, while the accept of before may yet complete. -/
  | closing
  | closed
deriving DecidableEq, Repr

structure WebSocketServer where
  acceptor : Acceptor
  /-- All sessions ever made. -/
  peers : List Peer
  /-- `sessions_`, by their places among these. -/
  sessions : List Nat
deriving DecidableEq, Repr

inductive ServerEvent where
  | handleAccept (ec : Bool)
  | handleHttpRequest (isUpgrade : Bool)
  | peer (i : Nat) (e : PeerEvent)
  | broadcast (message : String)
  | stop
deriving DecidableEq, Repr

namespace WebSocketServer

/-- After `start`. -/
def init : WebSocketServer := ⟨.opened, [], []⟩

/-- `sessions_.push_back(session)` -/
def register (s : WebSocketServer) (p : Peer) : WebSocketServer :=
  { s with peers := s.peers ++ [p], sessions := s.sessions ++ [s.peers.length] }

/-- After the completion of an accept, `do_accept` starts the next. -/
def rearmed : Acceptor → Acceptor
  | .opened => .opened
  | .closing => .closed
  | .closed => .closed

def broadcast (s : WebSocketServer) (message : String) : WebSocketServer :=
  { s with
    peers := s.peers.mapIdx fun i p =>
      if i ∈ s.sessions then { p with posted := p.posted ++ [message] } else p }

def stop (s : WebSocketServer) : WebSocketServer :=
  { s with
    acceptor := if s.acceptor = .opened then .closing else s.acceptor
    sessions := [] }

def step (s : WebSocketServer) : ServerEvent → Option WebSocketServer
  | .handleAccept true => some { s with acceptor := rearmed s.acceptor }
  | .handleAccept false =>
      if s.acceptor = .closed then none
      else some { s.register .accepted with acceptor := rearmed s.acceptor }
  | .handleHttpRequest isUpgrade => some (if isUpgrade then s.register .upgraded else s)
  | .peer i e =>
      match s.peers[i]? with
      | none => none
      | some p => (p.step e).map fun p => { s with peers := s.peers.set i p }
  | .broadcast message => some (s.broadcast message)
  | .stop => some s.stop

/-- Every session that a broadcast sends to is alive. -/
def BroadcastLive (s : WebSocketServer) (e : ServerEvent) : Prop :=
  ∀ message, e = .broadcast message →
    ∀ i ∈ s.sessions, ∃ p, s.peers[i]? = some p ∧ p.Live

end WebSocketServer

/-! ## Sessions that are alive -/

/-- Messages wait, but no write is outstanding and no handler is at work. -/
def WebSocketSession.Stuck (s : WebSocketSession) : Prop :=
  s.sendQueue ≠ [] ∧ s.outstanding = 0 ∧ s.locked = false

/-- The queue of a session is sound, or `on_write` hangs. -/
structure Tracked (r : Run) : Prop where
  sound : Inv r ∨ r.selfLocked = true ∧ r.session.locked = true
  stuck : r.writeError = true ↔ r.session.Stuck

namespace Tracked

variable {r t : Run}

theorem init : Tracked .init := ⟨.inl .init, by simp [Run.init, WebSocketSession.init,
  WebSocketSession.Stuck]⟩

/-- A step finds the queue sound. -/
theorem inv (h : Tracked r) {e : Event} (hst : step r e = some t) : Inv r := by
  rcases h.sound with hinv | ⟨hlocked, -⟩
  · exact hinv
  · unfold WebSocket.step at hst
    rw [if_pos hlocked] at hst
    cases hst

theorem doSend (h : Tracked r) {message : String} (hst : step r (.doSend message) = some t) :
    Tracked t := by
  have hinv := h.inv hst
  have hsame : t.writeError = r.writeError ∧
      t.session.outstanding = (if r.session.sendQueue = [] then r.session.outstanding + 1
        else r.session.outstanding) ∧ t.session.sendQueue ≠ [] := by
    rw [WebSocket.step, if_neg (by simp [hinv.noSelfLock])] at hst
    cases hst
    by_cases hq : r.session.sendQueue = []
    · rw [WebSocketSession.doSend_empty hinv.unlocked hq, if_pos hq]
      exact ⟨rfl, rfl, List.cons_ne_nil _ _⟩
    · rw [WebSocketSession.doSend_waiting hinv.unlocked hq, if_neg hq]
      exact ⟨rfl, rfl, by simp [Run.finish]⟩
  obtain ⟨herror, houtstanding, hqueue⟩ := hsame
  have ht := hinv.doSend hst
  refine ⟨.inl ht, ?_⟩
  rw [herror, h.stuck]
  cases hinv.phase with
  | idle queue outstanding handed =>
      rw [if_pos queue, outstanding] at houtstanding
      simp [WebSocketSession.Stuck, queue, houtstanding]
  | writing m q queue outstanding handed =>
      rw [if_neg (by simp [queue]), outstanding] at houtstanding
      simp [WebSocketSession.Stuck, houtstanding, outstanding]
  | failed error queue outstanding handed =>
      rw [if_neg queue, outstanding] at houtstanding
      simp [WebSocketSession.Stuck, queue, hqueue, houtstanding, outstanding, hinv.unlocked,
        ht.unlocked]

theorem onWrite (h : Tracked r) {ec : Bool} (hst : step r (.onWrite ec) = some t) :
    Tracked t := by
  have hinv := h.inv hst
  obtain ⟨m, q, queue, handed, ht⟩ := hinv.onWrite_cases hst
  have houtstanding : r.session.outstanding ≠ 0 := by
    intro hzero
    rw [WebSocket.step, if_neg (by simp [hinv.noSelfLock])] at hst
    simp [hzero] at hst
  have hnoError : r.writeError = false := by
    cases herror : r.writeError with
    | false => rfl
    | true => exact absurd (h.stuck.mp herror).2.1 houtstanding
  cases ec with
  | true =>
      have hfailed : WebSocketSession.onWrite true { r.session with outstanding := 0 } =
          .ok { r.session with outstanding := 0 } := rfl
      refine ⟨.inl (hinv.keep (fun he => by cases he) hst), ?_⟩
      rw [ht, hfailed]
      simp [Run.finish, WebSocketSession.Stuck, queue, hinv.unlocked]
  | false =>
      cases q with
      | nil =>
          have hlast := WebSocketSession.onWrite_last
            (s := { r.session with outstanding := 0 }) hinv.unlocked queue
          refine ⟨.inl (hinv.keep (fun _ => by simp [queue]) hst), ?_⟩
          rw [ht, hlast]
          simp [Run.finish, WebSocketSession.Stuck, hnoError]
      | cons n q =>
          have hhang := WebSocketSession.onWrite_waiting
            (s := { r.session with outstanding := 0 }) hinv.unlocked queue
          rw [ht, hhang]
          exact ⟨.inr ⟨rfl, rfl⟩, by simp [Run.finish, WebSocketSession.Stuck, hnoError]⟩

end Tracked

/-- What holds of a session, whichever way it came. -/
structure PeerInv (p : Peer) : Prop where
  reading : p.reading = true ↔ p.handshake = .done ∧ p.closed = false ∧ p.readError = false
  pending : p.handshake = .pending → p.closed = false ∧ p.readError = false
  acceptReading : p.acceptReading = true → p.handshake = .none
  origin : p.origin = .handleAccept → p.handshake = .none
  run : Tracked p.run

namespace PeerInv

variable {p q : Peer}

theorem accepted : PeerInv .accepted :=
  ⟨by decide, by decide, by decide, by decide, .init⟩

theorem upgraded : PeerInv .upgraded :=
  ⟨by decide, by decide, by decide, by decide, .init⟩

/-- A session is alive if its read loop runs and its queue is not stuck. -/
theorem live_iff (h : PeerInv p) : p.Live ↔ p.reading = true ∧ ¬ p.run.session.Stuck := by
  rw [h.reading, ← h.run.stuck, Bool.not_eq_true]
  exact ⟨fun hl => ⟨⟨hl.handshake, hl.closed, hl.readError⟩, hl.writeError⟩,
    fun ⟨⟨hhandshake, hclosed, hread⟩, hwrite⟩ => ⟨hhandshake, hclosed, hread, hwrite⟩⟩

/-- A session of `handle_accept` is never alive. -/
theorem not_live (h : PeerInv p) (horigin : p.origin = .handleAccept) : ¬ p.Live := by
  intro hlive
  have hdone := hlive.handshake
  rw [h.origin horigin] at hdone
  cases hdone

theorem setRun (h : PeerInv p) {run : Run} (hrun : Tracked run) (posted : List String) :
    PeerInv { p with posted := posted, run := run } :=
  ⟨h.reading, h.pending, h.acceptReading, h.origin, hrun⟩

theorem onAccept (h : PeerInv p) (hpending : p.handshake = .pending) (ec : Bool) :
    PeerInv (p.onAccept ec) := by
  obtain ⟨hclosed, hread⟩ := h.pending hpending
  have hother : p.handshake ≠ .none ∧ p.handshake ≠ .done := by simp [hpending]
  have hreading : p.reading = false := by
    cases hr : p.reading with
    | false => rfl
    | true => exact absurd (h.reading.mp hr).1 hother.2
  cases ec with
  | true =>
      refine ⟨?_, fun hp => (by cases hp), fun ha => ?_, fun ho => ?_, h.run⟩
      · simp [Peer.onAccept, hreading]
      · exact absurd (h.acceptReading ha) hother.1
      · exact absurd (h.origin ho) hother.1
  | false =>
      refine ⟨?_, fun hp => (by cases hp), fun ha => ?_, fun ho => ?_, h.run⟩
      · simp [Peer.onAccept, hclosed, hread]
      · exact absurd (h.acceptReading ha) hother.1
      · exact absurd (h.origin ho) hother.1

theorem onRead (h : PeerInv p) (hreading : p.reading = true) (result : ReadResult) :
    PeerInv (p.onRead result) := by
  obtain ⟨hdone, -, -⟩ := h.reading.mp hreading
  have hother : p.handshake ≠ .pending := by simp [hdone]
  cases result with
  | ok => exact h
  | closed =>
      refine ⟨?_, fun hp => absurd hp hother, h.acceptReading, h.origin, h.run⟩
      simp [Peer.onRead]
  | error =>
      refine ⟨?_, fun hp => absurd hp hother, h.acceptReading, h.origin, h.run⟩
      simp [Peer.onRead]

theorem acceptRead (h : PeerInv p) (hreading : p.acceptReading = true) (ec : Bool) :
    PeerInv { p with acceptReading := false, readError := p.readError || ec } := by
  have hnone := h.acceptReading hreading
  have hnot : p.reading ≠ true := fun hr => by
    cases (h.reading.mp hr).1.symm.trans hnone
  refine ⟨⟨fun hr => absurd hr hnot, fun hr => ?_⟩, fun hp => ?_, fun ha => (by cases ha),
    h.origin, h.run⟩
  · cases hr.1.symm.trans hnone
  · cases hnone.symm.trans hp

theorem step (h : PeerInv p) {e : PeerEvent} (hst : p.step e = some q) :
    PeerInv q ∧ q.origin = p.origin := by
  cases e with
  | onAccept ec =>
      simp only [Peer.step] at hst
      split at hst
      · next hpending =>
          cases hst
          refine ⟨h.onAccept hpending ec, ?_⟩
          cases ec <;> rfl
      · cases hst
  | onRead result =>
      simp only [Peer.step] at hst
      split at hst
      · next hreading =>
          cases hst
          refine ⟨h.onRead hreading result, ?_⟩
          cases result <;> rfl
      · cases hst
  | acceptRead ec =>
      simp only [Peer.step] at hst
      split at hst
      · next hreading =>
          cases hst
          exact ⟨h.acceptRead hreading ec, rfl⟩
      · cases hst
  | doSend =>
      simp only [Peer.step] at hst
      split at hst
      · cases hst
      · next message rest _ =>
          obtain ⟨run, hrun, rfl⟩ := Option.map_eq_some_iff.mp hst
          exact ⟨h.setRun (h.run.doSend hrun) rest, rfl⟩
  | onWrite ec =>
      obtain ⟨run, hrun, rfl⟩ := Option.map_eq_some_iff.mp hst
      exact ⟨h.setRun (h.run.onWrite hrun) p.posted, rfl⟩

end PeerInv

/-! ## The registry -/

namespace WebSocketServer

structure ServerInv (s : WebSocketServer) : Prop where
  peers : ∀ p ∈ s.peers, PeerInv p
  sessions : ∀ i ∈ s.sessions, i < s.peers.length

/-- A broadcast finds every session in its read loop, with a queue that is not
stuck.  So none of them is one of `handle_accept`. -/
def BroadcastOk (s : WebSocketServer) (e : ServerEvent) : Prop :=
  ∀ message, e = .broadcast message → ∀ i ∈ s.sessions, ∃ p, s.peers[i]? = some p ∧
    p.origin = .handleHttpRequest ∧ p.reading = true ∧ ¬ p.run.session.Stuck

variable {s t : WebSocketServer} {e : ServerEvent}

/-- What holds of the sessions before a step holds of them after it, if a session
keeps it and the new one has it. -/
theorem forall_peers_step {P : Peer → Prop} (h : ∀ p ∈ s.peers, P p)
    (haccepted : P .accepted) (hupgraded : e = .handleHttpRequest true → P .upgraded)
    (hpeer : ∀ p ∈ s.peers, ∀ e q, p.step e = some q → P q)
    (hposted : ∀ p ∈ s.peers, ∀ posted, P { p with posted := posted })
    (hst : s.step e = some t) : ∀ p ∈ t.peers, P p := by
  cases e with
  | handleAccept ec =>
      cases ec with
      | true =>
          cases hst
          exact h
      | false =>
          simp only [WebSocketServer.step] at hst
          split at hst
          · cases hst
          · cases hst
            exact List.forall_mem_append.mpr ⟨h, List.forall_mem_singleton.mpr haccepted⟩
  | handleHttpRequest isUpgrade =>
      cases hst
      cases isUpgrade with
      | false => exact h
      | true =>
          exact List.forall_mem_append.mpr ⟨h, List.forall_mem_singleton.mpr (hupgraded rfl)⟩
  | peer i e =>
      simp only [WebSocketServer.step] at hst
      split at hst
      · cases hst
      · next p hp =>
          obtain ⟨q, hq, rfl⟩ := Option.map_eq_some_iff.mp hst
          intro q' hq'
          rcases List.mem_or_eq_of_mem_set hq' with hmem | rfl
          · exact h q' hmem
          · exact hpeer p (List.mem_of_getElem? hp) e q' hq
  | broadcast message =>
      cases hst
      intro q hq
      obtain ⟨i, hi, rfl⟩ := List.mem_mapIdx.mp hq
      split
      · exact hposted _ (List.getElem_mem hi) _
      · exact h _ (List.getElem_mem hi)
  | stop =>
      cases hst
      exact h

theorem forall_sessions_register (h : ∀ i ∈ s.sessions, i < s.peers.length) (p : Peer) :
    ∀ i ∈ (s.register p).sessions, i < (s.register p).peers.length := by
  intro i hi
  rw [WebSocketServer.register, List.length_append]
  rcases List.mem_append.mp hi with hi | hi
  · exact Nat.lt_add_right _ (h i hi)
  · rw [List.mem_singleton.mp hi]
    exact Nat.lt_succ_self _

/-- The registry lists sessions that there are. -/
theorem forall_sessions_step (h : ∀ i ∈ s.sessions, i < s.peers.length)
    (hst : s.step e = some t) : ∀ i ∈ t.sessions, i < t.peers.length := by
  cases e with
  | handleAccept ec =>
      cases ec with
      | true =>
          cases hst
          exact h
      | false =>
          simp only [WebSocketServer.step] at hst
          split at hst
          · cases hst
          · cases hst
            exact forall_sessions_register h .accepted
  | handleHttpRequest isUpgrade =>
      cases hst
      cases isUpgrade with
      | false => exact h
      | true => exact forall_sessions_register h .upgraded
  | peer i e =>
      simp only [WebSocketServer.step] at hst
      split at hst
      · cases hst
      · next p hp =>
          obtain ⟨q, hq, rfl⟩ := Option.map_eq_some_iff.mp hst
          simpa using h
  | broadcast message =>
      cases hst
      simpa [WebSocketServer.broadcast] using h
  | stop =>
      cases hst
      exact fun i hi => by cases hi

theorem ServerInv.init : ServerInv .init :=
  ⟨fun p hp => (by cases hp), fun i hi => by cases hi⟩

theorem ServerInv.step (h : ServerInv s) (hst : s.step e = some t) : ServerInv t where
  peers := forall_peers_step h.peers .accepted (fun _ => .upgraded)
    (fun p hp _ _ hq => ((h.peers p hp).step hq).1)
    (fun p hp posted => (h.peers p hp).setRun (h.peers p hp).run posted) hst
  sessions := forall_sessions_step h.sessions hst

theorem ServerInv.broadcastLive_iff (h : ServerInv s) :
    s.BroadcastLive e ↔ s.BroadcastOk e := by
  refine forall₄_congr fun message _ i _ => exists_congr fun p => and_congr_right fun hp => ?_
  have hinv := h.peers p (List.mem_of_getElem? hp)
  rw [hinv.live_iff]
  refine ⟨fun hlive => ⟨?_, hlive⟩, And.right⟩
  cases horigin : p.origin with
  | handleAccept => exact absurd (hinv.live_iff.mpr hlive) (hinv.not_live horigin)
  | handleHttpRequest => rfl

/-- A broadcast finds no session. -/
def BroadcastEmpty (s : WebSocketServer) (e : ServerEvent) : Prop :=
  ∀ message, e = .broadcast message → s.sessions = []

/-- No session came by `handle_http_request`. -/
structure AcceptInv (s : WebSocketServer) : Prop where
  inv : ServerInv s
  origin : ∀ p ∈ s.peers, p.origin = .handleAccept

theorem AcceptInv.init : AcceptInv .init := ⟨.init, fun p hp => by cases hp⟩

theorem AcceptInv.step (h : AcceptInv s) (he : e ≠ .handleHttpRequest true)
    (hst : s.step e = some t) : AcceptInv t where
  inv := h.inv.step hst
  origin := forall_peers_step h.origin rfl (fun hupgrade => absurd hupgrade he)
    (fun p hp _ _ hq => ((h.inv.peers p hp).step hq).2.trans (h.origin p hp))
    (fun p hp _ => h.origin p hp) hst

theorem AcceptInv.broadcastLive_iff (h : AcceptInv s) :
    s.BroadcastLive e ↔ s.BroadcastEmpty e := by
  refine forall₂_congr fun message _ => ⟨fun hlive => ?_, fun hempty i hi => ?_⟩
  · refine List.eq_nil_iff_forall_not_mem.mpr fun i hi => ?_
    obtain ⟨p, hp, halive⟩ := hlive i hi
    have hmem := List.mem_of_getElem? hp
    exact (h.inv.peers p hmem).not_live (h.origin p hmem) halive
  · rw [hempty] at hi
    cases hi

/-! ## Runs -/

/-- The broadcasts of a run send to sessions that are alive, and to no other,
exactly if each finds every session in its read loop and none stuck.  Where
nothing calls `handle_http_request`, each has to find no session at all. -/
theorem broadcasts_live_iff (es : List ServerEvent) :
    (Steps.StepsMeet step BroadcastLive .init es ↔ Steps.StepsMeet step BroadcastOk .init es) ∧
      ((∀ e ∈ es, e ≠ .handleHttpRequest true) →
        (Steps.StepsMeet step BroadcastLive .init es ↔
          Steps.StepsMeet step BroadcastEmpty .init es)) := by
  constructor
  · have keep : ∀ s e t, ServerInv s → True → s.step e = some t → ServerInv t :=
      fun _ _ _ h _ hst => h.step hst
    have agree : ∀ s e t, ServerInv s → s.step e = some t →
        (s.BroadcastLive e ↔ s.BroadcastOk e) := fun _ _ _ h _ => h.broadcastLive_iff
    exact Steps.stepsMeet_congr keep agree .init (.of_forall fun _ _ _ => trivial)
  · intro hes
    have keep : ∀ s e t, AcceptInv s → e ≠ .handleHttpRequest true → s.step e = some t →
        AcceptInv t := fun _ _ _ h he hst => h.step he hst
    have agree : ∀ s e t, AcceptInv s → s.step e = some t →
        (s.BroadcastLive e ↔ s.BroadcastEmpty e) := fun _ _ _ h _ => h.broadcastLive_iff
    exact Steps.stepsMeet_congr keep agree .init (.of_forall fun _ => hes)

/-- Two connections are accepted, and `stop` clears them before the broadcast. -/
def stoppedRun : List ServerEvent :=
  [.handleAccept false, .peer 0 (.acceptRead false), .handleAccept false, .stop, .broadcast "{}"]

theorem broadcasts_live_iff_stopped :
    Steps.StepsMeet step BroadcastLive .init stoppedRun ↔
      Steps.StepsMeet step BroadcastEmpty .init stoppedRun :=
  (broadcasts_live_iff stoppedRun).2 (by decide)

/-- A connection is accepted, and a broadcast follows. -/
def plainRun : List ServerEvent := [.handleAccept false, .broadcast "{}"]

theorem broadcast_reaches_no_handshake :
    ¬ ∀ es, Steps.StepsMeet step BroadcastLive .init es := by
  intro h
  obtain ⟨-, haccepted⟩ := h plainRun _ rfl
  obtain ⟨hlive, -⟩ := haccepted _ rfl
  obtain ⟨p, hp, halive⟩ := hlive "{}" rfl 0 (List.mem_singleton.mpr rfl)
  cases hp
  cases halive.handshake

/-- A session of `handle_http_request` with its handshake done is alive. -/
example : Steps.StepsMeet step BroadcastOk .init
    [.handleHttpRequest true, .peer 0 (.onAccept false), .broadcast "{}"] := by
  refine .cons rfl (by simp [BroadcastOk])
    (.cons rfl (by simp [BroadcastOk]) (.cons rfl ?_ trivial))
  intro message _ i hi
  cases List.mem_singleton.mp hi
  exact ⟨_, rfl, rfl, rfl, by simp [WebSocketSession.Stuck, Peer.upgraded, Peer.onAccept, Run.init,
    WebSocketSession.init]⟩

end WebSocketServer

end PorcelainMonitor.WebSocket
