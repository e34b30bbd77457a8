import PorcelainMonitor.Lib.Reactor
import PorcelainMonitor.Profinet.TcpSession

/-!
# The three servers after `stop`

`ProfinetServer`, `HttpServer` and `WebSocketServer` are programs on the reactor
of Asio.  `stop` closes the acceptor, and an accept started on a closed acceptor
fails.  The handler of an accept starts the next whatever the result, the UDP
server does the same with its receive, and a TCP session reads on until a read
fails.  `stop` drops its sessions, but a pending read keeps its session alive.

Of the sessions of `WebSocketServer` these are the ones `handle_accept` makes:
nothing calls `handle_http_request`.
-/

namespace PorcelainMonitor.Modules

open Profinet
open Reactor (Program Effect State Drained)

/-! ## `ProfinetServer` -/

inductive ProfinetOp where
  /-- The acceptor was closed when the accept was started. -/
  | accept (onClosed : Bool)
  | receive
  | read (session : Nat)
  | write
deriving DecidableEq, Repr

inductive ProfinetResult where
  | failed
  | accepted (remoteIp localIp : String)
  | datagram (remoteIp : String) (bytes : List UInt8)
  | read (bytes : List UInt8)
  | written

structure ProfinetServer (R : Type) where
  acceptorClosed : Bool
  /-- All sessions ever made, with their `frame_buf_`. -/
  sessions : List (SessionConfig R × List UInt8)

namespace ProfinetServer

variable {R : Type}

def possible : ProfinetOp → ProfinetResult → Bool
  | _, .failed => true
  | .accept onClosed, .accepted _ _ => !onClosed
  | .receive, .datagram _ _ => true
  | .read _, .read _ => true
  | .write, .written => true
  | _, _ => false

/-- The calls of the laser and the vibration callback. -/
def callbacks (events : List (SessionEvent R)) : List (SessionEvent R) :=
  events.filter fun
    | .laser _ _ => true
    | .vibration _ _ => true
    | _ => false

/-- The writes of the acknowledgements. -/
def writes (events : List (SessionEvent R)) : List ProfinetOp :=
  events.filterMap fun
    | .acknowledge _ => some .write
    | _ => none

variable (site : SessionConfig R)

/-- The handler of `do_accept`. -/
def handleAccept (s : ProfinetServer R) :
    ProfinetResult → Effect (ProfinetServer R) ProfinetOp (SessionEvent R)
  | .accepted remoteIp localIp =>
      { state := { s with sessions := s.sessions ++
          [({ site with remoteIp := remoteIp, localIp := localIp }, [])] }
        started := [.read s.sessions.length, .accept s.acceptorClosed]
        called := [] }
  | _ => ⟨s, [.accept s.acceptorClosed], []⟩

/-- `UdpServer::handle_receive` -/
def handleReceive (s : ProfinetServer R) :
    ProfinetResult → Effect (ProfinetServer R) ProfinetOp (SessionEvent R)
  | .datagram remoteIp bytes =>
      let events :=
        if bytes.isEmpty then [] else handleFrame { site with remoteIp := remoteIp } bytes
      ⟨s, writes events ++ [.receive], callbacks events⟩
  | _ => ⟨s, [.receive], []⟩

/-- The handler of `TcpSession::do_read`. -/
def handleRead (s : ProfinetServer R) (session : Nat) :
    ProfinetResult → Effect (ProfinetServer R) ProfinetOp (SessionEvent R)
  | .read bytes =>
      match s.sessions[session]? with
      | none => ⟨s, [.read session], []⟩
      | some (cfg, frameBuf) =>
          let t := doRead cfg { frameBuf := frameBuf } bytes
          { state := { s with sessions := s.sessions.set session (cfg, t.frameBuf) }
            started := writes t.log ++ [.read session]
            called := callbacks t.log }
  | _ => ⟨s, [], []⟩

def program : Program (ProfinetServer R) ProfinetOp ProfinetResult (SessionEvent R) where
  possible := possible
  handle s
    | .accept _ => handleAccept site s
    | .receive => handleReceive site s
    | .read session => handleRead s session
    | .write => fun _ => ⟨s, [], []⟩
  shutdown s := { s with acceptorClosed := true }
  counted
    | .write => false
    | _ => true

/-- After `start`: the UDP server receives, and the acceptor accepts. -/
def start : State (ProfinetServer R) ProfinetOp := .start ⟨false, []⟩ [.receive, .accept false]

/-- The completions that start something again. -/
def rearms : ProfinetOp → ProfinetResult → Prop
  | .accept _, _ => True
  | .receive, _ => True
  | .read _, result => result ≠ .failed
  | .write, _ => False

end ProfinetServer

/-! ## `HttpServer` and `WebSocketServer` -/

inductive StreamOp where
  | accept (onClosed : Bool)
  | read
  | write
deriving DecidableEq, Repr

/-- The state of these servers that matters is whether the acceptor is closed. -/
def acceptorPossible : StreamOp → (ec : Bool) → Bool
  | .accept onClosed, ec => ec || !onClosed
  | _, _ => true

/-- A write counts neither here nor there. -/
def StreamOp.counted : StreamOp → Bool
  | .write => false
  | _ => true

/-- `handle_accept` starts the read of the new connection, and `do_accept` the
next accept. -/
def handleAccept (acceptorClosed ec : Bool) : Effect Bool StreamOp Empty where
  state := acceptorClosed
  started := if ec then [.accept acceptorClosed] else [.read, .accept acceptorClosed]
  called := []

/-- A connection reads one request and writes one response. -/
def httpServer : Program Bool StreamOp Bool Empty where
  possible := acceptorPossible
  handle acceptorClosed
    | .accept _ => handleAccept acceptorClosed
    | .read => fun ec => ⟨acceptorClosed, if ec then [] else [.write], []⟩
    | .write => fun _ => ⟨acceptorClosed, [], []⟩
  shutdown _ := true
  counted := StreamOp.counted

/-- The handler of the read that `handle_accept` starts only drops what was read. -/
def webSocketServer : Program Bool StreamOp Bool Empty where
  possible := acceptorPossible
  handle acceptorClosed
    | .accept _ => handleAccept acceptorClosed
    | .read => fun _ => ⟨acceptorClosed, [], []⟩
    | .write => fun _ => ⟨acceptorClosed, [], []⟩
  shutdown _ := true
  counted := StreamOp.counted

/-- After `start`. -/
def streamStart : State Bool StreamOp := .start false [.accept false]

def StreamOp.rearms : StreamOp → Bool → Prop
  | .accept _, _ => True
  | _, _ => False

/-! ## What a handler starts -/

/-- A handler that starts an operation that counts is not silent. -/
theorem not_silent {σ κ ρ γ : Type} {p : Program σ κ ρ γ} {inner : σ} {kind kind' : κ} {result : ρ}
    (hstarted : kind' ∈ (p.handle inner kind result).started) (hcounted : p.counted kind' = true) :
    ¬ p.Silent inner kind result := by
  intro h
  have hmem := List.mem_filter.mpr ⟨hstarted, hcounted⟩
  rw [h.1] at hmem
  cases hmem

namespace ProfinetServer

variable {R : Type} (site : SessionConfig R) (s : ProfinetServer R)

theorem accept_started (onClosed : Bool) (result : ProfinetResult) :
    .accept s.acceptorClosed ∈ ((program site).handle s (.accept onClosed) result).started := by
  cases result with
  | accepted remoteIp localIp => exact List.mem_cons_of_mem _ List.mem_cons_self
  | _ => exact List.mem_cons_self

theorem receive_started (result : ProfinetResult) :
    .receive ∈ ((program site).handle s .receive result).started := by
  cases result with
  | datagram remoteIp bytes => exact List.mem_append_right _ List.mem_cons_self
  | _ => exact List.mem_cons_self

theorem read_started (session : Nat) (bytes : List UInt8) :
    .read session ∈ ((program site).handle s (.read session) (.read bytes)).started := by
  show _ ∈ (handleRead s session (.read bytes)).started
  rw [handleRead]
  split
  · exact List.mem_cons_self
  · exact List.mem_append_right _ List.mem_cons_self

theorem silent_iff (kind : ProfinetOp) (result : ProfinetResult)
    (hpossible : possible kind result = true) :
    (program site).Silent s kind result ↔ ¬ rearms kind result := by
  cases kind with
  | accept onClosed =>
      have hloud := not_silent (accept_started site s onClosed result) rfl
      exact iff_of_false hloud fun h => h trivial
  | receive =>
      have hloud := not_silent (receive_started site s result) rfl
      exact iff_of_false hloud fun h => h trivial
  | read session =>
      cases result with
      | failed => exact iff_of_true ⟨rfl, rfl⟩ fun h => h rfl
      | read bytes =>
          have hloud := not_silent (read_started site s session bytes) rfl
          exact iff_of_false hloud fun h => h (by simp [rearms])
      | _ => cases hpossible
  | write => exact iff_of_true ⟨rfl, rfl⟩ id

end ProfinetServer

theorem handleAccept_started (acceptorClosed ec : Bool) :
    .accept acceptorClosed ∈ (handleAccept acceptorClosed ec).started := by
  cases ec with
  | true => exact List.mem_cons_self
  | false => exact List.mem_cons_of_mem _ List.mem_cons_self

theorem httpServer_silent_iff (acceptorClosed : Bool) (kind : StreamOp) (ec : Bool) :
    httpServer.Silent acceptorClosed kind ec ↔ ¬ kind.rearms ec := by
  cases kind with
  | accept onClosed =>
      have hloud : ¬ httpServer.Silent acceptorClosed (.accept onClosed) ec :=
        not_silent (handleAccept_started acceptorClosed ec) rfl
      exact iff_of_false hloud fun h => h trivial
  | read =>
      refine iff_of_true ⟨?_, rfl⟩ id
      cases ec <;> rfl
  | write => exact iff_of_true ⟨rfl, rfl⟩ id

theorem webSocketServer_silent_iff (acceptorClosed : Bool) (kind : StreamOp) (ec : Bool) :
    webSocketServer.Silent acceptorClosed kind ec ↔ ¬ kind.rearms ec := by
  cases kind with
  | accept onClosed =>
      have hloud : ¬ webSocketServer.Silent acceptorClosed (.accept onClosed) ec :=
        not_silent (handleAccept_started acceptorClosed ec) rfl
      exact iff_of_false hloud fun h => h trivial
  | read => exact iff_of_true ⟨rfl, rfl⟩ id
  | write => exact iff_of_true ⟨rfl, rfl⟩ id

/-! ## Runs -/

/-- However long a drained server has been at rest, an accept that is outstanding
fails, and another is started. -/
def Restless {σ κ ρ γ : Type} (p : Program σ κ ρ γ) (failed : ρ) (s : State σ κ) : Prop :=
  ∃ i t, p.step s (.complete i failed) = some t ∧ ¬ p.Quiet s (.complete i failed) ∧ Drained t

theorem restless_of_outstanding {σ κ ρ γ : Type} {p : Program σ κ ρ γ} {failed : ρ}
    {kinds : κ → Prop} (hkinds : ∀ inner kind, kinds kind →
      p.possible kind failed = true ∧ ¬ p.Silent inner kind failed)
    {s : State σ κ} (hs : Drained s) (h : Reactor.Outstanding kinds s) : Restless p failed s := by
  obtain ⟨op, hmem, hkind⟩ := h
  obtain ⟨i, hi⟩ := List.mem_iff_getElem?.mp hmem
  obtain ⟨hpossible, hloud⟩ := hkinds s.inner op.kind hkind
  obtain ⟨t, ht⟩ : ∃ t, p.step s (.complete i failed) = some t := by
    simp [Program.step, hi, hpossible]
  exact ⟨i, t, ht, fun hquiet => hloud (hquiet hs i failed op rfl hi), hs.step ht⟩

/-- What a run of a server comes to once drained. -/
structure RestsIff {σ κ ρ γ : Type} (p : Program σ κ ρ γ) (rearms : κ → ρ → Prop) (failed : ρ)
    (s : State σ κ) (es : List (Reactor.Event ρ)) : Prop where
  quiet_iff : Steps.StepsMeet p.step p.Quiet s es ↔
    Steps.StepsMeet p.step (Program.Avoids rearms) s es
  restless : ∀ t, Steps.exec p.step s es = some t → Drained t → Restless p failed t

def ProfinetOp.IsAccept (kind : ProfinetOp) : Prop := ∃ onClosed, kind = .accept onClosed

def StreamOp.IsAccept (kind : StreamOp) : Prop := ∃ onClosed, kind = .accept onClosed

theorem ProfinetServer.restsIff {R : Type} (site : SessionConfig R)
    (es : List (Reactor.Event ProfinetResult)) :
    RestsIff (program site) rearms .failed start es := by
  refine ⟨Reactor.stepsMeet_quiet_iff (silent_iff site), fun t hexec hdrained => ?_⟩
  have hagain : ∀ (s : ProfinetServer R) kind result, possible kind result = true →
      kind.IsAccept → ∃ kind' ∈ ((program site).handle s kind result).started,
        kind'.IsAccept := by
    rintro s kind result - ⟨onClosed, rfl⟩
    exact ⟨_, accept_started site s onClosed result, _, rfl⟩
  have hstart : Reactor.Outstanding ProfinetOp.IsAccept (start : State (ProfinetServer R) _) :=
    ⟨⟨.accept false, false⟩, List.mem_cons_of_mem _ List.mem_cons_self, _, rfl⟩
  refine restless_of_outstanding ?_ hdrained (Reactor.exec_outstanding hagain hstart hexec)
  rintro s kind ⟨onClosed, rfl⟩
  exact ⟨rfl, not_silent (accept_started site s onClosed .failed) rfl⟩

/-- The two servers whose accepts are handled by `handleAccept`. -/
theorem stream_restsIff {p : Program Bool StreamOp Bool Empty}
    (hpossible : p.possible = acceptorPossible)
    (haccept : ∀ closed onClosed ec, p.handle closed (.accept onClosed) ec = handleAccept closed ec)
    (hsilent : ∀ closed kind ec, p.Silent closed kind ec ↔ ¬ kind.rearms ec)
    (es : List (Reactor.Event Bool)) : RestsIff p StreamOp.rearms true streamStart es := by
  have hloud : ∀ closed kind ec, p.possible kind ec = true →
      (p.Silent closed kind ec ↔ ¬ kind.rearms ec) := fun closed kind ec _ => hsilent closed kind ec
  refine ⟨Reactor.stepsMeet_quiet_iff hloud, fun t hexec hdrained => ?_⟩
  have hagain : ∀ closed kind ec, p.possible kind ec = true → kind.IsAccept →
      ∃ kind' ∈ (p.handle closed kind ec).started, kind'.IsAccept := by
    rintro closed kind ec - ⟨onClosed, rfl⟩
    rw [haccept]
    exact ⟨_, handleAccept_started closed ec, _, rfl⟩
  have hstart : Reactor.Outstanding StreamOp.IsAccept streamStart :=
    ⟨⟨.accept false, false⟩, List.mem_cons_self, _, rfl⟩
  refine restless_of_outstanding ?_ hdrained (Reactor.exec_outstanding hagain hstart hexec)
  rintro closed kind ⟨onClosed, rfl⟩
  refine ⟨by rw [hpossible]; rfl, (hsilent closed _ true).not.mpr ?_⟩
  exact fun h => h trivial

theorem httpServer_restsIff (es : List (Reactor.Event Bool)) :
    RestsIff httpServer StreamOp.rearms true streamStart es :=
  stream_restsIff rfl (fun _ _ _ => rfl) httpServer_silent_iff es

theorem webSocketServer_restsIff (es : List (Reactor.Event Bool)) :
    RestsIff webSocketServer StreamOp.rearms true streamStart es :=
  stream_restsIff rfl (fun _ _ _ => rfl) webSocketServer_silent_iff es

/-- A run that drains the server can be continued so that it is not quiet. -/
theorem RestsIff.not_forall_quiet {σ κ ρ γ : Type} {p : Program σ κ ρ γ} {rearms : κ → ρ → Prop}
    {failed : ρ} {s t : State σ κ} {es : List (Reactor.Event ρ)}
    (h : RestsIff p rearms failed s es) (hexec : Steps.exec p.step s es = some t)
    (hdrained : Drained t) : ¬ ∀ es, Steps.StepsMeet p.step p.Quiet s es := by
  intro hquiet
  obtain ⟨i, u, hst, hloud, -⟩ := h.restless t hexec hdrained
  exact hloud ((hquiet (es ++ [.complete i failed])).last hexec hst)

/-- Once drained, a server starts nothing and calls nothing along a run exactly
if no accept, no receive and no successful read of a session completes.  But an
accept is always outstanding then, fails, and is started again. -/
theorem quiet_after_stop_iff {R : Type} (site : SessionConfig R)
    (es : List (Reactor.Event ProfinetResult)) (fs gs : List (Reactor.Event Bool)) :
    RestsIff (ProfinetServer.program site) ProfinetServer.rearms .failed ProfinetServer.start es ∧
      RestsIff httpServer StreamOp.rearms true streamStart fs ∧
      RestsIff webSocketServer StreamOp.rearms true streamStart gs :=
  ⟨ProfinetServer.restsIff site es, httpServer_restsIff fs, webSocketServer_restsIff gs⟩

/-- What is outstanding at `stop` fails, and so does what is started then. -/
theorem stopped_servers_start_accepts :
    ¬ (∀ (site : SessionConfig Unit) es, Steps.StepsMeet (ProfinetServer.program site).step
        (ProfinetServer.program site).Quiet ProfinetServer.start es) ∧
      ¬ (∀ fs, Steps.StepsMeet httpServer.step httpServer.Quiet streamStart fs) ∧
      ¬ ∀ gs, Steps.StepsMeet webSocketServer.step webSocketServer.Quiet streamStart gs := by
  have hprofinet : Steps.exec (ProfinetServer.program silentConfig).step ProfinetServer.start
      [.shutdown, .complete 0 .failed, .complete 0 .failed] =
      some ⟨⟨true, []⟩, [⟨.receive, false⟩, ⟨.accept true, false⟩], true⟩ := rfl
  have hhttp : Steps.exec httpServer.step streamStart [.shutdown, .complete 0 true] =
      some ⟨true, [⟨.accept true, false⟩], true⟩ := rfl
  have hwebSocket : Steps.exec webSocketServer.step streamStart [.shutdown, .complete 0 true] =
      some ⟨true, [⟨.accept true, false⟩], true⟩ := rfl
  refine ⟨fun h => ?_, ?_, ?_⟩
  · refine (ProfinetServer.restsIff silentConfig _).not_forall_quiet hprofinet ?_ (h silentConfig)
    exact ⟨rfl, by simp⟩
  · exact (httpServer_restsIff _).not_forall_quiet hhttp ⟨rfl, by simp⟩
  · exact (webSocketServer_restsIff _).not_forall_quiet hwebSocket ⟨rfl, by simp⟩

end PorcelainMonitor.Modules
