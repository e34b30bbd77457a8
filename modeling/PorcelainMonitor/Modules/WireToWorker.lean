import Mathlib.Data.List.Perm.Basic
import PorcelainMonitor.Modules.Shutdown

/-!
# From the wire to the worker

A vibration passes through a session or the UDP server, the callback, the queue
and the worker.  The bytes that a session has read so far decide what it does, in
order: `done` is what it has done, and the rest is `pending` (`Traced.log`).  So
every vibration that a handler has decoded is one call of the callback, and every
call is in a handler of the worker, behind it or before it.

Nothing is lost, made up or doubled, and the readings of one connection keep their
order, whatever the threads do.
-/

namespace PorcelainMonitor.Modules

open Profinet

variable {R : Type}

/-! ## What the handlers do -/

/-- The vibrations that a handler passes to the callback. -/
def vibrationsOf (log : List (SessionEvent R)) : List (ParsedVibrationMessage R) :=
  log.filterMap fun
    | .vibration packet data => some ⟨packet, data⟩
    | _ => none

@[simp] theorem vibrationsOf_nil : vibrationsOf ([] : List (SessionEvent R)) = [] := rfl

@[simp] theorem vibrationsOf_append (log log' : List (SessionEvent R)) :
    vibrationsOf (log ++ log') = vibrationsOf log ++ vibrationsOf log' :=
  List.filterMap_append

/-- The bytes that a session has read. -/
def readsOf (i : Nat) (es : List (ServerEvent R)) : List UInt8 :=
  es.flatMap fun
    | .read j bytes => if j = i then bytes else []
    | _ => []

theorem readsOf_append (i : Nat) (es : List (ServerEvent R)) (e : ServerEvent R) :
    readsOf i (es ++ [e]) = readsOf i es ++ readsOf i [e] :=
  List.flatMap_append

/-- What a stream of bytes makes a session do. -/
def streamLog (cfg : SessionConfig R) (bytes : List UInt8) : List (SessionEvent R) :=
  (frameBufFraming.deframe bytes).1.flatMap (handleFrame cfg)

/-- What the datagrams make the UDP server do. -/
def datagramLog (cfg : SessionConfig R) (es : List (ServerEvent R)) : List (SessionEvent R) :=
  es.flatMap fun
    | .datagram remoteIp bytes => handleFrame { cfg with remoteIp := remoteIp } bytes
    | _ => []

theorem datagramLog_append (cfg : SessionConfig R) (es : List (ServerEvent R))
    (e : ServerEvent R) :
    datagramLog cfg (es ++ [e]) = datagramLog cfg es ++ datagramLog cfg [e] :=
  List.flatMap_append

/-- One part of a concatenation gets longer. -/
theorem flatMap_update_perm {α : Type*} (f : Nat → List α) (x : List α) {i n : Nat} (hi : i < n) :
    ((List.range n).flatMap (Function.update f i (f i ++ x))).Perm
      ((List.range n).flatMap f ++ x) := by
  induction n with
  | zero => exact absurd hi (Nat.not_lt_zero i)
  | succ n ih =>
      simp only [List.range_succ, List.flatMap_append, List.flatMap_singleton]
      rcases Nat.lt_succ_iff_lt_or_eq.mp hi with hlt | rfl
      · rw [Function.update_of_ne hlt.ne']
        refine ((ih hlt).append_right _).trans ?_
        rw [List.append_assoc, List.append_assoc]
        exact List.perm_append_comm.append_left _
      · have hsame : (List.range i).flatMap (Function.update f i (f i ++ x)) =
            (List.range i).flatMap f := by
          refine List.flatMap_congr fun j hj => ?_
          exact Function.update_of_ne (List.mem_range.mp hj).ne _ _
        rw [hsame, Function.update_self, List.append_assoc]

namespace ServerRun

variable {site : Site R} {s t : ServerRun R}

/-- The next thing a handler does. -/
structure Performed (s t : ServerRun R) (h h' : Handler R) (next : SessionEvent R) : Prop where
  pending : h.pending = next :: h'.pending
  frameBuf : h'.frameBuf = h.frameBuf
  cfg : h'.cfg = h.cfg
  sessions : t.sessions = s.sessions
  udp : t.udp = s.udp
  calls : t.vibrationCalls = s.vibrationCalls ++ vibrationsOf [next]

/-- Steps that are not the handlers'. -/
structure Apart (s t : ServerRun R) : Prop where
  sessions : t.sessions = s.sessions
  udp : t.udp = s.udp
  calls : t.vibrationCalls = s.vibrationCalls

/-- What a step does to the handlers and to the calls of the callback. -/
inductive HandlerMove (site : Site R) (s t : ServerRun R) : ServerEvent R → Prop where
  | accept {remoteIp localIp : String}
      (hsessions : t.sessions = s.sessions ++ [newHandler site remoteIp localIp])
      (hudp : t.udp = s.udp) (hcalls : t.vibrationCalls = s.vibrationCalls) :
      HandlerMove site s t (.accept remoteIp localIp)
  | read {i : Nat} {bytes : List UInt8} {h : Handler R} (hget : s.sessions[i]? = some h)
      (hidle : h.pending = [])
      (hsessions : t.sessions = s.sessions.set i { h with
        frameBuf := (frameBufFraming.deframe (h.frameBuf ++ bytes)).2
        pending := streamLog h.cfg (h.frameBuf ++ bytes) })
      (hudp : t.udp = s.udp) (hcalls : t.vibrationCalls = s.vibrationCalls) :
      HandlerMove site s t (.read i bytes)
  | datagram {remoteIp : String} {bytes : List UInt8} (hidle : s.udp.pending = [])
      (hudp : t.udp = { s.udp with
        pending := handleFrame { s.udp.cfg with remoteIp := remoteIp } bytes })
      (hsessions : t.sessions = s.sessions) (hcalls : t.vibrationCalls = s.vibrationCalls) :
      HandlerMove site s t (.datagram remoteIp bytes)
  | session {i : Nat} {h h' : Handler R} {next : SessionEvent R}
      (hget : s.sessions[i]? = some h) (hpending : h.pending = next :: h'.pending)
      (hframeBuf : h'.frameBuf = h.frameBuf) (hcfg : h'.cfg = h.cfg)
      (hsessions : t.sessions = s.sessions.set i h') (hudp : t.udp = s.udp)
      (hcalls : t.vibrationCalls = s.vibrationCalls ++ vibrationsOf [next]) :
      HandlerMove site s t (.session i)
  | udp {next : SessionEvent R} (hpending : s.udp.pending = next :: t.udp.pending)
      (hcfg : t.udp.cfg = s.udp.cfg) (hsessions : t.sessions = s.sessions)
      (hcalls : t.vibrationCalls = s.vibrationCalls ++ vibrationsOf [next]) :
      HandlerMove site s t .udp
  | apart {e : ServerEvent R} (h : Apart s t) (hreads : ∀ i, readsOf i [e] = [])
      (hdatagrams : ∀ cfg, datagramLog cfg [e] = []) : HandlerMove site s t e

/-! ## What is done and what is pending -/

/-- The session behind a connection is as it was made, but for its buffer and what
it has still to do. -/
structure SessionTraced (bytes : List UInt8) (done : List (SessionEvent R)) (h : Handler R) :
    Prop where
  buffer : h.frameBuf = (frameBufFraming.deframe bytes).2
  log : done ++ h.pending = streamLog h.cfg bytes

/-- After the steps `es` session `i` has done `done i`, and the UDP server
`udpDone`. -/
structure Traced (site : Site R) (localIp : String) (es : List (ServerEvent R))
    (done : Nat → List (SessionEvent R)) (udpDone : List (SessionEvent R)) (s : ServerRun R) :
    Prop where
  sessions : ∀ i h, s.sessions[i]? = some h → SessionTraced (readsOf i es) (done i) h
  unused : ∀ i, s.sessions.length ≤ i → readsOf i es = [] ∧ done i = []
  udpCfg : s.udp.cfg = (newHandler site "" localIp).cfg
  udpLog : udpDone ++ s.udp.pending = datagramLog (newHandler site "" localIp).cfg es
  order : ∀ i, (vibrationsOf (done i)).Sublist s.vibrationCalls
  udpOrder : (vibrationsOf udpDone).Sublist s.vibrationCalls
  all : s.vibrationCalls.Perm
    ((List.range s.sessions.length).flatMap (fun i => vibrationsOf (done i)) ++
      vibrationsOf udpDone)

/-- The handlers have come from the wire to where they are. -/
def HasTrace (site : Site R) (localIp : String) (s : ServerRun R) (es : List (ServerEvent R)) :
    Prop := ∃ done udpDone, Traced site localIp es done udpDone s

variable {localIp : String} {es : List (ServerEvent R)} {done : Nat → List (SessionEvent R)}
  {udpDone : List (SessionEvent R)}

/-- What a read adds to what a session does. -/
theorem SessionTraced.read {bytes bytes' : List UInt8} {done : List (SessionEvent R)}
    (h : Handler R) (htraced : SessionTraced bytes done h) (hidle : h.pending = []) :
    SessionTraced (bytes ++ bytes') done { h with
      frameBuf := (frameBufFraming.deframe (h.frameBuf ++ bytes')).2
      pending := streamLog h.cfg (h.frameBuf ++ bytes') } := by
  have hdone : done = streamLog h.cfg bytes := by
    rw [← htraced.log, hidle, List.append_nil]
  constructor
  · rw [Framing.deframe_append bytes bytes', htraced.buffer]
  · rw [hdone, htraced.buffer]
    simp only [streamLog]
    rw [Framing.deframe_append bytes bytes', List.flatMap_append]

theorem SessionTraced.perform {bytes : List UInt8} {done : List (SessionEvent R)}
    {h h' : Handler R} {next : SessionEvent R} (htraced : SessionTraced bytes done h)
    (hpending : h.pending = next :: h'.pending) (hframeBuf : h'.frameBuf = h.frameBuf)
    (hcfg : h'.cfg = h.cfg) : SessionTraced bytes (done ++ [next]) h' := by
  constructor
  · rw [hframeBuf, htraced.buffer]
  · rw [hcfg, ← htraced.log, hpending, List.append_assoc]
    rfl

/-- A step of the sessions that calls no module and leaves the UDP server alone. -/
theorem Traced.ofSessions {e : ServerEvent R} (h : Traced site localIp es done udpDone s)
    (hudp : t.udp = s.udp) (hcalls : t.vibrationCalls = s.vibrationCalls)
    (hdatagrams : ∀ cfg, datagramLog cfg [e] = [])
    (hlength : s.sessions.length ≤ t.sessions.length)
    (hsessions : ∀ i g, t.sessions[i]? = some g → SessionTraced (readsOf i (es ++ [e])) (done i) g)
    (hunused : ∀ i, t.sessions.length ≤ i → readsOf i (es ++ [e]) = []) :
    Traced site localIp (es ++ [e]) done udpDone t := by
  constructor
  case sessions => exact hsessions
  case unused => exact fun i hi => ⟨hunused i hi, (h.unused i (hlength.trans hi)).2⟩
  case udpCfg => rw [hudp, h.udpCfg]
  case udpLog => rw [hudp, h.udpLog, datagramLog_append, hdatagrams, List.append_nil]
  case order => exact fun i => hcalls ▸ h.order i
  case udpOrder => exact hcalls ▸ h.udpOrder
  case all =>
    obtain ⟨n, hn⟩ := Nat.exists_eq_add_of_le hlength
    have hnew : ((List.range n).map (s.sessions.length + ·)).flatMap
        (fun i => vibrationsOf (done i)) = [] := by
      rw [List.flatMap_map, List.flatMap_eq_nil_iff]
      intro i _
      rw [(h.unused _ (Nat.le_add_right _ i)).2, vibrationsOf_nil]
    rw [hcalls, hn, List.range_add, List.flatMap_append, hnew, List.append_nil]
    exact h.all

/-- A step that reads nothing leaves what was read. -/
theorem Traced.congr {e : ServerEvent R} (h : Traced site localIp es done udpDone s)
    (hapart : Apart s t) (hreads : ∀ i, readsOf i [e] = [])
    (hdatagrams : ∀ cfg, datagramLog cfg [e] = []) :
    Traced site localIp (es ++ [e]) done udpDone t := by
  have hsame : ∀ i, readsOf i (es ++ [e]) = readsOf i es := by
    intro i
    rw [readsOf_append, hreads, List.append_nil]
  refine h.ofSessions hapart.udp hapart.calls hdatagrams (by rw [hapart.sessions])
    (fun i g hget => ?_) fun i hi => ?_
  · rw [hsame]
    exact h.sessions i g (hapart.sessions ▸ hget)
  · rw [hsame]
    exact (h.unused i (hapart.sessions ▸ hi)).1

/-- A new connection. -/
theorem Traced.accept {remoteIp localIp' : String} (h : Traced site localIp es done udpDone s)
    (hsessions : t.sessions = s.sessions ++ [newHandler site remoteIp localIp'])
    (hudp : t.udp = s.udp) (hcalls : t.vibrationCalls = s.vibrationCalls) :
    Traced site localIp (es ++ [.accept remoteIp localIp']) done udpDone t := by
  have hsame : ∀ i, readsOf i (es ++ [.accept remoteIp localIp']) = readsOf i es := by
    intro i
    rw [readsOf_append]
    exact List.append_nil _
  have hlength : t.sessions.length = s.sessions.length + 1 := by
    rw [hsessions, List.length_append]
    rfl
  refine h.ofSessions hudp hcalls (fun _ => rfl) (by omega) (fun i g hget => ?_) fun i hi => ?_
  · rw [hsame]
    rw [hsessions, List.getElem?_append] at hget
    split at hget
    · exact h.sessions i g hget
    · next hi =>
        obtain ⟨hi', rfl⟩ := List.getElem?_eq_some_iff.mp hget
        have hnew : i = s.sessions.length := by
          rw [List.length_singleton] at hi'
          omega
        subst hnew
        have hnil : frameBufFraming.deframe [] = ([], []) :=
          Framing.deframe_of_incomplete fun n hn => by
            have htotal := hn.1
            rw [total_of_lt (by decide)] at htotal
            cases htotal
        obtain ⟨hunread, hundone⟩ := h.unused s.sessions.length le_rfl
        rw [hunread, hundone]
        constructor
        · rw [hnil]
          simp [newHandler]
        · rw [streamLog, hnil]
          simp [newHandler]
  · rw [hsame]
    exact (h.unused i (by omega)).1

/-- Bytes for a session that has nothing left to do. -/
theorem Traced.read {i : Nat} {bytes : List UInt8} {g : Handler R}
    (h : Traced site localIp es done udpDone s) (hget : s.sessions[i]? = some g)
    (hidle : g.pending = [])
    (hsessions : t.sessions = s.sessions.set i { g with
      frameBuf := (frameBufFraming.deframe (g.frameBuf ++ bytes)).2
      pending := streamLog g.cfg (g.frameBuf ++ bytes) })
    (hudp : t.udp = s.udp) (hcalls : t.vibrationCalls = s.vibrationCalls) :
    Traced site localIp (es ++ [.read i bytes]) done udpDone t := by
  have hreads : ∀ j, readsOf j (es ++ [.read i bytes]) =
      readsOf j es ++ if i = j then bytes else [] := by
    intro j
    rw [readsOf_append]
    simp [readsOf]
  have hlength : t.sessions.length = s.sessions.length := by
    rw [hsessions, List.length_set]
  have hi : i < s.sessions.length := (List.getElem?_eq_some_iff.mp hget).1
  refine h.ofSessions hudp hcalls (fun _ => rfl) (by omega) (fun j g' hget' => ?_) fun j hj => ?_
  · rw [hreads]
    rw [hsessions, List.getElem?_set] at hget'
    split at hget'
    · next hij =>
        subst hij
        cases hget'
        rw [if_pos rfl]
        exact (h.sessions i g hget).read g hidle
    · next hij =>
        rw [if_neg hij, List.append_nil]
        exact h.sessions j g' hget'
  · rw [hreads, if_neg (by omega), List.append_nil]
    exact (h.unused j (by omega)).1

/-- A datagram for the UDP server, which has nothing left to do. -/
theorem Traced.datagram {remoteIp : String} {bytes : List UInt8}
    (h : Traced site localIp es done udpDone s) (hidle : s.udp.pending = [])
    (hudp : t.udp = { s.udp with
      pending := handleFrame { s.udp.cfg with remoteIp := remoteIp } bytes })
    (hsessions : t.sessions = s.sessions) (hcalls : t.vibrationCalls = s.vibrationCalls) :
    Traced site localIp (es ++ [.datagram remoteIp bytes]) done udpDone t := by
  have hsame : ∀ i, readsOf i (es ++ [.datagram remoteIp bytes]) = readsOf i es := by
    intro i
    rw [readsOf_append]
    exact List.append_nil _
  constructor
  case sessions =>
    intro i g hget
    rw [hsame]
    exact h.sessions i g (hsessions ▸ hget)
  case unused =>
    intro i hi
    rw [hsame]
    exact h.unused i (hsessions ▸ hi)
  case udpCfg =>
    rw [hudp]
    exact h.udpCfg
  case udpLog =>
    have hdone : udpDone = datagramLog (newHandler site "" localIp).cfg es := by
      rw [← h.udpLog, hidle, List.append_nil]
    rw [hudp, h.udpCfg, datagramLog_append, ← hdone]
    simp [datagramLog]
  case order => exact fun i => hcalls ▸ h.order i
  case udpOrder => exact hcalls ▸ h.udpOrder
  case all =>
    rw [hcalls, hsessions]
    exact h.all

/-- A session goes on. -/
theorem Traced.session {i : Nat} {g g' : Handler R} {next : SessionEvent R}
    (h : Traced site localIp es done udpDone s) (hget : s.sessions[i]? = some g)
    (hpending : g.pending = next :: g'.pending) (hframeBuf : g'.frameBuf = g.frameBuf)
    (hcfg : g'.cfg = g.cfg) (hsessions : t.sessions = s.sessions.set i g')
    (hudp : t.udp = s.udp) (hcalls : t.vibrationCalls = s.vibrationCalls ++ vibrationsOf [next]) :
    Traced site localIp (es ++ [.session i]) (Function.update done i (done i ++ [next])) udpDone
      t := by
  have hsame : ∀ j, readsOf j (es ++ [.session i]) = readsOf j es := by
    intro j
    rw [readsOf_append]
    exact List.append_nil _
  have hlength : t.sessions.length = s.sessions.length := by
    rw [hsessions, List.length_set]
  have hi : i < s.sessions.length := (List.getElem?_eq_some_iff.mp hget).1
  constructor
  case sessions =>
    intro j g₁ hget'
    rw [hsame]
    rw [hsessions, List.getElem?_set] at hget'
    split at hget'
    · next hij =>
        subst hij
        cases hget'
        rw [Function.update_self]
        exact (h.sessions i g hget).perform hpending hframeBuf hcfg
    · next hij =>
        rw [Function.update_of_ne (Ne.symm hij)]
        exact h.sessions j g₁ hget'
  case unused =>
    intro j hj
    rw [hlength] at hj
    rw [hsame, Function.update_of_ne (by omega)]
    exact h.unused j hj
  case udpCfg => rw [hudp, h.udpCfg]
  case udpLog =>
    rw [hudp, h.udpLog, datagramLog_append]
    exact (List.append_nil _).symm
  case order =>
    intro j
    rw [hcalls]
    by_cases hij : j = i
    · subst hij
      rw [Function.update_self, vibrationsOf_append]
      exact (h.order j).append (List.Sublist.refl _)
    · rw [Function.update_of_ne hij]
      exact (h.order j).trans (List.sublist_append_left _ _)
  case udpOrder =>
    rw [hcalls]
    exact h.udpOrder.trans (List.sublist_append_left _ _)
  case all =>
    have hupdate : (fun j => vibrationsOf (Function.update done i (done i ++ [next]) j)) =
        Function.update (fun j => vibrationsOf (done j)) i
          (vibrationsOf (done i) ++ vibrationsOf [next]) := by
      funext j
      by_cases hij : j = i
      · subst hij
        rw [Function.update_self, Function.update_self, vibrationsOf_append]
      · rw [Function.update_of_ne hij, Function.update_of_ne hij]
    rw [hcalls, hlength, hupdate]
    have hone := flatMap_update_perm (fun j => vibrationsOf (done j)) (vibrationsOf [next]) hi
    refine (h.all.append_right _).trans (.trans ?_ (hone.symm.append_right _))
    rw [List.append_assoc, List.append_assoc]
    exact List.perm_append_comm.append_left _

/-- The UDP server goes on. -/
theorem Traced.udp {next : SessionEvent R} (h : Traced site localIp es done udpDone s)
    (hpending : s.udp.pending = next :: t.udp.pending) (hcfg : t.udp.cfg = s.udp.cfg)
    (hsessions : t.sessions = s.sessions)
    (hcalls : t.vibrationCalls = s.vibrationCalls ++ vibrationsOf [next]) :
    Traced site localIp (es ++ [.udp]) done (udpDone ++ [next]) t := by
  have hsame : ∀ i, readsOf i (es ++ [.udp]) = readsOf i es := by
    intro i
    rw [readsOf_append]
    exact List.append_nil _
  constructor
  case sessions =>
    intro i g hget
    rw [hsame]
    exact h.sessions i g (hsessions ▸ hget)
  case unused =>
    intro i hi
    rw [hsame]
    exact h.unused i (hsessions ▸ hi)
  case udpCfg => rw [hcfg, h.udpCfg]
  case udpLog =>
    have hlog := h.udpLog
    rw [hpending] at hlog
    rw [List.append_assoc, datagramLog_append, ← hlog]
    exact (List.append_nil _).symm
  case order =>
    intro i
    rw [hcalls]
    exact (h.order i).trans (List.sublist_append_left _ _)
  case udpOrder =>
    rw [hcalls, vibrationsOf_append]
    exact h.udpOrder.append (List.Sublist.refl _)
  case all =>
    rw [hcalls, hsessions, vibrationsOf_append, ← List.append_assoc]
    exact h.all.append_right _

/-! ## Steps -/

theorem alertWsStep_apart (hst : s.alertWsStep = some t) : Apart s t := by
  have htake : ∀ {topic : Topic} (input : SharedQueue topic) (taken : Msg R topic → Taken R)
      (next : AlertWsPc R), Apart s (s.tryTake input taken next) := by
    intro topic input taken next
    rw [tryTake]
    split
    · exact ⟨rfl, rfl, rfl⟩
    · exact ⟨rfl, rfl, rfl⟩
  rw [alertWsStep] at hst
  split at hst
  case h_7 => cases hst
  case h_1 => cases hst; exact ⟨rfl, rfl, rfl⟩
  case h_6 => cases hst; exact ⟨rfl, rfl, rfl⟩
  all_goals
    cases hst
    exact htake _ _ _

theorem stopStep_apart (hst : s.stopStep = some t) : Apart s t := by
  cases stopMove hst with
  | clearAlertWs => exact ⟨rfl, rfl, rfl⟩
  | other => exact ⟨rfl, rfl, rfl⟩

section Steps

variable [Field R] [LinearOrder R] {e : ServerEvent R} {h h' : Handler R}

theorem perform_performed (hp : s.perform site h = some (t, h')) :
    ∃ next, Performed s t h h' next := by
  rw [perform] at hp
  split at hp
  · cases hp
  · next hpending =>
      cases hp
      exact ⟨_, hpending, rfl, rfl, rfl, rfl, (List.append_nil _).symm⟩
  · next hpending =>
      obtain ⟨p, _, hp⟩ := Option.map_eq_some_iff.mp hp
      cases hp
      exact ⟨_, hpending, rfl, rfl, rfl, rfl, (List.append_nil _).symm⟩
  · next hpending =>
      obtain ⟨p, _, hp⟩ := Option.map_eq_some_iff.mp hp
      cases hp
      exact ⟨_, hpending, rfl, rfl, rfl, rfl, rfl⟩
  · next hpending =>
      cases hp
      exact ⟨_, hpending, rfl, rfl, rfl, rfl, (List.append_nil _).symm⟩
  · next hpending =>
      cases hp
      exact ⟨_, hpending, rfl, rfl, rfl, rfl, (List.append_nil _).symm⟩

theorem loopStep_apart {m : LoopModule} {outcomes : Nat → DemOutcome R}
    (hst : s.loopStep site m outcomes = some t) : Apart s t := by
  rw [loopStep] at hst
  split at hst
  · cases hst
    exact ⟨rfl, rfl, rfl⟩
  · obtain ⟨p, _, rfl⟩ := Option.map_eq_some_iff.mp hst
    exact ⟨rfl, rfl, rfl⟩
  · cases hst

theorem handlerMove (hst : step site s e = some t) : HandlerMove site s t e := by
  unfold step at hst
  split at hst
  · cases hst
  · cases e with
    | accept remoteIp localIp =>
        simp only at hst
        split at hst
        · cases hst
          exact .accept rfl rfl rfl
        · cases hst
    | read i bytes =>
        cases hget : s.sessions[i]? with
        | none => simp [hget] at hst
        | some h =>
            simp only [hget] at hst
            split at hst
            · next hok =>
                cases hst
                refine .read hget (List.isEmpty_iff.mp hok.2.1) ?_ rfl rfl
                simp only [doRead_eq]
                rfl
            · cases hst
    | datagram remoteIp bytes =>
        simp only at hst
        split at hst
        · next hok =>
            cases hst
            exact .datagram (List.isEmpty_iff.mp hok.2.1) rfl rfl rfl
        · cases hst
    | session i =>
        cases hget : s.sessions[i]? with
        | none => simp [hget] at hst
        | some h =>
            simp only [hget] at hst
            obtain ⟨⟨u, h'⟩, hp, rfl⟩ := Option.map_eq_some_iff.mp hst
            obtain ⟨next, hnext⟩ := perform_performed hp
            exact .session hget hnext.pending hnext.frameBuf hnext.cfg
              (congrArg (fun sessions => sessions.set i h') hnext.sessions) hnext.udp hnext.calls
    | udp =>
        obtain ⟨⟨u, h'⟩, hp, rfl⟩ := Option.map_eq_some_iff.mp hst
        obtain ⟨next, hnext⟩ := perform_performed hp
        exact .udp hnext.pending hnext.cfg hnext.sessions hnext.calls
    | loop m outcomes => exact .apart (loopStep_apart hst) (fun _ => rfl) fun _ => rfl
    | alertWs => exact .apart (alertWsStep_apart hst) (fun _ => rfl) fun _ => rfl
    | callStop =>
        simp only at hst
        split at hst
        · cases hst
          exact .apart ⟨rfl, rfl, rfl⟩ (fun _ => rfl) fun _ => rfl
        · cases hst
    | stop => exact .apart (stopStep_apart hst) (fun _ => rfl) fun _ => rfl

/-- The calls of the callback are never forgotten. -/
theorem step_vibrationCalls (hst : step site s e = some t) :
    s.vibrationCalls <+: t.vibrationCalls := by
  cases handlerMove hst with
  | accept hsessions hudp hcalls => exact hcalls ▸ List.prefix_rfl
  | read hget hidle hsessions hudp hcalls => exact hcalls ▸ List.prefix_rfl
  | datagram hidle hudp hsessions hcalls => exact hcalls ▸ List.prefix_rfl
  | session hget hpending hframeBuf hcfg hsessions hudp hcalls =>
      rw [hcalls]
      exact List.prefix_append _ _
  | udp hpending hcfg hsessions hcalls =>
      rw [hcalls]
      exact List.prefix_append _ _
  | apart h => exact h.calls ▸ List.prefix_rfl

end Steps

/-! ## Runs -/

section Runs

variable [Field R] [LinearOrder R] {e : ServerEvent R}

omit [LinearOrder R] in
theorem Traced.start (site : Site R) (unset : RepairMaterial R) (localIp : String) :
    Traced site localIp [] (fun _ => []) [] (.start site unset localIp) where
  sessions i h hget := by cases hget
  unused i _ := ⟨rfl, rfl⟩
  udpCfg := rfl
  udpLog := rfl
  order i := List.nil_sublist _
  udpOrder := List.nil_sublist _
  all := List.Perm.refl _

/-- What a step keeps. -/
theorem HasTrace.step (h : HasTrace site localIp s es) (hst : step site s e = some t) :
    HasTrace site localIp t (es ++ [e]) := by
  obtain ⟨done, udpDone, h⟩ := h
  cases handlerMove hst with
  | accept hsessions hudp hcalls => exact ⟨_, _, h.accept hsessions hudp hcalls⟩
  | read hget hidle hsessions hudp hcalls =>
      exact ⟨_, _, h.read hget hidle hsessions hudp hcalls⟩
  | datagram hidle hudp hsessions hcalls =>
      exact ⟨_, _, h.datagram hidle hudp hsessions hcalls⟩
  | session hget hpending hframeBuf hcfg hsessions hudp hcalls =>
      exact ⟨_, _, h.session hget hpending hframeBuf hcfg hsessions hudp hcalls⟩
  | udp hpending hcfg hsessions hcalls =>
      exact ⟨_, _, h.udp hpending hcfg hsessions hcalls⟩
  | apart hapart hreads hdatagrams => exact ⟨_, _, h.congr hapart hreads hdatagrams⟩

/-- The vibrations that the worker has handled, has in its hands or has still in its
queue. -/
def vibrationsAt (s : ServerRun R) : List (ParsedVibrationMessage R) :=
  s.handled.vibration ++ inHandler s.alertWs ++ s.waiting

/-- What is read off the wire and what is with the worker. -/
structure Delivered (cfg : SessionConfig R) (es : List (ServerEvent R))
    (done : Nat → List (SessionEvent R)) (udpDone : List (SessionEvent R)) (s : ServerRun R) :
    Prop where
  /-- The bytes read by a session decide what it has done and has still to do. -/
  session : ∀ i g, s.sessions[i]? = some g → done i ++ g.pending = streamLog g.cfg (readsOf i es)
  udp : udpDone ++ s.udp.pending = datagramLog cfg es
  /-- Each vibration is with the worker once, and nothing else is. -/
  all : s.vibrationsAt.Perm
    ((List.range s.sessions.length).flatMap (fun i => vibrationsOf (done i)) ++
      vibrationsOf udpDone)
  order : ∀ i, (vibrationsOf (done i)).Sublist s.vibrationsAt
  udpOrder : (vibrationsOf udpDone).Sublist s.vibrationsAt

/-- In every run the vibrations with the worker are those that the sessions and the
UDP server have decoded, each once, and those of one connection in their order. -/
theorem vibrations_delivered (site : Site R) (unset : RepairMaterial R) (localIp : String)
    {es : List (ServerEvent R)} {s : ServerRun R}
    (h : Steps.exec (step site) (start site unset localIp) es = some s) :
    ∃ done udpDone, Delivered (newHandler site "" localIp).cfg es done udpDone s := by
  have hi : RunInv unset s := Steps.exec_invariant (fun _ _ _ h hst => (h.step hst).1)
    (.start site unset localIp) h
  have hstart : HasTrace site localIp (start site unset localIp) [] :=
    ⟨_, _, .start site unset localIp⟩
  have hrun : HasTrace site localIp s es :=
    Steps.exec_history (fun _ _ _ _ htrace hst => htrace.step hst) hstart h
  obtain ⟨done, udpDone, htraced⟩ := hrun
  have hcalls : s.vibrationsAt = s.vibrationCalls := by
    rw [vibrationsAt, hi.handled, hi.fifo]
  refine ⟨done, udpDone, fun i g hget => (htraced.sessions i g hget).log, htraced.udpLog,
    ?_, ?_, ?_⟩
  · rw [hcalls]
    exact htraced.all
  · rw [hcalls]
    exact htraced.order
  · rw [hcalls]
    exact htraced.udpOrder

end Runs

/-- One frame, until it is acknowledged. -/
theorem vibrations_delivered_frame :
    ∃ s, Steps.exec (step zeroSite) (start zeroSite zeroMaterial "10.0.0.1")
        (arrival ++ acknowledgment) = some s ∧
      ∃ done udpDone, Delivered (newHandler zeroSite "" "10.0.0.1").cfg
        (arrival ++ acknowledgment) done udpDone s := by
  obtain ⟨s, hs⟩ : ∃ s, Steps.exec (step zeroSite) framed acknowledgment = some s := ⟨_, rfl⟩
  rw [← exec_arrival] at hs
  exact ⟨s, hs, vibrations_delivered zeroSite zeroMaterial "10.0.0.1" hs⟩

end ServerRun

end PorcelainMonitor.Modules
