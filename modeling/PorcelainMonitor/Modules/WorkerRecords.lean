import PorcelainMonitor.Database.ReadBack
import PorcelainMonitor.Http.AlertLife
import PorcelainMonitor.Modules.CrackCodes
import PorcelainMonitor.Modules.Rounds

/-!
# What the worker records

The worker is the only thread that stores cracks and alerts.  Between its calls of the
database other threads use it too, and statements fail.

A crack that has got an id is found under it ever after (`stored_crack_found`).  The alerts
that go to the dispatcher and the rows that the table of alerts gains are the same, one for
one and in order (`alerts_announced`).
-/

namespace PorcelainMonitor.Modules

open Database
open Effects (Comp Maintains)
open Http (Installation SystemEvent plainInstallation predictFirst)

variable {R : Type}

/-! ## Cracks -/

/-- Whatever requests and operations come after `insert_crack` has returned an id. -/
theorem stored_crack_found [Field R] [LinearOrder R] (inst : Installation R) {s : Store R}
    {data : LaserMicroscopeData R} {crack : CrackInfo R} {clock now id : Int}
    {faults : Nat → Fate}
    (hid : (s.outcome inst.out faults now
      (insertCrack (stamp data clock crack) data.porcelainId)).1 = some id)
    (hpos : 0 < id) (events : List (SystemEvent R)) (faults' : Nat → Fate) (now' : Int) :
    let t := events.foldl inst.react (s.outcome inst.out faults now
      (insertCrack (stamp data clock crack) data.porcelainId)).2
    let found := storedCrack inst.out inst.lib (stamp data clock crack) data.porcelainId id
    (t.outcome inst.out faults' now' (getCrack inst.lib id)).1 =
        some (if faults' 0 = .runs then found else CrackInfo.zero) ∧
      (faults' 0 = .runs →
        ((t.rows "cracks").countP fun r =>
          r.matches (some ("porcelain_id", data.porcelainId))) ≤ 100 →
        ∃ listed, (t.outcome inst.out faults' now'
          (getCracksByPorcelain inst.lib data.porcelainId)).1 = some listed ∧ found ∈ listed) :=
  insertCrack_read_back hid hpos (inst.run_grows _ events) faults' now'

/-- The first crack, and a second request for its prediction. -/
theorem stored_crack_found_first :
    let inserted := oneObject.outcome plainInstallation.out (fun _ => .runs) 0
      (insertCrack (stamp twoCracks.msg.data 0 smallCrack) twoCracks.msg.data.porcelainId)
    let t := [SystemEvent.request 5 predictFirst].foldl plainInstallation.react inserted.2
    let found := storedCrack plainInstallation.out plainInstallation.lib
      (stamp twoCracks.msg.data 0 smallCrack) twoCracks.msg.data.porcelainId 1
    inserted.1 = some 1 ∧
      (t.outcome plainInstallation.out (fun _ => .runs) 6 (getCrack plainInstallation.lib 1)).1 =
        some found := by
  have hid : (oneObject.outcome plainInstallation.out (fun _ => .runs) 0 (insertCrack
      (stamp twoCracks.msg.data 0 smallCrack) twoCracks.msg.data.porcelainId)).1 = some 1 := rfl
  exact ⟨hid, (stored_crack_found plainInstallation hid (by decide)
    [.request 5 predictFirst] (fun _ => .runs) 6).1⟩

/-! ## The worker among others -/

/-- What the worker meets, by the number of its call. -/
structure Surroundings (R : Type) where
  clock : Nat → Int
  /-- The time of the database server. -/
  serverTime : Nat → Int
  /-- What becomes of the statements of an operation. -/
  faults : Nat → Nat → Fate
  /-- What becomes of the statement of `insert_alert`. -/
  alertFate : Nat → Fate
  /-- What other threads do to the tables before the call. -/
  others : Nat → List (SystemEvent R)
  broadcastJson : Nat → Except Failure Unit

structure Recording (R : Type) where
  store : Store R
  /-- How often the worker has called anything. -/
  calls : Nat
  /-- What it has given to `enqueue_alert`. -/
  enqueued : List (Alert R)

section Worker

variable [Field R] [LinearOrder R] (inst : Installation R) (env : Surroundings R)

/-- An operation of the database, after those of the other threads. -/
def recordingOperation {α : Type} (faults : Nat → Nat → Fate) (p : Db R α) :
    Comp Failure (Recording R) α where
  run w :=
    let (value, store) := ((env.others w.calls).foldl inst.react w.store).outcome inst.out
      (faults w.calls) (env.serverTime w.calls) p
    (match value with
      | some a => .ok a
      | none => .error invalidUtf8, ⟨store, w.calls + 1, w.enqueued⟩)

def recording : Services (Comp Failure (Recording R)) R where
  logProfinetPacket sourceIp destIp frameId payload :=
    recordingOperation inst env env.faults
      (Database.logProfinetPacket sourceIp destIp frameId payload)
  insertLaserData data := recordingOperation inst env env.faults (Database.insertLaserData data)
  insertVibrationData data :=
    recordingOperation inst env env.faults (Database.insertVibrationData data)
  insertCrack crack porcelainId :=
    recordingOperation inst env env.faults (Database.insertCrack crack porcelainId)
  insertCrackPoints crackId points :=
    recordingOperation inst env env.faults (Database.insertCrackPoints crackId points)
  insertAlert alert :=
    recordingOperation inst env (fun n _ => env.alertFate n) (Database.insertAlert alert)
  enqueueAlert alert := ⟨fun w => (.ok (), { w with enqueued := w.enqueued ++ [alert] })⟩
  broadcastJson _ := ⟨fun w => (env.broadcastJson w.calls, { w with calls := w.calls + 1 })⟩
  now := ⟨fun w => (.ok (env.clock w.calls), { w with calls := w.calls + 1 })⟩

end Worker

/-! ## Alerts -/

/-- The row is that of the alert, whatever its status has become. -/
structure RecordOf (alert : Alert R) (r : Record R) : Prop where
  id : r.id = alert.id
  values : ∀ column ∉ statusColumns,
    valueOf r.values column = valueOf (rowValues "alerts" (alertColumns alert) r.createdAt) column

theorem RecordOf.later {alert : Alert R} {r r' : Record R} (h : RecordOf alert r)
    (hlater : r.Later "alerts" r') : RecordOf alert r' where
  id := hlater.id.trans h.id
  values column hcolumn := by
    rw [hlater.values column (.inr hcolumn), hlater.createdAt]
    exact h.values column hcolumn

/-- The new rows of the table are those of the alerts that have been enqueued, in order. -/
structure Announced (s : Store R) (w : Recording R) : Prop where
  count : (w.store.rows "alerts").length = (s.rows "alerts").length + w.enqueued.length
  record : ∀ (i : Nat) (alert : Alert R), w.enqueued[i]? = some alert →
    ∃ r, (w.store.rows "alerts")[(s.rows "alerts").length + i]? = some r ∧ RecordOf alert r

namespace Announced

variable {s t : Store R} {w : Recording R}

theorem new (s : Store R) (calls : Nat) : Announced s ⟨s, calls, []⟩ :=
  ⟨rfl, fun _ _ h => by cases h⟩

/-- Only the rows matter. -/
theorem congr (h : Announced s w) (hrows : t.rows = w.store.rows) (calls : Nat) :
    Announced s ⟨t, calls, w.enqueued⟩ where
  count := by
    rw [hrows]
    exact h.count
  record i alert hi := by
    rw [hrows]
    exact h.record i alert hi

/-- Tables that have grown, but not that of the alerts. -/
theorem grows (h : Announced s w) (hgrows : w.store.Grows t)
    (hcount : (t.rows "alerts").length = (w.store.rows "alerts").length) (calls : Nat) :
    Announced s ⟨t, calls, w.enqueued⟩ where
  count := hcount.trans h.count
  record i alert hi := by
    obtain ⟨r, hr, hrecord⟩ := h.record i alert hi
    obtain ⟨r', hr', hlater⟩ := hgrows.rows.kept "alerts" _ r hr
    exact ⟨r', hr', hrecord.later hlater⟩

/-- A new alert and its row. -/
theorem add (h : Announced s w) (alert : Alert R) (now : Int) (calls : Nat) :
    Announced s ⟨w.store.add "alerts" (rowValues "alerts" (alertColumns alert) now) now, calls,
      w.enqueued ++ [{ alert with id := w.store.nextId "alerts" }]⟩ where
  count := by
    rw [Store.add_rows, Function.update_self, List.length_append, List.length_append, h.count]
    rfl
  record i alert' hi := by
    rw [Store.add_rows, Function.update_self]
    rcases Nat.lt_or_ge i w.enqueued.length with hlt | hge
    · rw [List.getElem?_append_left hlt] at hi
      obtain ⟨r, hr, hrecord⟩ := h.record i alert' hi
      rw [List.getElem?_append_left (List.getElem?_eq_some_iff.mp hr).1]
      exact ⟨r, hr, hrecord⟩
    · rw [List.getElem?_append_right hge, List.getElem?_singleton] at hi
      split at hi
      · next hzero =>
          cases hi
          have hlast : (s.rows "alerts").length + i = (w.store.rows "alerts").length := by
            have := h.count
            omega
          rw [hlast, List.getElem?_concat_length]
          exact ⟨_, rfl, rfl, fun _ _ => rfl⟩
      · cases hi

end Announced

section Worker

variable [Field R] [LinearOrder R] {inst : Installation R} {env : Surroundings R} {s : Store R}

/-- An alert that the server has stored has got its id back to the worker. -/
def Surroundings.AnswersAlerts (env : Surroundings R) : Prop :=
  ∀ n, env.alertFate n ≠ .unanswered

/-- The other threads raise no alert. -/
def Surroundings.RaiseNone (env : Surroundings R) : Prop :=
  ∀ n, ∀ e ∈ env.others n, e.RaisesNone

/-- What the other threads do before a call. -/
theorem Announced.others (inst : Installation R) (henv : env.RaiseNone) {w : Recording R}
    (h : Announced s w) :
    Announced s { w with store := (env.others w.calls).foldl inst.react w.store } := by
  have hrun : ∀ (events : List (SystemEvent R)) (t : Store R),
      (∀ e ∈ events, e.RaisesNone) → w.store.Grows t →
      (t.rows "alerts").length = (w.store.rows "alerts").length →
      Announced s { w with store := events.foldl inst.react t } := by
    intro events
    induction events with
    | nil => exact fun t _ hgrows hcount => h.grows hgrows hcount w.calls
    | cons e events ih =>
        intro t hevents hgrows hcount
        obtain ⟨he, hevents⟩ := List.forall_mem_cons.mp hevents
        exact ih _ hevents (hgrows.trans (inst.react_grows t e))
          ((inst.react_alertCount t he).trans hcount)
  exact hrun _ _ (henv w.calls) (.refl _) rfl

/-- An operation that is no `insert_alert`. -/
theorem maintains_operation (henv : env.RaiseNone) (op : Operation R)
    (hop : ∀ alert, op ≠ .insertAlert alert) :
    Maintains (Announced s) (recordingOperation inst env env.faults (op.code inst.lib)) := by
  intro w hw
  have hraises : SystemEvent.RaisesNone
      (.attempt ⟨op, env.serverTime w.calls, env.faults w.calls⟩) := hop
  have hstep : ∀ t : Store R, Announced s { w with store := t } →
      Announced s ⟨inst.react t (.attempt ⟨op, env.serverTime w.calls, env.faults w.calls⟩),
        w.calls + 1, w.enqueued⟩ :=
    fun t ht => ht.grows (inst.react_grows t _) (inst.react_alertCount t hraises) _
  exact hstep _ (hw.others inst henv)

/-- An alert is enqueued exactly if there is a row of it. -/
theorem maintains_saveAlert (henv : env.RaiseNone) (hanswers : env.AnswersAlerts)
    (alert : Alert R) :
    Maintains (Announced s) (Alerts.saveAlert (recording inst env) alert) := by
  intro w hw
  have hothers := hw.others inst henv
  have hinsert : ∀ {id t}, ((env.others w.calls).foldl inst.react w.store).outcome inst.out
        (fun _ => env.alertFate w.calls) (env.serverTime w.calls) (Database.insertAlert alert) =
        (some id, t) →
      (Alerts.saveAlert (recording inst env) alert).run w =
        ((if id > 0 then (recording inst env).enqueueAlert { alert with id := id }
          else pure ()).run ⟨t, w.calls + 1, w.enqueued⟩) := by
    intro id t h
    refine Comp.bind_ok ?_
    simp only [recording, recordingOperation, h]
  rcases outcome_insert inst.out (fun _ => env.alertFate w.calls) (env.serverTime w.calls)
    ((env.others w.calls).foldl inst.react w.store) "alerts" (alertColumns alert) with
    ⟨-, t, ht, hrows⟩ | ⟨hexecuted, -, ht⟩
  · rw [hinsert ht, if_neg (by decide)]
    exact hothers.congr hrows (w.calls + 1)
  · have hruns : env.alertFate w.calls = .runs := by
      cases hfate : env.alertFate w.calls with
      | runs => rfl
      | unanswered => exact absurd hfate (hanswers w.calls)
      | fails => simp [hfate, Fate.executes] at hexecuted
      | drops => simp [hfate, Fate.executes] at hexecuted
    rw [if_pos hruns] at ht
    rw [hinsert ht, if_pos (Store.nextId_pos _ _)]
    exact hothers.add alert _ (w.calls + 1)

theorem maintainedBy_recording (henv : env.RaiseNone) (hanswers : env.AnswersAlerts) :
    MaintainedBy (recording inst env) (Announced s) where
  logProfinetPacket sourceIp destIp frameId payload :=
    maintains_operation henv (.logProfinetPacket sourceIp destIp frameId payload)
      fun _ h => by cases h
  insertLaserData data := maintains_operation henv (.insertLaserData data) fun _ h => by cases h
  insertVibrationData data :=
    maintains_operation henv (.insertVibrationData data) fun _ h => by cases h
  insertCrack crack porcelainId :=
    maintains_operation henv (.insertCrack crack porcelainId) fun _ h => by cases h
  insertCrackPoints crackId points :=
    maintains_operation henv (.insertCrackPoints crackId points) fun _ h => by cases h
  saveAlert := maintains_saveAlert henv hanswers
  now w hw := hw.congr rfl (w.calls + 1)

end Worker

/-- Whatever the worker handles, whatever fails and whatever the other threads do between
its calls: an alert goes to the dispatcher exactly if it is stored, under its id.  The answer
to the `INSERT` of an alert that is executed does not get lost. -/
theorem alerts_announced [Field R] [LinearOrder R] (inst : Installation R)
    {env : Surroundings R} (henv : env.RaiseNone) (hanswers : env.AnswersAlerts)
    (mgr : Alerts.AlertManager R) (ostream : R → String) (s : Store R)
    (rounds : List (Alert R × Taken R)) :
    Announced s (handleRounds (recording inst env) mgr ostream ⟨s, 0, []⟩ rounds) := by
  have hrun : ∀ w, Announced s w →
      Announced s (handleRounds (recording inst env) mgr ostream w rounds) := by
    induction rounds with
    | nil => exact fun _ hw => hw
    | cons round rounds ih =>
        exact fun w hw => ih _ ((maintainedBy_recording henv hanswers).handle round.1 round.2
          (fun _ => id) (fun _ _ _ hw => hw.congr rfl _) w hw)
  exact hrun _ (.new s 0)

/-- An alert is acknowledged before each call, and the connection is lost with every statement
but those of alerts. -/
def busySurroundings : Surroundings ℚ where
  clock _ := 0
  serverTime _ := 0
  faults _ _ := .unanswered
  alertFate _ := .runs
  others _ := [.request 6 ⟨.post, "/api/alerts/1/acknowledge".toList, []⟩]
  broadcastJson _ := .ok ()

theorem alerts_announced_busy :
    Announced Http.crackedPorcelain (handleRounds (recording plainInstallation busySurroundings)
      ⟨200, 50⟩ (fun _ => "") ⟨Http.crackedPorcelain, 0, []⟩
      [(twoCracks.unset, .laser twoCracks.msg), (twoCracks.unset, .nothing)]) := by
  refine alerts_announced plainInstallation (fun n e he => ?_)
    (fun _ => by simp [busySurroundings]) _ _ _ _
  cases List.mem_singleton.mp he
  trivial

end PorcelainMonitor.Modules
