import PorcelainMonitor.Database.Persistence
import PorcelainMonitor.Lib.Ranking
import PorcelainMonitor.Lib.Steps

/-!
# Alerts and their status

`AlertLog` is what the table of alerts is for: the alerts in the order of their
ids, each with its time and its current status.  The operations on the store
match those on the log (`Refines`), so the status goes through the text of the
statements and the view unharmed.

It is the decoder that loses it: `get_active_alerts` selects the status and then
assigns `PENDING`.  So the listing is right exactly if no acknowledged alert is
recent enough to be listed (`activeAlerts_consistent_iff`).
-/

namespace PorcelainMonitor.Database

variable {R : Type}

/-! ## The log of alerts -/

structure LoggedAlert where
  id : Int
  createdAt : Int
  status : AlertStatus
deriving DecidableEq, Repr

def LoggedAlert.isActive (a : LoggedAlert) : Bool :=
  a.status = .pending || a.status = .acknowledged

structure AlertLog where
  nextId : Int
  alerts : List LoggedAlert
  ordered : alerts.Pairwise fun a b => a.id < b.id
  issued : ∀ a ∈ alerts, a.id < nextId

inductive AlertOp (R : Type) where
  | insert (alert : Alert R)
  | update (alertId : Int) (status : AlertStatus)

namespace AlertLog

/-- No alerts yet. -/
def new (nextId : Int) : AlertLog := ⟨nextId, [], .nil, fun _ h => by cases h⟩

/-- A new alert is pending. -/
def insert (log : AlertLog) (now : Int) : AlertLog where
  nextId := log.nextId + 1
  alerts := log.alerts ++ [⟨log.nextId, now, .pending⟩]
  ordered := by
    refine List.pairwise_append.mpr ⟨log.ordered, List.pairwise_singleton _ _, ?_⟩
    intro a ha b hb
    cases List.mem_singleton.mp hb
    exact log.issued a ha
  issued a ha := by
    rcases List.mem_append.mp ha with ha | ha
    · have := log.issued a ha
      omega
    · cases List.mem_singleton.mp ha
      exact Int.lt_succ log.nextId

def setStatus (id : Int) (status : AlertStatus) (a : LoggedAlert) : LoggedAlert :=
  if a.id = id then { a with status := status } else a

@[simp] theorem setStatus_id (id : Int) (status : AlertStatus) (a : LoggedAlert) :
    (setStatus id status a).id = a.id := by
  rw [setStatus]
  split <;> rfl

def update (log : AlertLog) (id : Int) (status : AlertStatus) : AlertLog where
  nextId := log.nextId
  alerts := log.alerts.map (setStatus id status)
  ordered := by
    rw [List.pairwise_map]
    simpa using log.ordered
  issued a ha := by
    obtain ⟨b, hb, rfl⟩ := List.mem_map.mp ha
    rw [setStatus_id]
    exact log.issued b hb

def apply (log : AlertLog) : Int × AlertOp R → AlertLog
  | (now, .insert _) => log.insert now
  | (_, .update id status) => log.update id status

/-- The alerts to be listed. -/
def active (log : AlertLog) : List LoggedAlert := log.alerts.filter LoggedAlert.isActive

/-- An alert is known by its id. -/
theorem eq_of_id (log : AlertLog) {a b : LoggedAlert} (ha : a ∈ log.alerts) (hb : b ∈ log.alerts)
    (h : a.id = b.id) : a = b := by
  have hdistinct : (log.alerts.map LoggedAlert.id).Nodup :=
    List.pairwise_map.mpr (log.ordered.imp fun hlt => Int.ne_of_lt hlt)
  exact List.inj_on_of_nodup_map hdistinct ha hb h

/-- So many active alerts are newer than this one. -/
def newer (log : AlertLog) (a : LoggedAlert) : Nat :=
  log.active.countP fun b => a.createdAt < b.createdAt

/-- A right answer of `get_active_alerts`: the active alerts, newest first and at
most 100, each with its current status. -/
def Consistent (log : AlertLog) (answer : Option (List (Alert R))) : Prop :=
  ∃ (alerts : List (Alert R)) (sorted : List LoggedAlert),
    answer = some alerts ∧ sorted.Perm log.active ∧
    sorted.Pairwise (fun a b => b.createdAt ≤ a.createdAt) ∧
    alerts.map (fun a => (a.id, a.status)) = (sorted.take 100).map fun a => (a.id, a.status)

end AlertLog

/-! ## The operations on the store -/

/-- An operation all of whose statements succeed. -/
def AlertOp.perform (out : Output R) (s : Store R) : Int × AlertOp R → Option (Store R)
  | (now, .insert alert) =>
      match s.operate out now (insertAlert alert) with
      | (some id, t) => if 0 < id then some t else none
      | (none, _) => none
  | (now, .update id status) =>
      match s.operate out now (updateAlertStatus id status) with
      | (some true, t) => some t
      | _ => none

/-- The status that a text spells. -/
def readStatus (s : String) : AlertStatus :=
  if s = "ACKNOWLEDGED" then .acknowledged
  else if s = "RESOLVED" then .resolved
  else if s = "IGNORED" then .ignored
  else .pending

theorem readStatus_statusName (status : AlertStatus) : readStatus (statusName status) = status := by
  cases status with
  | pending => rfl
  | acknowledged => rfl
  | resolved => rfl
  | ignored => rfl

/-- What a row of the table says. -/
def loggedOf (r : Record R) : LoggedAlert where
  id := r.id
  createdAt := r.createdAt
  status := readStatus ((valueOf r.values "status").string?.getD "")

structure Refines (s : Store R) (log : AlertLog) : Prop where
  nextId : s.nextId "alerts" = log.nextId
  alerts : (s.rows "alerts").map loggedOf = log.alerts
  /-- Every row spells a status. -/
  named : ∀ r ∈ s.rows "alerts",
    valueOf r.values "status" = .cast (statusName (loggedOf r).status) "alert_status"

/-! ## The store keeps the log -/

section Refinement

variable {out : Output R} {now : Int} {s t : Store R} {log : AlertLog}

/-- Values with a status in front. -/
theorem loggedOf_cons (r : Record R) (status : AlertStatus) (values : List (String × Value R)) :
    loggedOf { r with
      values := ("status", .cast (statusName status) "alert_status") :: values } =
      { loggedOf r with status := status } := by
  simp [loggedOf, valueOf, Value.string?, readStatus_statusName]

/-- A new alert is pending. -/
theorem status_rowValues (now : Int) (alert : Alert R) :
    valueOf (rowValues "alerts" (alertColumns alert) now) "status" =
      .cast "PENDING" "alert_status" := by
  simp [alertColumns, rowValues, valueOf, Value.evaluate, List.lookup_cons]

/-- An `insert_alert` that returns an id has added a pending alert under it. -/
theorem Refines.insert (h : Refines s log) {alert : Alert R}
    (hst : AlertOp.perform out s (now, .insert alert) = some t) : Refines t (log.insert now) := by
  have hstatus := status_rowValues now alert
  simp only [AlertOp.perform, insertAlert, operate_runOne] at hst
  cases hadmits : s.rows.admits "alerts" (rowValues "alerts" (alertColumns alert) now) with
  | false =>
      rw [run_insert_of_not_admits out now hadmits] at hst
      cases hst
  | true =>
      rw [run_insert_of_admits out now hadmits, returnedId_inserted] at hst
      simp only [s.nextId_pos "alerts", if_true, Option.some.injEq] at hst
      subst hst
      have hlogged :
          loggedOf ⟨s.nextId "alerts", rowValues "alerts" (alertColumns alert) now, now⟩ =
            ⟨log.nextId, now, .pending⟩ := by
        simp only [loggedOf, hstatus, h.nextId]
        rfl
      refine ⟨?_, ?_, ?_⟩
      · rw [Store.add_nextId, Function.update_self, h.nextId]
        rfl
      · rw [Store.add_rows, Function.update_self, List.map_append, h.alerts, List.map_singleton,
          hlogged]
        rfl
      · intro r hr
        rw [Store.add_rows, Function.update_self, List.mem_append, List.mem_singleton] at hr
        rcases hr with hr | rfl
        · exact h.named r hr
        · rw [hlogged]
          exact hstatus

/-- `update_alert_status` sets the status of the alert with the id. -/
theorem Refines.update (h : Refines s log) {id : Int} {status : AlertStatus}
    (hst : AlertOp.perform out s (now, .update id status) = some t) :
    Refines t (log.update id status) := by
  obtain ⟨values, hupdate⟩ : ∃ values : List (String × Value R), updateAlertStatus id status =
      runOne (some (.update "alerts"
        (("status", .cast (statusName status) "alert_status") :: values) id))
        (fun res => some (commandOk res)) := ⟨_, rfl⟩
  simp only [AlertOp.perform, hupdate, operate_runOne] at hst
  have hrow : ∀ r : Record R, loggedOf (if r.id = id then { r with
        values := ("status", .cast (statusName status) "alert_status") ::
          (values.map fun column => (column.1, column.2.evaluate now)) ++ r.values } else r) =
      AlertLog.setStatus id status (loggedOf r) := by
    intro r
    rw [AlertLog.setStatus]
    split
    · next hid =>
        rw [List.cons_append, loggedOf_cons, if_pos (show (loggedOf r).id = id from hid)]
    · next hid => rw [if_neg (show ¬ (loggedOf r).id = id from hid)]
  obtain rfl : (s.run out now (.update "alerts"
      (("status", .cast (statusName status) "alert_status") :: values) id)).2 = t := by
    simpa [Store.run, done, commandOk] using hst
  have hrows : (s.run out now (.update "alerts"
      (("status", .cast (statusName status) "alert_status") :: values) id)).2.rows "alerts" =
      (s.rows "alerts").map fun r => if r.id = id then { r with
        values := ("status", .cast (statusName status) "alert_status") ::
          (values.map fun column => (column.1, column.2.evaluate now)) ++ r.values } else r := by
    rw [Store.run, Store.set_rows, Function.update_self]
    rfl
  refine ⟨h.nextId, ?_, ?_⟩
  · have halerts : (log.update id status).alerts =
        (s.rows "alerts").map fun r => AlertLog.setStatus id status (loggedOf r) := by
      rw [show (log.update id status).alerts = log.alerts.map _ from rfl, ← h.alerts,
        List.map_map]
      rfl
    rw [hrows, List.map_map, halerts]
    exact List.map_congr_left fun r _ => hrow r
  · intro r hr
    rw [hrows, List.mem_map] at hr
    obtain ⟨old, hold, rfl⟩ := hr
    rw [hrow, AlertLog.setStatus]
    split
    · next hid => rw [if_pos (show (loggedOf old).id = id from hid)]; rfl
    · next hid =>
        rw [if_neg (show ¬ (loggedOf old).id = id from hid)]
        exact h.named old hold

theorem Refines.perform (h : Refines s log) {op : Int × AlertOp R}
    (hst : AlertOp.perform out s op = some t) : Refines t (log.apply op) := by
  obtain ⟨now, op⟩ := op
  cases op with
  | insert alert => exact h.insert hst
  | update id status => exact h.update hst

/-! ## The listing -/

/-- The rows that `get_active_alerts` reads. -/
def listed (out : Output R) (s : Store R) : List (Record R) :=
  (out.sortBy (orderKey "created_at DESC") (s.rows.source "active_alerts")).take 100

/-- They are rows of the table. -/
theorem mem_of_mem_listed {r : Record R} (hr : r ∈ listed out s) : r ∈ s.rows "alerts" := by
  have hsource : r ∈ s.rows.source "active_alerts" :=
    (out.sortBy_perm _ _).mem_iff.mp (List.mem_of_mem_take hr)
  exact List.mem_of_mem_filter hsource

/-- It answers with their ids, and calls each of them pending. -/
theorem operate_getActiveAlerts (lib : Reading R) :
    ∃ alerts, (s.operate out now (getActiveAlerts lib)).1 = some alerts ∧
      alerts.map (fun a => (a.id, a.status)) =
        (listed out s).map fun r => (r.id, AlertStatus.pending) := by
  have hselect : out.select s.rows "active_alerts" none (some "created_at DESC") (some 100) =
      listed out s := by
    have hall : (s.rows.source "active_alerts").filter (fun r => r.matches none) =
        s.rows.source "active_alerts" := List.filter_eq_self.mpr fun _ _ => rfl
    simp only [Output.select, hall]
    rfl
  refine ⟨_, congrArg Prod.fst (operate_runOne out now), ?_⟩
  simp only [Store.run, hselect, tuples, if_true, List.map_map]
  refine List.map_congr_left fun r hr => ?_
  have hid : out.column r "id" = some (toString r.id) := rfl
  simp only [Function.comp_apply, readAlert, List.map_cons, field, List.getD_cons_zero, hid,
    Option.getD_some, atoi_toString (Int.le_of_lt (s.issued _ r (mem_of_mem_listed hr)).1)]

/-- The view shows the active alerts of the log. -/
theorem Refines.source (h : Refines s log) :
    (s.rows.source "active_alerts").map loggedOf = log.active := by
  rw [AlertLog.active, ← h.alerts, List.filter_map]
  refine congrArg (List.map loggedOf) (List.filter_congr fun r hr => ?_)
  rw [h.named r hr]
  cases hstatus : (loggedOf r).status with
  | pending => simp [Value.string?, LoggedAlert.isActive, hstatus, statusName]
  | acknowledged => simp [Value.string?, LoggedAlert.isActive, hstatus, statusName]
  | resolved => simp [Value.string?, LoggedAlert.isActive, hstatus, statusName]
  | ignored => simp [Value.string?, LoggedAlert.isActive, hstatus, statusName]

/-- All active alerts in the order of the server. -/
def ranked (out : Output R) (s : Store R) : List LoggedAlert :=
  (out.sortBy (orderKey "created_at DESC") (s.rows.source "active_alerts")).map loggedOf

theorem map_listed : (listed out s).map loggedOf = (ranked out s).take 100 := List.map_take

theorem Refines.ranked_perm (h : Refines s log) (out : Output R) :
    (ranked out s).Perm log.active := by
  rw [← h.source]
  exact (out.sortBy_perm _ _).map loggedOf

theorem ranked_sorted (out : Output R) (s : Store R) :
    (ranked out s).Pairwise fun a b => b.createdAt ≤ a.createdAt := by
  refine List.pairwise_map.mpr ((out.sortBy_sorted _ _).imp fun {r r'} hle => ?_)
  have hkey : ∀ r : Record R, orderKey "created_at DESC" r = -r.createdAt := fun _ => rfl
  rw [hkey, hkey] at hle
  exact Int.neg_le_neg_iff.mp hle

/-- The listing is right if every listed alert is pending. -/
theorem Refines.consistent_of (h : Refines s log) (lib : Reading R)
    (hpending : ∀ a ∈ (ranked out s).take 100, a.status ≠ .acknowledged) :
    log.Consistent (s.operate out now (getActiveAlerts lib)).1 := by
  obtain ⟨alerts, hanswer, hmap⟩ :
      ∃ alerts, (s.operate out now (getActiveAlerts lib)).1 = some alerts ∧ _ :=
    operate_getActiveAlerts lib
  refine ⟨alerts, ranked out s, hanswer, h.ranked_perm out, ranked_sorted out s, ?_⟩
  rw [hmap, ← map_listed, List.map_map]
  refine List.map_congr_left fun r hr => ?_
  have hmem : loggedOf r ∈ (ranked out s).take 100 := map_listed ▸ List.mem_map_of_mem hr
  have hactive : (loggedOf r).isActive = true :=
    (List.mem_filter.mp ((h.ranked_perm out).mem_iff.mp (List.mem_of_mem_take hmem))).2
  have hstatus : (loggedOf r).status = .pending := by
    have hnot := hpending _ hmem
    simpa [LoggedAlert.isActive, hnot] using hactive
  rw [Function.comp_apply, hstatus]
  rfl

/-- It is wrong if a listed alert is acknowledged. -/
theorem Refines.not_consistent_of (h : Refines s log) (lib : Reading R) {a : LoggedAlert}
    (ha : a ∈ (ranked out s).take 100) (hacknowledged : a.status = .acknowledged) :
    ¬ log.Consistent (s.operate out now (getActiveAlerts lib)).1 := by
  rintro ⟨alerts, sorted, hanswer, hperm, -, hsame⟩
  obtain ⟨alerts', hanswer', hmap⟩ :
      ∃ alerts, (s.operate out now (getActiveAlerts lib)).1 = some alerts ∧ _ :=
    operate_getActiveAlerts lib
  cases hanswer.symm.trans hanswer'
  obtain ⟨r, hr, rfl⟩ : ∃ r ∈ listed out s, loggedOf r = a := by
    rwa [← map_listed, List.mem_map] at ha
  have hpair : (r.id, AlertStatus.pending) ∈ (sorted.take 100).map fun a => (a.id, a.status) := by
    rw [← hsame, hmap]
    exact List.mem_map.mpr ⟨r, hr, rfl⟩
  obtain ⟨b, hb, hpending⟩ := List.mem_map.mp hpair
  obtain ⟨hid, hstatus⟩ := Prod.mk.inj hpending
  have hb' : b ∈ log.alerts :=
    List.mem_of_mem_filter (hperm.mem_iff.mp (List.mem_of_mem_take hb))
  have hr' : loggedOf r ∈ log.alerts := by
    rw [← h.alerts]
    exact List.mem_map_of_mem (mem_of_mem_listed hr)
  obtain rfl := log.eq_of_id hb' hr' hid
  rw [hstatus] at hacknowledged
  cases hacknowledged

end Refinement

/-! ## Which alerts are listed -/

/-- By a key, and the row with an id before all others of its key. -/
def rankLe (id : Int) (key : Record R → Int) (r r' : Record R) : Bool :=
  key r < key r' || (key r = key r' && (r.id = id || !decide (r'.id = id)))

theorem rankLe_iff {id : Int} {key : Record R → Int} {r r' : Record R} :
    rankLe id key r r' = true ↔ key r < key r' ∨ key r = key r' ∧ (r.id = id ∨ r'.id ≠ id) := by
  simp [rankLe]

theorem pairwise_rankLe (id : Int) (key : Record R → Int) (rows : List (Record R)) :
    (rows.mergeSort (rankLe id key)).Pairwise fun r r' => rankLe id key r r' = true := by
  refine List.pairwise_mergeSort ?_ ?_ rows
  · intro a b c hab hbc
    rw [rankLe_iff] at hab hbc ⊢
    omega
  · intro a b
    rw [Bool.or_eq_true, rankLe_iff, rankLe_iff]
    omega

/-- A server that lists the row with an id before all others of its time. -/
def Output.favouring (out : Output R) (id : Int) : Output R :=
  { out with
    sortBy key rows := rows.mergeSort (rankLe id key)
    sortBy_perm key rows := List.mergeSort_perm rows _
    sortBy_sorted key rows := by
      refine (pairwise_rankLe id key rows).imp fun h => ?_
      rw [rankLe_iff] at h
      omega }

section Listing

variable {out : Output R} {s : Store R} {log : AlertLog} {a : LoggedAlert}

theorem Refines.countP_ranked (h : Refines s log) (out : Output R) (a : LoggedAlert) :
    (ranked out s).countP (fun b => a.createdAt < b.createdAt) = log.newer a :=
  (h.ranked_perm out).countP_eq _

/-- With 100 newer alerts, no server lists it. -/
theorem Refines.not_mem_take (h : Refines s log) (out : Output R) (hnewer : 100 ≤ log.newer a) :
    a ∉ (ranked out s).take 100 := by
  rw [← h.countP_ranked out] at hnewer
  refine Ranking.not_mem_take_of_le_countP (ranked_sorted out s) ?_ (fun b hb => ?_) hnewer
  · simp
  · simpa using hb

/-- A row is known by its id. -/
theorem Refines.eq_of_id (h : Refines s log) {r r' : Record R} (hr : r ∈ s.rows "alerts")
    (hr' : r' ∈ s.rows "alerts") (hid : r.id = r'.id) : r = r' := by
  have hdistinct : ((s.rows "alerts").map Record.id).Nodup := by
    have hids : (s.rows "alerts").map Record.id = log.alerts.map LoggedAlert.id := by
      rw [← h.alerts, List.map_map]
      rfl
    rw [hids]
    exact List.pairwise_map.mpr (log.ordered.imp fun hlt => Int.ne_of_lt hlt)
  exact List.inj_on_of_nodup_map hdistinct hr hr' hid

/-- With fewer, some server does. -/
theorem Refines.mem_take_favouring (h : Refines s log) (out : Output R) (ha : a ∈ log.active)
    (hnewer : log.newer a < 100) : a ∈ (ranked (out.favouring a.id) s).take 100 := by
  rw [← h.countP_ranked (out.favouring a.id), ranked, List.countP_map] at hnewer
  rw [← h.source] at ha
  obtain ⟨r, hr, rfl⟩ := List.mem_map.mp ha
  rw [ranked, ← List.map_take]
  refine List.mem_map_of_mem (Ranking.mem_take_of_countP_lt (pairwise_rankLe _ _ _)
    (List.mem_mergeSort.mpr hr) (fun y hy hle => ?_) hnewer)
  have hkey : ∀ r : Record R, orderKey "created_at DESC" r = -r.createdAt := fun _ => rfl
  rw [rankLe_iff, hkey, hkey] at hle
  rcases hle with hlt | ⟨-, hid | hid⟩
  · right
    simp only [Function.comp_apply, decide_eq_true_eq]
    exact Int.neg_lt_neg_iff.mp hlt
  · left
    exact h.eq_of_id (List.mem_of_mem_filter (List.mem_mergeSort.mp hy))
      (List.mem_of_mem_filter hr) hid
  · exact absurd rfl hid

end Listing

/-! ## The listing after any history -/

/-- The log of a history that starts with no alerts. -/
def AlertLog.of (nextId : Int) (ops : List (Int × AlertOp R)) : AlertLog :=
  ops.foldl AlertLog.apply (.new nextId)

theorem refines_of_exec {out : Output R} {s₀ s : Store R} (hempty : s₀.rows "alerts" = [])
    {ops : List (Int × AlertOp R)} (hrun : Steps.exec (AlertOp.perform out) s₀ ops = some s) :
    Refines s (.of (s₀.nextId "alerts") ops) := by
  have hnew : Refines s₀ (.new (s₀.nextId "alerts")) := by
    refine ⟨rfl, by rw [hempty]; rfl, ?_⟩
    rw [hempty]
    exact fun r hr => by cases hr
  exact Steps.exec_simulates (fun _ _ _ _ h hst => h.perform hst) hnew hrun

/-- After any history of successful operations, `get_active_alerts` answers right,
whatever the order in which the server lists rows of the same time, exactly if
every acknowledged alert has at least 100 active alerts that are newer. -/
theorem activeAlerts_consistent_iff (out₀ : Output R) (lib : Reading R) {s₀ s : Store R}
    (hempty : s₀.rows "alerts" = []) {ops : List (Int × AlertOp R)}
    (hrun : Steps.exec (AlertOp.perform out₀) s₀ ops = some s) :
    (∀ (out : Output R) (now : Int), (AlertLog.of (s₀.nextId "alerts") ops).Consistent
        (s.operate out now (getActiveAlerts lib)).1) ↔
      ∀ a ∈ (AlertLog.of (s₀.nextId "alerts") ops).alerts, a.status = .acknowledged →
        100 ≤ (AlertLog.of (s₀.nextId "alerts") ops).newer a := by
  have h := refines_of_exec hempty hrun
  constructor
  · intro hconsistent a ha hacknowledged
    by_contra hnewer
    have hactive : a ∈ (AlertLog.of (s₀.nextId "alerts") ops).active :=
      List.mem_filter.mpr ⟨ha, by simp [LoggedAlert.isActive, hacknowledged]⟩
    exact h.not_consistent_of lib (h.mem_take_favouring out₀ hactive (Nat.not_le.mp hnewer))
      hacknowledged (hconsistent (out₀.favouring a.id) 0)
  · intro hnewer out now
    refine h.consistent_of lib fun a ha hacknowledged => ?_
    have hmem : a ∈ (AlertLog.of (s₀.nextId "alerts") ops).alerts :=
      List.mem_of_mem_filter ((h.ranked_perm out).mem_iff.mp (List.mem_of_mem_take ha))
    exact h.not_mem_take out (hnewer a hmem hacknowledged) ha

/-! ## Two histories -/

/-- A server that prints every number as a dash. -/
def plainOutput : Output Unit := .stable (fun _ => "-") toString (fun _ => "-") (fun _ => "-")

def plainReading : Reading Unit := ⟨fun _ => (), fun _ => none, false⟩

/-- A porcelain, a crack and a sensor, and no alerts. -/
def oneCrack : Store Unit :=
  ((Store.empty.add "porcelains" [] 0).add "cracks" [] 0).add "sensors" [] 0

def depthAlert : Alert Unit :=
  ⟨0, .crackDepthExceeded, 1, 1, 1, (), (), "mm", "deep", .pending, false, false, 0⟩

/-- A pending alert is listed as it is. -/
theorem activeAlerts_consistent_iff_pending :
    ∃ s, Steps.exec (AlertOp.perform plainOutput) oneCrack [(5, .insert depthAlert)] = some s ∧
      ((∀ (out : Output Unit) (now : Int),
          (AlertLog.of (oneCrack.nextId "alerts") [(5, .insert depthAlert)]).Consistent
            (s.operate out now (getActiveAlerts plainReading)).1) ↔
        ∀ a ∈ (AlertLog.of (oneCrack.nextId "alerts") [(5, .insert depthAlert)]).alerts,
          a.status = .acknowledged →
          100 ≤ (AlertLog.of (oneCrack.nextId "alerts") [(5, .insert depthAlert)]).newer a) := by
  obtain ⟨s, hs⟩ : ∃ s, Steps.exec (AlertOp.perform plainOutput) oneCrack
      [(5, .insert depthAlert)] = some s := ⟨_, rfl⟩
  exact ⟨s, hs, activeAlerts_consistent_iff plainOutput plainReading rfl hs⟩

/-- An alert that has been acknowledged is listed as pending. -/
theorem acknowledged_listed_as_pending :
    ¬ ∀ (out₀ : Output Unit) (lib : Reading Unit) (s₀ s : Store Unit)
        (ops : List (Int × AlertOp Unit)), s₀.rows "alerts" = [] →
      Steps.exec (AlertOp.perform out₀) s₀ ops = some s →
      ∀ (out : Output Unit) (now : Int), (AlertLog.of (s₀.nextId "alerts") ops).Consistent
        (s.operate out now (getActiveAlerts lib)).1 := by
  intro h
  let ops : List (Int × AlertOp Unit) := [(5, .insert depthAlert), (6, .update 1 .acknowledged)]
  obtain ⟨s, hs⟩ : ∃ s, Steps.exec (AlertOp.perform plainOutput) oneCrack ops = some s := ⟨_, rfl⟩
  have hrefines : Refines s (.of (oneCrack.nextId "alerts") ops) := refines_of_exec rfl hs
  let a : LoggedAlert := ⟨1, 5, .acknowledged⟩
  have hactive : a ∈ (AlertLog.of (oneCrack.nextId "alerts") ops).active :=
    List.mem_singleton_self a
  have hlisted := hrefines.mem_take_favouring plainOutput hactive (by decide)
  exact hrefines.not_consistent_of plainReading hlisted rfl
    (h plainOutput plainReading oneCrack s ops rfl hs (plainOutput.favouring a.id) 0)

end PorcelainMonitor.Database
