import PorcelainMonitor.Http.Writes

/-!
# The life of an alert

Requests and operations of the modules reach the tables in any order (`SystemEvent`).  None
of them loses a row (`Installation.run_grows`), and none writes to a table that the
operations do not write to (`Installation.run_spares`).

An alert is stored as pending, and the only handler that touches it acknowledges it.  No
part of the program resolves or ignores one, so whatever requests come in and whatever the
pipeline stores, the view `active_alerts` shows every alert there has ever been
(`alerts_stay_active`).
-/

namespace PorcelainMonitor.Database

variable {R : Type}

/-- No alert has been resolved or ignored. -/
def Rows.Unresolved (rows : Rows R) : Prop :=
  ∀ r ∈ rows "alerts", ∃ status, (valueOf r.values "status").string? = some (statusName status) ∧
    (status = .pending ∨ status = .acknowledged)

/-- The view leaves no such alert out. -/
theorem Rows.Unresolved.source {rows : Rows R} (h : rows.Unresolved) :
    rows.source "active_alerts" = rows "alerts" := by
  refine List.filter_eq_self.mpr fun r hr => ?_
  obtain ⟨status, hstatus, rfl | rfl⟩ := h r hr
  · rw [hstatus]
    rfl
  · rw [hstatus]
    rfl

/-- The call writes to the table of alerts only as `insert_alert` does, or to acknowledge. -/
def Call.Opens : Call R → Prop
  | .query (.insert table values _) => table = "alerts" → ∃ alert, values = alertColumns alert
  | .query (.update table values id) =>
      ∃ alertId, Query.update table values id = statusUpdate alertId .acknowledged
  | _ => True

theorem Call.admits_opens : Call.Admits (R := R) Call.Opens :=
  ⟨trivial, fun _ => trivial, fun _ _ _ _ _ => trivial, fun _ _ _ hmem heq => by
    rw [heq] at hmem
    exact absurd hmem (by decide)⟩

theorem Rows.Unresolved.run {s : Store R} (out : Output R) (now : Int) {q : Query R}
    (hq : (Call.query q).Opens) (h : s.rows.Unresolved) : (s.run out now q).2.rows.Unresolved := by
  cases q with
  | insert table values returning =>
      rw [Store.run]
      split
      · intro r hr
        rw [Store.add_rows] at hr
        by_cases htable : table = "alerts"
        · subst htable
          rw [Function.update_self, List.mem_append, List.mem_singleton] at hr
          rcases hr with hr | rfl
          · exact h r hr
          · obtain ⟨alert, rfl⟩ := hq rfl
            exact ⟨.pending, rfl, .inl rfl⟩
        · rw [Function.update_of_ne (Ne.symm htable)] at hr
          exact h r hr
      · exact h
  | select columns source condition order limit => exact h
  | update table values id =>
      obtain ⟨alertId, hupdate⟩ := hq
      cases hupdate
      intro r hr
      rw [Store.run, Store.set_rows, Function.update_self, List.mem_map] at hr
      obtain ⟨old, hold, rfl⟩ := hr
      dsimp only
      split
      · exact ⟨.acknowledged, rfl, .inr rfl⟩
      · exact h old hold

/-- The call adds no row to the table of alerts. -/
def Call.RaisesNone : Call R → Prop
  | .query (.insert table _ _) => table ≠ "alerts"
  | _ => True

theorem Call.admits_raisesNone : Call.Admits (R := R) Call.RaisesNone :=
  ⟨trivial, fun _ => trivial, fun _ _ _ _ _ => trivial, fun _ _ _ hmem =>
    ne_of_mem_of_not_mem hmem (by decide)⟩

/-- Such calls keep the number of the alerts. -/
theorem keptBy_alertCount (out : Output R) (n : Nat) :
    KeptBy out Call.RaisesNone fun rows _ => (rows "alerts").length = n where
  later h _ := h
  run := by
    intro s q now hq h
    cases q with
    | insert table values returning =>
        rw [← h, run_insert_rows_of_ne out now (Ne.symm hq)]
    | select columns source condition order limit => exact h
    | update table values id =>
        rw [← h, Store.run, Store.set_rows]
        by_cases htable : "alerts" = table
        · subst htable
          rw [Function.update_self, List.length_map]
        · rw [Function.update_of_ne htable]

theorem keptBy_unresolved (out : Output R) :
    KeptBy out Call.Opens fun rows _ => rows.Unresolved :=
  ⟨fun h _ => h, fun now hq h => h.run out now hq⟩

end PorcelainMonitor.Database

namespace PorcelainMonitor.Http

open Database

variable {R : Type}

/-- What reaches the tables: a request, or an operation that the modules call. -/
inductive SystemEvent (R : Type) where
  | request (now : Int) (req : Request)
  | attempt (a : Attempt R)

/-- The only status that any part of the program passes to `update_alert_status`. -/
def SystemEvent.Acknowledges : SystemEvent R → Prop
  | .request _ _ => True
  | .attempt a => ∀ id status, a.op = .updateAlertStatus id status → status = .acknowledged

/-- The event is not an `insert_alert`. -/
def SystemEvent.RaisesNone : SystemEvent R → Prop
  | .request _ _ => True
  | .attempt a => ∀ alert, a.op ≠ .insertAlert alert

namespace Installation

variable [Field R] [LinearOrder R] (inst : Installation R)

def react (s : Store R) : SystemEvent R → Store R
  | .request now req => (({ inst with now := now }.server.routeRequest req).run s).2
  | .attempt a => s.attempt inst.out inst.lib a

variable {inst} {s t : Store R}

omit [Field R] [LinearOrder R] in
/-- A request writes with statements that keep the rows, raise no alert and resolve none,
and spare all tables but those that the program writes to. -/
theorem Writes.query {answer : Answer} (h : inst.Writes s t answer) :
    t = s ∨ ∃ q, t = (s.run inst.out inst.now q).2 ∧ (Call.query q).KeepsRows ∧
      (Call.query q).Opens ∧ (Call.query q).RaisesNone ∧
      ∀ table ∉ writtenTables, (Call.query q).Spares table := by
  cases answer with
  | file path => exact .inl h
  | error status message => exact .inl h
  | handler handler captures =>
      cases handler with
      | predict =>
          have hne : "crack_propagation_predictions" ≠ "alerts" := by decide
          refine h.imp_right fun ⟨values, ht⟩ =>
            ⟨_, ht, trivial, fun heq => absurd heq hne, hne, ?_⟩
          exact fun table htable => ne_of_mem_of_not_mem (by decide) htable
      | simulate =>
          have hne : "repair_simulations" ≠ "alerts" := by decide
          refine h.imp_right fun ⟨values, ht⟩ =>
            ⟨_, ht, trivial, fun heq => absurd heq hne, hne, ?_⟩
          exact fun table htable => ne_of_mem_of_not_mem (by decide) htable
      | acknowledge =>
          refine h.imp_right fun ⟨id, ht⟩ =>
            ⟨_, ht, keepsRows_statusUpdate id .acknowledged, ⟨id, rfl⟩, trivial, ?_⟩
          exact fun table htable => ne_of_mem_of_not_mem (by decide) htable
      | _ => exact .inl h

variable (inst) in
theorem react_grows (s : Store R) (e : SystemEvent R) : s.Grows (inst.react s e) := by
  cases e with
  | request now req =>
      rcases Writes.query (request_writes { inst with now := now } s req).1 with
        ht | ⟨q, ht, hrows, -, -, -⟩
      · rw [react, ht]
        exact .refl s
      · rw [react, ht]
        exact .run _ _ s hrows
  | attempt a => exact .attempt inst.out inst.lib s a

variable (inst) in
theorem react_unresolved (s : Store R) {e : SystemEvent R} (he : e.Acknowledges)
    (h : s.rows.Unresolved) : (inst.react s e).rows.Unresolved := by
  cases e with
  | request now req =>
      rcases Writes.query (request_writes { inst with now := now } s req).1 with
        ht | ⟨q, ht, -, hopens, -, -⟩
      · rw [react, ht]
        exact h
      · rw [react, ht]
        exact h.run _ _ hopens
  | attempt a =>
      have honly : (a.op.code inst.lib).Only Call.Opens :=
        Operation.only Call.admits_opens inst.lib (fun alert _ _ => ⟨alert, rfl⟩)
          fun id status hop => by
            rw [he id status hop]
            exact ⟨id, rfl⟩
      exact Store.attempt_has (keptBy_unresolved inst.out) honly h

variable (inst) in
theorem react_alertCount (s : Store R) {e : SystemEvent R} (he : e.RaisesNone) :
    ((inst.react s e).rows "alerts").length = (s.rows "alerts").length := by
  cases e with
  | request now req =>
      rcases Writes.query (request_writes { inst with now := now } s req).1 with
        ht | ⟨q, ht, -, -, hnone, -⟩
      · rw [react, ht]
      · rw [react, ht]
        exact (keptBy_alertCount inst.out _).run now hnone rfl
  | attempt a =>
      have honly : (a.op.code inst.lib).Only Call.RaisesNone :=
        Operation.only Call.admits_raisesNone inst.lib (fun alert hop => absurd hop (he alert))
          fun _ _ _ => trivial
      exact Store.attempt_has (keptBy_alertCount inst.out _) honly rfl

variable (inst) in
/-- No part of the program writes to any other table. -/
theorem react_spares (s : Store R) (e : SystemEvent R) {table : String}
    (htable : table ∉ writtenTables) : (inst.react s e).rows table = s.rows table := by
  cases e with
  | request now req =>
      rcases Writes.query (request_writes { inst with now := now } s req).1 with
        ht | ⟨q, ht, -, -, -, hspares⟩
      · rw [react, ht]
      · rw [react, ht]
        exact (keptBy_spares inst.out (s.rows table)).run now (hspares table htable) rfl
  | attempt a =>
      exact Store.attempt_has (keptBy_spares inst.out (s.rows table))
        (Operation.only_spares inst.lib a.op htable) rfl

variable (inst) in
/-- The tables after a run of requests and operations. -/
theorem run_grows (s : Store R) (events : List (SystemEvent R)) :
    s.Grows (events.foldl inst.react s) := by
  induction events generalizing s with
  | nil => exact .refl s
  | cons e events ih => exact (inst.react_grows s e).trans (ih _)

variable (inst) in
theorem run_spares (s : Store R) (events : List (SystemEvent R)) {table : String}
    (htable : table ∉ writtenTables) : (events.foldl inst.react s).rows table = s.rows table := by
  induction events generalizing s with
  | nil => rfl
  | cons e events ih => exact (ih _).trans (inst.react_spares s e htable)

end Installation

/-- Over every run of requests and of operations of the modules, no alert is lost, and all of
them stay in the view of active alerts. -/
theorem alerts_stay_active [Field R] [LinearOrder R] (inst : Installation R) {s : Store R}
    (hs : s.rows.Unresolved) {events : List (SystemEvent R)}
    (hevents : ∀ e ∈ events, e.Acknowledges) :
    let t := events.foldl inst.react s
    s.Grows t ∧ t.rows.source "active_alerts" = t.rows "alerts" := by
  refine ⟨inst.run_grows s events, Rows.Unresolved.source ?_⟩
  induction events generalizing s with
  | nil => exact hs
  | cons e events ih =>
      obtain ⟨he, hevents⟩ := List.forall_mem_cons.mp hevents
      exact ih (inst.react_unresolved s he hs) hevents

/-- A porcelain, a crack and a sensor, and no alerts. -/
def crackedPorcelain : Store ℚ :=
  ((Store.empty.add "porcelains" [] 0).add "cracks" [] 0).add "sensors" [] 0

/-- An alert is stored and then acknowledged. -/
def acknowledgedRun : List (SystemEvent ℚ) :=
  [.attempt ⟨.insertAlert ⟨0, .crackDepthExceeded, 1, 1, 1, 1, 2, "mm", "deep", .pending, false,
      false, 0⟩, 5, fun _ => .runs⟩,
    .request 6 ⟨.post, "/api/alerts/1/acknowledge".toList, []⟩]

theorem alerts_stay_active_acknowledged :
    let t := acknowledgedRun.foldl plainInstallation.react crackedPorcelain
    crackedPorcelain.Grows t ∧ t.rows.source "active_alerts" = t.rows "alerts" := by
  refine alerts_stay_active plainInstallation (fun r hr => ?_) fun e he => ?_
  · have hnone : crackedPorcelain.rows "alerts" = [] := rfl
    rw [hnone] at hr
    cases hr
  · rcases List.mem_pair.mp he with rfl | rfl
    · exact fun _ _ hop => by cases hop
    · trivial

end PorcelainMonitor.Http
