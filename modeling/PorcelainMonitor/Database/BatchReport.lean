import PorcelainMonitor.Database.DetectionBatch
import PorcelainMonitor.Database.PointReport

/-!
# The report of a batch

What `batch_insert_laser_data` and `batch_insert_vibration_data` report about their
rows, whatever statements fail, `ROLLBACK` among them.

The flag tells how the `INSERT`s went.  `COMMIT` comes after them, and nobody looks
at its answer, so a batch that is lost there is reported as inserted
(`CommitLost`).
-/

namespace PorcelainMonitor.Database

open PooledProgram (Program)

variable {R : Type}

/-! ## A server that may refuse a `ROLLBACK` -/

namespace Remote

/-- The rows that are committed. -/
def durable (m : Remote R) : Rows R :=
  match m.backend.saved with
  | some (rows, _) => rows
  | none => m.backend.store.rows

section Respond

variable (faults : Nat → Fate) (out : Output R) (now : Int)

/-- The answer to a statement at a time.  After a `ROLLBACK` that fails the
transaction is still open. -/
def respond (m : Remote R) : Call R → Reply × Remote R
  | .transaction .rollback =>
      if m.connected = true ∧ faults m.sent = .fails then
        (.result (some failed), { m with backend := m.backend.spoil, sent := m.sent + 1 })
      else m.serve faults out now (.transaction .rollback)
  | call => m.serve faults out now call

variable {faults out now} {m m' : Remote R} {rows : Rows R} {conn r : Connection}

theorem Revertible.durable (h : m.Revertible rows) : m.durable = rows := by
  rcases h with ⟨spoiled, hopen⟩ | hclosed
  · rw [Remote.durable, hopen.saved]
  · rw [Remote.durable, hclosed.saved]
    exact hclosed.rows

theorem durable_spoil (m : Remote R) {connected : Bool} {sent : Nat} :
    durable ⟨m.backend.spoil, connected, sent⟩ = m.durable := by
  obtain ⟨⟨store, saved, issued⟩, _, _⟩ := m
  cases saved with
  | none => rfl
  | some p => rfl

/-- What a command answers, if the connection is open. -/
theorem run_command {c : TransactionCommand} {res : Option PGresult}
    (hconnected : m.connected = true)
    (h : m.respond faults out now (.transaction c) = (.result res, m')) :
    (transactionCommand c conn).runAlone (respond faults out now) r m =
      (some (commandOk res), m') := by
  have hstatus : m.respond faults out now .status = (.connected true, m) := by
    rw [← hconnected]
    rfl
  obtain ⟨ok, t, hrun, rfl, rfl⟩ : (transactionCommand c conn).Ends (respond faults out now) r m
      fun ok t _ => ok = commandOk res ∧ t = m' :=
    Program.ends_call hstatus (Program.ends_call h (Program.ends_pure ⟨rfl, rfl⟩))
  exact hrun

theorem run_command_lost {c : TransactionCommand} (hconnected : m.connected = false) :
    (transactionCommand c conn).runAlone (respond faults out now) r m = (some false, m) := by
  have hstatus : m.respond faults out now .status = (.connected false, m) := by
    rw [← hconnected]
    rfl
  obtain ⟨ok, t, hrun, rfl, rfl⟩ : (transactionCommand c conn).Ends (respond faults out now) r m
      fun ok t _ => ok = false ∧ t = m := Program.ends_call hstatus (Program.ends_pure ⟨rfl, rfl⟩)
  exact hrun

/-- A command that is not refused comes to what it comes to elsewhere. -/
theorem run_respond {c : TransactionCommand} {ok : Bool}
    (hrespond : m.respond faults out now (.transaction c) =
      m.send faults out now (.transaction c))
    (h : m.command faults out now c = (ok, m')) :
    (transactionCommand c conn).runAlone (respond faults out now) r m = (some ok, m') := by
  rw [command] at h
  cases hconnected : m.connected with
  | false =>
      rw [if_neg (by simp [hconnected])] at h
      cases h
      exact run_command_lost hconnected
  | true =>
      obtain ⟨res, m₁, hsend⟩ : ∃ res m₁,
          m.send faults out now (.transaction c) = (.result res, m₁) := by
        rw [send, if_pos hconnected]
        cases m.fate faults (.transaction c : Call R) with
        | runs => exact ⟨_, _, rfl⟩
        | fails => exact ⟨_, _, rfl⟩
        | drops => exact ⟨_, _, rfl⟩
        | unanswered => exact ⟨_, _, rfl⟩
      rw [if_pos hconnected, hsend] at h
      cases h
      exact run_command hconnected (hrespond.trans hsend)

/-- A `ROLLBACK` leaves what is committed as it is, whatever it answers. -/
theorem Revertible.run_rollback (h : m.Revertible rows) :
    ∃ ok m', (rollbackTransaction conn).runAlone (respond faults out now) r m = (some ok, m') ∧
      m'.durable = rows := by
  by_cases hrefused : m.connected = true ∧ faults m.sent = .fails
  · refine ⟨_, _, run_command hrefused.1 (if_pos hrefused), ?_⟩
    rw [← h.durable]
    exact durable_spoil m
  · obtain ⟨ok, m', hcommand, hclosed⟩ := h.rollback faults out now
    exact ⟨ok, m', run_respond (if_neg hrefused) hcommand, Revertible.durable (.inr hclosed)⟩

end Respond

end Remote

/-! ## Rows of a batch -/

/-- The statement for a reading puts a row into the table, whose constraints are
not about the other rows of that table. -/
structure BatchRow {α : Type} (row : α → Option (Query R)) (table : String) : Prop where
  insert : ∀ {data q}, row data = some q → q = .insert table q.values false
  unique : (constraints R table).unique = []
  references : ∀ reference ∈ (constraints R table).references, reference.2 ≠ table

/-- The row of a reading in the table. -/
def RowOf {α : Type} (row : α → Option (Query R)) (table : String) (now : Int) (data : α)
    (record : Record R) : Prop :=
  ∃ q, row data = some q ∧ record.values = rowValues table q.values now

/-- Every reading has its row in the table, and nothing else has changed. -/
structure AllStored {α : Type} (row : α → Option (Query R)) (table : String) (now : Int)
    (dataList : List α) (before after : Rows R) : Prop where
  readings : ∃ added, after table = before table ++ added ∧
    List.Forall₂ (RowOf row table now) dataList added
  others : ∀ other, other ≠ table → after other = before other

/-- Every reading has a statement, and the constraints admit its row. -/
def AllAdmitted {α : Type} (row : α → Option (Query R)) (table : String) (now : Int)
    (rows : Rows R) (dataList : List α) : Prop :=
  ∀ data ∈ dataList, ∃ q, row data = some q ∧
    rows.admits table (rowValues table q.values now) = true

section Rows

variable {α : Type} {row : α → Option (Query R)} {table : String} {now : Int} {data : α}
  {dataList : List α} {q : Query R} {rows before after : Rows R}

theorem laserRow_batchRow :
    BatchRow (R := R) (fun data => laserRow data false) "laser_microscope_data" where
  insert h := laserRow_eq_insert h
  unique := rfl
  references := by simp [constraints]

theorem vibrationRow_batchRow :
    BatchRow (R := R) (fun data => vibrationRow data false) "vibration_data" where
  insert {data q} h := by
    rw [vibrationRow] at h
    cases hdump : dumpOrNull data.frequencySpectrum with
    | none =>
        rw [hdump] at h
        cases h
    | some frequencySpectrum =>
        rw [hdump] at h
        cases h
        rfl
  unique := rfl
  references := by simp [constraints]

/-- A row of the table changes nothing for the next one. -/
theorem BatchRow.admits_add (h : BatchRow row table) (s : Store R)
    (values values' : List (String × Value R)) :
    (s.add table values now).rows.admits table values' = s.rows.admits table values' := by
  have hasId : ∀ {other id}, other ≠ table →
      (s.add table values now).rows.hasId other id = s.rows.hasId other id := fun hother => by
    rw [Rows.hasId, Store.add_rows, Function.update_of_ne hother]
    rfl
  rw [Rows.admits, Rows.admits, h.unique]
  refine congrArg₂ (· && ·) rfl ?_
  rw [Bool.eq_iff_iff, List.all_eq_true, List.all_eq_true]
  refine forall₂_congr fun reference hreference => ?_
  simp only [hasId (h.references reference hreference)]

theorem BatchRow.allAdmitted_add (h : BatchRow row table) (s : Store R)
    (values : List (String × Value R)) :
    AllAdmitted row table now (s.add table values now).rows dataList ↔
      AllAdmitted row table now s.rows dataList := by
  simp only [AllAdmitted, h.admits_add]

theorem allAdmitted_cons (hq : row data = some q) :
    AllAdmitted row table now rows (data :: dataList) ↔
      rows.admits table (rowValues table q.values now) = true ∧
        AllAdmitted row table now rows dataList := by
  rw [AllAdmitted, List.forall_mem_cons, hq]
  exact and_congr_left fun _ => ⟨fun ⟨_, hq', h⟩ => by cases hq'; exact h, fun h => ⟨q, rfl, h⟩⟩

theorem AllStored.nil : AllStored row table now [] rows rows :=
  ⟨⟨[], (List.append_nil _).symm, .nil⟩, fun _ _ => rfl⟩

/-- The first row, and then the others. -/
theorem AllStored.cons {s : Store R} (hq : row data = some q)
    (h : AllStored row table now dataList
      (s.add table (rowValues table q.values now) now).rows after) :
    AllStored row table now (data :: dataList) s.rows after := by
  obtain ⟨⟨added, hadded, hrows⟩, hothers⟩ := h
  refine ⟨⟨⟨s.nextId table, rowValues table q.values now, now⟩ :: added, ?_, ?_⟩, ?_⟩
  · rw [hadded, Store.add_rows, Function.update_self, List.append_assoc]
    rfl
  · exact .cons ⟨q, hq, rfl⟩ hrows
  · intro other hother
    rw [hothers other hother, Store.add_rows, Function.update_of_ne hother]

/-- Rows that are not there are not stored. -/
theorem not_allStored (hne : dataList ≠ []) : ¬ AllStored row table now dataList rows rows := by
  rintro ⟨⟨added, hadded, hrows⟩, -⟩
  rw [List.self_eq_append_right] at hadded
  subst hadded
  cases hrows
  exact hne rfl

end Rows

/-! ## The loop of a batch -/

/-- Everything before the `COMMIT` of a batch runs, and the `COMMIT` is not executed. -/
structure CommitLost {α : Type} (faults : Nat → Fate) (row : α → Option (Query R))
    (table : String) (now : Int) (rows : Rows R) (dataList : List α) : Prop where
  nonempty : dataList ≠ []
  begins : faults 0 = .runs
  inserts : Fare faults (· = .runs) 1 dataList.length
  admitted : AllAdmitted row table now rows dataList
  lost : (faults (dataList.length + 1)).executes = false

section Loop

variable {α : Type} {row : α → Option (Query R)} {table : String} {faults : Nat → Fate}
  {out : Output R} {now : Int} {conn r : Connection} {rows : Rows R} {k : Nat}

theorem fare_cons {P : Fate → Prop} {n : Nat} :
    Fare faults P k (n + 1) ↔ P (faults k) ∧ Fare faults P (k + 1) n := by
  rw [Fare, Nat.forall_lt_succ_left]
  simp only [Fare, Nat.add_zero, Nat.add_assoc, Nat.add_comm 1]

/-- An `INSERT` runs exactly if nothing goes wrong with it and its row is
admitted. -/
theorem Remote.Open.insert_runs (faults : Nat → Fate) (out : Output R) (now : Int) {m : Remote R}
    (h : m.Open rows false) (values : List (String × Value R)) :
    ∃ res m', m.serve faults out now (.query (.insert table values false)) = (.result res, m') ∧
      (commandOk res = true → faults m.sent = .runs ∧
        m.backend.store.rows.admits table (rowValues table values now) = true ∧
        m'.Open rows false ∧ m'.sent = m.sent + 1 ∧
        m'.backend.store = m.backend.store.add table (rowValues table values now) now) ∧
      (commandOk res = false → m'.Revertible rows ∧ ¬ (faults m.sent = .runs ∧
        m.backend.store.rows.admits table (rowValues table values now) = true)) := by
  obtain ⟨res, m', hserve, hsent, heffect⟩ :=
    h.query faults out now (.insert table values false)
  refine ⟨res, m', hserve, ?_⟩
  cases hadmits : m.backend.store.rows.admits table (rowValues table values now) with
  | false =>
      rw [run_insert_of_not_admits out now hadmits] at heffect
      cases heffect with
      | ran _ hok => exact absurd rfl hok
      | failed _ _ hother hopen =>
          rw [commandOk_of_other hother]
          exact ⟨(by simp), fun _ => ⟨.inl ⟨true, hopen⟩, by simp⟩⟩
      | dropped _ hlost => exact ⟨(by simp [commandOk]), fun _ => ⟨.inr hlost.toClosed, by simp⟩⟩
  | true =>
      rw [Store.run, if_pos hadmits] at heffect
      cases heffect with
      | ran hrun _ hopen hstore =>
          exact ⟨fun _ => ⟨hrun, rfl, hopen, hsent, hstore⟩, by simp [commandOk, done]⟩
      | failed _ hfailed hother hopen =>
          rw [commandOk_of_other hother]
          refine ⟨(by simp), fun _ => ⟨.inl ⟨true, hopen⟩, fun hrun => ?_⟩⟩
          cases hfailed hrun.1
      | dropped hfault hlost =>
          refine ⟨(by simp [commandOk]), fun _ => ⟨.inr hlost.toClosed, fun hrun => ?_⟩⟩
          exact Fate.ne_runs_of_loses hfault hrun.1

/-- The loop adds every row, or stops, or throws on a reading that has no
statement. -/
theorem comesTo_batchLoop (hrow : BatchRow row table) {dataList : List α} {f : Bool → Db R Bool}
    {post : Option Bool → Remote R → Prop} :
    ∀ {m : Remote R}, m.Open rows false → m.sent = k →
      (Fare faults (· = .runs) k dataList.length →
        AllAdmitted row table now m.backend.store.rows dataList →
        ∀ m', m'.Open rows false → m'.sent = k + dataList.length →
          AllStored row table now dataList m.backend.store.rows m'.backend.store.rows →
          (f true).ComesTo (Remote.respond faults out now) r m' post) →
      (¬ (Fare faults (· = .runs) k dataList.length ∧
          AllAdmitted row table now m.backend.store.rows dataList) →
        (∀ m', post none m') ∧ ∀ m', m'.Revertible rows →
          (f false).ComesTo (Remote.respond faults out now) r m' post) →
      (batchLoop row conn dataList >>= f).ComesTo (Remote.respond faults out now) r m post := by
  induction dataList generalizing k with
  | nil => exact fun hopen hsent hall _ => hall fare_zero (by simp [AllAdmitted]) _ hopen hsent .nil
  | cons data dataList ih =>
      intro m hopen hsent hall hstop
      cases hq : row data with
      | none =>
          have hthrow := (hstop fun h => by
            obtain ⟨q, hq', -⟩ := h.2 data List.mem_cons_self
            cases hq.symm.trans hq').1 m
          rw [batchLoop, hq]
          exact hthrow
      | some q =>
          obtain ⟨res, m₁, hserve, hok, hfail⟩ :=
            hopen.insert_runs faults out now q.values
          rw [← hrow.insert hq] at hserve
          rw [List.length_cons, fare_cons, allAdmitted_cons hq] at hall hstop
          rw [batchLoop, hq]
          refine Program.comesTo_call (t := m₁) hserve ?_
          show ((if commandOk res then batchLoop row conn dataList else return false) >>=
            f).ComesTo _ r m₁ post
          cases hres : commandOk res with
          | true =>
              obtain ⟨hrun, hadmits, hopen₁, hsent₁, hstore⟩ := hok hres
              rw [hsent] at hrun hsent₁
              rw [← hrow.allAdmitted_add m.backend.store (rowValues table q.values now),
                ← hstore] at hall hstop
              refine ih hopen₁ hsent₁ (fun hfare hadmitted m' hopen' hsent' hstored => ?_)
                fun hunfit => hstop fun h => hunfit ⟨h.1.2, h.2.2⟩
              rw [hstore] at hstored
              refine hall ⟨hrun, hfare⟩ ⟨hadmits, hadmitted⟩ m' hopen' ?_ (.cons hq hstored)
              omega
          | false =>
              obtain ⟨hrevertible, hunfit⟩ := hfail hres
              rw [hsent] at hunfit
              exact (hstop fun h => hunfit ⟨h.1.1, h.2.1⟩).2 m₁ hrevertible

end Loop

/-! ## The report of a batch -/

/-- The flag tells whether the rows are committed, and none of them is if it is
`false`. -/
structure Reliable {α : Type} (row : α → Option (Query R)) (table : String) (now : Int)
    (dataList : List α) (before after : Rows R) (ok : Bool) : Prop where
  stored : ok = true ↔ AllStored row table now dataList before after
  undone : ok = false → after = before

section Report

variable {α : Type} {row : α → Option (Query R)} {table : String} {faults : Nat → Fate}
  {out : Output R} {now : Int} {r : Connection} {s : Store R} {dataList : List α}
  {rows : Rows R}

theorem reliable_failure (hne : dataList ≠ []) :
    Reliable row table now dataList rows rows false :=
  ⟨iff_of_false (by simp) (not_allStored hne), fun _ => rfl⟩

/-- What a batch may come to: its flag is reliable unless the `COMMIT` is lost, and
then it has a flag. -/
def Told (faults : Nat → Fate) (row : α → Option (Query R)) (table : String) (now : Int)
    (rows : Rows R) (dataList : List α) : Option Bool → Remote R → Prop
  | some ok, m =>
      Reliable row table now dataList rows m.durable ok ↔
        ¬ CommitLost faults row table now rows dataList
  | none, _ => ¬ CommitLost faults row table now rows dataList

/-- How a batch ends that has failed in time. -/
theorem told_failure {m : Remote R} (hne : dataList ≠ [])
    (h : ¬ CommitLost faults row table now rows dataList) (hm : m.durable = rows) :
    Told faults row table now rows dataList (some false) m := by
  rw [Told, hm]
  exact iff_of_true (reliable_failure hne) h

/-- How a batch ends that gets as far as its `COMMIT`. -/
theorem comesTo_commit {m : Remote R} (hne : dataList ≠ []) (hbegin : faults 0 = .runs)
    (hfare : Fare faults (· = .runs) 1 dataList.length)
    (hadmitted : AllAdmitted row table now rows dataList) (hopen : m.Open rows false)
    (hsent : m.sent = 1 + dataList.length)
    (hstored : AllStored row table now dataList rows m.backend.store.rows) :
    (do
      let _ ← commitTransaction r
      release r
      return true : Db R Bool).ComesTo (Remote.respond faults out now) r m
        (Told faults row table now rows dataList) := by
  obtain ⟨m', hcommand, hclosed⟩ := hopen.commit faults out now
  refine Program.comesTo_bind (Remote.run_respond rfl hcommand) ?_
  show Reliable row table now dataList rows m'.durable true ↔ _
  rw [hsent, Nat.add_comm] at hclosed
  rw [Remote.Revertible.durable (.inr hclosed)]
  cases hcommit : (faults (dataList.length + 1)).executes with
  | true =>
      rw [if_pos ⟨rfl, rfl⟩]
      refine iff_of_true ⟨iff_of_true rfl hstored, fun h => by cases h⟩ fun h => ?_
      cases hcommit.symm.trans h.lost
  | false =>
      rw [if_neg (by simp)]
      refine iff_of_false (fun h => not_allStored hne (h.stored.mp rfl)) (not_not.mpr ?_)
      exact ⟨hne, hbegin, hfare, hadmitted, hcommit⟩

theorem comesTo_batchInsert (hrow : BatchRow row table) (faults : Nat → Fate) (out : Output R)
    (now : Int) (r : Connection) (s : Store R) (dataList : List α) :
    (batchInsert row dataList).ComesTo (Remote.respond faults out now) r (Remote.idle s)
      (Told faults row table now s.rows dataList) := by
  by_cases hne : dataList = []
  · subst hne
    exact iff_of_true ⟨iff_of_true rfl .nil, fun _ => rfl⟩ fun h => h.nonempty rfl
  · obtain ⟨m, hcommand, hsent, hopen, hclosed⟩ := Remote.command_begin faults out now s
    rw [batchInsert, if_neg (by simpa using hne)]
    refine Program.comesTo_bind (p := acquire) rfl ?_
    refine Program.comesTo_bind (Remote.run_respond rfl hcommand) ?_
    by_cases hbegin : faults 0 = .runs
    · obtain ⟨hopen, hstore⟩ := hopen hbegin
      rw [decide_eq_true hbegin]
      refine comesTo_batchLoop hrow hopen hsent ?_ ?_
      · intro hfare hadmitted m' hopen' hsent' hstored
        rw [hstore] at hadmitted hstored
        exact comesTo_commit hne hbegin hfare hadmitted hopen' hsent' hstored
      · intro hunfit
        rw [hstore] at hunfit
        have hkept : ¬ CommitLost faults row table now s.rows dataList := fun h =>
          hunfit ⟨h.inserts, h.admitted⟩
        refine ⟨fun _ => hkept, fun m' hrevertible => ?_⟩
        obtain ⟨ok, m₁, hrollback, hdurable⟩ := hrevertible.run_rollback
        refine Program.comesTo_bind hrollback ?_
        exact told_failure hne hkept hdurable
    · rw [decide_eq_false hbegin]
      refine told_failure hne (fun h => hbegin h.begins) ?_
      exact Remote.Revertible.durable (.inr (hclosed hbegin))

/-- The flag of a batch that returns is reliable unless the `COMMIT` is lost. -/
theorem batchInsert_reliable_iff (hrow : BatchRow row table) (faults : Nat → Fate)
    (out : Output R) (now : Int) (r : Connection) (s : Store R) (dataList : List α) :
    (∀ ok m, (batchInsert row dataList).runAlone (Remote.respond faults out now) r
        (Remote.idle s) = (some ok, m) → Reliable row table now dataList s.rows m.durable ok) ↔
      ¬ CommitLost faults row table now s.rows dataList := by
  have htold := comesTo_batchInsert hrow faults out now r s dataList
  rw [Program.ComesTo] at htold
  obtain ⟨value, m, hrun⟩ : ∃ value m, (batchInsert row dataList).runAlone
      (Remote.respond faults out now) r (Remote.idle s) = (value, m) := ⟨_, _, rfl⟩
  rw [hrun] at htold ⊢
  cases value with
  | none => exact iff_of_true (fun _ _ h => by cases h) htold
  | some ok =>
      refine Iff.trans ⟨fun h => h ok m rfl, fun h ok' m' h' => ?_⟩ htold
      cases h'
      exact h

end Report

/-- What the two batches report is what has been committed, unless everything runs
but the `COMMIT`. -/
theorem batchInsert_reports_commit_iff (faults : Nat → Fate) (out : Output R) (now : Int)
    (r : Connection) (s : Store R) :
    (∀ dataList : List (LaserMicroscopeData R),
      (∀ ok m, (batchInsertLaserData dataList).runAlone (Remote.respond faults out now) r
          (Remote.idle s) = (some ok, m) →
        Reliable (fun data => laserRow data false) "laser_microscope_data" now dataList s.rows
          m.durable ok) ↔
      ¬ CommitLost faults (fun data => laserRow data false) "laser_microscope_data" now s.rows
        dataList) ∧
    (∀ dataList : List (VibrationData R),
      (∀ ok m, (batchInsertVibrationData dataList).runAlone (Remote.respond faults out now) r
          (Remote.idle s) = (some ok, m) →
        Reliable (fun data => vibrationRow data false) "vibration_data" now dataList s.rows
          m.durable ok) ↔
      ¬ CommitLost faults (fun data => vibrationRow data false) "vibration_data" now s.rows
        dataList) :=
  ⟨batchInsert_reliable_iff laserRow_batchRow faults out now r s,
    batchInsert_reliable_iff vibrationRow_batchRow faults out now r s⟩

def scan : LaserMicroscopeData Unit :=
  ⟨0, 1, 1, 0, ((), (), (), ()), (), false, 0, [], .null⟩

/-- The `COMMIT` of a batch of one reading fails, and the batch is reported as
inserted. -/
theorem lost_commit_is_reported_as_inserted :
    ¬ ∀ (faults : Nat → Fate) (out : Output Unit) (now : Int) (r : Connection) (s : Store Unit)
        (dataList : List (LaserMicroscopeData Unit)) (ok : Bool) (m : Remote Unit),
      (batchInsertLaserData dataList).runAlone (Remote.respond faults out now) r
          (Remote.idle s) = (some ok, m) →
        Reliable (fun data => laserRow data false) "laser_microscope_data" now dataList s.rows
          m.durable ok := by
  intro h
  have hreliable := h thirdFails plainOutput 0 0 oneCrack [scan] true _ rfl
  exact not_allStored (by simp) (hreliable.stored.mp rfl)

end PorcelainMonitor.Database
