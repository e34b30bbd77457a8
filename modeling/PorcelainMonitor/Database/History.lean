import PorcelainMonitor.Database.Conservation
import PorcelainMonitor.Database.Faults

/-!
# The history of the tables

A property of the tables that the statements of an operation keep is kept by every run of the
operation, whatever fails on the way (`Store.attempt_has`).

`Store.Grows` says what may become of the tables: rows are added under new ids, and no row
is deleted, moved or changed, except for the status of an alert.  Every history of operations
keeps to that (`tables_append_only`).
-/

namespace PorcelainMonitor.Database

open PooledProgram (Program)

variable {R : Type}

/-! ## Later tables -/

/-- The columns that say how an alert has been dealt with. -/
def statusColumns : List String := ["status", "updated_at", "acknowledged_at", "resolved_at"]

/-- A later version of a row. -/
structure Record.Later (table : String) (r r' : Record R) : Prop where
  id : r'.id = r.id
  createdAt : r'.createdAt = r.createdAt
  values : ∀ column, table ≠ "alerts" ∨ column ∉ statusColumns →
    valueOf r'.values column = valueOf r.values column

theorem Record.Later.refl (table : String) (r : Record R) : r.Later table r :=
  ⟨rfl, rfl, fun _ _ => rfl⟩

/-- A row may be dealt with more than once. -/
theorem Record.Later.trans {table : String} {r r' r'' : Record R} (h : r.Later table r')
    (h' : r'.Later table r'') : r.Later table r'' where
  id := h'.id.trans h.id
  createdAt := h'.createdAt.trans h.createdAt
  values column hcolumn := (h'.values column hcolumn).trans (h.values column hcolumn)

/-- Later rows of all tables, the new ones under ids that had not been given out. -/
structure Rows.Grow (rows rows' : Rows R) (nextId : String → Int) : Prop where
  kept : ∀ (table : String) (i : Nat) (r : Record R), (rows table)[i]? = some r →
    ∃ r', (rows' table)[i]? = some r' ∧ r.Later table r'
  added : ∀ (table : String) (i : Nat) (r' : Record R), (rows' table)[i]? = some r' →
    (rows table).length ≤ i → nextId table ≤ r'.id

/-- The tables of a later store. -/
structure Store.Grows (s t : Store R) : Prop where
  rows : s.rows.Grow t.rows s.nextId
  nextId : ∀ table, s.nextId table ≤ t.nextId table

theorem Rows.Grow.refl (rows : Rows R) (nextId : String → Int) : rows.Grow rows nextId where
  kept table i r hr := ⟨r, hr, .refl table r⟩
  added table i r' hr' hi := by
    rw [List.getElem?_eq_none hi] at hr'
    cases hr'

/-- New rows stay new, since ids are given out in ascending order. -/
theorem Rows.Grow.trans {rows rows' rows'' : Rows R} {nextId nextId' : String → Int}
    (h : rows.Grow rows' nextId) (h' : rows'.Grow rows'' nextId')
    (hle : ∀ table, nextId table ≤ nextId' table) : rows.Grow rows'' nextId where
  kept table i r hr := by
    obtain ⟨r', hr', hlater⟩ := h.kept table i r hr
    obtain ⟨r'', hr'', hlater'⟩ := h'.kept table i r' hr'
    exact ⟨r'', hr'', hlater.trans hlater'⟩
  added table i r'' hr'' hi := by
    cases hr' : (rows' table)[i]? with
    | some r' =>
        obtain ⟨r₂, hr₂, hlater⟩ := h'.kept table i r' hr'
        cases hr₂.symm.trans hr''
        rw [hlater.id]
        exact h.added table i r' hr' hi
    | none =>
        have hi' := List.getElem?_eq_none_iff.mp hr'
        exact Int.le_trans (hle table) (h'.added table i r'' hr'' hi')

namespace Store.Grows

variable {s t u : Store R}

theorem refl (s : Store R) : s.Grows s := ⟨.refl _ _, fun _ => Int.le_refl _⟩

theorem trans (h : s.Grows t) (h' : t.Grows u) : s.Grows u :=
  ⟨h.rows.trans h'.rows h.nextId, fun table => Int.le_trans (h.nextId table) (h'.nextId table)⟩

/-! ## Statements -/

theorem le_skipId (s : Store R) (table other : String) :
    s.nextId other ≤ (s.skipId table).nextId other := by
  rw [skipId_nextId]
  by_cases h : other = table
  · subst h
    rw [Function.update_self]
    exact Int.le_of_lt (Int.lt_succ _)
  · exact Int.le_of_eq (Function.update_of_ne h _ _).symm

/-- An insertion that is refused takes an id all the same. -/
theorem skipId (s : Store R) (table : String) : s.Grows (s.skipId table) :=
  ⟨.refl _ _, le_skipId s table⟩

/-- A new row comes last. -/
theorem add (s : Store R) (table : String) (values : List (String × Value R)) (now : Int) :
    s.Grows (s.add table values now) where
  nextId := le_skipId s table
  rows := {
    kept := by
      intro other i r hr
      refine ⟨r, ?_, .refl other r⟩
      rw [add_rows]
      by_cases h : other = table
      · subst h
        rw [Function.update_self, List.getElem?_append_left (List.getElem?_eq_some_iff.mp hr).1]
        exact hr
      · rwa [Function.update_of_ne h]
    added := by
      intro other i r hr hi
      rw [add_rows] at hr
      by_cases h : other = table
      · subst h
        rw [Function.update_self, List.getElem?_append_right hi] at hr
        have hnew := List.mem_singleton.mp (List.mem_of_getElem? hr)
        exact Int.le_of_eq (congrArg Record.id hnew).symm
      · rw [Function.update_of_ne h, List.getElem?_eq_none hi] at hr
        cases hr }

/-- A column that is not set keeps its value. -/
theorem valueOf_append_of_notMem {values old : List (String × Value R)} {column : String}
    (h : column ∉ values.map Prod.fst) : valueOf (values ++ old) column = valueOf old column := by
  have hnone : values.lookup column = none := by
    rw [List.lookup_eq_none_iff]
    intro p hp
    simp only [bne_iff_ne, ne_eq]
    rintro rfl
    exact h (List.mem_map_of_mem hp)
  rw [valueOf, valueOf, List.lookup_append, hnone, Option.none_or]

/-- New values for the status of an alert. -/
theorem set (s : Store R) {values : List (String × Value R)} (id : Int)
    (hvalues : ∀ column ∈ values, column.1 ∈ statusColumns) :
    s.Grows (s.set "alerts" values id) where
  nextId _ := Int.le_refl _
  rows := {
    kept := by
      intro table i r hr
      rw [set_rows]
      by_cases h : table = "alerts"
      · subst h
        rw [Function.update_self, List.getElem?_map, hr]
        refine ⟨_, rfl, ?_⟩
        dsimp only
        split
        · refine ⟨rfl, rfl, fun column hcolumn => valueOf_append_of_notMem fun hmem => ?_⟩
          obtain ⟨p, hp, rfl⟩ := List.mem_map.mp hmem
          exact (hcolumn.resolve_left fun hne => hne rfl) (hvalues p hp)
        · exact .refl _ r
      · rw [Function.update_of_ne h]
        exact ⟨r, hr, .refl table r⟩
    added := by
      intro table i r' hr' hi
      rw [set_rows] at hr'
      by_cases h : table = "alerts"
      · subst h
        rw [Function.update_self, List.getElem?_map, List.getElem?_eq_none hi] at hr'
        cases hr'
      · rw [Function.update_of_ne h, List.getElem?_eq_none hi] at hr'
        cases hr' }

end Store.Grows

/-- The call changes no row, except for the status of an alert. -/
def Call.KeepsRows : Call R → Prop
  | .query (.update table values _) =>
      table = "alerts" ∧ ∀ column ∈ values, column.1 ∈ statusColumns
  | _ => True

/-- Whatever the statement, unless it is a forbidden update. -/
theorem Store.Grows.run (out : Output R) (now : Int) (s : Store R) {q : Query R}
    (h : (Call.query q).KeepsRows) : s.Grows (s.run out now q).2 := by
  cases q with
  | insert table values returning =>
      rw [Store.run]
      split
      · exact .add s table _ now
      · exact .skipId s table
  | select columns source condition order limit => exact .refl s
  | update table values id =>
      obtain ⟨rfl, hvalues⟩ := h
      refine .set s id fun column hcolumn => ?_
      obtain ⟨p, hp, rfl⟩ := List.mem_map.mp hcolumn
      exact hvalues p hp

/-! ## Connections -/

/-- The statements keep a property of the rows, which does not mind that sequences move on. -/
structure KeptBy (out : Output R) (allowed : Call R → Prop)
    (P : Rows R → (String → Int) → Prop) : Prop where
  later : ∀ {rows nextId nextId'}, P rows nextId → (∀ table, nextId table ≤ nextId' table) →
    P rows nextId'
  run : ∀ {s : Store R} {q : Query R} (now : Int), allowed (.query q) → P s.rows s.nextId →
    P (s.run out now q).2.rows (s.run out now q).2.nextId

/-- The tables of a backend have a property, and so have those that it may go back to. -/
structure Backend.Has (P : Rows R → (String → Int) → Prop) (b : Backend R) : Prop where
  store : P b.store.rows b.store.nextId
  saved : ∀ p ∈ b.saved, P p.1 b.store.nextId

section Has

variable {P : Rows R → (String → Int) → Prop} {out : Output R} {allowed : Call R → Prop}
  {b : Backend R}

namespace Backend.Has

/-- Outside a transaction there is nothing to go back to. -/
theorem idle {s : Store R} (h : P s.rows s.nextId) : Has P (Backend.idle s) :=
  ⟨h, fun _ hp => by cases hp⟩

/-- The tables that come back had the property when they were saved. -/
theorem rollback (h : Has P b) : Has P b.rollback := by
  rw [Backend.rollback]
  split
  · exact h
  · next p hp => exact ⟨h.saved _ hp, fun _ hp => by cases hp⟩

theorem spoil (h : Has P b) : Has P b.spoil where
  store := h.store
  saved p hp := by
    obtain ⟨p', hp', rfl⟩ := Option.map_eq_some_iff.mp hp
    exact h.saved p' hp'

/-- A statement that runs keeps the property of the tables, and of those to go back to. -/
theorem query (hkept : KeptBy out allowed P) (now : Int) (h : Has P b) {q : Query R}
    (hq : allowed (.query q)) : Has P (b.query out now q).2 := by
  have hrun := hkept.run now hq h.store
  rw [Backend.query]
  split
  · exact .idle hrun
  · exact h
  · next rows hsaved =>
      refine ⟨hrun, fun p hp => ?_⟩
      cases hp
      exact hkept.later (h.saved (rows, false) hsaved) (b.store.nextId_le_run out now q)

/-- `BEGIN` saves the tables, and `COMMIT` and `ROLLBACK` forget the saved ones. -/
theorem command (h : Has P b) : ∀ c : TransactionCommand, Has P (b.command c).2
  | .begin => by
      show Has P (if b.saved.isSome then b else _)
      split
      · exact h
      · refine ⟨h.store, ?_⟩
        rintro _ ⟨⟩
        exact h.store
  | .commit => by
      show Has P (if b.saved.any Prod.snd then b.rollback else .idle b.store)
      split
      · exact h.rollback
      · exact .idle h.store
  | .rollback => h.rollback

end Backend.Has

/-- Whatever becomes of a call. -/
theorem Remote.has_serve (hkept : KeptBy out allowed P) (faults : Nat → Fate) (now : Int)
    {m : Remote R} {call : Call R} (hcall : allowed call) (h : m.backend.Has P) :
    (m.serve faults out now call).2.backend.Has P := by
  have hserved : (m.backend.serve out now call).2.Has P := by
    cases call with
    | status => exact h
    | transaction c => exact h.command c
    | query q => exact h.query hkept now hcall
  have hfailed : (m.backend.fail call).Has P := by
    cases call with
    | status => exact h.spoil
    | transaction c =>
        cases c with
        | begin => exact h.spoil
        | commit => exact h.rollback
        | rollback => exact h.spoil
    | query q => exact h.spoil
  have hsend : (m.send faults out now call).2.backend.Has P := by
    rw [send]
    split
    · cases m.fate faults call with
      | runs => exact hserved
      | fails => exact hfailed
      | drops => exact h.rollback
      | unanswered => exact hserved.rollback
    · exact h
  cases call with
  | status => exact h
  | transaction c => exact hsend
  | query q => exact hsend

end Has

/-! ## The operations -/

/-- The tables that the operations add to, besides that of the alerts. -/
def recordTables : List String :=
  ["laser_microscope_data", "vibration_data", "cracks", "crack_points",
    "crack_propagation_predictions", "repair_simulations", "profinet_packets"]

/-- All calls are allowed that write neither to the table of alerts nor over a row. -/
structure Call.Admits (allowed : Call R → Prop) : Prop where
  status : allowed .status
  transaction : ∀ c, allowed (.transaction c)
  select : ∀ columns source condition order limit,
    allowed (.query (.select columns source condition order limit))
  insert : ∀ table values returning, table ∈ recordTables →
    allowed (.query (.insert table values returning))

/-- Every statement but an update adds rows or reads. -/
theorem Call.admits_keepsRows : Call.Admits (R := R) Call.KeepsRows :=
  ⟨trivial, fun _ => trivial, fun _ _ _ _ _ => trivial, fun _ _ _ _ => trivial⟩

section Operations

variable {allowed : Call R → Prop} {conn : Connection}

theorem only_acquire : (acquire : Db R Connection).Only allowed := fun _ => trivial

theorem only_query {q : Query R} (hq : allowed (.query q)) :
    (exec conn (.query q) : Db R _).Only allowed := by
  refine ⟨hq, fun reply => ?_⟩
  cases reply with
  | connected b => trivial
  | result res => trivial

/-- The operations of one statement. -/
theorem only_runOne {β : Type} {statement : Option (Query R)} (read : Option PGresult → Option β)
    (hstatement : ∀ q ∈ statement, allowed (.query q)) : (runOne statement read).Only allowed :=
  Program.only_bind only_acquire fun _ => Program.only_bind_ofOption fun q hq =>
    Program.only_bind (only_query (hstatement q hq)) fun _ =>
      Program.only_bind_ofOption fun _ _ => trivial

/-- A batch makes the statements of its rows, and stops at the first that fails. -/
theorem only_batchLoop {α : Type} {row : α → Option (Query R)}
    (hrow : ∀ data, ∀ q ∈ row data, allowed (.query q)) (dataList : List α) :
    (batchLoop row conn dataList).Only allowed := by
  induction dataList with
  | nil => trivial
  | cons data rest ih =>
      refine Program.only_bind_ofOption fun q hq => ?_
      refine Program.only_bind (only_query (hrow data q hq)) fun res => ?_
      cases commandOk res with
      | true => exact ih
      | false => trivial

variable (h : Call.Admits allowed)
include h

/-- `PQstatus` and the command, in this order. -/
theorem only_transactionCommand (command : TransactionCommand) :
    (transactionCommand command conn : Db R Bool).Only allowed := by
  refine Program.only_bind ⟨h.status, fun reply => ?_⟩ fun connected => ?_
  · cases reply with
    | connected b => trivial
    | result res => trivial
  · cases connected with
    | true =>
        refine Program.only_bind ⟨h.transaction command, fun reply => ?_⟩ fun _ => trivial
        cases reply with
        | connected b => trivial
        | result res => trivial
    | false => trivial

theorem only_giveUp : (giveUp conn : Db R Bool).Only allowed :=
  Program.only_bind (only_transactionCommand h .rollback) fun _ => trivial

/-- The frame of the operations that open a transaction. -/
theorem only_transaction {β : Type} {f : Connection → Db R β} (b : β)
    (hf : ∀ conn, (f conn).Only allowed) :
    (do
      let conn ← acquire
      if ← beginTransaction conn then f conn
      else
        release conn
        return b : Db R β).Only allowed := by
  refine Program.only_bind only_acquire fun conn => ?_
  refine Program.only_bind (only_transactionCommand h .begin) fun ok => ?_
  cases ok with
  | true => exact hf conn
  | false => trivial

/-- The points of a crack go to a table of their own. -/
theorem only_pointRow (crackId : Int) (point : Point3D R) (returning : Bool) :
    (exec conn (.query (pointRow crackId point returning)) : Db R _).Only allowed :=
  only_query (h.insert _ _ _ (by decide))

theorem only_insertPointLoop (crackId : Int) (points : List (Point3D R)) :
    ∀ lastId, (insertPointLoop conn crackId points lastId).Only allowed := by
  induction points with
  | nil => exact fun _ => trivial
  | cons point points ih =>
      exact fun _ => Program.only_bind (only_pointRow h crackId point true) fun _ => ih _

/-- `insert_crack_points` in all of its branches. -/
theorem only_insertCrackPoints (crackId : Int) (points : List (Point3D R)) :
    (insertCrackPoints crackId points).Only allowed := by
  refine only_transaction h (-1) fun conn => ?_
  refine Program.only_bind (only_insertPointLoop h crackId points (-1)) fun lastId => ?_
  refine Program.only_bind (only_transactionCommand h .commit) fun ok => ?_
  cases ok with
  | true => trivial
  | false => exact Program.only_bind (only_transactionCommand h .rollback) fun _ => trivial

theorem only_batchInsert {α : Type} {row : α → Option (Query R)}
    (hrow : ∀ data, ∀ q ∈ row data, allowed (.query q)) (dataList : List α) :
    (batchInsert row dataList).Only allowed := by
  rw [batchInsert]
  split
  · trivial
  · refine only_transaction h false fun conn => ?_
    refine Program.only_bind (only_batchLoop hrow dataList) fun ok => ?_
    cases ok with
    | true => exact Program.only_bind (only_transactionCommand h .commit) fun _ => trivial
    | false => exact only_giveUp h

theorem only_detectionPoints (crackId : Int) {next : Db R Bool} (hnext : next.Only allowed)
    (points : List (Point3D R)) : (detectionPoints conn crackId next points).Only allowed := by
  induction points with
  | nil => exact hnext
  | cons point points ih =>
      refine Program.only_bind (only_pointRow h crackId point false) fun res => ?_
      cases commandOk res with
      | true => exact ih
      | false => exact only_giveUp h

theorem only_detectionCracks (porcelainId : Int) {next : Db R Bool} (hnext : next.Only allowed)
    (detections : List (CrackInfo R × List (Point3D R))) :
    (detectionCracks conn porcelainId next detections).Only allowed := by
  induction detections with
  | nil => exact hnext
  | cons detection rest ih =>
      refine Program.only_bind (only_query (h.insert _ _ _ (by decide))) fun res => ?_
      cases tuples res with
      | nil => exact only_giveUp h
      | cons row rows => exact only_detectionPoints h _ ih detection.2

theorem allowed_laserRow {data : LaserMicroscopeData R} {returning : Bool} {q : Query R}
    (hq : q ∈ laserRow data returning) : allowed (.query q) := by
  obtain ⟨_, _, hq⟩ := Option.bind_eq_some_iff.mp hq
  cases hq
  exact h.insert _ _ _ (by decide)

theorem allowed_vibrationRow {data : VibrationData R} {returning : Bool} {q : Query R}
    (hq : q ∈ vibrationRow data returning) : allowed (.query q) := by
  obtain ⟨_, _, hq⟩ := Option.bind_eq_some_iff.mp hq
  cases hq
  exact h.insert _ _ _ (by decide)

/-- The reading, its cracks and their points go to three of the tables. -/
theorem only_batchInsertCrackDetections (laserData : LaserMicroscopeData R)
    (cracks : List (CrackInfo R)) (crackPoints : List (List (Point3D R))) (porcelainId : Int) :
    (batchInsertCrackDetections laserData cracks crackPoints porcelainId).Only allowed := by
  refine only_transaction h false fun conn => ?_
  refine Program.only_bind_ofOption fun q hq => ?_
  refine Program.only_bind (only_query (allowed_laserRow h hq)) fun res => ?_
  cases tuples res with
  | nil => exact only_giveUp h
  | cons row rows =>
      refine only_detectionCracks h porcelainId ?_ (cracks.zip crackPoints)
      refine Program.only_bind (only_transactionCommand h .commit) fun ok => ?_
      cases ok with
      | true => trivial
      | false => exact only_giveUp h

theorem only_insertPrediction (prediction : CrackPrediction R) :
    (insertPrediction prediction).Only allowed := by
  refine only_runOne _ fun q hq => ?_
  obtain ⟨_, _, hq⟩ := Option.bind_eq_some_iff.mp hq
  cases hq
  exact h.insert _ _ _ (by decide)

theorem only_insertSimulation (simulation : RepairSimulation R) :
    (insertSimulation simulation).Only allowed := by
  refine only_runOne _ fun q hq => ?_
  obtain ⟨_, _, hq⟩ := Option.bind_eq_some_iff.mp hq
  obtain ⟨_, _, hq⟩ := Option.bind_eq_some_iff.mp hq
  cases hq
  exact h.insert _ _ _ (by decide)

theorem only_logProfinetPacket (sourceIp destIp : String) (frameId : UInt16)
    (payload : List UInt8) :
    (logProfinetPacket sourceIp destIp frameId payload : Db R Unit).Only allowed := by
  refine only_runOne _ fun q hq => ?_
  obtain ⟨_, _, hq⟩ := Option.bind_eq_some_iff.mp hq
  cases hq
  exact h.insert _ _ _ (by decide)

/-- A query needs no permission of its own. -/
theorem only_select {β : Type} {columns : List String} {source : String}
    {condition : Option (String × Int)} {order : Option String} {limit : Option Int}
    {read : Option PGresult → Option β} :
    (runOne (some (.select columns source condition order limit)) read).Only allowed :=
  only_runOne _ fun q hq => by
    cases hq
    exact h.select _ _ _ _ _

end Operations

/-- The `UPDATE` of `update_alert_status`. -/
def statusUpdate (alertId : Int) (status : AlertStatus) : Query R :=
  .update "alerts" ([("status", .cast (statusName status) "alert_status"),
    ("updated_at", .currentTimestamp)] ++
      match status with
      | .acknowledged => [("acknowledged_at", .currentTimestamp)]
      | .resolved => [("resolved_at", .currentTimestamp)]
      | _ => []) alertId

theorem updateAlertStatus_eq (alertId : Int) (status : AlertStatus) :
    (updateAlertStatus alertId status : Db R Bool) =
      runOne (some (statusUpdate alertId status)) fun res => some (commandOk res) := rfl

/-- An operation makes allowed calls if what it does to the alerts is allowed. -/
theorem Operation.only [Zero R] {allowed : Call R → Prop} (h : Call.Admits allowed)
    (lib : Reading R) {op : Operation R}
    (hinsert : ∀ alert, op = .insertAlert alert →
      allowed (.query (.insert "alerts" (alertColumns alert) true)))
    (hupdate : ∀ alertId status, op = .updateAlertStatus alertId status →
      allowed (.query (statusUpdate alertId status))) : (op.code lib).Only allowed := by
  cases op with
  | insertLaserData data => exact only_runOne _ fun _ => allowed_laserRow h
  | insertVibrationData data => exact only_runOne _ fun _ => allowed_vibrationRow h
  | insertCrack crack porcelainId =>
      refine only_runOne _ fun q hq => ?_
      cases hq
      exact h.insert _ _ _ (by decide)
  | insertCrackPoints crackId points => exact only_insertCrackPoints h crackId points
  | insertAlert alert =>
      refine only_runOne _ fun q hq => ?_
      cases hq
      exact hinsert alert rfl
  | insertPrediction prediction => exact only_insertPrediction h prediction
  | insertSimulation simulation => exact only_insertSimulation h simulation
  | logProfinetPacket sourceIp destIp frameId payload =>
      exact only_logProfinetPacket h sourceIp destIp frameId payload
  | updateAlertStatus alertId status =>
      refine only_runOne _ fun q hq => ?_
      cases hq
      exact hupdate alertId status rfl
  | batchInsertLaserData dataList =>
      exact only_batchInsert h (fun _ _ => allowed_laserRow h) dataList
  | batchInsertVibrationData dataList =>
      exact only_batchInsert h (fun _ _ => allowed_vibrationRow h) dataList
  | batchInsertCrackDetections laserData cracks crackPoints porcelainId =>
      exact only_batchInsertCrackDetections h laserData cracks crackPoints porcelainId
  | _ => exact only_select h

/-- The only update of the program sets columns of the status. -/
theorem keepsRows_statusUpdate (alertId : Int) (status : AlertStatus) :
    (Call.query (statusUpdate alertId status) : Call R).KeepsRows := by
  refine ⟨rfl, ?_⟩
  cases status <;> simp [statusColumns]

/-- No operation of the manager changes anything else. -/
theorem Operation.only_keepsRows [Zero R] (lib : Reading R) (op : Operation R) :
    (op.code lib).Only Call.KeepsRows :=
  Operation.only Call.admits_keepsRows lib (fun _ _ => trivial)
    fun alertId status _ => keepsRows_statusUpdate alertId status

/-- The tables that the program writes to. -/
def writtenTables : List String := "alerts" :: recordTables

/-- The call does not write to the table. -/
def Call.Spares (table : String) : Call R → Prop
  | .query (.insert other _ _) => other ≠ table
  | .query (.update other _ _) => other ≠ table
  | _ => True

/-- A table that no operation writes is left alone by each of them. -/
theorem Operation.only_spares [Zero R] (lib : Reading R) (op : Operation R) {table : String}
    (h : table ∉ writtenTables) : (op.code lib).Only (Call.Spares table) := by
  have halerts : "alerts" ≠ table := ne_of_mem_of_not_mem List.mem_cons_self h
  refine Operation.only ⟨trivial, fun _ => trivial, fun _ _ _ _ _ => trivial, ?_⟩ lib
    (fun _ _ => halerts) fun _ _ _ => halerts
  exact fun other _ _ hother => ne_of_mem_of_not_mem (List.mem_cons_of_mem _ hother) h

theorem keptBy_spares (out : Output R) {table : String} (records : List (Record R)) :
    KeptBy out (Call.Spares table) fun rows _ => rows table = records where
  later h _ := h
  run := by
    intro s q now hq h
    cases q with
    | insert other values returning =>
        rw [← h, Store.run]
        split
        · rw [Store.add_rows, Function.update_of_ne (Ne.symm hq)]
        · rfl
    | select columns source condition order limit => exact h
    | update other values id =>
        rw [← h, Store.run, Store.set_rows, Function.update_of_ne (Ne.symm hq)]

/-! ## Histories -/

/-- An operation at a time, and what becomes of its statements. -/
structure Attempt (R : Type) where
  op : Operation R
  now : Int
  faults : Nat → Fate

/-- The tables that others see when the operation has ended.  If it threw inside a
transaction, nobody ends that any more. -/
def Store.attempt [Zero R] (out : Output R) (lib : Reading R) (s : Store R) (a : Attempt R) :
    Store R :=
  ((a.op.code lib).runAlone (Remote.serve a.faults out a.now) (0 : Connection)
    (.idle s)).2.backend.rollback.store

/-- What its statements keep, an operation keeps. -/
theorem Store.attempt_has [Zero R] {out : Output R} {allowed : Call R → Prop}
    {P : Rows R → (String → Int) → Prop} (hkept : KeptBy out allowed P) {lib : Reading R}
    {s : Store R} {a : Attempt R} (honly : (a.op.code lib).Only allowed) (hs : P s.rows s.nextId) :
    P (s.attempt out lib a).rows (s.attempt out lib a).nextId := by
  have keep : ∀ (m : Remote R) (call : Call R), allowed call → m.backend.Has P →
      (m.serve a.faults out a.now call).2.backend.Has P :=
    fun _ _ hcall h => Remote.has_serve hkept a.faults a.now hcall h
  have hrun := Program.Only.runAlone (r := (0 : Connection)) keep honly (s := .idle s)
    (Backend.Has.idle hs)
  exact hrun.rollback.store

/-- The statements that change no row make the tables grow. -/
theorem keptBy_grows (out : Output R) (s : Store R) :
    KeptBy out Call.KeepsRows fun rows nextId =>
      s.rows.Grow rows s.nextId ∧ ∀ table, s.nextId table ≤ nextId table where
  later h hle := ⟨h.1, fun table => Int.le_trans (h.2 table) (hle table)⟩
  run := by
    intro t q now hq h
    have hrun : s.Grows (t.run out now q).2 := Store.Grows.trans ⟨h.1, h.2⟩ (.run out now t hq)
    exact ⟨hrun.rows, hrun.nextId⟩

/-- One operation, whatever becomes of its statements. -/
theorem Store.Grows.attempt [Zero R] (out : Output R) (lib : Reading R) (s : Store R)
    (a : Attempt R) : s.Grows (s.attempt out lib a) := by
  have hgrown := Store.attempt_has (keptBy_grows out s) (s := s) (a.op.only_keepsRows lib)
    ⟨.refl _ _, fun _ => Int.le_refl _⟩
  exact ⟨hgrown.1, hgrown.2⟩

/-- Whatever is called, in whatever order, and whatever fails on the way: rows are only
added, and only under ids that have never been given out. -/
theorem tables_append_only [Zero R] (out : Output R) (lib : Reading R) (s : Store R)
    (history : List (Attempt R)) : s.Grows (history.foldl (Store.attempt out lib) s) := by
  induction history generalizing s with
  | nil => exact .refl s
  | cons a history ih => exact (Store.Grows.attempt out lib s a).trans (ih _)

end PorcelainMonitor.Database
