import PorcelainMonitor.Database.DatabaseManager

/-!
# The tables of `init.sql`

What PostgreSQL does with the statements of `DatabaseManager`, on the schema that
`init.sql` creates.  A statement fails only on a constraint of that schema, and
it is taken as it is written: what its text can do to that is not looked at here.
Types of columns are not looked at either, so the range of a `NUMERIC` and the
`geometry` of `point_3d` are no constraints.

A connection has a backend of its own.  All backends share the store, and a
backend in a transaction keeps what `ROLLBACK` goes back to.
-/

namespace PorcelainMonitor.Database

open PooledProgram (Program)

variable {R : Type}

/-! ## Schema -/

structure Constraints (R : Type) where
  notNull : List String := []
  unique : List String := []
  /-- Columns that hold an id of another table. -/
  references : List (String × String) := []
  defaults : List (String × Value R) := []

/-- The constraints of a table, by its name. -/
def constraints (R : Type) : String → Constraints R
  | "porcelains" => { notNull := ["museum_id", "name", "dynasty"], unique := ["museum_id"] }
  | "sensors" => {
      notNull := ["sensor_code", "type", "name"]
      unique := ["sensor_code"]
      references := [("porcelain_id", "porcelains")]
      defaults := [("sampling_interval", .int 10800), ("status", .text "ACTIVE")] }
  | "cracks" => {
      notNull := ["porcelain_id", "crack_code"]
      unique := ["crack_code"]
      references := [("porcelain_id", "porcelains")]
      defaults := [("status", .text "ACTIVE")] }
  | "crack_points" => {
      notNull := ["crack_id", "point_3d", "depth", "width"]
      references := [("crack_id", "cracks")] }
  | "laser_microscope_data" => {
      notNull := ["sensor_id", "measurement_time"]
      references := [("sensor_id", "sensors"), ("porcelain_id", "porcelains")]
      defaults := [("crack_detected", .bool false), ("crack_count", .int 0)] }
  | "vibration_data" => {
      notNull := ["sensor_id", "measurement_time", "amplitude"]
      references := [("sensor_id", "sensors"), ("porcelain_id", "porcelains")] }
  | "crack_propagation_predictions" => {
      notNull := ["crack_id", "parameters", "time_horizon_hours"]
      references := [("crack_id", "cracks")]
      defaults := [("model_type", .text "PARIS_LAW")] }
  | "repair_materials" => { notNull := ["material_type", "name"] }
  | "repair_simulations" => {
      notNull := ["crack_id", "material_id", "parameters"]
      references := [("crack_id", "cracks"), ("material_id", "repair_materials")]
      defaults := [("method", .text "DEM")] }
  | "alerts" => {
      notNull := ["alert_type"]
      references := [("porcelain_id", "porcelains"), ("crack_id", "cracks"),
        ("sensor_id", "sensors")]
      defaults := [("status", .cast "PENDING" "alert_status"), ("sms_sent", .bool false),
        ("websocket_sent", .bool false)] }
  | "profinet_packets" => { notNull := ["source_ip", "destination_ip"] }
  | _ => {}

/-! ## Rows -/

/-- The columns that a statement assigns. -/
def Query.values : Query R → List (String × Value R)
  | .insert _ values _ => values
  | .select _ _ _ _ _ => []
  | .update _ values _ => values

structure Record (R : Type) where
  id : Int
  /-- What has been assigned to the columns, the latest first. -/
  values : List (String × Value R)
  /-- The column with `DEFAULT CURRENT_TIMESTAMP`. -/
  createdAt : Int

def valueOf (values : List (String × Value R)) (column : String) : Value R :=
  (values.lookup column).getD .null

def Value.isNull : Value R → Bool
  | .null => true
  | _ => false

/-- The text of a value that is a string. -/
def Value.string? : Value R → Option String
  | .text s => some s
  | .cast s _ => some s
  | _ => none

/-- `CURRENT_TIMESTAMP` is the time of the transaction. -/
def Value.evaluate (now : Int) : Value R → Value R
  | .currentTimestamp => .time now
  | v => v

/-- Tables, by name. -/
abbrev Rows (R : Type) := String → List (Record R)

/-- The texts in a column. -/
def Rows.strings (rows : Rows R) (table column : String) : List String :=
  (rows table).filterMap fun r => (valueOf r.values column).string?

def Rows.hasId (rows : Rows R) (table : String) (id : Int) : Bool :=
  (rows table).any fun r => r.id = id

/-- A row that satisfies the constraints of its table. -/
def Rows.admits (rows : Rows R) (table : String) (values : List (String × Value R)) : Bool :=
  let c := constraints R table
  c.notNull.all (fun column => !(valueOf values column).isNull) &&
    c.unique.all (fun column =>
      match (valueOf values column).string? with
      | some s => !(rows.strings table column).contains s
      | none => true) &&
    c.references.all fun (column, other) =>
      match valueOf values column with
      | .int id => rows.hasId other id
      | _ => true

/-! ## The store -/

/-- The ids of the rows have been given out by the sequences. -/
def Rows.Issued (rows : Rows R) (nextId : String → Int) : Prop :=
  ∀ table, ∀ r ∈ rows table, 0 < r.id ∧ r.id < nextId table

structure Store (R : Type) where
  rows : Rows R
  /-- The sequence behind the `id` of each table. -/
  nextId : String → Int
  nextId_pos : ∀ table, 0 < nextId table
  issued : rows.Issued nextId

namespace Store

/-- Tables without rows. -/
def empty : Store R where
  rows _ := []
  nextId _ := 1
  nextId_pos _ := Int.one_pos
  issued _ r hr := by cases hr

/-- The sequence of a table moves on, and no transaction takes that back. -/
def skipId (s : Store R) (table : String) : Store R where
  rows := s.rows
  nextId := Function.update s.nextId table (s.nextId table + 1)
  nextId_pos other := by
    have hpos := s.nextId_pos
    by_cases h : other = table
    · subst h
      have := hpos other
      simp only [Function.update_self]
      omega
    · rw [Function.update_of_ne h]
      exact hpos other
  issued other r hr := by
    obtain ⟨hpos, hlt⟩ := s.issued other r hr
    refine ⟨hpos, ?_⟩
    by_cases h : other = table
    · subst h
      simp only [Function.update_self]
      omega
    · rwa [Function.update_of_ne h]

@[simp] theorem skipId_nextId (s : Store R) (table : String) :
    (s.skipId table).nextId = Function.update s.nextId table (s.nextId table + 1) := rfl

/-- A new row under the next id. -/
def add (s : Store R) (table : String) (values : List (String × Value R)) (now : Int) :
    Store R where
  rows := Function.update s.rows table (s.rows table ++ [⟨s.nextId table, values, now⟩])
  nextId := (s.skipId table).nextId
  nextId_pos := (s.skipId table).nextId_pos
  issued other r hr := by
    by_cases h : other = table
    · subst h
      rw [Function.update_self, List.mem_append, List.mem_singleton] at hr
      rcases hr with hr | rfl
      · exact (s.skipId other).issued other r hr
      · refine ⟨s.nextId_pos other, ?_⟩
        simp only [skipId_nextId, Function.update_self]
        omega
    · rw [Function.update_of_ne h] at hr
      exact (s.skipId table).issued other r hr

@[simp] theorem add_rows (s : Store R) (table : String) (values : List (String × Value R))
    (now : Int) : (s.add table values now).rows =
      Function.update s.rows table (s.rows table ++ [⟨s.nextId table, values, now⟩]) := rfl

@[simp] theorem add_nextId (s : Store R) (table : String) (values : List (String × Value R))
    (now : Int) : (s.add table values now).nextId =
      Function.update s.nextId table (s.nextId table + 1) := rfl

/-- The rows of an earlier moment. -/
def restore (s : Store R) (rows : Rows R) (h : rows.Issued s.nextId) : Store R :=
  { s with rows := rows, issued := h }

/-- New values for the row with an id, if there is one. -/
def set (s : Store R) (table : String) (values : List (String × Value R)) (id : Int) :
    Store R where
  rows := Function.update s.rows table ((s.rows table).map fun r =>
    if r.id = id then { r with values := values ++ r.values } else r)
  nextId := s.nextId
  nextId_pos := s.nextId_pos
  issued other r hr := by
    by_cases h : other = table
    · subst h
      rw [Function.update_self, List.mem_map] at hr
      obtain ⟨old, hold, rfl⟩ := hr
      split
      · exact s.issued other old hold
      · exact s.issued other old hold
    · rw [Function.update_of_ne h] at hr
      exact s.issued other r hr

theorem set_rows (s : Store R) (table : String) (values : List (String × Value R)) (id : Int) :
    (s.set table values id).rows = Function.update s.rows table ((s.rows table).map fun r =>
      if r.id = id then { r with values := values ++ r.values } else r) := rfl

end Store

/-! ## Reading -/

/-- How the server prints and orders.  Rows with the same key may come in any
order. -/
structure Output (R : Type) where
  real : R → String
  time : Int → String
  array : List R → String
  jsonb : Json R → String
  sortBy : (Record R → Int) → List (Record R) → List (Record R)
  sortBy_perm : ∀ key rows, (sortBy key rows).Perm rows
  sortBy_sorted : ∀ key rows, (sortBy key rows).Pairwise fun r r' => key r ≤ key r'

/-- A server that keeps rows with the same key in their order. -/
def Output.stable (real : R → String) (time : Int → String) (array : List R → String)
    (jsonb : Json R → String) : Output R where
  real := real
  time := time
  array := array
  jsonb := jsonb
  sortBy key rows := rows.mergeSort fun r r' => key r ≤ key r'
  sortBy_perm key rows := List.mergeSort_perm rows _
  sortBy_sorted key rows := by
    let le : Record R → Record R → Bool := fun r r' => decide (key r ≤ key r')
    have htrans : ∀ a b c, le a b = true → le b c = true → le a c = true := fun a b c hab hbc => by
      simp only [le, decide_eq_true_eq] at *
      omega
    have htotal : ∀ a b, (le a b || le b a) = true := fun a b => by
      simp only [le, Bool.or_eq_true, decide_eq_true_eq]
      omega
    simpa [le] using List.pairwise_mergeSort htrans htotal rows

/-- The text of a value, `none` for `NULL`. -/
def Output.text (out : Output R) : Value R → Option String
  | .null => none
  | .int n => some (toString n)
  | .real x => some (out.real x)
  | .bool b => some (if b then "t" else "f")
  | .time t => some (out.time t)
  | .array xs => some (out.array xs)
  | .text s => some s
  | .cast s _ => some s
  | .jsonb j => some (out.jsonb j)
  | .currentTimestamp => none

/-- The array elements that are selected by themselves, with their places. -/
def arrayElement : String → Option (String × Nat)
  | "point_3d[1]" => some ("point_3d", 0)
  | "point_3d[2]" => some ("point_3d", 1)
  | "point_3d[3]" => some ("point_3d", 2)
  | "normal_vector[1]" => some ("normal_vector", 0)
  | "normal_vector[2]" => some ("normal_vector", 1)
  | "normal_vector[3]" => some ("normal_vector", 2)
  | _ => none

def Output.column (out : Output R) (r : Record R) (column : String) : Option String :=
  if column = "id" then some (toString r.id)
  else if column = "created_at" then some (out.time r.createdAt)
  else match arrayElement column with
    | some (array, i) =>
        match valueOf r.values array with
        | .array xs => (xs[i]?).map out.real
        | _ => none
    | none => out.text (valueOf r.values column)

/-- The rows of a table or of the view `active_alerts`. -/
def Rows.source (rows : Rows R) (source : String) : List (Record R) :=
  if source = "active_alerts" then
    (rows "alerts").filter fun r =>
      match (valueOf r.values "status").string? with
      | some status => status = "PENDING" || status = "ACKNOWLEDGED"
      | none => false
  else rows source

/-- `WHERE column = n` -/
def Record.matches (r : Record R) : Option (String × Int) → Bool
  | none => true
  | some (column, n) =>
      if column = "id" then r.id = n
      else match valueOf r.values column with
        | .int k => k = n
        | _ => false

/-- What a clause of `ORDER BY` sorts by, `DESC` as the negated key. -/
def orderKey (order : String) (r : Record R) : Int :=
  if order = "created_at DESC" then -r.createdAt
  else if order = "detected_date DESC" then
    match valueOf r.values "detected_date" with
    | .time t => -t.tdiv (10 ^ 9)
    | _ => 0
  else r.id

def Output.select (out : Output R) (rows : Rows R) (source : String)
    (condition : Option (String × Int)) (order : Option String) (limit : Option Int) :
    List (Record R) :=
  let found := (rows.source source).filter fun r => r.matches condition
  let sorted :=
    match order with
    | some order => out.sortBy (orderKey order) found
    | none => found
  match limit with
  | some n => sorted.take n.toNat
  | none => sorted

/-! ## Statements -/

/-- What an `INSERT` puts into a row. -/
def rowValues (table : String) (values : List (String × Value R)) (now : Int) :
    List (String × Value R) :=
  values.map (fun column => (column.1, column.2.evaluate now)) ++ (constraints R table).defaults

def failed : PGresult := ⟨.other, []⟩

def done : PGresult := ⟨.commandOk, []⟩

/-- A statement at a time: its result, and the store after it. -/
def Store.run (out : Output R) (now : Int) (s : Store R) : Query R → PGresult × Store R
  | .insert table values returning =>
      if s.rows.admits table (rowValues table values now) then
        (if returning then ⟨.tuplesOk, [[some (toString (s.nextId table))]]⟩ else done,
          s.add table (rowValues table values now) now)
      else (failed, s.skipId table)
  | .select columns source condition order limit =>
      (⟨.tuplesOk, (out.select s.rows source condition order limit).map fun r =>
        columns.map (out.column r)⟩, s)
  | .update table values id =>
      (done, s.set table (values.map fun column => (column.1, column.2.evaluate now)) id)

/-! ## Backends -/

structure Backend (R : Type) where
  store : Store R
  /-- In a transaction: the rows at its start, and whether a statement has failed
  since. -/
  saved : Option (Rows R × Bool)
  saved_issued : ∀ p ∈ saved, p.1.Issued store.nextId

/-- A backend with no transaction. -/
def Backend.idle (s : Store R) : Backend R := ⟨s, none, fun _ h => by cases h⟩

/-- Sequences only move on. -/
theorem Store.nextId_le_run (out : Output R) (now : Int) (s : Store R) (q : Query R)
    (table : String) : s.nextId table ≤ (s.run out now q).2.nextId table := by
  have hskip : ∀ other, s.nextId table ≤ (s.skipId other).nextId table := by
    intro other
    rw [skipId_nextId]
    by_cases h : table = other
    · subst h
      rw [Function.update_self]
      exact Int.le_of_lt (Int.lt_succ _)
    · exact Int.le_of_eq (Function.update_of_ne h _ _).symm
  cases q with
  | insert other values returning =>
      rw [run]
      split
      · exact hskip other
      · exact hskip other
  | select columns source condition order limit => exact Int.le_refl _
  | update other values id => exact Int.le_refl _

namespace Backend

/-- A statement in a transaction fails after one that failed. -/
def query (out : Output R) (now : Int) (b : Backend R) (q : Query R) : PGresult × Backend R :=
  match h : b.saved with
  | none => ((b.store.run out now q).1, idle (b.store.run out now q).2)
  | some (rows, true) => (failed, b)
  | some (rows, false) =>
      ((b.store.run out now q).1, {
        store := (b.store.run out now q).2
        saved := some (rows, (b.store.run out now q).1.status = .other)
        saved_issued := by
          rintro _ ⟨⟩ table r hr
          obtain ⟨hpos, hlt⟩ := b.saved_issued (rows, false) h table r hr
          exact ⟨hpos, Int.lt_of_lt_of_le hlt (b.store.nextId_le_run out now q table)⟩ })

/-- Back to the rows at the start of the transaction. -/
def rollback (b : Backend R) : Backend R :=
  match h : b.saved with
  | none => b
  | some (rows, _) => idle (b.store.restore rows (b.saved_issued (rows, _) h))

/-- The three commands succeed in any state.  `COMMIT` after a failed statement
is a `ROLLBACK`. -/
def command (b : Backend R) : TransactionCommand → PGresult × Backend R
  | .begin =>
      (done, if b.saved.isSome then b
        else ⟨b.store, some (b.store.rows, false), by
          rintro _ ⟨⟩
          exact b.store.issued⟩)
  | .commit =>
      (done, if b.saved.any Prod.snd then b.rollback else idle b.store)
  | .rollback => (done, b.rollback)

/-- The answer to a call at a time. -/
def serve (out : Output R) (now : Int) (b : Backend R) : Call R → Reply × Backend R
  | .status => (.connected true, b)
  | .transaction c => (.result (some (b.command c).1), (b.command c).2)
  | .query q => (.result (some (b.query out now q).1), (b.query out now q).2)

end Backend

/-- An operation on its own connection: its value, if it does not throw, and the
store after it.  A connection is always there: that operations lose them, and that the
pool can be empty, is not looked at here. -/
def Store.operate {β : Type} (out : Output R) (now : Int) (s : Store R) (p : Db R β) :
    Option β × Store R :=
  let (value, b) := p.runAlone (Backend.serve out now) (0 : Connection) (Backend.idle s)
  (value, b.store)

end PorcelainMonitor.Database
