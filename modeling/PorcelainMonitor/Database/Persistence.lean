import Mathlib.Data.List.TakeWhile
import PorcelainMonitor.Database.Server
import PorcelainMonitor.Lib.Decimal

/-!
# What the operations do to the store

An operation of one statement comes to that statement, and reads back the id that
the statement returned.  `insert_crack_points` for a crack that is there adds its
points.
-/

namespace PorcelainMonitor.Database

open PooledProgram (Program)

variable {R : Type} (out : Output R) (now : Int)

/-! ## Ids in text -/

theorem digitsValue_eq (ds : List Char) : digitsValue ds = (Nat.ofDigitChars 10 ds 0 : Nat) := by
  have h : ∀ (ds : List Char) (n : Nat),
      ds.foldl (fun (n : Int) c => 10 * n + (c.toNat - '0'.toNat : Nat)) n =
        (Nat.ofDigitChars 10 ds n : Nat) := by
    intro ds
    induction ds with
    | nil =>
        intro n
        simp
    | cons d ds ih =>
        intro n
        rw [List.foldl_cons, Nat.ofDigitChars_cons, ← ih]
        simp
  exact h ds 0

theorem isSpace_of_isDigit {d : Char} (h : d.isDigit = true) : isSpace d = false := by
  have hblank : d ≠ ' ' := by
    rintro rfl
    cases h
  simp only [Char.isDigit, Bool.and_eq_true, decide_eq_true_eq, UInt32.le_iff_toNat_le] at h
  have hval : 48 ≤ d.toNat := h.1
  simp [isSpace, hblank]
  omega

/-- `atoll` reads an id as it was printed. -/
theorem atoi_toString {n : Int} (hn : 0 ≤ n) : atoi (toString n) = n := by
  obtain ⟨n, rfl⟩ := Int.eq_ofNat_of_zero_le hn
  have hdigit : ∀ d ∈ Nat.toDigits 10 n, d.isDigit = true := fun _ => Decimal.isDigit_of_mem
  have hvalue : digitsValue (Nat.toDigits 10 n) = n := by
    rw [digitsValue_eq, Nat.ofDigitChars_ten_toDigits]
  rw [atoi, Decimal.toList_toString]
  simp only [Int.natCast_nonneg, if_true, Int.toNat_natCast]
  cases hds : Nat.toDigits 10 n with
  | nil => exact absurd hds Nat.toDigits_ne_nil
  | cons d ds =>
      rw [hds] at hdigit hvalue
      have hd := hdigit d (by simp)
      rw [List.dropWhile_cons_of_neg (by simp [isSpace_of_isDigit hd])]
      split
      · next rest h =>
          obtain ⟨rfl, _⟩ := List.cons.inj h
          cases hd
      · next rest h =>
          obtain ⟨rfl, _⟩ := List.cons.inj h
          cases hd
      · rw [List.takeWhile_eq_self_iff.mpr hdigit, hvalue]

/-! ## Operations of one statement -/

section RunOne

variable {β : Type} {read : Option PGresult → Option β} {q : Query R} {s : Store R}

theorem operate_runOne :
    s.operate out now (runOne (some q) read) =
      (read (some (s.run out now q).1), (s.run out now q).2) := by
  have hrun : (runOne (some q) read).runAlone (Backend.serve out now) (0 : Connection)
      (Backend.idle s) =
      (Program.ofOption (read (some (s.run out now q).1)) >>= fun value =>
        (do release 0; return value : Db R β)).runAlone (Backend.serve out now) 0
          (Backend.idle (s.run out now q).2) := rfl
  rw [Store.operate, hrun]
  cases read (some (s.run out now q).1) with
  | none => rfl
  | some value => rfl

end RunOne

/-- A row that the constraints admit is added. -/
theorem run_insert_of_admits {s : Store R} {table : String} {values : List (String × Value R)}
    (h : s.rows.admits table (rowValues table values now) = true) :
    s.run out now (.insert table values true) =
      (⟨.tuplesOk, [[some (toString (s.nextId table))]]⟩,
        s.add table (rowValues table values now) now) := by
  simp [Store.run, h]

theorem run_insert_of_not_admits {s : Store R} {table : String}
    {values : List (String × Value R)} {returning : Bool}
    (h : s.rows.admits table (rowValues table values now) = false) :
    s.run out now (.insert table values returning) = (failed, s.skipId table) := by
  simp [Store.run, h]

theorem atoi_nextId (s : Store R) (table : String) :
    atoi (toString (s.nextId table)) = s.nextId table :=
  atoi_toString (Int.le_of_lt (s.nextId_pos table))

/-- The id that an `INSERT` returned. -/
theorem returnedId_inserted (s : Store R) (table : String) :
    returnedId (some ⟨.tuplesOk, [[some (toString (s.nextId table))]]⟩) = s.nextId table :=
  atoi_nextId s table

/-- An `INSERT` leaves the other tables alone. -/
theorem run_insert_rows_of_ne {s : Store R} {table other : String}
    {values : List (String × Value R)} {returning : Bool} (h : other ≠ table) :
    (s.run out now (.insert table values returning)).2.rows other = s.rows other := by
  rw [Store.run]
  split
  · rw [Store.add_rows, Function.update_of_ne h]
  · rfl

/-- An operation that inserts into a table returns, and leaves the other tables
alone. -/
theorem operate_insert {β : Type} (read : Option PGresult → β) (s : Store R) (table : String)
    (values : List (String × Value R)) (returning : Bool) :
    ∃ value t, s.operate out now (runOne (some (.insert table values returning))
        fun res => some (read res)) = (some value, t) ∧
      ∀ other, other ≠ table → t.rows other = s.rows other :=
  ⟨_, _, operate_runOne out now, fun _ h => run_insert_rows_of_ne out now h⟩

theorem operate_insertAlert (s : Store R) (alert : Alert R) :
    ∃ id t, s.operate out now (insertAlert alert) = (some id, t) ∧
      ∀ table, table ≠ "alerts" → t.rows table = s.rows table :=
  operate_insert out now _ s "alerts" _ true

/-- Logging a packet needs a payload that `dump()` accepts. -/
theorem operate_logProfinetPacket (s : Store R) (sourceIp destIp : String) (frameId : UInt16)
    {payload : List UInt8} (h : validUtf8 payload = true) :
    ∃ t, s.operate out now (logProfinetPacket sourceIp destIp frameId payload) = (some (), t) ∧
      ∀ table, table ≠ "profinet_packets" → t.rows table = s.rows table := by
  rw [logProfinetPacket, dump, if_pos (packetJson_validUtf8.trans h)]
  obtain ⟨_, t, ht⟩ := operate_insert out now (fun _ => ()) s "profinet_packets" _ false
  exact ⟨t, ht⟩

theorem operate_logProfinetPacket_none (s : Store R) (sourceIp destIp : String)
    (frameId : UInt16) {payload : List UInt8} (h : validUtf8 payload = false) :
    s.operate out now (logProfinetPacket sourceIp destIp frameId payload) = (none, s) := by
  rw [logProfinetPacket, dump, if_neg (by rw [packetJson_validUtf8, h]; decide)]
  rfl

theorem operate_insertLaserData (s : Store R) {data : LaserMicroscopeData R}
    (h : (dumpOrNull data.processedData).isSome = true) :
    ∃ id t, s.operate out now (insertLaserData data) = (some id, t) ∧
      ∀ table, table ≠ "laser_microscope_data" → t.rows table = s.rows table := by
  obtain ⟨processedData, hprocessed⟩ := Option.isSome_iff_exists.mp h
  rw [insertLaserData, laserRow, hprocessed]
  exact operate_insert out now _ s "laser_microscope_data" _ true

theorem operate_insertLaserData_none (s : Store R) {data : LaserMicroscopeData R}
    (h : (dumpOrNull data.processedData).isSome = false) :
    s.operate out now (insertLaserData data) = (none, s) := by
  have hnone : dumpOrNull data.processedData = none := by simpa using h
  rw [insertLaserData, laserRow, hnone]
  rfl

/-- `insert_crack` adds the row and returns its id, or adds nothing and returns
`-1`. -/
theorem operate_insertCrack (s : Store R) (crack : CrackInfo R) (porcelainId : Int) :
    s.operate out now (insertCrack crack porcelainId) =
      if s.rows.admits "cracks" (rowValues "cracks" (crackRow crack porcelainId).values now) then
        (some (s.nextId "cracks"),
          s.add "cracks" (rowValues "cracks" (crackRow crack porcelainId).values now) now)
      else (some (-1), s.skipId "cracks") := by
  rw [insertCrack, operate_runOne]
  split
  · next h =>
      have hrun : s.run out now (crackRow crack porcelainId) = (_, _) :=
        run_insert_of_admits out now h
      rw [hrun, returnedId_inserted]
      rfl
  · next h =>
      have hrun : s.run out now (crackRow crack porcelainId) = (_, _) :=
        run_insert_of_not_admits out now (eq_false_of_ne_true h)
      rw [hrun]
      rfl

/-! ## `insert_crack_points` -/

/-- The values of the row of a point. -/
def pointValues (crackId : Int) (point : Point3D R) : List (String × Value R) :=
  rowValues "crack_points" (pointRow crackId point true).values now

/-- The points of a crack, one row after the other. -/
def Store.addPoints (s : Store R) (crackId : Int) (points : List (Point3D R)) : Store R :=
  points.foldl (fun s point => s.add "crack_points" (pointValues now crackId point) now) s

/-- The only constraint that the row of a point can break is its reference. -/
theorem admits_point (rows : Rows R) (crackId : Int) (point : Point3D R) :
    rows.admits "crack_points" (pointValues now crackId point) = rows.hasId "cracks" crackId := by
  simp [Rows.admits, constraints, pointValues, rowValues, pointRow, Query.values, valueOf,
    Value.evaluate, List.lookup_cons, Value.isNull]

/-- A new point leaves the cracks alone. -/
theorem hasId_addPoint (s : Store R) (values : List (String × Value R)) (crackId : Int) :
    (s.add "crack_points" values now).rows.hasId "cracks" crackId =
      s.rows.hasId "cracks" crackId := by
  rw [Rows.hasId, Store.add_rows, Function.update_of_ne (by simp)]
  rfl

theorem addPoints_rows_of_ne (s : Store R) (crackId : Int) (points : List (Point3D R))
    {table : String} (h : table ≠ "crack_points") :
    (s.addPoints now crackId points).rows table = s.rows table := by
  induction points generalizing s with
  | nil => rfl
  | cons point points ih =>
      have hcons : s.addPoints now crackId (point :: points) =
          (s.add "crack_points" (pointValues now crackId point) now).addPoints now crackId points :=
        rfl
      rw [hcons, ih, Store.add_rows, Function.update_of_ne h]

theorem addPoints_rows (s : Store R) (crackId : Int) (points : List (Point3D R)) :
    ((s.addPoints now crackId points).rows "crack_points").map Record.values =
      (s.rows "crack_points").map Record.values ++ points.map (pointValues now crackId) := by
  induction points generalizing s with
  | nil => exact (List.append_nil _).symm
  | cons point points ih =>
      have hcons : s.addPoints now crackId (point :: points) =
          (s.add "crack_points" (pointValues now crackId point) now).addPoints now crackId points :=
        rfl
      rw [hcons, ih, Store.add_rows, Function.update_self]
      simp

/-- In a transaction in which nothing has failed, a statement does what it does. -/
theorem query_transaction {b : Backend R} {saved : Rows R} (hsaved : b.saved = some (saved, false))
    (q : Query R) : (b.query out now q).1 = (b.store.run out now q).1 ∧
    (b.query out now q).2.store = (b.store.run out now q).2 ∧
    (b.query out now q).2.saved =
      some (saved, decide ((b.store.run out now q).1.status = .other)) := by
  obtain ⟨store, _, issued⟩ := b
  cases hsaved
  exact ⟨rfl, rfl, rfl⟩

/-- In a transaction without failures, every row is added. -/
theorem runAlone_insertPointLoop {crackId : Int} {saved : Rows R} (points : List (Point3D R))
    (lastId : Int) (b : Backend R) (hsaved : b.saved = some (saved, false))
    (hcrack : b.store.rows.hasId "cracks" crackId = true) :
    ∃ id b', (insertPointLoop 0 crackId points lastId).runAlone (Backend.serve out now) 0 b =
        (some id, b') ∧
      b'.store = b.store.addPoints now crackId points ∧ b'.saved = some (saved, false) := by
  induction points generalizing lastId b with
  | nil => exact ⟨lastId, b, rfl, rfl, hsaved⟩
  | cons point points ih =>
      have hrun : b.store.run out now (pointRow crackId point true) =
          (⟨.tuplesOk, [[some (toString (b.store.nextId "crack_points"))]]⟩,
            b.store.add "crack_points" (pointValues now crackId point) now) :=
        run_insert_of_admits out now ((admits_point now b.store.rows crackId point).trans hcrack)
      obtain ⟨-, hstore, hsaved₁⟩ := query_transaction out now hsaved (pointRow crackId point true)
      rw [hrun] at hstore hsaved₁
      have hcrack₁ : (b.query out now (pointRow crackId point true)).2.store.rows.hasId "cracks"
          crackId = true := by
        rw [hstore, hasId_addPoint]
        exact hcrack
      obtain ⟨id, b', hrest, hstore', hsaved'⟩ : ∃ id b',
          (insertPointLoop 0 crackId (point :: points) lastId).runAlone (Backend.serve out now)
            0 b = (some id, b') ∧
          b'.store = (b.query out now (pointRow crackId point true)).2.store.addPoints now crackId
            points ∧ b'.saved = some (saved, false) := ih _ _ hsaved₁ hcrack₁
      refine ⟨id, b', hrest, ?_, hsaved'⟩
      rw [hstore', hstore]
      rfl

/-- `insert_crack_points` adds the points of a crack that is in the table. -/
theorem operate_insertCrackPoints (s : Store R) (crackId : Int) (points : List (Point3D R))
    (hcrack : s.rows.hasId "cracks" crackId = true) :
    ∃ id, s.operate out now (insertCrackPoints crackId points) =
      (some id, s.addPoints now crackId points) := by
  let b₀ : Backend R := ((Backend.idle s).command .begin).2
  obtain ⟨id, b, hloop, hstore, hsaved⟩ :=
    runAlone_insertPointLoop out now points (-1) b₀ rfl hcrack
  refine ⟨id, ?_⟩
  have hrun : (insertCrackPoints crackId points).runAlone (Backend.serve out now) (0 : Connection)
      (Backend.idle s) = (insertPointLoop 0 crackId points (-1) >>= fun lastId => (do
        if ← commitTransaction 0 then
          release 0
          return lastId
        else
          let _ ← rollbackTransaction 0
          release 0
          return -1 : Db R Int)).runAlone (Backend.serve out now) 0 b₀ := rfl
  rw [Store.operate, hrun, Program.runAlone_bind_some hloop]
  obtain ⟨store, _, issued⟩ := b
  cases hsaved
  cases hstore
  rfl
end PorcelainMonitor.Database
