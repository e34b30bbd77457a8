import Mathlib.Algebra.Field.Rat
import Mathlib.Algebra.Order.Ring.Unbundled.Rat
import PorcelainMonitor.Database.Persistence
import PorcelainMonitor.Modules.AlertWs

/-!
# Cracks in the store

`handle_laser` over the tables of `init.sql`.  The code of a crack is made of the
porcelain and the second of the clock, and the table has a unique index on it.
Cracks that share both cannot all be stored.

Every operation here finds a free connection.  A pool that is exhausted, or that the
operations before have drained, is the subject of `Database.Deadlock` and
`Database.Conservation`.
-/

namespace PorcelainMonitor.Modules

open Database (Db Output Record Rows Store Value)

variable {R : Type}

/-! ## `handle_laser` on the store -/

/-- A call of `handle_laser`, and what it meets outside the store. -/
structure Handling (R : Type) where
  msg : ParsedLaserMessage R
  /-- The readings of the clock, in their order. -/
  clock : Nat → Int
  /-- The time of the database server. -/
  serverTime : Int
  /-- What a local `Alert` starts with. -/
  unset : Alert R
  enqueueAlert : Alert R → Except Failure Unit
  broadcastJson : Json R → Except Failure Unit

structure World (R : Type) where
  store : Store R
  /-- How often the clock has been read. -/
  reads : Nat

/-- What `dump()` throws on a string that is not valid UTF-8. -/
def invalidUtf8 : Failure := .exception "[json.exception.type_error.316]"

section Handling

variable (out : Output R)

/-- An operation of the database as a part of a handler.  A connection is always free. -/
def operation {α : Type} (now : Int) (p : Db R α) : Effects.Comp Failure (World R) α where
  run w :=
    let (value, store) := w.store.operate out now p
    (match value with
      | some a => .ok a
      | none => .error invalidUtf8, { w with store := store })

variable {out} in
theorem operation_run_some {α : Type} {now : Int} {p : Db R α} {s t : Store R} {a : α} {reads : Nat}
    (h : s.operate out now p = (some a, t)) :
    (operation out now p).run ⟨s, reads⟩ = (.ok a, ⟨t, reads⟩) := by
  simp only [operation, h]

variable {out} in
theorem operation_run_none {α : Type} {now : Int} {p : Db R α} {s t : Store R} {reads : Nat}
    (h : s.operate out now p = (none, t)) :
    (operation out now p).run ⟨s, reads⟩ = (.error invalidUtf8, ⟨t, reads⟩) := by
  simp only [operation, h]

/-- The services of the handler, of which the clock and the database matter. -/
def storing (h : Handling R) : Services (Effects.Comp Failure (World R)) R where
  logProfinetPacket sourceIp destIp frameId payload :=
    operation out h.serverTime (Database.logProfinetPacket sourceIp destIp frameId payload)
  insertLaserData data := operation out h.serverTime (Database.insertLaserData data)
  insertVibrationData data := operation out h.serverTime (Database.insertVibrationData data)
  insertCrack crack porcelainId :=
    operation out h.serverTime (Database.insertCrack crack porcelainId)
  insertCrackPoints crackId points :=
    operation out h.serverTime (Database.insertCrackPoints crackId points)
  insertAlert alert := operation out h.serverTime (Database.insertAlert alert)
  enqueueAlert alert := ⟨fun w => (h.enqueueAlert alert, w)⟩
  broadcastJson j := ⟨fun w => (h.broadcastJson j, w)⟩
  now := ⟨fun w => (.ok (h.clock w.reads), { w with reads := w.reads + 1 })⟩

variable [LinearOrder R] (mgr : Alerts.AlertManager R) (ostream : R → String)

/-- The store after a call of `handle_laser`. -/
def Handling.run (s : Store R) (h : Handling R) : Store R :=
  ((handleLaser (storing out h) mgr ostream h.unset h.msg).run ⟨s, 0⟩).2.store

end Handling

/-! ## What is to be stored -/

namespace Handling

variable (h : Handling R)

/-- The cracks that the message reports. -/
def cracks : List (CrackInfo R) := if h.msg.data.crackDetected then h.msg.data.cracks else []

/-- The code of the crack for which the clock is read as number `i`. -/
def code (i : Nat) : String := crackCode h.msg.data.porcelainId (h.clock i)

/-- The values of its row. -/
def crackValues (crack : CrackInfo R) (i : Nat) : List (String × Value R) :=
  Database.rowValues "cracks"
    (Database.crackRow (stamp h.msg.data (h.clock i) crack) h.msg.data.porcelainId).values
    h.serverTime

/-- The rows of some cracks, from reading `i` of the clock on. -/
def crackRecords (i : Nat) (cracks : List (CrackInfo R)) (ids : List Int) : List (Record R) :=
  List.zipWith (fun crack id => ⟨id, h.crackValues crack.1 crack.2, h.serverTime⟩)
    (cracks.zipIdx i) ids

/-- The values of the rows of their points. -/
def pointValues (cracks : List (CrackInfo R)) (ids : List Int) :
    List (List (String × Value R)) :=
  (List.zipWith (fun crack id => crack.points.map (Database.pointValues h.serverTime id))
    cracks ids).flatten

/-- Some cracks have been stored, from reading `i` of the clock on: one row each,
under an id of its own, and all their points. -/
def Added (i : Nat) (cracks : List (CrackInfo R)) (before after : Rows R) : Prop :=
  ∃ ids : List Int, ids.length = cracks.length ∧ ids.Nodup ∧
    (∀ id ∈ ids, before.hasId "cracks" id = false) ∧
    after "cracks" = before "cracks" ++ h.crackRecords i cracks ids ∧
    (after "crack_points").map Record.values =
      (before "crack_points").map Record.values ++ h.pointValues cracks ids

/-- The codes of some cracks, from reading `i` of the clock on. -/
def codesFrom (i : Nat) (cracks : List (CrackInfo R)) : List String :=
  (cracks.zipIdx i).map fun crack => h.code crack.2

/-- The constraints of the table admit the cracks. -/
structure Fits (i : Nat) (cracks : List (CrackInfo R)) (rows : Rows R) : Prop where
  porcelain : cracks ≠ [] → rows.hasId "porcelains" h.msg.data.porcelainId = true
  nodup : (h.codesFrom i cracks).Nodup
  fresh : ∀ code ∈ h.codesFrom i cracks, code ∉ rows.strings "cracks" "crack_code"

end Handling

/-! ## One crack -/

section Rounds

variable (h : Handling R)

/-- The round of the crack loop, on the store. -/
def Handling.round (s : Store R) (crack : CrackInfo R) (i : Nat) : Store R :=
  if s.rows.admits "cracks" (h.crackValues crack i) then
    (s.add "cracks" (h.crackValues crack i) h.serverTime).addPoints h.serverTime
      (s.nextId "cracks") crack.points
  else s.skipId "cracks"

/-- The rounds of the crack loop, from reading `i` of the clock on. -/
def Handling.rounds (h : Handling R) : Store R → List (CrackInfo R) → Nat → Store R
  | s, [], _ => s
  | s, crack :: cracks, i => h.rounds (h.round s crack i) cracks (i + 1)

/-- The constraints ask for a porcelain that is there and a code that is not. -/
theorem Handling.admits_iff (rows : Rows R) (crack : CrackInfo R) (i : Nat) :
    rows.admits "cracks" (h.crackValues crack i) = true ↔
      rows.hasId "porcelains" h.msg.data.porcelainId = true ∧
        h.code i ∉ rows.strings "cracks" "crack_code" := by
  simp [Rows.admits, Database.constraints, Handling.crackValues, Database.rowValues,
    Database.crackRow, Database.Query.values, Database.valueOf, Value.evaluate, List.lookup_cons,
    Value.isNull, Value.string?, stamp, Handling.code, and_comm]

/-- A round of the loop is that, whether the crack is stored or not. -/
theorem storeCrack_run (out : Output R) (s : Store R) (crack : CrackInfo R) (i : Nat) :
    (storeCrack (storing out h) h.msg.data crack).run ⟨s, i⟩ =
      (.ok (), ⟨h.round s crack i, i + 1⟩) := by
  have hnow : (storing out h).now.run ⟨s, i⟩ = (.ok (h.clock i), ⟨s, i + 1⟩) := rfl
  rw [storeCrack, Effects.Comp.bind_ok hnow]
  have hinsert : s.operate out h.serverTime (Database.insertCrack
      (stamp h.msg.data (h.clock i) crack) h.msg.data.porcelainId) =
      if s.rows.admits "cracks" (h.crackValues crack i) then
        (some (s.nextId "cracks"), s.add "cracks" (h.crackValues crack i) h.serverTime)
      else (some (-1), s.skipId "cracks") :=
    Database.operate_insertCrack out h.serverTime s _ _
  rw [Handling.round]
  split
  · next hadmits =>
      rw [if_pos hadmits] at hinsert
      have hcrack : (s.add "cracks" (h.crackValues crack i) h.serverTime).rows.hasId "cracks"
          (s.nextId "cracks") = true := by
        simp [Rows.hasId]
      obtain ⟨_, hpoints⟩ := Database.operate_insertCrackPoints out h.serverTime
        (s.add "cracks" (h.crackValues crack i) h.serverTime) (s.nextId "cracks") crack.points
        hcrack
      refine (Effects.Comp.bind_ok (operation_run_some hinsert)).trans ?_
      rw [if_pos (s.nextId_pos "cracks")]
      exact Effects.Comp.bind_ok (operation_run_some hpoints)
  · next hadmits =>
      rw [if_neg hadmits] at hinsert
      exact Effects.Comp.bind_ok (operation_run_some hinsert)

/-- The crack loop runs to its end. -/
theorem storeCracks_run (out : Output R) (cracks : List (CrackInfo R)) (s : Store R) (i : Nat) :
    (cracks.forM (storeCrack (storing out h) h.msg.data)).run ⟨s, i⟩ =
      (.ok (), ⟨h.rounds s cracks i, i + cracks.length⟩) := by
  induction cracks generalizing s i with
  | nil => rfl
  | cons crack cracks ih =>
      rw [List.forM, Effects.Comp.bind_ok (storeCrack_run h out s crack i), ih]
      simp only [Handling.rounds, List.length_cons]
      congr 2
      omega

/-! ## All cracks of a message -/

variable {h} {s : Store R} {crack : CrackInfo R} {i : Nat}

/-- A round that is not admitted changes no row. -/
theorem round_of_not_admits (hadmits : ¬ s.rows.admits "cracks" (h.crackValues crack i) = true) :
    (h.round s crack i).rows = s.rows := by
  rw [Handling.round, if_neg hadmits]
  rfl

/-- A round that is admitted adds a row and the points. -/
theorem round_of_admits (hadmits : s.rows.admits "cracks" (h.crackValues crack i) = true) :
    (h.round s crack i).rows "cracks" =
        s.rows "cracks" ++ [⟨s.nextId "cracks", h.crackValues crack i, h.serverTime⟩] ∧
      ((h.round s crack i).rows "crack_points").map Record.values =
        (s.rows "crack_points").map Record.values ++
          crack.points.map (Database.pointValues h.serverTime (s.nextId "cracks")) ∧
      (h.round s crack i).rows "porcelains" = s.rows "porcelains" := by
  rw [Handling.round, if_pos hadmits]
  refine ⟨?_, ?_, ?_⟩
  · rw [Database.addPoints_rows_of_ne _ _ _ _ (by simp), Store.add_rows, Function.update_self]
  · rw [Database.addPoints_rows, Store.add_rows, Function.update_of_ne (by simp)]
  · rw [Database.addPoints_rows_of_ne _ _ _ _ (by simp), Store.add_rows,
      Function.update_of_ne (by simp)]

theorem strings_round (hadmits : s.rows.admits "cracks" (h.crackValues crack i) = true) :
    (h.round s crack i).rows.strings "cracks" "crack_code" =
      s.rows.strings "cracks" "crack_code" ++ [h.code i] := by
  rw [Rows.strings, (round_of_admits hadmits).1, List.filterMap_append]
  rfl

/-- Every round adds at most one row. -/
theorem length_rounds_le (cracks : List (CrackInfo R)) (s : Store R) (i : Nat) :
    ((h.rounds s cracks i).rows "cracks").length ≤ (s.rows "cracks").length + cracks.length := by
  induction cracks generalizing s i with
  | nil => exact Nat.le_refl _
  | cons crack cracks ih =>
      have hround : ((h.round s crack i).rows "cracks").length ≤ (s.rows "cracks").length + 1 := by
        by_cases hadmits : s.rows.admits "cracks" (h.crackValues crack i) = true
        · rw [(round_of_admits hadmits).1, List.length_append]
          exact Nat.le_refl _
        · rw [round_of_not_admits hadmits]
          exact Nat.le_succ _
      have hrest := ih (h.round s crack i) (i + 1)
      rw [Handling.rounds, List.length_cons]
      omega

/-- If every round adds a row, the constraints admit the cracks. -/
theorem fits_of_length (cracks : List (CrackInfo R)) (s : Store R) (i : Nat)
    (hlength : ((h.rounds s cracks i).rows "cracks").length =
      (s.rows "cracks").length + cracks.length) : h.Fits i cracks s.rows := by
  induction cracks generalizing s i with
  | nil => exact ⟨fun hne => absurd rfl hne, List.nodup_nil, fun _ hcode => by cases hcode⟩
  | cons crack cracks ih =>
      have hle := length_rounds_le (h := h) cracks (h.round s crack i) (i + 1)
      rw [Handling.rounds, List.length_cons] at hlength
      by_cases hadmits : s.rows.admits "cracks" (h.crackValues crack i) = true
      · have hrows := (round_of_admits hadmits).1
        obtain ⟨-, hnodup, hfresh⟩ := ih (h.round s crack i) (i + 1) (by
          rw [hlength, hrows, List.length_append, List.length_singleton]
          omega)
        obtain ⟨hporcelain, hcode⟩ := (h.admits_iff s.rows crack i).mp hadmits
        rw [strings_round hadmits] at hfresh
        refine ⟨fun _ => hporcelain, List.nodup_cons.mpr ⟨?_, hnodup⟩, ?_⟩
        · intro hmem
          exact hfresh _ hmem (by simp)
        · intro code hmem
          rcases List.mem_cons.mp hmem with rfl | hmem
          · exact hcode
          · exact fun hold => hfresh code hmem (List.mem_append_left _ hold)
      · rw [round_of_not_admits hadmits] at hle
        omega

/-- What the constraints admit is stored. -/
theorem added_of_fits (cracks : List (CrackInfo R)) (s : Store R) (i : Nat)
    (hfits : h.Fits i cracks s.rows) : h.Added i cracks s.rows (h.rounds s cracks i).rows := by
  induction cracks generalizing s i with
  | nil =>
      refine ⟨[], rfl, List.nodup_nil, fun id hid => absurd hid (by simp), ?_, ?_⟩
      · simp [Handling.rounds, Handling.crackRecords]
      · simp [Handling.rounds, Handling.pointValues]
  | cons crack cracks ih =>
      obtain ⟨hporcelain, hnodup, hfresh⟩ := hfits
      obtain ⟨hcode, hnodup⟩ := List.nodup_cons.mp hnodup
      have hadmits : s.rows.admits "cracks" (h.crackValues crack i) = true :=
        (h.admits_iff s.rows crack i).mpr
          ⟨hporcelain (by simp), hfresh _ (by simp [Handling.codesFrom])⟩
      obtain ⟨hrows, hpoints, hporcelains⟩ := round_of_admits hadmits
      obtain ⟨ids, hlength, hids, hnew, hcracks, hcrackPoints⟩ := ih (h.round s crack i) (i + 1) {
        porcelain := fun _ => by
          rw [Rows.hasId, hporcelains]
          exact hporcelain (by simp)
        nodup := hnodup
        fresh := fun code hmem => by
          rw [strings_round hadmits, List.mem_append, List.mem_singleton]
          rintro (hold | rfl)
          · exact hfresh code (List.mem_cons_of_mem _ hmem) hold
          · exact hcode hmem }
      have hold : ∀ id ∈ ids, s.rows.hasId "cracks" id = false ∧ id ≠ s.nextId "cracks" := by
        intro id hid
        have := hnew id hid
        rw [Rows.hasId, hrows, List.any_append, Bool.or_eq_false_iff] at this
        exact ⟨this.1, fun heq => by simp [heq] at this⟩
      refine ⟨s.nextId "cracks" :: ids, by simp [hlength], ?_, ?_, ?_, ?_⟩
      · exact List.nodup_cons.mpr ⟨fun hmem => (hold _ hmem).2 rfl, hids⟩
      · intro id hid
        rcases List.mem_cons.mp hid with rfl | hid
        · rw [Rows.hasId, List.any_eq_false]
          intro r hr
          have := (s.issued "cracks" r hr).2
          simp
          omega
        · exact (hold id hid).1
      · rw [Handling.rounds, hcracks, hrows]
        simp [Handling.crackRecords]
      · rw [Handling.rounds, hcrackPoints, hpoints]
        simp [Handling.pointValues]

/-- The crack loop stores the cracks exactly if the constraints admit them. -/
theorem added_iff_fits (cracks : List (CrackInfo R)) (s : Store R) (i : Nat) :
    h.Added i cracks s.rows (h.rounds s cracks i).rows ↔ h.Fits i cracks s.rows := by
  constructor
  · rintro ⟨ids, hlength, -, -, hrows, -⟩
    refine fits_of_length cracks s i ?_
    rw [hrows, List.length_append, Handling.crackRecords, List.length_zipWith, List.length_zipIdx,
      hlength, Nat.min_self]
  · exact added_of_fits cracks s i

end Rounds

/-! ## The whole handler -/

/-- The tables that the cracks of a message concern. -/
def crackTables (s : Store R) : List (Record R) × List (Record R) × List (Record R) :=
  (s.rows "porcelains", s.rows "cracks", s.rows "crack_points")

theorem crackTables_eq {s t : Store R} {table : String}
    (hporcelains : "porcelains" ≠ table) (hcracks : "cracks" ≠ table)
    (hpoints : "crack_points" ≠ table)
    (h : ∀ other, other ≠ table → t.rows other = s.rows other) : crackTables t = crackTables s := by
  rw [crackTables, crackTables, h _ hporcelains, h _ hcracks, h _ hpoints]

/-- What the handler prints with `dump()` is valid UTF-8. -/
structure Handling.Dumpable (h : Handling R) : Prop where
  payload : validUtf8 h.msg.packet.payload = true
  processedData : h.msg.data.processedData.empty = true ∨
    h.msg.data.processedData.validUtf8 = true

section Handler

variable [LinearOrder R] (out : Output R) (mgr : Alerts.AlertManager R) (ostream : R → String)
  (h : Handling R)

/-- The checks leave the tables of the cracks alone. -/
theorem keeps_checks : Effects.Keeps (fun w : World R => crackTables w.store)
    (Alerts.checkLaserData mgr ostream h.unset (storing out h) h.msg.data) := by
  have hnow : Effects.Keeps (fun w : World R => crackTables w.store) (storing out h).now :=
    fun _ => rfl
  have hsave : ∀ alert, Effects.Keeps (fun w : World R => crackTables w.store)
      (Alerts.saveAlert (storing out h) alert) := by
    intro alert
    refine Effects.Keeps.bind (fun w => ?_) fun id => ?_
    · obtain ⟨id, t, ht, hrows⟩ :=
        Database.operate_insertAlert out h.serverTime w.store alert
      have hrun : ((storing out h).insertAlert alert).run w = (.ok id, ⟨t, w.reads⟩) :=
        operation_run_some ht
      rw [hrun]
      exact crackTables_eq (by simp) (by simp) (by simp) hrows
    · split
      · exact fun _ => rfl
      · exact Effects.Keeps.pure _
  rw [Alerts.checkLaserData]
  split
  · refine Effects.Keeps.forM (fun crack => ?_) _
    exact Effects.Keeps.bind hnow fun _ => Effects.Keeps.bind hnow fun _ =>
      Effects.Keeps.forM (fun alert => hsave _) _
  · exact Effects.Keeps.pure _

/-- A message that can be printed is handled up to the crack loop and through it. -/
theorem run_of_dumpable (hdump : h.Dumpable) (s : Store R) :
    ∃ t : Store R, crackTables t = crackTables s ∧
      crackTables (h.run out mgr ostream s) = crackTables (h.rounds t h.cracks 0) := by
  obtain ⟨t₁, hlog, hrows₁⟩ := Database.operate_logProfinetPacket out h.serverTime s
    h.msg.packet.sourceIp h.msg.packet.destinationIp h.msg.packet.frameId hdump.payload
  obtain ⟨id, t₂, hlaser, hrows₂⟩ := Database.operate_insertLaserData out h.serverTime t₁
    (Database.dumpOrNull_isSome_iff.mpr hdump.processedData)
  have hsame₁ := crackTables_eq (by simp) (by simp) (by simp) hrows₁
  have hsame₂ := crackTables_eq (by simp) (by simp) (by simp) hrows₂
  refine ⟨t₂, hsame₂.trans hsame₁, ?_⟩
  have hcracks : (storeCracks (storing out h) h.msg.data).run ⟨t₂, 0⟩ =
      (.ok (), ⟨h.rounds t₂ h.cracks 0, h.cracks.length⟩) := by
    rw [storeCracks, Handling.cracks]
    split
    · rw [storeCracks_run, Nat.zero_add]
    · rfl
  have hkeep : Effects.Keeps (fun w : World R => crackTables w.store)
      (Alerts.checkLaserData mgr ostream h.unset (storing out h) h.msg.data) :=
    keeps_checks out mgr ostream h
  have hlogRun : ((storing out h).logProfinetPacket h.msg.packet.sourceIp
      h.msg.packet.destinationIp h.msg.packet.frameId h.msg.packet.payload).run ⟨s, 0⟩ =
      (.ok (), ⟨t₁, 0⟩) := operation_run_some hlog
  have hlaserRun : ((storing out h).insertLaserData h.msg.data).run ⟨t₁, 0⟩ = (.ok id, ⟨t₂, 0⟩) :=
    operation_run_some hlaser
  rw [Handling.run, handleLaser, guarded_state, Effects.Comp.bind_ok hlogRun,
    Effects.Comp.bind_ok hlaserRun, Effects.Comp.bind_ok hcracks]
  exact Effects.Keeps.bind hkeep (fun _ _ => rfl) _

/-- A message that cannot be printed leaves no crack. -/
theorem run_of_not_dumpable (hdump : ¬ h.Dumpable) (s : Store R) :
    crackTables (h.run out mgr ostream s) = crackTables s := by
  rw [Handling.run, handleLaser, guarded_state]
  by_cases hpayload : validUtf8 h.msg.packet.payload = true
  · have hprocessed : (Database.dumpOrNull h.msg.data.processedData).isSome = false := by
      rw [← Bool.not_eq_true, Database.dumpOrNull_isSome_iff]
      exact fun hprocessed => hdump ⟨hpayload, hprocessed⟩
    obtain ⟨t, hlog, hrows⟩ := Database.operate_logProfinetPacket out h.serverTime s
      h.msg.packet.sourceIp h.msg.packet.destinationIp h.msg.packet.frameId hpayload
    have hlogRun : ((storing out h).logProfinetPacket h.msg.packet.sourceIp
        h.msg.packet.destinationIp h.msg.packet.frameId h.msg.packet.payload).run ⟨s, 0⟩ =
        (.ok (), ⟨t, 0⟩) := operation_run_some hlog
    have hlaserRun : ((storing out h).insertLaserData h.msg.data).run ⟨t, 0⟩ =
        (.error invalidUtf8, ⟨t, 0⟩) :=
      operation_run_none (Database.operate_insertLaserData_none out h.serverTime t hprocessed)
    rw [Effects.Comp.bind_ok hlogRun, Effects.Comp.bind_error hlaserRun]
    exact crackTables_eq (by simp) (by simp) (by simp) hrows
  · have hlogRun : ((storing out h).logProfinetPacket h.msg.packet.sourceIp
        h.msg.packet.destinationIp h.msg.packet.frameId h.msg.packet.payload).run ⟨s, 0⟩ =
        (.error invalidUtf8, ⟨s, 0⟩) :=
      operation_run_none (Database.operate_logProfinetPacket_none out h.serverTime s _ _ _
        (eq_false_of_ne_true hpayload))
    rw [Effects.Comp.bind_error hlogRun]

end Handler

section Congruence

variable {h : Handling R} {s s' t t' : Store R} {i : Nat} {cracks : List (CrackInfo R)}

theorem added_congr (hs : crackTables s = crackTables s') (ht : crackTables t = crackTables t') :
    h.Added i cracks s.rows t.rows ↔ h.Added i cracks s'.rows t'.rows := by
  simp only [crackTables, Prod.mk.injEq] at hs ht
  obtain ⟨-, hcracks, hpoints⟩ := hs
  obtain ⟨-, hcracks', hpoints'⟩ := ht
  simp only [Handling.Added, Rows.hasId, hcracks, hpoints, hcracks', hpoints']

theorem Handling.Fits.congr (hs : crackTables s = crackTables s') (hfits : h.Fits i cracks s.rows) :
    h.Fits i cracks s'.rows := by
  simp only [crackTables, Prod.mk.injEq] at hs
  obtain ⟨hporcelains, hcracks, -⟩ := hs
  obtain ⟨hporcelain, hnodup, hfresh⟩ := hfits
  refine ⟨?_, hnodup, ?_⟩
  · rw [Rows.hasId, ← hporcelains]
    exact hporcelain
  · rw [Rows.strings, ← hcracks]
    exact hfresh

/-- The rows that were added have the codes of the cracks. -/
theorem strings_of_added (hadded : h.Added i cracks s.rows t.rows) :
    t.rows.strings "cracks" "crack_code" =
      s.rows.strings "cracks" "crack_code" ++ h.codesFrom i cracks := by
  obtain ⟨ids, hlength, -, -, hrows, -⟩ := hadded
  rw [Rows.strings, hrows, List.filterMap_append, Rows.strings, List.append_cancel_left_eq]
  clear hrows
  induction cracks generalizing i ids with
  | nil => simp [Handling.crackRecords, Handling.codesFrom]
  | cons crack cracks ih =>
      cases ids with
      | nil => simp at hlength
      | cons id ids =>
          have hcode : (Database.valueOf (h.crackValues crack i) "crack_code").string? =
              some (h.code i) := rfl
          have hrest := @ih (i + 1) ids (by simpa using hlength)
          simp only [Handling.crackRecords, Handling.codesFrom, List.zipIdx_cons,
            List.zipWith_cons_cons, List.map_cons] at hrest ⊢
          rw [List.filterMap_cons, hcode, hrest]

end Congruence

theorem rounds_porcelains (h : Handling R) (cracks : List (CrackInfo R)) (s : Store R) (i : Nat) :
    (h.rounds s cracks i).rows "porcelains" = s.rows "porcelains" := by
  induction cracks generalizing s i with
  | nil => rfl
  | cons crack cracks ih =>
      rw [Handling.rounds, ih]
      by_cases hadmits : s.rows.admits "cracks" (h.crackValues crack i) = true
      · exact (round_of_admits hadmits).2.2
      · rw [round_of_not_admits hadmits]

/-! ## Sequences of messages -/

section Runs

variable [LinearOrder R] (out : Output R) (mgr : Alerts.AlertManager R) (ostream : R → String)

theorem run_porcelains (h : Handling R) (s : Store R) :
    (h.run out mgr ostream s).rows "porcelains" = s.rows "porcelains" := by
  by_cases hdump : h.Dumpable
  · obtain ⟨t, ht, hrun⟩ := run_of_dumpable out mgr ostream h hdump s
    calc (h.run out mgr ostream s).rows "porcelains"
        = (h.rounds t h.cracks 0).rows "porcelains" := congrArg Prod.fst hrun
      _ = t.rows "porcelains" := rounds_porcelains h h.cracks t 0
      _ = s.rows "porcelains" := congrArg Prod.fst ht
  · exact congrArg Prod.fst (run_of_not_dumpable out mgr ostream h hdump s)

/-- One message has its cracks stored exactly if it can be printed and the
constraints admit them. -/
theorem added_run_iff (h : Handling R) (s : Store R) :
    h.Added 0 h.cracks s.rows (h.run out mgr ostream s).rows ↔
      (h.cracks ≠ [] → h.Dumpable) ∧ h.Fits 0 h.cracks s.rows := by
  by_cases hdump : h.Dumpable
  · obtain ⟨t, ht, hrun⟩ := run_of_dumpable out mgr ostream h hdump s
    rw [added_congr ht.symm hrun, added_iff_fits]
    exact ⟨fun hfits => ⟨fun _ => hdump, hfits.congr ht⟩, fun hfits => hfits.2.congr ht.symm⟩
  · rw [added_congr rfl (run_of_not_dumpable out mgr ostream h hdump s)]
    constructor
    · rintro ⟨ids, hlength, -, -, hrows, -⟩
      have hnil : h.cracks = [] := by
        have hcount := congrArg List.length hrows
        rw [List.length_append, Handling.crackRecords, List.length_zipWith, List.length_zipIdx,
          hlength, Nat.min_self] at hcount
        exact List.length_eq_zero_iff.mp (by omega)
      rw [hnil]
      exact ⟨fun hne => absurd rfl hne, fits_of_length [] s 0 rfl⟩
    · rintro ⟨hdumpable, hfits⟩
      have hnil : h.cracks = [] := by
        by_contra hne
        exact hdump (hdumpable hne)
      rw [hnil]
      exact added_of_fits [] s 0 (hnil ▸ hfits)

/-- Every message has its cracks stored: one row each, and all their points. -/
def AllStored : Store R → List (Handling R) → Prop
  | _, [] => True
  | s, h :: hs => h.Added 0 h.cracks s.rows (h.run out mgr ostream s).rows ∧
      AllStored (h.run out mgr ostream s) hs

/-- What is asked of the messages one by one. -/
def EachStorable (s : Store R) (hs : List (Handling R)) : Prop :=
  ∀ h ∈ hs, h.cracks ≠ [] →
    h.Dumpable ∧ s.rows.hasId "porcelains" h.msg.data.porcelainId = true

/-- The cracks of all messages are stored exactly if all their codes are new and
no two are the same. -/
theorem allStored_iff_codes (hs : List (Handling R)) (s : Store R) :
    AllStored out mgr ostream s hs ↔ EachStorable s hs ∧
      (hs.flatMap fun h => h.codesFrom 0 h.cracks).Nodup ∧
      ∀ code ∈ hs.flatMap fun h => h.codesFrom 0 h.cracks,
        code ∉ s.rows.strings "cracks" "crack_code" := by
  induction hs generalizing s with
  | nil => simp [AllStored, EachStorable]
  | cons h hs ih =>
      have hporcelains : EachStorable (h.run out mgr ostream s) hs ↔ EachStorable s hs := by
        simp only [EachStorable, Rows.hasId, run_porcelains]
      rw [AllStored, ih, hporcelains, List.flatMap_cons, List.nodup_append]
      constructor
      · rintro ⟨hadded, heach, hnodup, hfresh⟩
        obtain ⟨hdump, hporcelain, hnodup₁, hfresh₁⟩ :=
          (added_run_iff out mgr ostream h s).mp hadded
        rw [strings_of_added hadded] at hfresh
        refine ⟨?_, ⟨hnodup₁, hnodup, ?_⟩, ?_⟩
        · intro h' hmem hne
          rcases List.mem_cons.mp hmem with rfl | hmem
          · exact ⟨hdump hne, hporcelain hne⟩
          · exact heach h' hmem hne
        · rintro code hcode _ hmem rfl
          exact hfresh code hmem (List.mem_append_right _ hcode)
        · intro code hmem
          rcases List.mem_append.mp hmem with hmem | hmem
          · exact hfresh₁ code hmem
          · exact fun hold => hfresh code hmem (List.mem_append_left _ hold)
      · rintro ⟨heach, ⟨hnodup₁, hnodup, hdisjoint⟩, hfresh⟩
        have hadded : h.Added 0 h.cracks s.rows (h.run out mgr ostream s).rows :=
          (added_run_iff out mgr ostream h s).mpr
            ⟨fun hne => (heach h (by simp) hne).1, fun hne => (heach h (by simp) hne).2, hnodup₁,
              fun code hmem => hfresh code (List.mem_append_left _ hmem)⟩
        refine ⟨hadded, fun h' hmem => heach h' (List.mem_cons_of_mem _ hmem), hnodup, ?_⟩
        intro code hmem
        rw [strings_of_added hadded, List.mem_append]
        rintro (hold | hnew)
        · exact hfresh code (List.mem_append_right _ hmem) hold
        · exact hdisjoint code hnew code hmem rfl

/-! ## The porcelain and the second -/

/-- What the code of each crack is made of: the porcelain and the second. -/
def Handling.keys (h : Handling R) : List (Int × Int) :=
  (List.range h.cracks.length).map fun i => (h.msg.data.porcelainId, (h.clock i).tdiv (10 ^ 9))

def keyCode (key : Int × Int) : String := "CRK-" ++ toString key.1 ++ "-" ++ toString key.2

/-- Different pairs give different codes. -/
theorem keyCode_injective : Function.Injective keyCode := by
  intro key key' h
  have hlists := congrArg String.toList h
  simp only [keyCode, String.toList_append, List.append_assoc] at hlists
  obtain ⟨hporcelain, hsecond⟩ :=
    Decimal.toString_append_inj (c := '-') rfl (List.append_cancel_left hlists)
  exact Prod.ext hporcelain (Decimal.toString_inj (String.toList_inj.mp hsecond))

omit [LinearOrder R] in
theorem codesFrom_eq (h : Handling R) : h.codesFrom 0 h.cracks = h.keys.map keyCode := by
  rw [Handling.codesFrom, Handling.keys, List.map_map, List.range_eq_range',
    ← List.zipIdx_map_snd 0 h.cracks, List.map_map]
  rfl

/-- The cracks of all messages are stored exactly if no two of them share the
porcelain and the second, and none of their codes is in the table. -/
theorem allStored_iff_keys (hs : List (Handling R)) (s : Store R) :
    AllStored out mgr ostream s hs ↔ EachStorable s hs ∧ (hs.flatMap Handling.keys).Nodup ∧
      ∀ key ∈ hs.flatMap Handling.keys, keyCode key ∉ s.rows.strings "cracks" "crack_code" := by
  have hcodes : (hs.flatMap fun h => h.codesFrom 0 h.cracks) =
      (hs.flatMap Handling.keys).map keyCode := by
    simp only [codesFrom_eq, List.map_flatMap]
  rw [allStored_iff_codes, hcodes, List.nodup_map_iff keyCode_injective, List.forall_mem_map]

end Runs

/-! ## Two cracks of one message -/

/-- A server for which the texts of results do not matter. -/
def plainOutput : Output ℚ := .stable (fun _ => "") (fun _ => "") (fun _ => "") (fun _ => "")

/-- A store with the first porcelain and nothing else. -/
def oneObject : Store ℚ :=
  Store.empty.add "porcelains" [("museum_id", .text "PM-000001"), ("name", .text "青花缠枝莲纹梅瓶"),
    ("dynasty", .cast "SONG" "dynasty_type")] 0

def smallCrack : CrackInfo ℚ := ⟨0, 1, "", 1, 1, 1, "", [], 0⟩

/-- A reading of the first porcelain with two cracks, handled within a second. -/
def twoCracks : Handling ℚ where
  msg := {
    packet := ⟨"10.0.0.2", "10.0.0.1", "LASER_DATA", 0x8001, []⟩
    data := ⟨0, 1, 1, 0, (0, 0, 1, 1), 1, true, 2, [smallCrack, smallCrack], .null⟩ }
  clock _ := 0
  serverTime := 0
  unset := ⟨0, .crackDepthExceeded, 0, 0, 0, 0, 0, "", "", .pending, false, false, 0⟩
  enqueueAlert _ := .ok ()
  broadcastJson _ := .ok ()

/-- Both get the code `CRK-1-0`, so the second is not stored. -/
theorem second_crack_is_lost :
    ¬ ∀ (out : Output ℚ) (mgr : Alerts.AlertManager ℚ) (ostream : ℚ → String) (s : Store ℚ)
      (hs : List (Handling ℚ)), EachStorable s hs →
      (∀ h ∈ hs, h.msg.data.crackDetected = true) → AllStored out mgr ostream s hs := by
  intro hall
  have hstorable : EachStorable oneObject [twoCracks] := by
    intro h hmem _
    cases List.mem_singleton.mp hmem
    exact ⟨⟨rfl, .inl rfl⟩, rfl⟩
  have hstored := hall plainOutput ⟨200, 50⟩ (fun _ => "") oneObject [twoCracks] hstorable
    (fun h hmem => by
      cases List.mem_singleton.mp hmem
      rfl)
  obtain ⟨-, hnodup, -⟩ := (allStored_iff_codes _ _ _ _ _).mp hstored
  exact (List.nodup_cons.mp hnodup).1 (List.mem_singleton.mpr rfl)

end PorcelainMonitor.Modules
