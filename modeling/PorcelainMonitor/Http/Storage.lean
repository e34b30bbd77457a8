import PorcelainMonitor.Database.Persistence
import PorcelainMonitor.Http.Handlers

/-!
# The database behind the handlers

`Manager.Returns` is what the handlers expect of the database.  The operations of
`DatabaseManager` on a store meet it, as long as the JSON columns can be parsed
(`Manager.returns_ofStore`).
-/

namespace PorcelainMonitor.Http

open Database
open Effects (Comp)

variable {R σ : Type}

/-- The calls of the database return, if the JSON of a row can be dumped.  The JSON in
their results can be dumped, since `json::parse` accepts only valid UTF-8. -/
structure Manager.Returns (db : Manager R σ) : Prop where
  getAllPorcelains : Effects.Returns db.getAllPorcelains fun porcelains =>
    ∀ p ∈ porcelains, p.dimensions.validUtf8 = true
  getPorcelain : ∀ id, Effects.Returns (db.getPorcelain id) fun p => p.dimensions.validUtf8 = true
  getCracksByPorcelain : ∀ id, Effects.Returns (db.getCracksByPorcelain id) fun _ => True
  getCrack : ∀ id, Effects.Returns (db.getCrack id) fun _ => True
  getCrackPoints : ∀ id, Effects.Returns (db.getCrackPoints id) fun _ => True
  getActiveAlerts : Effects.Returns db.getActiveAlerts fun _ => True
  getRepairMaterials : Effects.Returns db.getRepairMaterials fun materials =>
    ∀ m ∈ materials, m.properties.validUtf8 = true
  getLaserData : ∀ id hours, Effects.Returns (db.getLaserData id hours) fun _ => True
  insertPrediction : ∀ prediction, prediction.parameters.validUtf8 = true →
    Effects.Returns (db.insertPrediction prediction) fun _ => True
  insertSimulation : ∀ simulation, simulation.parameters.validUtf8 = true →
    simulation.result.validUtf8 = true →
    Effects.Returns (db.insertSimulation simulation) fun _ => True
  updateAlertStatus : ∀ id status, Effects.Returns (db.updateAlertStatus id status) fun _ => True

/-! ## Operations on a store -/

section Store

variable (out : Output R) (now : Int)

/-- An operation of the database that reads and writes the store. -/
def ofDb {β : Type} (p : Db R β) : Comp Failure (Store R) β where
  run s :=
    match s.operate out now p with
    | (some b, t) => (.ok b, t)
    | (none, t) => (.error (.exception "[json.exception]"), t)

/-- The operations on a store.  `get_laser_data` is declared and not defined, so what
it reads is given. -/
def Manager.ofStore [Zero R] (lib : Reading R)
    (laserData : Store R → Int → Int → List (LaserMicroscopeData R)) : Manager R (Store R) where
  getAllPorcelains := ofDb out now (Database.getAllPorcelains lib)
  getPorcelain id := ofDb out now (Database.getPorcelain lib id)
  getCracksByPorcelain porcelainId := ofDb out now (Database.getCracksByPorcelain lib porcelainId)
  getCrack crackId := ofDb out now (Database.getCrack lib crackId)
  getCrackPoints crackId := ofDb out now (Database.getCrackPoints lib crackId)
  getActiveAlerts := ofDb out now (Database.getActiveAlerts lib)
  getRepairMaterials := ofDb out now (Database.getRepairMaterials lib)
  getLaserData porcelainId hours := ⟨fun s => (.ok (laserData s porcelainId hours), s)⟩
  insertPrediction prediction := ofDb out now (Database.insertPrediction prediction)
  insertSimulation simulation := ofDb out now (Database.insertSimulation simulation)
  updateAlertStatus alertId status := ofDb out now (Database.updateAlertStatus alertId status)

variable {out now} {lib : Reading R}

theorem ofDb_run {β : Type} {p : Db R β} {s t : Store R} {b : β}
    (h : s.operate out now p = (some b, t)) : (ofDb out now p).run s = (.ok b, t) := by
  show (match s.operate out now p with
    | (some b, t) => ((.ok b, t) : Except Failure β × Store R)
    | (none, t) => (.error (.exception "[json.exception]"), t)) = _
  rw [h]

/-- An operation returns if its result can be read. -/
theorem returns_runOne {β : Type} {q : Query R} {read : Option PGresult → Option β}
    {post : β → Prop} (h : ∀ res, ∃ b, read res = some b ∧ post b) :
    Effects.Returns (ofDb out now (runOne (some q) read)) post := by
  intro s
  obtain ⟨b, hread, hb⟩ := h (some (s.run out now q).1)
  exact ⟨b, _, ofDb_run ((operate_runOne out now).trans (by rw [hread])), hb⟩

theorem returns_of_eq {β : Type} {p : Db R β} {q : Query R} {read : Option PGresult → β}
    (h : p = runOne (some q) fun res => some (read res)) :
    Effects.Returns (ofDb out now p) fun _ => True := by
  rw [h]
  exact returns_runOne fun res => ⟨read res, rfl, trivial⟩

/-- The JSON columns can be parsed, into values that can be dumped. -/
def Parses (lib : Reading R) : Prop := ∀ text, ∃ j, lib.parse text = some j ∧ j.validUtf8 = true

theorem jsonColumn_some (hlib : Parses lib) (row : Row) (column : Nat) :
    ∃ j, jsonColumn lib row column = some j ∧ j.validUtf8 = true := by
  rw [jsonColumn]
  cases nonempty row column with
  | some text => exact hlib text
  | none => exact ⟨.null, rfl, rfl⟩

theorem readPorcelain_some (hlib : Parses lib) (row : Row) :
    ∃ p, readPorcelain lib row = some p ∧ p.dimensions.validUtf8 = true := by
  obtain ⟨j, hj, hvalid⟩ := jsonColumn_some hlib row 7
  rw [readPorcelain, hj]
  exact ⟨_, rfl, hvalid⟩

theorem readMaterial_some (hlib : Parses lib) (row : Row) :
    ∃ m, readMaterial lib row = some m ∧ m.properties.validUtf8 = true := by
  obtain ⟨j, hj, hvalid⟩ := jsonColumn_some hlib row 9
  rw [readMaterial, hj]
  exact ⟨_, rfl, hvalid⟩

/-- All rows are read if each of them is. -/
theorem mapM_some {α β : Type} {f : α → Option β} {P : β → Prop} {xs : List α}
    (hf : ∀ a ∈ xs, ∃ b, f a = some b ∧ P b) :
    ∃ bs, xs.mapM f = some bs ∧ ∀ b ∈ bs, P b := by
  induction xs with
  | nil => exact ⟨[], rfl, fun _ hb => by cases hb⟩
  | cons x xs ih =>
      rw [List.forall_mem_cons] at hf
      obtain ⟨b, hb, hPb⟩ := hf.1
      obtain ⟨bs, hbs, hPbs⟩ := ih hf.2
      refine ⟨b :: bs, ?_, List.forall_mem_cons.mpr ⟨hPb, hPbs⟩⟩
      rw [List.mapM_cons, hb, hbs]
      rfl

variable [Zero R]

theorem Manager.returns_ofStore (out : Output R) (now : Int) (hlib : Parses lib)
    (laserData : Store R → Int → Int → List (LaserMicroscopeData R)) :
    (Manager.ofStore out now lib laserData).Returns where
  getAllPorcelains := returns_runOne fun _ => mapM_some fun row _ => readPorcelain_some hlib row
  getPorcelain _ := returns_runOne fun res => by
    cases tuples res with
    | nil => exact ⟨PorcelainInfo.zero, rfl, rfl⟩
    | cons row rows => exact readPorcelain_some hlib row
  getCracksByPorcelain id :=
    show Effects.Returns (ofDb out now (Database.getCracksByPorcelain lib id)) _ from
      returns_of_eq rfl
  getCrack _ := returns_runOne fun res => by
    cases tuples res with
    | nil => exact ⟨CrackInfo.zero, rfl, trivial⟩
    | cons row rows => exact ⟨readCrack lib row, rfl, trivial⟩
  getCrackPoints id :=
    show Effects.Returns (ofDb out now (Database.getCrackPoints lib id)) _ from returns_of_eq rfl
  getActiveAlerts :=
    show Effects.Returns (ofDb out now (Database.getActiveAlerts lib)) _ from returns_of_eq rfl
  getRepairMaterials := returns_runOne fun _ => mapM_some fun row _ => readMaterial_some hlib row
  getLaserData id hours := fun s => ⟨laserData s id hours, s, rfl, trivial⟩
  insertPrediction prediction h := by
    show Effects.Returns (ofDb out now (Database.insertPrediction prediction)) _
    rw [Database.insertPrediction, dump, if_pos h]
    exact returns_of_eq rfl
  insertSimulation simulation hparameters hresult := by
    show Effects.Returns (ofDb out now (Database.insertSimulation simulation)) _
    rw [Database.insertSimulation, dump, dump, if_pos hparameters, if_pos hresult]
    exact returns_of_eq rfl
  updateAlertStatus _ _ := returns_of_eq rfl

end Store

end PorcelainMonitor.Http
