import PorcelainMonitor.Http.Answered

/-!
# Requests for what is not there

No handler looks whether the database has found anything.  A porcelain that is not
there is answered as a zeroed one, and the two models are run on a zeroed crack or
on a material that is never set, and their results are inserted.

A server is watched through a log of what its handlers do to the models and to the
tables (`Server.logged`), which changes nothing else (`Server.logs_routeRequest`).
-/

namespace PorcelainMonitor.Http

open Database
open Effects (Comp Ensures Logs)

variable {R σ : Type}

/-! ## A log -/

/-- A run of a model or a call of an insert function. -/
inductive Use (R : Type) where
  | predict (crack : CrackInfo R)
  | simulate (crack : CrackInfo R) (material : RepairMaterial R)
  | insertPrediction (prediction : CrackPrediction R)
  | insertSimulation (simulation : RepairSimulation R)

def logged {α : Type} (u : Use R) (x : Comp Failure σ α) : Comp Failure (σ × List (Use R)) α := do
  Comp.note u
  x.onFirst

def Manager.logged (db : Manager R σ) : Manager R (σ × List (Use R)) where
  getAllPorcelains := db.getAllPorcelains.onFirst
  getPorcelain id := (db.getPorcelain id).onFirst
  getCracksByPorcelain porcelainId := (db.getCracksByPorcelain porcelainId).onFirst
  getCrack crackId := (db.getCrack crackId).onFirst
  getCrackPoints crackId := (db.getCrackPoints crackId).onFirst
  getActiveAlerts := db.getActiveAlerts.onFirst
  getRepairMaterials := db.getRepairMaterials.onFirst
  getLaserData porcelainId hours := (db.getLaserData porcelainId hours).onFirst
  insertPrediction prediction :=
    Http.logged (.insertPrediction prediction) (db.insertPrediction prediction)
  insertSimulation simulation :=
    Http.logged (.insertSimulation simulation) (db.insertSimulation simulation)
  updateAlertStatus alertId status := (db.updateAlertStatus alertId status).onFirst

/-- The server, with a log of what its handlers do. -/
def Server.logged (server : Server R σ) : Server R (σ × List (Use R)) where
  db := server.db.logged
  predict crack timeHorizonHours timeSteps :=
    Http.logged (.predict crack) (server.predict crack timeHorizonHours timeSteps)
  simulate crack material := Http.logged (.simulate crack material) (server.simulate crack material)
  serialize := server.serialize.onFirst
  files := server.files
  unset := server.unset

section Logs

variable {α : Type}

theorem logs_logged (u : Use R) (x : Comp Failure σ α) : Logs x (logged u x) :=
  .note u (.onFirst x)

theorem logs_ofExcept (x : Except Failure α) :
    Logs (Comp.ofExcept x : Comp Failure σ α)
      (Comp.ofExcept x : Comp Failure (σ × List (Use R)) α) := by
  cases x with
  | ok a => exact .pure a
  | error e => exact .throw e

theorem logs_jsonResponse (j : Json R) (status : Nat) :
    Logs (jsonResponse j status : Comp Failure σ (Response R))
      (jsonResponse j status : Comp Failure (σ × List (Use R)) (Response R)) := by
  rw [jsonResponse, jsonResponse]
  split
  · exact .pure _
  · exact .throw _

variable (server : Server R σ)

theorem Server.logs_crackRows (cracks : List (CrackInfo R)) :
    Logs (server.crackRows cracks) (server.logged.crackRows cracks) := by
  induction cracks with
  | nil => exact .pure _
  | cons c cracks ih => exact .bind (.onFirst _) fun _ => .bind ih fun _ => .pure _

/-- A log changes nothing that a handler does. -/
theorem Server.logs_call (captures : List Text) (h : Handler) :
    Logs (server.call captures h) (server.logged.call captures h) := by
  cases h with
  | metrics => exact .bind (.onFirst _) fun _ => .pure _
  | porcelains => exact .bind (.onFirst _) fun _ => logs_jsonResponse _ _
  | porcelain =>
      exact .bind (logs_ofExcept _) fun _ => .bind (.onFirst _) fun _ => logs_jsonResponse _ _
  | cracks =>
      exact .bind (logs_ofExcept _) fun _ => .bind (.onFirst _) fun _ =>
        .bind (server.logs_crackRows _) fun _ => logs_jsonResponse _ _
  | points =>
      exact .bind (logs_ofExcept _) fun _ => .bind (.onFirst _) fun _ => logs_jsonResponse _ _
  | predict =>
      exact .bind (logs_ofExcept _) fun _ => .bind (.onFirst _) fun _ => .bind (.onFirst _) fun _ =>
        .bind (logs_logged _ _) fun _ => .bind (logs_logged _ _) fun _ => logs_jsonResponse _ _
  | simulate =>
      exact .bind (logs_ofExcept _) fun _ => .bind (logs_ofExcept _) fun _ =>
        .bind (.onFirst _) fun _ => .bind (.onFirst _) fun _ => .bind (.onFirst _) fun _ =>
          .bind (logs_logged _ _) fun _ => .bind (logs_logged _ _) fun _ => logs_jsonResponse _ _
  | alerts => exact .bind (.onFirst _) fun _ => logs_jsonResponse _ _
  | acknowledge =>
      exact .bind (logs_ofExcept _) fun _ => .bind (.onFirst _) fun _ => logs_jsonResponse _ _
  | materials => exact .bind (.onFirst _) fun _ => logs_jsonResponse _ _
  | laserData =>
      exact .bind (logs_ofExcept _) fun _ => .bind (.onFirst _) fun _ => logs_jsonResponse _ _

theorem Server.logs_routeRequest (req : Request) :
    Logs (server.routeRequest req) (server.logged.routeRequest req) := by
  rw [routeRequest, routeRequest]
  cases Http.routeRequest req with
  | file path => exact .pure _
  | handler h captures => exact server.logs_call captures h
  | error status message => exact logs_jsonResponse _ _

end Logs

/-! ## The status -/

theorem ensures_jsonResponse {j : Json R} :
    Ensures (jsonResponse j : Comp Failure σ (Response R)) fun response =>
      response.status = 200 := by
  rw [jsonResponse]
  split
  · exact .pure rfl
  · exact .throw _

/-- No handler answers with an error. -/
theorem Server.call_status (server : Server R σ) (captures : List Text) (h : Handler) :
    Ensures (server.call captures h) fun response => response.status = 200 := by
  cases h with
  | metrics => exact .bind fun _ => .pure rfl
  | porcelains => exact .bind fun _ => ensures_jsonResponse
  | porcelain => exact .bind fun _ => .bind fun _ => ensures_jsonResponse
  | cracks => exact .bind fun _ => .bind fun _ => .bind fun _ => ensures_jsonResponse
  | points => exact .bind fun _ => .bind fun _ => ensures_jsonResponse
  | predict =>
      exact .bind fun _ => .bind fun _ => .bind fun _ => .bind fun _ => .bind fun _ =>
        ensures_jsonResponse
  | simulate =>
      exact .bind fun _ => .bind fun _ => .bind fun _ => .bind fun _ => .bind fun _ =>
        .bind fun _ => .bind fun _ => ensures_jsonResponse
  | alerts => exact .bind fun _ => ensures_jsonResponse
  | acknowledge => exact .bind fun _ => .bind fun _ => ensures_jsonResponse
  | materials => exact .bind fun _ => ensures_jsonResponse
  | laserData => exact .bind fun _ => .bind fun _ => ensures_jsonResponse

/-! ## Reading what is not there -/

section Absent

variable {out : Output R} {now : Int} {lib : Reading R} {s : Store R} {table : String} {n : Int}

theorem select_absent (h : s.rows.hasId table n = false) (htable : table ≠ "active_alerts") :
    out.select s.rows table (some ("id", n)) none none = [] := by
  rw [Rows.hasId, List.any_eq_false] at h
  simp only [Output.select, Rows.source, if_neg htable, List.filter_eq_nil_iff]
  exact h

/-- A query on a row that is not there has no tuples. -/
theorem operate_absent {β : Type} {columns : List String} {read : Option PGresult → Option β}
    {b : β} (h : s.rows.hasId table n = false) (htable : table ≠ "active_alerts")
    (hread : read (some ⟨.tuplesOk, []⟩) = some b) :
    s.operate out now (runOne (some (.select columns table (some ("id", n)) none none)) read) =
      (some b, s) := by
  rw [operate_runOne, Store.run, select_absent h htable, List.map_nil, hread]

theorem operate_getPorcelain_absent (out : Output R) (now : Int) (lib : Reading R)
    (h : s.rows.hasId "porcelains" n = false) :
    s.operate out now (Database.getPorcelain lib n) = (some PorcelainInfo.zero, s) :=
  operate_absent h (by simp) rfl

/-- A crack that is not there is read as a zeroed one. -/
theorem operate_getCrack [Zero R] (out : Output R) (now : Int) (lib : Reading R) (s : Store R)
    (n : Int) : ∃ crack, s.operate out now (Database.getCrack lib n) = (some crack, s) ∧
      (s.rows.hasId "cracks" n = false → crack = CrackInfo.zero) := by
  cases h : s.rows.hasId "cracks" n with
  | false => exact ⟨_, operate_absent h (by simp) rfl, fun _ => rfl⟩
  | true =>
      rw [Database.getCrack, operate_runOne, Store.run]
      cases tuples (some ⟨.tuplesOk, (out.select s.rows "cracks" (some ("id", n)) none none).map
        fun r => crackColumns.map (out.column r)⟩) with
      | nil => exact ⟨_, rfl, fun hfalse => by cases hfalse⟩
      | cons row rows => exact ⟨_, rfl, fun hfalse => by cases hfalse⟩

theorem operate_getCrackPoints (out : Output R) (now : Int) (lib : Reading R) (s : Store R)
    (n : Int) : ∃ points, s.operate out now (Database.getCrackPoints lib n) = (some points, s) := by
  rw [Database.getCrackPoints, operate_runOne]
  exact ⟨_, rfl⟩

/-- The id of a material that is read is the one of its row. -/
theorem readMaterial_id (hlib : Parses lib) {r : Record R} (hr : 0 ≤ r.id) (columns : List String) :
    ∃ m, readMaterial lib (("id" :: columns).map (out.column r)) = some m ∧ m.id = r.id := by
  have hid : field (("id" :: columns).map (out.column r)) 0 = toString r.id := rfl
  obtain ⟨j, hj, -⟩ := jsonColumn_some hlib (("id" :: columns).map (out.column r)) 9
  rw [readMaterial, hj]
  refine ⟨_, rfl, ?_⟩
  show atoi (field (("id" :: columns).map (out.column r)) 0) = r.id
  rw [hid, atoi_toString hr]

theorem mapM_readMaterial (out : Output R) (hlib : Parses lib) {rows : List (Record R)}
    (hrows : ∀ r ∈ rows, 0 ≤ r.id) (columns : List String) :
    ∃ materials, (rows.map fun r => ("id" :: columns).map (out.column r)).mapM
        (readMaterial lib) = some materials ∧ ∀ m ∈ materials, ∃ r ∈ rows, r.id = m.id := by
  refine mapM_some fun row hrow => ?_
  obtain ⟨r, hr, rfl⟩ := List.mem_map.mp hrow
  obtain ⟨m, hm, hid⟩ := readMaterial_id hlib (hrows r hr) columns
  exact ⟨m, hm, r, hr, hid.symm⟩

/-- All materials that are read are there. -/
theorem operate_getRepairMaterials (out : Output R) (now : Int) (hlib : Parses lib)
    (s : Store R) : ∃ materials,
      s.operate out now (Database.getRepairMaterials lib) = (some materials, s) ∧
        ∀ m ∈ materials, s.rows.hasId "repair_materials" m.id = true := by
  have hmem : ∀ r ∈ out.select s.rows "repair_materials" none (some "id") none,
      r ∈ s.rows "repair_materials" := by
    intro r hr
    have hfound := (out.sortBy_perm _ _).mem_iff.mp hr
    exact List.mem_of_mem_filter hfound
  have hrows : ∀ r ∈ out.select s.rows "repair_materials" none (some "id") none, 0 ≤ r.id :=
    fun r hr => Int.le_of_lt (s.issued _ r (hmem r hr)).1
  obtain ⟨materials, hread, hids⟩ := mapM_readMaterial out hlib hrows
    ["material_type", "name", "manufacturer", "particle_size_nm", "purity", "viscosity",
      "refractive_index", "thermal_expansion_coeff", "properties"]
  refine ⟨materials, ?_, fun m hm => ?_⟩
  · rw [Database.getRepairMaterials, operate_runOne, ← hread]
    rfl
  · obtain ⟨r, hr, hid⟩ := hids m hm
    exact List.any_eq_true.mpr ⟨r, hmem r hr, by simp [hid]⟩

end Absent

/-! ## What should come of it -/

section Refused

variable [Zero R]

/-- The crack is `CrackInfo{}`, whatever points are put into it. -/
def Zeroed (crack : CrackInfo R) : Prop := { crack with points := [] } = CrackInfo.zero

/-- A run of a model on a zeroed crack or on a material that is not set. -/
inductive Use.OnUnset (unset : Unset R) : Use R → Prop where
  | predict {crack : CrackInfo R} (h : Zeroed crack) : OnUnset unset (.predict crack)
  | crack {crack : CrackInfo R} {material : RepairMaterial R} (h : Zeroed crack) :
      OnUnset unset (.simulate crack material)
  | material {crack : CrackInfo R} : OnUnset unset (.simulate crack unset.material)

inductive Use.Inserts : Use R → Prop where
  | prediction {prediction : CrackPrediction R} : Inserts (.insertPrediction prediction)
  | simulation {simulation : RepairSimulation R} : Inserts (.insertSimulation simulation)

/-- An id of the request names nothing in its table. -/
inductive Unknown (rows : Rows R) : Handler → List Text → Prop where
  | porcelain {id : Text} (h : rows.hasId "porcelains" (digitsValue id) = false) :
      Unknown rows .porcelain [id]
  | predict {crackId : Text} (h : rows.hasId "cracks" (digitsValue crackId) = false) :
      Unknown rows .predict [crackId]
  | crack {crackId materialId : Text}
      (h : rows.hasId "cracks" (digitsValue crackId) = false) :
      Unknown rows .simulate [crackId, materialId]
  | material {crackId materialId : Text}
      (h : rows.hasId "repair_materials" (digitsValue materialId) = false) :
      Unknown rows .simulate [crackId, materialId]

/-- The answer has the status of an error, no model has been run on what is not set,
and nothing has been inserted. -/
structure Refused (unset : Unset R) (answer : Except Failure (Response R)) (log : List (Use R)) :
    Prop where
  error : ∃ response, answer = .ok response ∧ 400 ≤ response.status
  no_model : ∀ u ∈ log, ¬ u.OnUnset unset
  no_insert : ∀ u ∈ log, ¬ u.Inserts

end Refused

/-! ## What comes of it -/

section Runs

variable {w : Text}

theorem run_stoi (hw : IsDigits w) (hfit : digitsValue w < 2 ^ 31) (s : σ) :
    (stoi w : Comp Failure σ Int).run s = (.ok (digitsValue w), s) := by
  rw [stoi, readInteger_digits hw, if_pos hfit]
  rfl

theorem run_logged {α : Type} {u : Use R} {x : Comp Failure σ α} {s t : σ}
    {result : Except Failure α} (h : x.run s = (result, t)) (log : List (Use R)) :
    (logged u x).run (s, log) = (result, t, log ++ [u]) :=
  Comp.run_onFirst h _

theorem run_jsonResponse {j : Json R} (h : j.validUtf8 = true) (s : σ) :
    (jsonResponse j : Comp Failure σ (Response R)).run s =
      (.ok ⟨200, "application/json", .json j⟩, s) := by
  rw [jsonResponse, if_pos h]
  rfl

theorem run_ofExcept {α : Type} {x : Except Failure α} {a : α} (h : x = .ok a) (s : σ) :
    (Comp.ofExcept x : Comp Failure σ α).run s = (.ok a, s) := by
  rw [h]
  rfl

variable (server : Server R σ) {crack : CrackInfo R} {points : List (Point3D R)} {s t : σ}
  {id : Int}

theorem run_porcelain {p : PorcelainInfo R} (hw : IsDigits w) (hfit : digitsValue w < 2 ^ 31)
    (hread : (server.db.getPorcelain (digitsValue w)).run s = (.ok p, t))
    (hvalid : p.dimensions.validUtf8 = true) :
    (server.logged.porcelain [w]).run (s, []) =
      (.ok ⟨200, "application/json", .json (porcelainJson p)⟩, t, []) := by
  refine (Comp.bind_ok (run_stoi hw hfit _)).trans ?_
  refine (Comp.bind_ok (Comp.run_onFirst hread _)).trans ?_
  exact run_jsonResponse (porcelainJson_validUtf8 hvalid) _

/-- The model is run on what is read, and its result is inserted. -/
theorem run_predictCrack {result : Algorithms.ParisLawResult R} (hw : IsDigits w)
    (hfit : digitsValue w < 2 ^ 31)
    (hcrack : (server.db.getCrack (digitsValue w)).run s = (.ok crack, s))
    (hpoints : (server.db.getCrackPoints (digitsValue w)).run s = (.ok points, s))
    (hmodel : (server.predict { crack with points := points } 720 100).run s = (.ok result, s))
    (hinsert : (server.db.insertPrediction (server.prediction (digitsValue w) result)).run s =
      (.ok id, t)) :
    (server.logged.predictCrack [w]).run (s, []) =
      (.ok ⟨200, "application/json", .json (Algorithms.resultToJson result)⟩, t,
        [.predict { crack with points := points },
          .insertPrediction (server.prediction (digitsValue w) result)]) := by
  refine (Comp.bind_ok (run_stoi hw hfit _)).trans ?_
  refine (Comp.bind_ok (Comp.run_onFirst hcrack _)).trans ?_
  refine (Comp.bind_ok (Comp.run_onFirst hpoints _)).trans ?_
  refine (Comp.bind_ok (run_logged hmodel _)).trans ?_
  refine (Comp.bind_ok (run_logged hinsert _)).trans ?_
  exact run_jsonResponse (resultToJson_validUtf8 result) _

theorem run_simulateRepair {v : Text} {materials : List (RepairMaterial R)}
    {result : Algorithms.DEMResult R} (hw : IsDigits w) (hfit : digitsValue w < 2 ^ 31)
    (hv : IsDigits v) (hfit' : digitsValue v < 2 ^ 31)
    (hcrack : (server.db.getCrack (digitsValue w)).run s = (.ok crack, s))
    (hpoints : (server.db.getCrackPoints (digitsValue w)).run s = (.ok points, s))
    (hmaterials : server.db.getRepairMaterials.run s = (.ok materials, s))
    (hmodel : (server.simulate { crack with points := points }
      (server.findMaterial materials (digitsValue v))).run s = (.ok result, s))
    (hinsert : (server.db.insertSimulation
      (server.simulation (digitsValue w) (digitsValue v) result)).run s = (.ok id, t)) :
    (server.logged.simulateRepair [w, v]).run (s, []) =
      (.ok ⟨200, "application/json", .json result.toJson⟩, t,
        [.simulate { crack with points := points }
            (server.findMaterial materials (digitsValue v)),
          .insertSimulation (server.simulation (digitsValue w) (digitsValue v) result)]) := by
  refine (Comp.bind_ok (run_stoi hw hfit _)).trans ?_
  refine (Comp.bind_ok (run_stoi hv hfit' _)).trans ?_
  refine (Comp.bind_ok (Comp.run_onFirst hcrack _)).trans ?_
  refine (Comp.bind_ok (Comp.run_onFirst hpoints _)).trans ?_
  refine (Comp.bind_ok (Comp.run_onFirst hmaterials _)).trans ?_
  refine (Comp.bind_ok (run_logged hmodel _)).trans ?_
  refine (Comp.bind_ok (run_logged hinsert _)).trans ?_
  exact run_jsonResponse (demJson_validUtf8 result) _

end Runs

/-- The server of the program, with a store behind it, and all that it depends on. -/
structure Installation (R : Type) where
  models : Models R
  out : Output R
  now : Int
  lib : Reading R
  laserData : Store R → Int → Int → List (LaserMicroscopeData R)
  serialize : Comp Failure (Store R) Text
  files : Text → Option (List UInt8)
  unset : Unset R

namespace Installation

variable [Field R] [LinearOrder R] (inst : Installation R) {s : Store R} {w : Text}

def server : Server R (Store R) :=
  inst.models.server (.ofStore inst.out inst.now inst.lib inst.laserData) inst.serialize
    inst.files inst.unset

theorem run_predict (crack : CrackInfo R) (s : Store R) :
    ∃ result, (inst.server.predict crack 720 100).run s = (.ok result, s) := by
  obtain ⟨result, hresult⟩ := inst.models.predict_ok crack
  rw [server, Models.server]
  exact ⟨result, run_ofExcept hresult s⟩

theorem run_simulate (crack : CrackInfo R) (material : RepairMaterial R) (s : Store R) :
    ∃ result, (inst.server.simulate crack material).run s = (.ok result, s) := by
  obtain ⟨result, hresult⟩ := inst.models.simulate_ok crack material
  rw [server, Models.server]
  exact ⟨result, run_ofExcept hresult s⟩

/-- A porcelain that is not there is answered as a zeroed one. -/
theorem run_porcelain_unknown (hw : IsDigits w) (hfit : digitsValue w < 2 ^ 31)
    (hunknown : s.rows.hasId "porcelains" (digitsValue w) = false) :
    (inst.server.logged.porcelain [w]).run (s, []) =
      (.ok ⟨200, "application/json", .json (porcelainJson PorcelainInfo.zero)⟩, s, []) := by
  have hread := operate_getPorcelain_absent inst.out inst.now inst.lib hunknown
  exact run_porcelain inst.server hw hfit (ofDb_run hread) rfl

/-- A crack that is not there is predicted as a zeroed one. -/
theorem run_predictCrack (hlib : Parses inst.lib) (hw : IsDigits w)
    (hfit : digitsValue w < 2 ^ 31) : ∃ crack points prediction response t,
      (s.rows.hasId "cracks" (digitsValue w) = false → crack = CrackInfo.zero) ∧
        (inst.server.logged.predictCrack [w]).run (s, []) = (.ok response, t,
          [.predict { crack with points := points }, .insertPrediction prediction]) := by
  obtain ⟨crack, hcrack, hzero⟩ := operate_getCrack inst.out inst.now inst.lib s (digitsValue w)
  obtain ⟨points, hpoints⟩ := operate_getCrackPoints inst.out inst.now inst.lib s (digitsValue w)
  obtain ⟨result, hmodel⟩ := inst.run_predict { crack with points := points } s
  have hdb := Manager.returns_ofStore inst.out inst.now hlib inst.laserData
  obtain ⟨id, t, hinsert, -⟩ := hdb.insertPrediction
    (inst.server.prediction (digitsValue w) result) (resultParameters_validUtf8 result) s
  exact ⟨crack, points, _, _, t, hzero, Http.run_predictCrack _ hw hfit (ofDb_run hcrack)
    (ofDb_run hpoints) hmodel hinsert⟩

/-- A crack that is not there is simulated as a zeroed one, and a material that is not
there as one that is not set. -/
theorem run_simulateRepair {v : Text} (hlib : Parses inst.lib) (hw : IsDigits w)
    (hfit : digitsValue w < 2 ^ 31) (hv : IsDigits v) (hfit' : digitsValue v < 2 ^ 31) :
    ∃ crack points material simulation response t,
      (s.rows.hasId "cracks" (digitsValue w) = false → crack = CrackInfo.zero) ∧
        (s.rows.hasId "repair_materials" (digitsValue v) = false →
          material = inst.unset.material) ∧
          (inst.server.logged.simulateRepair [w, v]).run (s, []) = (.ok response, t,
            [.simulate { crack with points := points } material,
              .insertSimulation simulation]) := by
  obtain ⟨crack, hcrack, hzero⟩ := operate_getCrack inst.out inst.now inst.lib s (digitsValue w)
  obtain ⟨points, hpoints⟩ := operate_getCrackPoints inst.out inst.now inst.lib s (digitsValue w)
  obtain ⟨materials, hmaterials, hids⟩ := operate_getRepairMaterials inst.out inst.now hlib s
  have hunset : s.rows.hasId "repair_materials" (digitsValue v) = false →
      (materials.find? fun m => m.id = digitsValue v) = none := by
    intro habsent
    refine List.find?_eq_none.mpr fun m hm hid => ?_
    have hpresent := hids m hm
    rw [of_decide_eq_true hid, habsent] at hpresent
    cases hpresent
  obtain ⟨result, hmodel⟩ := inst.run_simulate { crack with points := points }
    (inst.server.findMaterial materials (digitsValue v)) s
  have hdb := Manager.returns_ofStore inst.out inst.now hlib inst.laserData
  obtain ⟨id, t, hinsert, -⟩ := hdb.insertSimulation
    (inst.server.simulation (digitsValue w) (digitsValue v) result)
    (demParameters_validUtf8 result) (demJson_validUtf8 result) s
  refine ⟨crack, points, _, _, _, t, hzero, fun habsent => ?_, Http.run_simulateRepair _ hw hfit
    hv hfit' (ofDb_run hcrack) (ofDb_run hpoints) (ofDb_run hmaterials) hmodel hinsert⟩
  rw [Server.findMaterial, hunset habsent]
  rfl

/-- If its ids fit and the materials can be read, a request that is not to be refused
is processed: a model is run on what is not set, and its result is inserted. -/
theorem unknown_processed {h : Handler} {captures : List Text} (hlib : Parses inst.lib)
    (hdigits : ∀ w ∈ captures, IsDigits w) (hfit : ∀ w ∈ captures, digitsValue w < 2 ^ 31)
    (hunknown : Unknown s.rows h captures) : ∃ response t log,
      (inst.server.logged.call captures h).run (s, []) = (.ok response, t, log) ∧
        (h ≠ .porcelain → (∃ u ∈ log, u.OnUnset inst.unset) ∧ ∃ u ∈ log, u.Inserts) := by
  cases hunknown with
  | porcelain hunknown =>
      have hw := hdigits _ List.mem_cons_self
      have hrun := inst.run_porcelain_unknown hw (hfit _ List.mem_cons_self) hunknown
      exact ⟨_, _, _, hrun, fun hother => absurd rfl hother⟩
  | predict hunknown =>
      have hw := hdigits _ List.mem_cons_self
      obtain ⟨crack, points, prediction, response, t, hzero, hrun⟩ :=
        inst.run_predictCrack hlib hw (hfit _ List.mem_cons_self)
      refine ⟨response, t, _, hrun, fun _ => ⟨⟨_, List.mem_cons_self, .predict ?_⟩, ?_⟩⟩
      · rw [hzero hunknown]
        rfl
      · exact ⟨_, List.mem_cons_of_mem _ List.mem_cons_self, .prediction⟩
  | crack hunknown =>
      rw [List.forall_mem_cons, List.forall_mem_singleton] at hdigits hfit
      obtain ⟨crack, points, material, simulation, response, t, hzero, -, hrun⟩ :=
        inst.run_simulateRepair hlib hdigits.1 hfit.1 hdigits.2 hfit.2
      refine ⟨response, t, _, hrun, fun _ => ⟨⟨_, List.mem_cons_self, .crack ?_⟩, ?_⟩⟩
      · rw [hzero hunknown]
        rfl
      · exact ⟨_, List.mem_cons_of_mem _ List.mem_cons_self, .simulation⟩
  | material hunknown =>
      rw [List.forall_mem_cons, List.forall_mem_singleton] at hdigits hfit
      obtain ⟨crack, points, material, simulation, response, t, -, hunset, hrun⟩ :=
        inst.run_simulateRepair hlib hdigits.1 hfit.1 hdigits.2 hfit.2
      refine ⟨response, t, _, hrun, fun _ => ⟨⟨_, List.mem_cons_self, ?_⟩, ?_⟩⟩
      · rw [hunset hunknown]
        exact .material
      · exact ⟨_, List.mem_cons_of_mem _ List.mem_cons_self, .simulation⟩

end Installation

/-- No request for what is not there is refused: no answer has the status of an error.
If the ids fit and the materials can be read, a request that is not about a porcelain
runs a model on what is not set and inserts its result. -/
theorem unknown_not_refused [Field R] [LinearOrder R] (inst : Installation R) (s : Store R)
    {req : Request} {h : Handler} {captures : List Text}
    (hroute : routeRequest req = .handler h captures) (hunknown : Unknown s.rows h captures) :
    let run := (inst.server.logged.routeRequest req).run (s, [])
    ¬ Refused inst.unset run.1 run.2.2 ∧
      (Parses inst.lib → (∀ id ∈ captures, digitsValue id < 2 ^ 31) → h ≠ .porcelain →
        (∃ u ∈ run.2.2, u.OnUnset inst.unset) ∧ ∃ u ∈ run.2.2, u.Inserts) := by
  rw [Server.routeRequest, hroute]
  refine ⟨?_, fun hlib hfit hother => ?_⟩
  · rintro ⟨⟨response, hanswer, herror⟩, -, -⟩
    have hstatus := (inst.server.logged.call_status captures h).result hanswer
    omega
  · obtain ⟨-, route, hfirst, -⟩ := first_of_handler hroute
    obtain ⟨response, t, log, hrun, hprocessed⟩ :=
      inst.unknown_processed hlib (First.digits hfirst).2 hfit hunknown
    have hlog : ((inst.server.logged.respond (.handler h captures)).run (s, [])).2.2 = log :=
      congrArg (fun result => result.2.2) hrun
    rw [hlog]
    exact hprocessed hother

def plainInstallation : Installation ℚ where
  models := plainModels
  out := .stable (fun _ => "") (fun _ => "") (fun _ => "") fun _ => ""
  now := 0
  lib := nullReading
  laserData _ _ _ := []
  serialize := pure []
  files _ := none
  unset := plainServer.unset

/-- The first crack of a database that has none. -/
def predictFirst : Request := ⟨.post, "/api/cracks/1/predict".toList, []⟩

theorem route_predictFirst : routeRequest predictFirst = .handler .predict ["1".toList] := rfl

theorem unknown_not_refused_empty :
    let run := (plainInstallation.server.logged.routeRequest predictFirst).run (.empty, [])
    ¬ Refused plainInstallation.unset run.1 run.2.2 ∧
      (Parses plainInstallation.lib → (∀ id ∈ ["1".toList], digitsValue id < 2 ^ 31) →
        Handler.predict ≠ .porcelain →
        (∃ u ∈ run.2.2, u.OnUnset plainInstallation.unset) ∧ ∃ u ∈ run.2.2, u.Inserts) :=
  unknown_not_refused plainInstallation .empty route_predictFirst (.predict rfl)

/-- `POST /api/cracks/1/predict` is not refused on empty tables. -/
theorem predictFirst_is_not_refused :
    ¬ ∀ (inst : Installation ℚ) (s : Store ℚ) (req : Request) (h : Handler)
        (captures : List Text), routeRequest req = .handler h captures →
      Unknown s.rows h captures →
      Refused inst.unset ((inst.server.logged.routeRequest req).run (s, [])).1
        ((inst.server.logged.routeRequest req).run (s, [])).2.2 := by
  intro hrefused
  obtain ⟨⟨response, hanswer, herror⟩, -, -⟩ :=
    hrefused plainInstallation .empty _ _ _ route_predictFirst (.predict rfl)
  rw [Server.routeRequest, route_predictFirst] at hanswer
  have hstatus := (plainInstallation.server.logged.call_status _ .predict).result hanswer
  omega

end PorcelainMonitor.Http
