import PorcelainMonitor.Database.History
import PorcelainMonitor.Http.UnknownEntity

/-!
# What a request writes

Most handlers only read.  The three that do not end in one statement that writes:
the insertion of a result or the status of an alert (`request_writes`).  They are reached by
`POST` only, so a request with another verb leaves the tables as they were.
-/

namespace PorcelainMonitor.Http

open Database
open Effects (Comp Keeps)

variable {R σ : Type}

/-! ## Computations that only read -/

/-- A conversion of the request does not touch the store. -/
theorem keeps_ofExcept {α : Type} (x : Except Failure α) :
    Keeps id (Comp.ofExcept x : Comp Failure σ α) := by
  cases x with
  | ok a => exact .pure a
  | error e => exact fun _ => rfl

theorem keeps_jsonResponse (j : Json R) (status : Nat) :
    Keeps id (jsonResponse j status : Comp Failure σ (Response R)) := by
  rw [jsonResponse]
  split
  · exact .pure _
  · exact fun _ => rfl

theorem keeps_stoi (w : Text) : Keeps id (stoi w : Comp Failure σ Int) := keeps_ofExcept _

/-- The operations of the database that the handlers call, save for three. -/
structure Manager.OnlyReads (db : Manager R σ) : Prop where
  getAllPorcelains : Keeps id db.getAllPorcelains
  getPorcelain : ∀ n, Keeps id (db.getPorcelain n)
  getCracksByPorcelain : ∀ n, Keeps id (db.getCracksByPorcelain n)
  getCrack : ∀ n, Keeps id (db.getCrack n)
  getCrackPoints : ∀ n, Keeps id (db.getCrackPoints n)
  getActiveAlerts : Keeps id db.getActiveAlerts
  getRepairMaterials : Keeps id db.getRepairMaterials
  getLaserData : ∀ n hours, Keeps id (db.getLaserData n hours)

section Store

variable {out : Output R} {now : Int} {β : Type}

theorem ofDb_store (p : Db R β) (s : Store R) :
    ((ofDb out now p).run s).2 = (s.operate out now p).2 := by
  rw [ofDb]
  dsimp only
  cases s.operate out now p with
  | mk b t =>
      cases b with
      | none => rfl
      | some b => rfl

/-- A statement that only reads leaves the tables as they are. -/
theorem keeps_select {columns : List String} {source : String} {condition : Option (String × Int)}
    {order : Option String} {limit : Option Int} {read : Option PGresult → Option β} :
    Keeps id (ofDb out now (runOne (some (.select columns source condition order limit)) read)) :=
  fun s => by
    show ((ofDb out now _).run s).2 = s
    rw [ofDb_store, operate_runOne]
    rfl

/-- The queries of the manager write nothing. -/
theorem Manager.onlyReads_ofStore [Zero R] (lib : Reading R)
    (laserData : Store R → Int → Int → List (LaserMicroscopeData R)) :
    (Manager.ofStore out now lib laserData).OnlyReads where
  getAllPorcelains := keeps_select
  getPorcelain _ := keeps_select
  getCracksByPorcelain n :=
    show Keeps id (ofDb out now (Database.getCracksByPorcelain lib n)) from keeps_select
  getCrack _ := keeps_select
  getCrackPoints n :=
    show Keeps id (ofDb out now (Database.getCrackPoints lib n)) from keeps_select
  getActiveAlerts := show Keeps id (ofDb out now (Database.getActiveAlerts lib)) from keeps_select
  getRepairMaterials := keeps_select
  getLaserData _ _ := fun _ => rfl

/-- A statement that could not be built is not sent. -/
theorem ofDb_runOne_store (statement : Option (Query R)) (read : Option PGresult → Option β)
    (s : Store R) : ((ofDb out now (runOne statement read)).run s).2 = s ∨
      ∃ q ∈ statement, ((ofDb out now (runOne statement read)).run s).2 = (s.run out now q).2 := by
  cases statement with
  | none => exact .inl (ofDb_store _ s)
  | some q => exact .inr ⟨q, rfl, by rw [ofDb_store, operate_runOne]⟩

/-- The insertion adds its row, or the table refuses it and the store stays. -/
theorem insertPrediction_store (out : Output R) (now : Int) (prediction : CrackPrediction R)
    (s : Store R) :
    let t := ((ofDb out now (Database.insertPrediction prediction)).run s).2
    t = s ∨ ∃ values, t =
      (s.run out now (.insert "crack_propagation_predictions" values true)).2 := by
  rcases ofDb_runOne_store _ _ s with hnone | ⟨q, hq, hsome⟩
  · exact .inl hnone
  · obtain ⟨_, _, hq⟩ := Option.bind_eq_some_iff.mp hq
    cases hq
    exact .inr ⟨_, hsome⟩

/-- The same for a simulation. -/
theorem insertSimulation_store (out : Output R) (now : Int) (simulation : RepairSimulation R)
    (s : Store R) :
    let t := ((ofDb out now (Database.insertSimulation simulation)).run s).2
    t = s ∨ ∃ values, t = (s.run out now (.insert "repair_simulations" values true)).2 := by
  rcases ofDb_runOne_store _ _ s with hnone | ⟨q, hq, hsome⟩
  · exact .inl hnone
  · obtain ⟨_, _, hq⟩ := Option.bind_eq_some_iff.mp hq
    obtain ⟨_, _, hq⟩ := Option.bind_eq_some_iff.mp hq
    cases hq
    exact .inr ⟨_, hsome⟩

end Store

/-! ## The handlers -/

namespace Installation

variable [Field R] [LinearOrder R] (inst : Installation R)

/-- What an answer may leave behind: the store, or the store after one statement. -/
def Writes (s t : Store R) : Answer → Prop
  | .handler .predict _ => t = s ∨ ∃ values, t =
      (s.run inst.out inst.now (.insert "crack_propagation_predictions" values true)).2
  | .handler .simulate _ => t = s ∨ ∃ values, t =
      (s.run inst.out inst.now (.insert "repair_simulations" values true)).2
  | .handler .acknowledge _ => t = s ∨ ∃ id, t =
      (s.run inst.out inst.now (statusUpdate id .acknowledged)).2
  | _ => t = s

theorem onlyReads : inst.server.db.OnlyReads := Manager.onlyReads_ofStore inst.lib inst.laserData

/-- The points of every crack are read one crack after the other. -/
theorem keeps_crackRows (cracks : List (CrackInfo R)) :
    Keeps id (inst.server.crackRows cracks) := by
  induction cracks with
  | nil => exact .pure _
  | cons c cracks ih =>
      exact .bind (inst.onlyReads.getCrackPoints _) fun _ => .bind ih fun _ => .pure _

/-- The prediction is computed from a crack that has been read before. -/
theorem keeps_predict (crack : CrackInfo R) : Keeps id (inst.server.predict crack 720 100) := by
  intro s
  obtain ⟨result, hrun⟩ := inst.run_predict crack s
  rw [hrun]

theorem keeps_simulate (crack : CrackInfo R) (material : RepairMaterial R) :
    Keeps id (inst.server.simulate crack material) := by
  intro s
  obtain ⟨result, hrun⟩ := inst.run_simulate crack material s
  rw [hrun]

/-- All that comes before the insertion reads, so the insertion decides. -/
theorem predictCrack_writes (captures : List Text) (s : Store R) :
    inst.Writes s ((inst.server.predictCrack captures).run s).2 (.handler .predict captures) := by
  let P (t : Store R) : Prop := inst.Writes s t (.handler .predict captures)
  have hs : P s := .inl rfl
  refine Keeps.read (P := P) (keeps_stoi _) hs fun crackId => ?_
  refine Keeps.read (P := P) (inst.onlyReads.getCrack _) hs fun crack => ?_
  refine Keeps.read (P := P) (inst.onlyReads.getCrackPoints _) hs fun points => ?_
  refine Keeps.read (P := P) (inst.keeps_predict _) hs fun result => ?_
  exact Keeps.last (f := id) (P := P) (fun _ => keeps_jsonResponse _ _)
    (insertPrediction_store inst.out inst.now (inst.server.prediction crackId result) s)

/-- The same for a simulation of a repair. -/
theorem simulateRepair_writes (captures : List Text) (s : Store R) :
    inst.Writes s ((inst.server.simulateRepair captures).run s).2
      (.handler .simulate captures) := by
  let P (t : Store R) : Prop := inst.Writes s t (.handler .simulate captures)
  have hs : P s := .inl rfl
  refine Keeps.read (P := P) (keeps_stoi _) hs fun crackId => ?_
  refine Keeps.read (P := P) (keeps_stoi _) hs fun materialId => ?_
  refine Keeps.read (P := P) (inst.onlyReads.getCrack _) hs fun crack => ?_
  refine Keeps.read (P := P) (inst.onlyReads.getCrackPoints _) hs fun points => ?_
  refine Keeps.read (P := P) inst.onlyReads.getRepairMaterials hs fun materials => ?_
  refine Keeps.read (P := P) (inst.keeps_simulate _ _) hs fun result => ?_
  exact Keeps.last (f := id) (P := P) (fun _ => keeps_jsonResponse _ _)
    (insertSimulation_store inst.out inst.now
      (inst.server.simulation crackId materialId result) s)

/-- The one statement of the handler is the update. -/
theorem acknowledge_writes (captures : List Text) (s : Store R) :
    inst.Writes s ((inst.server.acknowledge captures).run s).2
      (.handler .acknowledge captures) := by
  let P (t : Store R) : Prop := inst.Writes s t (.handler .acknowledge captures)
  have hs : P s := .inl rfl
  refine Keeps.read (P := P) (keeps_ofExcept _) hs fun id => ?_
  refine Keeps.last (f := fun t => t) (P := P) (fun _ => keeps_jsonResponse _ _) ?_
  refine .inr ⟨id, ?_⟩
  show ((ofDb inst.out inst.now (Database.updateAlertStatus id .acknowledged)).run s).2 = _
  rw [ofDb_store, updateAlertStatus_eq, operate_runOne]

/-- The handlers, save for the one that `main` adds. -/
theorem call_writes {h : Handler} (hmetrics : h ≠ .metrics) (captures : List Text)
    (s : Store R) :
    inst.Writes s ((inst.server.call captures h).run s).2 (.handler h captures) := by
  cases h with
  | metrics => exact absurd rfl hmetrics
  | porcelains =>
      exact Keeps.bind inst.onlyReads.getAllPorcelains (fun _ => keeps_jsonResponse _ _) s
  | porcelain =>
      exact Keeps.bind (keeps_stoi _) (fun _ => .bind (inst.onlyReads.getPorcelain _) fun _ =>
        keeps_jsonResponse _ _) s
  | cracks =>
      exact Keeps.bind (keeps_stoi _) (fun _ => .bind (inst.onlyReads.getCracksByPorcelain _)
        fun _ => .bind (inst.keeps_crackRows _) fun _ => keeps_jsonResponse _ _) s
  | points =>
      exact Keeps.bind (keeps_stoi _) (fun _ => .bind (inst.onlyReads.getCrackPoints _) fun _ =>
        keeps_jsonResponse _ _) s
  | predict => exact inst.predictCrack_writes captures s
  | simulate => exact inst.simulateRepair_writes captures s
  | alerts => exact Keeps.bind inst.onlyReads.getActiveAlerts (fun _ => keeps_jsonResponse _ _) s
  | acknowledge => exact inst.acknowledge_writes captures s
  | materials =>
      exact Keeps.bind inst.onlyReads.getRepairMaterials (fun _ => keeps_jsonResponse _ _) s
  | laserData =>
      exact Keeps.bind (keeps_stoi _) (fun _ => .bind (inst.onlyReads.getLaserData _ _) fun _ =>
        keeps_jsonResponse _ _) s

end Installation

/-! ## Requests -/

/-- The handlers that write are reached by `POST`. -/
theorem routes_writing : ∀ route ∈ routes, route.method ≠ .post →
    route.handler ≠ .predict ∧ route.handler ≠ .simulate ∧ route.handler ≠ .acknowledge := by
  simp [routes, registerApiRoutes, metricsRoute, Route.r1, Route.r2, Route.r3, Route.r4, Route.r5,
    Route.r6, Route.r7, Route.r8, Route.r9, Route.r10]

/-- A route that takes a request has its method. -/
theorem First.not_writing {req : Request} {route : TableRoute Handler} {captures : List Text}
    (h : RouteTable.First serverTable req route captures) (hmethod : req.method ≠ .post) :
    route.handler ≠ .predict ∧ route.handler ≠ .simulate ∧ route.handler ≠ .acknowledge := by
  obtain ⟨r, hr, rfl, -⟩ := First.matches h
  refine routes_writing r hr fun hpost => hmethod ?_
  have htake : r.take req = some captures := h.takes
  exact ((Route.take_some_iff.mp ⟨captures, htake⟩).1).trans hpost

/-- A request leaves the store as it was, or as one statement leaves it: the insertion of a
prediction or of a simulation, or the acknowledgement of an alert.  Without `POST` it leaves
the store as it was. -/
theorem request_writes [Field R] [LinearOrder R] (inst : Installation R) (s : Store R)
    (req : Request) :
    let t := ((inst.server.routeRequest req).run s).2
    inst.Writes s t (routeRequest req) ∧ (req.method ≠ .post → t = s) := by
  rw [Server.routeRequest]
  cases hroute : routeRequest req with
  | file path => exact ⟨rfl, fun _ => rfl⟩
  | error status message =>
      have hkept := keeps_jsonResponse (σ := Store R)
        (.object [("error", .text message)] : Json R) status s
      exact ⟨hkept, fun _ => hkept⟩
  | handler h captures =>
      obtain ⟨hapi, route, hfirst, rfl⟩ := first_of_handler hroute
      have hwrites := inst.call_writes (First.not_metrics hfirst hapi) captures s
      refine ⟨hwrites, fun hmethod => ?_⟩
      obtain ⟨hpredict, hsimulate, hacknowledge⟩ := First.not_writing hfirst hmethod
      revert hwrites hpredict hsimulate hacknowledge
      cases route.handler with
      | predict => exact fun _ hpredict => absurd rfl hpredict
      | simulate => exact fun _ _ hsimulate => absurd rfl hsimulate
      | acknowledge => exact fun _ _ _ hacknowledge => absurd rfl hacknowledge
      | _ => exact fun hwrites _ _ _ => hwrites

end PorcelainMonitor.Http
