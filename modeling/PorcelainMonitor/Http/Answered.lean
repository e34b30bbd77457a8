import PorcelainMonitor.Algorithms.DemDynamics
import PorcelainMonitor.Algorithms.PredictionShape
import PorcelainMonitor.Http.RouteTable
import PorcelainMonitor.Http.Storage

/-!
# Which requests are answered

A handler throws if an id of its route is too large for the integer that it reads it
into.  Nothing else throws, as long as the calls of the database return, so this is
exactly when a request is left without an answer (`answered_iff`).
-/

namespace PorcelainMonitor.Http

open Database (digitsValue)
open Effects (Comp Returns)

variable {R σ : Type}

/-! ## Ids -/

/-- What the group `(\d+)` captures. -/
def IsDigits (w : Text) : Prop := w ≠ [] ∧ ∀ c ∈ w, c.isDigit = true

/-- The ids that fit are below it. -/
def Handler.limit : Handler → Int
  | .acknowledge => 2 ^ 63
  | _ => 2 ^ 31

/-- The number of ids. -/
def Handler.arity : Handler → Nat
  | .metrics => 0
  | .porcelains => 0
  | .alerts => 0
  | .materials => 0
  | .simulate => 2
  | _ => 1

/-- The computation returns in the state. -/
def Answered {α : Type} (x : Comp Failure σ α) (s : σ) : Prop := ∃ a t, x.run s = (.ok a, t)

section Ids

variable {α : Type} {post : α → Prop} {x : Comp Failure σ α} {s : σ} {w : Text}

theorem digitsValue_nonneg (ds : List Char) : 0 ≤ digitsValue ds := by
  rw [Database.digitsValue_eq]
  exact Int.natCast_nonneg _

theorem answered_of_returns (h : Returns x post) (s : σ) : Answered x s := by
  obtain ⟨a, t, hrun, -⟩ := h s
  exact ⟨a, t, hrun⟩

theorem afterSign_of_isDigit {c : Char} {cs : Text} (hc : c.isDigit = true) :
    afterSign (c :: cs) = c :: cs := by
  rw [afterSign.eq_def]
  split
  · next rest h =>
      obtain ⟨rfl, -⟩ := List.cons.inj h
      cases hc
  · next rest h =>
      obtain ⟨rfl, -⟩ := List.cons.inj h
      cases hc
  · rfl

/-- Digits are read as their number, if that fits. -/
theorem readInteger_digits {name : String} {n : Nat} (hw : IsDigits w) :
    readInteger name (2 ^ n) w =
      if digitsValue w < 2 ^ n then .ok (digitsValue w) else .error (.exception name) := by
  obtain ⟨c, cs, rfl⟩ := List.exists_cons_of_ne_nil hw.1
  have hc := hw.2 c List.mem_cons_self
  have hdrop : (c :: cs).dropWhile Database.isSpace = c :: cs :=
    List.dropWhile_cons_of_neg (by simp [Database.isSpace_of_isDigit hc])
  have hdigits : (afterSign (c :: cs)).takeWhile Char.isDigit = c :: cs := by
    rw [afterSign_of_isDigit hc]
    exact List.takeWhile_eq_self_iff.mpr hw.2
  have hminus : ¬ (c :: cs).head? = some '-' := by
    rintro ⟨⟩
    cases hc
  have hlow : -2 ^ n ≤ digitsValue (c :: cs) :=
    (neg_nonpos.mpr (by positivity)).trans (digitsValue_nonneg _)
  rw [readInteger, hdrop, hdigits, if_neg hminus, if_neg hw.1]
  simp only [hlow, true_and]

/-- A handler goes on with an id exactly if it fits. -/
theorem answered_readInteger {name : String} {n : Nat} {f : Int → Comp Failure σ α}
    (hw : IsDigits w) :
    Answered (Comp.ofExcept (readInteger name (2 ^ n) w) >>= f) s ↔
      digitsValue w < 2 ^ n ∧ Answered (f (digitsValue w)) s := by
  rw [readInteger_digits hw]
  split
  · next h => exact (and_iff_right h).symm
  · next h =>
      refine iff_of_false ?_ fun h' => h h'.1
      rintro ⟨a, t, hrun⟩
      cases hrun

end Ids

/-! ## What can be dumped -/

section Dump

theorem porcelainJson_validUtf8 {p : PorcelainInfo R} (h : p.dimensions.validUtf8 = true) :
    (porcelainJson p).validUtf8 = true := by
  simp [porcelainJson, h]

theorem materialJson_validUtf8 {m : RepairMaterial R} (h : m.properties.validUtf8 = true) :
    (materialJson m).validUtf8 = true := by
  simp [materialJson, h]

theorem pointJson_validUtf8 (pt : Point3D R) : (pointJson pt).validUtf8 = true := by
  simp [pointJson]

theorem crackJson_validUtf8 (c : CrackInfo R) (points : List (Point3D R)) :
    (crackJson c points).validUtf8 = true := by
  simp [crackJson, pointJson]

theorem alertJson_validUtf8 (a : Alert R) : (alertJson a).validUtf8 = true := by
  simp [alertJson]

theorem laserJson_validUtf8 (d : LaserMicroscopeData R) : (laserJson d).validUtf8 = true := by
  simp [laserJson]

theorem resultToJson_validUtf8 (result : Algorithms.ParisLawResult R) :
    (Algorithms.resultToJson result).validUtf8 = true := by
  simp [Algorithms.resultToJson]

theorem resultParameters_validUtf8 (result : Algorithms.ParisLawResult R) :
    ((Algorithms.resultToJson result).subscript "parameters").validUtf8 = true :=
  Json.validUtf8_subscript (resultToJson_validUtf8 result)

theorem demJson_validUtf8 (result : Algorithms.DEMResult R) : result.toJson.validUtf8 = true := by
  simp only [Algorithms.DEMResult.toJson, Json.validUtf8_object, List.forall_mem_cons,
    Json.validUtf8_arr, List.forall_mem_map]
  simp

theorem demParameters_validUtf8 (result : Algorithms.DEMResult R) :
    (result.toJson.subscript "parameters").validUtf8 = true :=
  Json.validUtf8_subscript (demJson_validUtf8 result)

theorem returns_jsonResponse {j : Json R} {status : Nat} (h : j.validUtf8 = true) :
    Returns (jsonResponse j status : Comp Failure σ (Response R)) fun _ => True := by
  rw [jsonResponse, if_pos h]
  exact .pure trivial

theorem answered_errorResponse (status : Nat) (message : String) (s : σ) :
    Answered (errorResponse status message : Comp Failure σ (Response R)) s :=
  answered_of_returns (returns_jsonResponse (by simp)) s

theorem returns_jsonArray {α : Type} {json : α → Json R} {xs : List α}
    (h : ∀ x ∈ xs, (json x).validUtf8 = true) :
    Returns (jsonResponse (.arr (xs.map json)) : Comp Failure σ (Response R)) fun _ => True := by
  refine returns_jsonResponse (Json.validUtf8_arr.mpr fun j hj => ?_)
  obtain ⟨x, hx, rfl⟩ := List.mem_map.mp hj
  exact h x hx

end Dump

/-! ## The handlers -/

/-- The models return for any crack and material. -/
theorem Models.predict_ok [Field R] [LinearOrder R] (models : Models R) (crack : CrackInfo R) :
    ∃ result, models.predict crack 720 100 = .ok result := by
  have hhours : (720 : Int) ≠ 0 := by decide
  have hsteps : 0 ≤ (100 : Int) := by decide
  obtain ⟨t, level, c, h, -⟩ := Algorithms.predict_ok models.math .default crack hhours hsteps
  exact ⟨_, h⟩

theorem Models.simulate_ok [Field R] [LinearOrder R] (models : Models R) (crack : CrackInfo R)
    (material : RepairMaterial R) : ∃ result, models.simulate crack material = .ok result := by
  rw [simulate, Algorithms.DEMObject.run, if_neg (by decide)]
  exact ⟨_, rfl⟩

theorem returns_ofExcept {α : Type} {x : Except Failure α} (h : ∃ a, x = .ok a) :
    Returns (Comp.ofExcept x : Comp Failure σ α) fun _ => True := by
  obtain ⟨a, rfl⟩ := h
  exact .pure trivial

/-- A handler that reads one id. -/
theorem answered_one {α : Type} {post : α → Prop} {name : String} {n : Nat} {w : Text}
    {f : Int → Comp Failure σ α} (s : σ) (hw : IsDigits w) (hf : ∀ id, Returns (f id) post) :
    Answered (Comp.ofExcept (readInteger name (2 ^ n) w) >>= f) s ↔
      ∀ id ∈ [w], digitsValue id < 2 ^ n := by
  rw [answered_readInteger hw, List.forall_mem_singleton]
  exact and_iff_left (answered_of_returns (hf _) s)

section Handlers

variable [Field R] [LinearOrder R] {models : Models R} {db : Manager R σ}
  {serialize : Comp Failure σ Text} {files : Text → Option (List UInt8)} {unset : Unset R}

theorem returns_crackRows (hdb : db.Returns) (cracks : List (CrackInfo R)) :
    Returns ((models.server db serialize files unset).crackRows cracks) fun rows =>
      ∀ row ∈ rows, row.validUtf8 = true := by
  induction cracks with
  | nil => exact .pure fun _ hrow => by cases hrow
  | cons c cracks ih =>
      refine .bind (hdb.getCrackPoints _) fun points _ => .bind ih fun rows hrows => .pure ?_
      exact List.forall_mem_cons.mpr ⟨crackJson_validUtf8 c points, hrows⟩

theorem answered_predictCrack (hdb : db.Returns) (s : σ) {w : Text} (hw : IsDigits w) :
    Answered ((models.server db serialize files unset).predictCrack [w]) s ↔
      ∀ id ∈ [w], digitsValue id < 2 ^ 31 := by
  refine answered_one s hw fun crackId => (?_ : Returns _ fun _ => True)
  refine .bind (hdb.getCrack _) fun crack _ => .bind (hdb.getCrackPoints _) fun points _ => ?_
  refine .bind (returns_ofExcept (models.predict_ok _)) fun result _ => ?_
  exact .bind (hdb.insertPrediction _ (resultParameters_validUtf8 result)) fun _ _ =>
    returns_jsonResponse (resultToJson_validUtf8 _)

/-- The second id is read only if the first one fits. -/
theorem answered_simulateRepair (hdb : db.Returns) (s : σ) {w w' : Text} (hw : IsDigits w)
    (hw' : IsDigits w') :
    Answered ((models.server db serialize files unset).simulateRepair [w, w']) s ↔
      ∀ id ∈ [w, w'], digitsValue id < 2 ^ 31 := by
  rw [List.forall_mem_cons]
  refine (answered_readInteger hw).trans (and_congr_right fun _ => ?_)
  refine answered_one s hw' fun materialId => (?_ : Returns _ fun _ => True)
  refine .bind (hdb.getCrack _) fun crack _ => .bind (hdb.getCrackPoints _) fun points _ => ?_
  refine .bind hdb.getRepairMaterials fun materials _ => ?_
  refine .bind (returns_ofExcept (models.simulate_ok _ _)) fun result _ => ?_
  have hparameters := demParameters_validUtf8 result
  exact .bind (hdb.insertSimulation _ hparameters (demJson_validUtf8 result)) fun _ _ =>
    returns_jsonResponse (demJson_validUtf8 _)

/-- A handler returns exactly if its ids fit. -/
theorem answered_call_iff (hdb : db.Returns) {h : Handler} {captures : List Text} (s : σ)
    (hmetrics : h ≠ .metrics) (hlength : captures.length = h.arity)
    (hdigits : ∀ w ∈ captures, IsDigits w) :
    Answered ((models.server db serialize files unset).call captures h) s ↔
      ∀ id ∈ captures, digitsValue id < h.limit := by
  have hnone : ∀ {x : Comp Failure σ (Response R)}, captures.length = 0 →
      Returns x (fun _ => True) →
      (Answered x s ↔ ∀ id ∈ captures, digitsValue id < h.limit) := by
    intro x hempty hx
    rw [List.eq_nil_of_length_eq_zero hempty]
    exact iff_of_true (answered_of_returns hx s) fun _ hid => by cases hid
  have hone : h.arity = 1 → ∃ w, captures = [w] ∧ IsDigits w := by
    intro harity
    obtain ⟨w, rfl⟩ := List.length_eq_one_iff.mp (hlength.trans harity)
    exact ⟨w, rfl, hdigits w List.mem_cons_self⟩
  cases h with
  | metrics => exact absurd rfl hmetrics
  | porcelains =>
      exact hnone hlength (.bind hdb.getAllPorcelains fun _ hjson =>
        returns_jsonArray fun p hp => porcelainJson_validUtf8 (hjson p hp))
  | porcelain =>
      obtain ⟨w, rfl, hw⟩ := hone rfl
      exact answered_one s hw fun id => .bind (hdb.getPorcelain id) fun _ hjson =>
        returns_jsonResponse (porcelainJson_validUtf8 hjson)
  | cracks =>
      obtain ⟨w, rfl, hw⟩ := hone rfl
      exact answered_one s hw fun id => .bind (hdb.getCracksByPorcelain id) fun _ _ =>
        .bind (returns_crackRows hdb _) fun _ hrows =>
          returns_jsonResponse (Json.validUtf8_arr.mpr hrows)
  | points =>
      obtain ⟨w, rfl, hw⟩ := hone rfl
      exact answered_one s hw fun id => .bind (hdb.getCrackPoints id) fun _ _ =>
        returns_jsonArray fun pt _ => pointJson_validUtf8 pt
  | predict =>
      obtain ⟨w, rfl, hw⟩ := hone rfl
      exact answered_predictCrack hdb s hw
  | simulate =>
      obtain ⟨w, w', rfl⟩ := List.length_eq_two.mp hlength
      have hw := hdigits w List.mem_cons_self
      have hw' := hdigits w' (List.mem_cons_of_mem _ List.mem_cons_self)
      exact answered_simulateRepair hdb s hw hw'
  | alerts =>
      exact hnone hlength (.bind hdb.getActiveAlerts fun _ _ =>
        returns_jsonArray fun a _ => alertJson_validUtf8 a)
  | acknowledge =>
      obtain ⟨w, rfl, hw⟩ := hone rfl
      exact answered_one s hw fun id => .bind (hdb.updateAlertStatus id _) fun _ _ =>
        returns_jsonResponse (by simp)
  | materials =>
      exact hnone hlength (.bind hdb.getRepairMaterials fun _ hjson =>
        returns_jsonArray fun m hm => materialJson_validUtf8 (hjson m hm))
  | laserData =>
      obtain ⟨w, rfl, hw⟩ := hone rfl
      exact answered_one s hw fun id => .bind (hdb.getLaserData id 24) fun _ _ =>
        returns_jsonArray fun d _ => laserJson_validUtf8 d

end Handlers

/-! ## Routes -/

section Routes

variable {req : Request} {route : TableRoute Handler} {captures : List Text}

/-- The table of the server. -/
def serverTable : RouteTable Handler := routes.map Route.entry

/-- A route has a group for each id of its handler. -/
theorem routes_groups : ∀ route ∈ routes,
    TextPattern.groups route.pattern = route.handler.arity ∧
      ∀ l, .run l ∈ route.pattern → l = Char.isDigit := by
  simp [routes, registerApiRoutes, metricsRoute, Route.r1, Route.r2, Route.r3, Route.r4, Route.r5,
    Route.r6, Route.r7, Route.r8, Route.r9, Route.r10, lit, digits, TextPattern.groups,
    Handler.arity]

theorem routes_metrics : ∀ route ∈ routes, route.handler = .metrics →
    route.pattern = [lit "/metrics"] := by
  simp [routes, registerApiRoutes, metricsRoute, Route.r1, Route.r2, Route.r3, Route.r4, Route.r5,
    Route.r6, Route.r7, Route.r8, Route.r9, Route.r10]

/-- The first route is one of the server, and its pattern matches. -/
theorem First.matches (h : RouteTable.First serverTable req route captures) :
    ∃ r ∈ routes, route = r.entry ∧ TextPattern.Matches r.pattern req.target captures := by
  obtain ⟨before, after, htable, -⟩ := h.first
  have hmem : route ∈ serverTable := by
    rw [htable]
    simp
  obtain ⟨r, hr, rfl⟩ := List.mem_map.mp hmem
  refine ⟨r, hr, rfl, TextPattern.matchAll_sound ?_⟩
  have htake : r.take req = some captures := h.takes
  rw [Route.take] at htake
  split at htake
  · next found hfound =>
      split at htake
      · cases htake
        exact hfound
      · cases htake
  · cases htake

theorem First.digits (h : RouteTable.First serverTable req route captures) :
    captures.length = route.handler.arity ∧ ∀ w ∈ captures, IsDigits w := by
  obtain ⟨r, hr, rfl, hmatches⟩ := First.matches h
  obtain ⟨hgroups, hruns⟩ := routes_groups r hr
  exact ⟨hmatches.length.trans hgroups, hmatches.letters hruns⟩

/-- The handler of the first route is chosen. -/
theorem routeRequest_of_first (h : RouteTable.First serverTable req route captures)
    (hapi : "/api/".toList <+: req.target) :
    routeRequest req = .handler route.handler captures := by
  have hdispatch : RouteTable.dispatch req (routes.map Route.entry) =
      .handler route.handler captures := h.dispatch
  rw [routeRequest_entries, RouteTable.routeRequest_api hapi, hdispatch]
  rfl

/-- A request that is handled is under `/api/` and has a first route. -/
theorem first_of_handler {h : Handler} (hroute : routeRequest req = .handler h captures) :
    "/api/".toList <+: req.target ∧
      ∃ route, RouteTable.First serverTable req route captures ∧ route.handler = h := by
  have hapi : "/api/".toList <+: req.target := by
    by_contra hapi
    have hfile : ∃ path, RouteTable.routeRequest (routes.map Route.entry) req = .file path :=
      RouteTable.routeRequest_file hapi
    obtain ⟨path, hfile⟩ := hfile
    rw [routeRequest_entries, hfile] at hroute
    cases hroute
  refine ⟨hapi, ?_⟩
  by_cases hfirst : ∃ route captures, RouteTable.First serverTable req route captures
  · obtain ⟨route, captures', hfirst⟩ := hfirst
    cases hroute.symm.trans (routeRequest_of_first hfirst hapi)
    exact ⟨route, hfirst, rfl⟩
  · have herror : RouteTable.dispatch req (routes.map Route.entry) =
        .error 404 "API endpoint not found" := RouteTable.dispatch_error hfirst
    rw [routeRequest_entries, RouteTable.routeRequest_api hapi, herror] at hroute
    cases hroute

/-- `/metrics` is not under `/api/`. -/
theorem First.not_metrics (h : RouteTable.First serverTable req route captures)
    (hapi : "/api/".toList <+: req.target) : route.handler ≠ .metrics := by
  intro hmetrics
  obtain ⟨r, hr, rfl, hmatches⟩ := First.matches h
  rw [routes_metrics r hr hmetrics] at hmatches
  obtain ⟨rest, htarget, -⟩ := TextPattern.matches_literal.mp ⟨captures, hmatches⟩
  rw [htarget] at hapi
  revert hapi
  simp

end Routes

/-- Every id of the first route that takes the request is below the limit of its
handler. -/
def IdsFit (req : Request) : Prop :=
  ∀ route captures, RouteTable.First serverTable req route captures →
    ∀ id ∈ captures, digitsValue id < route.handler.limit

/-- If the calls of the database return, a request is answered exactly if it is not
for the table or its ids fit. -/
theorem answered_iff [Field R] [LinearOrder R] (models : Models R) {db : Manager R σ}
    (hdb : db.Returns) (serialize : Comp Failure σ Text) (files : Text → Option (List UInt8))
    (unset : Unset R) (req : Request) (s : σ) :
    Answered ((models.server db serialize files unset).routeRequest req) s ↔
      ("/api/".toList <+: req.target → IdsFit req) := by
  rw [Server.routeRequest]
  cases hroute : routeRequest req with
  | file path =>
      exact iff_of_true ⟨_, s, rfl⟩ fun hapi => absurd hroute (not_file_of_api hapi path)
  | handler h captures =>
      obtain ⟨hapi, route, hfirst, rfl⟩ := first_of_handler hroute
      obtain ⟨hlength, hdigits⟩ := First.digits hfirst
      refine (answered_call_iff hdb s (First.not_metrics hfirst hapi) hlength hdigits).trans ?_
      refine ⟨fun hfit _ route' captures' hfirst' => ?_, fun hfit => hfit hapi _ _ hfirst⟩
      have hsame := hroute.symm.trans (routeRequest_of_first hfirst' hapi)
      obtain ⟨hhandler, rfl⟩ := Answer.handler.inj hsame
      rw [← hhandler]
      exact hfit
  | error status message =>
      refine iff_of_true (answered_errorResponse status _ s) fun hapi route captures hfirst => ?_
      cases hroute.symm.trans (routeRequest_of_first hfirst hapi)

def plainModels : Models ℚ where
  math := Algorithms.plainMath
  cfg := Settings.DEM.default
  unsetGeometry := ⟨0, 0, 0, 0⟩
  unsetMaterialId := 0
  candidates _ := ⟨0, 0⟩
  draws _ _ := 0

/-- A reading that takes every JSON text for `null`. -/
def nullReading : Database.Reading ℚ := ⟨fun _ => 0, fun _ => some .null, false⟩

theorem parses_nullReading : Parses nullReading := fun _ => ⟨.null, rfl, rfl⟩

def plainDatabase : Manager ℚ (Database.Store ℚ) :=
  .ofStore (.stable (fun _ => "") (fun _ => "") (fun _ => "") fun _ => "") 0 nullReading
    fun _ _ _ => []

theorem returns_plainDatabase : plainDatabase.Returns :=
  Manager.returns_ofStore _ 0 parses_nullReading _

def plainServer : Server ℚ (Database.Store ℚ) :=
  plainModels.server plainDatabase (pure []) (fun _ => none)
    ⟨0, 0, .zirconia, "", "", 0, 0, 0, 0, 0, .null⟩

/-- The id of a porcelain, which fits. -/
theorem answered_iff_porcelain :
    Answered (plainServer.routeRequest ⟨.get, "/api/porcelains/1".toList, []⟩) .empty ↔
      ("/api/".toList <+: "/api/porcelains/1".toList →
        IdsFit ⟨.get, "/api/porcelains/1".toList, []⟩) :=
  answered_iff plainModels returns_plainDatabase _ _ _ _ _

def longId : Text := List.replicate 11 '9'

/-- The id of `GET /api/porcelains/99999999999` is no `int`, and the request is left
without an answer. -/
theorem longId_is_not_answered :
    ¬ ∀ (models : Models ℚ) (db : Manager ℚ (Database.Store ℚ)), db.Returns →
      ∀ (serialize : Comp Failure (Database.Store ℚ) Text)
        (files : Text → Option (List UInt8)) (unset : Unset ℚ) (req : Request)
        (s : Database.Store ℚ),
        Answered ((models.server db serialize files unset).routeRequest req) s := by
  intro h
  have hanswered := h plainModels plainDatabase returns_plainDatabase (pure []) (fun _ => none)
    plainServer.unset ⟨.get, "/api/porcelains/".toList ++ longId, []⟩ .empty
  have hroute : routeRequest ⟨.get, "/api/porcelains/".toList ++ longId, []⟩ =
      .handler .porcelain [longId] := rfl
  rw [Server.routeRequest, hroute] at hanswered
  have hdigits : ∀ w ∈ [longId], IsDigits w := by
    rw [List.forall_mem_singleton]
    refine ⟨by simp [longId], fun c hc => ?_⟩
    rw [List.eq_of_mem_replicate hc]
    rfl
  have hmetrics : Handler.porcelain ≠ .metrics := by simp
  have hcall : Answered ((plainModels.server plainDatabase (pure []) (fun _ => none)
      plainServer.unset).call [longId] .porcelain) .empty ↔
        ∀ id ∈ [longId], digitsValue id < Handler.limit .porcelain :=
    answered_call_iff returns_plainDatabase .empty hmetrics rfl hdigits
  have hlarge : ¬ digitsValue longId < Handler.limit .porcelain := by decide
  exact hlarge (hcall.mp hanswered longId List.mem_cons_self)

end PorcelainMonitor.Http
