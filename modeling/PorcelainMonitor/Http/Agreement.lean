import PorcelainMonitor.Http.ApiClient

/-!
# Which calls of the client the server dispatches

A route can match a target only if the two agree on the number of slashes and of
question marks, since neither is a digit.  No route has a question mark, so a
target with a query string is never dispatched.  This leaves the calls without
one, and of these only two have a route.
-/

namespace PorcelainMonitor.Http

open TextPattern

/-! ## Routes that can match -/

/-- The routes with the verb of a request and as many slashes and question marks
as its target. -/
def candidates (method : Verb) (slashes marks : Nat) : List Route :=
  routes.filter fun route => method = route.method ∧
    slashes = literalCount '/' route.pattern ∧ marks = literalCount '?' route.pattern

/-- The groups of the routes match neither slashes nor question marks. -/
theorem routes_avoid :
    ∀ route ∈ routes, Avoids '/' route.pattern = true ∧ Avoids '?' route.pattern = true := by
  decide

theorem dispatched_iff_candidate {req : Request} :
    Dispatched req ↔ "/api/".toList <+: req.target ∧
      ∃ route ∈ candidates req.method (req.target.count '/') (req.target.count '?'),
        ∃ captures, Matches route.pattern req.target captures := by
  rw [dispatched_iff_route]
  refine and_congr_right fun _ => ⟨?_, ?_⟩
  · rintro ⟨route, hmem, hmethod, captures, hmatch⟩
    obtain ⟨hslash, hmark⟩ := routes_avoid route hmem
    refine ⟨route, List.mem_filter.mpr ⟨hmem, ?_⟩, captures, hmatch⟩
    exact decide_eq_true ⟨hmethod, hmatch.count hslash, hmatch.count hmark⟩
  · rintro ⟨route, hmem, captures, hmatch⟩
    obtain ⟨hroute, hcounts⟩ := List.mem_filter.mp hmem
    exact ⟨route, hroute, (of_decide_eq_true hcounts).1, captures, hmatch⟩

/-- A request without candidates is not dispatched. -/
theorem not_dispatched_of_nil {req : Request}
    (h : candidates req.method (req.target.count '/') (req.target.count '?') = []) :
    ¬ Dispatched req := by
  rw [dispatched_iff_candidate, h]
  rintro ⟨_, route, hmem, _⟩
  cases hmem

/-- No route takes a target with a question mark. -/
theorem not_dispatched_of_mark {req : Request} (h : '?' ∈ req.target) : ¬ Dispatched req := by
  refine not_dispatched_of_nil (List.filter_eq_nil_iff.mpr fun route hmem hcounts => ?_)
  have hzero : ∀ route ∈ routes, literalCount '?' route.pattern = 0 := by decide
  have hcount := (of_decide_eq_true hcounts).2.2
  rw [hzero route hmem] at hcount
  exact List.count_eq_zero.mp hcount h

/-! ## Calls without a query -/

/-- A target without a question mark is left to the candidates with its number of
slashes. -/
theorem dispatched_iff_of_slashes {req : Request} {slashes : Nat}
    (hapi : "/api/".toList <+: req.target) (hslash : req.target.count '/' = slashes)
    (hmark : req.target.count '?' = 0) :
    Dispatched req ↔ ∃ route ∈ candidates req.method slashes 0,
      ∃ captures, Matches route.pattern req.target captures := by
  rw [dispatched_iff_candidate, hslash, hmark, and_iff_right hapi]

/-- A number fills the group `(\d+)` exactly if it is printed with digits only. -/
theorem Number.isNatural_iff (n : Number) :
    (n.text ≠ [] ∧ ∀ c ∈ n.text, Char.isDigit c = true) ↔ n.isNatural = true := by
  rw [and_iff_right n.nonempty, Number.isNatural, List.all_eq_true]

/-- A number adds neither slashes nor question marks to a text. -/
theorem Number.count_append (n : Number) (text : Text) :
    (text ++ n.text).count '/' = text.count '/' ∧ (text ++ n.text).count '?' = text.count '?' := by
  rw [List.count_append, List.count_append, n.count_slash, n.count_mark]
  exact ⟨rfl, rfl⟩

theorem getPorcelain_dispatched_iff (id : Number) :
    Dispatched (ApiClient.getPorcelain id) ↔ id.isNatural = true := by
  obtain ⟨hslash, hmark⟩ := id.count_append "/api/porcelains/".toList
  have hcandidates : candidates .get 3 0 = [.r2] := rfl
  calc Dispatched (ApiClient.getPorcelain id)
      ↔ ∃ route ∈ candidates .get 3 0, ∃ captures,
          Matches route.pattern ("/api/porcelains/".toList ++ id.text) captures :=
        dispatched_iff_of_slashes ⟨_, rfl⟩ hslash hmark
    _ ↔ ∃ captures, Matches Route.r2.pattern ("/api/porcelains/".toList ++ id.text) captures := by
        rw [hcandidates]
        simp only [List.mem_singleton, exists_eq_left]
    _ ↔ id.text ≠ [] ∧ ∀ c ∈ id.text, Char.isDigit c = true :=
        matches_literal_append.trans matches_run_end
    _ ↔ id.isNatural = true := id.isNatural_iff

/-- No route for a porcelain matches a target under `/api/cracks/`. -/
theorem porcelains_not_before_cracks (s : Text) :
    ¬ "/api/porcelains/".toList <+: "/api/cracks/".toList ++ s := by
  simp

theorem getCrackPoints_dispatched_iff (crackId : Number) :
    Dispatched (ApiClient.getCrackPoints crackId) ↔ crackId.isNatural = true := by
  obtain ⟨hslash, hmark⟩ := crackId.count_append "/api/cracks/".toList
  have hcandidates : candidates .get 4 0 = [.r3, .r4, .r10] := rfl
  let points : Text := crackId.text ++ "/points".toList
  have hslash' : ("/api/cracks/".toList ++ points).count '/' = 4 := by
    rw [← List.append_assoc, List.count_append, hslash]
    rfl
  have hmark' : ("/api/cracks/".toList ++ points).count '?' = 0 := by
    rw [← List.append_assoc, List.count_append, hmark]
    rfl
  have hporcelains : ∀ pieces, ¬ ∃ captures,
      Matches (lit "/api/porcelains/" :: pieces) ("/api/cracks/".toList ++ points) captures :=
    fun _ => not_matches_literal (porcelains_not_before_cracks points)
  calc Dispatched (ApiClient.getCrackPoints crackId)
      ↔ ∃ route ∈ candidates .get 4 0, ∃ captures,
          Matches route.pattern ("/api/cracks/".toList ++ points) captures :=
        dispatched_iff_of_slashes ⟨_, rfl⟩ hslash' hmark'
    _ ↔ ∃ captures, Matches Route.r4.pattern ("/api/cracks/".toList ++ points) captures := by
        rw [hcandidates]
        constructor
        · rintro ⟨route, hmem, hmatch⟩
          rcases List.mem_cons.mp hmem with rfl | hmem
          · exact absurd hmatch (hporcelains _)
          · rcases List.mem_cons.mp hmem with rfl | hmem
            · exact hmatch
            · rw [List.mem_singleton.mp hmem] at hmatch
              exact absurd hmatch (hporcelains _)
        · exact fun hmatch => ⟨.r4, List.mem_cons_of_mem _ List.mem_cons_self, hmatch⟩
    _ ↔ crackId.text ≠ [] ∧ ∀ c ∈ crackId.text, Char.isDigit c = true :=
        matches_literal_append.trans matches_run_literal_end
    _ ↔ crackId.isNatural = true := crackId.isNatural_iff

theorem getCrack_not_dispatched (crackId : Number) : ¬ Dispatched (ApiClient.getCrack crackId) := by
  obtain ⟨hslash, hmark⟩ := crackId.count_append "/api/cracks/".toList
  have hcandidates : candidates .get 3 0 = [.r2] := rfl
  intro h
  obtain ⟨route, hmem, hmatch⟩ := (dispatched_iff_of_slashes ⟨_, rfl⟩ hslash hmark).mp h
  change route ∈ candidates .get 3 0 at hmem
  rw [hcandidates] at hmem
  rw [List.mem_singleton.mp hmem] at hmatch
  exact not_matches_literal (porcelains_not_before_cracks crackId.text) hmatch

/-- The server has no route with the verb `PUT`. -/
theorem not_dispatched_of_put {req : Request} (h : req.method = .put) : ¬ Dispatched req := by
  refine not_dispatched_of_nil (List.filter_eq_nil_iff.mpr fun route hmem hcounts => ?_)
  have hno : ∀ route ∈ routes, route.method ≠ .put := by decide
  exact hno route hmem ((of_decide_eq_true hcounts).1.symm.trans h)

theorem not_dispatched_of_error {req : Request} {status : Nat} {message : String}
    (h : routeRequest req = .error status message) : ¬ Dispatched req := by
  rintro ⟨handler, captures, hhandler⟩
  cases h.symm.trans hhandler

/-! ## The agreement -/

/-- The calls that the server dispatches. -/
def Call.Served : Call → Prop
  | .getPorcelain id => id.isNatural = true
  | .getCrackPoints crackId => crackId.isNatural = true
  | _ => False

/-- The ids of the database are natural numbers, and with these both are served. -/
theorem Call.served_ofNat (n : Nat) :
    (Call.getPorcelain (.ofNat n)).Served ∧ (Call.getCrackPoints (.ofNat n)).Served :=
  ⟨Number.isNatural_ofNat n, Number.isNatural_ofNat n⟩

/-- The calls whose target has a query string. -/
def Call.HasQuery : Call → Prop
  | .getPorcelain _ => False
  | .getCrack _ => False
  | .getCrackPoints _ => False
  | .updateAlertStatus _ _ _ => False
  | .getRepairMaterials => False
  | .getSystemStats => False
  | _ => True

theorem Call.mark_mem {call : Call} (h : call.HasQuery) : '?' ∈ call.request.target := by
  cases call with
  | getPorcelains page pageSize dynasty =>
      simp only [request, ApiClient.getPorcelains]
      split
      · simp [ApiClient.request]
      · simp [ApiClient.request]
  | getPorcelainCracks porcelainId page pageSize =>
      simp [request, ApiClient.getPorcelainCracks, ApiClient.request]
  | predictCrack crackId horizonHours =>
      simp [request, ApiClient.predictCrack, ApiClient.request]
  | simulateRepair crackId materialId particleCount steps =>
      simp [request, ApiClient.simulateRepair, ApiClient.request]
  | getAlerts status page pageSize => simp [request, ApiClient.getAlerts, ApiClient.request]
  | getLaserData porcelainId startTime endTime =>
      simp [request, ApiClient.getLaserData, ApiClient.request]
  | getVibrationData porcelainId startTime endTime =>
      simp [request, ApiClient.getVibrationData, ApiClient.request]
  | getActiveAlertsCount =>
      simp [request, ApiClient.getActiveAlertsCount, ApiClient.getAlerts, ApiClient.request]
  | _ => exact h.elim

theorem Call.dispatched_iff (call : Call) : Dispatched call.request ↔ call.Served := by
  have hquery : call.HasQuery → ¬ Dispatched call.request :=
    fun h => not_dispatched_of_mark (mark_mem h)
  cases call with
  | getPorcelain id => exact getPorcelain_dispatched_iff id
  | getCrackPoints crackId => exact getCrackPoints_dispatched_iff crackId
  | getCrack crackId => exact iff_of_false (getCrack_not_dispatched crackId) id
  | updateAlertStatus alertId status notes => exact iff_of_false (not_dispatched_of_put rfl) id
  | getRepairMaterials => exact iff_of_false (not_dispatched_of_error rfl) id
  | getSystemStats => exact iff_of_false (not_dispatched_of_error rfl) id
  | _ => exact iff_of_false (hquery trivial) id

/-- The request with a query string after its target. -/
def Request.withQuery (req : Request) (query : Text) : Request :=
  { req with target := req.target ++ '?' :: query }

/-- The server dispatches `getPorcelain` and `getCrackPoints` with an id that is
printed with digits only, and no other call.  What a route takes is an error once
it has a query string. -/
theorem dispatched_iff_served (call : Call) (req : Request) (query : Text) :
    (Dispatched call.request ↔ call.Served) ∧
      (Dispatched req →
        routeRequest (req.withQuery query) = .error 404 "API endpoint not found") := by
  refine ⟨call.dispatched_iff, fun h => ?_⟩
  have hapi : "/api/".toList <+: (req.withQuery query).target :=
    (dispatched_iff_route.mp h).1.trans (List.prefix_append _ _)
  refine error_of_not_dispatched hapi (not_dispatched_of_mark ?_)
  exact List.mem_append_right _ List.mem_cons_self

/-- The list of porcelains with its default arguments is not served, although the
route takes its target without the query string. -/
theorem getPorcelains_is_not_dispatched :
    (¬ ∀ call : Call, Dispatched call.request) ∧
      ¬ ∀ (req : Request) (query : Text) (handler : Handler) (captures : List Text),
        routeRequest req = .handler handler captures →
          ∃ captures', routeRequest (req.withQuery query) = .handler handler captures' := by
  have herror : routeRequest ApiClient.getPorcelains = .error 404 "API endpoint not found" := by
    decide
  constructor
  · intro hcalls
    obtain ⟨handler, captures, h⟩ := hcalls (.getPorcelains (.ofNat 1) (.ofNat 200) "all".toList)
    cases herror.symm.trans h
  · intro hquery
    obtain ⟨captures, h⟩ := hquery ⟨.get, "/api/porcelains".toList, []⟩
      "page=1&page_size=200".toList .porcelains [] (by decide)
    cases herror.symm.trans h

end PorcelainMonitor.Http
