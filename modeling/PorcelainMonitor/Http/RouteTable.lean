import PorcelainMonitor.Http.HttpServer

/-!
# Route tables

What `route_request` makes of a table that any calls of `add_route` have built,
with any patterns and handlers.  The table is looked up only for a target under
`/api/`, so elsewhere a route is never reached (`routeRequest_first_iff`).
-/

namespace PorcelainMonitor.Http

/-- An entry of `routes_`, whose handlers are of type `H`. -/
structure TableRoute (H : Type) where
  /-- What `regex_match` captures, if the whole target matches. -/
  pattern : Text → Option (List Text)
  method : Verb
  handler : H

/-- `routes_`, in the order of registration. -/
abbrev RouteTable (H : Type) := List (TableRoute H)

/-- What `route_request` does: the handler is called with the captures, and its
response is returned. -/
inductive Choice (H : Type) where
  /-- `serve_file` -/
  | file (path : Text)
  | handler (handler : H) (captures : List Text)
  /-- `error_response` -/
  | error (status : Nat) (message : String)

variable {H : Type}

/-- The captures of a route, if it takes the request. -/
def TableRoute.take (route : TableRoute H) (req : Request) : Option (List Text) :=
  match route.pattern req.target with
  | some captures => if req.method = route.method then some captures else none
  | none => none

namespace RouteTable

def addRoute (table : RouteTable H) (pattern : Text → Option (List Text)) (method : Verb)
    (handler : H) : RouteTable H :=
  table ++ [⟨pattern, method, handler⟩]

/-- Calls of `add_route` on a new server. -/
def ofCalls (calls : List (TableRoute H)) : RouteTable H :=
  calls.foldl (fun table call => table.addRoute call.pattern call.method call.handler) []

def dispatch (req : Request) : RouteTable H → Choice H
  | [] => .error 404 "API endpoint not found"
  | route :: table =>
      match route.take req with
      | some captures => .handler route.handler captures
      | none => dispatch req table

def routeRequest (table : RouteTable H) (req : Request) : Choice H :=
  if req.target = "/".toList ∨ req.target = "/index.html".toList then .file "/index.html".toList
  else if "/api/".toList <+: req.target then dispatch req table
  else .file req.target

/-! ## The first route -/

/-- The first route in the order of registration that takes the request, with its
captures. -/
structure First (table : RouteTable H) (req : Request) (route : TableRoute H)
    (captures : List Text) : Prop where
  takes : route.take req = some captures
  first : ∃ before after, table = before ++ route :: after ∧ ∀ r ∈ before, r.take req = none

variable {table : RouteTable H} {req : Request} {route : TableRoute H} {captures : List Text}

/-- The table has the routes in the order of the calls. -/
theorem ofCalls_eq (calls : List (TableRoute H)) : ofCalls calls = calls := by
  have hfold : ∀ table : RouteTable H, calls.foldl
      (fun table call => table.addRoute call.pattern call.method call.handler) table =
        table ++ calls := by
    induction calls with
    | nil => exact fun table => (List.append_nil table).symm
    | cons call calls ih =>
        intro table
        rw [List.foldl_cons, ih, addRoute, List.append_assoc]
        rfl
  exact hfold []

theorem First.head (h : route.take req = some captures) :
    First (route :: table) req route captures :=
  ⟨h, [], table, rfl, fun _ hr => by cases hr⟩

theorem First.tail {skipped : TableRoute H} (hskipped : skipped.take req = none)
    (h : First table req route captures) : First (skipped :: table) req route captures := by
  obtain ⟨before, after, rfl, hbefore⟩ := h.first
  exact ⟨h.takes, skipped :: before, after, rfl, List.forall_mem_cons.mpr ⟨hskipped, hbefore⟩⟩

/-- A table is looked up from its first route on. -/
theorem first_cons {head : TableRoute H} :
    First (head :: table) req route captures ↔
      (head = route ∧ head.take req = some captures) ∨
        (head.take req = none ∧ First table req route captures) := by
  constructor
  · rintro ⟨htakes, before, after, htable, hbefore⟩
    cases before with
    | nil =>
        cases htable
        exact .inl ⟨rfl, htakes⟩
    | cons skipped before =>
        cases htable
        obtain ⟨hskipped, hbefore⟩ := List.forall_mem_cons.mp hbefore
        exact .inr ⟨hskipped, htakes, before, after, rfl, hbefore⟩
  · rintro (⟨rfl, htakes⟩ | ⟨hskipped, hfirst⟩)
    · exact .head htakes
    · exact hfirst.tail hskipped

/-- A lookup finds the first route. -/
theorem First.dispatch (h : First table req route captures) :
    dispatch req table = .handler route.handler captures := by
  induction table with
  | nil =>
      obtain ⟨before, after, htable, -⟩ := h.first
      cases before <;> cases htable
  | cons head table ih =>
      rw [RouteTable.dispatch]
      rcases first_cons.mp h with ⟨rfl, htakes⟩ | ⟨hskipped, hfirst⟩
      · rw [htakes]
      · rw [hskipped]
        exact ih hfirst

/-- There is a first route if any route takes the request. -/
theorem exists_first : (∃ route captures, First table req route captures) ↔
    ∃ route ∈ table, route.take req ≠ none := by
  induction table with
  | nil =>
      refine iff_of_false (fun ⟨route, captures, h⟩ => ?_) (by simp)
      obtain ⟨before, after, htable, -⟩ := h.first
      cases before <;> cases htable
  | cons head table ih =>
      rw [List.exists_mem_cons_iff]
      cases htake : head.take req with
      | some captures => exact iff_of_true ⟨head, captures, .head htake⟩ (.inl (by simp))
      | none =>
          rw [or_iff_right (by simp), ← ih]
          simp only [first_cons, htake, true_and, reduceCtorEq, and_false, false_or]

/-- Without a first route the lookup ends in an error. -/
theorem dispatch_error (h : ¬ ∃ route captures, First table req route captures) :
    dispatch req table = .error 404 "API endpoint not found" := by
  rw [exists_first] at h
  induction table with
  | nil => rfl
  | cons head table ih =>
      rw [List.exists_mem_cons_iff, not_or, not_not] at h
      rw [RouteTable.dispatch, h.1]
      exact ih h.2

/-- No route is reached outside `/api/`. -/
theorem routeRequest_file (h : ¬ "/api/".toList <+: req.target) :
    ∃ path, routeRequest table req = .file path := by
  rw [routeRequest, if_neg h]
  split
  · exact ⟨_, rfl⟩
  · exact ⟨_, rfl⟩

theorem routeRequest_api (h : "/api/".toList <+: req.target) :
    routeRequest table req = dispatch req table := by
  rw [routeRequest, if_neg, if_pos h]
  rintro (htarget | htarget)
  · rw [htarget] at h
    revert h
    decide
  · rw [htarget] at h
    revert h
    decide


end RouteTable

/-! ## The table of the server -/

/-- A route of the server, with its pattern matched as `regex_match` does. -/
def Route.entry (route : Route) : TableRoute Handler :=
  ⟨TextPattern.matchAll route.pattern, route.method, route.handler⟩

def Choice.answer : Choice Handler → Answer
  | .file path => .file path
  | .handler h captures => .handler h captures
  | .error status message => .error status message

theorem dispatch_entries (req : Request) (table : List Route) :
    dispatch req table = (RouteTable.dispatch req (table.map Route.entry)).answer := by
  induction table with
  | nil => rfl
  | cons route table ih =>
      have htake : route.entry.take req = route.take req := rfl
      rw [dispatch, List.map_cons, RouteTable.dispatch, htake]
      cases route.take req with
      | some captures => rfl
      | none => exact ih

/-- The server does what a table with its routes does. -/
theorem routeRequest_entries (req : Request) :
    routeRequest req = (RouteTable.routeRequest (routes.map Route.entry) req).answer := by
  rw [routeRequest, RouteTable.routeRequest, dispatch_entries]
  split_ifs <;> rfl

/-- The first route that takes a request answers it exactly if the target is under
`/api/`, unless there is no such route. -/
theorem routeRequest_first_iff (calls : List (TableRoute H)) (req : Request) :
    (∀ route captures, RouteTable.First (.ofCalls calls) req route captures →
        RouteTable.routeRequest (.ofCalls calls) req = .handler route.handler captures) ↔
      "/api/".toList <+: req.target ∨ ∀ route ∈ calls, route.take req = none := by
  rw [RouteTable.ofCalls_eq]
  by_cases hapi : "/api/".toList <+: req.target
  · refine iff_of_true (fun route captures h => ?_) (.inl hapi)
    rw [RouteTable.routeRequest_api hapi]
    exact h.dispatch
  · rw [or_iff_right hapi]
    constructor
    · intro h
      by_contra hsome
      obtain ⟨route, captures, hfirst⟩ := RouteTable.exists_first.mpr (by simpa using hsome)
      obtain ⟨path, hfile⟩ := RouteTable.routeRequest_file hapi
      cases hfile.symm.trans (h route captures hfirst)
    · intro hnone route captures h
      obtain ⟨before, after, rfl, -⟩ := h.first
      cases h.takes.symm.trans (hnone route (by simp))

/-- `GET /metrics` is looked up as a file, although its route is the first one. -/
theorem metrics_is_not_reached :
    ¬ ∀ (calls : List (TableRoute Handler)) (req : Request) (route : TableRoute Handler)
        (captures : List Text), RouteTable.First (.ofCalls calls) req route captures →
      RouteTable.routeRequest (.ofCalls calls) req = .handler route.handler captures := by
  intro h
  have hfirst : RouteTable.First (.ofCalls (routes.map Route.entry))
      ⟨.get, "/metrics".toList, []⟩ metricsRoute.entry [] := .head rfl
  cases h _ _ _ _ hfirst

end PorcelainMonitor.Http
