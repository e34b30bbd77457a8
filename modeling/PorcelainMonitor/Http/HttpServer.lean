import PorcelainMonitor.Lib.TextPattern

/-!
# `HttpServer`

The route table of `register_api_routes` and the choice that `route_request`
makes: a request is answered by a file, by a handler with its captures, or by an
error.  What the handlers do with it is in `Handlers.lean`.
-/

namespace PorcelainMonitor.Http

open TextPattern (Piece)

abbrev Text := List Char

/-- The verbs that routes and clients use, and the rest by name. -/
inductive Verb where
  | get
  | post
  | put
  | other (name : String)
deriving DecidableEq, Repr

structure Request where
  method : Verb
  target : Text
  /-- The fields of the JSON body, empty without one. -/
  body : List (String × Text)

/-- The handlers, by what they serve. -/
inductive Handler where
  | metrics
  | porcelains
  | porcelain
  | cracks
  | points
  | predict
  | simulate
  | alerts
  | acknowledge
  | materials
  | laserData
deriving DecidableEq, Repr

structure Route where
  pattern : List (Piece Char)
  method : Verb
  handler : Handler

/-! ## The route table -/

/-- A literal of a route's regular expression. -/
def lit (text : String) : Piece Char := .literal text.toList

/-- The group `(\d+)` of a route's regular expression. -/
def digits : Piece Char := .run Char.isDigit

namespace Route

def r1 : Route := ⟨[lit "/api/porcelains"], .get, .porcelains⟩

def r2 : Route := ⟨[lit "/api/porcelains/", digits], .get, .porcelain⟩

def r3 : Route := ⟨[lit "/api/porcelains/", digits, lit "/cracks"], .get, .cracks⟩

def r4 : Route := ⟨[lit "/api/cracks/", digits, lit "/points"], .get, .points⟩

def r5 : Route := ⟨[lit "/api/cracks/", digits, lit "/predict"], .post, .predict⟩

def r6 : Route := ⟨[lit "/api/cracks/", digits, lit "/simulate/", digits], .post, .simulate⟩

def r7 : Route := ⟨[lit "/api/alerts"], .get, .alerts⟩

def r8 : Route := ⟨[lit "/api/alerts/", digits, lit "/acknowledge"], .post, .acknowledge⟩

def r9 : Route := ⟨[lit "/api/materials"], .get, .materials⟩

def r10 : Route := ⟨[lit "/api/porcelains/", digits, lit "/laser-data"], .get, .laserData⟩

end Route

/-- The route that `main` adds before it starts the server. -/
def metricsRoute : Route := ⟨[lit "/metrics"], .get, .metrics⟩

/-- `register_api_routes` appends its routes to those added before. -/
def registerApiRoutes (routes : List Route) : List Route :=
  routes ++ [.r1, .r2, .r3, .r4, .r5, .r6, .r7, .r8, .r9, .r10]

/-- `routes_` once the server runs. -/
def routes : List Route := registerApiRoutes [metricsRoute]

/-! ## The choice of a handler -/

inductive Answer where
  /-- `serve_file` -/
  | file (path : Text)
  | handler (handler : Handler) (captures : List Text)
  /-- `error_response` -/
  | error (status : Nat) (message : String)
deriving DecidableEq

/-- The captures of a route, if it takes the request. -/
def Route.take (route : Route) (req : Request) : Option (List Text) :=
  match TextPattern.matchAll route.pattern req.target with
  | some captures => if req.method = route.method then some captures else none
  | none => none

/-- The first route of a table that takes the request. -/
def dispatch (req : Request) : List Route → Answer
  | [] => .error 404 "API endpoint not found"
  | route :: routes =>
      match route.take req with
      | some captures => .handler route.handler captures
      | none => dispatch req routes

def routeRequest (req : Request) : Answer :=
  if req.target = "/".toList ∨ req.target = "/index.html".toList then .file "/index.html".toList
  else if "/api/".toList <+: req.target then dispatch req routes
  else .file req.target

/-! ## Dispatched requests -/

/-- A handler answers the request. -/
def Dispatched (req : Request) : Prop := ∃ h captures, routeRequest req = .handler h captures

theorem Route.take_some_iff {route : Route} {req : Request} :
    (∃ captures, route.take req = some captures) ↔
      req.method = route.method ∧
        ∃ captures, TextPattern.Matches route.pattern req.target captures := by
  rw [← TextPattern.matchAll_some_iff, Route.take]
  cases TextPattern.matchAll route.pattern req.target with
  | none => simp
  | some captures =>
      by_cases h : req.method = route.method
      · simp [h]
      · simp [h]

theorem dispatch_handler_iff {req : Request} {table : List Route} :
    (∃ h captures, dispatch req table = .handler h captures) ↔
      ∃ route ∈ table, ∃ captures, route.take req = some captures := by
  induction table with
  | nil => simp [dispatch]
  | cons route table ih =>
      cases htake : route.take req with
      | some captures => simp [dispatch, htake]
      | none => simp [dispatch, htake, ih]

/-- A request is dispatched exactly if its target is under `/api/` and a route
has its verb and matches its target. -/
theorem dispatched_iff_route {req : Request} :
    Dispatched req ↔ "/api/".toList <+: req.target ∧ ∃ route ∈ routes,
      req.method = route.method ∧
        ∃ captures, TextPattern.Matches route.pattern req.target captures := by
  have hroute : (∃ h captures, dispatch req routes = .handler h captures) ↔ ∃ route ∈ routes,
      req.method = route.method ∧
        ∃ captures, TextPattern.Matches route.pattern req.target captures := by
    rw [dispatch_handler_iff]
    exact exists_congr fun route => and_congr_right fun _ => Route.take_some_iff
  rw [Dispatched, routeRequest, ← hroute]
  split
  · next hfile =>
      have hno : ¬ "/api/".toList <+: req.target := by
        rcases hfile with h | h
        · rw [h]
          decide
        · rw [h]
          decide
      exact iff_of_false (fun ⟨_, _, h⟩ => by cases h) fun h => hno h.1
  · split
    · next hapi => exact (and_iff_right hapi).symm
    · next hapi => exact iff_of_false (fun ⟨_, _, h⟩ => by cases h) fun h => hapi h.1

theorem dispatch_cases (req : Request) (table : List Route) :
    (∃ h captures, dispatch req table = .handler h captures) ∨
      dispatch req table = .error 404 "API endpoint not found" := by
  induction table with
  | nil => exact .inr rfl
  | cons route table ih =>
      rw [dispatch]
      cases route.take req with
      | some captures => exact .inl ⟨_, _, rfl⟩
      | none => exact ih

/-- A request under `/api/` that no handler answers is an error. -/
theorem error_of_not_dispatched {req : Request} (hapi : "/api/".toList <+: req.target)
    (h : ¬ Dispatched req) : routeRequest req = .error 404 "API endpoint not found" := by
  have hfile : ¬ (req.target = "/".toList ∨ req.target = "/index.html".toList) := by
    rintro (hf | hf)
    · rw [hf] at hapi
      revert hapi
      decide
    · rw [hf] at hapi
      revert hapi
      decide
  rw [Dispatched, routeRequest, if_neg hfile, if_pos hapi] at h
  rw [routeRequest, if_neg hfile, if_pos hapi]
  exact (dispatch_cases req routes).resolve_left h

end PorcelainMonitor.Http
