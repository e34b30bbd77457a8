import PorcelainMonitor.Http.Agreement
import PorcelainMonitor.Http.AlertLife

/-!
# What the pages leave in the tables

The two calls of the client that are posted, `predictCrack` and `simulateRepair`, have a
query string, so no route takes them, and no route takes the status of an alert by `PUT`.
The other requests of a page are no `POST`.  So a page leaves the tables as they are,
whatever its user asks for (`page_keeps`).

Then only the modules write, and they change no row that is there: an alert that a user
confirms on the page is pending as before (`pages_write_nothing`).
-/

namespace PorcelainMonitor.Database

variable {R : Type}

/-- The call changes no row. -/
def Call.ChangesNone : Call R → Prop
  | .query (.update _ _ _) => False
  | _ => True

theorem Call.admits_changesNone : Call.Admits (R := R) Call.ChangesNone :=
  ⟨trivial, fun _ => trivial, fun _ _ _ _ _ => trivial, fun _ _ _ _ => trivial⟩

/-- Such calls leave every row in its place. -/
theorem keptBy_rows (out : Output R) (rows : Rows R) :
    KeptBy out Call.ChangesNone fun rows' _ => ∀ table, rows table <+: rows' table where
  later h _ := h
  run := by
    intro s q now hq h table
    cases q with
    | insert other values returning =>
        by_cases htable : table = other
        · subst htable
          rw [Store.run]
          split
          · rw [Store.add_rows, Function.update_self]
            exact (h table).trans (List.prefix_append _ _)
          · exact h table
        · rw [run_insert_rows_of_ne out now htable]
          exact h table
    | select columns source condition order limit => exact h table
    | update other values id => exact hq.elim

end PorcelainMonitor.Database

namespace PorcelainMonitor.Http

open Database

/-! ## The requests of a page -/

/-- What a browser sends for a page: a call of the client, perhaps after a preflight, or a
request for a file. -/
inductive PageRequest where
  | call (call : Call)
  | preflight (target : Text)
  | file (target : Text)

def PageRequest.request : PageRequest → Request
  | .call c => c.request
  | .preflight target => ⟨.other "OPTIONS", target, []⟩
  | .file target => ⟨.get, target, []⟩

variable {R : Type}

/-- A request of some page, or anything else that reaches the tables. -/
inductive SiteEvent (R : Type) where
  | page (now : Int) (req : PageRequest)
  | other (e : SystemEvent R)

namespace SiteEvent

def event : SiteEvent R → SystemEvent R
  | .page now req => .request now req.request
  | .other e => e

/-- What is left without the pages. -/
def other? : SiteEvent R → Option (SystemEvent R)
  | .page _ _ => none
  | .other e => some e

/-- The event is of a page or of the modules.  These do not call `update_alert_status`. -/
def OfModules : SiteEvent R → Prop
  | .page _ _ => True
  | .other (.request _ _) => False
  | .other (.attempt a) => ∀ id status, a.op ≠ .updateAlertStatus id status

end SiteEvent

/-! ## What they leave -/

theorem Call.not_dispatched_of_post {call : Call} (h : call.request.method = .post) :
    ¬ Dispatched call.request := by
  rw [Call.dispatched_iff]
  cases call with
  | getPorcelain id => cases h
  | getCrackPoints crackId => cases h
  | _ => exact id

section Installation

variable [Field R] [LinearOrder R] (inst : Installation R)

/-- What is not dispatched is a file or an error. -/
theorem keeps_of_not_dispatched {req : Request} (h : ¬ Dispatched req) (s : Store R) :
    ((inst.server.routeRequest req).run s).2 = s := by
  have hwrites := (request_writes inst s req).1
  cases hroute : routeRequest req with
  | handler handler captures => exact absurd ⟨handler, captures, hroute⟩ h
  | file path =>
      rw [hroute] at hwrites
      exact hwrites
  | error status message =>
      rw [hroute] at hwrites
      exact hwrites

theorem page_keeps (req : PageRequest) (s : Store R) :
    ((inst.server.routeRequest req.request).run s).2 = s := by
  have hverb : req.request.method ≠ .post →
      ((inst.server.routeRequest req.request).run s).2 = s :=
    (request_writes inst s req.request).2
  cases req with
  | preflight target => exact hverb fun h => by cases h
  | file target => exact hverb fun h => by cases h
  | call call =>
      by_cases hpost : call.request.method = .post
      · exact keeps_of_not_dispatched inst (Call.not_dispatched_of_post hpost) s
      · exact hverb hpost

theorem Installation.react_page (now : Int) (req : PageRequest) (s : Store R) :
    inst.react s (.request now req.request) = s :=
  page_keeps { inst with now := now } req s

theorem Installation.react_rows {e : SiteEvent R} (he : e.OfModules) (s : Store R)
    (table : String) : s.rows table <+: (inst.react s e.event).rows table := by
  cases e with
  | page now req =>
      rw [SiteEvent.event, inst.react_page]
  | other e =>
      cases e with
      | request now req => exact he.elim
      | attempt a =>
          have honly : (a.op.code inst.lib).Only Call.ChangesNone :=
            Operation.only Call.admits_changesNone inst.lib (fun _ _ => trivial)
              fun id status hop => absurd hop (he id status)
          exact Store.attempt_has (keptBy_rows inst.out s.rows) honly (fun _ => List.prefix_rfl)
            table

/-- Whatever is called on the pages, and whatever happens in between: the tables are as
they would be without the pages.  Where all the rest are operations of the modules, no row
is changed or moved. -/
theorem pages_write_nothing (s : Store R) (events : List (SiteEvent R)) :
    let t := (events.map SiteEvent.event).foldl inst.react s
    t = (events.filterMap SiteEvent.other?).foldl inst.react s ∧
      ((∀ e ∈ events, e.OfModules) → ∀ table, s.rows table <+: t.rows table) := by
  induction events generalizing s with
  | nil => exact ⟨rfl, fun _ _ => List.prefix_rfl⟩
  | cons e events ih =>
      obtain ⟨hsame, hrows⟩ := ih (inst.react s e.event)
      refine ⟨?_, fun hmodules table => ?_⟩
      · rw [List.map_cons, List.foldl_cons, hsame]
        cases e with
        | page now req =>
            rw [SiteEvent.event, inst.react_page]
            rfl
        | other e => rfl
      · obtain ⟨he, hmodules⟩ := List.forall_mem_cons.mp hmodules
        exact (inst.react_rows he s table).trans (hrows hmodules table)

end Installation

end PorcelainMonitor.Http
