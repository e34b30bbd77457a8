import PorcelainMonitor.Http.HttpServer
import PorcelainMonitor.Lib.PathResolution

/-!
# The document root

`serve_file` opens the document root with the target behind it, as it came.  So the
target can climb out of the document root, and one that does not begin with a slash
changes its name.
-/

namespace PorcelainMonitor.Http

open PathResolution

/-- What `main` passes for the document root. -/
def docRoot : Text := "../frontend".toList

/-- The path that `serve_file` opens. -/
def fullPath (path : Text) : Text := docRoot ++ path

/-- Whatever is served as a file is below the document root. -/
def ServedInside (cwd : List Text) (req : Request) : Prop :=
  ∀ path, routeRequest req = .file path → resolve cwd docRoot <+: resolve cwd (fullPath path)

/-- The steps of a target after its first segment. -/
def later (target : Text) : List (Step Text) := (segments target).tail.map step

/-- The target begins with a slash, or climbs after its first segment.  What it
climbs from the document root it leads back down. -/
structure LeadsBack (cwd : List Text) (target : Text) : Prop where
  start : (segments target).headD [] = [] ∨ (net (later target)).up ≠ 0
  back : (resolve cwd docRoot).rtake (net (later target)).up <+: (net (later target)).down

section Paths

variable {cwd : List Text} {target : Text} {req : Request}

theorem resolve_docRoot (cwd : List Text) :
    resolve cwd docRoot = cwd.dropLast ++ ["frontend".toList] := rfl

/-- The first segment is added to the name of the document root. -/
theorem resolve_fullPath (cwd : List Text) (target : Text) :
    resolve cwd (fullPath target) =
      walk (cwd.dropLast ++ ["frontend".toList ++ (segments target).headD []]) (later target) := by
  obtain ⟨first, rest, hsegments⟩ := List.exists_cons_of_ne_nil (segments_ne_nil target)
  have hsplit : segments (fullPath target) =
      "..".toList :: ("frontend".toList ++ first) :: rest := by
    have hfull : fullPath target = "..".toList ++ '/' :: ("frontend".toList ++ target) := rfl
    rw [hfull, segments_append_slash, segments_append (by simp), hsegments]
    rfl
  have hstep : step ("frontend".toList ++ first) = .down ("frontend".toList ++ first) := by
    simp [step]
  have hhead : (fullPath target).head? = some '.' := rfl
  rw [resolve, hhead, steps, hsplit, List.map_cons, List.map_cons, hstep, later, hsegments]
  rfl

theorem inside_iff_leadsBack :
    resolve cwd docRoot <+: resolve cwd (fullPath target) ↔ LeadsBack cwd target := by
  rw [resolve_fullPath, resolve_docRoot]
  by_cases hfirst : (segments target).headD [] = []
  · rw [hfirst, List.append_nil, prefix_walk_iff, ← resolve_docRoot]
    exact ⟨fun h => ⟨.inl hfirst, h⟩, fun h => h.back⟩
  · rw [prefix_walk_sibling_iff (by simpa using hfirst), ← resolve_docRoot]
    exact ⟨fun h => ⟨.inr h.1, h.2⟩, fun h => ⟨h.start.resolve_left hfirst, h.back⟩⟩

theorem not_file_of_api (h : "/api/".toList <+: req.target) (path : Text) :
    routeRequest req ≠ .file path := by
  intro hfile
  by_cases hdispatched : Dispatched req
  · obtain ⟨handler, captures, hhandler⟩ := hdispatched
    cases hhandler.symm.trans hfile
  · cases (error_of_not_dispatched h hdispatched).symm.trans hfile

end Paths

/-- What is served as a file is below the document root exactly if the target leads
back down what it climbs, or is under `/api/`. -/
theorem servedInside_iff (cwd : List Text) (req : Request) :
    ServedInside cwd req ↔ "/api/".toList <+: req.target ∨ LeadsBack cwd req.target := by
  by_cases hapi : "/api/".toList <+: req.target
  · exact iff_of_true (fun path h => absurd h (not_file_of_api hapi path)) (.inl hapi)
  · rw [or_iff_right hapi]
    by_cases hindex : req.target = "/".toList ∨ req.target = "/index.html".toList
    · have hback : ∀ target, target = "/".toList ∨ target = "/index.html".toList →
          LeadsBack cwd target := by
        have hstays : ∀ target, (segments target).headD [] = [] → (net (later target)).up = 0 →
            LeadsBack cwd target := fun target hhead hup =>
          ⟨.inl hhead, by rw [hup, List.rtake_zero]; exact List.nil_prefix⟩
        rintro target (rfl | rfl)
        · exact hstays _ rfl (by decide)
        · exact hstays _ rfl (by decide)
      refine iff_of_true (fun path h => ?_) (hback req.target hindex)
      rw [routeRequest, if_pos hindex] at h
      cases h
      exact inside_iff_leadsBack.mpr (hback _ (.inr rfl))
    · rw [ServedInside, routeRequest, if_neg hindex, if_neg hapi, ← inside_iff_leadsBack]
      exact ⟨fun h => h req.target rfl, fun h path hpath => by cases hpath; exact h⟩

/-- `GET /../README.md` is answered with a file beside the document root. -/
theorem readme_is_served :
    ¬ ∀ (cwd : List Text) (req : Request), ServedInside cwd req := by
  intro h
  have hinside := h ["srv".toList, "backend".toList] ⟨.get, "/../README.md".toList, []⟩ _ rfl
  revert hinside
  decide

end PorcelainMonitor.Http
