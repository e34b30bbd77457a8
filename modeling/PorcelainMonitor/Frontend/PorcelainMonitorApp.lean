import PorcelainMonitor.Lib.Steps

/-!
# Selecting an object

`selectPorcelain` (`app.js`) is an asynchronous function.  It asks for the cracks of the
object, then for the points of every crack, and shows the object when all of them are
there.  Each call runs by itself between its responses, so that calls overlap, and all
of them write the same fields: `currentCracks` when the list arrives, the viewer and
the two crack selectors at the end.  None checks whether its object is still the
selected one.

A response that fails puts made-up data in its place: points for one crack, or, for
the list, five cracks, which leave `currentCracks` as it was.

A list of cracks is kept with the object for which it was fetched or made up.  The
calls on the viewer and on the elements of the page return.  `loadCracksData`, which
fills the table of the cracks tab, writes none of these fields.
-/

namespace PorcelainMonitor.Frontend

open Steps

/-! ## The page -/

section Page

variable {Porcelain Crack Points : Type}

/-- Cracks, and the object for which they were fetched or made up. -/
structure CrackList (Porcelain Crack : Type) where
  selected : Option Porcelain
  cracks : List Crack
deriving DecidableEq, Repr

/-- What arrives for the list: an array, another body, or no body that can be read. -/
inductive ListResponse (Crack : Type) where
  | cracks (cracks : List Crack)
  | other
  | failed
deriving DecidableEq, Repr

/-- What a call of `selectPorcelain` waits for. -/
inductive Stage (Crack Points : Type) where
  | list
  /-- The points of each crack, as far as they have arrived. -/
  | points (cracks : List (Crack × Option Points))
  | done
deriving DecidableEq, Repr

structure Selection (Porcelain Crack Points : Type) where
  porcelain : Porcelain
  stage : Stage Crack Points
deriving DecidableEq, Repr

structure PorcelainMonitorApp (Porcelain Crack Points : Type) where
  currentPorcelain : Option Porcelain
  currentCracks : CrackList Porcelain Crack
  /-- The arguments of the last call of `viewer.loadPorcelain`. -/
  viewer : Option (Porcelain × CrackList Porcelain Crack)
  /-- The options of both selectors. -/
  crackSelects : CrackList Porcelain Crack
  /-- The calls of `selectPorcelain` so far. -/
  selections : List (Selection Porcelain Crack Points)
deriving DecidableEq, Repr

/-- The helpers of a call: `{ ...crack, points }`, `generateMockCracks(5)` and
`generateMockCrackPoints(crack)`.  The last two draw random numbers, other ones in each
call of `selectPorcelain`. -/
structure Helpers (Crack Points : Type) where
  withPoints : Crack → Points → Crack
  mockCracks : Nat → List Crack
  mockPoints : Nat → Nat → Crack → Points

namespace PorcelainMonitorApp

def init : PorcelainMonitorApp Porcelain Crack Points where
  currentPorcelain := none
  currentCracks := ⟨none, []⟩
  viewer := none
  crackSelects := ⟨none, []⟩
  selections := []

variable (helpers : Helpers Crack Points) (app : PorcelainMonitorApp Porcelain Crack Points)

/-- `viewer.loadPorcelain` and `updateCrackSelects`, the end of a call. -/
def showCracks (k : Nat) (porcelain : Porcelain) (cracks : List Crack) :
    PorcelainMonitorApp Porcelain Crack Points :=
  { app with
    viewer := some (porcelain, ⟨some porcelain, cracks⟩)
    crackSelects := ⟨some porcelain, cracks⟩
    selections := app.selections.set k ⟨porcelain, .done⟩ }

/-- The `catch` block. -/
def showMock (k : Nat) (porcelain : Porcelain) : PorcelainMonitorApp Porcelain Crack Points :=
  app.showCracks k porcelain (helpers.mockCracks k)

/-- `Promise.all` resolves once the points of every crack are there. -/
def awaitPoints (k : Nat) (porcelain : Porcelain) (cracks : List (Crack × Option Points)) :
    PorcelainMonitorApp Porcelain Crack Points :=
  if cracks.all fun crack => crack.2.isSome then
    app.showCracks k porcelain <|
      cracks.filterMap fun crack => crack.2.map (helpers.withPoints crack.1)
  else { app with selections := app.selections.set k ⟨porcelain, .points cracks⟩ }

/-- The list arrives, and the call goes on. -/
def onList (k : Nat) (porcelain : Porcelain) :
    ListResponse Crack → PorcelainMonitorApp Porcelain Crack Points
  | .cracks cracks =>
      awaitPoints helpers { app with currentCracks := ⟨some porcelain, cracks⟩ } k porcelain
        (cracks.map fun crack => (crack, none))
  | .other => showMock helpers { app with currentCracks := ⟨some porcelain, []⟩ } k porcelain
  | .failed => app.showMock helpers k porcelain

def selectPorcelain (porcelain : Porcelain) : PorcelainMonitorApp Porcelain Crack Points :=
  { app with
    currentPorcelain := some porcelain
    selections := app.selections ++ [⟨porcelain, .list⟩] }

end PorcelainMonitorApp

/-! ## Runs -/

/-- The user selects an object, or a response to call `k` arrives. -/
inductive PageEvent (Porcelain Crack Points : Type) where
  | select (porcelain : Porcelain)
  | list (k : Nat) (response : ListResponse Crack)
  | points (k i : Nat) (response : Option Points)
deriving DecidableEq, Repr

namespace PorcelainMonitorApp

variable (helpers : Helpers Crack Points)

def step (app : PorcelainMonitorApp Porcelain Crack Points) :
    PageEvent Porcelain Crack Points → Option (PorcelainMonitorApp Porcelain Crack Points)
  | .select porcelain => some (app.selectPorcelain porcelain)
  | .list k response =>
      match app.selections[k]? with
      | some ⟨porcelain, .list⟩ => some (app.onList helpers k porcelain response)
      | _ => none
  | .points k i response =>
      match app.selections[k]? with
      | some ⟨porcelain, .points cracks⟩ =>
          match cracks[i]? with
          | some (crack, none) =>
              let points := response.getD (helpers.mockPoints k i crack)
              some (app.awaitPoints helpers k porcelain (cracks.set i (crack, some points)))
          | _ => none
      | _ => none

/-- Every response has arrived. -/
def Settled (app : PorcelainMonitorApp Porcelain Crack Points) : Prop :=
  ∀ selection ∈ app.selections, selection.stage = .done

instance [DecidableEq Crack] [DecidableEq Points]
    (app : PorcelainMonitorApp Porcelain Crack Points) : Decidable app.Settled :=
  inferInstanceAs (Decidable (∀ selection ∈ app.selections, selection.stage = .done))

end PorcelainMonitorApp

/-- Cracks, if there are any, that were fetched or made up for this object. -/
def CrackList.BelongsTo (list : CrackList Porcelain Crack) (porcelain : Porcelain) : Prop :=
  list.cracks ≠ [] → list.selected = some porcelain

/-- What is shown, `currentCracks` and the selectors belong to the selected object. -/
def PorcelainMonitorApp.ShowsSelected (app : PorcelainMonitorApp Porcelain Crack Points) : Prop :=
  ∀ porcelain, app.currentPorcelain = some porcelain →
    (∃ cracks, app.viewer = some (porcelain, cracks) ∧ cracks.BelongsTo porcelain) ∧
      app.currentCracks.BelongsTo porcelain ∧ app.crackSelects.BelongsTo porcelain

/-! ## The order of the responses -/

/-- The objects of the calls, in order. -/
def selected (run : List (PageEvent Porcelain Crack Points)) : List Porcelain :=
  run.filterMap fun
    | .select porcelain => some porcelain
    | _ => none

/-- The calls whose responses arrive, in order. -/
def responses (run : List (PageEvent Porcelain Crack Points)) : List Nat :=
  run.filterMap fun
    | .select _ => none
    | .list k _ => some k
    | .points k _ _ => some k

/-- The lists that arrive, in order, with their calls. -/
def lists (run : List (PageEvent Porcelain Crack Points)) : List (Nat × List Crack) :=
  run.filterMap fun
    | .list k (.cracks cracks) => some (k, cracks)
    | .list k .other => some (k, [])
    | _ => none

/-- The last response, and the last list unless it is empty, answer a call for the
object selected last. -/
def InOrder (run : List (PageEvent Porcelain Crack Points)) : Prop :=
  ∀ porcelain, (selected run).getLast? = some porcelain →
    (∀ k, (responses run).getLast? = some k → (selected run)[k]? = some porcelain) ∧
      ∀ k cracks, (lists run).getLast? = some (k, cracks) → cracks ≠ [] →
        (selected run)[k]? = some porcelain

section Order

variable (run : List (PageEvent Porcelain Crack Points)) (porcelain : Porcelain) (k i : Nat)

@[simp] theorem selected_select :
    selected (run ++ [.select porcelain]) = selected run ++ [porcelain] := by
  simp [selected]

@[simp] theorem selected_list (response : ListResponse Crack) :
    selected (run ++ [.list k response]) = selected run := by
  simp [selected]

@[simp] theorem selected_points (response : Option Points) :
    selected (run ++ [.points k i response]) = selected run := by
  simp [selected]

@[simp] theorem responses_select : responses (run ++ [.select porcelain]) = responses run := by
  simp [responses]

@[simp] theorem responses_list (response : ListResponse Crack) :
    responses (run ++ [.list k response]) = responses run ++ [k] := by
  simp [responses]

@[simp] theorem responses_points (response : Option Points) :
    responses (run ++ [.points k i response]) = responses run ++ [k] := by
  simp [responses]

@[simp] theorem lists_select : lists (run ++ [.select porcelain]) = lists run := by
  simp [lists]

@[simp] theorem lists_cracks (cracks : List Crack) :
    lists (run ++ [.list k (.cracks cracks)]) = lists run ++ [(k, cracks)] := by
  simp [lists]

@[simp] theorem lists_other : lists (run ++ [.list k .other]) = lists run ++ [(k, [])] := by
  simp [lists]

@[simp] theorem lists_failed : lists (run ++ [.list k .failed]) = lists run := by
  simp [lists]

@[simp] theorem lists_points (response : Option Points) :
    lists (run ++ [.points k i response]) = lists run := by
  simp [lists]

end Order

/-! ## What a response does -/

namespace PorcelainMonitorApp

variable {helpers : Helpers Crack Points} {app app' : PorcelainMonitorApp Porcelain Crack Points}
  {run : List (PageEvent Porcelain Crack Points)} {k : Nat} {porcelain : Porcelain}

/-- This object is shown, with cracks for it, also in the selectors. -/
structure Shown (app : PorcelainMonitorApp Porcelain Crack Points) (porcelain : Porcelain) :
    Prop where
  viewer : ∃ cracks, app.viewer = some (porcelain, ⟨some porcelain, cracks⟩)
  crackSelects : app.crackSelects.selected = some porcelain

/-- Call `k` goes on, and if it ends its object is shown. -/
structure Continues (app app' : PorcelainMonitorApp Porcelain Crack Points) (k : Nat)
    (porcelain : Porcelain) : Prop where
  porcelains : app'.selections.map Selection.porcelain = app.selections.map Selection.porcelain
  current : app'.currentPorcelain = app.currentPorcelain
  cracks : app'.currentCracks = app.currentCracks
  shown : ∃ stage, app'.selections[k]? = some ⟨porcelain, stage⟩ ∧
    (stage = .done → app'.Shown porcelain)

theorem map_porcelain_set {selections : List (Selection Porcelain Crack Points)}
    {stage : Stage Crack Points} (h : selections[k]? = some ⟨porcelain, stage⟩)
    (stage' : Stage Crack Points) :
    (selections.set k ⟨porcelain, stage'⟩).map Selection.porcelain =
      selections.map Selection.porcelain := by
  obtain ⟨hlt, hk⟩ := List.getElem?_eq_some_iff.mp h
  have hself := List.set_getElem_self
    (show k < (selections.map Selection.porcelain).length by simpa using hlt)
  rw [List.map_set]
  simpa [hk] using hself

theorem Continues.showCracks {stage : Stage Crack Points}
    (h : app.selections[k]? = some ⟨porcelain, stage⟩) (cracks : List Crack) :
    Continues app (app.showCracks k porcelain cracks) k porcelain where
  porcelains := map_porcelain_set h .done
  current := rfl
  cracks := rfl
  shown := by
    refine ⟨.done, ?_, fun _ => ⟨⟨cracks, rfl⟩, rfl⟩⟩
    exact List.getElem?_set_self (List.getElem?_eq_some_iff.mp h).1

theorem Continues.awaitPoints {stage : Stage Crack Points}
    (h : app.selections[k]? = some ⟨porcelain, stage⟩) (cracks : List (Crack × Option Points)) :
    Continues app (app.awaitPoints helpers k porcelain cracks) k porcelain := by
  rw [PorcelainMonitorApp.awaitPoints]
  split
  · exact .showCracks h _
  · refine ⟨map_porcelain_set h (.points cracks), rfl, rfl, .points cracks, ?_,
      fun hd => by cases hd⟩
    exact List.getElem?_set_self (List.getElem?_eq_some_iff.mp h).1

/-! ## The invariant -/

/-- The page after a run.  Between responses the calls wait, and the last response has
either left its call waiting or shown its object. -/
structure Follows (app : PorcelainMonitorApp Porcelain Crack Points)
    (run : List (PageEvent Porcelain Crack Points)) : Prop where
  porcelains : app.selections.map Selection.porcelain = selected run
  current : app.currentPorcelain = (selected run).getLast?
  unlisted : (lists run).getLast? = none → app.currentCracks = ⟨none, []⟩
  listed : ∀ k cracks, (lists run).getLast? = some (k, cracks) →
    ∃ porcelain, (selected run)[k]? = some porcelain ∧ app.currentCracks = ⟨some porcelain, cracks⟩
  unanswered : (responses run).getLast? = none → ∀ selection ∈ app.selections,
    selection.stage = .list
  answered : ∀ k, (responses run).getLast? = some k → ∃ porcelain stage,
    app.selections[k]? = some ⟨porcelain, stage⟩ ∧ (stage = .done → app.Shown porcelain)

theorem Follows.init : Follows (init : PorcelainMonitorApp Porcelain Crack Points) [] where
  porcelains := rfl
  current := rfl
  unlisted _ := rfl
  listed _ _ h := by cases h
  unanswered _ _ h := by cases h
  answered _ h := by cases h

/-- The object of a call is the one that was selected. -/
theorem Follows.selected (h : Follows app run) {stage : Stage Crack Points}
    (hk : app.selections[k]? = some ⟨porcelain, stage⟩) :
    (Frontend.selected run)[k]? = some porcelain := by
  rw [← h.porcelains, List.getElem?_map, hk]
  rfl

theorem Follows.select (h : Follows app run) :
    Follows (app.selectPorcelain porcelain) (run ++ [.select porcelain]) where
  porcelains := by simp [selectPorcelain, h.porcelains]
  current := by simp [selectPorcelain]
  unlisted hnone := h.unlisted (by simpa using hnone)
  listed k cracks hlast := by
    obtain ⟨p, hp, hcracks⟩ := h.listed k cracks (by simpa using hlast)
    refine ⟨p, ?_, hcracks⟩
    rw [selected_select, List.getElem?_append_left (List.getElem?_eq_some_iff.mp hp).1, hp]
  unanswered hnone selection hselection := by
    rcases List.mem_append.mp hselection with hold | hnew
    · exact h.unanswered (by simpa using hnone) selection hold
    · rw [List.mem_singleton.mp hnew]
  answered k hlast := by
    obtain ⟨p, stage, hk, hshown⟩ := h.answered k (by simpa using hlast)
    refine ⟨p, stage, ?_, fun hdone => ⟨(hshown hdone).viewer, (hshown hdone).crackSelects⟩⟩
    exact (List.getElem?_append_left (List.getElem?_eq_some_iff.mp hk).1).trans hk

/-- A response to a call, which may bring a new list. -/
theorem Follows.response (h : Follows app run) {stage : Stage Crack Points}
    (hk : app.selections[k]? = some ⟨porcelain, stage⟩) {e : PageEvent Porcelain Crack Points}
    (hselected : Frontend.selected (run ++ [e]) = Frontend.selected run)
    (hresponses : responses (run ++ [e]) = responses run ++ [k])
    {list : CrackList Porcelain Crack}
    (hlists : lists (run ++ [e]) = lists run ∧ list = app.currentCracks ∨
      ∃ cracks, lists (run ++ [e]) = lists run ++ [(k, cracks)] ∧ list = ⟨some porcelain, cracks⟩)
    (hcontinues : Continues { app with currentCracks := list } app' k porcelain) :
    Follows app' (run ++ [e]) where
  porcelains := by rw [hcontinues.porcelains, hselected, h.porcelains]
  current := by rw [hcontinues.current, hselected, h.current]
  unlisted hnone := by
    rcases hlists with ⟨hsame, rfl⟩ | ⟨cracks, hnew, _⟩
    · exact hcontinues.cracks.trans (h.unlisted (by rwa [hsame] at hnone))
    · simp [hnew] at hnone
  listed j cracks hlast := by
    rw [hselected, hcontinues.cracks]
    rcases hlists with ⟨hsame, rfl⟩ | ⟨cracks', hnew, rfl⟩
    · exact h.listed j cracks (by rwa [hsame] at hlast)
    · rw [hnew, List.getLast?_concat] at hlast
      cases hlast
      exact ⟨porcelain, h.selected hk, rfl⟩
  unanswered hnone := by simp [hresponses] at hnone
  answered j hlast := by
    rw [hresponses, List.getLast?_concat] at hlast
    cases hlast
    obtain ⟨stage', hk', hshown⟩ := hcontinues.shown
    exact ⟨porcelain, stage', hk', hshown⟩

theorem Follows.list (h : Follows app run)
    (hk : app.selections[k]? = some ⟨porcelain, .list⟩) (response : ListResponse Crack) :
    Follows (app.onList helpers k porcelain response) (run ++ [.list k response]) := by
  cases response with
  | cracks cracks =>
      refine h.response hk (selected_list run k _) (responses_list run k _)
        (.inr ⟨cracks, lists_cracks run k cracks, rfl⟩) ?_
      apply Continues.awaitPoints
      exact hk
  | other =>
      refine h.response hk (selected_list run k _) (responses_list run k _)
        (.inr ⟨[], lists_other run k, rfl⟩) ?_
      apply Continues.showCracks
      exact hk
  | failed =>
      exact h.response hk (selected_list run k _) (responses_list run k _)
        (.inl ⟨lists_failed run k, rfl⟩) (.showCracks hk _)

theorem Follows.step (e : PageEvent Porcelain Crack Points) (h : Follows app run)
    (hst : app.step helpers e = some app') : Follows app' (run ++ [e]) := by
  cases e with
  | select porcelain =>
      cases hst
      exact h.select
  | list k response =>
      simp only [PorcelainMonitorApp.step] at hst
      split at hst
      · next porcelain hk =>
          cases hst
          exact h.list hk response
      · cases hst
  | points k i response =>
      simp only [PorcelainMonitorApp.step] at hst
      split at hst
      · next porcelain cracks hk =>
          split at hst
          · next crack hi =>
              cases hst
              exact h.response hk (selected_points run k i _) (responses_points run k i _)
                (.inl ⟨lists_points run k i _, rfl⟩) (.awaitPoints hk _)
          · cases hst
      · cases hst

theorem follows_of_exec
    (hexec : exec (PorcelainMonitorApp.step helpers) PorcelainMonitorApp.init run = some app) :
    Follows app run :=
  exec_history (fun _ _ e _ h hst => Follows.step e h hst) Follows.init hexec

/-! ## Settled pages -/

/-- Once all responses have arrived, the last was for the object that is shown. -/
theorem Follows.shown (h : Follows app run) (hsettled : app.Settled)
    (hselected : (Frontend.selected run).getLast? = some porcelain) :
    ∃ k shown, (responses run).getLast? = some k ∧ (Frontend.selected run)[k]? = some shown ∧
      app.Shown shown := by
  have hsome : ∃ selection, selection ∈ app.selections := by
    refine List.exists_mem_of_ne_nil _ fun hnil => ?_
    rw [← h.porcelains, hnil] at hselected
    cases hselected
  obtain ⟨selection, hmem⟩ := hsome
  cases hlast : (responses run).getLast? with
  | none =>
      have hlist := h.unanswered hlast selection hmem
      rw [hsettled selection hmem] at hlist
      cases hlist
  | some k =>
      obtain ⟨shown, stage, hk, hshown⟩ := h.answered k hlast
      exact ⟨k, shown, rfl, h.selected hk, hshown (hsettled _ (List.mem_of_getElem? hk))⟩

theorem Follows.belongs_iff (h : Follows app run) (porcelain : Porcelain) :
    app.currentCracks.BelongsTo porcelain ↔ ∀ k cracks, (lists run).getLast? = some (k, cracks) →
      cracks ≠ [] → (Frontend.selected run)[k]? = some porcelain := by
  cases hlast : (lists run).getLast? with
  | none =>
      rw [h.unlisted hlast]
      simp [CrackList.BelongsTo]
  | some last =>
      obtain ⟨k, cracks⟩ := last
      obtain ⟨owner, howner, hcracks⟩ := h.listed k cracks hlast
      rw [hcracks, CrackList.BelongsTo, ← howner]
      constructor
      · intro hbelongs j cracks' heq
        cases heq
        exact hbelongs
      · exact fun horder => horder k cracks rfl

theorem Follows.shown_iff (h : Follows app run) (hsettled : app.Settled) :
    app.ShowsSelected ↔ InOrder run := by
  rw [ShowsSelected, InOrder, h.current]
  refine forall₂_congr fun porcelain hselected => ?_
  obtain ⟨k, shown, hlast, hk, hshown⟩ := h.shown hsettled hselected
  obtain ⟨cracks, hviewer⟩ := hshown.viewer
  rw [h.belongs_iff porcelain, hlast]
  constructor
  · rintro ⟨⟨cracks', hshows, _⟩, hcurrent, _⟩
    rw [hviewer] at hshows
    cases hshows
    exact ⟨fun j hj => by rw [← Option.some.inj hj, hk], hcurrent⟩
  · rintro ⟨hresponse, hcurrent⟩
    obtain rfl : shown = porcelain := Option.some.inj (hk.symm.trans (hresponse k rfl))
    exact ⟨⟨_, hviewer, fun _ => rfl⟩, hcurrent, fun _ => hshown.crackSelects⟩

/-- Once all responses have arrived, the page shows the selected object exactly if the
last response and the last list are for it, or the last list is empty. -/
theorem showsSelected_iff (helpers : Helpers Crack Points)
    (run : List (PageEvent Porcelain Crack Points))
    (app : PorcelainMonitorApp Porcelain Crack Points)
    (hexec : exec (PorcelainMonitorApp.step helpers) PorcelainMonitorApp.init run = some app)
    (hsettled : app.Settled) :
    app.ShowsSelected ↔ InOrder run :=
  (follows_of_exec hexec).shown_iff hsettled

/-- Objects and cracks that are numbers. -/
def numbered : Helpers Nat Unit where
  withPoints crack _ := crack
  mockCracks _ := [1, 2, 3, 4, 5]
  mockPoints _ _ _ := ()

/-- Two clicks, and the responses in their order. -/
def patientRun : List (PageEvent Nat Nat Unit) :=
  [.select 1, .list 0 (.cracks [10]), .points 0 0 none, .select 2, .list 1 (.cracks [20]),
    .points 1 0 (some ())]

theorem showsSelected_iff_patientRun : ∃ app,
    exec (PorcelainMonitorApp.step numbered) PorcelainMonitorApp.init patientRun = some app ∧
      app.Settled ∧ (app.ShowsSelected ↔ InOrder patientRun) :=
  ⟨_, rfl, by decide, showsSelected_iff numbered patientRun _ rfl (by decide)⟩

/-- The responses for the first object arrive behind those for the second. -/
def overtakenRun : List (PageEvent Nat Nat Unit) :=
  [.select 1, .select 2, .list 1 (.cracks [20]), .points 1 0 (some ()), .list 0 (.cracks [10]),
    .points 0 0 (some ())]

theorem overtaken_object_is_shown :
    ¬ ∀ run (app : PorcelainMonitorApp Nat Nat Unit),
      exec (PorcelainMonitorApp.step numbered) PorcelainMonitorApp.init run = some app →
        app.Settled → app.ShowsSelected := by
  intro h
  have hshows := h overtakenRun _ rfl (by decide) 2 rfl
  obtain ⟨⟨cracks, hviewer, _⟩, _⟩ := hshows
  cases hviewer

end PorcelainMonitorApp

end Page

end PorcelainMonitor.Frontend
