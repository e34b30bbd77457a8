import Mathlib.Data.List.Basic

/-!
# Runs of a partial step function

A system is a state type `σ`, a label type `ε` and a step function
`step : σ → ε → Option σ`.  `none` says that the label is not enabled.  All
choice is in the label: which party moves, and what its environment answers.
A run is the list of its labels, and `exec` folds the step over it.

These rules carry the developments that use this file.

* `exec_invariant`: what holds at the start and is kept by every step holds at
  the end of every run.
* `exec_simulates`: a run is matched step by step by a total function.
* `exec_history`: an invariant that also speaks of the labels so far.
* `exec_invariant_of`: the first rule where a step keeps the invariant only under a
  condition `ok` on the state before it and its label.
* `statesMeet_of`: the same for every state on the way.
* `statesMeet_iff`: a property holds in every state of a run exactly when every
  step of the run meets `ok`.
* `stepsMeet_congr`: conditions that an invariant makes equal hold along the same runs.
* `exec_bad_of`: a run with a step outside `ok` ends badly.
* `exact_of`: runs inside `ok` keep a property, and a step outside `ok` has a way
  on that breaks it.
-/

namespace Steps

variable {σ ε : Type*}

/-- The state after a list of labels, if each of them is enabled in turn. -/
def exec (step : σ → ε → Option σ) (s : σ) : List ε → Option σ
  | [] => some s
  | e :: es => (step s e).bind fun t => exec step t es

section Exec

variable {step : σ → ε → Option σ}

@[simp] theorem exec_cons (s : σ) (e : ε) (es : List ε) :
    exec step s (e :: es) = (step s e).bind fun t => exec step t es := rfl

theorem exec_cons_some {s u : σ} {e : ε} {es : List ε} :
    exec step s (e :: es) = some u ↔ ∃ t, step s e = some t ∧ exec step t es = some u := by
  simp [Option.bind_eq_some_iff]

/-- A run in two parts. -/
theorem exec_append (s : σ) (es fs : List ε) :
    exec step s (es ++ fs) = (exec step s es).bind fun t => exec step t fs := by
  induction es generalizing s with
  | nil => rfl
  | cons e es ih =>
      rw [List.cons_append, exec_cons, exec_cons, Option.bind_assoc]
      exact Option.bind_congr fun t _ => ih t

/-! ## Invariants -/

/-- What every step keeps holds at the end of every run. -/
theorem exec_invariant {Inv : σ → Prop}
    (keep : ∀ s e t, Inv s → step s e = some t → Inv t) :
    ∀ {s t : σ} {es : List ε}, Inv s → exec step s es = some t → Inv t
  | s, t, [], hs, h => by
      cases h
      exact hs
  | s, t, e :: es, hs, h => by
      obtain ⟨u, hu, hrest⟩ := exec_cons_some.mp h
      exact exec_invariant keep (keep s e u hs hu) hrest

/-- Where every step is matched by a total function on another state, a run is
matched by the fold of that function. -/
theorem exec_simulates {τ : Type*} {Rel : σ → τ → Prop} {f : τ → ε → τ}
    (sim : ∀ s t e s', Rel s t → step s e = some s' → Rel s' (f t e)) {es : List ε} :
    ∀ {s s' : σ} {t : τ}, Rel s t → exec step s es = some s' → Rel s' (es.foldl f t) := by
  induction es with
  | nil =>
      intro s s' t hs h
      cases h
      exact hs
  | cons e es ih =>
      intro s s' t hs h
      obtain ⟨u, hu, hrest⟩ := exec_cons_some.mp h
      exact ih (sim s t e u hs hu) hrest

/-- What every step keeps, of its state and the labels so far, holds at the end. -/
theorem exec_history {Rel : σ → List ε → Prop}
    (keep : ∀ s es e t, Rel s es → step s e = some t → Rel t (es ++ [e])) {es : List ε} :
    ∀ {s t : σ} {before : List ε}, Rel s before → exec step s es = some t →
      Rel t (before ++ es) := by
  induction es with
  | nil =>
      intro s t before hs h
      cases h
      rwa [List.append_nil]
  | cons e es ih =>
      intro s t before hs h
      obtain ⟨u, hu, hrest⟩ := exec_cons_some.mp h
      rw [List.append_cons]
      exact ih (keep s before e u hs hu) hrest

/-! ## Conditions along a run -/

/-- Every state the run visits has the property, the first and last included. -/
def StatesMeet (step : σ → ε → Option σ) (P : σ → Prop) : σ → List ε → Prop
  | s, [] => P s
  | s, e :: es => P s ∧ ∀ t, step s e = some t → StatesMeet step P t es

/-- Every step the run takes meets the condition, which may look at the state
before the step and at its label. -/
def StepsMeet (step : σ → ε → Option σ) (ok : σ → ε → Prop) : σ → List ε → Prop
  | _, [] => True
  | s, e :: es => ∀ t, step s e = some t → ok s e ∧ StepsMeet step ok t es

/-- A run whose first step meets `ok` and whose rest does. -/
theorem StepsMeet.cons {ok : σ → ε → Prop} {s t : σ} {e : ε} {es : List ε} (ht : step s e = some t)
    (he : ok s e) (hes : StepsMeet step ok t es) : StepsMeet step ok s (e :: es) := by
  intro u hu
  cases ht.symm.trans hu
  exact ⟨he, hes⟩

theorem StepsMeet.of_forall {ok : σ → ε → Prop} {es : List ε} :
    ∀ {s : σ}, (∀ s, ∀ e ∈ es, ok s e) → StepsMeet step ok s es := by
  induction es with
  | nil => exact fun _ => trivial
  | cons e es ih =>
      intro s h t _
      exact ⟨h s e List.mem_cons_self, ih fun u f hf => h u f (List.mem_cons_of_mem _ hf)⟩

/-- The last step of a run. -/
theorem StepsMeet.last {ok : σ → ε → Prop} {es : List ε} {e : ε} :
    ∀ {s t u : σ}, StepsMeet step ok s (es ++ [e]) → exec step s es = some t →
      step t e = some u → ok t e := by
  induction es with
  | nil =>
      intro s t u h hexec hst
      cases hexec
      exact (h u hst).1
  | cons f es ih =>
      intro s t u h hexec hst
      obtain ⟨v, hv, hrest⟩ := exec_cons_some.mp hexec
      exact ih (h v hv).2 hrest hst

/-- Two conditions that agree wherever an invariant holds are met by the same runs,
among those whose steps keep the invariant. -/
theorem stepsMeet_congr {Inv : σ → Prop} {ok P Q : σ → ε → Prop}
    (keep : ∀ s e t, Inv s → ok s e → step s e = some t → Inv t)
    (agree : ∀ s e t, Inv s → step s e = some t → (P s e ↔ Q s e)) {es : List ε} :
    ∀ {s : σ}, Inv s → StepsMeet step ok s es →
      (StepsMeet step P s es ↔ StepsMeet step Q s es) := by
  induction es with
  | nil => exact fun _ _ => Iff.rfl
  | cons e es ih =>
      intro s hs hok
      refine forall₂_congr fun t ht => and_congr (agree s e t hs ht) ?_
      obtain ⟨he, hes⟩ := hok t ht
      exact ih (keep s e t hs he ht) hes

/-- What every step that meets `ok` keeps holds at the end of every run whose
steps meet `ok`. -/
theorem exec_invariant_of {Inv : σ → Prop} {ok : σ → ε → Prop}
    (keep : ∀ s e t, Inv s → ok s e → step s e = some t → Inv t) :
    ∀ {s t : σ} {es : List ε}, Inv s → StepsMeet step ok s es → exec step s es = some t → Inv t
  | s, t, [], hs, _, h => by
      cases h
      exact hs
  | s, t, e :: es, hs, hok, h => by
      obtain ⟨u, hu, hrest⟩ := exec_cons_some.mp h
      obtain ⟨he, hes⟩ := hok u hu
      exact exec_invariant_of keep (keep s e u hs he hu) hes hrest

/-- The first state of a run is one of its states. -/
theorem StatesMeet.head {P : σ → Prop} {s : σ} {es : List ε} (h : StatesMeet step P s es) :
    P s := by
  cases es with
  | nil => exact h
  | cons e es => exact h.1

/-- So is the last. -/
theorem StatesMeet.last {P : σ → Prop} :
    ∀ {s t : σ} {es : List ε}, StatesMeet step P s es → exec step s es = some t → P t
  | s, t, [], h, hexec => by
      cases hexec
      exact h
  | s, t, e :: es, h, hexec => by
      obtain ⟨u, hu, hrest⟩ := exec_cons_some.mp hexec
      exact (h.2 u hu).last hrest

/-- What an invariant gives holds all along a run whose steps meet `ok`. -/
theorem statesMeet_of {Inv P : σ → Prop} {ok : σ → ε → Prop}
    (keep : ∀ s e t, Inv s → ok s e → step s e = some t → Inv t) (gives : ∀ s, Inv s → P s) :
    ∀ {s : σ} {es : List ε}, Inv s → StepsMeet step ok s es → StatesMeet step P s es
  | s, [], hs, _ => gives s hs
  | s, e :: es, hs, h => by
      refine ⟨gives s hs, fun t ht => ?_⟩
      obtain ⟨hok, hes⟩ := h t ht
      exact statesMeet_of keep gives (keep s e t hs hok ht) hes

/-- A property that an invariant gives, that a step outside `ok` breaks, and
whose invariant a step inside `ok` keeps, holds all along a run exactly when
every step of the run is inside `ok`. -/
theorem statesMeet_iff {Inv P : σ → Prop} {ok : σ → ε → Prop}
    (keep : ∀ s e t, Inv s → ok s e → step s e = some t → Inv t)
    (gives : ∀ s, Inv s → P s)
    (breaks : ∀ s e t, Inv s → ¬ ok s e → step s e = some t → ¬ P t) :
    ∀ {s : σ} {es : List ε}, Inv s → (StatesMeet step P s es ↔ StepsMeet step ok s es)
  | s, [], hs => ⟨fun _ => trivial, fun _ => gives s hs⟩
  | s, e :: es, hs => by
      constructor
      · rintro ⟨_, hrest⟩ t ht
        have hok : ok s e := by
          by_contra hn
          exact breaks s e t hs hn ht (hrest t ht).head
        exact ⟨hok, (statesMeet_iff keep gives breaks (keep s e t hs hok ht)).mp (hrest t ht)⟩
      · exact statesMeet_of keep gives hs

/-- A run that takes a step outside `ok` ends in what such a step leads to, if
no step leads out of that again. -/
theorem exec_bad_of {Inv Bad : σ → Prop} {ok : σ → ε → Prop}
    (keep : ∀ s e t, Inv s → ok s e → step s e = some t → Inv t)
    (breaks : ∀ s e t, Inv s → ¬ ok s e → step s e = some t → Bad t)
    (stays : ∀ s e t, Bad s → step s e = some t → Bad t) :
    ∀ {s t : σ} {es : List ε}, Inv s → exec step s es = some t → ¬ StepsMeet step ok s es → Bad t
  | s, t, [], _, _, hbad => absurd trivial hbad
  | s, t, e :: es, hs, h, hbad => by
      obtain ⟨u, hu, hrest⟩ := exec_cons_some.mp h
      by_cases he : ok s e
      · exact exec_bad_of keep breaks stays (keep s e u hs he hu) hrest fun hes =>
          hbad (.cons hu he hes)
      · exact exec_invariant stays (breaks s e u hs he hu) hrest

/-! ## Conditions that runs need -/

variable (step) in
/-- Steps that meet `ok` can lead from here to a state without the property. -/
inductive Escapes (ok : σ → ε → Prop) (P : σ → Prop) : σ → Prop where
  | here {s : σ} : ¬ P s → Escapes ok P s
  | next {s t : σ} {e : ε} : step s e = some t → ok s e → Escapes ok P t → Escapes ok P s

/-- The way on is a run. -/
theorem Escapes.run {ok : σ → ε → Prop} {P : σ → Prop} {s : σ} (h : Escapes step ok P s) :
    ∃ es, StepsMeet step ok s es ∧ ¬ StatesMeet step P s es := by
  induction h with
  | here hP => exact ⟨[], trivial, hP⟩
  | @next s t e hst hok _ ih =>
      obtain ⟨es, hes, hP⟩ := ih
      exact ⟨e :: es, .cons hst hok hes, fun h => hP (h.2 t hst)⟩

variable (step) in
/-- The run `es` from `s` needs `ok` for `P`: if every step meets it, `P` holds in
every state, and then a next step that does not meet it can be followed by steps that
do and that lead out of `P`. -/
structure Exact (ok : σ → ε → Prop) (P : σ → Prop) (s : σ) (es : List ε) : Prop where
  keeps : StepsMeet step ok s es → StatesMeet step P s es
  needed : ∀ e t u, StepsMeet step ok s es → exec step s es = some t → step t e = some u →
    ¬ ok t e → ∃ more, StepsMeet step ok u more ∧ ¬ StatesMeet step P u more

theorem exact_of {Inv P : σ → Prop} {ok : σ → ε → Prop}
    (keep : ∀ s e t, Inv s → ok s e → step s e = some t → Inv t)
    (gives : ∀ s, Inv s → P s)
    (breaks : ∀ s e t, Inv s → ¬ ok s e → step s e = some t → Escapes step ok P t) {s : σ}
    (hs : Inv s) (es : List ε) : Exact step ok P s es where
  keeps := statesMeet_of keep gives hs
  needed e _ _ hes hexec hst hok :=
    (breaks _ e _ (exec_invariant_of keep hs hes hexec) hok hst).run

end Exec

end Steps
