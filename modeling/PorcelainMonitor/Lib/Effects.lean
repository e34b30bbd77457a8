import Mathlib.Data.List.Forall2

/-!
# Computations with a state and exceptions

A computation takes a state to a result or an exception and a new state.  The
state survives an exception, as the memory of a C++ program does.

`Keeps f x` says that the computation `x` leaves the part `f` of the state as it
was, however it ends.  Every way of composing computations has a rule for it.
`Returns x post` says that `x` throws in no state, and what holds of its results.
`Ensures x post` says only what holds of its results.  `Logs x y` says that `y` does
what `x` does and keeps a log.  `Alike r x y` says that two runs that start in
related states end alike, in related states.
-/

namespace Effects

/-- A computation over states `σ` that may throw an `ε`. -/
structure Comp (ε σ α : Type) where
  run : σ → Except ε α × σ

variable {ε σ α β : Type}

namespace Comp

/-- Run the second computation if the first returned. -/
def bind (x : Comp ε σ α) (f : α → Comp ε σ β) : Comp ε σ β where
  run s :=
    match x.run s with
    | (.ok a, t) => (f a).run t
    | (.error e, t) => (.error e, t)

/-- Run the handler if the computation threw. -/
def tryCatch (x : Comp ε σ α) (handle : ε → Comp ε σ α) : Comp ε σ α where
  run s :=
    match x.run s with
    | (.ok a, t) => (.ok a, t)
    | (.error e, t) => (handle e).run t

instance : Monad (Comp ε σ) where
  pure a := ⟨fun s => (.ok a, s)⟩
  bind := Comp.bind

instance : MonadExceptOf ε (Comp ε σ) where
  throw e := ⟨fun s => (.error e, s)⟩
  tryCatch := Comp.tryCatch

/-- A result or an exception that does not depend on the state. -/
def ofExcept : Except ε α → Comp ε σ α
  | .ok a => Pure.pure a
  | .error e => throw e

/-- The computation on the first part of a state. -/
def onFirst {τ : Type} (x : Comp ε σ α) : Comp ε (σ × τ) α where
  run s := ((x.run s.1).1, (x.run s.1).2, s.2)

/-- Add to the log. -/
def note {τ : Type} (u : τ) : Comp ε (σ × List τ) Unit where
  run s := (.ok (), s.1, s.2 ++ [u])

theorem run_bind (x : Comp ε σ α) (f : α → Comp ε σ β) (s : σ) :
    (x >>= f).run s =
      match x.run s with
      | (.ok a, t) => (f a).run t
      | (.error e, t) => (.error e, t) := rfl

theorem run_tryCatch (x : Comp ε σ α) (handle : ε → Comp ε σ α) (s : σ) :
    (tryCatchThe ε x handle).run s =
      match x.run s with
      | (.ok a, t) => (.ok a, t)
      | (.error e, t) => (handle e).run t := rfl

theorem run_onFirst {τ : Type} {x : Comp ε σ α} {s t : σ} {result : Except ε α}
    (h : x.run s = (result, t)) (rest : τ) : x.onFirst.run (s, rest) = (result, t, rest) := by
  show ((x.run s).1, (x.run s).2, rest) = _
  rw [h]

theorem bind_ok {x : Comp ε σ α} {f : α → Comp ε σ β} {s t : σ} {a : α}
    (h : x.run s = (.ok a, t)) : (x >>= f).run s = (f a).run t := by
  rw [run_bind, h]

theorem bind_error {x : Comp ε σ α} {f : α → Comp ε σ β} {s t : σ} {e : ε}
    (h : x.run s = (.error e, t)) : (x >>= f).run s = (.error e, t) := by
  rw [run_bind, h]

end Comp

/-- However `x` ends, it leaves the part `f` of the state as it was. -/
def Keeps {τ : Type} (f : σ → τ) (x : Comp ε σ α) : Prop := ∀ s, f (x.run s).2 = f s

namespace Keeps

variable {τ : Type} {f : σ → τ} {x : Comp ε σ α}

theorem pure (a : α) : Keeps f (Pure.pure a : Comp ε σ α) := fun _ => rfl

/-- What comes after a computation does not matter to a part that it keeps. -/
theorem after {g : α → Comp ε σ β} (hg : ∀ a, Keeps f (g a)) (s : σ) :
    f ((x >>= g).run s).2 = f (x.run s).2 := by
  cases h : x.run s with
  | mk result t =>
      cases result with
      | ok a => rw [Comp.bind_ok h, hg a t]
      | error e => rw [Comp.bind_error h]

/-- The same for a fact about the part. -/
theorem last {P : τ → Prop} {g : α → Comp ε σ β} (hg : ∀ a, Keeps f (g a)) {s : σ}
    (h : P (f (x.run s).2)) : P (f ((x >>= g).run s).2) := by
  rw [after hg]
  exact h

theorem bind {g : α → Comp ε σ β} (hx : Keeps f x) (hg : ∀ a, Keeps f (g a)) :
    Keeps f (x >>= g) := by
  intro s
  rw [after hg]
  exact hx s

/-- After a first computation that keeps the part, a fact about it is left to
show of the second. -/
theorem first {P : τ → Prop} {g : α → Comp ε σ β} (hx : Keeps f x) {s : σ} (hs : P (f s))
    (hg : ∀ a t, f t = f s → P (f ((g a).run t).2)) : P (f ((x >>= g).run s).2) := by
  have hxs := hx s
  cases h : x.run s with
  | mk result t =>
      rw [h] at hxs
      cases result with
      | ok a =>
          rw [Comp.bind_ok h]
          exact hg a t hxs
      | error e =>
          rw [Comp.bind_error h]
          exact hxs.symm ▸ hs

/-- After a first computation that changes nothing, the second one starts in the same
state. -/
theorem read {x : Comp ε σ α} {P : σ → Prop} {g : α → Comp ε σ β} (hx : Keeps id x) {s : σ}
    (hs : P s) (hg : ∀ a, P ((g a).run s).2) : P ((x >>= g).run s).2 :=
  first hx hs fun a t ht => by
    rw [show t = s from ht]
    exact hg a

theorem forM {g : α → Comp ε σ PUnit} (hg : ∀ a, Keeps f (g a)) :
    ∀ xs : List α, Keeps f (xs.forM g)
  | [] => Keeps.pure _
  | a :: xs => Keeps.bind (hg a) fun _ => forM hg xs

end Keeps

/-- However `x` ends, it ends where the invariant holds if it started there. -/
def Maintains (Inv : σ → Prop) (x : Comp ε σ α) : Prop := ∀ s, Inv s → Inv (x.run s).2

namespace Maintains

variable {Inv : σ → Prop} {x : Comp ε σ α}

theorem pure (a : α) : Maintains Inv (Pure.pure a : Comp ε σ α) := fun _ h => h

/-- Only the last computation leaves the invariant, and not far. -/
theorem first {P : σ → Prop} {g : α → Comp ε σ β} (hx : Maintains Inv x) (hP : ∀ s, Inv s → P s)
    (hg : ∀ a s, Inv s → P ((g a).run s).2) (s : σ) (hs : Inv s) : P ((x >>= g).run s).2 := by
  have ht := hx s hs
  cases h : x.run s with
  | mk result t =>
      rw [h] at ht
      cases result with
      | ok a =>
          rw [Comp.bind_ok h]
          exact hg a t ht
      | error e =>
          rw [Comp.bind_error h]
          exact hP t ht

theorem bind {g : α → Comp ε σ β} (hx : Maintains Inv x) (hg : ∀ a, Maintains Inv (g a)) :
    Maintains Inv (x >>= g) := hx.first (fun _ h => h) hg

theorem forM {g : α → Comp ε σ PUnit} (hg : ∀ a, Maintains Inv (g a)) :
    ∀ xs : List α, Maintains Inv (xs.forM g)
  | [] => Maintains.pure _
  | a :: xs => Maintains.bind (hg a) fun _ => forM hg xs

end Maintains

/-! ## Computations that return -/

/-- The computation throws in no state, and its results are such. -/
def Returns (x : Comp ε σ α) (post : α → Prop) : Prop :=
  ∀ s, ∃ a t, x.run s = (.ok a, t) ∧ post a

namespace Returns

variable {x : Comp ε σ α} {post : α → Prop} {post' : β → Prop} {g : α → Comp ε σ β}

theorem pure {a : α} (h : post a) : Returns (Pure.pure a : Comp ε σ α) post :=
  fun s => ⟨a, s, rfl, h⟩

theorem bind (hx : Returns x post) (hg : ∀ a, post a → Returns (g a) post') :
    Returns (x >>= g) post' := by
  intro s
  obtain ⟨a, t, hrun, ha⟩ := hx s
  rw [Comp.bind_ok hrun]
  exact hg a ha t

end Returns

/-- The results of the computation are such. -/
def Ensures (x : Comp ε σ α) (post : α → Prop) : Prop := ∀ s a t, x.run s = (.ok a, t) → post a

namespace Ensures

variable {x : Comp ε σ α} {post : α → Prop} {post' : β → Prop} {g : α → Comp ε σ β}

theorem pure {a : α} (h : post a) : Ensures (Pure.pure a : Comp ε σ α) post := by
  rintro s b t ⟨⟩
  exact h

theorem result (hx : Ensures x post) {s : σ} {a : α} (h : (x.run s).1 = .ok a) : post a :=
  hx s a (x.run s).2 (Prod.ext h rfl)

theorem throw (e : ε) : Ensures (MonadExceptOf.throw e : Comp ε σ α) post := by
  rintro s a t ⟨⟩

/-- Only the last computation matters. -/
theorem bind (hg : ∀ a, Ensures (g a) post') : Ensures (x >>= g) post' := by
  intro s b t hrun
  cases hx : x.run s with
  | mk result u =>
      cases result with
      | ok a =>
          rw [Comp.bind_ok hx] at hrun
          exact hg a u b t hrun
      | error e =>
          rw [Comp.bind_error hx] at hrun
          cases hrun

end Ensures

/-! ## Computations with a log -/

/-- The second computation does what the first does, and adds to a log. -/
def Logs {τ : Type} (x : Comp ε σ α) (y : Comp ε (σ × List τ) α) : Prop :=
  ∀ s log, ∃ added, y.run (s, log) = ((x.run s).1, (x.run s).2, log ++ added)

namespace Logs

variable {τ : Type} {x : Comp ε σ α} {y : Comp ε (σ × List τ) α}

theorem pure (a : α) : Logs (Pure.pure a : Comp ε σ α) (Pure.pure a : Comp ε (σ × List τ) α) :=
  fun s log => ⟨[], by rw [List.append_nil]; rfl⟩

theorem throw (e : ε) : Logs (MonadExceptOf.throw e : Comp ε σ α)
    (MonadExceptOf.throw e : Comp ε (σ × List τ) α) :=
  fun s log => ⟨[], by rw [List.append_nil]; rfl⟩

theorem onFirst (x : Comp ε σ α) : Logs (τ := τ) x x.onFirst :=
  fun s log => ⟨[], by rw [List.append_nil]; rfl⟩

theorem note (u : τ) (h : Logs x y) : Logs x (do Comp.note u; y) := by
  intro s log
  obtain ⟨added, hrun⟩ := h s (log ++ [u])
  have hnote : (Comp.note u : Comp ε (σ × List τ) Unit).run (s, log) =
      (.ok (), s, log ++ [u]) := rfl
  exact ⟨u :: added, by rw [Comp.bind_ok hnote, hrun, List.append_assoc, List.singleton_append]⟩

theorem bind {f : α → Comp ε σ β} {g : α → Comp ε (σ × List τ) β} (h : Logs x y)
    (hg : ∀ a, Logs (f a) (g a)) : Logs (x >>= f) (y >>= g) := by
  intro s log
  obtain ⟨added, hy⟩ := h s log
  cases hx : x.run s with
  | mk result t =>
      rw [hx] at hy
      cases result with
      | ok a =>
          obtain ⟨more, hrun⟩ := hg a t (log ++ added)
          refine ⟨added ++ more, ?_⟩
          rw [Comp.bind_ok hx, Comp.bind_ok hy, hrun, List.append_assoc]
      | error e =>
          refine ⟨added, ?_⟩
          rw [Comp.bind_error hx, Comp.bind_error hy]

end Logs

/-! ## Two runs -/

/-- From related states the computations end alike, and in related states. -/
def Alike (r : σ → σ → Prop) (x y : Comp ε σ α) : Prop :=
  ∀ s t, r s t → (x.run s).1 = (y.run t).1 ∧ r (x.run s).2 (y.run t).2

namespace Alike

variable {r : σ → σ → Prop} {x y : Comp ε σ α}

theorem pure (a : α) : Alike r (Pure.pure a : Comp ε σ α) (Pure.pure a) := fun _ _ h => ⟨rfl, h⟩

theorem bind {f g : α → Comp ε σ β} (h : Alike r x y) (hfg : ∀ a, Alike r (f a) (g a)) :
    Alike r (x >>= f) (y >>= g) := by
  intro s t hst
  obtain ⟨hresult, hstate⟩ := h s t hst
  cases hx : x.run s with
  | mk result u =>
      cases hy : y.run t with
      | mk result' v =>
          rw [hx, hy] at hresult hstate
          -- Both returned the same, or both threw the same.
          cases hresult
          cases result with
          | ok a =>
              rw [Comp.bind_ok hx, Comp.bind_ok hy]
              exact hfg a u v hstate
          | error e =>
              rw [Comp.bind_error hx, Comp.bind_error hy]
              exact ⟨rfl, hstate⟩

/-- Two loops over lists of the same length, round by round. -/
theorem forM₂ {γ δ : Type} {f : γ → Comp ε σ PUnit} {g : δ → Comp ε σ PUnit} {xs : List γ}
    {ys : List δ} (h : List.Forall₂ (fun a b => Alike r (f a) (g b)) xs ys) :
    Alike r (xs.forM f) (ys.forM g) := by
  induction h with
  | nil => exact Alike.pure _
  | cons hhead _ ih => exact Alike.bind hhead fun _ => ih

theorem forM {γ : Type} {f g : γ → Comp ε σ PUnit} (h : ∀ a, Alike r (f a) (g a))
    (xs : List γ) : Alike r (xs.forM f) (xs.forM g) := by
  induction xs with
  | nil => exact Alike.pure _
  | cons a xs ih => exact Alike.bind (h a) fun _ => ih

end Alike

end Effects
