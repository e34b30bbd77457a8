import Mathlib.Data.Option.Basic

/-!
# A record filled in layers

A program keeps its settings in a record `σ` and fills it from several sources,
one over the other.  `override` puts the value of a variable over a field, if the
variable is set.  A document `δ` is read by a list of entries, in order.  An entry
whose key is missing leaves the record alone.  A value of the wrong kind ends the
reading, and what has been read before stays.

* `fill_append`: a list of entries in two parts.
* `fill_get`: what a field holds after the document is read.
* `fill_absorb`: an override before the reading makes no difference if it is
  repeated after it.
* `fill_eq_self_iff`: the reading leaves no trace exactly if every value it
  comes to is there already.
-/

namespace Layers

variable {σ δ ν α β : Type*}

/-- The value of a variable, if it is set, and else the old value. -/
def override (value? : Option β) (convert : β → α) (old : α) : α := value?.elim old convert

@[simp] theorem override_override (o : Option β) (f : β → α) (x : α) :
    override o f (override o f x) = override o f x := by
  cases o with
  | none => rfl
  | some b => rfl

@[simp] theorem override_none (f : β → α) (x : α) : override none f x = x := rfl

@[simp] theorem override_some (b : β) (f : β → α) (x : α) : override (some b) f x = f b := rfl

/-! ## Entries -/

/-- What an entry finds in a document. -/
inductive Found (σ : Type*) where
  | missing
  | wrongKind
  | value (set : σ → σ)

/-- A value is looked up, converted and put into the record. -/
def entry (find : δ → Option ν) (convert : ν → Option α) (set : α → σ → σ) (d : δ) : Found σ :=
  match find d with
  | none => .missing
  | some v =>
      match convert v with
      | none => .wrongKind
      | some x => .value (set x)

/-- The record after a document is read. -/
def fill : List (δ → Found σ) → δ → σ → σ
  | [], _, s => s
  | e :: es, d, s =>
      match e d with
      | .missing => fill es d s
      | .wrongKind => s
      | .value set => fill es d (set s)

/-- The reading gets past these entries. -/
def Passed (es : List (δ → Found σ)) (d : δ) : Bool :=
  es.all fun e => match e d with
    | .wrongKind => false
    | _ => true

/-- Every value the entry can find leaves what `get` reads alone. -/
def Silent (get : σ → α) (e : δ → Found σ) : Prop :=
  ∀ d set, e d = .value set → ∀ s, get (set s) = get s

theorem entry_value {find : δ → Option ν} {convert : ν → Option α} {set : α → σ → σ} {d : δ}
    {f : σ → σ} (h : entry find convert set d = .value f) : ∃ x, f = set x := by
  rw [entry] at h
  split at h
  · cases h
  · split at h
    · cases h
    · next x _ =>
        cases h
        exact ⟨x, rfl⟩

theorem Silent.of_set {get : σ → β} {find : δ → Option ν} {convert : ν → Option α}
    {set : α → σ → σ} (h : ∀ x s, get (set x s) = get s) :
    Silent get (entry find convert set) := by
  intro d f hf s
  obtain ⟨x, rfl⟩ := entry_value hf
  exact h x s

/-! ## Reading -/

variable {es fs : List (δ → Found σ)} {d : δ}

theorem fill_append (s : σ) :
    fill (es ++ fs) d s = if Passed es d then fill fs d (fill es d s) else fill es d s := by
  induction es generalizing s with
  | nil => rfl
  | cons e es ih =>
      cases he : e d with
      | missing => simp [fill, Passed, he, ih]
      | wrongKind => simp [fill, Passed, he]
      | value set => simp [fill, Passed, he, ih]

theorem fill_silent {get : σ → α} (h : ∀ e ∈ es, Silent get e) (s : σ) :
    get (fill es d s) = get s := by
  induction es generalizing s with
  | nil => rfl
  | cons e es ih =>
      have hes := fun s => ih (fun f hf => h f (List.mem_cons_of_mem e hf)) s
      cases he : e d with
      | missing => simp only [fill, he, hes]
      | wrongKind => simp only [fill, he]
      | value set => simp only [fill, he, hes, h e List.mem_cons_self d set he]

/-- What the document gives for an entry, if the reading gets that far. -/
def valueAt (es : List (δ → Found σ)) (find : δ → Option ν) (convert : ν → Option α) (d : δ) :
    Option α :=
  if Passed es d then (find d).bind convert else none

theorem fill_get (get : σ → α) {find : δ → Option ν} {convert : ν → Option α} {set : α → σ → σ}
    (hes : ∀ e ∈ es, Silent get e) (hfs : ∀ e ∈ fs, Silent get e)
    (hset : ∀ x s, get (set x s) = x) (s : σ) :
    get (fill (es ++ entry find convert set :: fs) d s) =
      (valueAt es find convert d).getD (get s) := by
  rw [fill_append, valueAt]
  split
  · cases hfind : find d with
    | none => simp [fill, entry, hfind, fill_silent hfs, fill_silent hes]
    | some v =>
        cases hconvert : convert v with
        | none => simp [fill, entry, hfind, hconvert, fill_silent hes]
        | some x => simp [fill, entry, hfind, hconvert, fill_silent hfs, hset]
  · exact fill_silent hes s

/-- An override that no entry reads from. -/
def Absorbed (env : σ → σ) (e : δ → Found σ) : Prop :=
  ∀ d set, e d = .value set → ∀ s, env (set (env s)) = env (set s)

theorem Absorbed.of_set {env : σ → σ} {find : δ → Option ν} {convert : ν → Option α}
    {set : α → σ → σ} (h : ∀ x s, env (set x (env s)) = env (set x s)) :
    Absorbed env (entry find convert set) := by
  intro d f hf s
  obtain ⟨x, rfl⟩ := entry_value hf
  exact h x s

/-- Records that an override makes equal stay so while the document is read. -/
theorem fill_congr {env : σ → σ} (h : ∀ e ∈ es, Absorbed env e) {s t : σ}
    (hst : env s = env t) : env (fill es d s) = env (fill es d t) := by
  induction es generalizing s t with
  | nil => exact hst
  | cons e es ih =>
      have hes := fun f hf => h f (List.mem_cons_of_mem e hf)
      cases he : e d with
      | missing =>
          simp only [fill, he]
          exact ih hes hst
      | wrongKind =>
          simp only [fill, he]
          exact hst
      | value set =>
          have hset := h e List.mem_cons_self d set he
          simp only [fill, he]
          refine ih hes ?_
          rw [← hset s, ← hset t, hst]

theorem fill_absorb {env : σ → σ} (h : ∀ e ∈ es, Absorbed env e)
    (hidem : ∀ s, env (env s) = env s) (s : σ) :
    env (fill es d (env s)) = env (fill es d s) :=
  fill_congr h (hidem s)

/-! ## What a reading leaves behind -/

/-- The values that the reading comes to, up to the first of the wrong kind. -/
def found : List (δ → Found σ) → δ → List (σ → σ)
  | [], _ => []
  | e :: es, d =>
      match e d with
      | .missing => found es d
      | .wrongKind => []
      | .value set => set :: found es d

/-- The entries write different fields. -/
def Commute (e f : δ → Found σ) : Prop :=
  ∀ d set set', e d = .value set → f d = .value set' → ∀ s, set (set' s) = set' (set s)

/-- A value that is put into the record twice makes no difference. -/
def Repeatable (e : δ → Found σ) : Prop :=
  ∀ d set, e d = .value set → ∀ s, set (set s) = set s

theorem Commute.of_set {ν' : Type*} {find : δ → Option ν} {convert : ν → Option α}
    {set : α → σ → σ} {find' : δ → Option ν'} {convert' : ν' → Option β} {set' : β → σ → σ}
    (h : ∀ x y s, set x (set' y s) = set' y (set x s)) :
    Commute (entry find convert set) (entry find' convert' set') := by
  intro d f f' hf hf' s
  obtain ⟨x, rfl⟩ := entry_value hf
  obtain ⟨y, rfl⟩ := entry_value hf'
  exact h x y s

theorem Repeatable.of_set {find : δ → Option ν} {convert : ν → Option α} {set : α → σ → σ}
    (h : ∀ x s, set x (set x s) = set x s) : Repeatable (entry find convert set) := by
  intro d f hf s
  obtain ⟨x, rfl⟩ := entry_value hf
  exact h x s

/-- A value of an entry moves past the reading of the others. -/
theorem fill_commute {e : δ → Found σ} {set : σ → σ} (he : e d = .value set)
    (h : ∀ f ∈ es, Commute e f) (s : σ) : set (fill es d s) = fill es d (set s) := by
  induction es generalizing s with
  | nil => rfl
  | cons f es ih =>
      have hes := fun s => ih (fun g hg => h g (List.mem_cons_of_mem f hg)) s
      cases hf : f d with
      | missing => simp only [fill, hf, hes]
      | wrongKind => simp only [fill, hf]
      | value set' =>
          have hswap := h f List.mem_cons_self d set set' he hf s
          simp only [fill, hf, hes, hswap]

theorem fill_eq_self_iff (hcommute : es.Pairwise Commute) (hrepeat : ∀ e ∈ es, Repeatable e)
    (s : σ) : fill es d s = s ↔ ∀ set ∈ found es d, set s = s := by
  induction es generalizing s with
  | nil => simp [fill, found]
  | cons e es ih =>
      obtain ⟨hothers, hcommute⟩ := List.pairwise_cons.mp hcommute
      have ih := ih hcommute fun f hf => hrepeat f (List.mem_cons_of_mem e hf)
      cases he : e d with
      | missing => simp only [fill, found, he, ih]
      | wrongKind => simp [fill, found, he]
      | value set =>
          simp only [fill, found, he, List.forall_mem_cons]
          constructor
          · intro h
            -- The value is written again over the result, which has it already.
            have hset : set s = s :=
              calc
                set s = set (fill es d (set s)) := by rw [h]
                _ = fill es d (set (set s)) := fill_commute he hothers _
                _ = fill es d (set s) := by rw [hrepeat e List.mem_cons_self d set he]
                _ = s := h
            rw [hset] at h
            exact ⟨hset, (ih s).mp h⟩
          · intro ⟨hset, h⟩
            rw [hset]
            exact (ih s).mpr h

end Layers
