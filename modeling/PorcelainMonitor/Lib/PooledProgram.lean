import Mathlib.Data.List.Nodup
import Mathlib.Data.List.Perm.Basic
import Mathlib.Logic.Function.Basic
import PorcelainMonitor.Lib.Steps

/-!
# Programs over a pool of resources

A pool hands out resources and takes them back.  A program acquires a resource,
makes calls on it and releases it, all by hand.  A call is answered from outside,
and the answer moves the session of the resource.  An exception ends a program
and leaves it with what it holds.

A service runs any number of such programs at once, interleaved step by step.
`Program.wp` is the weakest precondition of a program that holds at most one
resource.  If every program of a service is `Service.Sound`, then along every run
whose steps meet `Service.StepOk` the pool is conserved (`Service.statesMeet`):
nothing is lost, nothing is held twice, whoever has finished holds nothing, and
the sessions of the available resources are clean.
-/

namespace PooledProgram

/-! ## Programs -/

/-- A program that acquires and releases resources of type `ρ` and makes calls of
type `Q` on them, with answers of type `A`. -/
inductive Program (ρ Q A β : Type) where
  | pure (b : β)
  | acquire (k : ρ → Program ρ Q A β)
  | release (r : ρ) (k : Program ρ Q A β)
  | call (r : ρ) (q : Q) (k : A → Program ρ Q A β)
  | throw

namespace Program

variable {ρ Q A β γ δ : Type}

def bind : Program ρ Q A β → (β → Program ρ Q A γ) → Program ρ Q A γ
  | .pure b, f => f b
  | .acquire k, f => .acquire fun r => (k r).bind f
  | .release r k, f => .release r (k.bind f)
  | .call r q k, f => .call r q fun a => (k a).bind f
  | .throw, _ => .throw

instance : Monad (Program ρ Q A) where
  pure := .pure
  bind := .bind

/-- The value, or an exception if there is none. -/
def ofOption : Option β → Program ρ Q A β
  | some b => .pure b
  | none => .throw

/-! ## One program alone -/

/-- What a program comes to when nothing else runs: `r` is what it acquires, and
`serve` answers its calls.  There is no value if it throws. -/
def runAlone {σ : Type} (serve : σ → Q → A × σ) (r : ρ) : Program ρ Q A β → σ → Option β × σ
  | .pure b, s => (some b, s)
  | .acquire k, s => (k r).runAlone serve r s
  | .release _ k, s => k.runAlone serve r s
  | .call _ q k, s => (k (serve s q).1).runAlone serve r (serve s q).2
  | .throw, s => (none, s)

/-- A program that returns hands its value and its state on. -/
theorem runAlone_bind_some {σ : Type} {serve : σ → Q → A × σ} {r : ρ} {f : β → Program ρ Q A γ}
    {b : β} {t : σ} : ∀ {p : Program ρ Q A β} {s : σ}, p.runAlone serve r s = (some b, t) →
      (p >>= f).runAlone serve r s = (f b).runAlone serve r t
  | .pure b, s, h => by
      cases h
      rfl
  | .acquire k, s, h => runAlone_bind_some (p := k r) h
  | .release _ k, s, h => runAlone_bind_some (p := k) h
  | .call _ q k, s, h => runAlone_bind_some (p := k (serve s q).1) h
  | .throw, s, h => by cases h

/-- Two ways of answering that keep in step make a program come to the same. -/
theorem runAlone_simulates {σ τ : Type} {serve : σ → Q → A × σ} {serve' : τ → Q → A × τ} {r : ρ}
    {Rel : σ → τ → Prop}
    (hstep : ∀ s t q, Rel s t → (serve s q).1 = (serve' t q).1 ∧ Rel (serve s q).2 (serve' t q).2) :
    ∀ (p : Program ρ Q A β) {s : σ} {t : τ}, Rel s t →
      (p.runAlone serve r s).1 = (p.runAlone serve' r t).1 ∧
        Rel (p.runAlone serve r s).2 (p.runAlone serve' r t).2
  | .pure _, _, _, h => ⟨rfl, h⟩
  | .acquire k, _, _, h => runAlone_simulates hstep (k r) h
  | .release _ k, _, _, h => runAlone_simulates hstep k h
  | .call _ q k, s, t, h => by
      obtain ⟨hanswer, hrel⟩ := hstep s t q h
      rw [runAlone, runAlone, hanswer]
      exact runAlone_simulates hstep (k (serve' t q).1) hrel
  | .throw, _, _, h => ⟨rfl, h⟩

/-- What a program alone gives back, each with the state it is given back in. -/
def releases {σ : Type} (serve : σ → Q → A × σ) (r : ρ) : Program ρ Q A β → σ → List (ρ × σ)
  | .pure _, _ => []
  | .acquire k, s => (k r).releases serve r s
  | .release r' k, s => (r', s) :: k.releases serve r s
  | .call _ q k, s => (k (serve s q).1).releases serve r (serve s q).2
  | .throw, _ => []

/-- A program alone returns, and its value, its state and its releases are such. -/
def Ends {σ : Type} (serve : σ → Q → A × σ) (r : ρ) (p : Program ρ Q A β) (s : σ)
    (post : β → σ → List (ρ × σ) → Prop) : Prop :=
  ∃ b t, p.runAlone serve r s = (some b, t) ∧ post b t (p.releases serve r s)

section Ends

variable {σ : Type} {serve : σ → Q → A × σ} {r : ρ} {s : σ}

theorem ends_pure {post : β → σ → List (ρ × σ) → Prop} {b : β} (h : post b s []) :
    (.pure b : Program ρ Q A β).Ends serve r s post :=
  ⟨b, s, rfl, h⟩

theorem ends_acquire {post : β → σ → List (ρ × σ) → Prop} {k : ρ → Program ρ Q A β}
    (h : (k r).Ends serve r s post) : (Program.acquire k).Ends serve r s post := h

theorem ends_release {post : β → σ → List (ρ × σ) → Prop} {r' : ρ} {k : Program ρ Q A β}
    (h : k.Ends serve r s fun b t gone => post b t ((r', s) :: gone)) :
    (Program.release r' k).Ends serve r s post := h

theorem ends_call {post : β → σ → List (ρ × σ) → Prop} {r' : ρ} {q : Q} {a : A} {t : σ}
    {k : A → Program ρ Q A β} (hserve : serve s q = (a, t)) (h : (k a).Ends serve r t post) :
    (Program.call r' q k).Ends serve r s post := by
  show (k (serve s q).1).Ends serve r (serve s q).2 post
  rw [hserve]
  exact h

end Ends

/-- A program alone comes to this, with no value if it throws. -/
def ComesTo {σ : Type} (serve : σ → Q → A × σ) (r : ρ) (p : Program ρ Q A β) (s : σ)
    (post : Option β → σ → Prop) : Prop :=
  post (p.runAlone serve r s).1 (p.runAlone serve r s).2

section ComesTo

variable {σ : Type} {serve : σ → Q → A × σ} {r : ρ} {s t : σ}

theorem comesTo_call {post : Option β → σ → Prop} {r' : ρ} {q : Q} {a : A}
    {k : A → Program ρ Q A β} (hserve : serve s q = (a, t)) (h : (k a).ComesTo serve r t post) :
    (Program.call r' q k).ComesTo serve r s post := by
  show (k (serve s q).1).ComesTo serve r (serve s q).2 post
  rw [hserve]
  exact h

/-- The rest of a program, once its first part has returned. -/
theorem comesTo_bind {p : Program ρ Q A β} {f : β → Program ρ Q A γ} {b : β}
    {post : Option γ → σ → Prop} (h : p.runAlone serve r s = (some b, t))
    (hf : (f b).ComesTo serve r t post) : (p >>= f).ComesTo serve r s post := by
  rw [ComesTo, runAlone_bind_some h]
  exact hf

end ComesTo

/-! ## Calls -/

/-- The program makes the call, for some resources and answers. -/
def Calls (q : Q) : Program ρ Q A β → Prop
  | .pure _ => False
  | .acquire k => ∃ r, (k r).Calls q
  | .release _ k => k.Calls q
  | .call _ q' k => q' = q ∨ ∃ a, (k a).Calls q
  | .throw => False

/-- What makes no call can follow a program. -/
theorem calls_bind_of_silent {q : Q} {f : β → Program ρ Q A γ} (hf : ∀ b, ¬ (f b).Calls q)
    (p : Program ρ Q A β) : (p >>= f).Calls q ↔ p.Calls q := by
  show (p.bind f).Calls q ↔ _
  induction p with
  | pure b => exact iff_of_false (hf b) id
  | acquire k ih => exact exists_congr fun r => ih r
  | release r k ih => exact ih
  | call r q' k ih => exact or_congr_right (exists_congr fun a => ih a)
  | throw => exact Iff.rfl

/-- The program makes no other calls than these, whatever it is answered. -/
def Only (allowed : Q → Prop) : Program ρ Q A β → Prop
  | .pure _ => True
  | .acquire k => ∀ r, (k r).Only allowed
  | .release _ k => k.Only allowed
  | .call _ q k => allowed q ∧ ∀ a, (k a).Only allowed
  | .throw => True

theorem only_bind {allowed : Q → Prop} {p : Program ρ Q A β} {f : β → Program ρ Q A γ}
    (hp : p.Only allowed) (hf : ∀ b, (f b).Only allowed) : (p >>= f).Only allowed := by
  show (p.bind f).Only allowed
  induction p with
  | pure b => exact hf b
  | acquire k ih => exact fun r => ih r (hp r)
  | release r k ih => exact ih hp
  | call r q k ih => exact ⟨hp.1, fun a => ih a (hp.2 a)⟩
  | throw => trivial

theorem only_bind_ofOption {allowed : Q → Prop} {x : Option β} {f : β → Program ρ Q A γ}
    (hf : ∀ b ∈ x, (f b).Only allowed) :
    ((ofOption x : Program ρ Q A β) >>= f).Only allowed := by
  cases x with
  | none => trivial
  | some b => exact hf b rfl

/-- What its calls keep, a program alone keeps. -/
theorem Only.runAlone {σ : Type} {serve : σ → Q → A × σ} {r : ρ} {allowed : Q → Prop}
    {Inv : σ → Prop} (keep : ∀ s q, allowed q → Inv s → Inv (serve s q).2) :
    ∀ {p : Program ρ Q A β} {s : σ}, p.Only allowed → Inv s → Inv (p.runAlone serve r s).2
  | .pure _, _, _, hs => hs
  | .acquire k, _, hp, hs => Only.runAlone keep (p := k r) (hp r) hs
  | .release _ k, _, hp, hs => Only.runAlone keep (p := k) hp hs
  | .call _ q k, s, hp, hs =>
      Only.runAlone keep (p := k (serve s q).1) (hp.2 _) (keep s q hp.1 hs)
  | .throw, _, _, hs => hs

/-! ## Weakest preconditions -/

/-- What has to hold before the program, so that it acquires only when it holds
nothing, calls and releases only what it holds, releases only clean sessions, and
ends in `post`.  A resource is held together with its session.  The answers are
those that `ans` allows, and an exception asks for nothing. -/
def wp (ans : δ → Q → A → δ → Prop) (clean : δ → Prop) :
    Program ρ Q A β → (β → Option (ρ × δ) → Prop) → Option (ρ × δ) → Prop
  | .pure b, post, h => post b h
  | .acquire k, post, h => h = none ∧ ∀ r d, clean d → (k r).wp ans clean post (some (r, d))
  | .release r k, post, h => (∃ d, h = some (r, d) ∧ clean d) ∧ k.wp ans clean post none
  | .call r q k, post, h =>
      ∃ d, h = some (r, d) ∧ ∀ a d', ans d q a d' → (k a).wp ans clean post (some (r, d'))
  | .throw, _, _ => True

section Rules

variable {ans : δ → Q → A → δ → Prop} {clean : δ → Prop}

theorem wp_bind (p : Program ρ Q A β) (f : β → Program ρ Q A γ)
    (post : γ → Option (ρ × δ) → Prop) (h : Option (ρ × δ)) :
    (p >>= f).wp ans clean post h ↔
      p.wp ans clean (fun b h' => (f b).wp ans clean post h') h := by
  show (p.bind f).wp ans clean post h ↔ _
  induction p generalizing h with
  | pure b => rfl
  | acquire k ih => exact and_congr_right fun _ => forall₃_congr fun r d _ => ih r _
  | release r k ih => exact and_congr_right fun _ => ih _
  | call r q k ih =>
      exact exists_congr fun d => and_congr_right fun _ => forall₃_congr fun a d' _ => ih a _
  | throw => rfl

theorem wp_ofOption {x : Option β} {post : β → Option (ρ × δ) → Prop} {h : Option (ρ × δ)}
    (hpost : ∀ b, x = some b → post b h) : (ofOption x : Program ρ Q A β).wp ans clean post h := by
  cases x with
  | none => trivial
  | some b => exact hpost b rfl

end Rules

end Program

/-! ## Services -/

/-- The operations that run over one pool. -/
structure Service (ρ δ Q A : Type) where
  Op : Type
  Result : Op → Type
  code : (op : Op) → Program ρ Q A (Result op)
  /-- The answers a call may get in a session, and the session after each. -/
  answers : δ → Q → A → δ → Bool
  /-- A session as it is when nothing has been done with it. -/
  clean : δ → Bool

/-- How far a program has got. -/
inductive Status (ρ Q A β : Type) where
  | running (p : Program ρ Q A β)
  | returned (b : β)
  | threw

namespace Service

variable {ρ δ Q A : Type} (S : Service ρ δ Q A)

/-- A running operation, with the resources it has acquired and not released. -/
structure Thread where
  op : S.Op
  status : Status ρ Q A (S.Result op)
  held : List ρ

/-- What the operations share. -/
structure Shared (ρ δ : Type) where
  available : List ρ
  session : ρ → δ

structure State where
  pool : List ρ
  shared : Shared ρ δ
  threads : List S.Thread

/-- How an operation moves. -/
inductive Move (A δ : Type) where
  /-- It takes its next step that is not a call. -/
  | go
  /-- Its call is answered, and the session is then in this state. -/
  | answer (a : A) (d : δ)
  /-- Something it calls throws. -/
  | throw

inductive Event where
  | start (op : S.Op)
  | move (i : Nat) (m : Move A δ)

variable {S}

/-- The operation has returned or thrown. -/
def Thread.finished (th : S.Thread) : Bool :=
  match th.status with
  | .running _ => false
  | .returned _ => true
  | .threw => true

variable [DecidableEq ρ]

/-- A move of one operation.  The pool hands out what it got back last. -/
def Thread.step (th : S.Thread) (sh : Shared ρ δ) (m : Move A δ) :
    Option (S.Thread × Shared ρ δ) :=
  match th.status, m with
  | .running (.pure b), .go => some ({ th with status := .returned b }, sh)
  | .running (.acquire k), .go =>
      match sh.available.getLast? with
      | some r => some ({ th with status := .running (k r), held := r :: th.held },
          { sh with available := sh.available.dropLast })
      | none => none
  | .running (.release r k), .go =>
      some ({ th with status := .running k, held := th.held.erase r },
        { sh with available := sh.available ++ [r] })
  | .running .throw, .go => some ({ th with status := .threw }, sh)
  | .running (.call r q k), .answer a d =>
      if S.answers (sh.session r) q a d then
        some ({ th with status := .running (k a) },
          { sh with session := Function.update sh.session r d })
      else none
  | .running _, .throw => some ({ th with status := .threw }, sh)
  | _, _ => none

def State.step (s : S.State) : S.Event → Option S.State
  | .start op => some { s with threads := s.threads ++ [⟨op, .running (S.code op), []⟩] }
  | .move i m =>
      match s.threads[i]? with
      | some th =>
          match th.step s.shared m with
          | some (th', shared') => some { s with shared := shared', threads := s.threads.set i th' }
          | none => none
      | none => none

/-! ## The condition -/

/-- An operation does not throw while it holds something, and its calls get only
answers that fit. -/
def Thread.MoveOk (fits : S.Op → δ → Q → A → δ → Prop) (th : S.Thread) (sh : Shared ρ δ) :
    Move A δ → Prop
  | .go => th.status = .running .throw → th.held = []
  | .answer a d => ∀ r q k, th.status = .running (.call r q k) → fits th.op (sh.session r) q a d
  | .throw => th.held = []

def StepOk (fits : S.Op → δ → Q → A → δ → Prop) (s : S.State) : S.Event → Prop
  | .start _ => True
  | .move i m => ∀ th, s.threads[i]? = some th → th.MoveOk fits s.shared m

omit [DecidableEq ρ] in
theorem StepOk.move {fits : S.Op → δ → Q → A → δ → Prop} {s : S.State} {i : Nat} {m : Move A δ}
    {th : S.Thread} (hth : s.threads[i]? = some th) (h : th.MoveOk fits s.shared m) :
    StepOk fits s (.move i m) := by
  intro th' hth'
  cases hth.symm.trans hth'
  exact h

/-! ## Conservation -/

/-- What the running operations hold. -/
def State.held (s : S.State) : List ρ :=
  s.threads.flatMap fun th => if th.finished then [] else th.held

/-- Nothing is lost and nothing is held twice. -/
structure Conserved (s : S.State) : Prop where
  /-- The available resources and the held ones make up the pool. -/
  perm : (s.shared.available ++ s.held).Perm s.pool
  nodup : s.pool.Nodup
  exclusive : ∀ (i j : Nat) (th th' : S.Thread), s.threads[i]? = some th →
    s.threads[j]? = some th' → i ≠ j → th.held.Disjoint th'.held
  /-- Whoever has finished has given back what it acquired. -/
  finished : ∀ th ∈ s.threads, th.finished = true → th.held = []
  clean : ∀ r ∈ s.shared.available, S.clean (s.shared.session r) = true

/-! ## One move -/

/-- The program ends holding nothing, from what the operation holds now. -/
def Safe (fits : S.Op → δ → Q → A → δ → Prop) (op : S.Op) (p : Program ρ Q A (S.Result op))
    (h : Option (ρ × δ)) : Prop :=
  p.wp (fun d q a d' => S.answers d q a d' = true ∧ fits op d q a d') (fun d => S.clean d = true)
    (fun _ h => h = none) h

/-- A running operation holds at most one resource, and the rest of its program
is safe from there.  A finished one holds nothing. -/
def Thread.Ok (fits : S.Op → δ → Q → A → δ → Prop) (session : ρ → δ) (th : S.Thread) : Prop :=
  match th.status with
  | .running p => (th.held = [] ∧ Safe fits th.op p none) ∨
      ∃ r, th.held = [r] ∧ Safe fits th.op p (some (r, session r))
  | .returned _ => th.held = []
  | .threw => th.held = []

section Thread

variable {fits : S.Op → δ → Q → A → δ → Prop} {th th' : S.Thread} {sh sh' : Shared ρ δ}
  {m : Move A δ}

omit [DecidableEq ρ] in
/-- Sessions that an operation does not hold do not matter to it. -/
theorem Thread.Ok.congr {session session' : ρ → δ} (h : th.Ok fits session)
    (hsame : ∀ r ∈ th.held, session' r = session r) : th.Ok fits session' := by
  unfold Thread.Ok at *
  cases hs : th.status with
  | running p =>
      rw [hs] at h
      rcases h with h | ⟨r, hr, h⟩
      · exact .inl h
      · refine .inr ⟨r, hr, ?_⟩
        rwa [hsame r (by simp [hr])]
  | returned b =>
      rw [hs] at h
      exact h
  | threw =>
      rw [hs] at h
      exact h

/-- A move keeps the operation in order and the available sessions clean, and
passes resources only between the pool and the operation. -/
theorem Thread.step_ok (h : th.Ok fits sh.session) (hok : th.MoveOk fits sh m)
    (hclean : ∀ r ∈ sh.available, S.clean (sh.session r) = true)
    (hdisjoint : ∀ r ∈ th.held, r ∉ sh.available) (hst : th.step sh m = some (th', sh')) :
    th'.Ok fits sh'.session ∧ (∀ r ∈ sh'.available, S.clean (sh'.session r) = true) ∧
      (sh'.available ++ th'.held).Perm (sh.available ++ th.held) ∧
      ∀ r, r ∉ th.held → sh'.session r = sh.session r := by
  obtain ⟨op, status, held⟩ := th
  -- Without the lock step of the pool or of a session nothing is left to show.
  have hsame : ∀ th' : S.Thread, th'.Ok fits sh.session → th'.held = held →
      th'.Ok fits sh.session ∧ (∀ r ∈ sh.available, S.clean (sh.session r) = true) ∧
        (sh.available ++ th'.held).Perm (sh.available ++ held) ∧
        ∀ r, r ∉ held → sh.session r = sh.session r :=
    fun th' hth' hheld => ⟨hth', hclean, by rw [hheld], fun _ _ => rfl⟩
  cases status with
  | returned b => cases m <;> cases hst
  | threw => cases m <;> cases hst
  | running p =>
      cases m with
      | throw =>
          have hheld : held = [] := hok
          cases p <;> (cases hst; exact hsame _ hheld rfl)
      | go =>
          cases p with
          | pure b =>
              cases hst
              rcases h with ⟨hheld, _⟩ | ⟨r, _, hr⟩
              · exact hsame _ hheld rfl
              · cases hr
          | acquire k =>
              rcases h with ⟨rfl, _, hk⟩ | ⟨r, _, hr, _⟩
              · simp only [Thread.step] at hst
                split at hst
                · next r hlast =>
                    cases hst
                    have hmem : r ∈ sh.available := List.mem_of_getLast? hlast
                    refine ⟨.inr ⟨r, rfl, hk r _ (hclean r hmem)⟩,
                      fun r' hr' => hclean r' (List.dropLast_subset _ hr'), ?_, fun _ _ => rfl⟩
                    rw [List.append_nil, List.dropLast_append_getLast? r hlast]
                · cases hst
              · cases hr
          | release r k =>
              rcases h with ⟨_, ⟨d, hd, _⟩, _⟩ | ⟨r', rfl, ⟨d, hd, hclosed⟩, hk⟩
              · cases hd
              · cases hd
                cases hst
                refine ⟨.inl ⟨by simp, hk⟩, fun r' hr' => ?_, by simp, fun _ _ => rfl⟩
                rcases List.mem_append.mp hr' with hr' | hr'
                · exact hclean r' hr'
                · rwa [List.mem_singleton.mp hr']
          | call r q k => cases hst
          | throw =>
              cases hst
              exact hsame _ (hok rfl) rfl
      | answer a d =>
          cases p with
          | call r q k =>
              rcases h with ⟨_, d', hd', _⟩ | ⟨r', rfl, d', hd', hk⟩
              · cases hd'
              · cases hd'
                simp only [Thread.step] at hst
                split at hst
                · next hanswer =>
                    cases hst
                    have hr : r ∉ sh.available := hdisjoint r (List.mem_singleton.mpr rfl)
                    refine ⟨.inr ⟨r, rfl, ?_⟩, fun r' hr' => ?_, .refl _, fun r' hr' => ?_⟩
                    · show Safe fits op (k a) (some (r, Function.update sh.session r d r))
                      rw [Function.update_self]
                      exact hk a d ⟨hanswer, hok r q k rfl⟩
                    · have hne : r' ≠ r := fun he => hr (he ▸ hr')
                      show S.clean (Function.update sh.session r d r') = true
                      rw [Function.update_of_ne hne]
                      exact hclean r' hr'
                    · have hne : r' ≠ r := fun he => hr' (List.mem_singleton.mpr he)
                      exact Function.update_of_ne hne d sh.session
                · cases hst
          | _ => cases hst

end Thread

/-! ## Any step -/

/-- A list at one of its members, and with another one in its place. -/
theorem exists_append_of_getElem? {α : Type*} : ∀ {l : List α} {i : Nat} {a : α}, l[i]? = some a →
    ∃ before after, l = before ++ a :: after ∧ ∀ b, l.set i b = before ++ b :: after
  | [], i, a, h => by simp at h
  | c :: l, 0, a, h => by
      cases h
      exact ⟨[], l, rfl, fun _ => rfl⟩
  | c :: l, i + 1, a, h => by
      obtain ⟨before, after, hl, hset⟩ := exists_append_of_getElem? (l := l) h
      exact ⟨c :: before, after, by rw [hl, List.cons_append],
        fun b => by rw [List.set_cons_succ, hset, List.cons_append]⟩

variable {fits : S.Op → δ → Q → A → δ → Prop}

/-- The resources are where they should be, and every operation is in order. -/
structure Inv (fits : S.Op → δ → Q → A → δ → Prop) (s : S.State) : Prop where
  perm : (s.shared.available ++ s.threads.flatMap Thread.held).Perm s.pool
  nodup : s.pool.Nodup
  clean : ∀ r ∈ s.shared.available, S.clean (s.shared.session r) = true
  threads : ∀ th ∈ s.threads, th.Ok fits s.shared.session

/-- The programs of a service are safe to start with nothing. -/
def Sound (fits : S.Op → δ → Q → A → δ → Prop) : Prop := ∀ op, Safe fits op (S.code op) none

omit [DecidableEq ρ] in
theorem Thread.Ok.held_of_finished {session : ρ → δ} {th : S.Thread} (h : th.Ok fits session)
    (hfinished : th.finished = true) : th.held = [] := by
  unfold Thread.Ok at h
  unfold Thread.finished at hfinished
  cases hs : th.status with
  | running p =>
      rw [hs] at hfinished
      cases hfinished
  | returned b =>
      rw [hs] at h
      exact h
  | threw =>
      rw [hs] at h
      exact h

omit [DecidableEq ρ] in
theorem Inv.conserved {s : S.State} (h : Inv fits s) : Conserved s := by
  have hnodup : (s.shared.available ++ s.threads.flatMap Thread.held).Nodup :=
    h.perm.nodup_iff.mpr h.nodup
  have hheld : s.held = s.threads.flatMap Thread.held := by
    refine List.flatMap_congr fun th hth => ?_
    split
    · next hfinished => exact ((h.threads th hth).held_of_finished hfinished).symm
    · rfl
  refine ⟨hheld ▸ h.perm, h.nodup, ?_, fun th hth => (h.threads th hth).held_of_finished, h.clean⟩
  have hpair := (List.nodup_flatMap.mp hnodup.of_append_right).2
  rw [List.pairwise_iff_getElem] at hpair
  intro i j th th' hth hth' hij
  obtain ⟨hi, rfl⟩ := List.getElem?_eq_some_iff.mp hth
  obtain ⟨hj, rfl⟩ := List.getElem?_eq_some_iff.mp hth'
  rcases Nat.lt_or_gt_of_ne hij with hlt | hlt
  · exact hpair i j hi hj hlt
  · exact fun r hr hr' => hpair j i hj hi hlt hr' hr

/-- A move of one operation keeps the invariant.  The others do not notice it,
since they hold other resources. -/
theorem Inv.move {s : S.State} (h : Inv fits s) {i : Nat} {m : Move A δ} {th th' : S.Thread}
    {shared' : Shared ρ δ} (hth : s.threads[i]? = some th) (hok : th.MoveOk fits s.shared m)
    (hmove : th.step s.shared m = some (th', shared')) :
    Inv fits { s with shared := shared', threads := s.threads.set i th' } := by
  obtain ⟨pool, shared, threads⟩ := s
  obtain ⟨before, after, rfl, hset⟩ := exists_append_of_getElem? hth
  let others : List ρ := before.flatMap Thread.held ++ after.flatMap Thread.held
  have hsplit : ∀ (available : List ρ) (th : S.Thread),
      (available ++ (before ++ th :: after).flatMap Thread.held).Perm
        ((available ++ th.held) ++ others) := by
    intro available th
    rw [List.flatMap_append, List.flatMap_cons, List.append_assoc]
    exact (List.perm_append_comm_assoc _ _ _).append_left available
  have hperm : ((shared.available ++ th.held) ++ others).Perm pool :=
    (hsplit shared.available th).symm.trans h.perm
  have hnodup : ((shared.available ++ th.held) ++ others).Nodup := hperm.nodup_iff.mpr h.nodup
  have hdisjoint : ∀ r ∈ th.held, r ∉ shared.available := fun r hr hmem =>
    (List.disjoint_of_nodup_append hnodup.of_append_left) hmem hr
  have hmem : th ∈ before ++ th :: after := List.mem_append_right _ List.mem_cons_self
  obtain ⟨hok', hclean', hmoved, hframe⟩ :=
    Thread.step_ok (h.threads th hmem) hok h.clean hdisjoint hmove
  have hother : ∀ th₀ : S.Thread, th₀ ∈ before ++ th :: after → (∀ r ∈ th₀.held, r ∈ others) →
      th₀.Ok fits shared'.session := by
    intro th₀ hmem₀ hsub
    refine (h.threads th₀ hmem₀).congr fun r hr => hframe r fun hheld => ?_
    exact (List.disjoint_of_nodup_append hnodup) (List.mem_append_right _ hheld) (hsub r hr)
  refine ⟨?_, h.nodup, hclean', fun th₀ hmem₀ => ?_⟩
  · show (shared'.available ++ ((before ++ th :: after).set i th').flatMap Thread.held).Perm pool
    rw [hset]
    exact (hsplit shared'.available th').trans ((hmoved.append_right others).trans hperm)
  · change th₀ ∈ (before ++ th :: after).set i th' at hmem₀
    rw [hset] at hmem₀
    rcases List.mem_append.mp hmem₀ with hbefore | hafter
    · refine hother th₀ (List.mem_append_left _ hbefore) fun r hr => ?_
      exact List.mem_append_left _ (List.mem_flatMap.mpr ⟨th₀, hbefore, hr⟩)
    · rcases List.mem_cons.mp hafter with rfl | hafter
      · exact hok'
      · refine hother th₀ (List.mem_append_right _ (List.mem_cons_of_mem _ hafter)) fun r hr => ?_
        exact List.mem_append_right _ (List.mem_flatMap.mpr ⟨th₀, hafter, hr⟩)

theorem Inv.step {s t : S.State} {e : S.Event} (hsound : S.Sound fits) (h : Inv fits s)
    (hok : StepOk fits s e) (hst : s.step e = some t) : Inv fits t := by
  cases e with
  | start op =>
      cases hst
      refine ⟨?_, h.nodup, h.clean, fun th hth => ?_⟩
      · simpa using h.perm
      · rcases List.mem_append.mp hth with hth | hth
        · exact h.threads th hth
        · rw [List.mem_singleton.mp hth]
          exact .inl ⟨rfl, hsound op⟩
  | move i m =>
      simp only [State.step] at hst
      split at hst
      · next th hth =>
          split at hst
          · next th' shared' hmove =>
              cases hst
              exact h.move hth (hok th hth) hmove
          · cases hst
      · cases hst

omit [DecidableEq ρ] in
theorem Inv.init (pool : List ρ) (session : ρ → δ) (hnodup : pool.Nodup)
    (hclean : ∀ r ∈ pool, S.clean (session r) = true) :
    Inv fits (⟨pool, ⟨pool, session⟩, []⟩ : S.State) where
  perm := by simp
  nodup := hnodup
  clean := hclean
  threads := fun _ hth => by cases hth

/-- A sound service conserves its pool along every run whose steps meet the
condition. -/
theorem statesMeet {s : S.State} {es : List S.Event} (hsound : S.Sound fits) (h : Inv fits s)
    (hok : Steps.StepsMeet State.step (StepOk fits) s es) :
    Steps.StatesMeet State.step Conserved s es :=
  Steps.statesMeet_of (fun _ _ _ hs he hst => hs.step hsound he hst) (fun _ hs => hs.conserved) h
    hok

end Service

end PooledProgram
