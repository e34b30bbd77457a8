import Mathlib.Data.List.Pairwise
import PorcelainMonitor.Lib.PooledProgram

/-!
# Deadlock over a pool of resources

A program is disciplined if it acquires only when it holds nothing, uses only what it
holds and returns holding nothing.  What it holds when it throws is lost.

Nothing else can stop a service of disciplined programs: as long as a resource is left,
some operation can go on (`Service.deadlocked_iff`).  What is lost stays lost, so a service
that has lost everything never recovers (`Service.exhausted_forever`), and operations that
throw as soon as they hold something bring it there (`Service.exec_drain`).
-/

namespace PooledProgram

variable {ρ δ Q A β γ : Type}

/-! ## Disciplined programs -/

namespace Program

/-- The program keeps to what it holds, and ends in `post`. -/
def Uses : Program ρ Q A β → (β → Option ρ → Prop) → Option ρ → Prop
  | .pure b, post, h => post b h
  | .acquire k, post, h => h = none ∧ ∀ r, (k r).Uses post (some r)
  | .release r k, post, h => h = some r ∧ k.Uses post none
  | .call r _ k, post, h => h = some r ∧ ∀ a, (k a).Uses post (some r)
  | .throw, _, _ => True

theorem uses_bind {p : Program ρ Q A β} {f : β → Program ρ Q A γ} {post : γ → Option ρ → Prop}
    {h : Option ρ} (hp : p.Uses (fun b h' => (f b).Uses post h') h) : (p >>= f).Uses post h := by
  show (p.bind f).Uses post h
  induction p generalizing h with
  | pure b => exact hp
  | acquire k ih => exact ⟨hp.1, fun r => ih r (hp.2 r)⟩
  | release r k ih => exact ⟨hp.1, ih hp.2⟩
  | call r q k ih => exact ⟨hp.1, fun a => ih a (hp.2 a)⟩
  | throw => trivial

theorem uses_ofOption {x : Option β} {post : β → Option ρ → Prop} {h : Option ρ}
    (hpost : ∀ b, post b h) : (ofOption x : Program ρ Q A β).Uses post h := by
  cases x with
  | none => trivial
  | some b => exact hpost b

/-- The program returns holding nothing. -/
def Disciplined (p : Program ρ Q A β) (h : Option ρ) : Prop := p.Uses (fun _ h' => h' = none) h

end Program

namespace Service

variable {S : Service ρ δ Q A}

/-! ## The ledger -/

/-- A running operation is disciplined from here on, and holds at most one resource.
One that has returned holds nothing. -/
def Thread.InOrder (th : S.Thread) : Prop :=
  match th.status with
  | .running p => (th.held = [] ∧ p.Disciplined none) ∨
      ∃ r, th.held = [r] ∧ p.Disciplined (some r)
  | .returned _ => th.held = []
  | .threw => True

/-- Every resource is available or with an operation. -/
structure Ledger (s : S.State) : Prop where
  perm : (s.shared.available ++ s.threads.flatMap Thread.held).Perm s.pool
  threads : ∀ th ∈ s.threads, th.InOrder

theorem Ledger.init (pool : List ρ) (session : ρ → δ) :
    Ledger (⟨pool, ⟨pool, session⟩, []⟩ : S.State) where
  perm := by simp
  threads := fun _ hth => by cases hth

variable [DecidableEq ρ]

/-- A move leaves the operation in order and passes resources between it and the pool. -/
theorem Thread.step_inOrder {th th' : S.Thread} {sh sh' : Shared ρ δ} {m : Move A δ}
    (h : th.InOrder) (hst : th.step sh m = some (th', sh')) :
    th'.InOrder ∧ (sh'.available ++ th'.held).Perm (sh.available ++ th.held) := by
  obtain ⟨op, status, held⟩ := th
  cases status with
  | returned b => cases m <;> cases hst
  | threw => cases m <;> cases hst
  | running p =>
      cases m with
      | throw => cases p <;> (cases hst; exact ⟨trivial, .refl _⟩)
      | go =>
          cases p with
          | pure b =>
              cases hst
              rcases h with ⟨hheld, _⟩ | ⟨r, _, hr⟩
              · exact ⟨hheld, .refl _⟩
              · cases hr
          | acquire k =>
              rcases h with ⟨rfl, _, hk⟩ | ⟨r, _, hr, _⟩
              · simp only [Thread.step] at hst
                split at hst
                · next r hlast =>
                    cases hst
                    refine ⟨.inr ⟨r, rfl, hk r⟩, ?_⟩
                    rw [List.append_nil, List.dropLast_append_getLast? r hlast]
                · cases hst
              · cases hr
          | release r k =>
              rcases h with ⟨_, hr, _⟩ | ⟨r', rfl, hr, hk⟩
              · cases hr
              · cases hr
                cases hst
                exact ⟨.inl ⟨by simp, hk⟩, by simp⟩
          | call r q k => cases hst
          | throw =>
              cases hst
              exact ⟨trivial, .refl _⟩
      | answer a d =>
          cases p with
          | call r q k =>
              rcases h with ⟨_, hr, _⟩ | ⟨r', rfl, hr, hk⟩
              · cases hr
              · cases hr
                simp only [Thread.step] at hst
                split at hst
                · cases hst
                  exact ⟨.inr ⟨r, rfl, hk a⟩, .refl _⟩
                · cases hst
          | _ => cases hst

/-- A step is the start of an operation or a move of one that runs. -/
theorem State.step_cases {s t : S.State} {e : S.Event} (hst : s.step e = some t) :
    (∃ op, t = { s with threads := s.threads ++ [⟨op, .running (S.code op), []⟩] }) ∨
      ∃ i m th th' shared', e = .move i m ∧ s.threads[i]? = some th ∧
        th.step s.shared m = some (th', shared') ∧
        t = { s with shared := shared', threads := s.threads.set i th' } := by
  cases e with
  | start op =>
      cases hst
      exact .inl ⟨op, rfl⟩
  | move i m =>
      simp only [State.step] at hst
      split at hst
      · next th hth =>
          split at hst
          · next th' shared' hmove =>
              cases hst
              exact .inr ⟨i, m, th, th', shared', rfl, hth, hmove, rfl⟩
          · cases hst
      · cases hst

theorem Ledger.step {s t : S.State} {e : S.Event} (hcode : ∀ op, (S.code op).Disciplined none)
    (h : Ledger s) (hst : s.step e = some t) : Ledger t := by
  rcases State.step_cases hst with ⟨op, rfl⟩ | ⟨i, m, th, th', shared', -, hth, hmove, rfl⟩
  · refine ⟨by simpa using h.perm, fun th hth => ?_⟩
    rcases List.mem_append.mp hth with hth | hth
    · exact h.threads th hth
    · rw [List.mem_singleton.mp hth]
      exact .inl ⟨rfl, hcode op⟩
  · obtain ⟨hth', hmoved⟩ := Thread.step_inOrder (h.threads th (List.mem_of_getElem? hth)) hmove
    obtain ⟨before, after, hsplit, hset⟩ := exists_append_of_getElem? hth
    refine ⟨?_, fun th₀ hth₀ => ?_⟩
    · have hbefore := h.perm
      rw [hsplit, List.flatMap_append, List.flatMap_cons] at hbefore
      show (shared'.available ++ (s.threads.set i th').flatMap Thread.held).Perm s.pool
      rw [hset, List.flatMap_append, List.flatMap_cons]
      refine .trans ?_ hbefore
      refine (List.perm_append_comm_assoc ..).trans
        (.trans (.append_left _ ?_) (List.perm_append_comm_assoc ..).symm)
      rw [← List.append_assoc, ← List.append_assoc]
      exact hmoved.append_right _
    · rcases List.mem_or_eq_of_mem_set hth₀ with hold | rfl
      · exact h.threads th₀ hold
      · exact hth'

/-! ## Deadlock -/

/-- The operation waits for a resource. -/
def Thread.Waits (th : S.Thread) : Prop := ∃ k, th.status = .running (.acquire k)

/-- An operation has thrown while it held the resource. -/
def Lost (s : S.State) (r : ρ) : Prop := ∃ th ∈ s.threads, th.status = .threw ∧ r ∈ th.held

def AllLost (s : S.State) : Prop := ∀ r ∈ s.pool, Lost s r

/-- Operations are under way, and none of them can go on. -/
def Deadlocked (s : S.State) : Prop :=
  (∃ th ∈ s.threads, th.finished = false) ∧
    ∀ i m, m ≠ .throw → s.step (.move i m) = none

/-- Every call gets some answer. -/
def Responsive (S : Service ρ δ Q A) : Prop := ∀ d q, ∃ a d', S.answers d q a d' = true

theorem State.step_move {s : S.State} {i : Nat} {m : Move A δ} {th : S.Thread}
    (hth : s.threads[i]? = some th) : s.step (.move i m) = none ↔ th.step s.shared m = none := by
  simp only [State.step, hth]
  cases th.step s.shared m <;> simp

/-- A running operation can go on, unless it waits and nothing is available. -/
theorem Thread.stuck_iff (hresponsive : Responsive S) (th : S.Thread) (sh : Shared ρ δ) :
    (∀ m, m ≠ .throw → th.step sh m = none) ↔
      th.finished = true ∨ th.Waits ∧ sh.available = [] := by
  obtain ⟨op, status, held⟩ := th
  have hwaits : ∀ {p}, (∀ k, p ≠ .acquire k) →
      ¬ Thread.Waits (⟨op, .running p, held⟩ : S.Thread) := by
    rintro p hp ⟨k, hk⟩
    exact hp k (Status.running.inj hk)
  cases status with
  | returned b => exact iff_of_true (fun m _ => by cases m <;> rfl) (.inl rfl)
  | threw => exact iff_of_true (fun m _ => by cases m <;> rfl) (.inl rfl)
  | running p =>
      have hruns : Thread.finished (⟨op, .running p, held⟩ : S.Thread) = false := rfl
      rw [hruns]
      simp only [Bool.false_eq_true, false_or]
      cases p with
      | acquire k =>
          constructor
          · intro h
            refine ⟨⟨k, rfl⟩, ?_⟩
            have hgo := h .go (by simp)
            simp only [Thread.step] at hgo
            split at hgo
            · cases hgo
            · next hlast => exact List.getLast?_eq_none_iff.mp hlast
          · rintro ⟨-, hempty⟩ m hm
            cases m with
            | go => simp [Thread.step, hempty]
            | answer a d => rfl
            | throw => exact absurd rfl hm
      | call r q k =>
          refine iff_of_false (fun h => ?_) fun h => hwaits (by simp) h.1
          obtain ⟨a, d', hanswer⟩ := hresponsive (sh.session r) q
          have hgo := h (.answer a d') (by simp)
          simp [Thread.step, hanswer] at hgo
      | pure b =>
          exact iff_of_false (fun h => by cases h .go (by simp)) fun h => hwaits (by simp) h.1
      | release r k =>
          exact iff_of_false (fun h => by cases h .go (by simp)) fun h => hwaits (by simp) h.1
      | throw =>
          exact iff_of_false (fun h => by cases h .go (by simp)) fun h => hwaits (by simp) h.1

omit [DecidableEq ρ] in
/-- An operation that waits holds nothing. -/
theorem Thread.InOrder.held_of_waits {th : S.Thread} (h : th.InOrder) (hwaits : th.Waits) :
    th.held = [] := by
  obtain ⟨k, hk⟩ := hwaits
  unfold Thread.InOrder at h
  rw [hk] at h
  rcases h with ⟨hheld, _⟩ | ⟨r, _, hr, _⟩
  · exact hheld
  · cases hr

omit [DecidableEq ρ] in
/-- An operation that has finished and still holds something has thrown. -/
theorem Thread.InOrder.threw_of_finished {th : S.Thread} {r : ρ} (h : th.InOrder)
    (hfinished : th.finished = true) (hr : r ∈ th.held) : th.status = .threw := by
  unfold Thread.InOrder at h
  unfold Thread.finished at hfinished
  cases hs : th.status with
  | running p =>
      rw [hs] at hfinished
      cases hfinished
  | returned b =>
      rw [hs] at h
      rw [show th.held = [] from h] at hr
      cases hr
  | threw => rfl

/-- Nothing can be acquired, and no operation that runs holds anything. -/
def Exhausted (s : S.State) : Prop :=
  s.shared.available = [] ∧ ∀ th ∈ s.threads, th.finished = false → th.held = []

omit [DecidableEq ρ] in
/-- What is lost is neither available nor held by an operation that runs. -/
theorem Ledger.exhausted {s : S.State} (h : Ledger s) (hnodup : s.pool.Nodup)
    (hlost : AllLost s) : Exhausted s := by
  have hall := h.perm.nodup_iff.mpr hnodup
  have hmem : ∀ r ∈ s.shared.available ++ s.threads.flatMap Thread.held, Lost s r :=
    fun r hr => hlost r (h.perm.mem_iff.mp hr)
  refine ⟨List.eq_nil_iff_forall_not_mem.mpr fun r hr => ?_, fun th hth hruns => ?_⟩
  · obtain ⟨th, hth, _, hheld⟩ := hmem r (List.mem_append_left _ hr)
    exact (List.disjoint_of_nodup_append hall) hr (List.mem_flatMap.mpr ⟨th, hth, hheld⟩)
  · refine List.eq_nil_iff_forall_not_mem.mpr fun r hr => ?_
    obtain ⟨th', hth', hthrew, hheld⟩ :=
      hmem r (List.mem_append_right _ (List.mem_flatMap.mpr ⟨th, hth, hr⟩))
    -- Two operations never hold the same resource, so it is the one that has thrown.
    have hsame : th' = th := by
      by_contra hne
      have hpair := (List.nodup_flatMap.mp hall.of_append_right).2
      have : Std.Symm (Function.onFun List.Disjoint (Thread.held (S := S))) :=
        ⟨fun _ _ hdisjoint => fun _ ha hb => hdisjoint hb ha⟩
      exact hpair.forall hth' hth hne hheld hr
    rw [Thread.finished, ← hsame, hthrew] at hruns
    cases hruns

/-- What has been lost stays lost. -/
theorem Lost.step {s t : S.State} {e : S.Event} {r : ρ} (h : Lost s r)
    (hst : s.step e = some t) : Lost t r := by
  obtain ⟨th, hth, hthrew, hr⟩ := h
  rcases State.step_cases hst with ⟨op, rfl⟩ | ⟨i, m, th₀, th', shared', -, hth₀, hmove, rfl⟩
  · exact ⟨th, List.mem_append_left _ hth, hthrew, hr⟩
  · obtain ⟨j, hj, hget⟩ := List.getElem_of_mem hth
    have hij : i ≠ j := by
      rintro rfl
      have hsame := Option.some.inj (hth₀.symm.trans (List.getElem?_eq_some_iff.mpr ⟨hj, hget⟩))
      obtain ⟨op, status, held⟩ := th
      rw [hsame, Thread.step.eq_def] at hmove
      change status = .threw at hthrew
      subst hthrew
      cases m <;> cases hmove
    refine ⟨th, ?_, hthrew, hr⟩
    show th ∈ s.threads.set i th'
    rw [← hget, ← List.getElem_set_ne hij (by simpa using hj)]
    exact List.getElem_mem _

theorem State.step_pool {s t : S.State} {e : S.Event} (hst : s.step e = some t) :
    t.pool = s.pool := by
  rcases State.step_cases hst with ⟨op, rfl⟩ | ⟨i, m, th₀, th', shared', -, -, -, rfl⟩
  · rfl
  · rfl

theorem AllLost.step {s t : S.State} {e : S.Event} (h : AllLost s) (hst : s.step e = some t) :
    AllLost t := by
  intro r hr
  rw [State.step_pool hst] at hr
  exact (h r hr).step hst

/-- A service of disciplined programs is deadlocked exactly when all resources are lost and
every operation that is under way waits for one. -/
theorem deadlocked_iff {s : S.State} (hresponsive : Responsive S) (h : Ledger s)
    (hnodup : s.pool.Nodup) :
    Deadlocked s ↔ (∃ th ∈ s.threads, th.finished = false) ∧
      (∀ th ∈ s.threads, th.finished = false → th.Waits) ∧ AllLost s := by
  refine and_congr_right fun hruns => ?_
  have hstuck : (∀ i m, m ≠ .throw → s.step (.move i m) = none) ↔
      ∀ th ∈ s.threads, th.finished = true ∨ th.Waits ∧ s.shared.available = [] := by
    constructor
    · intro hnone th hth
      obtain ⟨i, hi, hget⟩ := List.getElem_of_mem hth
      have hsome : s.threads[i]? = some th := List.getElem?_eq_some_iff.mpr ⟨hi, hget⟩
      exact (Thread.stuck_iff hresponsive th s.shared).mp
        fun m hm => (State.step_move hsome).mp (hnone i m hm)
    · intro hall i m hm
      cases hth : s.threads[i]? with
      | none => simp only [State.step, hth]
      | some th =>
          exact (State.step_move hth).mpr ((Thread.stuck_iff hresponsive th s.shared).mpr
            (hall th (List.mem_of_getElem? hth)) m hm)
  rw [hstuck]
  constructor
  · intro hall
    have hwaits : ∀ th ∈ s.threads, th.finished = false →
        th.Waits ∧ s.shared.available = [] := fun th hth hunfinished =>
      (hall th hth).resolve_left (by rw [hunfinished]; exact Bool.false_ne_true)
    refine ⟨fun th hth hunfinished => (hwaits th hth hunfinished).1, fun r hr => ?_⟩
    obtain ⟨th₀, hth₀, hunfinished₀⟩ := hruns
    have hr := h.perm.mem_iff.mpr hr
    rw [(hwaits th₀ hth₀ hunfinished₀).2, List.nil_append] at hr
    obtain ⟨th, hth, hheld⟩ := List.mem_flatMap.mp hr
    cases hfinished : th.finished with
    | true => exact ⟨th, hth, (h.threads th hth).threw_of_finished hfinished hheld, hheld⟩
    | false =>
        rw [(h.threads th hth).held_of_waits (hwaits th hth hfinished).1] at hheld
        cases hheld
  · rintro ⟨hwaits, hlost⟩ th hth
    cases hfinished : th.finished with
    | true => exact .inl rfl
    | false => exact .inr ⟨hwaits th hth hfinished, (h.exhausted hnodup hlost).1⟩

/-! ## Runs -/

theorem Ledger.exec {s t : S.State} {es : List S.Event}
    (hcode : ∀ op, (S.code op).Disciplined none) (h : Ledger s)
    (hex : Steps.exec State.step s es = some t) : Ledger t :=
  Steps.exec_invariant (fun _ _ _ hs hst => hs.step hcode hst) h hex

theorem AllLost.exec {s t : S.State} {es : List S.Event} (h : AllLost s)
    (hex : Steps.exec State.step s es = some t) : AllLost t :=
  Steps.exec_invariant (fun _ _ _ hs hst => hs.step hst) h hex

theorem State.exec_pool {s t : S.State} {es : List S.Event}
    (hex : Steps.exec State.step s es = some t) : t.pool = s.pool := by
  have keep : ∀ (u : S.State) (e : S.Event) (v : S.State), u.pool = s.pool →
      u.step e = some v → v.pool = s.pool :=
    fun _ _ _ hu hst => (State.step_pool hst).trans hu
  exact Steps.exec_invariant keep rfl hex

/-- A service that has lost everything never recovers. -/
theorem exhausted_forever {s t : S.State} {es : List S.Event}
    (hcode : ∀ op, (S.code op).Disciplined none) (h : Ledger s) (hnodup : s.pool.Nodup)
    (hlost : AllLost s) (hex : Steps.exec State.step s es = some t) : Exhausted t :=
  (h.exec hcode hex).exhausted (State.exec_pool hex ▸ hnodup) (hlost.exec hex)

/-- The operations in turn, each up to the exception after its first acquisition.  The first
of them is operation number `i`. -/
def drain (i : Nat) : List S.Op → List S.Event
  | [] => []
  | op :: ops => .start op :: .move i .go :: .move i .go :: drain (i + 1) ops

/-- An operation that throws as soon as it holds something takes what is available last. -/
theorem exec_drain_one {s : S.State} {op : S.Op} {r : ρ}
    (hop : S.code op = .acquire fun _ => .throw) (hr : s.shared.available.getLast? = some r)
    (es : List S.Event) :
    Steps.exec State.step s
        (.start op :: .move s.threads.length .go :: .move s.threads.length .go :: es) =
      Steps.exec State.step ⟨s.pool, ⟨s.shared.available.dropLast, s.shared.session⟩,
        s.threads ++ [⟨op, .threw, [r]⟩]⟩ es := by
  simp [State.step, Thread.step, hop, hr, Option.bind]

/-- As many of them as there is available leave nothing. -/
theorem exec_drain {ops : List S.Op} :
    ∀ {s : S.State}, (∀ op ∈ ops, S.code op = .acquire fun _ => .throw) →
      ops.length = s.shared.available.length → (∀ r ∈ s.pool, r ∈ s.shared.available ∨ Lost s r) →
      ∃ t, Steps.exec State.step s (drain s.threads.length ops) = some t ∧ AllLost t := by
  induction ops with
  | nil =>
      intro s _ hlength hpool
      refine ⟨s, rfl, fun r hr => (hpool r hr).resolve_left ?_⟩
      rw [List.length_eq_zero_iff.mp hlength.symm]
      exact List.not_mem_nil
  | cons op ops ih =>
      intro s hops hlength hpool
      have hne : s.shared.available ≠ [] := by
        intro hempty
        rw [hempty] at hlength
        cases hlength
      obtain ⟨r, hr⟩ := List.getLast?_isSome.mpr hne |> Option.isSome_iff_exists.mp
      rw [drain, exec_drain_one (hops op List.mem_cons_self) hr]
      have hlength' : (s.threads ++ [(⟨op, .threw, [r]⟩ : S.Thread)]).length =
          s.threads.length + 1 := by simp
      rw [← hlength']
      refine ih (fun op' hop' => hops op' (List.mem_cons_of_mem _ hop')) ?_ fun r' hr' => ?_
      · simp only [List.length_cons] at hlength
        simp only [List.length_dropLast]
        omega
      · rcases hpool r' hr' with havailable | ⟨th, hth, hthrew, hheld⟩
        · rw [← List.dropLast_append_getLast? r hr] at havailable
          rcases List.mem_append.mp havailable with h | h
          · exact .inl h
          · exact .inr ⟨_, List.mem_append_right _ (List.mem_singleton.mpr rfl), rfl, h⟩
        · exact .inr ⟨th, List.mem_append_left _ hth, hthrew, hheld⟩

end Service

end PooledProgram
