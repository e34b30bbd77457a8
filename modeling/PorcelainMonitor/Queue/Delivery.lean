import PorcelainMonitor.Queue.Invariant

/-!
# What `LockFreeQueue` delivers

`Moves` says what a step of a sound queue can do, and every atomic operation is such a
step and keeps the invariant (`Inv.moves`).  So every interleaving of any number of
producers with the one consumer does.

What a run pushes stands in its labels (`exchanged`), and what its calls of `try_pop`
return is where they leave off (`returned`).  The returned values are a prefix of the
pushed ones, no operation touches a deleted node, and while no push is in progress
`try_pop` answers `false` only if every pushed value has been returned.
-/

namespace PorcelainMonitor.Queue

variable {ι T : Type}

/-- No push is in progress. -/
def State.Quiet (s : State ι T) : Prop := ∀ i, s.push i = .idle

/-- The new queue: the dummy node is the whole list. -/
theorem Inv.init (addr : Nat) : Inv (State.init addr : State ι T) [⟨addr, 0⟩] where
  length := rfl
  tail := rfl
  head := rfl
  popped := rfl
  nodup := by simp
  births := by simp [State.init]
  alive := by
    intro k p hk hp
    obtain ⟨rfl, rfl⟩ : k = 0 ∧ (⟨addr, 0⟩ : Ptr) = p := by
      cases k with
      | zero => simpa using hp
      | succ k => cases hp
    refine ⟨⟨0, none, none⟩, nodeAt_eq_some.mpr ⟨by simp [State.init], rfl⟩, ?_, ?_, ?_⟩
    · intro q hq
      cases hq
    · intro _ hlt
      exact absurd hlt (Nat.lt_irrefl 0)
    · intro hle
      exact absurd hle (by simp [State.unread])
  storing := by simp [State.init]
  storing_inj := by simp [State.init]
  fresh := by simp [State.init]
  fresh_inj := by simp [State.init]
  pop := trivial
  running := .inl rfl
  faultless := rfl

variable [DecidableEq ι]

/-! ## What a step does -/

/-- What a load of the link behind the head comes to. -/
theorem Inv.loadNext_cases {s t : State ι T} {order : List Ptr} (h : Inv s order)
    (hst : Queue.step s .loadNext = some t) :
    s.pop = .loadNext s.head ∧ ∃ n, Alive s order s.taken s.head n ∧
      ((n.next = none ∧ t = { s with pop := .idle, result := some false }) ∨
        ∃ next, n.next = some next ∧ t = { s with pop := .compareExchange s.head next }) := by
  cases hs : s.pop with
  | loadNext oldHead =>
      have hpop := h.pop
      rw [hs] at hpop
      cases hpop
      obtain ⟨n, hn⟩ := h.head_alive
      refine ⟨rfl, n, hn, ?_⟩
      cases hnext : n.next with
      | none =>
          simp only [Queue.step, hs, hn.node, hnext, Option.some.injEq] at hst
          exact .inl ⟨rfl, hst.symm⟩
      | some next =>
          simp only [Queue.step, hs, hn.node, hnext, Option.some.injEq] at hst
          exact .inr ⟨next, rfl, hst.symm⟩
  | idle => simp [Queue.step, hs] at hst
  | compareExchange o n => simp [Queue.step, hs] at hst
  | moveValue o n => simp [Queue.step, hs] at hst
  | deleteHead o v => simp [Queue.step, hs] at hst

/-- The steps of a sound queue, with the nodes in the order of their tail exchanges
before and after. -/
inductive Moves (s : State ι T) (order : List Ptr) :
    Action ι T → State ι T → List Ptr → Prop where
  | new {i : ι} {addr : Nat} {value : T} (idle : s.push i = .idle) (free : s.heap addr = none) :
      Moves s order (.new i addr value) { s with
        heap := Function.update s.heap addr (some ⟨s.births, none, some value⟩)
        births := s.births + 1
        push := Function.update s.push i (.exchange ⟨addr, s.births⟩ value) } order
  | exchange {i : ι} {newNode : Ptr} {value : T} (ready : s.push i = .exchange newNode value) :
      Moves s order (.exchange i) { s with
        tail := newNode
        pushed := s.pushed ++ [value]
        push := Function.update s.push i (.storeNext newNode s.tail) } (order ++ [newNode])
  | storeNext {i : ι} {newNode oldTail : Ptr} {n : Node T}
      (gap : s.push i = .storeNext newNode oldTail) (node : nodeAt s.heap oldTail = some n) :
      Moves s order (.storeNext i) { s with
        heap := Function.update s.heap oldTail.addr (some { n with next := some newNode })
        push := Function.update s.push i .idle } order
  | loadHead (idle : s.pop = .idle) :
      Moves s order .loadHead { s with pop := .loadNext s.head, result := none } order
  | missed {n : Node T} (loading : s.pop = .loadNext s.head) (node : nodeAt s.heap s.head = some n)
      (last : n.next = none) :
      Moves s order .loadNext { s with pop := .idle, result := some false } order
  | found {n : Node T} {next : Ptr} (loading : s.pop = .loadNext s.head)
      (node : nodeAt s.heap s.head = some n) (link : n.next = some next) :
      Moves s order .loadNext { s with pop := .compareExchange s.head next } order
  | compareExchange {oldHead next : Ptr} (loaded : s.pop = .compareExchange oldHead next) :
      Moves s order (.compareExchange false)
        { s with head := next, pop := .moveValue oldHead next } order
  | retry {oldHead next : Ptr} (loaded : s.pop = .compareExchange oldHead next) :
      Moves s order (.compareExchange true) { s with pop := .loadNext s.head } order
  | moveValue {oldHead next : Ptr} {n : Node T} {out : T}
      (swapped : s.pop = .moveValue oldHead next) (node : nodeAt s.heap next = some n)
      (value : n.value = some out) :
      Moves s order .moveValue { s with
        heap := Function.update s.heap next.addr (some { n with value := none })
        pop := .deleteHead oldHead out } order
  | deleteHead {oldHead : Ptr} {out : T} {n : Node T}
      (moved : s.pop = .deleteHead oldHead out) (node : nodeAt s.heap oldHead = some n) :
      Moves s order .deleteHead { s with
        heap := Function.update s.heap oldHead.addr none
        pop := .idle
        result := some true
        popped := s.popped ++ [out] } order

/-- The list and the pushed values only grow. -/
theorem Moves.grows {s t : State ι T} {order order' : List Ptr} {a : Action ι T}
    (h : Moves s order a t order') : order <+: order' ∧ s.pushed <+: t.pushed := by
  cases h with
  | exchange => exact ⟨List.prefix_append .., List.prefix_append ..⟩
  | _ => exact ⟨List.prefix_refl _, List.prefix_refl _⟩

/-- With the consumer alone at the head, a compare-exchange fails only spuriously. -/
theorem Inv.moves_compareExchange {s t : State ι T} {order : List Ptr} {spurious : Bool}
    (h : Inv s order) (hst : Queue.step s (.compareExchange spurious) = some t) :
    Moves s order (.compareExchange spurious) t order ∧ Inv t order := by
  cases hs : s.pop with
  | compareExchange oldHead next =>
      have hpop := h.pop
      rw [hs] at hpop
      obtain ⟨rfl, -⟩ := hpop
      cases spurious with
      | false =>
          rw [Queue.step, hs] at hst
          simp only [and_self, if_true, Option.some.injEq] at hst
          exact hst ▸ ⟨.compareExchange hs, h.compareExchange hs⟩
      | true =>
          rw [Queue.step, hs] at hst
          simp only [Bool.true_eq_false, and_false, if_false, Option.some.injEq] at hst
          subst hst
          exact ⟨.retry hs, h.setPop s.result (by rw [hs]; rfl) (by rw [hs]; rfl) rfl
            (.inr (h.result_none (by simp [hs])))⟩
  | idle => simp [Queue.step, hs] at hst
  | loadNext o => simp [Queue.step, hs] at hst
  | moveValue o n => simp [Queue.step, hs] at hst
  | deleteHead o v => simp [Queue.step, hs] at hst

theorem Inv.moves {s t : State ι T} {order : List Ptr} {a : Action ι T} (h : Inv s order)
    (hst : Queue.step s a = some t) : ∃ order', Moves s order a t order' ∧ Inv t order' := by
  cases a with
  | new i addr value =>
      cases hs : s.push i with
      | idle =>
          cases hfree : s.heap addr with
          | none =>
              simp only [Queue.step, hs, hfree, Option.some.injEq] at hst
              exact ⟨order, hst ▸ ⟨.new hs hfree, h.new value hs hfree⟩⟩
          | some n => simp [Queue.step, hs, hfree] at hst
      | exchange q v => simp [Queue.step, hs] at hst
      | storeNext q p => simp [Queue.step, hs] at hst
  | exchange i =>
      cases hs : s.push i with
      | exchange newNode value =>
          simp only [Queue.step, hs, Option.some.injEq] at hst
          exact ⟨order ++ [newNode], hst ▸ ⟨.exchange hs, h.exchange hs⟩⟩
      | idle => simp [Queue.step, hs] at hst
      | storeNext q p => simp [Queue.step, hs] at hst
  | storeNext i =>
      cases hs : s.push i with
      | storeNext newNode oldTail =>
          obtain ⟨n, hn, ht⟩ := h.storeNext hs
          simp only [Queue.step, hs, hn, Option.some.injEq] at hst
          exact ⟨order, hst ▸ ⟨.storeNext hs hn, ht⟩⟩
      | idle => simp [Queue.step, hs] at hst
      | exchange q v => simp [Queue.step, hs] at hst
  | loadHead =>
      cases hs : s.pop with
      | idle =>
          simp only [Queue.step, hs, Option.some.injEq] at hst
          refine ⟨order, hst ▸ ⟨.loadHead hs, ?_⟩⟩
          exact h.setPop none (by rw [hs]; rfl) (by rw [hs]; rfl) rfl (.inr rfl)
      | loadNext o => simp [Queue.step, hs] at hst
      | compareExchange o n => simp [Queue.step, hs] at hst
      | moveValue o n => simp [Queue.step, hs] at hst
      | deleteHead o v => simp [Queue.step, hs] at hst
  | loadNext =>
      obtain ⟨hs, n, hn, ⟨hnext, rfl⟩ | ⟨next, hnext, rfl⟩⟩ := h.loadNext_cases hst
      · refine ⟨order, .missed hs hn.node hnext, ?_⟩
        exact h.setPop (some false) (by rw [hs]; rfl) (by rw [hs]; rfl) trivial (.inl rfl)
      · refine ⟨order, .found hs hn.node hnext, ?_⟩
        exact h.setPop s.result (by rw [hs]; rfl) (by rw [hs]; rfl) ⟨rfl, n, hn.node, hnext⟩
          (.inr (h.result_none (by simp [hs])))
  | compareExchange spurious => exact ⟨order, h.moves_compareExchange hst⟩
  | moveValue =>
      cases hs : s.pop with
      | moveValue oldHead next =>
          obtain ⟨n, out, hn, hout, ht⟩ := h.moveValue hs
          simp only [Queue.step, hs, hn, hout, Option.some.injEq] at hst
          exact ⟨order, hst ▸ ⟨.moveValue hs hn hout, ht⟩⟩
      | idle => simp [Queue.step, hs] at hst
      | loadNext o => simp [Queue.step, hs] at hst
      | compareExchange o n => simp [Queue.step, hs] at hst
      | deleteHead o v => simp [Queue.step, hs] at hst
  | deleteHead =>
      cases hs : s.pop with
      | deleteHead oldHead out =>
          obtain ⟨n, hn, ht⟩ := h.deleteHead hs
          simp only [Queue.step, hs, hn, Option.some.injEq] at hst
          exact ⟨order, hst ▸ ⟨.deleteHead hs hn, ht⟩⟩
      | idle => simp [Queue.step, hs] at hst
      | loadNext o => simp [Queue.step, hs] at hst
      | compareExchange o n => simp [Queue.step, hs] at hst
      | moveValue o n => simp [Queue.step, hs] at hst

/-- The invariant holds in every reachable state. -/
theorem Inv.exec {addr : Nat} {es : List (Action ι T)} {s : State ι T}
    (h : Steps.exec Queue.step (State.init addr) es = some s) : ∃ order, Inv s order :=
  @Steps.exec_invariant _ _ _ (fun s => ∃ order, Inv s order)
    (fun _ _ _ ⟨_, hinv⟩ hst => have ⟨_, _, hinv'⟩ := hinv.moves hst; ⟨_, hinv'⟩) _ _ _
    ⟨_, Inv.init addr⟩ h

/-! ## What a run pushes -/

/-- What the labels of a run have pushed, and what every producer has put into its last
new node. -/
structure Pushes (ι T : Type) where
  own : ι → Option T
  exchanged : List T

def Pushes.next (p : Pushes ι T) : Action ι T → Pushes ι T
  | .new i _ value => { p with own := Function.update p.own i (some value) }
  | .exchange i => { p with exchanged := p.exchanged ++ (p.own i).toList }
  | _ => p

/-- The values that a run pushes, in the order of the tail exchanges. -/
def exchanged (es : List (Action ι T)) : List T :=
  (es.foldl Pushes.next ⟨fun _ => none, []⟩).exchanged

/-- The labels agree with the state. -/
structure Pushes.Matches (p : Pushes ι T) (s : State ι T) : Prop where
  exchanged : p.exchanged = s.pushed
  own : ∀ {i newNode value}, s.push i = .exchange newNode value → p.own i = some value

theorem Moves.matches_next {s t : State ι T} {order order' : List Ptr} {a : Action ι T}
    {p : Pushes ι T} (h : Moves s order a t order') (hp : p.Matches s) : (p.next a).Matches t := by
  cases h with
  | @new i addr value idle free =>
      refine ⟨hp.exchanged, fun {j newNode v} hj => ?_⟩
      rcases push_update hj with ⟨rfl, hnew⟩ | ⟨hji, hold⟩
      · cases hnew
        exact Function.update_self ..
      · exact (Function.update_of_ne hji ..).trans (hp.own hold)
  | @exchange i newNode value ready =>
      refine ⟨?_, fun {j newNode v} hj => ?_⟩
      · rw [Pushes.next, hp.own ready, hp.exchanged]
        rfl
      · rcases push_update hj with ⟨-, hgone⟩ | ⟨-, hold⟩
        · cases hgone
        · exact hp.own hold
  | storeNext gap node =>
      refine ⟨hp.exchanged, fun {j newNode v} hj => ?_⟩
      rcases push_update hj with ⟨-, hgone⟩ | ⟨-, hold⟩
      · cases hgone
      · exact hp.own hold
  | _ => exact ⟨hp.exchanged, hp.own⟩

/-! ## What `try_pop` returns -/

/-- What `try_pop` returns in the step from `s` to `t`, if it ends there: a value with
`true`, or no value with `false`. -/
def answer (s t : State ι T) : Option (Option T) :=
  match s.pop, t.pop with
  | .loadNext _, .idle => some none
  | .deleteHead _ out, .idle => some (some out)
  | _, _ => none

/-- The values that the successful `try_pop` calls of a run return, in order. -/
def returned (s : State ι T) : List (Action ι T) → List T
  | [] => []
  | a :: es =>
      match step s a with
      | none => []
      | some t => (answer s t).join.toList ++ returned t es

omit [DecidableEq ι] in
/-- A producer ends no `try_pop`. -/
theorem popped_of_pop_eq {s t : State ι T} (hpop : t.pop = s.pop) (hpopped : t.popped = s.popped) :
    t.popped = s.popped ++ (answer s t).join.toList := by
  have hnone : answer s t = none := by
    rw [answer, hpop]
    cases s.pop <;> rfl
  rw [hnone, hpopped]
  exact (List.append_nil _).symm

theorem Moves.popped {s t : State ι T} {order order' : List Ptr} {a : Action ι T}
    (h : Moves s order a t order') : t.popped = s.popped ++ (answer s t).join.toList := by
  cases h with
  | new => exact popped_of_pop_eq rfl rfl
  | exchange => exact popped_of_pop_eq rfl rfl
  | storeNext => exact popped_of_pop_eq rfl rfl
  | loadHead idle => simp [answer, idle]
  | missed loading => simp [answer, loading]
  | found loading => simp [answer, loading]
  | compareExchange loaded => simp [answer, loaded]
  | retry loaded => simp [answer, loaded]
  | moveValue swapped => simp [answer, swapped]
  | deleteHead moved => simp [answer, moved]

theorem Inv.exec_popped {es : List (Action ι T)} :
    ∀ {s t : State ι T} {order : List Ptr}, Inv s order → Steps.exec Queue.step s es = some t →
      t.popped = s.popped ++ returned s es := by
  induction es with
  | nil =>
      intro s t order _ h
      cases h
      exact (List.append_nil _).symm
  | cons a es ih =>
      intro s t order hinv h
      obtain ⟨u, hu, hrest⟩ := Steps.exec_cons_some.mp h
      obtain ⟨order', hmoves, hinv'⟩ := hinv.moves hu
      rw [ih hinv' hrest, hmoves.popped, returned, hu, List.append_assoc]

/-- The history of a state is what its run pushes and returns. -/
theorem exec_history {addr : Nat} {es : List (Action ι T)} {s : State ι T}
    (h : Steps.exec step (State.init addr) es = some s) :
    s.pushed = exchanged es ∧ s.popped = returned (State.init addr) es := by
  obtain ⟨-, hmatches⟩ := @Steps.exec_simulates _ _ _ _
    (fun s p => (∃ order, Inv s order) ∧ Pushes.Matches p s) Pushes.next
    (fun _ _ _ _ ⟨⟨_, hinv⟩, hp⟩ hst =>
      have ⟨_, hmoves, hinv'⟩ := hinv.moves hst
      ⟨⟨_, hinv'⟩, hmoves.matches_next hp⟩) _ _ _ ⟨fun _ => none, []⟩
    ⟨⟨_, Inv.init addr⟩, rfl, fun h => by cases h⟩ h
  exact ⟨hmatches.exchanged.symm, (Inv.init addr).exec_popped h⟩

/-! ## First in, first out -/

/-- The node that an operation reads or writes. -/
def State.accessed (s : State ι T) : Action ι T → Option Ptr
  | .storeNext i =>
      match s.push i with
      | .storeNext _ oldTail => some oldTail
      | _ => none
  | .loadNext =>
      match s.pop with
      | .loadNext oldHead => some oldHead
      | _ => none
  | .moveValue =>
      match s.pop with
      | .moveValue _ next => some next
      | _ => none
  | .deleteHead =>
      match s.pop with
      | .deleteHead oldHead _ => some oldHead
      | _ => none
  | _ => none

theorem Moves.accessed_alive {s t : State ι T} {order order' : List Ptr} {a : Action ι T}
    {p : Ptr} (h : Moves s order a t order') (hp : s.accessed a = some p) :
    ∃ n, nodeAt s.heap p = some n := by
  cases h with
  | storeNext gap node =>
      rw [State.accessed, gap] at hp
      cases hp
      exact ⟨_, node⟩
  | missed loading node =>
      rw [State.accessed, loading] at hp
      cases hp
      exact ⟨_, node⟩
  | found loading node =>
      rw [State.accessed, loading] at hp
      cases hp
      exact ⟨_, node⟩
  | moveValue swapped node =>
      rw [State.accessed, swapped] at hp
      cases hp
      exact ⟨_, node⟩
  | deleteHead moved node =>
      rw [State.accessed, moved] at hp
      cases hp
      exact ⟨_, node⟩
  | _ => cases hp

omit [DecidableEq ι] in
/-- Without a gap, an absent link behind the head means an empty queue. -/
theorem Inv.popped_eq_of_missed {s : State ι T} {order : List Ptr} {n : Node T} (h : Inv s order)
    (hq : s.Quiet) (loading : s.pop = .loadNext s.head) (node : nodeAt s.heap s.head = some n)
    (last : n.next = none) : s.popped = s.pushed := by
  obtain ⟨m, hm⟩ := h.head_alive
  obtain rfl : m = n := Option.some.inj (hm.node.symm.trans node)
  have ht : s.taken = s.popped.length := by simp [State.taken, loading, PopPc.taken]
  have hge : s.pushed.length ≤ s.popped.length := by
    by_contra hlt
    obtain ⟨i, q, hi⟩ := hm.gap last (by omega)
    rw [hq i] at hi
    cases hi
  have htake : s.popped = s.pushed.take s.popped.length := h.popped
  rwa [List.take_of_length_le hge] at htake

/-- In every interleaving of the atomic operations of any number of producers
and one consumer, the values that `try_pop` has returned are a prefix of the pushed values
in the order of their tail exchanges, no deleted node has been or is accessed, and
`try_pop` answers `false` while no push is in progress only if everything
pushed has been returned. -/
theorem exec_fifo {addr : Nat} {es : List (Action ι T)} {s : State ι T}
    (h : Steps.exec step (State.init addr) es = some s) :
    (s.pushed = exchanged es ∧ s.popped = returned (State.init addr) es) ∧
      returned (State.init addr) es <+: exchanged es ∧
      (s.fault = false ∧ ∀ a t p, step s a = some t → s.accessed a = some p →
        ∃ n, nodeAt s.heap p = some n) ∧
      ∀ t, step s .loadNext = some t →
        (t.result = some false ↔ answer s t = some none) ∧
          (s.Quiet → answer s t = some none →
            returned (State.init addr) es = exchanged es) := by
  obtain ⟨order, hinv⟩ := Inv.exec h
  obtain ⟨hpushed, hpopped⟩ := exec_history h
  refine ⟨⟨hpushed, hpopped⟩, ?_, ⟨hinv.faultless, fun a t p hst hp => ?_⟩, fun t hst => ?_⟩
  · rw [← hpushed, ← hpopped, hinv.popped]
    exact List.take_prefix _ _
  · obtain ⟨_, hmoves, -⟩ := hinv.moves hst
    exact hmoves.accessed_alive hp
  · obtain ⟨_, hmoves, -⟩ := hinv.moves hst
    cases hmoves with
    | missed loading node last =>
        refine ⟨iff_of_true rfl (by simp [answer, loading]), fun hq _ => ?_⟩
        rw [← hpushed, ← hpopped]
        exact hinv.popped_eq_of_missed hq loading node last
    | @found n next loading node link =>
        -- `try_pop` goes on, and its answer is still open.
        have hopen : s.result = none := hinv.result_none (by simp [loading])
        have hanswer : answer s { s with pop := .compareExchange s.head next } = none := by
          simp [answer, loading]
        rw [hanswer]
        exact ⟨by simp [hopen], fun _ h' => by cases h'⟩

/-- A first `try_pop` overtakes the push of 7 and sees no link yet.  The node of 8 gets the
address of the deleted dummy node. -/
def overtaking : List (Action Bool Nat) :=
  [.new true 1 7, .exchange true, .loadHead, .loadNext, .storeNext true, .loadHead, .loadNext,
    .compareExchange false, .moveValue, .deleteHead, .new false 0 8, .exchange false,
    .storeNext false, .loadHead, .loadNext, .compareExchange true, .loadNext,
    .compareExchange false, .moveValue, .deleteHead, .loadHead]

theorem exec_fifo_overtaking :
    ∃ s, Steps.exec step (State.init 0) overtaking = some s ∧
      exchanged overtaking = [7, 8] ∧ returned (State.init 0) overtaking = [7, 8] ∧
      (s.pushed = exchanged overtaking ∧ s.popped = returned (State.init 0) overtaking) ∧
      s.fault = false ∧
      ∀ t, step s .loadNext = some t → answer s t = some none →
        returned (State.init 0) overtaking = exchanged overtaking := by
  obtain ⟨s, hs⟩ : ∃ s, Steps.exec step (State.init 0) overtaking = some s := ⟨_, rfl⟩
  have hquiet : s.Quiet := by
    cases hs
    exact fun i => by cases i <;> rfl
  obtain ⟨hhistory, -, ⟨hfault, -⟩, hfalse⟩ := exec_fifo hs
  exact ⟨s, hs, rfl, rfl, hhistory, hfault, fun t hst => (hfalse t hst).2 hquiet⟩

end PorcelainMonitor.Queue
