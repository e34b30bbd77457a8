import PorcelainMonitor.Queue.Visibility

/-!
# The life of a node

A node is allocated by `push` and deleted by `try_pop` or by the destructor.  At any
time the living nodes are those of the list from `head_` on, the old head that
`try_pop` has still to delete, and the nodes that producers have still to exchange in.
So the destructor, which follows the links from `head_`, deletes every node once and leaves
none (`queue_frees_nodes`).
-/

namespace PorcelainMonitor.Queue

variable {ι T : Type}

/-! ## Owners -/

/-- The old head, once `head_` has moved on. -/
def PopPc.oldHead : PopPc T → Option Ptr
  | .moveValue oldHead _ => some oldHead
  | .deleteHead oldHead _ => some oldHead
  | _ => none

/-- Who still has to do with a node. -/
inductive Owns (s : State ι T) (order : List Ptr) (p : Ptr) : Prop where
  | list {k : Nat} (taken : s.taken ≤ k) (place : order[k]? = some p)
  | consumer (old : s.pop.oldHead = some p)
  | producer {i : ι} {value : T} (ready : s.push i = .exchange p value)

/-- No node is forgotten. -/
def Kept (s : State ι T) (order : List Ptr) : Prop :=
  ∀ addr n, s.heap addr = some n → Owns s order ⟨addr, n.birth⟩

theorem Kept.init (addr : Nat) : Kept (State.init addr : State ι T) [⟨addr, 0⟩] := by
  intro a n hn
  simp only [State.init] at hn
  split at hn
  · next heq =>
      cases hn
      exact .list (k := 0) (Nat.zero_le _) (by rw [heq]; rfl)
  · cases hn

/-- A node whose owner has lost nothing. -/
theorem Owns.mono {s t : State ι T} {order order' : List Ptr} {p : Ptr} (h : Owns s order p)
    (horder : order <+: order') (htaken : t.taken = s.taken)
    (hold : s.pop.oldHead = some p → t.pop.oldHead = some p)
    (hpush : ∀ i v, s.push i = .exchange p v → Owns t order' p) : Owns t order' p := by
  cases h with
  | list taken place =>
      obtain ⟨rest, rfl⟩ := horder
      refine .list (htaken ▸ taken) ?_
      rw [List.getElem?_append_left (List.getElem?_eq_some_iff.mp place).1]
      exact place
  | consumer old => exact .consumer (hold old)
  | producer ready => exact hpush _ _ ready

/-- What stands at an address after a write. -/
theorem heap_update {heap : Nat → Option (Node T)} {addr a : Nat} {x : Option (Node T)}
    {n : Node T} (h : Function.update heap addr x a = some n) :
    a = addr ∧ x = some n ∨ a ≠ addr ∧ heap a = some n := by
  by_cases ha : a = addr
  · subst ha
    exact .inl ⟨rfl, by simpa using h⟩
  · exact .inr ⟨ha, by simpa [ha] using h⟩

/-- A write that keeps the birth number of a node. -/
theorem Kept.write {s t : State ι T} {order order' : List Ptr} {p : Ptr} {m n : Node T}
    (h : Kept s order) (hm : nodeAt s.heap p = some m)
    (hheap : t.heap = Function.update s.heap p.addr (some n)) (hbirth : n.birth = m.birth)
    (hmono : ∀ q, Owns s order q → Owns t order' q) : Kept t order' := by
  intro a o ho
  rw [hheap] at ho
  rcases heap_update ho with ⟨rfl, hn⟩ | ⟨-, ho⟩
  · cases hn
    rw [hbirth]
    exact hmono _ (h _ _ (nodeAt_eq_some.mp hm).1)
  · exact hmono _ (h a o ho)

variable [DecidableEq ι]

theorem Kept.moves {s t : State ι T} {order order' : List Ptr} {a : Action ι T} (h : Kept s order)
    (hinv : Inv s order) (hmoves : Moves s order a t order') : Kept t order' := by
  cases hmoves with
  | @new i addr value idle free =>
      intro a n hn
      rcases heap_update hn with ⟨rfl, hnew⟩ | ⟨-, hn⟩
      · cases hnew
        exact .producer (i := i) (Function.update_self ..)
      · refine (h a n hn).mono (List.prefix_refl _) rfl id fun j v hj => ?_
        have hji : j ≠ i := by
          rintro rfl
          rw [idle] at hj
          cases hj
        exact .producer (i := j) ((Function.update_of_ne hji ..).trans hj)
  | @exchange i newNode value ready =>
      intro a n hn
      refine (h a n hn).mono (List.prefix_append ..) rfl id fun j v hj => ?_
      by_cases hji : j = i
      · subst hji
        rw [ready] at hj
        cases hj
        refine .list (k := order.length) ?_ List.getElem?_concat_length
        have hle := hinv.taken_le
        have hlen := hinv.length
        show s.taken ≤ _
        omega
      · exact .producer (i := j) ((Function.update_of_ne hji ..).trans hj)
  | @storeNext i newNode oldTail n gap node =>
      refine h.write node rfl rfl fun q hq => hq.mono (List.prefix_refl _) rfl id fun j v hj => ?_
      have hji : j ≠ i := by
        rintro rfl
        rw [gap] at hj
        cases hj
      exact .producer (i := j) ((Function.update_of_ne hji ..).trans hj)
  | loadHead idle =>
      refine fun a n hn => (h a n hn).mono (List.prefix_refl _) ?_ ?_ fun j v hj => .producer hj
      · simp [State.taken, idle, PopPc.taken]
      · simp [idle, PopPc.oldHead]
  | missed loading node last =>
      refine fun a n hn => (h a n hn).mono (List.prefix_refl _) ?_ ?_ fun j v hj => .producer hj
      · simp [State.taken, loading, PopPc.taken]
      · simp [loading, PopPc.oldHead]
  | found loading node link =>
      refine fun a n hn => (h a n hn).mono (List.prefix_refl _) ?_ ?_ fun j v hj => .producer hj
      · simp [State.taken, loading, PopPc.taken]
      · simp [loading, PopPc.oldHead]
  | retry loaded =>
      refine fun a n hn => (h a n hn).mono (List.prefix_refl _) ?_ ?_ fun j v hj => .producer hj
      · simp [State.taken, loaded, PopPc.taken]
      · simp [loaded, PopPc.oldHead]
  | @compareExchange oldHead next loaded =>
      intro a n hn
      have htaken : s.taken = s.popped.length := by simp [State.taken, loaded, PopPc.taken]
      cases h a n hn with
      | @list k taken place =>
          by_cases hk : s.taken = k
          · have hpop := hinv.pop
            rw [loaded] at hpop
            subst hk
            exact .consumer (hpop.1.trans (Option.some.inj (hinv.head.symm.trans place)) ▸ rfl)
          · refine .list (k := k) ?_ place
            show s.popped.length + 1 ≤ k
            omega
      | consumer old => simp [loaded, PopPc.oldHead] at old
      | producer ready => exact .producer ready
  | @moveValue oldHead next n out swapped node value =>
      refine h.write node rfl rfl fun q hq => hq.mono (List.prefix_refl _) ?_ ?_
        fun j v hj => .producer hj
      · simp [State.taken, swapped, PopPc.taken]
      · simp [swapped, PopPc.oldHead]
  | @deleteHead oldHead out n moved node =>
      intro a o ho
      rcases heap_update ho with ⟨-, hgone⟩ | ⟨ha, ho⟩
      · cases hgone
      · refine (h a o ho).mono (List.prefix_refl _) ?_ ?_ fun j v hj => .producer hj
        · simp [State.taken, moved, PopPc.taken]
        · rw [moved]
          rintro ⟨⟩
          exact absurd rfl ha

omit [DecidableEq ι] in
/-- A node with an owner is alive. -/
theorem Inv.alive_of_owns {s : State ι T} {order : List Ptr} {p : Ptr} (h : Inv s order)
    (hp : Owns s order p) : ∃ n, nodeAt s.heap p = some n := by
  cases hp with
  | list taken place =>
      obtain ⟨n, hn⟩ := h.alive taken place
      exact ⟨n, hn.node⟩
  | consumer old =>
      have hpop := h.pop
      cases hs : s.pop with
      | moveValue oldHead next =>
          rw [hs] at old hpop
          cases old
          exact hpop.2.2
      | deleteHead oldHead out =>
          rw [hs] at old hpop
          cases old
          exact hpop.2.2
      | idle => simp [hs, PopPc.oldHead] at old
      | loadNext o => simp [hs, PopPc.oldHead] at old
      | compareExchange o n => simp [hs, PopPc.oldHead] at old
  | producer ready => exact ⟨_, (h.fresh ready).1⟩

omit [DecidableEq ι] in
/-- A link names the next node of the list.  It is missing behind the last node, and behind
one whose link a producer has still to store. -/
theorem Inv.next_eq {s : State ι T} {order : List Ptr} {k : Nat} {p : Ptr} {n : Node T}
    (h : Inv s order) (hk : s.taken ≤ k) (hp : order[k]? = some p)
    (hn : nodeAt s.heap p = some n) :
    n.next = order[k + 1]? ∨
      n.next = none ∧ ∃ i q, s.push i = .storeNext q p ∧ order[k + 1]? = some q := by
  obtain ⟨m, hm⟩ := h.alive hk hp
  obtain rfl : m = n := Option.some.inj (hm.node.symm.trans hn)
  cases hnext : m.next with
  | some q => exact .inl (hm.next q hnext).symm
  | none =>
      by_cases hlast : k < s.pushed.length
      · obtain ⟨i, q, hi⟩ := hm.gap hnext hlast
        obtain ⟨k', -, -, hplace, hnew, -, -⟩ := h.storing hi
        obtain rfl : k = k' := by
          by_contra hne
          exact h.birth_ne hp hplace hne rfl
        exact .inr ⟨rfl, i, q, hi, hnew⟩
      · have hlen := h.length
        exact .inl (List.getElem?_eq_none (by omega)).symm

theorem exec_kept {addr : Nat} {es : List (Action ι T)} {s : State ι T}
    (h : Steps.exec step (State.init addr) es = some s) :
    ∃ order, Inv s order ∧ Kept s order :=
  @Steps.exec_invariant _ _ _ (fun s => ∃ order, Inv s order ∧ Kept s order)
    (fun _ _ _ ⟨_, hinv, hkept⟩ hst =>
      have ⟨_, hmoves, hinv'⟩ := hinv.moves hst
      ⟨_, hinv', hkept.moves hinv hmoves⟩) _ _ _ ⟨_, Inv.init addr, Kept.init addr⟩ h

/-! ## The destructor -/

/-- `while (old_head = head_) { head_ = old_head->next; delete old_head; }`.  There is no
result if a deleted node is read, or if there are more nodes than `fuel`. -/
def destroyLoop : Nat → (Nat → Option (Node T)) → Option Ptr → Option (Nat → Option (Node T))
  | _, heap, none => some heap
  | 0, _, some _ => none
  | fuel + 1, heap, some oldHead =>
      match nodeAt heap oldHead with
      | none => none
      | some n => destroyLoop fuel (Function.update heap oldHead.addr none) n.next

/-- `~LockFreeQueue()`. -/
def State.destroy (s : State ι T) (fuel : Nat) : Option (Nat → Option (Node T)) :=
  destroyLoop fuel s.heap (some s.head)

/-- A heap of nodes that form one list, linked in this order. -/
structure Chain (heap : Nat → Option (Node T)) (order : List Ptr) : Prop where
  nodup : (order.map Ptr.birth).Nodup
  node : ∀ k p, order[k]? = some p → ∃ n, nodeAt heap p = some n ∧ n.next = order[k + 1]?
  whole : ∀ addr n, heap addr = some n → ⟨addr, n.birth⟩ ∈ order

/-- Without its first node the list is a heap of its own. -/
theorem Chain.tail {heap : Nat → Option (Node T)} {p : Ptr} {order : List Ptr}
    (h : Chain heap (p :: order)) : Chain (Function.update heap p.addr none) order := by
  have hnodup := List.nodup_cons.mp h.nodup
  obtain ⟨m, hm, -⟩ := h.node 0 p rfl
  refine ⟨hnodup.2, fun k q hq => ?_, fun addr n hn => ?_⟩
  · obtain ⟨n, hn, hnext⟩ := h.node (k + 1) q hq
    refine ⟨n, nodeAt_update_of_ne hm hn (fun he => hnodup.1 ?_) _, hnext⟩
    rw [← he]
    exact List.mem_map_of_mem (List.mem_of_getElem? hq)
  · rcases heap_update hn with ⟨-, hgone⟩ | ⟨hne, hn⟩
    · cases hgone
    · rcases List.mem_cons.mp (h.whole addr n hn) with he | hmem
      · exact absurd (congrArg Ptr.addr he) hne
      · exact hmem

theorem Chain.destroyLoop {heap : Nat → Option (Node T)} {order : List Ptr} {fuel : Nat}
    (h : Chain heap order) (hfuel : order.length ≤ fuel) :
    destroyLoop fuel heap order.head? = some fun _ => none := by
  induction order generalizing heap fuel with
  | nil =>
      have hempty : heap = fun _ => none := by
        funext addr
        cases hn : heap addr with
        | none => rfl
        | some n => cases h.whole addr n hn
      cases fuel <;> rw [hempty] <;> rfl
  | cons p order ih =>
      cases fuel with
      | zero => cases hfuel
      | succ fuel =>
          obtain ⟨n, hn, hnext⟩ := h.node 0 p rfl
          have hhead : n.next = order.head? := by
            rw [hnext, List.head?_eq_getElem?]
            rfl
          rw [List.head?_cons, Queue.destroyLoop, hn]
          show Queue.destroyLoop fuel _ n.next = _
          rw [hhead]
          exact ih h.tail (Nat.le_of_succ_le_succ hfuel)

omit [DecidableEq ι] in
/-- With nothing in progress, the heap is the list from the head on. -/
theorem Inv.chain {s : State ι T} {order : List Ptr} (h : Inv s order) (hkept : Kept s order)
    (hquiet : s.Quiet) (hidle : s.pop = .idle) : Chain s.heap (order.drop s.popped.length) := by
  have htaken : s.taken = s.popped.length := by simp [State.taken, hidle, PopPc.taken]
  refine ⟨?_, fun k p hp => ?_, fun addr n hn => ?_⟩
  · rw [List.map_drop]
    exact h.nodup.sublist (List.drop_sublist ..)
  · rw [List.getElem?_drop] at hp
    obtain ⟨n, hn⟩ := h.alive (by omega) hp
    refine ⟨n, hn.node, ?_⟩
    rw [List.getElem?_drop, ← Nat.add_assoc]
    rcases h.next_eq (by omega) hp hn.node with hnext | ⟨-, i, q, hi, -⟩
    · exact hnext
    · rw [hquiet i] at hi
      cases hi
  · cases hkept addr n hn with
    | @list k taken place =>
        refine List.mem_of_getElem? (i := k - s.popped.length) ?_
        rw [List.getElem?_drop, Nat.add_sub_cancel' (htaken ▸ taken)]
        exact place
    | consumer old => simp [hidle, PopPc.oldHead] at old
    | producer ready =>
        rw [hquiet] at ready
        cases ready

/-- In every interleaving, exactly the nodes somebody still has to do with are alive, and
when nothing is in progress any more the destructor deletes each of them once, touches no
deleted node and leaves none behind. -/
theorem queue_frees_nodes {addr : Nat} {es : List (Action ι T)} {s : State ι T}
    (h : Steps.exec step (State.init addr) es = some s) :
    (∃ order, order.length = s.pushed.length + 1 ∧ order[s.taken]? = some s.head ∧
      (∀ k p n, s.taken ≤ k → order[k]? = some p → nodeAt s.heap p = some n →
        n.next = order[k + 1]? ∨
          n.next = none ∧ ∃ i q, s.push i = .storeNext q p ∧ order[k + 1]? = some q) ∧
      ∀ p, (∃ n, nodeAt s.heap p = some n) ↔ Owns s order p) ∧
    (s.Quiet → s.pop = .idle → ∀ fuel, s.pushed.length - s.popped.length + 1 ≤ fuel →
      s.destroy fuel = some fun _ => none) := by
  obtain ⟨order, hinv, hkept⟩ := exec_kept h
  refine ⟨⟨order, hinv.length, hinv.head, fun k p n => hinv.next_eq, fun p =>
    ⟨?_, hinv.alive_of_owns⟩⟩, ?_⟩
  · rintro ⟨n, hn⟩
    obtain ⟨hheap, hbirth⟩ := nodeAt_eq_some.mp hn
    have howner := hkept _ _ hheap
    rwa [hbirth] at howner
  · intro hquiet hidle fuel hfuel
    have htaken : s.taken = s.popped.length := by simp [State.taken, hidle, PopPc.taken]
    have hlen := hinv.length
    have hfreed : destroyLoop fuel s.heap (order.drop s.popped.length).head? = _ :=
      (hinv.chain hkept hquiet hidle).destroyLoop (by
        rw [List.length_drop]
        omega)
    rwa [List.head?_drop, ← htaken, hinv.head] at hfreed

theorem queue_frees_nodes_overtaking :
    ∃ s, Steps.exec step (State.init 0) (overtaking.take 10) = some s ∧
      s.destroy 1 = some fun _ => none := by
  obtain ⟨s, hs⟩ : ∃ s, Steps.exec step (State.init 0) (overtaking.take 10) = some s := ⟨_, rfl⟩
  refine ⟨s, hs, (queue_frees_nodes hs).2 ?_ ?_ 1 ?_⟩ <;> cases hs
  · exact fun i => by cases i <;> rfl
  · rfl
  · exact Nat.le_refl 1

end PorcelainMonitor.Queue
