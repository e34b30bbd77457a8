import Mathlib.Data.List.Nodup
import PorcelainMonitor.Queue.LockFreeQueue

/-!
# The invariant of `LockFreeQueue`

Number the nodes in the order of their tail exchanges, the dummy node first:
`order` is the list of their pointers.  The node at position `k + 1` carries the
value at position `k` of the pushed values.  At any time the nodes from position
`taken` on are alive.  `head_` is the first of them and `tail_` the last.

The links between them may have gaps.  A gap behind a node means that a producer
has exchanged the next node in and has still to store the link.  That producer
holds the only pointer through which the link is written, so the consumer cannot
pass the gap and cannot delete the node (`Inv.storing`).

Pointers into one list of distinct allocations are told apart by their birth
numbers, so a write through one living pointer leaves every other living node
alone (`nodeAt_update_of_ne`), whatever addresses `new` reuses.
-/

namespace PorcelainMonitor.Queue

variable {ι T : Type}

/-! ## Heap lookups -/

theorem nodeAt_eq_some {heap : Nat → Option (Node T)} {p : Ptr} {n : Node T} :
    nodeAt heap p = some n ↔ heap p.addr = some n ∧ n.birth = p.birth := by
  simp [nodeAt, Option.filter_eq_some_iff]

/-- Two living pointers to one address point to one allocation. -/
theorem birth_eq_of_addr_eq {heap : Nat → Option (Node T)} {p q : Ptr} {m n : Node T}
    (hp : nodeAt heap p = some m) (hq : nodeAt heap q = some n) (h : q.addr = p.addr) :
    q.birth = p.birth := by
  obtain ⟨hpa, hpb⟩ := nodeAt_eq_some.mp hp
  obtain ⟨hqa, hqb⟩ := nodeAt_eq_some.mp hq
  rw [h, hpa] at hqa
  cases hqa
  rw [← hpb, ← hqb]

/-- A write through one living pointer leaves the others alone. -/
theorem nodeAt_update_of_ne {heap : Nat → Option (Node T)} {p q : Ptr} {m n : Node T}
    (hp : nodeAt heap p = some m) (hq : nodeAt heap q = some n) (h : q.birth ≠ p.birth)
    (x : Option (Node T)) : nodeAt (Function.update heap p.addr x) q = some n := by
  have haddr : q.addr ≠ p.addr := fun he => h (birth_eq_of_addr_eq hp hq he)
  rw [nodeAt, Function.update_of_ne haddr]
  exact hq

/-- A write to a free address leaves all living nodes alone. -/
theorem nodeAt_update_free {heap : Nat → Option (Node T)} {addr : Nat} {q : Ptr} {n : Node T}
    (hfree : heap addr = none) (hq : nodeAt heap q = some n) (x : Option (Node T)) :
    nodeAt (Function.update heap addr x) q = some n := by
  have haddr : q.addr ≠ addr := by
    rintro rfl
    rw [(nodeAt_eq_some.mp hq).1] at hfree
    cases hfree
  rw [nodeAt, Function.update_of_ne haddr]
  exact hq

theorem nodeAt_update_self {heap : Nat → Option (Node T)} {p : Ptr} {n : Node T}
    (h : n.birth = p.birth) : nodeAt (Function.update heap p.addr (some n)) p = some n :=
  nodeAt_eq_some.mpr ⟨Function.update_self .., h⟩

/-! ## Positions -/

/-- How far the running `try_pop` has moved `head_`. -/
def PopPc.taken : PopPc T → Nat
  | .moveValue _ _ => 1
  | .deleteHead _ _ => 1
  | _ => 0

/-- How many values the running `try_pop` has moved out. -/
def PopPc.moved : PopPc T → Nat
  | .deleteHead _ _ => 1
  | _ => 0

/-- The position of `head_`. -/
def State.taken (s : State ι T) : Nat := s.popped.length + s.pop.taken

/-- The position of the first node whose value is still in place. -/
def State.unread (s : State ι T) : Nat := s.popped.length + s.pop.moved + 1

/-- The node at position `k` is alive, its link is right or missing with a
producer about to store it, and its value is in place. -/
structure Alive (s : State ι T) (order : List Ptr) (k : Nat) (p : Ptr) (n : Node T) : Prop where
  node : nodeAt s.heap p = some n
  next : ∀ q, n.next = some q → order[k + 1]? = some q
  gap : n.next = none → k < s.pushed.length → ∃ i q, s.push i = .storeNext q p
  value : s.unread ≤ k → n.value = s.pushed[k - 1]?

/-- Where `try_pop` stands: what it has loaded still holds. -/
def PopOk (s : State ι T) (order : List Ptr) : PopPc T → Prop
  | .idle => True
  | .loadNext oldHead => oldHead = s.head
  | .compareExchange oldHead next =>
      oldHead = s.head ∧ ∃ n, nodeAt s.heap oldHead = some n ∧ n.next = some next
  | .moveValue oldHead next =>
      next = s.head ∧ order[s.popped.length]? = some oldHead ∧
        ∃ n, nodeAt s.heap oldHead = some n
  | .deleteHead oldHead out =>
      order[s.popped.length]? = some oldHead ∧ s.pushed[s.popped.length]? = some out ∧
        ∃ n, nodeAt s.heap oldHead = some n

/-- The invariant, for the nodes in the order of their tail exchanges. -/
structure Inv (s : State ι T) (order : List Ptr) : Prop where
  length : order.length = s.pushed.length + 1
  tail : order[s.pushed.length]? = some s.tail
  head : order[s.taken]? = some s.head
  popped : s.popped = s.pushed.take s.popped.length
  nodup : (order.map Ptr.birth).Nodup
  births : ∀ p ∈ order, p.birth < s.births
  alive : ∀ {k p}, s.taken ≤ k → order[k]? = some p → ∃ n, Alive s order k p n
  /-- A producer that has still to store a link holds a gap behind a living
  node. -/
  storing : ∀ {i q p}, s.push i = .storeNext q p → ∃ k n, s.taken ≤ k ∧ order[k]? = some p ∧
    order[k + 1]? = some q ∧ nodeAt s.heap p = some n ∧ n.next = none
  storing_inj : ∀ {i j q q' p}, s.push i = .storeNext q p → s.push j = .storeNext q' p → i = j
  /-- A node still to be exchanged in is alive and no part of the list. -/
  fresh : ∀ {i q v}, s.push i = .exchange q v →
    nodeAt s.heap q = some ⟨q.birth, none, some v⟩ ∧ q.birth < s.births ∧
      q.birth ∉ order.map Ptr.birth
  fresh_inj : ∀ {i j q q' v v'}, s.push i = .exchange q v → s.push j = .exchange q' v' →
    q.birth = q'.birth → i = j
  pop : PopOk s order s.pop
  running : s.pop = .idle ∨ s.result = none
  faultless : s.fault = false

namespace Inv

variable {s : State ι T} {order : List Ptr}

/-- The birth numbers tell positions apart. -/
theorem birth_ne (h : Inv s order) {k l : Nat} {p q : Ptr} (hp : order[k]? = some p)
    (hq : order[l]? = some q) (hkl : k ≠ l) : q.birth ≠ p.birth := by
  intro he
  have hk : k < (order.map Ptr.birth).length := by
    simpa using (List.getElem?_eq_some_iff.mp hp).1
  exact hkl ((List.getElem?_inj hk h.nodup).mp (by simp [hp, hq, he]))

theorem mem_births {k : Nat} {p : Ptr} (hp : order[k]? = some p) :
    p.birth ∈ order.map Ptr.birth :=
  List.mem_map.mpr ⟨p, List.mem_of_getElem? hp, rfl⟩

theorem taken_le (h : Inv s order) : s.taken ≤ s.pushed.length := by
  have hlt := (List.getElem?_eq_some_iff.mp h.head).1
  rw [h.length] at hlt
  omega

/-- A running `try_pop` has not answered. -/
theorem result_none (h : Inv s order) (hs : s.pop ≠ .idle) : s.result = none :=
  h.running.resolve_left hs

theorem getElem?_grow {k : Nat} {p newNode : Ptr} (hp : order[k]? = some p) :
    (order ++ [newNode])[k]? = some p := by
  rw [List.getElem?_append_left (List.getElem?_eq_some_iff.mp hp).1]
  exact hp

/-- No node stands behind the last one. -/
theorem no_next (h : Inv s order) {k : Nat} {q : Ptr} (hk : order[k]? = some s.tail) :
    order[k + 1]? ≠ some q := by
  intro hq
  have hlen := h.length
  have hkl := (List.getElem?_eq_some_iff.mp hq).1
  exact h.birth_ne hk h.tail (by omega) rfl

/-- The link of the last node is still missing. -/
theorem tail_next (h : Inv s order) :
    ∃ n, nodeAt s.heap s.tail = some n ∧ n.next = none := by
  obtain ⟨n, hn⟩ := h.alive h.taken_le h.tail
  refine ⟨n, hn.node, ?_⟩
  cases hnext : n.next with
  | none => rfl
  | some q => exact absurd (hn.next q hnext) (h.no_next h.tail)

/-- No producer has a link to store behind the last node. -/
theorem not_storing_tail (h : Inv s order) {j : ι} {q : Ptr} : s.push j ≠ .storeNext q s.tail := by
  intro hj
  obtain ⟨k, n, _, hp, hnew, _⟩ := h.storing hj
  exact h.no_next hp hnew

/-- Where `try_pop` stands does not depend on the end of the list. -/
theorem popOk_grow {pc : PopPc T} {s' : State ι T} {newNode : Ptr} {value : T}
    (h : PopOk s order pc) (hheap : s'.heap = s.heap) (hhead : s'.head = s.head)
    (hpopped : s'.popped = s.popped) (hpushed : s'.pushed = s.pushed ++ [value]) :
    PopOk s' (order ++ [newNode]) pc := by
  cases pc with
  | idle => trivial
  | loadNext => exact Eq.trans h hhead.symm
  | compareExchange =>
      obtain ⟨hold, hn⟩ := h
      exact ⟨hhead ▸ hold, hheap ▸ hn⟩
  | moveValue =>
      obtain ⟨hnext, hold, hn⟩ := h
      exact ⟨hhead ▸ hnext, hpopped ▸ getElem?_grow hold, hheap ▸ hn⟩
  | deleteHead =>
      obtain ⟨hold, hout, hn⟩ := h
      refine ⟨hpopped ▸ getElem?_grow hold, ?_, hheap ▸ hn⟩
      rw [hpopped, hpushed, List.getElem?_append_left (List.getElem?_eq_some_iff.mp hout).1]
      exact hout

/-- The head node is alive. -/
theorem head_alive (h : Inv s order) : ∃ n, Alive s order s.taken s.head n :=
  h.alive (Nat.le_refl _) h.head

/-- A write to the node at one position leaves the nodes at the others alone. -/
theorem write_other (h : Inv s order) {k l : Nat} {p q : Ptr} {m n : Node T}
    (hp : order[k]? = some p) (hm : nodeAt s.heap p = some m)
    (hq : order[l]? = some q) (hn : nodeAt s.heap q = some n) (hkl : k ≠ l)
    (x : Option (Node T)) : nodeAt (Function.update s.heap p.addr x) q = some n :=
  nodeAt_update_of_ne hm hn (h.birth_ne hp hq hkl) x

/-- A write to a node of the list leaves the nodes still to be exchanged in
alone. -/
theorem write_fresh (h : Inv s order) {k : Nat} {p : Ptr} {m : Node T}
    (hp : order[k]? = some p) (hm : nodeAt s.heap p = some m) (x : Option (Node T))
    {i : ι} {q : Ptr} {v : T} (hi : s.push i = .exchange q v) :
    nodeAt (Function.update s.heap p.addr x) q = some ⟨q.birth, none, some v⟩ ∧
      q.birth < s.births ∧ q.birth ∉ order.map Ptr.birth := by
  obtain ⟨hn, hlt, hnot⟩ := h.fresh hi
  refine ⟨nodeAt_update_of_ne hm hn ?_ x, hlt, hnot⟩
  intro he
  exact hnot (he ▸ mem_births hp)

/-- A write to a node without a link leaves what `try_pop` has loaded. -/
theorem popOk_write (h : Inv s order) {k : Nat} {p : Ptr} {n : Node T} {s' : State ι T}
    {x : Option (Node T)} (hk : s.taken ≤ k) (hp : order[k]? = some p)
    (hn : nodeAt s.heap p = some n) (hgap : n.next = none)
    (hheap : s'.heap = Function.update s.heap p.addr x) (hhead : s'.head = s.head)
    (hpopped : s'.popped = s.popped) (hpushed : s'.pushed = s.pushed) :
    PopOk s' order s.pop := by
  have hpop := h.pop
  have htaken : s.taken = s.popped.length + s.pop.taken := rfl
  have hother {l : Nat} {q : Ptr} {m : Node T} (hq : order[l]? = some q)
      (hm : nodeAt s.heap q = some m) (hkl : k ≠ l) : nodeAt s'.heap q = some m :=
    hheap ▸ h.write_other hp hn hq hm hkl x
  revert hpop htaken
  cases hpc : s.pop with
  | idle => exact fun _ _ => trivial
  | loadNext => exact fun hload _ => Eq.trans hload hhead.symm
  | compareExchange oldHead next =>
      rintro ⟨rfl, m, hm, hnext⟩ -
      -- the old head has its link already, so the gap is elsewhere
      have hne : k ≠ s.taken := by
        rintro rfl
        obtain rfl : p = s.head := Option.some.inj (hp.symm.trans h.head)
        rw [hm] at hn
        cases hn
        rw [hnext] at hgap
        cases hgap
      exact ⟨hhead.symm, m, hother h.head hm hne, hnext⟩
  | moveValue oldHead next =>
      rintro ⟨hnext, hpos, m, hm⟩ ht
      have hne : k ≠ s.popped.length := by
        simp only [PopPc.taken] at ht
        omega
      exact ⟨hnext.trans hhead.symm, hpopped ▸ hpos, m, hother hpos hm hne⟩
  | deleteHead oldHead out =>
      rintro ⟨hpos, hout, m, hm⟩ ht
      have hne : k ≠ s.popped.length := by
        simp only [PopPc.taken] at ht
        omega
      exact ⟨hpopped ▸ hpos, by rwa [hpushed, hpopped], m, hother hpos hm hne⟩

/-! ## The steps of `try_pop` -/

/-- The consumer moves on without touching the list. -/
theorem setPop (h : Inv s order) {pc : PopPc T} (r : Option Bool)
    (htaken : pc.taken = s.pop.taken) (hmoved : pc.moved = s.pop.moved)
    (hpc : PopOk s order pc) (hr : pc = .idle ∨ r = none) :
    Inv { s with pop := pc, result := r } order := by
  have ht : State.taken { s with pop := pc, result := r } = s.taken := by
    simp [State.taken, htaken]
  have hu : State.unread { s with pop := pc, result := r } = s.unread := by
    simp [State.unread, hmoved]
  refine { h with head := by rw [ht]; exact h.head, alive := ?_, storing := ?_, pop := ?_,
                  running := hr }
  · intro k p hk hp
    rw [ht] at hk
    obtain ⟨n, hn⟩ := h.alive hk hp
    exact ⟨n, hn.node, hn.next, hn.gap, fun hle => hn.value (hu ▸ hle)⟩
  · rw [ht]
    exact h.storing
  · cases pc with
    | idle => trivial
    | loadNext => exact hpc
    | compareExchange => exact hpc
    | moveValue => exact hpc
    | deleteHead => exact hpc

/-- `head_` moves on to the next node, which the loaded link still names. -/
theorem compareExchange (h : Inv s order) {oldHead next : Ptr}
    (hs : s.pop = .compareExchange oldHead next) :
    Inv { s with head := next, pop := .moveValue oldHead next } order := by
  have hpop := h.pop
  rw [hs] at hpop
  obtain ⟨rfl, n, hn, hnext⟩ := hpop
  have ht : s.taken = s.popped.length := by simp [State.taken, hs, PopPc.taken]
  obtain ⟨m, hm⟩ := h.head_alive
  have hmn : m = n := Option.some.inj (hm.node.symm.trans hn)
  have hsucc : order[s.taken + 1]? = some next := hm.next next (by rw [hmn, hnext])
  have ht' : State.taken { s with head := next, pop := PopPc.moveValue s.head next } =
      s.taken + 1 := by
    simp [State.taken, hs, PopPc.taken]
  have hu' : State.unread { s with head := next, pop := PopPc.moveValue s.head next } =
      s.unread := by
    simp [State.unread, hs, PopPc.moved]
  refine { h with head := by rw [ht']; exact hsucc, alive := ?_, storing := ?_, pop := ?_,
                  running := .inr (h.result_none (by simp [hs])) }
  · intro k p hk hp
    rw [ht'] at hk
    obtain ⟨o, ho⟩ := h.alive (by omega) hp
    exact ⟨o, ho.node, ho.next, ho.gap, fun hle => ho.value (hu' ▸ hle)⟩
  · intro i q p hi
    obtain ⟨k, o, hk, hp, hq, ho, hgap⟩ := h.storing hi
    -- The link behind the old head is there, so the gap lies further on.
    have hne : k ≠ s.taken := by
      rintro rfl
      have hph : p = s.head := Option.some.inj (hp.symm.trans h.head)
      rw [hph, hn] at ho
      cases ho
      rw [hnext] at hgap
      cases hgap
    exact ⟨k, o, by omega, hp, hq, ho, hgap⟩
  · exact ⟨rfl, ht ▸ h.head, n, hn⟩

/-- The value of the new head is the next of the pushed values. -/
theorem moveValue (h : Inv s order) {oldHead next : Ptr} (hs : s.pop = .moveValue oldHead next) :
    ∃ n out, nodeAt s.heap next = some n ∧ n.value = some out ∧
      Inv { s with
        heap := Function.update s.heap next.addr (some { n with value := none })
        pop := .deleteHead oldHead out } order := by
  have hpop := h.pop
  rw [hs] at hpop
  obtain ⟨rfl, hold, o, ho⟩ := hpop
  have ht : s.taken = s.popped.length + 1 := by simp [State.taken, hs, PopPc.taken]
  have hu : s.unread = s.popped.length + 1 := by simp [State.unread, hs, PopPc.moved]
  obtain ⟨n, hn⟩ := h.head_alive
  have hle := h.taken_le
  have hval : n.value = some s.pushed[s.popped.length] := by
    rw [hn.value (by omega), ht]
    exact List.getElem?_eq_getElem _
  have hout : s.pushed[s.popped.length]? = some s.pushed[s.popped.length] :=
    List.getElem?_eq_getElem _
  generalize s.pushed[s.popped.length] = out at hval hout
  refine ⟨n, out, hn.node, hval, ?_⟩
  have hself : nodeAt (Function.update s.heap s.head.addr (some { n with value := none })) s.head =
      some { n with value := none } :=
    nodeAt_update_self (nodeAt_eq_some.mp hn.node).2
  generalize ht' : State.taken { s with
      heap := Function.update s.heap s.head.addr (some { n with value := none })
      pop := PopPc.deleteHead oldHead out } = taken'
  have htaken : taken' = s.taken := by
    rw [← ht', ht]
    rfl
  have hunread : State.unread { s with
      heap := Function.update s.heap s.head.addr (some { n with value := none })
      pop := PopPc.deleteHead oldHead out } = s.taken + 1 := by
    rw [ht]
    rfl
  refine { h with head := ?_, alive := ?_, storing := ?_, fresh := ?_, pop := ?_,
                  running := .inr (h.result_none (by simp [hs])) }
  · rw [ht', htaken]
    exact h.head
  · intro k p hk hp
    rw [ht', htaken] at hk
    by_cases hkt : s.taken = k
    · subst hkt
      have hph : p = s.head := Option.some.inj (hp.symm.trans h.head)
      subst hph
      refine ⟨_, hself, hn.next, hn.gap, fun hle => ?_⟩
      rw [hunread] at hle
      omega
    · obtain ⟨m, hm⟩ := h.alive hk hp
      refine ⟨m, h.write_other h.head hn.node hp hm.node hkt _, hm.next, hm.gap, fun hle => ?_⟩
      exact hm.value (by omega)
  · intro i q p hi
    obtain ⟨k, m, hk, hp, hq, hm, hgap⟩ := h.storing hi
    by_cases hkt : s.taken = k
    · subst hkt
      have hph : p = s.head := Option.some.inj (hp.symm.trans h.head)
      subst hph
      have hmn : n = m := Option.some.inj (hn.node.symm.trans hm)
      subst hmn
      exact ⟨s.taken, _, by omega, hp, hq, hself, hgap⟩
    · exact ⟨k, m, by omega, hp, hq, h.write_other h.head hn.node hp hm hkt _, hgap⟩
  · intro i q v hi
    exact h.write_fresh h.head hn.node _ hi
  · exact ⟨hold, hout, o, h.write_other h.head hn.node hold ho (by omega) _⟩

/-- The old head lies before the living part of the list. -/
theorem deleteHead (h : Inv s order) {oldHead : Ptr} {out : T}
    (hs : s.pop = .deleteHead oldHead out) :
    ∃ n, nodeAt s.heap oldHead = some n ∧
      Inv { s with
        heap := Function.update s.heap oldHead.addr none
        pop := .idle
        result := some true
        popped := s.popped ++ [out] } order := by
  have hpop := h.pop
  rw [hs] at hpop
  obtain ⟨hold, hout, o, ho⟩ := hpop
  have ht : s.taken = s.popped.length + 1 := by simp [State.taken, hs, PopPc.taken]
  have hu : s.unread = s.popped.length + 2 := by simp [State.unread, hs, PopPc.moved]
  refine ⟨o, ho, ?_⟩
  generalize ht' : State.taken { s with
      heap := Function.update s.heap oldHead.addr none
      pop := PopPc.idle
      result := some true
      popped := s.popped ++ [out] } = taken'
  have htaken : taken' = s.taken := by
    rw [← ht', ht]
    simp [State.taken, PopPc.taken]
  have hunread : State.unread { s with
      heap := Function.update s.heap oldHead.addr none
      pop := PopPc.idle
      result := some true
      popped := s.popped ++ [out] } = s.unread := by
    rw [hu]
    simp [State.unread, PopPc.moved]
  refine { h with head := ?_, popped := ?_, alive := ?_, storing := ?_, fresh := ?_, pop := ?_,
                  running := .inl rfl }
  · rw [ht', htaken]
    exact h.head
  · rw [List.length_append, List.length_singleton, List.take_add_one, ← h.popped, hout]
    rfl
  · intro k p hk hp
    rw [ht', htaken] at hk
    obtain ⟨m, hm⟩ := h.alive hk hp
    exact ⟨m, h.write_other hold ho hp hm.node (by omega) _, hm.next, hm.gap,
      fun hle => hm.value (hunread ▸ hle)⟩
  · intro i q p hi
    obtain ⟨k, m, hk, hp, hq, hm, hgap⟩ := h.storing hi
    exact ⟨k, m, by omega, hp, hq, h.write_other hold ho hp hm (by omega) _, hgap⟩
  · intro i q v hi
    exact h.write_fresh hold ho _ hi
  · trivial

end Inv

/-! ## The steps of `push` -/

/-- What another producer's counter says after one producer has moved on. -/
theorem push_update [DecidableEq ι] {f : ι → PushPc T} {i j : ι} {pc pc' : PushPc T}
    (h : Function.update f i pc j = pc') : j = i ∧ pc = pc' ∨ j ≠ i ∧ f j = pc' := by
  by_cases hji : j = i
  · subst hji
    exact .inl ⟨rfl, by simpa using h⟩
  · exact .inr ⟨hji, by simpa [hji] using h⟩

namespace Inv

variable {s : State ι T} {order : List Ptr} [DecidableEq ι]

/-- A new node takes a free address and a new birth number. -/
theorem new (h : Inv s order) {i : ι} {addr : Nat} (value : T) (hs : s.push i = .idle)
    (hfree : s.heap addr = none) :
    Inv { s with
      heap := Function.update s.heap addr (some ⟨s.births, none, some value⟩)
      births := s.births + 1
      push := Function.update s.push i (.exchange ⟨addr, s.births⟩ value) } order := by
  have hstore : ∀ {j q p}, Function.update s.push i (.exchange ⟨addr, s.births⟩ value) j =
      .storeNext q p → s.push j = .storeNext q p := by
    intro j q p hj
    rcases push_update hj with ⟨_, hj⟩ | ⟨_, hj⟩
    · cases hj
    · exact hj
  have hbirths : s.births ∉ order.map Ptr.birth := by
    intro hmem
    obtain ⟨p, hp, hpb⟩ := List.mem_map.mp hmem
    exact absurd (h.births p hp) (by omega)
  refine { h with births := ?_, alive := ?_, storing := ?_, storing_inj := ?_, fresh := ?_,
                  fresh_inj := ?_, pop := ?_ }
  · intro p hp
    exact Nat.lt_succ_of_lt (h.births p hp)
  · intro k p hk hp
    obtain ⟨n, hn⟩ := h.alive hk hp
    refine ⟨n, nodeAt_update_free hfree hn.node _, hn.next, fun hnone hlt => ?_, hn.value⟩
    obtain ⟨j, q, hj⟩ := hn.gap hnone hlt
    have hji : j ≠ i := by
      rintro rfl
      rw [hs] at hj
      cases hj
    exact ⟨j, q, by simpa [hji] using hj⟩
  · intro j q p hj
    obtain ⟨k, n, hk, hp, hq, hn, hgap⟩ := h.storing (hstore hj)
    exact ⟨k, n, hk, hp, hq, nodeAt_update_free hfree hn _, hgap⟩
  · intro j j' q q' p hj hj'
    exact h.storing_inj (hstore hj) (hstore hj')
  · intro j q v hj
    rcases push_update hj with ⟨_, hj⟩ | ⟨_, hj⟩
    · cases hj
      exact ⟨nodeAt_eq_some.mpr ⟨by simp, rfl⟩, Nat.lt_succ_self _, hbirths⟩
    · obtain ⟨hn, hlt, hnot⟩ := h.fresh hj
      exact ⟨nodeAt_update_free hfree hn _, Nat.lt_succ_of_lt hlt, hnot⟩
  · intro j j' q q' v v' hj hj' he
    rcases push_update hj with ⟨hji, hq⟩ | ⟨_, hq⟩
    · rcases push_update hj' with ⟨hji', _⟩ | ⟨_, hq'⟩
      · rw [hji, hji']
      · cases hq
        have hlt := (h.fresh hq').2.1
        rw [← he] at hlt
        exact absurd hlt (Nat.lt_irrefl _)
    · rcases push_update hj' with ⟨_, hq'⟩ | ⟨_, hq'⟩
      · cases hq'
        have hlt := (h.fresh hq).2.1
        rw [he] at hlt
        exact absurd hlt (Nat.lt_irrefl _)
      · exact h.fresh_inj hq hq' he
  · have hpop := h.pop
    revert hpop
    cases hpc : s.pop with
    | idle => exact id
    | loadNext => exact id
    | compareExchange =>
        rintro ⟨hold, n, hn, hnext⟩
        exact ⟨hold, n, nodeAt_update_free hfree hn _, hnext⟩
    | moveValue =>
        rintro ⟨hnext, hold, n, hn⟩
        exact ⟨hnext, hold, n, nodeAt_update_free hfree hn _⟩
    | deleteHead =>
        rintro ⟨hold, hout, n, hn⟩
        exact ⟨hold, hout, n, nodeAt_update_free hfree hn _⟩

/-- A producer closes the gap it holds. -/
theorem storeNext (h : Inv s order) {i : ι} {newNode oldTail : Ptr}
    (hs : s.push i = .storeNext newNode oldTail) :
    ∃ n, nodeAt s.heap oldTail = some n ∧
      Inv { s with
        heap := Function.update s.heap oldTail.addr (some { n with next := some newNode })
        push := Function.update s.push i .idle } order := by
  obtain ⟨k, n, hk, hold, hnew, hn, hgap⟩ := h.storing hs
  have hself : nodeAt (Function.update s.heap oldTail.addr
      (some { n with next := some newNode })) oldTail = some { n with next := some newNode } :=
    nodeAt_update_self (nodeAt_eq_some.mp hn).2
  have hpush : ∀ {j pc}, pc ≠ .idle → Function.update s.push i .idle j = pc →
      j ≠ i ∧ s.push j = pc := by
    intro j pc hpc hj
    rcases push_update hj with ⟨_, hj⟩ | hj
    · exact absurd hj.symm hpc
    · exact hj
  refine ⟨n, hn, ?_⟩
  refine { h with
    alive := ?alive
    storing := ?storing
    storing_inj := ?storing_inj
    fresh := ?fresh
    fresh_inj := ?fresh_inj
    pop := h.popOk_write hk hold hn hgap rfl rfl rfl rfl }
  case alive =>
    intro l p hl hp
    obtain ⟨m, hm⟩ := h.alive hl hp
    by_cases hkl : k = l
    · subst hkl
      obtain rfl : p = oldTail := Option.some.inj (hp.symm.trans hold)
      obtain rfl : m = n := Option.some.inj (hm.node.symm.trans hn)
      refine ⟨_, hself, fun q hq => ?_, fun hnone => ?_, hm.value⟩
      · cases hq
        exact hnew
      · cases hnone
    · refine ⟨m, h.write_other hold hn hp hm.node hkl _, hm.next, fun hnone hlt => ?_, hm.value⟩
      obtain ⟨j, q, hj⟩ := hm.gap hnone hlt
      have hji : j ≠ i := by
        rintro rfl
        rw [hs] at hj
        cases hj
        exact h.birth_ne hold hp hkl rfl
      exact ⟨j, q, by simpa [hji] using hj⟩
  case storing =>
    intro j q p hj
    obtain ⟨hji, hjs⟩ := hpush (by simp) hj
    obtain ⟨l, m, hl, hp, hq, hm, hmgap⟩ := h.storing hjs
    have hkl : k ≠ l := by
      rintro rfl
      obtain rfl : p = oldTail := Option.some.inj (hp.symm.trans hold)
      exact hji (h.storing_inj hjs hs)
    exact ⟨l, m, hl, hp, hq, h.write_other hold hn hp hm hkl _, hmgap⟩
  case storing_inj =>
    intro j j' q q' p hj hj'
    exact h.storing_inj (hpush (by simp) hj).2 (hpush (by simp) hj').2
  case fresh =>
    intro j q v hj
    exact h.write_fresh hold hn _ (hpush (by simp) hj).2
  case fresh_inj =>
    intro j j' q q' v v' hj hj'
    exact h.fresh_inj (hpush (by simp) hj).2 (hpush (by simp) hj').2

/-! ## The tail exchange -/

section Exchange

variable {i : ι} {newNode : Ptr} {value : T}

/-- The nodes of the list stay alive; the last one now has a gap behind it. -/
theorem alive_exchange (h : Inv s order) (hs : s.push i = .exchange newNode value) {k : Nat}
    {p : Ptr} {n : Node T} (hkl : k < order.length) (hp : order[k]? = some p)
    (hn : Alive s order k p n) :
    Alive { s with
      tail := newNode
      pushed := s.pushed ++ [value]
      push := Function.update s.push i (.storeNext newNode s.tail) }
      (order ++ [newNode]) k p n where
  node := hn.node
  next q hq := getElem?_grow (hn.next q hq)
  gap hnone _ := by
    by_cases hkt : k = s.pushed.length
    · subst hkt
      obtain rfl : p = s.tail := Option.some.inj (hp.symm.trans h.tail)
      exact ⟨i, newNode, by simp⟩
    · have hlen := h.length
      obtain ⟨j, q, hj⟩ := hn.gap hnone (by omega)
      have hji : j ≠ i := by
        rintro rfl
        rw [hs] at hj
        cases hj
      exact ⟨j, q, by simpa [hji] using hj⟩
  value hu := by
    have hlen := h.length
    have hk0 : 1 ≤ k := Nat.le_trans (Nat.le_add_left ..) hu
    rw [List.getElem?_append_left (by omega)]
    exact hn.value hu

/-- The new node is alive, and none is behind it. -/
theorem alive_newNode (h : Inv s order) (hs : s.push i = .exchange newNode value) :
    Alive { s with
      tail := newNode
      pushed := s.pushed ++ [value]
      push := Function.update s.push i (.storeNext newNode s.tail) } (order ++ [newNode])
      order.length newNode ⟨newNode.birth, none, some value⟩ where
  node := (h.fresh hs).1
  next q hq := by cases hq
  gap _ hgap := by
    have hlen := h.length
    rw [List.length_append, List.length_singleton] at hgap
    omega
  value _ := by rw [h.length, Nat.add_sub_cancel, List.getElem?_concat_length]

/-- The new node becomes the last one, behind a gap. -/
theorem exchange (h : Inv s order) (hs : s.push i = .exchange newNode value) :
    Inv { s with
      tail := newNode
      pushed := s.pushed ++ [value]
      push := Function.update s.push i (.storeNext newNode s.tail) } (order ++ [newNode]) where
  length := by simp [h.length]
  tail := by simp [← h.length]
  head := getElem?_grow h.head
  popped := by
    rw [List.take_append_of_le_length]
    · exact h.popped
    · exact Nat.le_trans (Nat.le_add_right ..) h.taken_le
  nodup := by
    rw [List.map_append, List.nodup_append]
    refine ⟨h.nodup, by simp, fun b hb c hc => ?_⟩
    rintro rfl
    rw [List.map_singleton, List.mem_singleton] at hc
    exact (h.fresh hs).2.2 (hc ▸ hb)
  births p hp := by
    rcases List.mem_append.mp hp with hp | hp
    · exact h.births p hp
    · rw [List.mem_singleton.mp hp]
      exact (h.fresh hs).2.1
  alive {k p} hk hp := by
    by_cases hkl : k < order.length
    · rw [List.getElem?_append_left hkl] at hp
      obtain ⟨n, hn⟩ := h.alive hk hp
      exact ⟨n, h.alive_exchange hs hkl hp hn⟩
    · have hkb := (List.getElem?_eq_some_iff.mp hp).1
      rw [List.length_append, List.length_singleton] at hkb
      obtain rfl : k = order.length := by omega
      rw [List.getElem?_concat_length] at hp
      cases hp
      exact ⟨_, h.alive_newNode hs⟩
  storing {j q p} hj := by
    rcases push_update hj with ⟨_, hj⟩ | ⟨_, hj⟩
    · cases hj
      obtain ⟨n, hn, hnext⟩ := h.tail_next
      exact ⟨s.pushed.length, n, h.taken_le, getElem?_grow h.tail, by simp [← h.length], hn, hnext⟩
    · obtain ⟨k, n, hk, hp, hq, hn, hgap⟩ := h.storing hj
      exact ⟨k, n, hk, getElem?_grow hp, getElem?_grow hq, hn, hgap⟩
  storing_inj {j j' q q' p} hj hj' := by
    rcases push_update hj with ⟨hji, hq⟩ | ⟨_, hq⟩
    · rcases push_update hj' with ⟨hji', _⟩ | ⟨_, hq'⟩
      · rw [hji, hji']
      · cases hq
        exact absurd hq' h.not_storing_tail
    · rcases push_update hj' with ⟨_, hq'⟩ | ⟨_, hq'⟩
      · cases hq'
        exact absurd hq h.not_storing_tail
      · exact h.storing_inj hq hq'
  fresh {j q v} hj := by
    rcases push_update hj with ⟨_, hj⟩ | ⟨hji, hj⟩
    · cases hj
    · obtain ⟨hn, hb, hnb⟩ := h.fresh hj
      refine ⟨hn, hb, ?_⟩
      rw [List.map_append, List.mem_append]
      rintro (hmem | hmem)
      · exact hnb hmem
      · exact hji (h.fresh_inj hj hs (List.mem_singleton.mp hmem))
  fresh_inj {j j' q q' v v'} hj hj' he := by
    rcases push_update hj with ⟨_, hq⟩ | ⟨_, hq⟩
    · cases hq
    · rcases push_update hj' with ⟨_, hq'⟩ | ⟨_, hq'⟩
      · cases hq'
      · exact h.fresh_inj hq hq' he
  pop := popOk_grow h.pop rfl rfl rfl rfl
  running := h.running
  faultless := h.faultless

end Exchange

end Inv

end PorcelainMonitor.Queue
