import PorcelainMonitor.Queue.Delivery

/-!
# What `try_pop` sees

`push` makes its value known in two steps: the exchange gives it its place, the store
of the link makes it visible.  A producer that stops between the two hides its own value
and everything pushed after it.

* `tryPop_false_iff`: `try_pop` answers `false` exactly if nothing is left or the next
  value is hidden so.
* `stalled_push_hides`: as long as that producer takes no step, no run of the others
  pops more than what was pushed before it.
-/

namespace PorcelainMonitor.Queue

variable {ι T : Type} [DecidableEq ι]

/-! ## A `try_pop` that answers `false` -/

/-- In every interleaving, `try_pop` answers `false` exactly if everything pushed has
been popped or a producer has still to store the link to the next value. -/
theorem tryPop_false_iff {addr : Nat} {es : List (Action ι T)} {s t : State ι T}
    (h : Steps.exec step (State.init addr) es = some s) (hst : step s .loadNext = some t) :
    t.result = some false ↔
      s.popped = s.pushed ∨ ∃ i newNode, s.push i = .storeNext newNode s.head := by
  obtain ⟨order, hinv⟩ := Inv.exec h
  have hlen := hinv.length
  obtain ⟨n, hn⟩ := hinv.head_alive
  obtain ⟨order', hmoves, -⟩ := hinv.moves hst
  cases hmoves with
  | missed loading node last =>
      have hnode := Option.some.inj (hn.node.symm.trans node)
      have htaken : s.taken = s.popped.length := by simp [State.taken, loading, PopPc.taken]
      refine iff_of_true rfl ?_
      by_cases hlt : s.taken < s.pushed.length
      · exact .inr (hn.gap (hnode ▸ last) hlt)
      · have htake := hinv.popped
        rw [List.take_of_length_le (by omega)] at htake
        exact .inl htake
  | found loading node link =>
      have hnode := Option.some.inj (hn.node.symm.trans node)
      have hopen : s.result = none := hinv.result_none (by simp [loading])
      refine iff_of_false (by simp [hopen]) ?_
      rintro (hempty | ⟨i, newNode, hi⟩)
      · have hnext := hn.next _ (hnode ▸ link)
        have hlt := (List.getElem?_eq_some_iff.mp hnext).1
        have htaken : s.taken = s.popped.length := by simp [State.taken, loading, PopPc.taken]
        rw [htaken, hempty] at hlt
        omega
      · obtain ⟨k, m, -, -, -, hm, hgap⟩ := hinv.storing hi
        rw [node, Option.some.injEq] at hm
        rw [← hm, link] at hgap
        cases hgap

theorem tryPop_false_iff_overtaking :
    ∃ s t, Steps.exec step (State.init 0) (overtaking.take 3) = some s ∧
      step s .loadNext = some t ∧
      (t.result = some false ↔
        s.popped = s.pushed ∨ ∃ i newNode, s.push i = .storeNext newNode s.head) := by
  obtain ⟨s, hs⟩ : ∃ s, Steps.exec step (State.init 0) (overtaking.take 3) = some s := ⟨_, rfl⟩
  obtain ⟨t, ht⟩ : ∃ t, step s .loadNext = some t := by
    cases hs
    exact ⟨_, rfl⟩
  exact ⟨s, t, hs, ht, tryPop_false_iff hs ht⟩

/-! ## A producer that stops -/

/-- The producer whose step this is. -/
def Action.producer : Action ι T → Option ι
  | .new i _ _ => some i
  | .exchange i => some i
  | .storeNext i => some i
  | _ => none

/-- Nobody else moves a producer on. -/
theorem Moves.push_eq {s t : State ι T} {order order' : List Ptr} {a : Action ι T} {i : ι}
    (h : Moves s order a t order') (hi : a.producer ≠ some i) : t.push i = s.push i := by
  have hother : ∀ {j pc}, some j ≠ some i → Function.update s.push j pc i = s.push i :=
    fun hj => Function.update_of_ne (fun h => hj (congrArg some h.symm)) ..
  cases h with
  | new => exact hother hi
  | exchange => exact hother hi
  | storeNext => exact hother hi
  | _ => rfl

/-- The producer still stands where it stood, in a list that has only grown. -/
def Stalled (order : List Ptr) (pushed : List T) (i : ι) (newNode oldTail : Ptr)
    (t : State ι T) : Prop :=
  t.push i = .storeNext newNode oldTail ∧
    ∃ order', Inv t order' ∧ order <+: order' ∧ pushed <+: t.pushed

theorem Stalled.step {order : List Ptr} {pushed : List T} {i : ι} {newNode oldTail : Ptr}
    {t u : State ι T} {a : Action ι T} (h : Stalled order pushed i newNode oldTail t)
    (ha : a.producer ≠ some i) (hst : Queue.step t a = some u) :
    Stalled order pushed i newNode oldTail u := by
  obtain ⟨hpush, order', hinv, horder, hpushed⟩ := h
  obtain ⟨order'', hmoves, hinv'⟩ := hinv.moves hst
  exact ⟨(hmoves.push_eq ha).trans hpush, order'', hinv', horder.trans hmoves.grows.1,
    hpushed.trans hmoves.grows.2⟩

omit [DecidableEq ι] in
/-- The consumer does not pass the place of a producer that stands there. -/
theorem Stalled.popped {order : List Ptr} {pushed : List T} {i : ι} {newNode oldTail : Ptr}
    {t : State ι T} {k : Nat} (h : Stalled order pushed i newNode oldTail t)
    (hk : order[k]? = some oldTail) (hle : k ≤ pushed.length) : t.popped <+: pushed.take k := by
  obtain ⟨hpush, order', hinv, ⟨rest, rfl⟩, ⟨later, hlater⟩⟩ := h
  obtain ⟨k', -, htaken, hold, -, -, -⟩ := hinv.storing hpush
  have hplace : k' = k := by
    by_contra hne
    have hgrown : (order ++ rest)[k]? = some oldTail := by
      rw [List.getElem?_append_left (List.getElem?_eq_some_iff.mp hk).1]
      exact hk
    exact hinv.birth_ne hgrown hold (Ne.symm hne) rfl
  have hpopped : t.popped.length ≤ k := by
    simp only [State.taken] at htaken
    omega
  rw [hinv.popped, ← hlater, List.take_append_of_le_length (by omega)]
  exact List.take_prefix_take_left hpopped

/-- While a producer stands between the exchange and the store, whatever the others do,
its value and all later ones stay where they are, also those whose push is done. -/
theorem stalled_push_hides {addr : Nat} {es : List (Action ι T)} {s : State ι T}
    (h : Steps.exec step (State.init addr) es = some s) {i : ι} {newNode oldTail : Ptr}
    (hi : s.push i = .storeNext newNode oldTail) :
    ∃ k n, nodeAt s.heap newNode = some n ∧ n.value = s.pushed[k]? ∧ k < s.pushed.length ∧
      ∀ more t, (∀ a ∈ more, a.producer ≠ some i) → Steps.exec step s more = some t →
        t.popped <+: s.pushed.take k := by
  obtain ⟨order, hinv⟩ := Inv.exec h
  obtain ⟨k, -, hk, hold, hnew, -, -⟩ := hinv.storing hi
  have hlen := hinv.length
  have hlt := (List.getElem?_eq_some_iff.mp hnew).1
  obtain ⟨n, hn⟩ := hinv.alive (Nat.le_succ_of_le hk) hnew
  have hunread : s.unread ≤ k + 1 := by
    have hmoved : s.pop.moved ≤ s.pop.taken := by cases s.pop <;> simp [PopPc.moved, PopPc.taken]
    simp only [State.unread, State.taken] at hk ⊢
    omega
  refine ⟨k, n, hn.node, hn.value hunread, by omega, fun more t hmore hexec => ?_⟩
  have hstalled : Stalled order s.pushed i newNode oldTail t :=
    @Steps.exec_invariant_of _ _ _ (Stalled order s.pushed i newNode oldTail)
      (fun _ a => a.producer ≠ some i) (fun _ _ _ hu ha hst => hu.step ha hst) _ _ _
      ⟨hi, order, hinv, List.prefix_refl _, List.prefix_refl _⟩ (.of_forall fun _ => hmore) hexec
  exact hstalled.popped hold (by omega)

/-- One producer stops behind its exchange, and the push of another one is done. -/
def stalling : List (Action Bool Nat) :=
  [.new true 1 7, .exchange true, .new false 2 8, .exchange false, .storeNext false]

theorem stalled_push_hides_stalling :
    ∃ s, Steps.exec step (State.init 0) stalling = some s ∧ s.push false = .idle ∧
      ∃ k n, nodeAt s.heap ⟨1, 1⟩ = some n ∧ n.value = s.pushed[k]? ∧ k < s.pushed.length ∧
        ∀ more t, (∀ a ∈ more, a.producer ≠ some true) → Steps.exec step s more = some t →
          t.popped <+: s.pushed.take k := by
  obtain ⟨s, hs⟩ : ∃ s, Steps.exec step (State.init 0) stalling = some s := ⟨_, rfl⟩
  have hstalled : s.push true = .storeNext ⟨1, 1⟩ ⟨0, 0⟩ := by
    cases hs
    rfl
  refine ⟨s, hs, ?_, stalled_push_hides hs hstalled⟩
  cases hs
  rfl

end PorcelainMonitor.Queue
