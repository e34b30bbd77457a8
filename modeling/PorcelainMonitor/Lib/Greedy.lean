import Mathlib.Data.List.Basic

/-!
# Greedy selection

Items come one after the other.  An item is kept if it clashes with none of the
items that have been kept.

* `kept_sublist`: the kept items keep their order.
* `kept_pairwise`: no two of them clash.
* `foldl_eq_kept`: a loop that appends what it keeps makes this selection.
-/

namespace Greedy

variable {α β : Type*} (clash : α → α → Bool) (item : Nat → α)

/-- The indices of the kept items, among the first ones. -/
def kept : Nat → List Nat
  | 0 => []
  | n + 1 => if (kept n).any fun i => clash (item n) (item i) then kept n else kept n ++ [n]

variable {n : Nat}

theorem kept_sublist : (kept clash item n).Sublist (List.range n) := by
  induction n with
  | zero => exact .slnil
  | succ n ih =>
      rw [kept, List.range_succ]
      split
      · exact ih.trans (List.sublist_append_left _ _)
      · exact ih.append (List.Sublist.refl _)

theorem lt_of_mem_kept {i : Nat} (h : i ∈ kept clash item n) : i < n :=
  List.mem_range.mp ((kept_sublist clash item).subset h)

theorem kept_sorted : (kept clash item n).Pairwise (· < ·) :=
  List.pairwise_lt_range.sublist (kept_sublist clash item)

theorem length_kept_le : (kept clash item n).length ≤ n := by
  have hle := (kept_sublist clash item (n := n)).length_le
  rwa [List.length_range] at hle

/-- No two kept items clash. -/
theorem kept_pairwise :
    (kept clash item n).Pairwise fun i j => clash (item j) (item i) = false := by
  induction n with
  | zero => exact .nil
  | succ n ih =>
      rw [kept]
      split
      · exact ih
      · next hnone =>
          refine List.pairwise_append.mpr ⟨ih, List.pairwise_singleton _ _, ?_⟩
          intro i hi j hj
          rw [List.mem_singleton.mp hj]
          cases h : clash (item n) (item i) with
          | false => rfl
          | true => exact absurd (List.any_eq_true.mpr ⟨i, hi, h⟩) hnone

/-- A loop over the items that appends what it keeps. -/
theorem foldl_eq_kept (make : Nat → β) (clashes : α → β → Bool)
    (h : ∀ i j, clashes (item i) (make j) = clash (item i) (item j)) :
    (List.range n).foldl
        (fun out i => if out.any (clashes (item i)) then out else out ++ [make i]) [] =
      (kept clash item n).map make := by
  induction n with
  | zero => rfl
  | succ n ih =>
      have hany : ((kept clash item n).map make).any (clashes (item n)) =
          (kept clash item n).any fun i => clash (item n) (item i) := by
        simp only [List.any_map, Function.comp_def, h]
      rw [List.range_succ, List.foldl_append, ih, List.foldl_cons, List.foldl_nil, hany, kept]
      split
      · rfl
      · rw [List.map_append, List.map_singleton]

end Greedy
