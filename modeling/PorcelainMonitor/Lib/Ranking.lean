import Mathlib.Data.List.Count

/-!
# The first elements of an ordered list

A list in some order is cut after `n` elements.  An element with `n` others
strictly before it is cut off (`not_mem_take_of_le_countP`), and one with fewer
before it stays (`mem_take_of_countP_lt`).
-/

namespace Ranking

variable {α : Type*} {le : α → α → Prop} {before : α → Bool} {l : List α} {x : α} {n : Nat}

theorem rel_of_mem_take_of_mem_drop (hl : l.Pairwise le) {y z : α} (hy : y ∈ l.take n)
    (hz : z ∈ l.drop n) : le y z := by
  rw [← List.take_append_drop n l] at hl
  exact (List.pairwise_append.mp hl).2.2 y hy z hz

/-- With `n` elements that come before it and before all that it precedes. -/
theorem not_mem_take_of_le_countP (hl : l.Pairwise le) (hx : before x = false)
    (hafter : ∀ y, le x y → before y = false) (hn : n ≤ l.countP before) : x ∉ l.take n := by
  intro hmem
  have hdrop : (l.drop n).countP before = 0 := by
    rw [List.countP_eq_zero]
    intro y hy
    simp [hafter y (rel_of_mem_take_of_mem_drop hl hmem hy)]
  have htake : (l.take n).countP before < (l.take n).length :=
    List.countP_lt_length_iff.mpr ⟨x, hmem, hx⟩
  have hcount : l.countP before = (l.take n).countP before + (l.drop n).countP before := by
    rw [← List.countP_append, List.take_append_drop]
  have hlength : (l.take n).length ≤ n := List.length_take_le n l
  omega

/-- With fewer than `n` elements before it. -/
theorem mem_take_of_countP_lt (hl : l.Pairwise le) (hx : x ∈ l)
    (hbefore : ∀ y ∈ l, le y x → y = x ∨ before y = true) (hn : l.countP before < n) :
    x ∈ l.take n := by
  by_contra hnot
  have hdrop : x ∈ l.drop n := by
    rw [← List.take_append_drop n l] at hx
    exact (List.mem_append.mp hx).resolve_left hnot
  have hall : (l.take n).countP before = (l.take n).length := by
    rw [List.countP_eq_length]
    intro y hy
    rcases hbefore y (List.mem_of_mem_take hy) (rel_of_mem_take_of_mem_drop hl hy hdrop) with
      rfl | hy'
    · exact absurd hy hnot
    · exact hy'
  have hlong : n < l.length := by
    by_contra hle
    rw [List.drop_eq_nil_of_le (Nat.not_lt.mp hle)] at hdrop
    cases hdrop
  have hcount : (l.take n).countP before ≤ l.countP before :=
    (List.take_sublist n l).countP_le
  rw [hall, List.length_take, Nat.min_eq_left (Nat.le_of_lt hlong)] at hcount
  omega

end Ranking
