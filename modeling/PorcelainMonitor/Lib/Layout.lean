import Mathlib.Algebra.BigOperators.Group.List.Basic
import Mathlib.Algebra.GroupWithZero.Nat
import Mathlib.Data.List.Basic

/-!
# Blocks that stand one behind the other

Lists that are put together into one buffer, and the numbers by which its elements are
found again.  `At sizes k c i` says that position `k` of the buffer is position `i` of
block `c`.  Every position below the sum of the sizes is in exactly one block
(`At.inj`, `exists_at`), and every position of a block is at exactly one place
(`At.pos_inj`, `exists_pos`).

`locate` is the loop that looks for the block of a position and adds up sizes, and
`withOffsets` the one that runs through the blocks and adds up where they start.
`partly` is a buffer of a fixed length that is being filled from the front.
-/

namespace Layout

variable {α β : Type}

/-! ## Positions -/

inductive At : List Nat → Nat → Nat → Nat → Prop where
  | head {n : Nat} {ns : List Nat} {i : Nat} : i < n → At (n :: ns) i 0 i
  | tail {n : Nat} {ns : List Nat} {k c i : Nat} : At ns k c i → At (n :: ns) (n + k) (c + 1) i

variable {sizes : List Nat} {k k' c c' i i' n : Nat}

theorem exists_at (h : k < sizes.sum) : ∃ c i, At sizes k c i := by
  induction sizes generalizing k with
  | nil => simp at h
  | cons n ns ih =>
      by_cases hk : k < n
      · exact ⟨0, k, .head hk⟩
      · rw [List.sum_cons] at h
        obtain ⟨c, i, hat⟩ := ih (k := k - n) (by omega)
        refine ⟨c + 1, i, ?_⟩
        have htail := At.tail (n := n) hat
        rwa [Nat.add_sub_cancel' (Nat.le_of_not_lt hk)] at htail

theorem exists_pos (h : sizes[c]? = some n) (hi : i < n) : ∃ k, At sizes k c i := by
  induction sizes generalizing c with
  | nil => simp at h
  | cons m ns ih =>
      cases c with
      | zero =>
          rw [List.getElem?_cons_zero, Option.some.injEq] at h
          exact ⟨i, .head (h ▸ hi)⟩
      | succ c =>
          rw [List.getElem?_cons_succ] at h
          obtain ⟨k, hat⟩ := ih h
          exact ⟨m + k, .tail hat⟩

namespace At

theorem lt_sum (h : At sizes k c i) : k < sizes.sum := by
  induction h with
  | head hi =>
      rw [List.sum_cons]
      omega
  | tail _ ih =>
      rw [List.sum_cons]
      omega

theorem size (h : At sizes k c i) : ∃ n, sizes[c]? = some n ∧ i < n := by
  induction h with
  | head hi => exact ⟨_, rfl, hi⟩
  | tail _ ih => exact ih

theorem inj (h : At sizes k c i) (h' : At sizes k c' i') : c = c' ∧ i = i' := by
  induction h generalizing c' i' with
  | head hi =>
      cases h' with
      | head => exact ⟨rfl, rfl⟩
      | tail => omega
  | @tail n ns k c i hat ih =>
      generalize hk : n + k = p at h'
      cases h' with
      | head hi => omega
      | tail hat' =>
          obtain rfl := Nat.add_left_cancel hk
          obtain ⟨rfl, rfl⟩ := ih hat'
          exact ⟨rfl, rfl⟩

theorem pos_inj (h : At sizes k c i) (h' : At sizes k' c i) : k = k' := by
  induction h generalizing k' with
  | head => cases h' with | head => rfl
  | tail _ ih => cases h' with | tail hat' => rw [ih hat']

/-- The next position of the block is the next one of the buffer. -/
theorem succ (h : At sizes k c i) (hn : sizes[c]? = some n) (hi : i + 1 < n) :
    At sizes (k + 1) c (i + 1) := by
  induction h with
  | head =>
      rw [List.getElem?_cons_zero, Option.some.injEq] at hn
      exact .head (hn ▸ hi)
  | tail _ ih => exact .tail (ih hn hi)

/-- Blocks that are all made larger by a factor. -/
theorem mul (h : At sizes k c i) {m d : Nat} (hd : d < m) :
    At (sizes.map (· * m)) (m * k + d) c (m * i + d) := by
  induction h with
  | @head n _ i hi =>
      refine .head ?_
      calc
        m * i + d < m * (i + 1) := by rw [Nat.mul_succ]; omega
        _ ≤ m * n := Nat.mul_le_mul_left m hi
        _ = n * m := Nat.mul_comm m n
  | @tail n ns k c i _ ih =>
      rw [Nat.mul_add, Nat.mul_comm m n, Nat.add_assoc]
      exact .tail ih

/-- In blocks of one size. -/
theorem replicate {m : Nat} (hc : c < m) (hi : i < n) :
    At (List.replicate m n) (n * c + i) c i := by
  induction c generalizing m with
  | zero =>
      obtain ⟨m, rfl⟩ := Nat.exists_eq_add_one.mpr hc
      rw [Nat.mul_zero, Nat.zero_add]
      exact .head hi
  | succ c ih =>
      obtain ⟨m, rfl⟩ := Nat.exists_eq_add_one.mpr (Nat.zero_lt_of_lt hc)
      rw [Nat.mul_succ, Nat.add_comm (n * c) n, Nat.add_assoc]
      exact .tail (ih (by omega))

/-- The element that stands at a position. -/
theorem flatten {xss : List (List α)} (h : At (xss.map List.length) k c i) :
    xss.flatten[k]? = xss[c]?.bind fun xs => xs[i]? := by
  generalize hs : xss.map List.length = sizes at h
  induction h generalizing xss with
  | head hi =>
      obtain ⟨xs, xss, rfl, rfl, rfl⟩ := List.map_eq_cons_iff.mp hs
      rw [List.flatten_cons, List.getElem?_append_left hi]
      rfl
  | tail _ ih =>
      obtain ⟨xs, xss, rfl, rfl, rfl⟩ := List.map_eq_cons_iff.mp hs
      rw [List.flatten_cons, List.getElem?_append_right (Nat.le_add_right _ _),
        Nat.add_sub_cancel_left]
      exact ih rfl

end At

/-- The elements of lists of one length. -/
theorem getElem?_flatMap {xs : List α} {f : α → List β} (hf : ∀ x ∈ xs, (f x).length = n)
    (hc : c < xs.length) (hi : i < n) :
    (xs.flatMap f)[n * c + i]? = xs[c]?.bind fun x => (f x)[i]? := by
  have hsizes : (xs.map f).map List.length = List.replicate xs.length n := by
    rw [List.map_map]
    exact List.eq_replicate_iff.mpr ⟨List.length_map _, by simpa using hf⟩
  have hat := At.replicate hc hi
  rw [← hsizes] at hat
  rw [List.flatMap_def, hat.flatten, List.getElem?_map, Option.bind_map]
  rfl

/-! ## Loops over the blocks -/

/-- It looks for the block of `k`; the blocks so far hold `accumulated` positions. -/
def locate (size : α → Nat) (k : Nat) : Nat → List α → Option α
  | _, [] => none
  | accumulated, x :: xs =>
      if k < accumulated + size x then some x
      else locate size k (accumulated + size x) xs

/-- The elements with the offsets at which their blocks start. -/
def withOffsets (size : α → Nat) : Nat → List α → List (Nat × α)
  | _, [] => []
  | offset, x :: xs => (offset, x) :: withOffsets size (offset + size x) xs

variable {size : α → Nat} {xs : List α}

theorem At.locate (h : At (xs.map size) k c i) (accumulated : Nat) :
    Layout.locate size (accumulated + k) accumulated xs = xs[c]? := by
  generalize hs : xs.map size = sizes at h
  induction h generalizing xs accumulated with
  | head hi =>
      obtain ⟨x, xs, rfl, rfl, rfl⟩ := List.map_eq_cons_iff.mp hs
      simp [Layout.locate, hi]
  | @tail _ _ k _ _ _ ih =>
      obtain ⟨x, xs, rfl, rfl, rfl⟩ := List.map_eq_cons_iff.mp hs
      have hle : ¬accumulated + (size x + k) < accumulated + size x := by omega
      rw [Layout.locate, if_neg hle, ← Nat.add_assoc, ih _ rfl, List.getElem?_cons_succ]

theorem At.withOffsets (h : At (xs.map size) k c i) (offset : Nat) :
    ∃ start x, (Layout.withOffsets size offset xs)[c]? = some (start, x) ∧ xs[c]? = some x ∧
      start + i = offset + k := by
  generalize hs : xs.map size = sizes at h
  induction h generalizing xs offset with
  | head hi =>
      obtain ⟨x, xs, rfl, rfl, rfl⟩ := List.map_eq_cons_iff.mp hs
      exact ⟨offset, x, rfl, rfl, rfl⟩
  | tail _ ih =>
      obtain ⟨x, xs, rfl, rfl, rfl⟩ := List.map_eq_cons_iff.mp hs
      obtain ⟨start, y, hoff, hy, hstart⟩ := ih (offset + size x) rfl
      exact ⟨start, y, hoff, hy, by omega⟩

@[simp] theorem withOffsets_map (f : α → β) (offset : Nat) :
    (withOffsets size offset xs).map (fun block => f block.2) = xs.map f := by
  induction xs generalizing offset with
  | nil => rfl
  | cons x xs ih => simp [withOffsets, ih]

/-! ## Filling a buffer -/

def partly (d : α) (n : Nat) (xs : List α) : List α := xs ++ List.replicate (n - xs.length) d

theorem partly_full (d : α) (h : xs.length = n) : partly d n xs = xs := by
  simp [partly, h]

/-- The next element is written behind those that are there. -/
theorem set_partly {offset : Nat} (d x : α) (hoff : offset = xs.length) (h : offset < n) :
    (partly d n xs).set offset x = partly d n (xs ++ [x]) := by
  subst hoff
  have hrep : n - xs.length = n - (xs.length + 1) + 1 := by omega
  rw [partly, List.set_append_right _ _ (Nat.le_refl _), Nat.sub_self, hrep,
    List.replicate_succ, List.set_cons_zero, partly, List.length_append, List.length_singleton,
    List.append_assoc, List.singleton_append]

end Layout
