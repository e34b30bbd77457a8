import Mathlib.Data.List.Forall2

/-!
# A loop that ends when it is full

A loop over a list goes on until a test on its state holds.  The test is made
before each round, so a full state stays as it is, and loops can be put one after
the other (`loop_append`).

* `loop_invariant`: what every round keeps.
* `out_loop`: a loop that writes to a list of limited length has written the first
  of what it would have written without the limit.
* `forall₂_flatMap`: what rounds write that write once or not at all.
-/

namespace CappedLoop

variable {σ ι κ γ : Type*} {full : σ → Bool} {body : ι → σ → σ} {is js : List ι} {s : σ}

def loop (full : σ → Bool) (body : ι → σ → σ) : List ι → σ → σ
  | [], s => s
  | i :: is, s => if full s then s else loop full body is (body i s)

theorem loop_of_full (h : full s = true) : loop full body is s = s := by
  cases is with
  | nil => rfl
  | cons i is => rw [loop, if_pos h]

theorem loop_append : loop full body (is ++ js) s = loop full body js (loop full body is s) := by
  induction is generalizing s with
  | nil => rfl
  | cons i is ih =>
      rw [List.cons_append, loop, loop]
      split
      · next h => rw [loop_of_full h]
      · exact ih

theorem loop_map (f : κ → ι) (ks : List κ) :
    loop full body (ks.map f) s = loop full (fun k => body (f k)) ks s := by
  induction ks generalizing s with
  | nil => rfl
  | cons k ks ih => rw [List.map_cons, loop, loop, ih]

/-- What every round keeps. -/
theorem loop_invariant {P : σ → Prop} (h : ∀ i ∈ is, ∀ s, P s → P (body i s)) (hs : P s) :
    P (loop full body is s) := by
  induction is generalizing s with
  | nil => exact hs
  | cons i is ih =>
      rw [loop]
      split
      · exact hs
      · exact ih (fun k hk => h k (List.mem_cons_of_mem i hk)) (h i List.mem_cons_self s hs)

/-- A loop that writes to a list, at most once in a round, until it has the length. -/
theorem out_loop {P : σ → Prop} {out : σ → List γ} {emit : ι → List γ} {cap : Nat}
    (hfull : ∀ s, full s = true ↔ cap ≤ (out s).length)
    (hbody : ∀ i ∈ is, ∀ s, P s → P (body i s) ∧ out (body i s) = out s ++ emit i)
    (honce : ∀ i ∈ is, (emit i).length ≤ 1) (hs : P s) :
    out (loop full body is s) = out s ++ (is.flatMap emit).take (cap - (out s).length) := by
  induction is generalizing s with
  | nil => simp [loop]
  | cons i is ih =>
      rw [loop]
      split
      · next h =>
          rw [Nat.sub_eq_zero_of_le ((hfull s).mp h), List.take_zero, List.append_nil]
      · next h =>
          have hroom : (out s).length < cap := Nat.lt_of_not_le fun hle => h ((hfull s).mpr hle)
          have hfits : (emit i).length ≤ cap - (out s).length :=
            Nat.le_trans (honce i List.mem_cons_self) (Nat.sub_pos_of_lt hroom)
          obtain ⟨hnext, hout⟩ := hbody i List.mem_cons_self s hs
          rw [ih (fun k hk => hbody k (List.mem_cons_of_mem i hk))
            (fun k hk => honce k (List.mem_cons_of_mem i hk)) hnext, hout, List.flatMap_cons,
            List.take_append, List.take_of_length_le hfits, List.length_append, Nat.sub_add_eq,
            List.append_assoc]

/-- Rounds that write one thing if a test holds, and else nothing. -/
theorem forall₂_flatMap {r : ι → γ → Prop} {p : ι → Bool} {emit : ι → List γ}
    (hone : ∀ i ∈ is, p i = true → ∃ c, emit i = [c] ∧ r i c)
    (hnone : ∀ i ∈ is, p i = false → emit i = []) :
    List.Forall₂ r (is.filter p) (is.flatMap emit) := by
  induction is with
  | nil => exact .nil
  | cons i is ih =>
      have hrest := ih (fun k hk => hone k (List.mem_cons_of_mem i hk))
        fun k hk => hnone k (List.mem_cons_of_mem i hk)
      cases hi : p i with
      | false => simpa [hi, hnone i List.mem_cons_self hi] using hrest
      | true =>
          obtain ⟨c, hc, hr⟩ := hone i List.mem_cons_self hi
          simpa [hi, hc] using ⟨hr, hrest⟩

end CappedLoop
