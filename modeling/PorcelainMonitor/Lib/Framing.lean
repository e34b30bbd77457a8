import Mathlib.Data.List.Basic

/-!
# Cutting a stream into frames

A `Framing` reads the length of the first frame off the front of a buffer.  The
two laws say that a frame is never empty and that a length, once known, does
not change when more of the stream arrives.

`deframe` cuts every complete frame off a buffer and keeps the rest.  `feed`
does so read by read, starting each time from what the last read left.  The
laws make the two agree (`feed_eq_deframe`), so where the reads are cut does
not matter.

`deframe_flatten_iff` is the synchronisation criterion: a concatenation of
frames is cut back into exactly these frames if and only if the length read off
each frame is its own length.
-/

/-- A way to read the length of the first frame off a buffer; `none` while the
buffer is too short to say. -/
structure Framing (α : Type*) where
  /-- The length of the first frame. -/
  total : List α → Option Nat
  total_pos : ∀ {xs n}, total xs = some n → 0 < n
  total_append : ∀ {xs n}, total xs = some n → ∀ ys, total (xs ++ ys) = some n

namespace Framing

variable {α : Type*} (F : Framing α)

/-- The buffer holds a complete first frame, of length `n`. -/
def Complete (xs : List α) (n : Nat) : Prop := F.total xs = some n ∧ n ≤ xs.length

/-- Every complete frame of the buffer, in order, and the rest. -/
def deframe (xs : List α) : List (List α) × List α :=
  match _h : F.total xs with
  | none => ([], xs)
  | some n =>
      if _hn : n ≤ xs.length then
        (xs.take n :: (deframe (xs.drop n)).1, (deframe (xs.drop n)).2)
      else ([], xs)
termination_by xs.length
decreasing_by
  all_goals
    have := F.total_pos _h
    simp only [List.length_drop]
    omega

/-- The frames cut off while reads arrive one by one, and the rest. -/
def feed (buf : List α) : List (List α) → List (List α) × List α
  | [] => ([], buf)
  | r :: rs =>
      ((F.deframe (buf ++ r)).1 ++ (feed (F.deframe (buf ++ r)).2 rs).1,
        (feed (F.deframe (buf ++ r)).2 rs).2)

variable {F}

/-! ## One step of the cut -/

theorem deframe_of_incomplete {xs : List α} (h : ∀ n, ¬ F.Complete xs n) :
    F.deframe xs = ([], xs) := by
  rw [deframe]
  split
  · rfl
  · next n hn => rw [dif_neg fun hle => h n ⟨hn, hle⟩]

theorem deframe_of_complete {xs : List α} {n : Nat} (h : F.Complete xs n) :
    F.deframe xs = (xs.take n :: (F.deframe (xs.drop n)).1, (F.deframe (xs.drop n)).2) := by
  rw [deframe]
  split
  · next hn => simp [h.1] at hn
  · next m hm =>
      obtain rfl : m = n := Option.some.inj (hm.symm.trans h.1)
      rw [dif_pos h.2]

theorem Complete.append {xs : List α} {n : Nat} (h : F.Complete xs n) (ys : List α) :
    F.Complete (xs ++ ys) n :=
  ⟨F.total_append h.1 ys, by rw [List.length_append]; exact Nat.le_add_right_of_le h.2⟩

/-- Cutting along the buffer: either no frame is complete, or the first one is
cut off and the cut goes on behind it. -/
theorem deframe_induction {P : List α → Prop}
    (stop : ∀ xs, (∀ n, ¬ F.Complete xs n) → P xs)
    (cut : ∀ xs n, F.Complete xs n → P (xs.drop n) → P xs) (xs : List α) : P xs := by
  induction hlen : xs.length using Nat.strongRecOn generalizing xs with
  | ind len ih =>
      by_cases h : ∃ n, F.Complete xs n
      · obtain ⟨n, hn⟩ := h
        have hpos := F.total_pos hn.1
        have hle := hn.2
        exact cut xs n hn (ih (xs.drop n).length (by rw [List.length_drop]; omega) _ rfl)
      · exact stop xs (not_exists.mp h)

/-! ## What is left over -/

/-- The rest holds no complete frame. -/
theorem deframe_rest_incomplete (xs : List α) : ∀ n, ¬ F.Complete (F.deframe xs).2 n := by
  induction xs using F.deframe_induction with
  | stop xs h =>
      rw [deframe_of_incomplete h]
      exact h
  | cut xs n h ih =>
      rw [deframe_of_complete h]
      exact ih

/-! ## What is cut off -/

/-- What holds of every complete first frame holds of every frame cut off. -/
theorem deframe_forall {P : List α → Prop} (h : ∀ xs n, F.Complete xs n → P (xs.take n))
    (xs : List α) : ∀ f ∈ (F.deframe xs).1, P f := by
  induction xs using F.deframe_induction with
  | stop xs hstop =>
      rw [deframe_of_incomplete hstop]
      exact fun f hf => (List.not_mem_nil hf).elim
  | cut xs n hn ih =>
      rw [deframe_of_complete hn]
      exact List.forall_mem_cons.mpr ⟨h xs n hn, ih⟩

/-- Nothing is lost: the frames and the rest are the buffer. -/
theorem deframe_flatten (xs : List α) : (F.deframe xs).1.flatten ++ (F.deframe xs).2 = xs := by
  induction xs using F.deframe_induction with
  | stop xs h =>
      rw [deframe_of_incomplete h]
      rfl
  | cut xs n h ih =>
      rw [deframe_of_complete h, List.flatten_cons, List.append_assoc, ih]
      exact List.take_append_drop n xs

/-! ## More of the stream -/

/-- Frames already cut off stay, and the cut goes on from the rest. -/
theorem deframe_append (xs ys : List α) :
    F.deframe (xs ++ ys) =
      ((F.deframe xs).1 ++ (F.deframe ((F.deframe xs).2 ++ ys)).1,
        (F.deframe ((F.deframe xs).2 ++ ys)).2) := by
  induction xs using F.deframe_induction with
  | stop xs h => simp [deframe_of_incomplete h]
  | cut xs n h ih =>
      rw [deframe_of_complete (h.append ys), deframe_of_complete h,
        List.take_append_of_le_length h.2, List.drop_append_of_le_length h.2, ih]
      rfl

/-- Cutting read by read is cutting the whole stream. -/
theorem feed_eq_deframe (rs : List (List α)) :
    ∀ {buf : List α}, (∀ n, ¬ F.Complete buf n) →
      F.feed buf rs = F.deframe (buf ++ rs.flatten) := by
  induction rs with
  | nil =>
      intro buf h
      simp [feed, deframe_of_incomplete h]
  | cons r rs ih =>
      intro buf _
      rw [feed, ih (deframe_rest_incomplete (buf ++ r)), List.flatten_cons, ← List.append_assoc,
        deframe_append (buf ++ r)]

/-! ## Synchronisation -/

/-- A frame in front whose length is read off correctly is cut off whole. -/
theorem deframe_frame_append {f : List α} (h : F.total f = some f.length) (ys : List α) :
    F.deframe (f ++ ys) = (f :: (F.deframe ys).1, (F.deframe ys).2) := by
  have hf : F.Complete f f.length := ⟨h, Nat.le_refl _⟩
  rw [deframe_of_complete (hf.append ys)]
  simp

/-- A concatenation of frames long enough to carry a length is cut back into
these frames exactly when each carries its own length. -/
theorem deframe_flatten_iff :
    ∀ {fs : List (List α)}, (∀ f ∈ fs, (F.total f).isSome) →
      (F.deframe fs.flatten = (fs, []) ↔ ∀ f ∈ fs, F.total f = some f.length)
  | [], _ => by
      refine ⟨fun _ f hf => (List.not_mem_nil hf).elim, fun _ => ?_⟩
      refine deframe_of_incomplete fun n hn => ?_
      have hpos := F.total_pos hn.1
      exact absurd hn.2 (by rw [List.flatten_nil, List.length_nil]; omega)
  | f :: fs, hsome => by
      have hrest : ∀ g ∈ fs, (F.total g).isSome := fun g hg =>
        hsome g (List.mem_cons_of_mem _ hg)
      constructor
      · intro h
        obtain ⟨n, hn⟩ := Option.isSome_iff_exists.mp (hsome f List.mem_cons_self)
        have hcomplete : F.Complete (f ++ fs.flatten) n := by
          by_contra hc
          rw [List.flatten_cons, deframe_of_incomplete] at h
          · exact List.cons_ne_nil f fs (congrArg Prod.fst h).symm
          · rintro m ⟨hm, hle⟩
            rw [F.total_append hn] at hm
            cases hm
            exact hc ⟨F.total_append hn _, hle⟩
        -- The first slice is `f`, so the length read off it is its own.
        rw [List.flatten_cons, deframe_of_complete hcomplete] at h
        have hslice : (f ++ fs.flatten).take n = f := (List.cons.inj (congrArg Prod.fst h)).1
        have hlen : n = f.length := by
          have := congrArg List.length hslice
          rw [List.length_take] at this
          have := hcomplete.2
          omega
        subst hlen
        rw [List.drop_left] at h
        have htail : F.deframe fs.flatten = (fs, []) :=
          Prod.ext (List.cons.inj (Prod.mk.inj h).1).2 (Prod.mk.inj h).2
        intro g hg
        rcases List.mem_cons.mp hg with rfl | hg
        · exact hn
        · exact (deframe_flatten_iff hrest).mp htail g hg
      · intro h
        have htail := (deframe_flatten_iff hrest).mpr fun g hg => h g (List.mem_cons_of_mem _ hg)
        rw [List.flatten_cons, deframe_frame_append (h f List.mem_cons_self), htail]

end Framing
