import PorcelainMonitor.Lib.OffsetDecoder

/-!
# Decoders that keep count

A counted decoder keeps a count of what it does, and the count outlives a failure.
`Erases m d` says that `m` is `d` but for the count.

`Pays cost debt k limit m` is an amortized bound: the bytes that `m` reads pay for what
its count costs, with `k` of them left over.  None is read behind `limit`, and a run
that fails has spent at most `debt` more than there was to read.  What is counted behind
a part takes from what that part has left (`Pays.spend`), and what is counted in front
of it is borrowed (`Pays.borrow`).
-/

namespace OffsetDecoder

variable {ω ε α β γ : Type}

abbrev Counted (ω ε : Type) := StateT Nat (ExceptT ε (StateM ω))

namespace Counted

/-- The result and the count, also of a run that fails. -/
def runWith (m : Counted ω ε α) (offset : Nat) (w : ω) : Except ε (α × Nat) × ω :=
  StateT.run (ExceptT.run (StateT.run m offset)) w

def tick (f : ω → ω) : Counted ω ε Unit := fun offset w => (.ok ((), offset), f w)

/-- A decoder that counts nothing. -/
def lift (d : Decoder ε α) : Counted ω ε α := fun offset w => (d.run offset, w)

theorem runWith_bind (m : Counted ω ε α) (f : α → Counted ω ε γ) (offset : Nat) (w : ω) :
    (m >>= f).runWith offset w = match m.runWith offset w with
      | (.ok (a, offset'), w') => (f a).runWith offset' w'
      | (.error e, w') => (.error e, w') := by
  simp only [runWith, StateT.run_bind, ExceptT.run_bind]
  show (match StateT.run (ExceptT.run (StateT.run m offset)) w with | (r, w') => _) = _
  cases StateT.run (ExceptT.run (StateT.run m offset)) w with
  | mk r w' => cases r <;> rfl

variable {m : Counted ω ε α} {f : α → Counted ω ε γ} {d : Decoder ε α} {a : α} {e : ε}
  {offset offset' : Nat} {w w' : ω}

theorem runWith_bind_ok (h : m.runWith offset w = (.ok (a, offset'), w')) :
    (m >>= f).runWith offset w = (f a).runWith offset' w' := by
  rw [runWith_bind, h]

theorem runWith_bind_error (h : m.runWith offset w = (.error e, w')) :
    (m >>= f).runWith offset w = (.error e, w') := by
  rw [runWith_bind, h]

/-- A decoder that goes through has gone through its first part. -/
theorem bind_ok {r : γ × Nat} (h : (m >>= f).runWith offset w = (.ok r, w')) :
    ∃ a offset₁ w₁, m.runWith offset w = (.ok (a, offset₁), w₁) ∧
      (f a).runWith offset₁ w₁ = (.ok r, w') := by
  rw [runWith_bind] at h
  split at h
  next a offset₁ w₁ hm => exact ⟨a, offset₁, w₁, hm, h⟩
  next => cases h

/-- A decoder that fails fails in its first part or behind it. -/
theorem bind_error (h : (m >>= f).runWith offset w = (.error e, w')) :
    m.runWith offset w = (.error e, w') ∨
      ∃ a offset₁ w₁, m.runWith offset w = (.ok (a, offset₁), w₁) ∧
        (f a).runWith offset₁ w₁ = (.error e, w') := by
  rw [runWith_bind] at h
  split at h
  next a offset₁ w₁ hm => exact .inr ⟨a, offset₁, w₁, hm, h⟩
  next e₁ w₁ hm =>
    cases h
    exact .inl hm

theorem lift_ok (h : (lift d : Counted ω ε α).runWith offset w = (.ok (a, offset'), w')) :
    d.run offset = .ok (a, offset') ∧ w' = w := by
  obtain ⟨hd, hw⟩ := Prod.mk.inj h
  exact ⟨hd, hw.symm⟩

/-- The first part counts nothing. -/
theorem bind_lift_ok {r : γ × Nat} (h : (lift d >>= f).runWith offset w = (.ok r, w')) :
    ∃ a offset₁, d.run offset = .ok (a, offset₁) ∧ (f a).runWith offset₁ w = (.ok r, w') := by
  obtain ⟨a, offset₁, w₁, hlift, hf⟩ := bind_ok h
  obtain ⟨hd, rfl⟩ := lift_ok hlift
  exact ⟨a, offset₁, hd, hf⟩

end Counted

open Counted (runWith_bind_ok runWith_bind_error tick)

/-! ## Forgetting the count -/

def Erases (m : Counted ω ε α) (d : Decoder ε α) : Prop :=
  ∀ offset w, (m.runWith offset w).1 = d.run offset

namespace Erases

variable {m : Counted ω ε α} {d : Decoder ε α} {f : α → Counted ω ε γ} {g : α → Decoder ε γ}

theorem pure (a : α) : Erases (Pure.pure a : Counted ω ε α) (Pure.pure a) := fun _ _ => rfl

theorem lift (d : Decoder ε α) : Erases (Counted.lift d : Counted ω ε α) d := fun _ _ => rfl

theorem bind (h : Erases m d) (h' : ∀ a, Erases (f a) (g a)) : Erases (m >>= f) (d >>= g) := by
  intro offset w
  have hrun := h offset w
  cases hm : m.runWith offset w with
  | mk r w' =>
      rw [hm] at hrun
      cases r with
      | ok r => rw [runWith_bind_ok hm, run_bind_ok hrun.symm, h' r.1 r.2 w']
      | error e => rw [runWith_bind_error hm, run_bind_error hrun.symm]

theorem tick (h : Erases m d) (count : ω → ω) : Erases (Counted.tick count >>= fun _ => m) d :=
  fun offset w => h offset (count w)

end Erases

/-! ## Bounds -/

/-- A decoder that returns has read at least `k` bytes, and none behind `limit`. -/
def Advances (k limit : Nat) (d : Decoder ε α) : Prop :=
  ∀ offset ≤ limit, ∀ a offset', d.run offset = .ok (a, offset') →
    offset + k ≤ offset' ∧ offset' ≤ limit

theorem Sized.advances {k : Nat} {data : List β} {d : Decoder ε α} (h : Sized k data d) :
    Advances k data.length d := by
  intro offset hle a offset' hrun
  obtain ⟨hlen, rfl⟩ := h.of_ok hle hrun
  exact ⟨Nat.le_refl _, hlen⟩

structure Pays (cost : ω → Nat) (debt k limit : Nat) (m : Counted ω ε α) : Prop where
  ok : ∀ offset ≤ limit, ∀ w a offset' w', m.runWith offset w = (.ok (a, offset'), w') →
    offset' ≤ limit ∧ cost w' + offset + k ≤ cost w + offset'
  error : ∀ offset ≤ limit, ∀ w e w', m.runWith offset w = (.error e, w') →
    cost w' + offset ≤ cost w + limit + debt

namespace Pays

variable {cost : ω → Nat} {debt debt' k l c limit : Nat} {m : Counted ω ε α}
  {f : α → Counted ω ε γ}

theorem pure (a : α) : Pays cost debt 0 limit (Pure.pure a : Counted ω ε α) where
  ok offset hle w a' offset' w' h := by
    cases h
    exact ⟨hle, Nat.le_refl _⟩
  error offset hle w e w' h := by cases h

theorem bind (h : Pays cost debt k limit m) (h' : ∀ a, Pays cost debt l limit (f a)) :
    Pays cost debt (k + l) limit (m >>= f) where
  ok offset hle w c offset' w' hrun := by
    obtain ⟨a, offset₁, w₁, hm, hf⟩ := Counted.bind_ok hrun
    obtain ⟨hle₁, hpay⟩ := h.ok offset hle w a offset₁ w₁ hm
    obtain ⟨hle', hpay'⟩ := (h' a).ok offset₁ hle₁ w₁ c offset' w' hf
    exact ⟨hle', by omega⟩
  error offset hle w e w' hrun := by
    rcases Counted.bind_error hrun with hm | ⟨a, offset₁, w₁, hm, hf⟩
    · exact h.error offset hle w e w' hm
    · obtain ⟨hle₁, hpay⟩ := h.ok offset hle w a offset₁ w₁ hm
      have hfail := (h' a).error offset₁ hle₁ w₁ e w' hf
      omega

theorem lift {d : Decoder ε α} (h : Advances k limit d) :
    Pays cost debt k limit (Counted.lift d : Counted ω ε α) where
  ok offset hle w a offset' w' hrun := by
    obtain ⟨hd, rfl⟩ := Counted.lift_ok hrun
    obtain ⟨hread, hle'⟩ := h offset hle a offset' hd
    exact ⟨hle', by omega⟩
  error offset hle w e w' hrun := by
    obtain rfl := (Prod.mk.inj hrun).2
    omega

theorem weaken (h : Pays cost debt k limit m) (hk : l ≤ k) (hdebt : debt ≤ debt') :
    Pays cost debt' l limit m where
  ok offset hle w a offset' w' hrun := by
    obtain ⟨hle', hpay⟩ := h.ok offset hle w a offset' w' hrun
    exact ⟨hle', by omega⟩
  error offset hle w e w' hrun := by
    have hpay := h.error offset hle w e w' hrun
    omega

/-- What is counted behind `m` is paid from what `m` has left over. -/
theorem spend {count : ω → ω} (h : Pays cost debt (c + k) limit m)
    (hcount : ∀ w, cost (count w) = cost w + c) :
    Pays cost debt k limit (do let a ← m; tick count; Pure.pure a) where
  ok offset hle w a offset' w' hrun := by
    obtain ⟨b, offset₁, w₁, hm, hrest⟩ := Counted.bind_ok hrun
    cases hrest
    obtain ⟨hle', hpay⟩ := h.ok offset hle w a offset' w₁ hm
    have hcost := hcount w₁
    exact ⟨hle', by omega⟩
  error offset hle w e w' hrun := by
    rcases Counted.bind_error hrun with hm | ⟨a, offset₁, w₁, hm, hrest⟩
    · exact h.error offset hle w e w' hm
    · cases hrest

/-- What is counted in front of `m` is owed if `m` fails. -/
theorem borrow {count : ω → ω} (h : Pays cost debt (c + k) limit m)
    (hcount : ∀ w, cost (count w) = cost w + c) :
    Pays cost (debt + c) k limit (tick count >>= fun _ => m) where
  ok offset hle w a offset' w' hrun := by
    obtain ⟨hle', hpay⟩ := h.ok offset hle (count w) a offset' w' hrun
    have hcost := hcount w
    exact ⟨hle', by omega⟩
  error offset hle w e w' hrun := by
    have hpay := h.error offset hle (count w) e w' hrun
    have hcost := hcount w
    omega

/-- What a run from the start that returns has cost. -/
theorem returned (h : Pays cost debt k limit m) {w w' : ω} (hw : cost w = 0) {a : α}
    {offset' : Nat} (hrun : m.runWith 0 w = (.ok (a, offset'), w')) : cost w' + k ≤ limit := by
  obtain ⟨hle, hpay⟩ := h.ok 0 (Nat.zero_le limit) w a offset' w' hrun
  omega

/-- What any run from the start has cost. -/
theorem total (h : Pays cost debt k limit m) {w : ω} (hw : cost w = 0) :
    cost (m.runWith 0 w).2 ≤ limit + debt := by
  cases hrun : m.runWith 0 w with
  | mk r w' =>
      cases r with
      | ok r =>
          have hreturned := h.returned hw hrun
          dsimp only
          omega
      | error e =>
          have hfail := h.error 0 (Nat.zero_le limit) w e w' hrun
          dsimp only
          omega

end Pays

end OffsetDecoder
