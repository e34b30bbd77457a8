import Mathlib.Data.List.Basic
import Mathlib.Data.List.Infix

/-!
# Decoders that move an offset

A decoder reads a list at an offset, moves the offset and may fail.

`Reads d bytes a` says that `bytes` encode `a`: wherever they stand in a list, `d`
returns `a` and stops behind them, and where the list ends inside them, `d` fails.
Bytes of decoders that run one after the other are appended (`Reads.bind`).

`Sized size data d` is about a decoder of a fixed size on any list: it returns if
there are that many elements left, and fails if not.  `FailsWith P d` is about the
ways in which a decoder can fail.
-/

namespace OffsetDecoder

variable {β ε α γ : Type}

/-- It moves an offset and may fail. -/
abbrev Decoder (ε : Type) := StateT Nat (Except ε)

theorem run_bind_ok {x : Decoder ε α} {f : α → Decoder ε γ} {a : α} {offset offset' : Nat}
    (h : x.run offset = .ok (a, offset')) : (x >>= f).run offset = (f a).run offset' := by
  rw [StateT.run_bind, h]
  rfl

theorem run_bind_error {x : Decoder ε α} {f : α → Decoder ε γ} {e : ε} {offset : Nat}
    (h : x.run offset = .error e) : (x >>= f).run offset = .error e := by
  rw [StateT.run_bind, h]
  rfl

/-- A decoder that goes through has gone through its first part. -/
theorem bind_ok {x : Decoder ε α} {f : α → Decoder ε γ} {offset : Nat} {r : γ × Nat}
    (h : (x >>= f).run offset = .ok r) :
    ∃ a offset', x.run offset = .ok (a, offset') ∧ (f a).run offset' = .ok r := by
  cases hx : x.run offset with
  | error e =>
      rw [run_bind_error hx] at h
      cases h
  | ok p => exact ⟨p.1, p.2, rfl, (run_bind_ok hx).symm.trans h⟩

/-! ## Encodings -/

structure Reads (d : List β → Decoder ε α) (bytes : List β) (a : α) : Prop where
  ok : ∀ before after, (d (before ++ (bytes ++ after))).run before.length =
    .ok (a, before.length + bytes.length)
  short : ∀ before cut, cut <+: bytes → cut ≠ bytes →
    ∃ e, (d (before ++ cut)).run before.length = .error e

namespace Reads

variable {d : List β → Decoder ε α} {f : List β → α → Decoder ε γ} {bytes bytes' : List β} {a : α}
  {c : γ}

theorem pure (a : α) : Reads (fun _ : List β => (Pure.pure a : Decoder ε α)) [] a where
  ok _ _ := rfl
  short _ _ hcut hne := absurd (List.prefix_nil.mp hcut) hne

/-- The second decoder starts where the first has stopped. -/
theorem run_bind (h : Reads d bytes a) (before after : List β) :
    (d (before ++ (bytes ++ after)) >>= f (before ++ (bytes ++ after))).run before.length =
      (f (before ++ bytes ++ after) a).run (before ++ bytes).length := by
  rw [run_bind_ok (h.ok before after), List.append_assoc, List.length_append]

theorem bind (h : Reads d bytes a) (h' : Reads (fun data => f data a) bytes' c) :
    Reads (fun data => d data >>= f data) (bytes ++ bytes') c where
  ok before after := by
    rw [List.append_assoc, h.run_bind, h'.ok, List.length_append, List.length_append,
      Nat.add_assoc]
  short before cut hcut hne := by
    rcases List.prefix_or_prefix_of_prefix hcut (List.prefix_append bytes bytes') with
      hshort | ⟨cut', rfl⟩
    · by_cases heq : cut = bytes
      · subst heq
        have hne' : ([] : List β) ≠ bytes' := fun h => hne (by rw [← h, List.append_nil])
        obtain ⟨e, he⟩ := h'.short (before ++ cut) [] List.nil_prefix hne'
        refine ⟨e, ?_⟩
        have hrun := h.run_bind (f := f) before []
        rw [List.append_nil] at hrun
        rw [hrun, he]
      · obtain ⟨e, he⟩ := h.short before cut hshort heq
        exact ⟨e, run_bind_error he⟩
    · have hcut' : cut' <+: bytes' := (List.prefix_append_right_inj bytes).mp hcut
      have hne' : cut' ≠ bytes' := fun h => hne (by rw [h])
      obtain ⟨e, he⟩ := h'.short (before ++ bytes) cut' hcut' hne'
      exact ⟨e, (h.run_bind before cut').trans he⟩

/-- What is done with a value without reading on. -/
theorem map (h : Reads d bytes a) (g : α → γ) :
    Reads (fun data => d data >>= fun a => Pure.pure (g a)) bytes (g a) := by
  have hbind := h.bind (f := fun _ a => Pure.pure (g a)) (Reads.pure (g a))
  rwa [List.append_nil] at hbind

end Reads

/-! ## Failures -/

/-- Whatever the decoder fails with satisfies `P`. -/
def FailsWith (P : ε → Prop) (d : Decoder ε α) : Prop :=
  ∀ offset e, d.run offset = .error e → P e

namespace FailsWith

variable {P : ε → Prop} {d : Decoder ε α} {f : α → Decoder ε γ}

theorem pure (a : α) : FailsWith P (Pure.pure a : Decoder ε α) := fun _ _ h => by cases h

theorem bind (h : FailsWith P d) (h' : ∀ a, FailsWith P (f a)) : FailsWith P (d >>= f) := by
  intro offset e he
  cases hd : d.run offset with
  | error e' =>
      rw [run_bind_error hd] at he
      cases he
      exact h offset e hd
  | ok p =>
      rw [run_bind_ok hd] at he
      exact h' p.1 p.2 e he

end FailsWith

/-! ## Sizes -/

/-- What the decoder does wherever it starts in the list. -/
structure Sized (size : Nat) (data : List β) (d : Decoder ε α) : Prop where
  ok : ∀ offset, offset + size ≤ data.length → ∃ a, d.run offset = .ok (a, offset + size)
  short : ∀ offset ≤ data.length, data.length < offset + size → ∃ e, d.run offset = .error e

namespace Sized

variable {data : List β} {d : Decoder ε α} {f : α → Decoder ε γ} {m n : Nat}

theorem pure (a : α) : Sized 0 data (Pure.pure a : Decoder ε α) where
  ok _ _ := ⟨a, rfl⟩
  short offset hle hlt := by omega

theorem bind (h : Sized m data d) (h' : ∀ a, Sized n data (f a)) :
    Sized (m + n) data (d >>= f) where
  ok offset hle := by
    obtain ⟨a, ha⟩ := h.ok offset (by omega)
    obtain ⟨c, hc⟩ := (h' a).ok (offset + m) (by omega)
    exact ⟨c, by rw [run_bind_ok ha, hc, Nat.add_assoc]⟩
  short offset hle hlt := by
    by_cases hm : offset + m ≤ data.length
    · obtain ⟨a, ha⟩ := h.ok offset hm
      obtain ⟨e, he⟩ := (h' a).short (offset + m) hm (by omega)
      exact ⟨e, by rw [run_bind_ok ha, he]⟩
    · obtain ⟨e, he⟩ := h.short offset hle (by omega)
      exact ⟨e, run_bind_error he⟩

/-- A decoder that has returned had enough to read. -/
theorem of_ok (h : Sized m data d) {offset : Nat} (hle : offset ≤ data.length) {r : α × Nat}
    (hrun : d.run offset = .ok r) : offset + m ≤ data.length ∧ r.2 = offset + m := by
  by_cases hm : offset + m ≤ data.length
  · obtain ⟨a, ha⟩ := h.ok offset hm
    rw [ha] at hrun
    cases hrun
    exact ⟨hm, rfl⟩
  · obtain ⟨e, he⟩ := h.short offset hle (by omega)
    rw [he] at hrun
    cases hrun

end Sized

end OffsetDecoder
