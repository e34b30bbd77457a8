import Mathlib.Data.List.Basic

/-!
# Decimal numerals

The text of an integer is a sign, if it is negative, and the digits of its
absolute value.  Numerals that a character other than a digit follows can be
told apart.
-/

namespace Decimal

/-- The digits of a text are determined if another character follows them. -/
theorem append_inj {c : Char} (hc : c.isDigit = false) {ds ds' x y : List Char}
    (hds : ∀ d ∈ ds, d.isDigit = true) (hds' : ∀ d ∈ ds', d.isDigit = true)
    (h : ds ++ c :: x = ds' ++ c :: y) : ds = ds' ∧ x = y := by
  induction ds generalizing ds' with
  | nil =>
      cases ds' with
      | nil =>
          cases h
          exact ⟨rfl, rfl⟩
      | cons d ds' =>
          cases h
          rw [hds' c (by simp)] at hc
          cases hc
  | cons d ds ih =>
      cases ds' with
      | nil =>
          cases h
          rw [hds c (by simp)] at hc
          cases hc
      | cons d' ds' =>
          obtain ⟨rfl, hrest⟩ := List.cons.inj h
          obtain ⟨rfl, hxy⟩ := ih (fun e he => hds e (by simp [he]))
            (fun e he => hds' e (by simp [he])) hrest
          exact ⟨rfl, hxy⟩

theorem isDigit_of_mem {n : Nat} {d : Char} (h : d ∈ Nat.toDigits 10 n) : d.isDigit = true :=
  Nat.isDigit_of_mem_toDigits (by decide) (by decide) h

theorem toDigits_inj {n n' : Nat} (h : Nat.toDigits 10 n = Nat.toDigits 10 n') : n = n' := by
  have hvalue := congrArg (fun ds => Nat.ofDigitChars 10 ds 0) h
  simpa using hvalue

/-! ## Integers -/

theorem toList_toString (n : Int) : (toString n).toList =
    if 0 ≤ n then Nat.toDigits 10 n.toNat else '-' :: Nat.toDigits 10 (-n).toNat := by
  rw [Int.toString_eq_repr, Int.repr_eq_if]
  split
  · exact Nat.toList_repr
  · rw [String.toList_append, Nat.toList_repr]
    rfl

/-- A numeral does not start with a sign unless its number is negative. -/
theorem toDigits_ne_sign {n : Nat} {x y : List Char} :
    Nat.toDigits 10 n ++ x ≠ '-' :: y := by
  intro h
  cases hds : Nat.toDigits 10 n with
  | nil => exact Nat.toDigits_ne_nil hds
  | cons d ds =>
      rw [hds] at h
      obtain ⟨rfl, _⟩ := List.cons.inj h
      have hsign : ('-' : Char).isDigit = true := isDigit_of_mem (n := n) (by simp [hds])
      cases hsign

/-- A numeral and what follows it are determined if that starts with a character
that is no digit. -/
theorem toString_append_inj {c : Char} (hc : c.isDigit = false) {n n' : Int} {x y : List Char}
    (h : (toString n).toList ++ c :: x = (toString n').toList ++ c :: y) : n = n' ∧ x = y := by
  rw [toList_toString, toList_toString] at h
  split at h
  · split at h
    · obtain ⟨hds, hxy⟩ := append_inj hc (fun _ => isDigit_of_mem) (fun _ => isDigit_of_mem) h
      have hn := toDigits_inj hds
      exact ⟨by omega, hxy⟩
    · exact absurd h toDigits_ne_sign
  · split at h
    · exact absurd h.symm toDigits_ne_sign
    · obtain ⟨hds, hxy⟩ := append_inj hc (fun _ => isDigit_of_mem) (fun _ => isDigit_of_mem)
        (List.cons.inj h).2
      have hn := toDigits_inj hds
      exact ⟨by omega, hxy⟩

theorem toString_inj {n n' : Int} (h : toString n = toString n') : n = n' :=
  (toString_append_inj (c := ' ') rfl (x := []) (y := []) (by rw [h])).1

end Decimal
