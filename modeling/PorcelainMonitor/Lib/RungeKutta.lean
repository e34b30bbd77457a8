import Mathlib.Algebra.Order.Field.Basic
import Mathlib.Tactic.Linarith
import Mathlib.Tactic.Positivity
import Mathlib.Tactic.Ring

/-!
# The classical Runge-Kutta method

One step of the classical fourth-order method for `a' = f a`, with exact
arithmetic.  `increment f h a` is what a step of length `h` adds to `a`.

* `increment_const`: a constant slope is integrated exactly.
* `increment_of_zero`: where the slope vanishes nothing is added.
* `increment_eq_iff`: above a point from which the slope is positive and does not
  fall, steps of different lengths add different amounts.
* `Dominated.increment_le`: a steeper slope from a higher point adds no less.
-/

namespace RungeKutta

variable {R : Type*} [Field R]

/-- What a step of length `h` adds. -/
def increment (f : R → R) (h a : R) : R :=
  let k1 := f a
  let k2 := f (a + h / (2 : Nat) * k1)
  let k3 := f (a + h / (2 : Nat) * k2)
  let k4 := f (a + h * k3)
  h / (6 : Nat) * (k1 + (2 : Nat) * k2 + (2 : Nat) * k3 + k4)

theorem increment_of_zero {f : R → R} {a : R} (hf : f a = 0) (h : R) : increment f h a = 0 := by
  simp [increment, hf]

variable [LinearOrder R] [IsStrictOrderedRing R]

/-- A slope that is the same wherever a stage can lie. -/
theorem increment_const {f : R → R} {h a r : R} (hh : 0 ≤ h) (hr : 0 ≤ r)
    (hf : ∀ b, a ≤ b → f b = r) : increment f h a = r * h := by
  have hhalf : a ≤ a + h / 2 * r := le_add_of_nonneg_right (by positivity)
  have hfull : a ≤ a + h * r := le_add_of_nonneg_right (by positivity)
  simp only [increment, Nat.cast_ofNat, hf a le_rfl, hf _ hhalf, hf _ hfull]
  ring

/-- From `a` on the slope is non-negative and does not fall. -/
structure Rising (f : R → R) (a : R) : Prop where
  nonneg : ∀ b, a ≤ b → 0 ≤ f b
  le : ∀ b c, a ≤ b → b ≤ c → f b ≤ f c

/-- A stage of a longer step has a slope that is not lower. -/
theorem Rising.stage_le {f : R → R} {a h h' k k' : R} (hf : Rising f a) (hh : 0 ≤ h)
    (hhh' : h ≤ h') (hk : 0 ≤ k) (hkk' : k ≤ k') :
    0 ≤ f (a + h * k) ∧ f (a + h * k) ≤ f (a + h' * k') := by
  have hstage : a ≤ a + h * k := le_add_of_nonneg_right (mul_nonneg hh hk)
  refine ⟨hf.nonneg _ hstage, hf.le _ _ hstage ?_⟩
  exact add_le_add_right (mul_le_mul hhh' hkk' hk (hh.trans hhh')) a

theorem Rising.increment_lt {f : R → R} {a h h' : R} (hf : Rising f a) (hpos : 0 < f a)
    (hh : 0 ≤ h) (hhh' : h < h') : increment f h a < increment f h' a := by
  have hhalf : h / 2 ≤ h' / 2 := by linarith
  obtain ⟨hk2, hk2'⟩ := hf.stage_le (by positivity) hhalf hpos.le le_rfl
  obtain ⟨hk3, hk3'⟩ := hf.stage_le (by positivity) hhalf hk2 hk2'
  obtain ⟨hk4, hk4'⟩ := hf.stage_le hh hhh'.le hk3 hk3'
  simp only [increment, Nat.cast_ofNat]
  calc h / 6 * (f a + 2 * f (a + h / 2 * f a) + 2 * f (a + h / 2 * f (a + h / 2 * f a)) +
        f (a + h * f (a + h / 2 * f (a + h / 2 * f a))))
      < h' / 6 * (f a + 2 * f (a + h / 2 * f a) + 2 * f (a + h / 2 * f (a + h / 2 * f a)) +
        f (a + h * f (a + h / 2 * f (a + h / 2 * f a)))) :=
        mul_lt_mul_of_pos_right (by linarith) (by linarith)
    _ ≤ _ := mul_le_mul_of_nonneg_left (by linarith) (by linarith)

/-- Steps of different lengths add the same only where nothing grows. -/
theorem Rising.increment_eq_iff {f : R → R} {a h h' : R} (hf : Rising f a) (hh : 0 ≤ h)
    (hh' : 0 ≤ h') : increment f h a = increment f h' a ↔ h = h' ∨ f a = 0 := by
  constructor
  · intro heq
    rcases eq_or_lt_of_le (hf.nonneg a le_rfl) with hzero | hpos
    · exact .inr hzero.symm
    · refine .inl ?_
      rcases lt_trichotomy h h' with hlt | hsame | hlt
      · exact absurd heq (hf.increment_lt hpos hh hlt).ne
      · exact hsame
      · exact absurd heq (hf.increment_lt hpos hh' hlt).ne'
  · rintro (rfl | hzero)
    · rfl
    · rw [increment_of_zero hzero, increment_of_zero hzero]

/-! ## Two slopes -/

/-- From `a` on the slope `f` is non-negative, and `g` at a point that is not lower
is not below it. -/
structure Dominated (f g : R → R) (a : R) : Prop where
  nonneg : ∀ b, a ≤ b → 0 ≤ f b
  le : ∀ b c, a ≤ b → b ≤ c → f b ≤ g c

omit [IsStrictOrderedRing R] in
theorem Dominated.mono {f g : R → R} {a b : R} (h : Dominated f g a) (hab : a ≤ b) :
    Dominated f g b :=
  ⟨fun c hbc => h.nonneg c (hab.trans hbc), fun c d hbc => h.le c d (hab.trans hbc)⟩

/-- A stage of the steeper slope. -/
theorem Dominated.stage_le {f g : R → R} {a b h k l : R} (hfg : Dominated f g a) (hab : a ≤ b)
    (hh : 0 ≤ h) (hk : 0 ≤ k) (hkl : k ≤ l) :
    0 ≤ f (a + h * k) ∧ f (a + h * k) ≤ g (b + h * l) := by
  have hstage : a ≤ a + h * k := le_add_of_nonneg_right (mul_nonneg hh hk)
  refine ⟨hfg.nonneg _ hstage, hfg.le _ _ hstage ?_⟩
  exact add_le_add hab (mul_le_mul_of_nonneg_left hkl hh)

theorem Dominated.increment_le {f g : R → R} {a b h : R} (hfg : Dominated f g a) (hab : a ≤ b)
    (hh : 0 ≤ h) : 0 ≤ increment f h a ∧ increment f h a ≤ increment g h b := by
  have hhalf : 0 ≤ h / 2 := by positivity
  have hk1 : 0 ≤ f a := hfg.nonneg a le_rfl
  have hk1' : f a ≤ g b := hfg.le a b le_rfl hab
  obtain ⟨hk2, hk2'⟩ := hfg.stage_le hab hhalf hk1 hk1'
  obtain ⟨hk3, hk3'⟩ := hfg.stage_le hab hhalf hk2 hk2'
  obtain ⟨hk4, hk4'⟩ := hfg.stage_le hab hh hk3 hk3'
  simp only [increment, Nat.cast_ofNat]
  constructor
  · positivity
  · exact mul_le_mul_of_nonneg_left (by linarith) (by positivity)

end RungeKutta
