import Mathlib.Algebra.Order.Field.Basic
import Mathlib.Algebra.Order.Round
import Mathlib.Tactic.FieldSimp
import Mathlib.Tactic.Linarith
import Mathlib.Tactic.NormNum
import Mathlib.Tactic.Positivity
import Mathlib.Tactic.Ring

/-!
# Tables of piecewise linear functions

`eval` interpolates between knots and is constant outside them.  If it rises or falls
by at most `K` between two knots in a row, then it does so everywhere
(`abs_eval_sub_le`).

`gridIndex` is the nearest of `n + 1` points on an interval from `0` to `M`.  So a table
of the values at these points is off by at most `K * M / (2 * n)` (`abs_eval_grid_le`).

`find?_segment` says that a search for the segment of a point finds the one that
`eval` uses.
-/

namespace PiecewiseLinear

variable {R : Type*} [Field R] [LinearOrder R]

/-! ## Interpolation -/

/-- The value between two knots. -/
def mix (p q : R × R) (x : R) : R := p.2 + (q.2 - p.2) * ((x - p.1) / (q.1 - p.1))

def eval : List (R × R) → R → R
  | [], _ => 0
  | [p], _ => p.2
  | p :: q :: rest, x =>
      if x ≤ p.1 then p.2
      else if x ≤ q.1 then mix p q x
      else eval (q :: rest) x

/-- The second knot is to the right, and not too far up or down. -/
structure Follows (K : R) (p q : R × R) : Prop where
  lt : p.1 < q.1
  steep : |q.2 - p.2| ≤ K * (q.1 - p.1)

variable [IsStrictOrderedRing R] {K : R} {p q : R × R} {rest : List (R × R)} {x y : R}

omit [IsStrictOrderedRing R] in
theorem eval_of_le (h : x ≤ p.1) : eval (p :: rest) x = p.2 := by
  cases rest with
  | nil => rfl
  | cons q rest => rw [eval, if_pos h]

omit [LinearOrder R] [IsStrictOrderedRing R] in
theorem mix_left : mix p q p.1 = p.2 := by
  simp [mix]

theorem mix_right (h : p.1 < q.1) : mix p q q.1 = q.2 := by
  have hne : q.1 - p.1 ≠ 0 := (sub_pos.mpr h).ne'
  rw [mix, div_self hne]
  ring

omit [IsStrictOrderedRing R] in
/-- Behind the first knot and before the second. -/
theorem eval_of_mem (hp : p.1 ≤ x) (hq : x ≤ q.1) : eval (p :: q :: rest) x = mix p q x := by
  rw [eval]
  split_ifs with h
  · rw [le_antisymm h hp, mix_left]
  · rfl

/-- Behind the second knot. -/
theorem eval_of_ge (h : p.1 < q.1) (hq : q.1 ≤ x) :
    eval (p :: q :: rest) x = eval (q :: rest) x := by
  rw [eval, if_neg (not_le.mpr (h.trans_le hq))]
  split_ifs with hx
  · rw [le_antisymm hx hq, mix_right h, eval_of_le le_rfl]
  · rfl

omit [IsStrictOrderedRing R] in
/-- Before the second knot. -/
theorem eval_eq_mix_max (hq : x ≤ q.1) :
    eval (p :: q :: rest) x = mix p q (max x p.1) := by
  rcases le_total x p.1 with hp | hp
  · rw [eval_of_le hp, max_eq_right hp, mix_left]
  · rw [eval_of_mem hp hq, max_eq_left hp]

/-- Behind the last knot. -/
theorem eval_of_last_le {knots : List (R × R)} {last : R × R}
    (hsorted : knots.IsChain fun p q => p.1 < q.1) (hlast : knots.getLast? = some last)
    (h : last.1 ≤ x) : eval knots x = last.2 := by
  induction knots with
  | nil => cases hlast
  | cons p knots ih =>
      cases knots with
      | nil =>
          cases hlast
          rfl
      | cons q rest =>
          obtain ⟨hpq, hrest⟩ := List.isChain_cons_cons.mp hsorted
          have hlast' : (q :: rest).getLast? = some last := by simpa using hlast
          have hq : q.1 ≤ x := by
            refine le_trans ?_ h
            have hall := List.isChain_iff_pairwise.mp hrest
            rcases List.mem_cons.mp (List.mem_of_getLast? hlast') with rfl | hmem
            · exact le_rfl
            · exact (List.rel_of_pairwise_cons hall hmem).le
          rw [eval_of_ge hpq hq]
          exact ih hrest hlast'

/-! ## Steepness -/

theorem Follows.abs_mix_sub_le (h : Follows K p q) (hxy : x ≤ y) :
    |mix p q y - mix p q x| ≤ K * (y - x) := by
  have hpos : 0 < q.1 - p.1 := sub_pos.mpr h.lt
  have hdiff : mix p q y - mix p q x = (q.2 - p.2) / (q.1 - p.1) * (y - x) := by
    simp only [mix]
    field_simp
    ring
  have hslope : |(q.2 - p.2) / (q.1 - p.1)| ≤ K := by
    rw [abs_div, abs_of_pos hpos, div_le_iff₀ hpos]
    exact h.steep
  rw [hdiff, abs_mul, abs_of_nonneg (sub_nonneg.mpr hxy)]
  exact mul_le_mul_of_nonneg_right hslope (sub_nonneg.mpr hxy)

/-- Nowhere does the function rise or fall more than between its knots. -/
theorem abs_eval_sub_le (hK : 0 ≤ K) {knots : List (R × R)} (h : knots.IsChain (Follows K))
    (hxy : x ≤ y) : |eval knots y - eval knots x| ≤ K * (y - x) := by
  have hflat : ∀ {x y : R}, x ≤ y → (0 : R) ≤ K * (y - x) :=
    fun h => mul_nonneg hK (sub_nonneg.mpr h)
  induction knots generalizing x y with
  | nil => simpa [eval] using hflat hxy
  | cons p knots ih =>
      cases knots with
      | nil => simpa [eval] using hflat hxy
      | cons q rest =>
          obtain ⟨hpq, hrest⟩ := List.isChain_cons_cons.mp h
          have hleft : ∀ {x y : R}, x ≤ y → y ≤ q.1 →
              |eval (p :: q :: rest) y - eval (p :: q :: rest) x| ≤ K * (y - x) := by
            intro x y hxy hy
            have hmax : max x p.1 ≤ max y p.1 := max_le_max_right p.1 hxy
            rw [eval_eq_mix_max hy, eval_eq_mix_max (hxy.trans hy)]
            refine (hpq.abs_mix_sub_le hmax).trans (mul_le_mul_of_nonneg_left ?_ hK)
            rcases le_total x p.1 with hx | hx
            · rcases le_total y p.1 with hy' | hy'
              · rw [max_eq_right hx, max_eq_right hy', sub_self]
                exact sub_nonneg.mpr hxy
              · rw [max_eq_right hx, max_eq_left hy']
                exact sub_le_sub_left hx y
            · rw [max_eq_left hx, max_eq_left (hx.trans hxy)]
          rcases le_total y q.1 with hy | hy
          · exact hleft hxy hy
          · rcases le_total q.1 x with hx | hx
            · rw [eval_of_ge hpq.lt hx, eval_of_ge hpq.lt hy]
              exact ih hrest hxy
            · have hfirst := hleft hx le_rfl
              have hsecond := ih hrest hy
              rw [eval_of_ge hpq.lt le_rfl] at hfirst
              rw [eval_of_ge hpq.lt hy]
              have htriangle := abs_sub_le (eval (q :: rest) y) (eval (q :: rest) q.1)
                (eval (p :: q :: rest) x)
              linarith

/-! ## Searching -/

/-- The search for a segment finds the one that every channel is interpolated in. -/
theorem find?_segment {V : Type*} {stops : List (R × V)} {first last : R × V}
    (hsorted : stops.IsChain fun s t => s.1 < t.1) (hfirst : stops.head? = some first)
    (hlast : stops.getLast? = some last) (hlt : first.1 < last.1) (hx : first.1 ≤ x)
    (hx' : x ≤ last.1) :
    ∃ s t, (stops.zip stops.tail).find? (fun s => s.1.1 ≤ x ∧ x ≤ s.2.1) = some (s, t) ∧
      ∀ f : V → R, eval (stops.map fun s => (s.1, f s.2)) x = mix (s.1, f s.2) (t.1, f t.2) x := by
  induction stops generalizing first with
  | nil => cases hfirst
  | cons s stops ih =>
      cases hfirst
      cases stops with
      | nil =>
          cases hlast
          exact absurd hlt (lt_irrefl _)
      | cons t rest =>
          obtain ⟨hst, hrest⟩ := List.isChain_cons_cons.mp hsorted
          by_cases ht : x ≤ t.1
          · refine ⟨s, t, ?_, fun f => ?_⟩
            · simp [hx, ht]
            · exact eval_of_mem hx ht
          · obtain ⟨a, b, hfind, heval⟩ := ih hrest rfl (by simpa using hlast)
              ((not_le.mp ht).trans_le hx') (not_le.mp ht).le
            refine ⟨a, b, ?_, fun f => ?_⟩
            · rw [← hfind]
              simp [ht]
            · rw [← heval f]
              exact eval_of_ge hst (not_le.mp ht).le

/-! ## Tables -/

section Grid

variable [FloorRing R] {n : Nat} {M : R}

/-- The nearest of the points `i / n * M`. -/
def gridIndex (n : Nat) (M x : R) : Nat := (min (n : Int) (max 0 (round (x / M * n)))).toNat

omit [IsStrictOrderedRing R] in
theorem gridIndex_le : gridIndex n M x ≤ n := by
  rw [gridIndex]
  omega

/-- The half is rounded up. -/
theorem gridIndex_eq (n : Nat) (M x : R) :
    gridIndex n M x = (min (n : Int) (max 0 ⌊x / M * n + 1 / (2 : Nat)⌋)).toNat := by
  rw [gridIndex, round_eq, Nat.cast_ofNat]

/-- A point on the interval is near its point of the grid, and one outside is at the
end. -/
theorem abs_grid_sub_le (hn : 0 < n) (hM : 0 < M) :
    |(gridIndex n M x : R) / n * M - max 0 (min M x)| ≤ M / (2 * n : Nat) := by
  rw [Nat.cast_mul, Nat.cast_ofNat]
  have hnpos : (0 : R) < n := Nat.cast_pos.mpr hn
  have hbound : 0 ≤ M / (2 * n) := by positivity
  have hfloor : (⌊x / M * n + 1 / 2⌋ : R) ≤ x / M * n + 1 / 2 := Int.floor_le _
  have hfloor' : x / M * n + 1 / 2 < ⌊x / M * n + 1 / 2⌋ + 1 := Int.lt_floor_add_one _
  have hindex : (gridIndex n M x : R) = (min (n : Int) (max 0 ⌊x / M * n + 1 / 2⌋) : Int) := by
    rw [gridIndex_eq, Nat.cast_ofNat, ← Int.cast_natCast, Int.toNat_of_nonneg (by omega)]
  rw [hindex]
  generalize ⌊x / M * n + 1 / 2⌋ = k at hfloor hfloor'
  rcases le_total x 0 with hx | hx
  · have hy : x / M * n ≤ 0 :=
      mul_nonpos_of_nonpos_of_nonneg (div_nonpos_of_nonpos_of_nonneg hx hM.le) hnpos.le
    have hk : k < 1 := by
      have hlt : (k : R) < 1 := by linarith
      exact_mod_cast hlt
    have hzero : min (n : Int) (max 0 k) = 0 := by omega
    rw [hzero, min_eq_right (hx.trans hM.le), max_eq_left hx]
    simpa using hbound
  · rcases le_total M x with hMx | hMx
    · have hy : n ≤ x / M * n := le_mul_of_one_le_left hnpos.le ((one_le_div hM).mpr hMx)
      have hk : (n : Int) - 1 < k := by
        have hlt : (n : R) - 1 < k := by linarith
        exact_mod_cast hlt
      have hend : min (n : Int) (max 0 k) = n := by omega
      have hone : (n : R) / n * M = M := by rw [div_self hnpos.ne', one_mul]
      rw [hend, min_eq_left hMx, max_eq_right hM.le, Int.cast_natCast, hone, sub_self, abs_zero]
      exact hbound
    · have hy : 0 ≤ x / M * n := by positivity
      have hy' : x / M * n ≤ n := mul_le_of_le_one_left hnpos.le ((div_le_one hM).mpr hMx)
      have hk : -1 < k := by
        have hlt : (-1 : R) < k := by linarith
        exact_mod_cast hlt
      have hk' : k < n + 1 := by
        have hlt : (k : R) < n + 1 := by linarith
        exact_mod_cast hlt
      have hsame : min (n : Int) (max 0 k) = k := by omega
      have hscale : (k : R) / n * M - x = (k - x / M * n) * (M / n) := by field_simp
      have hnear : |(k : R) - x / M * n| ≤ 1 / 2 := abs_le.mpr ⟨by linarith, by linarith⟩
      have hstep : 0 ≤ M / n := by positivity
      rw [hsame, min_eq_right hMx, max_eq_right hx, hscale, abs_mul, abs_of_nonneg hstep]
      calc |(k : R) - x / M * n| * (M / n) ≤ 1 / 2 * (M / n) :=
            mul_le_mul_of_nonneg_right hnear hstep
        _ = M / (2 * n) := by field_simp

theorem abs_eval_grid_le (hn : 0 < n) (hM : 0 < M) (hK : 0 ≤ K) {knots : List (R × R)}
    (h : knots.IsChain (Follows K)) :
    |eval knots ((gridIndex n M x : R) / n * M) - eval knots (max 0 (min M x))| ≤
      K * (M / (2 * n : Nat)) := by
  refine le_trans ?_ (mul_le_mul_of_nonneg_left (abs_grid_sub_le (x := x) hn hM) hK)
  rcases le_total ((gridIndex n M x : R) / n * M) (max 0 (min M x)) with hle | hle
  · rw [abs_sub_comm, abs_sub_comm ((gridIndex n M x : R) / n * M),
      abs_of_nonneg (sub_nonneg.mpr hle)]
    exact abs_eval_sub_le hK h hle
  · rw [abs_of_nonneg (sub_nonneg.mpr hle)]
    exact abs_eval_sub_le hK h hle

end Grid

end PiecewiseLinear
