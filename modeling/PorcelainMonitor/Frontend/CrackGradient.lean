import PorcelainMonitor.Frontend.CrackLines
import PorcelainMonitor.Lib.PiecewiseLinear

/-!
# The colors of a depth

`CrackGradient` gives a depth its color twice: `sampleColorAtDepth` interpolates
between the stops, and `sampleColor` looks the depth up in a table of 256 values that
the constructor and the two setters fill.  `sampleColor_near` says how far the two are
apart, whatever was set before.

The colors of the merged lines and of the merged tubes are written out again in
`crack_lines.js`, one as a table and one without.  `colors_agree` says that a depth has
the color of the legend in both, as far as the tables are exact.

The byte table, which nothing reads, and a greatest depth of 0 in `setMaxDepth` are
left out.  `fround` is what a `Float32Array` stores.
-/

namespace PorcelainMonitor.Frontend

open PiecewiseLinear

/-! ## `CrackGradient` -/

structure CrackGradient (R : Type) where
  maxDepth : R
  stops : List (R × Color R)
  colorLUT : List R
deriving DecidableEq, Repr

def lutSize : Nat := 256

/-- A color as a `Float32Array` holds it. -/
def Color.stored {R : Type} (engine : Engine R) (c : Color R) : Color R :=
  ⟨engine.fround c.r, engine.fround c.g, engine.fround c.b⟩

def Color.toList {R : Type} (c : Color R) : List R := [c.r, c.g, c.b]

namespace CrackGradient

variable {R : Type} [Field R] [LinearOrder R]

/-- The default of `options.stops`. -/
def defaultStops : List (R × Color R) :=
  [(0, ⟨0.19, 0.51, 0.81⟩), (50, ⟨0.22, 0.63, 0.41⟩), (100, ⟨0.93, 0.79, 0.29⟩),
    (150, ⟨0.93, 0.53, 0.21⟩), (200, ⟨0.90, 0.24, 0.24⟩)]

/-- Without stops the first access throws. -/
def sampleColorAtDepth (stops : List (R × Color R)) (depth : R) : Option (Color R) := do
  let first ← stops.head?
  let last ← stops.getLast?
  if depth ≤ first.1 then return first.2
  if last.1 ≤ depth then return last.2
  match (stops.zip stops.tail).find? fun s => s.1.1 ≤ depth ∧ depth ≤ s.2.1 with
  | some ((depth₀, c), (depth₁, c')) =>
      let t := (depth - depth₀) / (depth₁ - depth₀)
      return ⟨c.r + (c'.r - c.r) * t, c.g + (c'.g - c.g) * t, c.b + (c'.b - c.b) * t⟩
  | none => return last.2

variable (engine : Engine R)

/-- `_buildLUT`, behind the assignments of its callers. -/
def buildLUT (maxDepth : R) (stops : List (R × Color R)) : Option (CrackGradient R) := do
  let colors ← (List.range lutSize).mapM fun i : Nat =>
    sampleColorAtDepth stops ((i : R) / ((lutSize : R) - 1) * maxDepth)
  return ⟨maxDepth, stops, colors.flatMap fun c => (c.stored engine).toList⟩

/-- The constructor; an option that is not given is `none`. -/
def new (maxDepth : Option R) (stops : Option (List (R × Color R))) : Option (CrackGradient R) :=
  buildLUT engine ((maxDepth.filter (· ≠ 0)).getD 200) (stops.getD defaultStops)

variable (g : CrackGradient R)

def setMaxDepth (maxDepth : R) : Option (CrackGradient R) := buildLUT engine maxDepth g.stops

def setStops (stops : List (R × Color R)) : Option (CrackGradient R) :=
  buildLUT engine g.maxDepth stops

def sampleColor [FloorRing R] (depth : R) : Color R :=
  let idx := (min ((lutSize : Int) - 1)
    (max 0 ⌊depth / g.maxDepth * ((lutSize : R) - 1) + 1 / 2⌋)).toNat
  ⟨g.colorLUT.getD (idx * 3) 0, g.colorLUT.getD (idx * 3 + 1) 0, g.colorLUT.getD (idx * 3 + 2) 0⟩

/-! ## The table -/

/-- A call that changes a gradient. -/
inductive Call (R : Type) where
  | setMaxDepth (maxDepth : R)
  | setStops (stops : List (R × Color R))

def Call.run : CrackGradient R → Call R → Option (CrackGradient R)
  | g, .setMaxDepth maxDepth => g.setMaxDepth engine maxDepth
  | g, .setStops stops => g.setStops engine stops

/-- The colors of the stops, one channel at a time. -/
def interpolated (stops : List (R × Color R)) (depth : R) : Color R :=
  ⟨eval (stops.map fun s => (s.1, s.2.r)) depth, eval (stops.map fun s => (s.1, s.2.g)) depth,
    eval (stops.map fun s => (s.1, s.2.b)) depth⟩

/-- The next stop is deeper, and no channel changes too fast. -/
structure Steep (K : R) (s t : R × Color R) : Prop where
  lt : s.1 < t.1
  r : |t.2.r - s.2.r| ≤ K * (t.1 - s.1)
  g : |t.2.g - s.2.g| ≤ K * (t.1 - s.1)
  b : |t.2.b - s.2.b| ≤ K * (t.1 - s.1)

/-- The table is that of the stops and of the greatest depth. -/
structure Built : Prop where
  colors : ∃ colors, (List.range lutSize).mapM (fun i : Nat =>
      sampleColorAtDepth g.stops ((i : R) / ((lutSize : R) - 1) * g.maxDepth)) = some colors ∧
    g.colorLUT = colors.flatMap fun c => (c.stored engine).toList

variable {engine g}

theorem built_of_buildLUT {maxDepth : R} {stops : List (R × Color R)}
    (h : buildLUT engine maxDepth stops = some g) : Built engine g := by
  rw [buildLUT] at h
  obtain ⟨colors, hcolors, hg⟩ := Option.bind_eq_some_iff.mp h
  cases hg
  exact ⟨colors, hcolors, rfl⟩

/-- Whatever is called, the table is up to date. -/
theorem built_of_calls {maxDepth : Option R} {stops : Option (List (R × Color R))}
    {calls : List (Call R)}
    (h : (new engine maxDepth stops).bind (fun g => calls.foldlM (Call.run engine) g) = some g) :
    Built engine g := by
  obtain ⟨g₀, hnew, hcalls⟩ := Option.bind_eq_some_iff.mp h
  have hbuilt : Built engine g₀ := built_of_buildLUT hnew
  clear hnew h
  induction calls generalizing g₀ with
  | nil =>
      cases hcalls
      exact hbuilt
  | cons call calls ih =>
      rw [List.foldlM_cons] at hcalls
      obtain ⟨g₁, hcall, hrest⟩ := Option.bind_eq_some_iff.mp hcalls
      refine ih g₁ hrest ?_
      cases call with
      | setMaxDepth maxDepth => exact built_of_buildLUT hcall
      | setStops stops => exact built_of_buildLUT hcall

/-! ## How near the table is -/

variable {stops : List (R × Color R)} {K : R}

theorem Steep.follows {s t : R × Color R} (h : Steep K s t) :
    Follows K (s.1, s.2.r) (t.1, t.2.r) ∧ Follows K (s.1, s.2.g) (t.1, t.2.g) ∧
      Follows K (s.1, s.2.b) (t.1, t.2.b) :=
  ⟨⟨h.lt, h.r⟩, ⟨h.lt, h.g⟩, ⟨h.lt, h.b⟩⟩

section Sorted

variable [IsStrictOrderedRing R]

theorem sampleColorAtDepth_eq (hne : stops ≠ []) (hsorted : stops.IsChain fun s t => s.1 < t.1)
    (depth : R) : sampleColorAtDepth stops depth = some (interpolated stops depth) := by
  have hfirst := List.head?_eq_some_head hne
  have hlast := List.getLast?_eq_some_getLast hne
  generalize stops.head hne = first at hfirst
  generalize stops.getLast hne = last at hlast
  have hchannel : ∀ f : Color R → R,
      (stops.map fun s => (s.1, f s.2)).IsChain fun p q => p.1 < q.1 := by
    intro f
    rw [List.isChain_map]
    exact hsorted
  rw [sampleColorAtDepth, hfirst, hlast]
  simp only [Option.bind_eq_bind, Option.bind_some]
  have hheads : ∀ f : Color R → R,
      (stops.map fun s => (s.1, f s.2)).head? = some (first.1, f first.2) := by
    intro f
    rw [List.head?_map, hfirst]
    rfl
  have hlasts : ∀ f : Color R → R,
      (stops.map fun s => (s.1, f s.2)).getLast? = some (last.1, f last.2) := by
    intro f
    rw [List.getLast?_map, hlast]
    rfl
  split_ifs with hlow hhigh
  · have hvalue : ∀ f : Color R → R, eval (stops.map fun s => (s.1, f s.2)) depth = f first.2 := by
      intro f
      obtain ⟨rest, hrest⟩ := List.head?_eq_some_iff.mp (hheads f)
      rw [hrest]
      exact eval_of_le hlow
    rw [interpolated, hvalue, hvalue, hvalue]
    rfl
  · have hvalue : ∀ f : Color R → R, eval (stops.map fun s => (s.1, f s.2)) depth = f last.2 :=
      fun f => eval_of_last_le (hchannel f) (hlasts f) hhigh
    rw [interpolated, hvalue, hvalue, hvalue]
    rfl
  · have hin : first.1 < depth ∧ depth < last.1 := ⟨not_le.mp hlow, not_le.mp hhigh⟩
    obtain ⟨s, t, hfind, hvalue⟩ := find?_segment hsorted hfirst hlast (hin.1.trans hin.2)
      hin.1.le hin.2.le
    rw [hfind, interpolated, hvalue, hvalue, hvalue]
    rfl

omit [LinearOrder R] [IsStrictOrderedRing R] in
/-- The grid of the table. -/
theorem lutSize_sub_one : (lutSize : R) - 1 = (255 : Nat) := by
  norm_num [lutSize]

omit [LinearOrder R] [IsStrictOrderedRing R] in
/-- The place of a color in a table. -/
theorem getD_flatMap_toList {colors : List (Color R)} {i : Nat} {c : Color R}
    (h : colors[i]? = some c) :
    (colors.flatMap Color.toList).getD (i * 3) 0 = c.r ∧
      (colors.flatMap Color.toList).getD (i * 3 + 1) 0 = c.g ∧
      (colors.flatMap Color.toList).getD (i * 3 + 2) 0 = c.b := by
  induction colors generalizing i with
  | nil => simp at h
  | cons d colors ih =>
      cases i with
      | zero =>
          cases h
          exact ⟨rfl, rfl, rfl⟩
      | succ i =>
          have hskip : ∀ j, ((d :: colors).flatMap Color.toList).getD ((i + 1) * 3 + j) 0 =
              (colors.flatMap Color.toList).getD (i * 3 + j) 0 := by
            intro j
            rw [show (i + 1) * 3 + j = i * 3 + j + 3 by omega]
            rfl
          exact ⟨(hskip 0).trans (ih h).1, (hskip 1).trans (ih h).2.1,
            (hskip 2).trans (ih h).2.2⟩

/-- The table holds the color of the nearest point of its grid. -/
theorem Built.sampleColor_eq [FloorRing R] (h : Built engine g) (hne : g.stops ≠ [])
    (hsorted : g.stops.IsChain fun s t => s.1 < t.1) (depth : R) :
    g.sampleColor depth = (interpolated g.stops
      ((gridIndex 255 g.maxDepth depth : R) / (255 : Nat) * g.maxDepth)).stored engine := by
  obtain ⟨colors, hcolors, htable⟩ := h.colors
  have hsample : ∀ x, sampleColorAtDepth g.stops x = some (interpolated g.stops x) :=
    sampleColorAtDepth_eq hne hsorted
  simp only [hsample, lutSize_sub_one] at hcolors
  have hall : (List.range lutSize).map (fun i : Nat =>
      interpolated g.stops ((i : R) / (255 : Nat) * g.maxDepth)) = colors :=
    Option.some.inj ((List.mapM_pure (m := Option)).symm.trans hcolors)
  let idx := gridIndex 255 g.maxDepth depth
  have hidx : idx < lutSize := Nat.lt_succ_of_le gridIndex_le
  have hget : (colors.map fun c => c.stored engine)[idx]? = some ((interpolated g.stops
      ((idx : R) / (255 : Nat) * g.maxDepth)).stored engine) := by
    rw [← hall, List.getElem?_map, List.getElem?_map, List.getElem?_range hidx]
    rfl
  have hplace := getD_flatMap_toList hget
  have hflat : g.colorLUT = (colors.map fun c => c.stored engine).flatMap Color.toList := by
    rw [htable, List.flatMap_map]
  have hindex : (min ((lutSize : Int) - 1)
      (max 0 ⌊depth / g.maxDepth * ((lutSize : R) - 1) + 1 / 2⌋)).toNat = idx := by
    rw [lutSize_sub_one]
    rw [← Nat.cast_ofNat (n := 2)]
    exact (gridIndex_eq 255 g.maxDepth depth).symm
  rw [sampleColor, hindex, hflat, hplace.1, hplace.2.1, hplace.2.2]

/-- The color from the table is that of the depth, up to what the steepness of the
stops and the distance on the grid can make of it, and up to the last rounding. -/
theorem Built.near [FloorRing R] (h : Built engine g) (hne : g.stops ≠ [])
    (hsteep : g.stops.IsChain (Steep K)) (hK : 0 ≤ K) (hmax : 0 < g.maxDepth) (depth : R) :
    ∃ c c' : Color R, g.sampleColor depth = c.stored engine ∧
      sampleColorAtDepth g.stops (max 0 (min g.maxDepth depth)) = some c' ∧
      |c.r - c'.r| ≤ K * (g.maxDepth / 510) ∧ |c.g - c'.g| ≤ K * (g.maxDepth / 510) ∧
      |c.b - c'.b| ≤ K * (g.maxDepth / 510) := by
  have hsorted : g.stops.IsChain fun s t => s.1 < t.1 := hsteep.imp fun _ _ h => h.lt
  have hstep : ((2 * 255 : Nat) : R) = 510 := by norm_num
  have hchannel : ∀ f : Color R → R, (∀ s t : R × Color R, Steep K s t →
      Follows K (s.1, f s.2) (t.1, f t.2)) →
      |eval (g.stops.map fun s => (s.1, f s.2))
          ((gridIndex 255 g.maxDepth depth : R) / (255 : Nat) * g.maxDepth) -
        eval (g.stops.map fun s => (s.1, f s.2)) (max 0 (min g.maxDepth depth))| ≤
          K * (g.maxDepth / 510) := by
    intro f hf
    have hknots : (g.stops.map fun s => (s.1, f s.2)).IsChain (Follows K) := by
      rw [List.isChain_map]
      exact hsteep.imp hf
    rw [← hstep]
    exact abs_eval_grid_le (by decide) hmax hK hknots
  exact ⟨_, _, h.sampleColor_eq hne hsorted depth, sampleColorAtDepth_eq hne hsorted _,
    hchannel Color.r fun _ _ h => h.follows.1, hchannel Color.g fun _ _ h => h.follows.2.1,
    hchannel Color.b fun _ _ h => h.follows.2.2⟩

/-- Whatever was set before: where the last stops rise in depth, and the greatest depth
is positive, the table gives a depth nearly the color that interpolation gives it. -/
theorem sampleColor_near [FloorRing R] {maxDepth : Option R}
    {stops : Option (List (R × Color R))} {calls : List (Call R)}
    (h : (new engine maxDepth stops).bind (fun g => calls.foldlM (Call.run engine) g) = some g)
    (hne : g.stops ≠ []) (hsteep : g.stops.IsChain (Steep K)) (hK : 0 ≤ K)
    (hmax : 0 < g.maxDepth) (depth : R) :
    ∃ c c' : Color R, g.sampleColor depth = c.stored engine ∧
      sampleColorAtDepth g.stops (max 0 (min g.maxDepth depth)) = some c' ∧
      |c.r - c'.r| ≤ K * (g.maxDepth / 510) ∧ |c.g - c'.g| ≤ K * (g.maxDepth / 510) ∧
      |c.b - c'.b| ≤ K * (g.maxDepth / 510) :=
  (built_of_calls h).near hne hsteep hK hmax depth

/-! ## The default stops -/

theorem buildLUT_of_sorted (maxDepth : R) (hne : stops ≠ [])
    (hsorted : stops.IsChain fun s t => s.1 < t.1) :
    ∃ g, buildLUT engine maxDepth stops = some g ∧ g.maxDepth = maxDepth ∧ g.stops = stops := by
  have hcolors : (List.range lutSize).mapM (fun i : Nat =>
      sampleColorAtDepth stops ((i : R) / ((lutSize : R) - 1) * maxDepth)) =
      some ((List.range lutSize).map fun i : Nat =>
        interpolated stops ((i : R) / ((lutSize : R) - 1) * maxDepth)) := by
    simp only [sampleColorAtDepth_eq hne hsorted]
    exact List.mapM_pure (m := Option)
  rw [buildLUT, hcolors]
  exact ⟨_, rfl, rfl, rfl⟩

theorem steep_defaultStops : (defaultStops : List (R × Color R)).IsChain (Steep (71 / 5000)) := by
  simp only [defaultStops, List.isChain_cons_cons, List.isChain_singleton, and_true]
  refine ⟨?_, ?_, ?_, ?_⟩
  all_goals
    constructor <;> norm_num [abs_le]

end Sorted

/-- A browser that rounds nothing. -/
def plainEngine : Engine ℚ := ⟨id, 2 ^ 32, by decide⟩

/-- The default stops with half of the depth. -/
theorem sampleColor_near_half :
    ∃ g, (new plainEngine none none).bind (fun g =>
        [Call.setMaxDepth 100].foldlM (Call.run plainEngine) g) = some g ∧
      ∃ c c' : Color ℚ, g.sampleColor 75 = c.stored plainEngine ∧
        sampleColorAtDepth g.stops (max 0 (min g.maxDepth 75)) = some c' ∧
        |c.r - c'.r| ≤ 71 / 5000 * (g.maxDepth / 510) ∧
        |c.g - c'.g| ≤ 71 / 5000 * (g.maxDepth / 510) ∧
        |c.b - c'.b| ≤ 71 / 5000 * (g.maxDepth / 510) := by
  have hne : (defaultStops : List (ℚ × Color ℚ)) ≠ [] := List.cons_ne_nil _ _
  have hsorted : (defaultStops : List (ℚ × Color ℚ)).IsChain fun s t => s.1 < t.1 :=
    steep_defaultStops.imp fun _ _ h => h.lt
  obtain ⟨g₀, hg₀, _, hstops₀⟩ := buildLUT_of_sorted (200 : ℚ) hne hsorted
  obtain ⟨g, hg, hmax, hstops⟩ := buildLUT_of_sorted (100 : ℚ) hne hsorted
  have hcalls : (new plainEngine none none).bind (fun g =>
      [Call.setMaxDepth 100].foldlM (Call.run plainEngine) g) = some g := by
    have hnew : new plainEngine none none = some g₀ := hg₀
    have hcall : Call.run plainEngine g₀ (.setMaxDepth 100) = some g := by
      rw [Call.run, setMaxDepth, hstops₀]
      exact hg
    rw [hnew, Option.bind_some, List.foldlM_cons, hcall]
    rfl
  exact ⟨g, hcalls, sampleColor_near hcalls (hstops ▸ hne) (hstops ▸ steep_defaultStops)
    (by norm_num) (by rw [hmax]; norm_num) 75⟩

end CrackGradient

/-! ## The lines and the tubes -/

/-- `sampleColor` in `MergedCrackTubes.buildFromCracks`. -/
def MergedCrackTubes.sampleColor {R : Type} [Field R] [LinearOrder R] (depth : R) : Color R :=
  colorAt (min (max depth 0) 200)

section Agreement

variable {Id R : Type} [Field R] [LinearOrder R] [IsStrictOrderedRing R]

open CrackGradient

/-- The search of `crack_lines.js` interpolates as `sampleColorAtDepth` does. -/
theorem colorAt_eq {depth : R} (h : 0 ≤ depth) (h' : depth ≤ 200) :
    colorAt depth = interpolated defaultStops depth := by
  have hsorted : (defaultStops : List (R × Color R)).IsChain fun s t => s.1 < t.1 :=
    steep_defaultStops.imp fun _ _ h => h.lt
  obtain ⟨s, t, hfind, hvalue⟩ := find?_segment hsorted rfl rfl (by norm_num) h h'
  have hfind' : (stops.zip stops.tail).find? (fun s => s.1.1 ≤ depth ∧ depth ≤ s.2.1) =
      some (s, t) := hfind
  rw [colorAt, hfind', interpolated, hvalue, hvalue, hvalue]
  rfl

variable [FloorRing R]

/-- The table of the lines. -/
theorem lines_sampleColor (engine : Engine R) (depth : R) :
    (MergedCrackLines.new engine : MergedCrackLines Id R).sampleColor depth =
      (interpolated defaultStops
        ((gridIndex 255 200 depth : R) / (255 : Nat) * 200)).stored engine := by
  let idx := gridIndex 255 (200 : R) depth
  have hidx : idx ≤ 255 := gridIndex_le
  have hpoint : (0 : R) ≤ (idx : R) / (255 : Nat) * 200 := by positivity
  have hpoint' : (idx : R) / (255 : Nat) * 200 ≤ 200 := by
    refine mul_le_of_le_one_left (by norm_num) ((div_le_one (by norm_num)).mpr ?_)
    exact_mod_cast hidx
  have hget : ((List.range LUT_SIZE).map fun i : Nat =>
      (colorAt ((i : R) / ((LUT_SIZE : R) - 1) * 200)).stored engine)[idx]? =
      some ((interpolated defaultStops ((idx : R) / (255 : Nat) * 200)).stored engine) := by
    have hlt : idx < LUT_SIZE := Nat.lt_succ_of_le hidx
    have hsize : (LUT_SIZE : R) - 1 = (255 : Nat) := lutSize_sub_one
    rw [List.getElem?_map, List.getElem?_range hlt, Option.map_some, hsize,
      colorAt_eq hpoint hpoint']
  have hplace := getD_flatMap_toList hget
  have htable : (MergedCrackLines.new engine : MergedCrackLines Id R).colorLUT =
      ((List.range LUT_SIZE).map fun i : Nat =>
        (colorAt ((i : R) / ((LUT_SIZE : R) - 1) * 200)).stored engine).flatMap Color.toList := by
    have hcast : (List.range LUT_SIZE >>= fun i => pure (i : R)) =
        (List.range LUT_SIZE).map fun i : Nat => (i : R) := List.flatMap_pure_eq_map _ _
    change buildColorLUT engine = _
    rw [buildColorLUT, hcast, List.flatMap_map, List.flatMap_map]
    exact List.flatMap_congr fun i _ => rfl
  have hindex : (min 255 (max 0 ⌊depth / 200 * 255 + 1 / 2⌋)).toNat = idx := by
    simp only [idx, gridIndex_eq, Nat.cast_ofNat]
  rw [MergedCrackLines.sampleColor, hindex, htable, hplace.1, hplace.2.1, hplace.2.2]

/-- At every depth the lines have the color of the legend, and that of the tubes is
less than two steps of 255 away, before it is stored. -/
theorem colors_agree (engine : Engine R) :
    ∃ g, CrackGradient.new engine (some 200) none = some g ∧ ∀ depth,
      (MergedCrackLines.new engine : MergedCrackLines Id R).sampleColor depth =
        g.sampleColor depth ∧
      ∃ c : Color R, g.sampleColor depth = c.stored engine ∧
        |c.r - (MergedCrackTubes.sampleColor depth).r| ≤ 71 / 12750 ∧
        |c.g - (MergedCrackTubes.sampleColor depth).g| ≤ 71 / 12750 ∧
        |c.b - (MergedCrackTubes.sampleColor depth).b| ≤ 71 / 12750 := by
  have hne : (defaultStops : List (R × Color R)) ≠ [] := List.cons_ne_nil _ _
  have hsorted : (defaultStops : List (R × Color R)).IsChain fun s t => s.1 < t.1 :=
    steep_defaultStops.imp fun _ _ h => h.lt
  have hdepth : ((some 200 : Option R).filter (· ≠ 0)).getD 200 = 200 := by
    rw [Option.filter_some, if_pos (by norm_num)]
    rfl
  obtain ⟨g, hg, hmax, hstops⟩ := buildLUT_of_sorted (200 : R) hne hsorted
  have hnew : CrackGradient.new engine (some 200) none = some g := by
    rw [CrackGradient.new, hdepth]
    exact hg
  have hbuilt : Built engine g := built_of_buildLUT hg
  refine ⟨g, hnew, fun depth => ⟨?_, ?_⟩⟩
  · rw [lines_sampleColor, hbuilt.sampleColor_eq (hstops ▸ hne) (hstops ▸ hsorted), hmax, hstops]
  · obtain ⟨c, c', hc, hc', hr, hgreen, hb⟩ := hbuilt.near (hstops ▸ hne)
      (hstops ▸ steep_defaultStops) (by norm_num) (by rw [hmax]; norm_num) depth
    have hclamp : max 0 (min g.maxDepth depth) = min (max depth 0) 200 := by
      rw [hmax, min_comm 200 depth, max_min_distrib_left, max_comm 0 depth,
        max_eq_right (by norm_num : (0 : R) ≤ 200)]
    have htube : MergedCrackTubes.sampleColor depth = c' := by
      rw [hclamp, hstops, sampleColorAtDepth_eq hne hsorted] at hc'
      rw [MergedCrackTubes.sampleColor, colorAt_eq (le_min (le_max_right _ _) (by norm_num))
        (min_le_right _ _)]
      exact Option.some.inj hc'
    have hbound : (71 / 5000 : R) * (g.maxDepth / 510) = 71 / 12750 := by
      rw [hmax]
      norm_num
    rw [htube, ← hbound]
    exact ⟨c, hc, hr, hgreen, hb⟩

end Agreement

/-- With numbers that are stored as they are. -/
theorem colors_agree_exact :
    let engine := CrackGradient.plainEngine
    ∃ g, CrackGradient.new engine (some 200) none = some g ∧ ∀ depth,
      (MergedCrackLines.new engine : MergedCrackLines Nat ℚ).sampleColor depth =
        g.sampleColor depth ∧
      ∃ c : Color ℚ, g.sampleColor depth = c.stored engine ∧
        |c.r - (MergedCrackTubes.sampleColor depth).r| ≤ 71 / 12750 ∧
        |c.g - (MergedCrackTubes.sampleColor depth).g| ≤ 71 / 12750 ∧
        |c.b - (MergedCrackTubes.sampleColor depth).b| ≤ 71 / 12750 :=
  colors_agree CrackGradient.plainEngine

end PorcelainMonitor.Frontend
