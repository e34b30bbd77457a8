import Mathlib.Tactic.FieldSimp
import Mathlib.Tactic.Ring
import PorcelainMonitor.Algorithms.RiskLevel

/-!
# The shape of a prediction

The loop of `predict` pushes one sample on each of six series in every pass, and
breaks before the first sample whose length is critical.  So the series are the
values of the first `recorded` iterates of `Simulation.next`.

The figures for 720 hours are those of one recorded sample, the last one that is
not later than 720 hours.
-/

namespace PorcelainMonitor.Algorithms

variable {R : Type} [Field R] [LinearOrder R]

/-! ## The samples -/

namespace Simulation

variable (sim : Simulation R)

/-- So many samples are recorded in a loop with `n` steps. -/
def recorded (criticalLength : R) (n : Nat) (s : Sample R) : Nat :=
  match Loop.stopIndex sim.next (fun s => criticalLength ≤ s.a) n s with
  | some j => j + 1
  | none => n + 1

/-- A series that gets a value of the sample in every pass, and that nothing else
of `predict` touches. -/
structure Series (series : ParisLawResult R → List R) (value : Sample R → R) : Prop where
  record : ∀ s result, series (sim.record s result) = series result ++ [value s]
  rest : ∀ result l d w t level c, series { result with
    predictedLength720h := l
    predictedDepth720h := d
    predictedWidth720h := w
    timeToFailureHours := t
    riskLevel := level
    confidence := c } = series result

theorem recorded_succ (criticalLength : R) (n : Nat) (s : Sample R) :
    sim.recorded criticalLength (n + 1) s =
      if criticalLength ≤ (sim.next s).a then 1
      else sim.recorded criticalLength n (sim.next s) + 1 := by
  rw [recorded, recorded, Loop.stopIndex]
  split_ifs
  · rfl
  · cases Loop.stopIndex sim.next (fun s => criticalLength ≤ s.a) n (sim.next s) with
    | none => rfl
    | some j => rfl

/-- A series holds the values of the recorded samples. -/
theorem Series.loop {series : ParisLawResult R → List R} {value : Sample R → R}
    (h : sim.Series series value) (criticalLength : R) (n : Nat) (s : Sample R)
    (result : ParisLawResult R) :
    series (sim.loop criticalLength n s result) = series result ++
      (List.range (sim.recorded criticalLength n s)).map fun j => value (sim.next^[j] s) := by
  induction n generalizing s result with
  | zero => exact h.record s result
  | succ n ih =>
      rw [Simulation.loop, recorded_succ]
      split_ifs
      · exact (h.rest (sim.record s result) _ _ _ _ _ _).trans (h.record s result)
      · rw [ih, h.record, List.range_succ_eq_map, List.map_cons, List.map_map, List.append_assoc]
        rfl

theorem series_timeHours : sim.Series ParisLawResult.timeHours fun s => sim.tHours s.i :=
  ⟨fun _ _ => rfl, fun _ _ _ _ _ _ _ => rfl⟩

theorem series_crackLength : sim.Series ParisLawResult.crackLength Sample.a :=
  ⟨fun _ _ => rfl, fun _ _ _ _ _ _ _ => rfl⟩

theorem series_crackDepth : sim.Series ParisLawResult.crackDepth Sample.depth :=
  ⟨fun _ _ => rfl, fun _ _ _ _ _ _ _ => rfl⟩

theorem series_crackWidth : sim.Series ParisLawResult.crackWidth Sample.width :=
  ⟨fun _ _ => rfl, fun _ _ _ _ _ _ _ => rfl⟩

theorem series_stressIntensityRange : sim.Series ParisLawResult.stressIntensityRange fun s =>
    deltaK sim.math sim.params s.a :=
  ⟨fun _ _ => rfl, fun _ _ _ _ _ _ _ => rfl⟩

theorem series_crackGrowthRate : sim.Series ParisLawResult.crackGrowthRate fun s =>
    calculateCrackGrowthRate sim.math sim.params (deltaK sim.math sim.params s.a) :=
  ⟨fun _ _ => rfl, fun _ _ _ _ _ _ _ => rfl⟩

/-! ## What a sample holds -/

theorem lengthAt_succ (i : Nat) :
    sim.lengthAt (i + 1) = sim.lengthAt i + sim.growth (sim.lengthAt i) := by
  rw [lengthAt, Function.iterate_succ_apply']
  rfl

theorem iterate_i (i : Nat) : (sim.next^[i] sim.start).i = i := by
  induction i with
  | zero => rfl
  | succ i ih =>
      rw [Function.iterate_succ_apply']
      exact congrArg (· + 1) ih

/-- Depth and width follow the length. -/
theorem iterate_depth (i : Nat) : (sim.next^[i] sim.start).depth =
    sim.depth0 + (sim.lengthAt i - sim.a0) * (4 / 10) := by
  cases i with
  | zero => simp [lengthAt, start]
  | succ i =>
      rw [lengthAt, Function.iterate_succ_apply']
      rfl

theorem iterate_width (i : Nat) : (sim.next^[i] sim.start).width =
    sim.width0 + (sim.lengthAt i - sim.a0) * (25 / 100) := by
  cases i with
  | zero => simp [lengthAt, start]
  | succ i =>
      rw [lengthAt, Function.iterate_succ_apply']
      rfl

theorem monotone_lengthAt [IsStrictOrderedRing R] (hdt : 0 ≤ sim.dt)
    (hgrow : ∀ a, 0 ≤ growthPerSecond sim.math sim.params a) : Monotone sim.lengthAt := by
  refine monotone_nat_of_le_succ fun i => ?_
  rw [lengthAt_succ]
  exact le_add_of_nonneg_right (sim.growth_nonneg hdt hgrow _)

/-! ## How many samples there are -/

section Recorded

variable (criticalLength : R) (n : Nat)

/-- The loop records until it breaks or ends. -/
theorem recorded_cases :
    (sim.recorded criticalLength n sim.start = n + 1 ∧
      ∀ i < n, sim.lengthAt (i + 1) < criticalLength) ∨
    ∃ j < n, sim.recorded criticalLength n sim.start = j + 1 ∧
      criticalLength ≤ sim.lengthAt (j + 1) ∧
      (∀ i < j, sim.lengthAt (i + 1) < criticalLength) ∧
      ∀ result, (sim.loop criticalLength n sim.start result).timeToFailureHours =
        sim.tHours j := by
  simp only [recorded, loop_timeToFailureHours]
  cases hstop : Loop.stopIndex sim.next (fun s => criticalLength ≤ s.a) n sim.start with
  | none => exact .inl ⟨rfl, fun i hi => not_le.mp (Loop.stopIndex_eq_none.mp hstop i hi)⟩
  | some j =>
      obtain ⟨hj, hlong, hshort⟩ := Loop.stopIndex_eq_some.mp hstop
      have hstart : sim.start.i + j = j := Nat.zero_add j
      exact .inr ⟨j, hj, rfl, hlong, fun i hi => not_le.mp (hshort i hi),
        fun _ => congrArg sim.tHours hstart⟩

theorem recorded_pos : 1 ≤ sim.recorded criticalLength n sim.start := by
  rcases sim.recorded_cases criticalLength n with ⟨hall, _⟩ | ⟨j, _, hbreak, _⟩
  · omega
  · omega

theorem recorded_le : sim.recorded criticalLength n sim.start ≤ n + 1 := by
  rcases sim.recorded_cases criticalLength n with ⟨hall, _⟩ | ⟨j, _, hbreak, _⟩
  · omega
  · omega

/-- No length is recorded that is critical, apart from the first. -/
theorem recorded_short {i : Nat} (hi : i + 1 < sim.recorded criticalLength n sim.start) :
    sim.lengthAt (i + 1) < criticalLength := by
  rcases sim.recorded_cases criticalLength n with ⟨hall, hshort⟩ | ⟨j, _, hbreak, _, hshort, _⟩
  · exact hshort i (by omega)
  · exact hshort i (by omega)

end Recorded

/-- What a prediction says of a simulation that records `count` samples. -/
structure Predicted (count : Nat) (index : Int) (result : ParisLawResult R) : Prop where
  timeHours : result.timeHours = (List.range count).map sim.tHours
  crackLength : result.crackLength = (List.range count).map sim.lengthAt
  crackDepth : result.crackDepth = (List.range count).map fun i =>
    sim.depth0 + (sim.lengthAt i - sim.a0) * (4 / 10)
  crackWidth : result.crackWidth = (List.range count).map fun i =>
    sim.width0 + (sim.lengthAt i - sim.a0) * (25 / 100)
  stressIntensityRange : result.stressIntensityRange.length = count
  crackGrowthRate : result.crackGrowthRate.length = count
  /-- The sample of the figures for 720 hours. -/
  figures : 0 ≤ index → ∃ i, i = min index.toNat (count - 1) ∧
    result.crackLength[i]? = some result.predictedLength720h ∧
    result.crackDepth[i]? = some result.predictedDepth720h ∧
    result.crackWidth[i]? = some result.predictedWidth720h

end Simulation

/-! ## The figures for 720 hours -/

omit [LinearOrder R] in
/-- The figures are those of the sample at the index, or of the last one. -/
theorem pick720_eq {index : Int} {result : ParisLawResult R} {count : Nat} (hindex : 0 ≤ index)
    (hcount : 1 ≤ count) (hlength : result.crackLength.length = count)
    (hdepth : result.crackDepth.length = count) (hwidth : result.crackWidth.length = count) :
    ∃ i, i = min index.toNat (count - 1) ∧
      result.crackLength[i]? = some (pick720 index result).predictedLength720h ∧
      result.crackDepth[i]? = some (pick720 index result).predictedDepth720h ∧
      result.crackWidth[i]? = some (pick720 index result).predictedWidth720h := by
  have hget : ∀ (l : List R) (i : Nat), l.length = count → i < count →
      l[i]? = some (l.getD i 0) := by
    rintro l i rfl hi
    rw [List.getD_eq_getElem?_getD, List.getElem?_eq_getElem hi]
    rfl
  have hlast : ∀ l : List R, l.length = count → l[count - 1]? = some (l.getLastD 0) := by
    rintro l rfl
    rw [List.getLastD_eq_getLast?, List.getLast?_eq_getElem?, List.getElem?_eq_getElem (by omega)]
    rfl
  refine ⟨_, rfl, ?_⟩
  rw [pick720]
  split_ifs with hin hempty
  · have hi : min index.toNat (count - 1) = index.toNat := by omega
    rw [hi]
    exact ⟨hget _ _ hlength (by omega), hget _ _ hdepth (by omega), hget _ _ hwidth (by omega)⟩
  · rw [List.isEmpty_iff.mp hempty] at hlength
    exact absurd hcount (by simp [← hlength])
  · have hi : min index.toNat (count - 1) = count - 1 := by omega
    rw [hi]
    exact ⟨hlast _ hlength, hlast _ hdepth, hlast _ hwidth⟩

omit [LinearOrder R] in
/-- The figures are all that is set. -/
theorem pick720_set (index : Int) (result : ParisLawResult R) :
    ∃ l d w, pick720 index result = { result with
      predictedLength720h := l
      predictedDepth720h := d
      predictedWidth720h := w } := by
  rw [pick720]
  split_ifs
  · exact ⟨_, _, _, rfl⟩
  · exact ⟨_, _, _, rfl⟩
  · exact ⟨_, _, _, rfl⟩

/-! ## The prediction -/

section Predict

variable (math : CMath R) (params : ParisLawParameters R) (crack : CrackInfo R)
  {timeHorizonHours timeSteps : Int}

/-- What `predict` does after its loop. -/
theorem predict_ok (hH : timeHorizonHours ≠ 0) (hn : 0 ≤ timeSteps) :
    let sim := Simulation.of math params crack timeHorizonHours timeSteps
    let looped := sim.loop (criticalCrackLength math params) timeSteps.toNat sim.start
      (.start params)
    ∃ t level c, predict math params crack timeHorizonHours timeSteps =
        .ok { pick720 (index720 timeHorizonHours timeSteps) looped with
          timeToFailureHours := t
          riskLevel := level
          confidence := c } ∧
      (0 ≤ looped.timeToFailureHours → t = looped.timeToFailureHours) := by
  intro sim looped
  let ttf := estimateRemainingLife math params sim.a0 (criticalCrackLength math params)
  have hset : ∀ result : ParisLawResult R, ∃ t,
      (if result.timeToFailureHours < 0 then { result with timeToFailureHours := ttf }
        else result) = { result with timeToFailureHours := t } ∧
      (0 ≤ result.timeToFailureHours → t = result.timeToFailureHours) := by
    intro result
    split_ifs with h
    · exact ⟨ttf, rfl, fun ht => absurd h (not_lt.mpr ht)⟩
    · exact ⟨_, rfl, fun _ => rfl⟩
  obtain ⟨t, hpicked, ht⟩ := hset (pick720 (index720 timeHorizonHours timeSteps) looped)
  rw [pick720_timeToFailureHours] at ht
  let confidence : R := if 0 < ttf ∧ ttf < timeHorizonHours then 9 / 10
    else if sim.a0 / criticalCrackLength math params > 5 / 10 then 8 / 10
    else 75 / 100
  let finish : ParisLawResult R → Except Failure (ParisLawResult R) := fun result =>
    .ok { result with riskLevel := assessRiskLevel result, confidence := confidence }
  let picked : ParisLawResult R :=
    { pick720 (index720 timeHorizonHours timeSteps) looped with timeToFailureHours := t }
  refine ⟨t, assessRiskLevel picked, confidence, ?_, ht⟩
  rw [predict, if_neg hH, if_pos hn]
  exact congrArg finish hpicked

/-- The prediction is that of the samples the loop records. -/
theorem predict_predicted (hH : timeHorizonHours ≠ 0) (hn : 0 ≤ timeSteps) :
    let sim := Simulation.of math params crack timeHorizonHours timeSteps
    let criticalLength := criticalCrackLength math params
    let t := (sim.loop criticalLength timeSteps.toNat sim.start
      (.start params)).timeToFailureHours
    ∃ result, predict math params crack timeHorizonHours timeSteps = .ok result ∧
      sim.Predicted (sim.recorded criticalLength timeSteps.toNat sim.start)
        (index720 timeHorizonHours timeSteps) result ∧
      (0 ≤ t → result.timeToFailureHours = t) := by
  intro sim criticalLength t
  let count := sim.recorded criticalLength timeSteps.toNat sim.start
  let looped := sim.loop criticalLength timeSteps.toNat sim.start (.start params)
  obtain ⟨t', level, c, hresult, ht⟩ := predict_ok math params crack hH hn
  obtain ⟨l, d, w, hpicked⟩ := pick720_set (index720 timeHorizonHours timeSteps) looped
  refine ⟨_, hresult, ?_, ht⟩
  have hlooped : ∀ {series : ParisLawResult R → List R} {value : Sample R → R},
      sim.Series series value → series (.start params) = [] → series looped =
        (List.range count).map fun i => value (sim.next^[i] sim.start) := by
    intro series value h hnil
    rw [h.loop sim criticalLength timeSteps.toNat sim.start, hnil, List.nil_append]
  have hseries : ∀ {series : ParisLawResult R → List R} {value : Sample R → R},
      sim.Series series value → series (.start params) = [] →
      series { pick720 (index720 timeHorizonHours timeSteps) looped with
        timeToFailureHours := t'
        riskLevel := level
        confidence := c } = (List.range count).map fun i => value (sim.next^[i] sim.start) := by
    intro series value h hnil
    rw [hpicked]
    exact (h.rest looped l d w t' level c).trans (hlooped h hnil)
  have hlength : ∀ f : Nat → R, ((List.range count).map f).length = count := by simp
  constructor
  · refine (hseries sim.series_timeHours rfl).trans (List.map_congr_left fun i _ => ?_)
    rw [sim.iterate_i]
  · exact hseries sim.series_crackLength rfl
  · exact (hseries sim.series_crackDepth rfl).trans
      (List.map_congr_left fun i _ => sim.iterate_depth i)
  · exact (hseries sim.series_crackWidth rfl).trans
      (List.map_congr_left fun i _ => sim.iterate_width i)
  · rw [hseries sim.series_stressIntensityRange rfl, hlength]
  · rw [hseries sim.series_crackGrowthRate rfl, hlength]
  · intro hindex
    have hpick := pick720_eq hindex (sim.recorded_pos criticalLength timeSteps.toNat)
      (by rw [hlooped sim.series_crackLength rfl, hlength])
      (by rw [hlooped sim.series_crackDepth rfl, hlength])
      (by rw [hlooped sim.series_crackWidth rfl, hlength])
    rw [hpicked] at hpick ⊢
    exact hpick

end Predict

/-! ## The shape -/

/-- A prediction of `count` samples over a horizon. -/
structure Simulation.Shape (sim : Simulation R) (criticalLength : R)
    (timeHorizonHours timeSteps : Int) (count : Nat) (result : ParisLawResult R) : Prop where
  timeHours_length : result.timeHours.length = count
  crackLength_length : result.crackLength.length = count
  crackDepth_length : result.crackDepth.length = count
  crackWidth_length : result.crackWidth.length = count
  stressIntensityRange_length : result.stressIntensityRange.length = count
  crackGrowthRate_length : result.crackGrowthRate.length = count
  one_le : 1 ≤ count
  le_steps : (count : Int) ≤ timeSteps + 1
  time : ∀ (i : Nat) t, result.timeHours[i]? = some t → t = i * timeHorizonHours / timeSteps
  grows : ∀ (i j : Nat) a b, i ≤ j → result.crackLength[i]? = some a →
    result.crackLength[j]? = some b → a ≤ b
  depth : ∀ (i : Nat) a d, result.crackLength[i]? = some a → result.crackDepth[i]? = some d →
    d - sim.depth0 = 4 / 10 * (a - sim.a0)
  width : ∀ (i : Nat) a w, result.crackLength[i]? = some a → result.crackWidth[i]? = some w →
    w - sim.width0 = 25 / 100 * (a - sim.a0)
  below : ∀ (i : Nat) a, result.crackLength[i + 1]? = some a → a < criticalLength
  /-- A loop that ends early has found a critical length. -/
  broke : (count : Int) < timeSteps + 1 → ∃ a t, result.crackLength[count - 1]? = some a ∧
    result.timeHours[count - 1]? = some t ∧ criticalLength ≤ a + sim.growth a ∧
    result.timeToFailureHours = t

theorem getElem?_map_range {α : Type*} {f : Nat → α} {count i : Nat} {x : α} :
    ((List.range count).map f)[i]? = some x ↔ i < count ∧ f i = x := by
  rw [List.getElem?_map, Option.map_eq_some_iff]
  constructor
  · rintro ⟨j, hj, rfl⟩
    obtain ⟨hi, rfl⟩ := List.getElem?_eq_some_iff.mp hj
    rw [List.length_range] at hi
    exact ⟨hi, by rw [List.getElem_range]⟩
  · rintro ⟨hi, rfl⟩
    exact ⟨i, List.getElem?_range hi, rfl⟩

section Entries

variable {sim : Simulation R} {count : Nat} {index : Int} {result : ParisLawResult R}

theorem Simulation.Predicted.time_entry (h : sim.Predicted count index result) {i : Nat} {t : R} :
    result.timeHours[i]? = some t ↔ i < count ∧ sim.tHours i = t := by
  rw [h.timeHours, getElem?_map_range]

theorem Simulation.Predicted.length_entry (h : sim.Predicted count index result) {i : Nat}
    {a : R} : result.crackLength[i]? = some a ↔ i < count ∧ sim.lengthAt i = a := by
  rw [h.crackLength, getElem?_map_range]

end Entries

section Shape

variable [IsStrictOrderedRing R] (math : CMath R) {params : ParisLawParameters R}
  (crack : CrackInfo R) {timeHorizonHours timeSteps : Int}

/-- No crack shrinks. -/
theorem growthPerSecond_nonneg (hC : 0 ≤ params.C) (hfrequency : 0 ≤ params.cyclicFrequency)
    (hpow : ∀ x y, 0 < x → 0 ≤ math.pow x y) (a : R) : 0 ≤ growthPerSecond math params a := by
  refine mul_nonneg ?_ hfrequency
  rw [calculateCrackGrowthRate]
  split_ifs with h
  · exact le_rfl
  · exact mul_nonneg hC (hpow _ _ (not_le.mp h))

theorem Simulation.of_dt_pos (hH : 1 ≤ timeHorizonHours) (hn : 1 ≤ timeSteps) :
    0 < (Simulation.of math params crack timeHorizonHours timeSteps).dt := by
  have hHpos : (0 : R) < timeHorizonHours := Int.cast_pos.mpr (by omega)
  have hnpos : (0 : R) < timeSteps := Int.cast_pos.mpr (by omega)
  exact div_pos (mul_pos hHpos (by norm_num)) hnpos

theorem Simulation.of_tHours (hn : 1 ≤ timeSteps) (i : Nat) :
    (Simulation.of math params crack timeHorizonHours timeSteps).tHours i =
      i * timeHorizonHours / timeSteps := by
  have hnpos : (0 : R) < timeSteps := Int.cast_pos.mpr (by omega)
  simp only [Simulation.tHours, Simulation.of]
  field_simp

/-- Whatever the crack, the series of a prediction have this shape. -/
theorem predict_shape (hH : 1 ≤ timeHorizonHours) (hn : 1 ≤ timeSteps) (hC : 0 ≤ params.C)
    (hfrequency : 0 ≤ params.cyclicFrequency) (hpow : ∀ x y, 0 < x → 0 ≤ math.pow x y) :
    ∃ result, predict math params crack timeHorizonHours timeSteps = .ok result ∧
      ∃ count, (Simulation.of math params crack timeHorizonHours timeSteps).Shape
        (criticalCrackLength math params) timeHorizonHours timeSteps count result := by
  obtain ⟨result, hresult, hpredicted, hfailure⟩ := predict_predicted math params crack
    (show timeHorizonHours ≠ 0 by omega) (show 0 ≤ timeSteps by omega)
  let sim := Simulation.of math params crack timeHorizonHours timeSteps
  let criticalLength := criticalCrackLength math params
  change sim.Predicted (sim.recorded criticalLength timeSteps.toNat sim.start) _ result
    at hpredicted
  have hdt : 0 < sim.dt := Simulation.of_dt_pos math crack hH hn
  have hmono : Monotone sim.lengthAt :=
    sim.monotone_lengthAt hdt.le (growthPerSecond_nonneg math hC hfrequency hpow)
  have hone := sim.recorded_pos criticalLength timeSteps.toNat
  have hle := sim.recorded_le criticalLength timeSteps.toNat
  refine ⟨result, hresult, sim.recorded criticalLength timeSteps.toNat sim.start, ?_⟩
  constructor
  case timeHours_length => rw [hpredicted.timeHours, List.length_map, List.length_range]
  case crackLength_length => rw [hpredicted.crackLength, List.length_map, List.length_range]
  case crackDepth_length => rw [hpredicted.crackDepth, List.length_map, List.length_range]
  case crackWidth_length => rw [hpredicted.crackWidth, List.length_map, List.length_range]
  case stressIntensityRange_length => exact hpredicted.stressIntensityRange
  case crackGrowthRate_length => exact hpredicted.crackGrowthRate
  case one_le => exact hone
  case le_steps => omega
  case time =>
    intro i t ht
    obtain ⟨_, rfl⟩ := hpredicted.time_entry.mp ht
    exact Simulation.of_tHours math crack hn i
  case grows =>
    intro i j a b hij ha hb
    obtain ⟨_, rfl⟩ := hpredicted.length_entry.mp ha
    obtain ⟨_, rfl⟩ := hpredicted.length_entry.mp hb
    exact hmono hij
  case depth =>
    intro i a d ha hd
    rw [hpredicted.crackDepth] at hd
    obtain ⟨_, rfl⟩ := hpredicted.length_entry.mp ha
    obtain ⟨_, rfl⟩ := getElem?_map_range.mp hd
    ring
  case width =>
    intro i a w ha hw
    rw [hpredicted.crackWidth] at hw
    obtain ⟨_, rfl⟩ := hpredicted.length_entry.mp ha
    obtain ⟨_, rfl⟩ := getElem?_map_range.mp hw
    ring
  case below =>
    intro i a ha
    obtain ⟨hi, rfl⟩ := hpredicted.length_entry.mp ha
    exact sim.recorded_short criticalLength timeSteps.toNat hi
  case broke =>
    intro hcount
    rcases sim.recorded_cases criticalLength timeSteps.toNat with
      ⟨hall, _⟩ | ⟨j, hj, hbreak, hlong, _, hfail⟩
    · omega
    · rw [hfail] at hfailure
      have hlast : sim.recorded criticalLength timeSteps.toNat sim.start - 1 = j := by omega
      refine ⟨sim.lengthAt j, sim.tHours j, ?_, ?_, ?_, hfailure ?_⟩
      · exact hpredicted.length_entry.mpr ⟨by omega, by rw [hlast]⟩
      · exact hpredicted.time_entry.mpr ⟨by omega, by rw [hlast]⟩
      · rwa [← sim.lengthAt_succ]
      · cases j with
        | zero => simp [Simulation.tHours]
        | succ j => exact (sim.tHours_pos hdt j).le

end Shape

theorem predict_shape_unmeasured :
    ∃ result, predict cmath .default unmeasuredCrack 720 100 = .ok result ∧
      ∃ count, (Simulation.of cmath .default unmeasuredCrack 720 100).Shape
        (criticalCrackLength cmath .default) 720 100 count result :=
  predict_shape cmath unmeasuredCrack (by decide) (by decide)
    (by norm_num [ParisLawParameters.default]) (by norm_num [ParisLawParameters.default])
    fun _ _ hx => Real.rpow_nonneg hx.le _

/-! ## The sample of the figures -/

section Figures

variable {timeHorizonHours timeSteps : Int}

/-- Steps that fit into `int` leave the index unwrapped. -/
theorem index720_eq (hn : 1 ≤ timeSteps) (hfit : 720 * timeSteps < 2 ^ 31) :
    index720 timeHorizonHours timeSteps =
      min timeSteps (720 * timeSteps / timeHorizonHours) := by
  have hint : toInt32 (720 * timeSteps) = 720 * timeSteps := by
    rw [toInt32, Int.bmod_eq_of_le (by omega) (by omega)]
  rw [index720, hint, Int.tdiv_eq_ediv_of_nonneg (by omega)]

theorem index720_nonneg (hH : 1 ≤ timeHorizonHours) (hn : 1 ≤ timeSteps)
    (hfit : 720 * timeSteps < 2 ^ 31) : 0 ≤ index720 timeHorizonHours timeSteps := by
  rw [index720_eq hn hfit]
  exact le_min (by omega) (Int.ediv_nonneg (by omega) (by omega))

variable [IsStrictOrderedRing R] (math : CMath R) (params : ParisLawParameters R)
  (crack : CrackInfo R)

/-- The index is the last of the steps that are not later than 720 hours. -/
theorem le_index720_iff (hH : 1 ≤ timeHorizonHours) (hn : 1 ≤ timeSteps)
    (hfit : 720 * timeSteps < 2 ^ 31) {i : Nat} (hi : (i : Int) ≤ timeSteps) :
    i ≤ (index720 timeHorizonHours timeSteps).toNat ↔
      (i : R) * timeHorizonHours / timeSteps ≤ 720 := by
  have hnpos : (0 : R) < timeSteps := Int.cast_pos.mpr (by omega)
  have hnonneg : 0 ≤ 720 * timeSteps / timeHorizonHours := Int.ediv_nonneg (by omega) (by omega)
  calc i ≤ (index720 timeHorizonHours timeSteps).toNat
      ↔ (i : Int) ≤ 720 * timeSteps / timeHorizonHours := by
        rw [index720_eq hn hfit]
        omega
    _ ↔ (i : Int) * timeHorizonHours ≤ 720 * timeSteps := Int.le_ediv_iff_mul_le (by omega)
    _ ↔ (i : R) * timeHorizonHours ≤ 720 * timeSteps := by
        rw [← Int.cast_le (R := R)]
        push_cast
        rfl
    _ ↔ (i : R) * timeHorizonHours / timeSteps ≤ 720 := (div_le_iff₀ hnpos).symm

/-- The figures are those of the last recorded sample that is not later than 720
hours. -/
theorem predict_720h (hH : 1 ≤ timeHorizonHours) (hn : 1 ≤ timeSteps)
    (hfit : 720 * timeSteps < 2 ^ 31) :
    ∃ result, predict math params crack timeHorizonHours timeSteps = .ok result ∧
      ∃ i < result.crackLength.length, (i : R) * timeHorizonHours / timeSteps ≤ 720 ∧
        (∀ j < result.crackLength.length, i < j →
          720 < (j : R) * timeHorizonHours / timeSteps) ∧
        result.crackLength[i]? = some result.predictedLength720h ∧
        result.crackDepth[i]? = some result.predictedDepth720h ∧
        result.crackWidth[i]? = some result.predictedWidth720h := by
  obtain ⟨result, hresult, hpredicted, -⟩ := predict_predicted math params crack
    (show timeHorizonHours ≠ 0 by omega) (show 0 ≤ timeSteps by omega)
  let sim := Simulation.of math params crack timeHorizonHours timeSteps
  let criticalLength := criticalCrackLength math params
  let count := sim.recorded criticalLength timeSteps.toNat sim.start
  change sim.Predicted count _ result at hpredicted
  have hone : 1 ≤ count := sim.recorded_pos criticalLength timeSteps.toNat
  have hle : count ≤ timeSteps.toNat + 1 := sim.recorded_le criticalLength timeSteps.toNat
  obtain ⟨i, hi, hfigures⟩ := hpredicted.figures (index720_nonneg hH hn hfit)
  have hlength : result.crackLength.length = count := by
    rw [hpredicted.crackLength, List.length_map, List.length_range]
  refine ⟨result, hresult, ?_⟩
  rw [hlength]
  refine ⟨i, by omega, ?_, fun j hj hij => ?_, hfigures⟩
  · exact (le_index720_iff hH hn hfit (by omega)).mp (by omega)
  · refine not_le.mp fun hlate => ?_
    have := (le_index720_iff hH hn hfit (by omega)).mpr hlate
    omega

end Figures

/-- The figures of a prediction over one hour more than a month. -/
theorem predict_720h_unmeasured :
    ∃ result, predict cmath .default unmeasuredCrack 721 100 = .ok result ∧
      ∃ i < result.crackLength.length, (i : ℝ) * (721 : Int) / (100 : Int) ≤ 720 ∧
        (∀ j < result.crackLength.length, i < j → 720 < (j : ℝ) * (721 : Int) / (100 : Int)) ∧
        result.crackLength[i]? = some result.predictedLength720h ∧
        result.crackDepth[i]? = some result.predictedDepth720h ∧
        result.crackWidth[i]? = some result.predictedWidth720h :=
  predict_720h cmath .default unmeasuredCrack (by decide) (by decide) (by decide)

end PorcelainMonitor.Algorithms
