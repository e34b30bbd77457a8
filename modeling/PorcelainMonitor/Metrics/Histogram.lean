import PorcelainMonitor.Metrics.Exposition

/-!
# Histograms

`observe_histogram` counts a value in every bucket whose bound it does not
exceed, so the buckets are cumulative (`buckets_observed`).  `serialize` sums them
up once more, so what it shows for a bound is the sum of all counts up to there
(`running`), and that is the count of the bound only where all buckets before are
empty.
-/

namespace PorcelainMonitor.Metrics

/-! ## Sums of counts -/

section Running

variable {α : Type}

/-- The sums of the counts up to each item, `n` of them before. -/
def running (count : α → Nat) : Nat → List α → List (α × Nat)
  | _, [] => []
  | n, x :: xs => (x, n + count x) :: running count (n + count x) xs

/-- The sums are the counts where nothing is counted in front of the last. -/
theorem running_eq_iff {count : α → Nat} {n : Nat} {xs : List α} :
    running count n xs = xs.map (fun x => (x, count x)) ↔
      xs = [] ∨ (n = 0 ∧ ∀ x ∈ xs.dropLast, count x = 0) := by
  induction xs generalizing n with
  | nil => exact ⟨fun _ => .inl rfl, fun _ => rfl⟩
  | cons x xs ih =>
      rw [running, List.map_cons, List.cons.injEq, ih, Prod.mk.injEq]
      cases xs with
      | nil => simp
      | cons y ys =>
          simp only [List.dropLast_cons_cons, List.mem_cons, reduceCtorEq, false_or, true_and,
            forall_eq_or_imp]
          constructor
          · rintro ⟨hx, hn, hrest⟩
            exact ⟨by omega, by omega, hrest⟩
          · rintro ⟨rfl, hx, hrest⟩
            exact ⟨by omega, by omega, hrest⟩

end Running

/-! ## Observing -/

section Observing

variable {R : Type}

/-- The values observed, whatever they were observed as. -/
def observations (calls : List (Call R)) : List R :=
  calls.filterMap fun
    | .observeHistogram _ value _ => some value
    | _ => none

/-- A history whose histogram calls all have this name and these labels. -/
def OnlyObserves (m : Meta) (calls : List (Call R)) : Prop :=
  ∀ c ∈ calls, c.kind = .histogram → c.record = m

theorem recorded_ne_nil {calls : List (Call R)} :
    recorded .histogram calls ≠ [] ↔ observations calls ≠ [] := by
  induction calls with
  | nil => exact ⟨fun h => absurd rfl h, fun h => absurd rfl h⟩
  | cons c calls ih =>
      cases c with
      | incrementCounter name value labels => exact ih
      | setGauge name value labels => exact ih
      | observeHistogram name value labels =>
          exact ⟨fun _ => List.cons_ne_nil _ _, fun _ => List.cons_ne_nil _ _⟩

variable [Field R] [LinearOrder R]

/-- How many values the bucket of a bound has to show. -/
def countUpTo (values : List R) (bound : R) : Nat := values.countP fun value => value ≤ bound

/-- The data of a histogram after these observations. -/
def observed (values : List R) : HistogramData R :=
  values.foldl HistogramData.observe .empty

theorem observed_concat (values : List R) (value : R) :
    observed (values ++ [value]) = (observed values).observe value := by
  rw [observed, List.foldl_append]
  rfl

theorem count_observed (values : List R) : (observed values).count = values.length := by
  induction values using List.reverseRecOn with
  | nil => rfl
  | append_singleton values value ih =>
      rw [observed_concat, List.length_append, List.length_singleton, Nat.cast_add, ← ih]
      rfl

/-- A bucket holds the number of values up to its bound. -/
theorem buckets_observed (values : List R) :
    (observed values).buckets = bounds.map fun b => (countUpTo values b : R) := by
  induction values using List.reverseRecOn with
  | nil =>
      have hzero : (fun b : R => (countUpTo [] b : R)) = fun _ => 0 := by
        funext b
        exact Nat.cast_zero
      rw [hzero]
      rfl
  | append_singleton values value ih =>
      have hstep : ∀ b : R, (countUpTo (values ++ [value]) b : R) =
          if value ≤ b then (countUpTo values b : R) + 1 else (countUpTo values b : R) := by
        intro b
        rw [countUpTo, List.countP_append, List.countP_singleton, ← countUpTo]
        by_cases h : value ≤ b
        · simp [h]
        · simp [h]
      rw [observed_concat, HistogramData.observe, ih, List.zipWith_map_right, List.zipWith_self]
      exact List.map_congr_left fun b _ => (hstep b).symm

/-- Its observations are all in one histogram. -/
theorem histograms_run {m : Meta} {calls : List (Call R)} (h : OnlyObserves m calls) :
    ((run calls).histograms.lookup m.key).getD .empty = observed (observations calls) := by
  induction calls using List.reverseRecOn with
  | nil => rfl
  | append_singleton calls c ih =>
      have hcalls := ih fun c hc => h c (List.mem_append_left _ hc)
      have hc := h c (List.mem_append_right _ List.mem_cons_self)
      rw [run_concat, observations, List.filterMap_append]
      cases c with
      | incrementCounter name value labels =>
          rw [List.filterMap_cons, List.filterMap_nil, List.append_nil]
          exact hcalls
      | setGauge name value labels =>
          rw [List.filterMap_cons, List.filterMap_nil, List.append_nil]
          exact hcalls
      | observeHistogram name value labels =>
          obtain rfl := hc rfl
          rw [List.filterMap_cons, List.filterMap_nil]
          refine Eq.trans ?_ (observed_concat _ value).symm
          rw [← observations, ← hcalls, Registry.apply, Registry.observeHistogram]
          dsimp only [Meta.key, Call.record]
          rw [AList.lookup_insert, Option.getD_some]

theorem entries_of_onlyObserves (it : Kind → Iteration) {m : Meta} {calls : List (Call R)}
    (h : OnlyObserves m calls) (hne : observations calls ≠ []) :
    entries it .histogram calls = [⟨m.key, m⟩] := by
  have hrecorded : ∀ m' ∈ recorded .histogram calls, m' = m := by
    intro m' hm'
    obtain ⟨c, hc, hkind, rfl⟩ := mem_recorded.mp hm'
    exact h c hc hkind
  have htable : LastWrite.table Meta.key (recorded .histogram calls) = AList.singleton m.key m :=
    LastWrite.table_of_forall_eq (recorded_ne_nil.mpr hne) hrecorded
  rw [entries, metaOf_run, htable]
  exact List.perm_singleton.mp ((it .histogram).perm _)

end Observing

/-! ## The bounds -/

section Bounds

variable {R : Type} [LinearOrder R]

theorem countUpTo_mono (values : List R) {b b' : R} (h : b ≤ b') :
    countUpTo values b ≤ countUpTo values b' := by
  refine List.countP_mono_left fun value _ hvalue => ?_
  exact decide_eq_true ((of_decide_eq_true hvalue).trans h)

variable [Field R] [IsStrictOrderedRing R]

theorem bounds_sorted : (bounds : List R).Pairwise (· ≤ ·) := by
  simp only [bounds, List.pairwise_cons, List.mem_cons, List.not_mem_nil, or_false,
    forall_eq_or_imp, forall_eq, List.Pairwise.nil, and_true, false_imp_iff, implies_true]
  norm_num

/-- The largest bound but one is 1. -/
theorem le_one_of_mem_dropLast {b : R} (h : b ∈ (bounds : List R).dropLast) : b ≤ 1 := by
  simp only [bounds, List.dropLast_cons_cons, List.dropLast_singleton, List.mem_cons,
    List.not_mem_nil, or_false] at h
  rcases h with rfl | rfl | rfl | rfl | rfl | rfl | rfl <;> norm_num

theorem countUpTo_eq_zero {values : List R} :
    (∀ b ∈ (bounds : List R).dropLast, countUpTo values b = 0) ↔ ∀ value ∈ values, 1 < value := by
  simp only [countUpTo, List.countP_eq_zero, decide_eq_true_eq, not_le]
  constructor
  · exact fun h value hvalue => h 1 (by simp [bounds]) value hvalue
  · exact fun h b hb value hvalue => (le_one_of_mem_dropLast hb).trans_lt (h value hvalue)

/-- The sums are what is to be shown where no value lies up to the bound 1. -/
theorem running_bounds_iff {values : List R} :
    (running (countUpTo values) 0 bounds).map (fun q => (some q.1, (q.2 : Int))) =
      bounds.map (fun b => (some b, (countUpTo values b : Int))) ↔ ∀ value ∈ values, 1 < value := by
  have hinj : Function.Injective fun q : R × Nat => (some q.1, (q.2 : Int)) := by
    rintro ⟨b, n⟩ ⟨b', n'⟩ h
    obtain ⟨hb, hn⟩ := Prod.mk.inj h
    exact Prod.ext (Option.some.inj hb) (Int.ofNat.inj hn)
  have hmap : bounds.map (fun b : R => (some b, (countUpTo values b : Int))) =
      (bounds.map fun b : R => (b, countUpTo values b)).map fun q => (some q.1, (q.2 : Int)) := by
    rw [List.map_map]
    rfl
  rw [hmap, (List.map_injective_iff.mpr hinj).eq_iff, running_eq_iff, ← countUpTo_eq_zero]
  constructor
  · rintro (hnil | ⟨_, h⟩)
    · exact absurd hnil (List.cons_ne_nil _ _)
    · exact h
  · exact fun h => .inr ⟨rfl, h⟩

/-- The numbers that are to be shown are in order. -/
theorem counts_sorted (values : List R) :
    ((bounds.map (fun b => (some b, (countUpTo values b : Int)))
      ++ [(none, (values.length : Int))]).map Prod.snd).Pairwise (· ≤ ·) := by
  rw [List.map_append, List.map_map, List.pairwise_append, List.pairwise_map]
  refine ⟨?_, List.pairwise_singleton _ _, ?_⟩
  · exact bounds_sorted.imp fun h => Int.ofNat_le.mpr (countUpTo_mono values h)
  · intro n hn k hk
    obtain ⟨b, _, rfl⟩ := List.mem_map.mp hn
    obtain rfl := List.mem_singleton.mp hk
    exact Int.ofNat_le.mpr List.countP_le_length

end Bounds

/-! ## Reports -/

section Reports

variable {R : Type}

/-- The bound and the value of a bucket line of this record. -/
def Line.bucketOf (m : Meta) : Line R → Option (Option R × Int)
  | sample ⟨.histogram, m', .bucket bound, _, .integer n⟩ =>
      if m' = m then some (bound, n) else none
  | _ => none

def Line.countOf (m : Meta) : Line R → Option Int
  | sample ⟨.histogram, m', .count, _, .integer n⟩ => if m' = m then some n else none
  | _ => none

/-- What the bucket lines of a record show, from the lowest bound to `+Inf`. -/
def bucketReport (lines : List (Line R)) (m : Meta) : List (Option R × Int) :=
  lines.filterMap (Line.bucketOf m)

def countReport (lines : List (Line R)) (m : Meta) : List Int := lines.filterMap (Line.countOf m)

variable [Field R] [LinearOrder R]

/-- The buckets show how many values there are up to their bounds, so they are in
order and end with the number of all values. -/
structure Reported (lines : List (Line R)) (m : Meta) (values : List R) : Prop where
  buckets : bucketReport lines m =
    bounds.map (fun b => (some b, (countUpTo values b : Int))) ++ [(none, (values.length : Int))]
  sorted : ((bucketReport lines m).map Prod.snd).Pairwise (· ≤ ·)
  count : countReport lines m = [(values.length : Int)]

theorem report_scalarLines {α : Type} (f : Line R → Option α) (it : Kind → Iteration) (kind : Kind)
    (values : AList fun _ : Text => R) (calls : List (Call R))
    (h : ∀ value m, (valueLines kind value m).filterMap f = []) :
    (scalarLines it kind values calls).filterMap f = [] := by
  rw [scalarLines, List.filterMap_flatMap]
  exact List.flatMap_eq_nil_iff.mpr fun e _ => h _ e.2

variable [FloorRing R] {p : Printer R}

theorem countReport_bucketLines (isFixed : Bool) (m : Meta) (rest : Text) (cum : R)
    (buckets : List (R × R)) : countReport (bucketLines p isFixed m rest cum buckets) m = [] := by
  induction buckets generalizing cum with
  | nil => rfl
  | cons b buckets ih =>
      rw [bucketLines, countReport, List.filterMap_cons]
      exact ih (cum + b.2)

theorem serialize_unlabelled (p : Printer R) (it : Kind → Iteration) (ts : Int) {m : Meta}
    {calls : List (Call R)} (h : OnlyObserves m calls) (hne : observations calls ≠ [])
    (hlabels : m.labels = []) (lines : List (Line R)) :
    serialize p it ts (run calls) ≠ .ok lines := by
  rw [serialize_eq, entries_of_onlyObserves it h hne, allHistogramLines, histogramLines, hlabels]
  intro hok
  cases hok

variable [IsStrictOrderedRing R]

theorem truncate_natCast (n : Nat) : truncate (n : R) = n := by
  rw [truncate, if_pos (Nat.cast_nonneg n), Int.floor_natCast]

/-- The loop over the buckets shows the sums of the counts. -/
theorem bucketReport_bucketLines (isFixed : Bool) (m : Meta) (rest : Text) (count : R → Nat)
    (n : Nat) (bs : List R) :
    bucketReport (bucketLines p isFixed m rest (n : R) (bs.map fun b => (b, (count b : R)))) m =
      (running count n bs).map fun q => (some q.1, (q.2 : Int)) := by
  induction bs generalizing n with
  | nil => rfl
  | cons b bs ih =>
      have hline : Line.bucketOf m (.sample ⟨.histogram, m, .bucket (some b),
          bucketSeries m.name (p.double isFixed b) rest, .integer (truncate ((n : R) + count b))⟩) =
            some (some b, ((n + count b : Nat) : Int)) := by
        rw [← Nat.cast_add, truncate_natCast, Line.bucketOf, if_pos rfl]
      rw [List.map_cons, bucketLines, bucketReport, List.filterMap_cons, hline, running,
        List.map_cons, ← Nat.cast_add, ← ih]
      rfl

/-- What a history shows that observes one histogram, with labels. -/
theorem report_onlyObserves (p : Printer R) (it : Kind → Iteration) (ts : Int) {m : Meta}
    {calls : List (Call R)} (h : OnlyObserves m calls) (hne : observations calls ≠ [])
    (hlabels : m.labels ≠ []) : ∃ lines, serialize p it ts (run calls) = .ok lines ∧
      bucketReport lines m =
        (running (countUpTo (observations calls)) 0 bounds).map (fun q => (some q.1, (q.2 : Int)))
          ++ [(none, ((observations calls).length : Int))] ∧
      countReport lines m = [((observations calls).length : Int)] := by
  obtain ⟨c, rest, hrest⟩ := List.exists_cons_of_ne_nil hlabels
  have hzip : bounds.zip (observed (observations calls)).buckets =
      bounds.map fun b => (b, (countUpTo (observations calls) b : R)) := by
    rw [buckets_observed, List.map_prod_left_eq_zip]
  have hbuckets := bucketReport_bucketLines (p := p) (fixedBefore it calls) m rest
    (countUpTo (observations calls)) 0 bounds
  rw [Nat.cast_zero, bucketReport] at hbuckets
  have hcounts := countReport_bucketLines (p := p) (fixedBefore it calls) m rest 0
    (bounds.map fun b => (b, (countUpTo (observations calls) b : R)))
  rw [countReport] at hcounts
  rw [serialize_eq, entries_of_onlyObserves it h hne, allHistogramLines, histograms_run h,
    histogramLines, hrest, hzip, count_observed]
  refine ⟨_, rfl, ?_, ?_⟩
  · simp only [bucketReport, List.filterMap_append,
      report_scalarLines (Line.bucketOf m) it .counter _ calls fun _ _ => rfl,
      report_scalarLines (Line.bucketOf m) it .gauge _ calls fun _ _ => rfl, hbuckets]
    simp [List.filterMap_cons, Line.bucketOf]
  · simp only [countReport, List.filterMap_append,
      report_scalarLines (Line.countOf m) it .counter _ calls fun _ _ => rfl,
      report_scalarLines (Line.countOf m) it .gauge _ calls fun _ _ => rfl, hcounts]
    simp [List.filterMap_cons, Line.countOf]

/-- With labels, the counts are those of the observations where these are above 1. -/
theorem reported_iff (p : Printer R) (it : Kind → Iteration) (ts : Int) {m : Meta}
    {calls : List (Call R)} (h : OnlyObserves m calls) (hne : observations calls ≠ [])
    (hlabels : m.labels ≠ []) :
    (∃ lines, serialize p it ts (run calls) = .ok lines ∧
      Reported lines m (observations calls)) ↔ ∀ value ∈ observations calls, 1 < value := by
  obtain ⟨lines, hlines, hbuckets, hcount⟩ := report_onlyObserves p it ts h hne hlabels
  constructor
  · rintro ⟨lines', hlines', hreported⟩
    rw [hlines] at hlines'
    obtain rfl := Except.ok.inj hlines'
    have hreport := hreported.buckets
    rw [hbuckets, List.append_left_inj] at hreport
    exact running_bounds_iff.mp hreport
  · intro hvalues
    rw [running_bounds_iff.mpr hvalues] at hbuckets
    refine ⟨lines, hlines, hbuckets, ?_, hcount⟩
    rw [hbuckets]
    exact counts_sorted (observations calls)

/-- A histogram is served with its counts exactly if it has labels and no value up
to the bound 1 was observed. -/
theorem histogram_reported_iff (p : Printer R) (it : Kind → Iteration) (ts : Int) {m : Meta}
    {calls : List (Call R)} (h : OnlyObserves m calls) :
    (∃ lines, serialize p it ts (run calls) = .ok lines ∧
      (observations calls ≠ [] → Reported lines m (observations calls))) ↔
    observations calls = [] ∨ (m.labels ≠ [] ∧ ∀ value ∈ observations calls, 1 < value) := by
  by_cases hne : observations calls = []
  · have hno : ∀ c ∈ calls, c.kind ≠ .histogram := by
      intro c hc hkind
      have hmem := mem_recorded.mpr ⟨c, hc, hkind, rfl⟩
      rw [not_imp_not.mp recorded_ne_nil.mp hne] at hmem
      cases hmem
    constructor
    · exact fun _ => .inl hne
    · exact fun _ => ⟨_, serialize_of_no_histogram p it ts hno, fun hne' => absurd hne hne'⟩
  by_cases hlabels : m.labels = []
  · constructor
    · rintro ⟨lines, hlines, _⟩
      exact absurd hlines (serialize_unlabelled p it ts h hne hlabels lines)
    · rintro (hnil | ⟨hlabels', _⟩)
      · exact absurd hnil hne
      · exact absurd hlabels hlabels'
  have hiff := reported_iff p it ts h hne hlabels
  constructor
  · rintro ⟨lines, hlines, hreported⟩
    exact .inr ⟨hlabels, hiff.mp ⟨lines, hlines, hreported hne⟩⟩
  · rintro (hnil | ⟨_, hvalues⟩)
    · exact absurd hnil hne
    · obtain ⟨lines, hlines, hreported⟩ := hiff.mpr hvalues
      exact ⟨lines, hlines, fun _ => hreported⟩

end Reports

/-- One observation with labels. -/
def latency : Meta := ⟨"latency".toList, "\x7bk=\"v\"\x7d".toList⟩

def observeLatency (value : ℚ) : List (Call ℚ) :=
  [.observeHistogram latency.name value latency.labels]

theorem onlyObserves_latency (value : ℚ) : OnlyObserves latency (observeLatency value) := by
  intro c hc _
  obtain rfl := List.mem_singleton.mp hc
  rfl

/-- A value above all bounds. -/
theorem histogram_reported_latency : OnlyObserves latency (observeLatency 8) ∧
    ((∃ lines, serialize decimalPrinter asKept 0 (run (observeLatency 8)) = .ok lines ∧
      (observations (observeLatency 8) ≠ [] →
        Reported lines latency (observations (observeLatency 8)))) ↔
      observations (observeLatency 8) = [] ∨
        (latency.labels ≠ [] ∧ ∀ value ∈ observations (observeLatency 8), 1 < value)) :=
  ⟨onlyObserves_latency 8,
    histogram_reported_iff decimalPrinter asKept 0 (onlyObserves_latency 8)⟩

/-- A value below all bounds is counted once for every bucket up to the one shown. -/
theorem small_value_is_counted_again :
    ¬ ∀ (p : Printer ℚ) (it : Kind → Iteration) (ts : Int) (m : Meta) (calls : List (Call ℚ)),
      OnlyObserves m calls → ∃ lines, serialize p it ts (run calls) = .ok lines ∧
        (observations calls ≠ [] → Reported lines m (observations calls)) := by
  intro h
  have hne : observations (observeLatency (1 / 2000)) ≠ [] := List.cons_ne_nil _ _
  have honly := onlyObserves_latency (1 / 2000)
  obtain ⟨lines, hlines, hreported⟩ := h decimalPrinter asKept 0 latency _ honly
  have hlabels : latency.labels ≠ [] := by decide
  have hlarge := (reported_iff decimalPrinter asKept 0 honly hne hlabels).mp
    ⟨lines, hlines, hreported hne⟩ (1 / 2000) List.mem_cons_self
  norm_num at hlarge

end PorcelainMonitor.Metrics
