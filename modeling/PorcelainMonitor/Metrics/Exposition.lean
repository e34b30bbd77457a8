import Mathlib.Data.Rat.Floor
import PorcelainMonitor.Lib.Decimal
import PorcelainMonitor.Lib.ExpositionFormat
import PorcelainMonitor.Metrics.History

/-!
# The served metrics

What is asked of the text that `serialize` makes of a history: it is there, it
has one `TYPE` line for a name and one sample for a counter or a gauge, and its
samples have the form of the exposition format.

Counters and gauges meet that if their names and labels do (`Exposable`).  A
histogram does not: without labels `substr(1)` throws, and with labels its bucket
lines are ill formed.
-/

namespace PorcelainMonitor.Metrics

open ExpositionFormat

/-! ## What is asked -/

section Form

variable {R : Type}

def Line.typeName : Line R → Option Text
  | type name _ => some name
  | _ => none

def Line.sample? : Line R → Option (Sample R)
  | sample s => some s
  | _ => none

/-- The names that have a `TYPE` line. -/
def typeNames (lines : List (Line R)) : List Text := lines.filterMap Line.typeName

def samples (lines : List (Line R)) : List (Sample R) := lines.filterMap Line.sample?

/-- The lines that a history is served as are well formed. -/
structure WellFormed (p : Printer R) (calls : List (Call R)) (lines : List (Line R)) : Prop where
  types : ∀ name, (typeNames lines).count name ≤ 1
  once : ∀ kind, kind ≠ .histogram → ∀ m ∈ recorded kind calls,
    (samples lines).countP (fun s => s.kind = kind && s.record = m) = 1
  form : ∀ s ∈ samples lines, IsSample (s.text p)

/-- An argument for the labels: none, or one label in braces. -/
def LabelArgument (labels : Text) : Prop :=
  labels = [] ∨ ∃ k v : Text, labels = '{' :: (k ++ ['=', '"'] ++ v ++ ['"'] ++ ['}'])

/-- What the calls of a history have to keep to. -/
structure Exposable (calls : List (Call R)) : Prop where
  no_histogram : ∀ c ∈ calls, c.kind ≠ .histogram
  series : ∀ c ∈ calls, IsSeries c.record.key
  one_key : ∀ c ∈ calls, ∀ c' ∈ calls, c.kind = c'.kind → c.record.key = c'.record.key →
    c.record = c'.record
  one_name : ∀ c ∈ calls, ∀ c' ∈ calls, c.record.name = c'.record.name →
    c.kind = c'.kind ∧ c.record = c'.record

end Form

/-! ## Texts of numbers -/

section Numbers

variable {R : Type} (p : Printer R)

theorem isNumber_toString (n : Int) : IsNumber (toString n).toList := by
  have hdigit : ∀ {k : Nat} {c : Char}, c ∈ Nat.toDigits 10 k → c ≠ ' ' ∧ c ≠ '\n' := by
    intro k c hc
    have hc' := Decimal.isDigit_of_mem hc
    constructor
    · rintro rfl
      cases hc'
    · rintro rfl
      cases hc'
  rw [Decimal.toList_toString]
  split
  · exact ⟨Nat.toDigits_ne_nil, fun c hc => hdigit hc⟩
  · refine ⟨List.cons_ne_nil _ _, fun c hc => ?_⟩
    rcases List.mem_cons.mp hc with rfl | hc
    · exact ⟨by decide, by decide⟩
    · exact hdigit hc

theorem isNumber_text (v : Value R) : IsNumber (v.text p) := by
  cases v with
  | double x => exact ⟨p.double_ne true x, p.double_plain true x⟩
  | integer n => exact isNumber_toString n

theorem isSample_text (s : Sample R) : IsSample (s.text p) ↔ IsSeries s.series :=
  isSample_iff (isNumber_text p s.value)

end Numbers

/-! ## Counters and gauges -/

section Scalars

variable {R : Type} [Field R] [LinearOrder R]

theorem typeNames_scalarLines (it : Kind → Iteration) (kind : Kind)
    (values : AList fun _ : Text => R) (calls : List (Call R)) :
    typeNames (scalarLines it kind values calls) = (shown it kind calls).map Meta.name := by
  rw [typeNames, scalarLines, List.filterMap_flatMap, shown, List.map_map]
  exact List.map_eq_flatMap.symm

/-- The sample of an entry. -/
def sampleOf (kind : Kind) (values : AList fun _ : Text => R) (e : Sigma fun _ : Text => Meta) :
    Sample R :=
  ⟨kind, e.2, .value, e.2.name ++ e.2.labels, .double ((values.lookup e.1).getD 0)⟩

theorem samples_scalarLines (it : Kind → Iteration) (kind : Kind)
    (values : AList fun _ : Text => R) (calls : List (Call R)) :
    samples (scalarLines it kind values calls) =
      (entries it kind calls).map (sampleOf kind values) := by
  rw [samples, scalarLines, List.filterMap_flatMap]
  exact List.map_eq_flatMap.symm

end Scalars

/-! ## Histograms -/

section Histograms

variable {R : Type} [Field R] [LinearOrder R] [FloorRing R] {p : Printer R}

theorem substr1_ok {labels rest : Text} (h : substr1 labels = .ok rest) :
    ∃ c, labels = c :: rest := by
  cases labels with
  | nil => cases h
  | cons c cs =>
      cases h
      exact ⟨c, rfl⟩

/-- Every histogram that is served has labels, and a bucket for `+Inf`. -/
theorem exists_inf_bucket {histograms : AList fun _ : Text => HistogramData R} :
    ∀ {isFixed : Bool} {es : List (Sigma fun _ : Text => Meta)} {lines : List (Line R)},
      allHistogramLines p histograms isFixed es = .ok lines → ∀ e ∈ es, ∃ c rest n,
        e.2.labels = c :: rest ∧
        Line.sample ⟨.histogram, e.2, .bucket none, bucketSeries e.2.name "+Inf".toList rest, n⟩ ∈
          lines
  | isFixed, [], lines, h, e, he => by cases he
  | isFixed, ⟨key, m⟩ :: es, lines, h, e, he => by
      rw [allHistogramLines, histogramLines] at h
      cases hsub : substr1 m.labels with
      | error e =>
          rw [hsub] at h
          cases h
      | ok rest =>
          obtain ⟨c, hc⟩ := substr1_ok hsub
          rw [hsub] at h
          cases hrec : allHistogramLines p histograms true es with
          | error e =>
              rw [hrec] at h
              cases h
          | ok more =>
              rw [hrec] at h
              cases h
              rcases List.mem_cons.mp he with rfl | he
              · refine ⟨c, rest, .integer ((histograms.lookup key).getD .empty).count, hc, ?_⟩
                exact List.mem_append_left more (List.mem_append_right _ List.mem_cons_self)
              · obtain ⟨c', rest', n, hlabels, hmem⟩ := exists_inf_bucket hrec e he
                exact ⟨c', rest', n, hlabels, List.mem_append_right _ hmem⟩

/-- The bucket of a label in braces is no series. -/
theorem not_isSeries_bucket {m : Meta} (hm : LabelArgument m.labels) {c : Char} {rest bound : Text}
    (hlabels : m.labels = c :: rest) : ¬ IsSeries (bucketSeries m.name bound rest) := by
  rcases hm with hnil | ⟨k, v, hbraces⟩
  · rw [hnil] at hlabels
    cases hlabels
  · have hrest : rest = k ++ ['=', '"'] ++ v ++ ['"'] ++ ['}'] := by
      rw [hbraces] at hlabels
      exact (List.cons.inj hlabels).2.symm
    intro hseries
    refine not_isSeries_braces
      (m.name ++ "_bucket\x7ble=\"".toList ++ bound ++ ['"'] ++ (k ++ ['=', '"'] ++ v ++ ['"'])) ?_
    rw [bucketSeries, hrest] at hseries
    simpa only [List.append_assoc, List.cons_append, List.nil_append] using hseries

end Histograms

/-! ## Histories without histograms -/

section Served

variable {R : Type} [Field R] [LinearOrder R]

/-- The lines of the counters and the gauges. -/
def served (it : Kind → Iteration) (ts : Int) (calls : List (Call R)) : List (Line R) :=
  scalarLines it .counter (run calls).counters calls
    ++ scalarLines it .gauge (run calls).gauges calls ++ [] ++ [.eof ts]

theorem typeNames_served (it : Kind → Iteration) (ts : Int) (calls : List (Call R)) :
    typeNames (served it ts calls) =
      (shown it .counter calls).map Meta.name ++ (shown it .gauge calls).map Meta.name := by
  rw [← typeNames_scalarLines it .counter (run calls).counters,
    ← typeNames_scalarLines it .gauge (run calls).gauges]
  simp [typeNames, served, Line.typeName]

theorem samples_served (it : Kind → Iteration) (ts : Int) (calls : List (Call R)) :
    samples (served it ts calls) =
      (entries it .counter calls).map (sampleOf .counter (run calls).counters)
        ++ (entries it .gauge calls).map (sampleOf .gauge (run calls).gauges) := by
  rw [← samples_scalarLines, ← samples_scalarLines]
  simp [samples, served, Line.sample?]

/-- The samples of one kind among those of another. -/
theorem countP_sampleOf (it : Kind → Iteration) (kind kind' : Kind)
    (values : AList fun _ : Text => R) (calls : List (Call R)) (m : Meta) :
    ((entries it kind' calls).map (sampleOf kind' values)).countP
        (fun s => s.kind = kind && s.record = m) =
      if kind' = kind then (shown it kind' calls).count m else 0 := by
  rw [List.countP_map]
  by_cases hkind : kind' = kind
  · rw [if_pos hkind, shown, List.count, List.countP_map]
    refine List.countP_congr fun e _ => ?_
    simp only [sampleOf, hkind, Function.comp_apply, decide_true, Bool.true_and, beq_iff_eq]
    exact decide_eq_true_iff
  · rw [if_neg hkind]
    refine List.countP_eq_zero.mpr fun e _ => ?_
    simp [sampleOf, hkind]

theorem countP_served (it : Kind → Iteration) (ts : Int) (calls : List (Call R)) {kind : Kind}
    (hkind : kind ≠ .histogram) (m : Meta) :
    (samples (served it ts calls)).countP (fun s => s.kind = kind && s.record = m) =
      (shown it kind calls).count m := by
  rw [samples_served, List.countP_append, countP_sampleOf, countP_sampleOf]
  cases kind with
  | counter => rfl
  | gauge => exact Nat.zero_add _
  | histogram => exact absurd rfl hkind

/-- What well-formed lines come to in the records that are served. -/
theorem wellFormed_served_iff (p : Printer R) (it : Kind → Iteration) (ts : Int)
    (calls : List (Call R)) : WellFormed p calls (served it ts calls) ↔
      ((shown it .counter calls).map Meta.name ++ (shown it .gauge calls).map Meta.name).Nodup ∧
      (∀ kind, kind ≠ .histogram → ∀ m ∈ recorded kind calls, m ∈ shown it kind calls) ∧
      ∀ kind, kind ≠ .histogram → ∀ m ∈ shown it kind calls, IsSeries m.key := by
  have hcount : ∀ kind, kind ≠ .histogram → ∀ m,
      ((samples (served it ts calls)).countP (fun s => s.kind = kind && s.record = m) = 1 ↔
        m ∈ shown it kind calls) := by
    intro kind hkind m
    rw [countP_served it ts calls hkind]
    constructor
    · exact fun h => List.count_pos_iff.mp (by omega)
    · exact List.count_eq_one_of_mem (nodup_shown it kind calls)
  have hform : (∀ s ∈ samples (served it ts calls), IsSample (s.text p)) ↔
      ∀ kind, kind ≠ .histogram → ∀ m ∈ shown it kind calls, IsSeries m.key := by
    simp only [isSample_text, samples_served, List.mem_append, List.mem_map]
    constructor
    · intro h kind hkind m hm
      obtain ⟨e, he, rfl⟩ := List.mem_map.mp hm
      cases kind with
      | counter => exact h _ (.inl ⟨e, he, rfl⟩)
      | gauge => exact h _ (.inr ⟨e, he, rfl⟩)
      | histogram => exact absurd rfl hkind
    · rintro h s (⟨e, he, rfl⟩ | ⟨e, he, rfl⟩)
      · exact h .counter (by decide) e.2 (List.mem_map_of_mem he)
      · exact h .gauge (by decide) e.2 (List.mem_map_of_mem he)
  rw [List.nodup_iff_count_le_one, ← typeNames_served it ts calls, ← hform]
  constructor
  · exact fun h => ⟨h.types,
      fun kind hkind m hm => (hcount kind hkind m).mp (h.once kind hkind m hm), h.form⟩
  · rintro ⟨htypes, honce, hseries⟩
    exact ⟨htypes, fun kind hkind m hm => (hcount kind hkind m).mpr (honce kind hkind m hm),
      hseries⟩

/-- Records that are all served, under names that are all different, differ in
nothing but their names. -/
theorem exposable_of_served (it : Kind → Iteration) {calls : List (Call R)}
    (hno : ∀ c ∈ calls, c.kind ≠ .histogram)
    (hnames : ((shown it .counter calls).map Meta.name
      ++ (shown it .gauge calls).map Meta.name).Nodup)
    (hshown : ∀ kind, kind ≠ .histogram → ∀ m ∈ recorded kind calls, m ∈ shown it kind calls)
    (hseries : ∀ kind, kind ≠ .histogram → ∀ m ∈ shown it kind calls, IsSeries m.key) :
    Exposable calls := by
  have hmem : ∀ c ∈ calls, c.record ∈ shown it c.kind calls := fun c hc =>
    hshown c.kind (hno c hc) c.record (mem_recorded.mpr ⟨c, hc, rfl, rfl⟩)
  obtain ⟨hcounter, hgauge, hdisjoint⟩ := List.nodup_append.mp hnames
  refine ⟨hno, fun c hc => hseries c.kind (hno c hc) c.record (hmem c hc), ?_, ?_⟩
  · intro c hc c' hc' hkind hkey
    have hm' := hmem c' hc'
    rw [← hkind] at hm'
    exact LastWrite.values_inj (mem_shown.mp (hmem c hc)) (mem_shown.mp hm') hkey
  · intro c hc c' hc' hname
    have hm := hmem c hc
    have hm' := hmem c' hc'
    cases hkind : c.kind with
    | histogram => exact absurd hkind (hno c hc)
    | counter =>
        rw [hkind] at hm
        cases hkind' : c'.kind with
        | histogram => exact absurd hkind' (hno c' hc')
        | counter =>
            rw [hkind'] at hm'
            exact ⟨rfl, List.inj_on_of_nodup_map hcounter hm hm' hname⟩
        | gauge =>
            rw [hkind'] at hm'
            exact absurd hname
              (hdisjoint _ (List.mem_map_of_mem hm) _ (List.mem_map_of_mem hm'))
    | gauge =>
        rw [hkind] at hm
        cases hkind' : c'.kind with
        | histogram => exact absurd hkind' (hno c' hc')
        | counter =>
            rw [hkind'] at hm'
            exact absurd hname.symm
              (hdisjoint _ (List.mem_map_of_mem hm') _ (List.mem_map_of_mem hm))
        | gauge =>
            rw [hkind'] at hm'
            exact ⟨rfl, List.inj_on_of_nodup_map hgauge hm hm' hname⟩

theorem wellFormed_of_exposable (p : Printer R) (it : Kind → Iteration) (ts : Int)
    {calls : List (Call R)} (h : Exposable calls) : WellFormed p calls (served it ts calls) := by
  have hcall : ∀ {kind : Kind} {m : Meta}, m ∈ shown it kind calls →
      ∃ c ∈ calls, c.kind = kind ∧ c.record = m := fun hm => mem_recorded.mp (recorded_of_shown hm)
  have hnodup : ∀ kind, ((shown it kind calls).map Meta.name).Nodup := by
    intro kind
    refine (nodup_shown it kind calls).map_on fun m hm m' hm' hname => ?_
    obtain ⟨c, hc, _, rfl⟩ := hcall hm
    obtain ⟨c', hc', _, rfl⟩ := hcall hm'
    exact (h.one_name c hc c' hc' hname).2
  refine (wellFormed_served_iff p it ts calls).mpr ⟨?_, ?_, ?_⟩
  · refine List.nodup_append.mpr ⟨hnodup .counter, hnodup .gauge, ?_⟩
    rintro _ hcounter _ hgauge rfl
    obtain ⟨m, hm, hname⟩ := List.mem_map.mp hcounter
    obtain ⟨m', hm', hname'⟩ := List.mem_map.mp hgauge
    obtain ⟨c, hc, hkind, rfl⟩ := hcall hm
    obtain ⟨c', hc', hkind', rfl⟩ := hcall hm'
    have hsame := (h.one_name c hc c' hc' (hname.trans hname'.symm)).1
    rw [hkind, hkind'] at hsame
    cases hsame
  · intro kind _ m hm
    obtain ⟨m', hm', hkey⟩ := exists_shown it hm
    obtain ⟨c, hc, hkind, rfl⟩ := mem_recorded.mp hm
    obtain ⟨c', hc', hkind', rfl⟩ := hcall hm'
    rwa [h.one_key c hc c' hc' (hkind.trans hkind'.symm) hkey.symm]
  · intro kind _ m hm
    obtain ⟨c, hc, _, rfl⟩ := hcall hm
    exact h.series c hc

end Served

/-! ## All histories -/

section All

variable {R : Type} [Field R] [LinearOrder R] [FloorRing R]

/-- A histogram that is served has ill-formed bucket lines. -/
theorem no_histogram_of_wellFormed {p : Printer R} {it : Kind → Iteration} {ts : Int}
    {calls : List (Call R)} {lines : List (Line R)}
    (hlabels : ∀ c ∈ calls, LabelArgument c.record.labels)
    (hlines : serialize p it ts (run calls) = .ok lines) (hwf : WellFormed p calls lines) :
    ∀ c ∈ calls, c.kind ≠ .histogram := by
  intro c hc hkind
  obtain ⟨histograms, hhist, rfl⟩ := serialize_ok hlines
  obtain ⟨m, hm, _⟩ := exists_shown it (mem_recorded.mpr ⟨c, hc, hkind, rfl⟩)
  obtain ⟨c', hc', _, hrecord⟩ := mem_recorded.mp (recorded_of_shown hm)
  obtain ⟨e, he, rfl⟩ := List.mem_map.mp hm
  obtain ⟨_, rest, n, hrest, hmem⟩ := exists_inf_bucket hhist e he
  have hargument : LabelArgument e.2.labels := hrecord ▸ hlabels c' hc'
  have hsample := hwf.form _ (List.mem_filterMap.mpr
    ⟨_, List.mem_append_left [.eof ts] (List.mem_append_right _ hmem), rfl⟩)
  exact not_isSeries_bucket hargument hrest ((isSample_text p _).mp hsample)

/-- Behind an observation without labels nothing is served. -/
theorem serialize_after_unlabelled (p : Printer R) (it : Kind → Iteration) (ts : Int)
    (calls : List (Call R)) (name : Text) (value : R) (lines : List (Line R)) :
    serialize p it ts (run (calls ++ [.observeHistogram name value []])) ≠ .ok lines := by
  intro hlines
  obtain ⟨histograms, hhist, _⟩ := serialize_ok hlines
  have hlast : (⟨name, []⟩ : Meta) ∈
      shown it .histogram (calls ++ [.observeHistogram name value []]) := by
    have hkind : (Call.observeHistogram name value []).kind = .histogram := rfl
    rw [mem_shown, LastWrite.mem_values, recorded_concat, if_pos hkind, LastWrite.table_concat]
    exact AList.lookup_insert _
  obtain ⟨e, he, hrecord⟩ := List.mem_map.mp hlast
  obtain ⟨_, _, _, hlabels, _⟩ := exists_inf_bucket hhist e he
  rw [hrecord] at hlabels
  cases hlabels

/-- The helpers for vibrations and for the database observe without labels. -/
theorem serialize_after_recordVibrationData (p : Printer R) (it : Kind → Iteration) (ts : Int)
    (calls : List (Call R)) (rms : R) (lines : List (Line R)) :
    serialize p it ts (run (calls ++ recordVibrationData rms)) ≠ .ok lines := by
  rw [recordVibrationData, ← List.singleton_append, ← List.append_assoc]
  exact serialize_after_unlabelled p it ts _ _ rms lines

theorem serialize_after_recordDbWrite (p : Printer R) (it : Kind → Iteration) (ts : Int)
    (calls : List (Call R)) (durationSec : R) (lines : List (Line R)) :
    serialize p it ts (run (calls ++ recordDbWrite durationSec)) ≠ .ok lines :=
  serialize_after_unlabelled p it ts calls _ durationSec lines

/-- A history is served well formed exactly if it is of counters and gauges whose
names and labels are. -/
theorem serialize_wellFormed_iff (p : Printer R) (it : Kind → Iteration) (ts : Int)
    {calls : List (Call R)} (hlabels : ∀ c ∈ calls, LabelArgument c.record.labels) :
    (∃ lines, serialize p it ts (run calls) = .ok lines ∧ WellFormed p calls lines) ↔
      Exposable calls := by
  constructor
  · rintro ⟨lines, hlines, hwf⟩
    have hno := no_histogram_of_wellFormed hlabels hlines hwf
    rw [serialize_of_no_histogram p it ts hno] at hlines
    obtain rfl := Except.ok.inj hlines
    obtain ⟨hnames, hshown, hseries⟩ := (wellFormed_served_iff p it ts calls).mp hwf
    exact exposable_of_served it hno hnames hshown hseries
  · intro h
    exact ⟨served it ts calls, serialize_of_no_histogram p it ts h.no_histogram,
      wellFormed_of_exposable p it ts h⟩

end All

/-- The digits behind the point, of which `std::fixed` shows six and otherwise the zeros at the
end are left out. -/
def fractionDigits (isFixed : Bool) (millionths : Nat) : Text :=
  let digits := (toString (10 ^ 6 + millionths % 10 ^ 6 : Int)).toList.tail
  if isFixed then digits else (digits.reverse.dropWhile (· = '0')).reverse

/-- A number with up to six digits behind the point. -/
def decimalText (isFixed : Bool) (x : ℚ) : Text :=
  let millionths := ⌊|x| * 10 ^ 6⌋.toNat
  let fraction := fractionDigits isFixed millionths
  (if x < 0 then ['-'] else []) ++ (toString (millionths / 10 ^ 6 : Int)).toList ++
    (if fraction = [] then [] else '.' :: fraction)

theorem fractionDigits_plain (isFixed : Bool) (millionths : Nat) :
    ∀ c ∈ fractionDigits isFixed millionths, c ≠ ' ' ∧ c ≠ '\n' := by
  intro c hc
  refine (isNumber_toString (10 ^ 6 + millionths % 10 ^ 6)).2 c (List.mem_of_mem_tail ?_)
  cases isFixed with
  | true => exact hc
  | false =>
      rw [← List.mem_reverse]
      exact (List.dropWhile_sublist _).subset (List.mem_reverse.mp hc)

/-- Decimal numbers, as the stream prints the bounds of the buckets. -/
def decimalPrinter : Printer ℚ where
  double := decimalText
  double_ne isFixed x h := by
    have hwhole := (List.append_eq_nil_iff.mp (List.append_eq_nil_iff.mp h).1).2
    exact (isNumber_toString _).1 hwhole
  double_plain isFixed x c hc := by
    rcases List.mem_append.mp hc with hc | hc
    · rcases List.mem_append.mp hc with hc | hc
      · split at hc
        · rw [List.mem_singleton.mp hc]
          decide
        · cases hc
      · exact (isNumber_toString _).2 c hc
    · split at hc
      · cases hc
      · rcases List.mem_cons.mp hc with rfl | hc
        · decide
        · exact fractionDigits_plain isFixed _ c hc

example : (bounds.map (decimalText false)).map String.ofList =
    ["0.001", "0.005", "0.01", "0.05", "0.1", "0.5", "1", "5"] := by decide +kernel

/-- The order in which the entries are kept. -/
def asKept : Kind → Iteration := fun _ => ⟨fun es => es, fun _ => List.Perm.refl _⟩

/-- The history of one alert. -/
theorem serialize_wellFormed_alert :
    (∀ c ∈ (recordAlert "depth".toList : List (Call ℚ)), LabelArgument c.record.labels) ∧
    ((∃ lines, serialize decimalPrinter asKept 0 (run (recordAlert "depth".toList)) = .ok lines ∧
      WellFormed decimalPrinter (recordAlert "depth".toList) lines) ↔
      Exposable (recordAlert "depth".toList : List (Call ℚ))) := by
  have hlabels : ∀ c ∈ (recordAlert "depth".toList : List (Call ℚ)),
      LabelArgument c.record.labels := by
    intro c hc
    obtain rfl := List.mem_singleton.mp hc
    exact .inr ⟨"type".toList, "depth".toList, by decide⟩
  exact ⟨hlabels, serialize_wellFormed_iff decimalPrinter asKept 0 hlabels⟩

/-- One observation without labels, and there is no text. -/
theorem unlabelled_histogram_is_not_served :
    ¬ ∀ (p : Printer ℚ) (it : Kind → Iteration) (ts : Int) (calls : List (Call ℚ)),
      (∀ c ∈ calls, LabelArgument c.record.labels) →
      ∃ lines, serialize p it ts (run calls) = .ok lines ∧ WellFormed p calls lines := by
  intro h
  have hlabels : ∀ c ∈ [Call.observeHistogram "pm_vibration_rms".toList (0 : ℚ) []],
      LabelArgument c.record.labels := by
    intro c hc
    obtain rfl := List.mem_singleton.mp hc
    exact .inl rfl
  obtain ⟨lines, hlines, hwf⟩ := h decimalPrinter asKept 0 _ hlabels
  exact no_histogram_of_wellFormed hlabels hlines hwf _ List.mem_cons_self rfl

end PorcelainMonitor.Metrics
