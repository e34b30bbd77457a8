import Mathlib.Algebra.Order.Floor.Ring
import Mathlib.Data.List.AList
import PorcelainMonitor.Common

/-!
# `MetricsRegistry`

The registry of `prometheus_metrics.h` and the text that it is served as.  A
record is kept under its key, the name with the labels behind it, and the last
call on a key decides which name and labels it is shown with.

An `unordered_map` is iterated in no order that is known, so an `Iteration` is
any reordering, one for each of the three maps.  How a stream prints a `double`
is the parameter `Printer`.  `std::fixed` stays set on the stream, so only a
bucket bound that comes first of all is printed without it.

`Meta::type` is written and never read, so it is left out.  Every function holds
the mutex from start to end, so calls run one after the other.
-/

namespace PorcelainMonitor.Metrics

/-- A `std::string`. -/
abbrev Text := List Char

/-! ## Records -/

structure Meta where
  name : Text
  labels : Text
deriving DecidableEq

def Meta.key (m : Meta) : Text := m.name ++ m.labels

/-- The three kinds of metrics, each with maps of its own. -/
inductive Kind where
  | counter
  | gauge
  | histogram
deriving DecidableEq

def Kind.text : Kind → Text
  | counter => "counter".toList
  | gauge => "gauge".toList
  | histogram => "histogram".toList

/-- The entries `buckets[0]` to `buckets[7]` are a list, and `buckets[8]`, which
nothing reads, is `overflow`. -/
structure HistogramData (R : Type) where
  count : Int
  sum : R
  buckets : List R
  overflow : R

structure Registry (R : Type) where
  counters : AList fun _ : Text => R
  counterMeta : AList fun _ : Text => Meta
  gauges : AList fun _ : Text => R
  gaugeMeta : AList fun _ : Text => Meta
  histograms : AList fun _ : Text => HistogramData R
  histMeta : AList fun _ : Text => Meta

def Registry.empty {R : Type} : Registry R := ⟨∅, ∅, ∅, ∅, ∅, ∅⟩

/-! ## Recording -/

section Recording

variable {R : Type} [Field R] [LinearOrder R]

/-- The bounds of the buckets, in `observe_histogram` and in `serialize`. -/
def bounds : List R := [1 / 1000, 5 / 1000, 1 / 100, 5 / 100, 1 / 10, 5 / 10, 1, 5]

def HistogramData.empty : HistogramData R where
  count := 0
  sum := 0
  buckets := List.replicate 8 0
  overflow := 0

def Registry.incrementCounter (s : Registry R) (name : Text) (value : R) (labels : Text) :
    Registry R :=
  let key := name ++ labels
  { s with
    counters := s.counters.insert key ((s.counters.lookup key).getD 0 + value)
    counterMeta := s.counterMeta.insert key ⟨name, labels⟩ }

def Registry.setGauge (s : Registry R) (name : Text) (value : R) (labels : Text) : Registry R :=
  let key := name ++ labels
  { s with
    gauges := s.gauges.insert key value
    gaugeMeta := s.gaugeMeta.insert key ⟨name, labels⟩ }

/-- Every bucket whose bound the value does not exceed is counted up. -/
def HistogramData.observe (h : HistogramData R) (value : R) : HistogramData R where
  count := h.count + 1
  sum := h.sum + value
  buckets := List.zipWith (fun b n => if value ≤ b then n + 1 else n) bounds h.buckets
  overflow := h.overflow + 1

def Registry.observeHistogram (s : Registry R) (name : Text) (value : R) (labels : Text) :
    Registry R :=
  let key := name ++ labels
  let h := (s.histograms.lookup key).getD HistogramData.empty
  { s with
    histograms := s.histograms.insert key (h.observe value)
    histMeta := s.histMeta.insert key ⟨name, labels⟩ }

/-- A call of a recording function. -/
inductive Call (R : Type) where
  | incrementCounter (name : Text) (value : R) (labels : Text)
  | setGauge (name : Text) (value : R) (labels : Text)
  | observeHistogram (name : Text) (value : R) (labels : Text)

def Registry.apply (s : Registry R) : Call R → Registry R
  | .incrementCounter name value labels => s.incrementCounter name value labels
  | .setGauge name value labels => s.setGauge name value labels
  | .observeHistogram name value labels => s.observeHistogram name value labels

/-- The registry after a history of calls. -/
def run (calls : List (Call R)) : Registry R := calls.foldl Registry.apply .empty

end Recording

/-! ## Lines -/

/-- How a stream prints numbers: a `double` with or without `std::fixed`, as
characters other than blanks and line feeds, and at least one. -/
structure Printer (R : Type) where
  double : Bool → R → Text
  double_ne : ∀ isFixed x, double isFixed x ≠ []
  double_plain : ∀ isFixed x, ∀ c ∈ double isFixed x, c ≠ ' ' ∧ c ≠ '\n'

/-- What stands behind the blank of a sample. -/
inductive Value (R : Type) where
  /-- A `double`, printed with `std::fixed`. -/
  | double (x : R)
  /-- A `long long`. -/
  | integer (n : Int)

/-- Which number of its record a sample shows. -/
inductive Shown (R : Type) where
  | value
  /-- A bucket, without a bound for `+Inf`. -/
  | bucket (bound : Option R)
  | sum
  | count

/-- A sample: what it shows, and the text of its name and labels. -/
structure Sample (R : Type) where
  kind : Kind
  record : Meta
  shown : Shown R
  series : Text
  value : Value R

inductive Line (R : Type) where
  | help (name : Text)
  | type (name : Text) (kind : Kind)
  | sample (s : Sample R)
  | eof (ts : Int)

section Text

variable {R : Type} (p : Printer R)

def Value.text : Value R → Text
  | double x => p.double true x
  | integer n => (toString n).toList

def Sample.text (s : Sample R) : Text := s.series ++ ' ' :: s.value.text p

def Line.text : Line R → Text
  | help name => "# HELP ".toList ++ name ++ ' ' :: name
  | type name kind => "# TYPE ".toList ++ name ++ ' ' :: kind.text
  | sample s => s.text p
  | eof ts => "# EOF ts=".toList ++ (toString ts).toList

/-- The text that is served. -/
def exposition (lines : List (Line R)) : Text := lines.flatMap fun line => line.text p ++ ['\n']

end Text

/-! ## `serialize` -/

/-- An order in which a map is iterated. -/
structure Iteration where
  order : List (Sigma fun _ : Text => Meta) → List (Sigma fun _ : Text => Meta)
  perm : ∀ entries, (order entries).Perm entries

/-- `labels.substr(1)`. -/
def substr1 : Text → Except Failure Text
  | [] => .error (.exception
      "basic_string::substr: __pos (which is 1) > this->size() (which is 0)")
  | _ :: rest => .ok rest

section Serialize

variable {R : Type} [Field R] [LinearOrder R] [FloorRing R] (p : Printer R)

/-- The conversion from `double` to `long long`. -/
def truncate (x : R) : Int := if 0 ≤ x then ⌊x⌋ else ⌈x⌉

/-- The lines of a counter or a gauge. -/
def valueLines (kind : Kind) (value : R) (m : Meta) : List (Line R) :=
  [.help m.name, .type m.name kind,
    .sample ⟨kind, m, .value, m.name ++ m.labels, .double value⟩]

/-- The series of a bucket, with what `substr(1)` leaves of the labels. -/
def bucketSeries (name bound rest : Text) : Text :=
  name ++ "_bucket\x7ble=\"".toList ++ bound ++ ['"'] ++ rest ++ ['}']

/-- The loop over the bounded buckets, with the sum of those before. -/
def bucketLines (isFixed : Bool) (m : Meta) (rest : Text) : R → List (R × R) → List (Line R)
  | _, [] => []
  | cum, (bound, n) :: buckets =>
      let cum := cum + n
      .sample ⟨.histogram, m, .bucket (some bound),
          bucketSeries m.name (p.double isFixed bound) rest, .integer (truncate cum)⟩
        :: bucketLines isFixed m rest cum buckets

def histogramLines (isFixed : Bool) (h : HistogramData R) (m : Meta) :
    Except Failure (List (Line R)) := do
  let rest ← substr1 m.labels
  return [.help m.name, .type m.name .histogram]
    ++ bucketLines p isFixed m rest 0 (bounds.zip h.buckets)
    ++ [.sample ⟨.histogram, m, .bucket none, bucketSeries m.name "+Inf".toList rest,
          .integer h.count⟩,
        .sample ⟨.histogram, m, .sum, m.name ++ "_sum".toList ++ m.labels, .double h.sum⟩,
        .sample ⟨.histogram, m, .count, m.name ++ "_count".toList ++ m.labels, .integer h.count⟩]

/-- The loop over the histograms.  The sum of the first one sets `std::fixed`. -/
def allHistogramLines (histograms : AList fun _ : Text => HistogramData R) :
    Bool → List (Sigma fun _ : Text => Meta) → Except Failure (List (Line R))
  | _, [] => .ok []
  | isFixed, ⟨key, m⟩ :: entries => do
      let lines ← histogramLines p isFixed ((histograms.lookup key).getD .empty) m
      let rest ← allHistogramLines histograms true entries
      return lines ++ rest

def serialize (it : Kind → Iteration) (ts : Int) (s : Registry R) :
    Except Failure (List (Line R)) := do
  let counters := (it .counter).order s.counterMeta.entries
  let gauges := (it .gauge).order s.gaugeMeta.entries
  let histograms ← allHistogramLines p s.histograms (!(counters.isEmpty && gauges.isEmpty))
    ((it .histogram).order s.histMeta.entries)
  return counters.flatMap (fun ⟨key, m⟩ =>
      valueLines .counter ((s.counters.lookup key).getD 0) m)
    ++ gauges.flatMap (fun ⟨key, m⟩ => valueLines .gauge ((s.gauges.lookup key).getD 0) m)
    ++ histograms ++ [.eof ts]

end Serialize

/-! ## The recording helpers -/

section Helpers

variable {R : Type} [Field R]

def recordLaserData (sensorId : Int) (crackDetected : Bool) : List (Call R) :=
  .incrementCounter "pm_laser_data_total".toList 1 []
    :: (if crackDetected then [.incrementCounter "pm_crack_detected_total".toList 1 []] else [])
    ++ [.setGauge "pm_last_laser_sensor_id".toList sensorId []]

def recordVibrationData (rms : R) : List (Call R) :=
  [.incrementCounter "pm_vibration_data_total".toList 1 [],
    .observeHistogram "pm_vibration_rms".toList rms []]

def recordAlert (alertType : Text) : List (Call R) :=
  [.incrementCounter "pm_alerts_total".toList 1
    ("\x7btype=\"".toList ++ alertType ++ "\"\x7d".toList)]

def recordModuleProcessed (moduleName : Text) : List (Call R) :=
  [.incrementCounter "pm_module_processed_total".toList 1
    ("\x7bmodule=\"".toList ++ moduleName ++ "\"\x7d".toList)]

def recordDbWrite (durationSec : R) : List (Call R) :=
  [.observeHistogram "pm_db_write_duration_seconds".toList durationSec []]

end Helpers

end PorcelainMonitor.Metrics
