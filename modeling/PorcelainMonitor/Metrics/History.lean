import PorcelainMonitor.Lib.LastWrite
import PorcelainMonitor.Metrics.MetricsRegistry

/-!
# What a history leaves

The records of a kind that `serialize` goes through are the last writes of the
history, in the order of the iteration (`shown_perm`).  Its lines are those of
the records, kind after kind (`serialize_ok`), and it throws if a histogram has
no labels.
-/

namespace PorcelainMonitor.Metrics

/-! ## Records of a history -/

section Records

variable {R : Type}

/-- The map that a call writes to. -/
def Call.kind : Call R → Kind
  | incrementCounter _ _ _ => .counter
  | setGauge _ _ _ => .gauge
  | observeHistogram _ _ _ => .histogram

/-- The name and the labels that a call keeps for the output. -/
def Call.record : Call R → Meta
  | incrementCounter name _ labels => ⟨name, labels⟩
  | setGauge name _ labels => ⟨name, labels⟩
  | observeHistogram name _ labels => ⟨name, labels⟩

/-- The names and labels of the calls of a kind. -/
def recorded (kind : Kind) (calls : List (Call R)) : List Meta :=
  (calls.filter fun c => c.kind = kind).map Call.record

/-- Something is recorded by a call, of its own kind. -/
theorem mem_recorded {kind : Kind} {calls : List (Call R)} {m : Meta} :
    m ∈ recorded kind calls ↔ ∃ c ∈ calls, c.kind = kind ∧ c.record = m := by
  simp only [recorded, List.mem_map, List.mem_filter, decide_eq_true_eq, and_assoc]

theorem recorded_concat (kind : Kind) (calls : List (Call R)) (c : Call R) :
    recorded kind (calls ++ [c]) =
      if c.kind = kind then recorded kind calls ++ [c.record] else recorded kind calls := by
  rw [recorded, List.filter_append, List.map_append]
  by_cases hkind : c.kind = kind
  · rw [if_pos hkind, List.filter_cons_of_pos (by simpa using hkind)]
    rfl
  · rw [if_neg hkind, List.filter_cons_of_neg (by simpa using hkind), List.filter_nil,
      List.map_nil, List.append_nil, recorded]

/-- The recorded names and labels of a kind. -/
def Registry.metaOf (s : Registry R) : Kind → AList fun _ : Text => Meta
  | .counter => s.counterMeta
  | .gauge => s.gaugeMeta
  | .histogram => s.histMeta

variable [Field R] [LinearOrder R]

theorem run_concat (calls : List (Call R)) (c : Call R) :
    run (calls ++ [c]) = (run calls).apply c := by
  rw [run, List.foldl_append]
  rfl

/-- A call writes its record into the map of its kind, and no other. -/
theorem metaOf_apply (s : Registry R) (c : Call R) (kind : Kind) :
    (s.apply c).metaOf kind =
      if c.kind = kind then (s.metaOf kind).insert c.record.key c.record else s.metaOf kind := by
  cases c with
  | incrementCounter name value labels => cases kind <;> rfl
  | setGauge name value labels => cases kind <;> rfl
  | observeHistogram name value labels => cases kind <;> rfl

/-- Of the calls with one key, the last is kept. -/
theorem metaOf_run (kind : Kind) (calls : List (Call R)) :
    (run calls).metaOf kind = LastWrite.table Meta.key (recorded kind calls) := by
  induction calls using List.reverseRecOn with
  | nil => cases kind <;> rfl
  | append_singleton calls c ih =>
      rw [run_concat, metaOf_apply, ih, recorded_concat]
      by_cases hkind : c.kind = kind
      · rw [if_pos hkind, if_pos hkind, LastWrite.table_concat]
      · rw [if_neg hkind, if_neg hkind]

/-- The entries of a kind, in the order in which `serialize` comes to them. -/
def entries (it : Kind → Iteration) (kind : Kind) (calls : List (Call R)) :
    List (Sigma fun _ : Text => Meta) :=
  (it kind).order ((run calls).metaOf kind).entries

/-- The names and labels of a kind in the order in which they are written. -/
def shown (it : Kind → Iteration) (kind : Kind) (calls : List (Call R)) : List Meta :=
  (entries it kind calls).map Sigma.snd

/-- The order is any, and what is written is what was kept. -/
theorem shown_perm (it : Kind → Iteration) (kind : Kind) (calls : List (Call R)) :
    (shown it kind calls).Perm (LastWrite.values Meta.key (recorded kind calls)) := by
  rw [shown, entries, metaOf_run]
  exact ((it kind).perm _).map Sigma.snd

theorem mem_shown {it : Kind → Iteration} {kind : Kind} {calls : List (Call R)} {m : Meta} :
    m ∈ shown it kind calls ↔ m ∈ LastWrite.values Meta.key (recorded kind calls) :=
  (shown_perm it kind calls).mem_iff

theorem nodup_shown (it : Kind → Iteration) (kind : Kind) (calls : List (Call R)) :
    (shown it kind calls).Nodup :=
  (shown_perm it kind calls).nodup_iff.mpr (LastWrite.nodup_values _)

theorem recorded_of_shown {it : Kind → Iteration} {kind : Kind} {calls : List (Call R)} {m : Meta}
    (h : m ∈ shown it kind calls) : m ∈ recorded kind calls :=
  LastWrite.mem_of_values (mem_shown.mp h)

/-- What was recorded is served, itself or with another split of its key. -/
theorem exists_shown (it : Kind → Iteration) {kind : Kind} {calls : List (Call R)} {m : Meta}
    (h : m ∈ recorded kind calls) : ∃ m' ∈ shown it kind calls, m'.key = m.key := by
  have hvalue : ∃ m' ∈ LastWrite.values Meta.key (recorded kind calls), m'.key = m.key :=
    LastWrite.exists_value h
  obtain ⟨m', hm', hkey⟩ := hvalue
  exact ⟨m', mem_shown.mpr hm', hkey⟩

theorem mem_entries {it : Kind → Iteration} {kind : Kind} {calls : List (Call R)}
    {e : Sigma fun _ : Text => Meta} (h : e ∈ entries it kind calls) :
    e.2 ∈ recorded kind calls :=
  recorded_of_shown (List.mem_map_of_mem h)

theorem entries_eq_nil (it : Kind → Iteration) {kind : Kind} {calls : List (Call R)}
    (h : ∀ c ∈ calls, c.kind ≠ kind) : entries it kind calls = [] := by
  refine List.eq_nil_iff_forall_not_mem.mpr fun e he => ?_
  obtain ⟨c, hc, hkind, _⟩ := mem_recorded.mp (mem_entries he)
  exact h c hc hkind

end Records

/-! ## The lines of a history -/

section Lines

variable {R : Type} [Field R] [LinearOrder R] [FloorRing R] {p : Printer R}

/-- The lines of the counters or of the gauges. -/
def scalarLines (it : Kind → Iteration) (kind : Kind) (values : AList fun _ : Text => R)
    (calls : List (Call R)) : List (Line R) :=
  (entries it kind calls).flatMap fun e => valueLines kind ((values.lookup e.1).getD 0) e.2

/-- Whether `std::fixed` is set when the histograms start. -/
def fixedBefore (it : Kind → Iteration) (calls : List (Call R)) : Bool :=
  !((entries it .counter calls).isEmpty && (entries it .gauge calls).isEmpty)

/-- Counters, gauges and histograms in this order, and the time. -/
theorem serialize_eq (p : Printer R) (it : Kind → Iteration) (ts : Int) (calls : List (Call R)) :
    serialize p it ts (run calls) = (do
      let histograms ← allHistogramLines p (run calls).histograms (fixedBefore it calls)
        (entries it .histogram calls)
      return scalarLines it .counter (run calls).counters calls
        ++ scalarLines it .gauge (run calls).gauges calls ++ histograms ++ [.eof ts]) := rfl

theorem serialize_ok {it : Kind → Iteration} {ts : Int} {calls : List (Call R)}
    {lines : List (Line R)} (h : serialize p it ts (run calls) = .ok lines) :
    ∃ histograms,
      allHistogramLines p (run calls).histograms (fixedBefore it calls)
        (entries it .histogram calls) = .ok histograms ∧
      lines = scalarLines it .counter (run calls).counters calls
        ++ scalarLines it .gauge (run calls).gauges calls ++ histograms ++ [.eof ts] := by
  rw [serialize_eq] at h
  cases hhist : allHistogramLines p (run calls).histograms (fixedBefore it calls)
      (entries it .histogram calls) with
  | error e =>
      rw [hhist] at h
      cases h
  | ok histograms =>
      rw [hhist] at h
      exact ⟨histograms, rfl, (Except.ok.inj h).symm⟩

/-- Without histograms nothing throws. -/
theorem serialize_of_no_histogram (p : Printer R) (it : Kind → Iteration) (ts : Int)
    {calls : List (Call R)} (h : ∀ c ∈ calls, c.kind ≠ .histogram) :
    serialize p it ts (run calls) = .ok (scalarLines it .counter (run calls).counters calls
      ++ scalarLines it .gauge (run calls).gauges calls ++ [] ++ [.eof ts]) := by
  rw [serialize_eq, entries_eq_nil it h, allHistogramLines]
  rfl

end Lines

end PorcelainMonitor.Metrics
