import Mathlib.Data.List.Basic
import PorcelainMonitor.Database.History

/-!
# What is stored can be read back

`Store.outcome` is an operation behind a connection: what it returns, and the tables that
it leaves.  An `INSERT` returns either `-1` or the id under which there is a new row
(`outcome_insert`).  With `-1` there is no new row, unless the answer to an executed
`INSERT` was lost.  Later tables still hold a row that was new, and it is the first that a
`SELECT` by its id finds (`Store.Grows.find`).
-/

namespace PorcelainMonitor.Database

open PooledProgram (Program)

variable {R : Type} (out : Output R)

/-! ## One operation -/

/-- What an operation returns, if it does, and the tables that others see when it has
ended. -/
def Store.outcome {β : Type} (faults : Nat → Fate) (now : Int) (s : Store R) (p : Db R β) :
    Option β × Store R :=
  let run := p.runAlone (Remote.serve faults out now) (0 : Connection) (.idle s)
  (run.1, run.2.backend.rollback.store)

/-- A statement outside of a transaction. -/
def Fate.execute (fate : Fate) (now : Int) (s : Store R) (q : Query R) :
    Option PGresult × Store R :=
  match fate with
  | .runs => (some (s.run out now q).1, (s.run out now q).2)
  | .fails => (some failed, s)
  | .drops => (none, s)
  | .unanswered => (none, (s.run out now q).2)

variable {out} {faults : Nat → Fate} {now : Int} {s t : Store R}

theorem runAlone_exec {σ : Type} {serve : σ → Call R → Reply × σ} (conn r : Connection) {m m' : σ}
    {call : Call R} {res : Option PGresult} (h : serve m call = (.result res, m')) :
    (exec conn call : Db R _).runAlone serve r m = (some res, m') := by
  rw [exec, Program.runAlone, h]
  rfl

/-- An operation of one statement comes to that statement. -/
theorem outcome_runOne {β : Type} {q : Query R} {read : Option PGresult → Option β} :
    s.outcome out faults now (runOne (some q) read) =
      (read ((faults 0).execute out now s q).1, ((faults 0).execute out now s q).2) := by
  have hserve : (Remote.idle s).serve faults out now (.query q) =
      (.result ((faults 0).execute out now s q).1,
        ⟨.idle ((faults 0).execute out now s q).2, !(faults 0).loses, 1⟩) := by
    have hfate : (Remote.idle s).fate faults (.query q) = faults 0 := rfl
    rw [Remote.serve, Remote.send, hfate]
    cases faults 0 with
    | runs => rfl
    | fails => rfl
    | drops => rfl
    | unanswered => rfl
  have hrun := Program.runAlone_bind_some (r := (0 : Connection))
    (f := fun res => do
      let value ← .ofOption (read res)
      release 0
      return value)
    (runAlone_exec 0 0 hserve)
  have hwhole : s.outcome out faults now (runOne (some q) read) =
      (((exec 0 (.query q) : Db R _) >>= fun res => do
          let value ← .ofOption (read res)
          release 0
          return value).runAlone (Remote.serve faults out now) (0 : Connection) (.idle s)).map id
        fun m => m.backend.rollback.store := rfl
  rw [hwhole, hrun]
  cases read ((faults 0).execute out now s q).1 with
  | none => rfl
  | some value => rfl

/-- An `INSERT` that gives back the new id.  Its row is there exactly if the statement is
executed, also where the answer is lost. -/
theorem outcome_insert (out : Output R) (faults : Nat → Fate) (now : Int) (s : Store R)
    (table : String) (values : List (String × Value R)) :
    (¬ ((faults 0).executes = true ∧
          s.rows.admits table (rowValues table values now) = true) ∧
        ∃ t, s.outcome out faults now (runOne (some (.insert table values true))
          fun res => some (returnedId res)) = (some (-1), t) ∧ t.rows = s.rows) ∨
      ((faults 0).executes = true ∧ s.rows.admits table (rowValues table values now) = true ∧
        s.outcome out faults now (runOne (some (.insert table values true))
            fun res => some (returnedId res)) =
          (some (if faults 0 = .runs then s.nextId table else -1),
            s.add table (rowValues table values now) now)) := by
  rw [outcome_runOne]
  cases hadmits : s.rows.admits table (rowValues table values now) with
  | false =>
      left
      refine ⟨by simp, ?_⟩
      cases faults 0 with
      | runs =>
          rw [Fate.execute, run_insert_of_not_admits out now hadmits]
          exact ⟨s.skipId table, rfl, rfl⟩
      | fails => exact ⟨s, rfl, rfl⟩
      | drops => exact ⟨s, rfl, rfl⟩
      | unanswered =>
          rw [Fate.execute, run_insert_of_not_admits out now hadmits]
          exact ⟨s.skipId table, rfl, rfl⟩
  | true =>
      cases faults 0 with
      | runs =>
          refine .inr ⟨rfl, rfl, ?_⟩
          rw [Fate.execute, run_insert_of_admits out now hadmits, returnedId_inserted, if_pos rfl]
      | fails => exact .inl ⟨by simp [Fate.executes], s, rfl, rfl⟩
      | drops => exact .inl ⟨by simp [Fate.executes], s, rfl, rfl⟩
      | unanswered =>
          refine .inr ⟨rfl, rfl, ?_⟩
          rw [Fate.execute, run_insert_of_admits out now hadmits, if_neg (by simp)]
          rfl

/-- The id is positive exactly if the statement runs and the row is admitted. -/
theorem outcome_insert_pos_iff {table : String} {values : List (String × Value R)} {id : Int}
    (hid : (s.outcome out faults now (runOne (some (.insert table values true))
      fun res => some (returnedId res))).1 = some id) :
    0 < id ↔ faults 0 = .runs ∧ s.rows.admits table (rowValues table values now) = true := by
  rcases outcome_insert out faults now s table values with
    ⟨hnone, t, ht, -⟩ | ⟨-, hadmits, ht⟩
  · rw [ht] at hid
    cases hid
    exact iff_of_false (by decide) fun h => hnone ⟨Fate.executes_of_runs h.1, h.2⟩
  · rw [ht] at hid
    by_cases hruns : faults 0 = .runs
    · rw [if_pos hruns] at hid
      cases hid
      exact iff_of_true (s.nextId_pos table) ⟨hruns, hadmits⟩
    · rw [if_neg hruns] at hid
      cases hid
      exact iff_of_false (by decide) fun h => hruns h.1

/-! ## Later reads -/

/-- A row that was new is still there, and no row before it has its id. -/
theorem Store.Grows.find {table : String} {values : List (String × Value R)}
    (h : (s.add table values now).Grows t) :
    ∃ r, (t.rows table).find? (fun r => r.id = s.nextId table) = some r ∧
      (⟨s.nextId table, values, now⟩ : Record R).Later table r := by
  have hnew : ((s.add table values now).rows table)[(s.rows table).length]? =
      some ⟨s.nextId table, values, now⟩ := by
    rw [Store.add_rows, Function.update_self, List.getElem?_concat_length]
  obtain ⟨r, hr, hlater⟩ := h.rows.kept table _ _ hnew
  obtain ⟨hlt, hget⟩ := List.getElem?_eq_some_iff.mp hr
  refine ⟨r, List.find?_eq_some_iff_getElem.mpr ⟨by simpa using hlater.id, _, hlt, hget, ?_⟩,
    hlater⟩
  intro j hj
  have hold : ((s.add table values now).rows table)[j]? = some (s.rows table)[j] := by
    rw [Store.add_rows, Function.update_self, List.getElem?_append_left hj,
      List.getElem?_eq_getElem hj]
  obtain ⟨r', hr', hlater'⟩ := h.rows.kept table _ _ hold
  obtain ⟨_, hget'⟩ := List.getElem?_eq_some_iff.mp hr'
  have hissued := (s.issued table _ (List.getElem_mem hj)).2
  rw [hget', hlater'.id]
  simpa using Int.ne_of_lt hissued

/-! ## Cracks -/

/-- What the readers of cracks make of a row: the numbers as the server prints them, the
status that the table gives by default. -/
def storedCrack (out : Output R) (lib : Reading R) (crack : CrackInfo R) (porcelainId id : Int) :
    CrackInfo R where
  id := id
  porcelainId := porcelainId
  crackCode := crack.crackCode
  maxDepth := lib.atof (out.real crack.maxDepth)
  maxWidth := lib.atof (out.real crack.maxWidth)
  totalLength := lib.atof (out.real crack.totalLength)
  status := "ACTIVE"
  points := []
  detectedAt := 0

section Cracks

variable {lib : Reading R} {crack : CrackInfo R} {porcelainId id : Int}

theorem readCrack_row (out : Output R) (lib : Reading R) {r : Record R} (hid : 0 ≤ id)
    (hporcelain : 0 ≤ porcelainId)
    (h : (⟨id, rowValues "cracks" (crackRow crack porcelainId).values now, now⟩ :
      Record R).Later "cracks" r) :
    readCrack lib (crackColumns.map (out.column r)) =
      storedCrack out lib crack porcelainId id := by
  have hcolumn : ∀ column : String, column ≠ "id" → column ≠ "created_at" →
      arrayElement column = none → out.column r column =
        out.text (valueOf (rowValues "cracks" (crackRow crack porcelainId).values now) column) := by
    intro column hne hne' harray
    rw [Output.column, if_neg hne, if_neg hne', harray, ← h.values column (.inl (by decide))]
  have hrow : crackColumns.map (out.column r) = [some (toString r.id), some (toString porcelainId),
      some crack.crackCode, some (out.real crack.maxDepth), some (out.real crack.maxWidth),
      some (out.real crack.totalLength), some "ACTIVE", some (out.time crack.detectedAt)] := by
    simp only [crackColumns, List.map_cons, List.map_nil]
    rw [hcolumn "porcelain_id" (by decide) (by decide) rfl,
      hcolumn "crack_code" (by decide) (by decide) rfl,
      hcolumn "max_depth" (by decide) (by decide) rfl,
      hcolumn "max_width" (by decide) (by decide) rfl,
      hcolumn "total_length" (by decide) (by decide) rfl,
      hcolumn "status" (by decide) (by decide) rfl,
      hcolumn "detected_date" (by decide) (by decide) rfl]
    rfl
  have hrowId : r.id = id := h.id
  rw [hrow, readCrack, hrowId]
  simp only [field, List.getD_cons_zero, List.getD_cons_succ, Option.getD_some, atoi_toString hid,
    atoi_toString hporcelain]
  rfl

/-- Only a porcelain that is there has an id that the constraints admit. -/
theorem nonneg_of_admits {values : List (String × Value R)} {n : Int}
    (h : s.rows.admits "cracks" values = true) (hn : valueOf values "porcelain_id" = .int n) :
    0 ≤ n := by
  have href : s.rows.hasId "porcelains" n = true := by
    simp only [Rows.admits, constraints, Bool.and_eq_true, List.all_cons, hn] at h
    exact h.2.1
  obtain ⟨r, hr, hrid⟩ := List.any_eq_true.mp href
  have hissued := (s.issued "porcelains" r hr).1
  have hrow : r.id = n := of_decide_eq_true hrid
  omega

/-- What `get_crack` reads where there is a row under the id. -/
theorem outcome_getCrack [Zero R] {r : Record R}
    (h : (t.rows "cracks").find? (fun r => r.id = id) = some r) :
    (t.outcome out faults now (getCrack lib id)).1 =
      some (if faults 0 = .runs then readCrack lib (crackColumns.map (out.column r))
        else CrackInfo.zero) := by
  have hselect : ∃ rest, out.select t.rows "cracks" (some ("id", id)) none none = r :: rest := by
    have hhead : ((t.rows "cracks").filter fun r => r.matches (some ("id", id))).head? = some r :=
      (List.head?_filter ..).trans h
    exact List.head?_eq_some_iff.mp hhead
  obtain ⟨rest, hrest⟩ := hselect
  rw [getCrack, outcome_runOne]
  cases hfate : faults 0 with
  | runs =>
      rw [if_pos rfl, Fate.execute, Store.run, hrest]
      rfl
  | fails => rfl
  | drops => rfl
  | unanswered => rfl

/-- What `get_cracks_by_porcelain` lists if it leaves nothing out. -/
theorem mem_getCracksByPorcelain {limit : Int} {r : Record R} (hfate : faults 0 = .runs)
    (hr : r ∈ t.rows "cracks") (hmatch : r.matches (some ("porcelain_id", porcelainId)) = true)
    (hfew : ((t.rows "cracks").countP fun r => r.matches (some ("porcelain_id", porcelainId))) ≤
      limit.toNat) :
    ∃ listed, (t.outcome out faults now (getCracksByPorcelain lib porcelainId limit)).1 =
        some listed ∧ readCrack lib (crackColumns.map (out.column r)) ∈ listed := by
  rw [getCracksByPorcelain, outcome_runOne, hfate, Fate.execute, Store.run]
  refine ⟨_, rfl, List.mem_map.mpr ⟨_, List.mem_map.mpr ⟨r, ?_, rfl⟩, rfl⟩⟩
  have hfound : r ∈ (t.rows "cracks").filter fun r =>
      r.matches (some ("porcelain_id", porcelainId)) := List.mem_filter.mpr ⟨hr, hmatch⟩
  have hperm := out.sortBy_perm (orderKey "detected_date DESC") ((t.rows "cracks").filter fun r =>
    r.matches (some ("porcelain_id", porcelainId)))
  have hlength : (out.sortBy (orderKey "detected_date DESC") ((t.rows "cracks").filter fun r =>
      r.matches (some ("porcelain_id", porcelainId)))).length ≤ limit.toNat := by
    rw [hperm.length_eq, ← List.countP_eq_length_filter]
    exact hfew
  have hmem := hperm.mem_iff.mpr hfound
  rw [← List.take_of_length_le hlength] at hmem
  exact hmem

/-- A crack under a positive id is read back, from all later tables. -/
theorem insertCrack_read_back [Zero R]
    (hid : (s.outcome out faults now (insertCrack crack porcelainId)).1 = some id) (hpos : 0 < id)
    (hlater : (s.outcome out faults now (insertCrack crack porcelainId)).2.Grows t)
    (faults' : Nat → Fate) (now' : Int) :
    (t.outcome out faults' now' (getCrack lib id)).1 =
        some (if faults' 0 = .runs then storedCrack out lib crack porcelainId id
          else CrackInfo.zero) ∧
      (faults' 0 = .runs →
        ((t.rows "cracks").countP fun r => r.matches (some ("porcelain_id", porcelainId))) ≤ 100 →
        ∃ listed, (t.outcome out faults' now' (getCracksByPorcelain lib porcelainId)).1 =
          some listed ∧ storedCrack out lib crack porcelainId id ∈ listed) := by
  rcases outcome_insert out faults now s "cracks" (crackRow crack porcelainId).values with
    ⟨-, u, hu, -⟩ | ⟨-, hadmits, hu⟩
  · have hvalue : (some (-1) : Option Int) = some id := (congrArg Prod.fst hu).symm.trans hid
    cases hvalue
    exact absurd hpos (by decide)
  · have hruns := ((outcome_insert_pos_iff hid).mp hpos).1
    rw [if_pos hruns] at hu
    have hvalue : some (s.nextId "cracks") = some id := (congrArg Prod.fst hu).symm.trans hid
    cases hvalue
    have hafter : (s.outcome out faults now (insertCrack crack porcelainId)).2 =
        s.add "cracks" (rowValues "cracks" (crackRow crack porcelainId).values now) now :=
      congrArg Prod.snd hu
    have hgrown : (s.add "cracks" (rowValues "cracks" (crackRow crack porcelainId).values now)
        now).Grows t := by
      rw [← hafter]
      exact hlater
    obtain ⟨r, hfind, hrow⟩ := hgrown.find
    have hporcelain : 0 ≤ porcelainId := nonneg_of_admits hadmits rfl
    have hread := readCrack_row out lib (Int.le_of_lt hpos) hporcelain hrow
    refine ⟨?_, fun hfate hfew => ?_⟩
    · rw [outcome_getCrack hfind, hread]
    · have hmatch : r.matches (some ("porcelain_id", porcelainId)) = true := by
        have hvalue : valueOf r.values "porcelain_id" = .int porcelainId :=
          hrow.values _ (.inl (by decide))
        simp [Record.matches, hvalue]
      rw [← hread]
      exact mem_getCracksByPorcelain hfate (List.mem_of_find?_eq_some hfind) hmatch hfew

end Cracks

end PorcelainMonitor.Database
