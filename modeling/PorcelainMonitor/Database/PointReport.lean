import PorcelainMonitor.Database.AlertStore
import PorcelainMonitor.Database.Faults

/-!
# The report of `insert_crack_points`

What `insert_crack_points` leaves behind and reports, whatever statements fail.

The loop over the points goes on after a failed statement, and `COMMIT` reports
that it has run.  So the id that an earlier point got is returned for a
transaction that has been undone (`SilentLoss`), and a list without points looks
like a failure.  A `COMMIT` that is executed but not answered is reported as a failure
(`InDoubt`).
-/

namespace PorcelainMonitor.Database

open PooledProgram (Program)

variable {R : Type}

/-! ## Runs of statements -/

/-- All of the `n` statements from `k` on fare so. -/
def Fare (faults : Nat → Fate) (P : Fate → Prop) (k n : Nat) : Prop :=
  ∀ i < n, P (faults (k + i))

section Fare

variable {faults : Nat → Fate} {out : Output R} {now : Int} {k n : Nat} {rows : Rows R}
  {m : Remote R}

theorem fare_zero {P : Fate → Prop} : Fare faults P k 0 := fun i hi => absurd hi (Nat.not_lt_zero i)

theorem fare_succ {P : Fate → Prop} :
    Fare faults P k (n + 1) ↔ Fare faults P k n ∧ P (faults (k + n)) :=
  Nat.forall_lt_succ_right

/-- After the `n` statements from `k` on, one of which has failed.  The transaction
is lost if the connection is. -/
structure Remote.Spoiled (faults : Nat → Fate) (k n : Nat) (rows : Rows R) (m : Remote R) :
    Prop where
  kept : Fare faults (·.loses = false) k n → m.Open rows true ∧ m.sent = k + n
  lost : ¬ Fare faults (·.loses = false) k n → m.Lost rows

/-- The first statement that fails. -/
theorem Remote.Open.spoiled (hopen : m.Open rows true) (hran : Fare faults (· = .runs) k n)
    (hfault : (faults (k + n)).loses = false) (hsent : m.sent = k + (n + 1)) :
    m.Spoiled faults k (n + 1) rows where
  kept _ := ⟨hopen, hsent⟩
  lost hfare := absurd (fare_succ.mpr ⟨fun i hi => by rw [hran i hi]; rfl, hfault⟩) hfare

theorem Remote.Lost.spoiled (hlost : m.Lost rows) (hfault : (faults (k + n)).loses = true) :
    m.Spoiled faults k (n + 1) rows where
  kept hfare := absurd hfault (by simp [(fare_succ.mp hfare).2])
  lost _ := hlost

/-- No further statement adds anything. -/
theorem Remote.Spoiled.query (h : m.Spoiled faults k n rows) (q : Query R) :
    ∃ res m', m.serve faults out now (.query q) = (.result res, m') ∧ tuples res = [] ∧
      m'.Spoiled faults k (n + 1) rows := by
  by_cases hfare : Fare faults (·.loses = false) k n
  · obtain ⟨hopen, hsent⟩ := h.kept hfare
    obtain ⟨res, m', hserve, hsent', htuples, hkept, hlost⟩ := hopen.query_spoiled faults out now q
    rw [hsent] at hsent' hkept hlost
    refine ⟨res, m', hserve, htuples, fun hfare' => ⟨hkept (fare_succ.mp hfare').2, hsent'⟩, ?_⟩
    refine fun hfare' => hlost ?_
    rw [← Bool.not_eq_false]
    exact fun hfault => hfare' (fare_succ.mpr ⟨hfare, hfault⟩)
  · obtain ⟨m', hserve, -, hlost⟩ := (h.lost hfare).query faults out now q
    exact ⟨none, m', hserve, rfl, fun hfare' => absurd (fare_succ.mp hfare').1 hfare,
      fun _ => hlost⟩

/-- How the transaction ends for the connection. -/
theorem Remote.Spoiled.commit (out : Output R) (now : Int) (h : m.Spoiled faults k n rows) :
    ∃ ok m', m.command faults out now .commit = (ok, m') ∧ m'.Closed rows ∧
      (ok = true ↔ Fare faults (·.loses = false) k n ∧ faults (k + n) = .runs) := by
  by_cases hfare : Fare faults (·.loses = false) k n
  · obtain ⟨hopen, hsent⟩ := h.kept hfare
    obtain ⟨m', hcommand, hclosed⟩ := hopen.commit faults out now
    refine ⟨_, m', hcommand, by simpa using hclosed, ?_⟩
    rw [decide_eq_true_eq, hsent]
    exact ⟨fun hrun => ⟨hfare, hrun⟩, And.right⟩
  · have hlost := h.lost hfare
    exact ⟨false, m, hlost.command faults out now .commit, hlost.toClosed, (by simp),
      fun h' => absurd h'.1 hfare⟩

end Fare

/-! ## The loop of `insert_crack_points` -/

section Points

variable {faults : Nat → Fate} {out : Output R} {now : Int} {conn r : Connection} {crackId : Int}
  {rows : Rows R} {k : Nat} {β : Type} {f : Int → Db R β}
  {post : β → Remote R → List (Connection × Remote R) → Prop}

/-- After a failed statement the loop keeps the id it has. -/
theorem ends_insertPointLoop_spoiled {points : List (Point3D R)} {lastId : Int} :
    ∀ {n : Nat} {m : Remote R}, m.Spoiled faults k n rows →
      (∀ m', m'.Spoiled faults k (n + points.length) rows →
        (f lastId).Ends (Remote.serve faults out now) r m' post) →
      (insertPointLoop conn crackId points lastId >>= f).Ends (Remote.serve faults out now) r m
        post := by
  induction points with
  | nil => exact fun h hk => hk _ h
  | cons point points ih =>
      intro n m h hk
      obtain ⟨res, m₁, hserve, htuples, hspoiled⟩ := h.query (pointRow crackId point true)
      refine Program.ends_call hserve ?_
      show (insertPointLoop conn crackId points _ >>= f).Ends _ r m₁ post
      rw [htuples]
      refine ih hspoiled fun m' h' => hk m' ?_
      rwa [Nat.add_right_comm] at h'

/-- The row of a point runs exactly if its crack is there. -/
theorem run_pointRow (s : Store R) (point : Point3D R) :
    s.run out now (pointRow crackId point true) =
      if s.rows.hasId "cracks" crackId then
        (⟨.tuplesOk, [[some (toString (s.nextId "crack_points"))]]⟩,
          s.add "crack_points" (pointValues now crackId point) now)
      else (failed, s.skipId "crack_points") := by
  rw [← admits_point now s.rows crackId point]
  rfl

/-- Every row is added, or the transaction is spoiled.  The id is one that a row
has got. -/
theorem ends_insertPointLoop {points : List (Point3D R)} :
    ∀ {n : Nat} {m : Remote R} {lastId : Int}, m.Open rows false → m.sent = k + n →
      Fare faults (· = .runs) k n → m.backend.store.rows.hasId "cracks" crackId = true →
      0 ≤ lastId →
      (∀ id m', 0 ≤ id → m'.Open rows false → m'.sent = k + (n + points.length) →
        Fare faults (· = .runs) k (n + points.length) →
        m'.backend.store = m.backend.store.addPoints now crackId points →
        (f id).Ends (Remote.serve faults out now) r m' post) →
      (∀ id m', 0 ≤ id → ¬ Fare faults (· = .runs) k (n + points.length) →
        m'.Spoiled faults k (n + points.length) rows →
        (f id).Ends (Remote.serve faults out now) r m' post) →
      (insertPointLoop conn crackId points lastId >>= f).Ends (Remote.serve faults out now) r m
        post := by
  induction points with
  | nil => exact fun h hsent hfare _ hid hran _ => hran _ _ hid h hsent hfare rfl
  | cons point points ih =>
      intro n m lastId h hsent hfare hcrack hid hran hspoiled
      have hlength : n + 1 + points.length = n + (point :: points).length := by simp; omega
      have hunfit : faults (k + n) ≠ .runs →
          ¬ Fare faults (· = .runs) k (n + (point :: points).length) := fun hfault hall =>
        hfault (hall n (by simp))
      obtain ⟨res, m₁, hserve, hsent₁, heffect⟩ :=
        h.query faults out now (pointRow crackId point true)
      rw [run_pointRow, if_pos hcrack] at heffect
      rw [hsent] at hsent₁
      refine Program.ends_call hserve ?_
      show (insertPointLoop conn crackId points _ >>= f).Ends _ r m₁ post
      cases heffect with
      | ran hrun _ hopen hstore =>
          rw [hsent] at hrun
          have hcrack₁ : m₁.backend.store.rows.hasId "cracks" crackId = true := by
            rw [hstore, hasId_addPoint]
            exact hcrack
          have hnext : 0 ≤ atoi (toString (m.backend.store.nextId "crack_points")) := by
            rw [atoi_nextId]
            exact Int.le_of_lt (m.backend.store.nextId_pos "crack_points")
          refine ih hopen hsent₁ (fare_succ.mpr ⟨hfare, hrun⟩) hcrack₁ hnext ?_ ?_
          · intro id m' hid' hopen' hsent' hfare' hstore'
            rw [hlength] at hsent' hfare'
            refine hran id m' hid' hopen' hsent' hfare' ?_
            rw [hstore', hstore]
            rfl
          · intro id m' hid' hfare' h'
            rw [hlength] at hfare' h'
            exact hspoiled id m' hid' hfare' h'
      | failed hfault hfailed hother hopen =>
          rw [hsent] at hfault hfailed
          rw [tuples_of_other hother]
          refine ends_insertPointLoop_spoiled (hopen.spoiled hfare hfault hsent₁) fun m' h' => ?_
          rw [hlength] at h'
          exact hspoiled lastId m' hid (hunfit fun hrun => by cases hfailed hrun) h'
      | dropped hfault hlost =>
          rw [hsent] at hfault
          refine ends_insertPointLoop_spoiled (hlost.spoiled hfault) fun m' h' => ?_
          rw [hlength] at h'
          exact hspoiled lastId m' hid (hunfit (Fate.ne_runs_of_loses hfault)) h'

end Points

/-! ## The report of `insert_crack_points` -/

/-- The points are in the table, and no other table has changed. -/
structure Persisted (now crackId : Int) (points : List (Point3D R)) (before after : Rows R) :
    Prop where
  points : (after "crack_points").map Record.values =
    (before "crack_points").map Record.values ++ points.map (pointValues now crackId)
  others : ∀ table, table ≠ "crack_points" → after table = before table

/-- The id tells what has become of the points. -/
structure Truthful (now crackId : Int) (points : List (Point3D R)) (before after : Rows R)
    (id : Int) : Prop where
  persisted : 0 ≤ id → Persisted now crackId points before after
  undone : id = -1 → after = before
  nonempty : points = [] → id ≠ -1

/-- The first of `n` points is inserted, a later one is not, and `COMMIT` still
reports that it has run. -/
def SilentLoss (faults : Nat → Fate) (rows : Rows R) (crackId : Int) (n : Nat) : Prop :=
  faults 0 = .runs ∧ rows.hasId "cracks" crackId = true ∧ faults 1 = .runs ∧
    Fare faults (·.loses = false) 1 n ∧ ¬ Fare faults (· = .runs) 1 n ∧ faults (n + 1) = .runs

/-- All of `n` points are inserted and `COMMIT` is executed, but its answer is lost. -/
def InDoubt (faults : Nat → Fate) (rows : Rows R) (crackId : Int) (n : Nat) : Prop :=
  faults 0 = .runs ∧ rows.hasId "cracks" crackId = true ∧ Fare faults (· = .runs) 1 n ∧
    faults (n + 1) = .unanswered

section Report

variable {faults : Nat → Fate} {out : Output R} {now : Int} {conn r : Connection} {crackId : Int}
  {points : List (Point3D R)} {rows before after : Rows R}

theorem persisted_addPoints (s : Store R) :
    Persisted now crackId points s.rows (s.addPoints now crackId points).rows where
  points := addPoints_rows now s crackId points
  others _ h := addPoints_rows_of_ne now s crackId points h

/-- Points that are all undone are not persisted. -/
theorem not_persisted (h : points ≠ []) : ¬ Persisted now crackId points rows rows := by
  intro hpersisted
  have hlength := congrArg List.length hpersisted.points
  rw [List.length_append, List.length_map (f := pointValues now crackId)] at hlength
  have hpos : 0 < points.length := List.length_pos_of_ne_nil h
  omega

/-- A failure that has left nothing is reported rightly, unless there are no
points. -/
theorem truthful_failure : Truthful now crackId points rows rows (-1) ↔ points ≠ [] := by
  refine ⟨fun h hnil => h.nonempty hnil rfl, fun h => ⟨fun hid => ?_, fun _ => rfl, ?_⟩⟩
  · exact absurd hid (by decide)
  · exact fun hnil => absurd hnil h

/-- The end of `insert_crack_points`. -/
theorem ends_close {id : Int} {ok : Bool} {m m₁ : Remote R}
    {post : Int → Remote R → List (Connection × Remote R) → Prop}
    (hcommand : m.command faults out now .commit = (ok, m₁)) (hclosed : m₁.Closed rows)
    (hpost : ∀ m' gone, m'.Closed rows → post (if ok then id else -1) m' gone) :
    (do
      if ← commitTransaction conn then
        release conn
        return id
      else
        let _ ← rollbackTransaction conn
        release conn
        return -1 : Db R Int).Ends (Remote.serve faults out now) r m post := by
  refine Remote.ends_transactionCommand faults out now hcommand ?_
  cases ok with
  | true => exact Program.ends_release (Program.ends_pure (hpost _ _ hclosed))
  | false =>
      obtain ⟨ok', m₂, hrollback, hclosed₂⟩ :=
        Remote.Revertible.rollback faults out now (.inr hclosed)
      refine Remote.ends_transactionCommand faults out now hrollback ?_
      exact Program.ends_release (Program.ends_pure (hpost _ _ hclosed₂))

/-- The report after the statements have been sent. -/
def Reported (faults : Nat → Fate) (now crackId : Int) (points : List (Point3D R))
    (before : Rows R) (id : Int) (after : Rows R) : Prop :=
  Truthful now crackId points before after id ↔
    points ≠ [] ∧ ¬ SilentLoss faults before crackId points.length ∧
      ¬ InDoubt faults before crackId points.length

/-- If nothing is lost silently or in doubt, it is right to report a failure that has
left nothing. -/
theorem reported_failure (hsilent : ¬ SilentLoss faults rows crackId points.length)
    (hdoubt : ¬ InDoubt faults rows crackId points.length) :
    Reported faults now crackId points rows (-1) rows := by
  rw [Reported, truthful_failure]
  exact ⟨fun hne => ⟨hne, hsilent, hdoubt⟩, And.left⟩

theorem reported_success (hne : points ≠ [])
    (hpersisted : Persisted now crackId points before after) {id : Int} (hid : 0 ≤ id)
    (hsilent : ¬ SilentLoss faults before crackId points.length)
    (hdoubt : ¬ InDoubt faults before crackId points.length) :
    Reported faults now crackId points before id after := by
  refine ⟨fun _ => ⟨hne, hsilent, hdoubt⟩,
    fun _ => ⟨fun _ => hpersisted, fun h' => ?_, fun h' => ?_⟩⟩
  · omega
  · exact absurd h' hne

/-- An id for a transaction that has been undone is a silent loss. -/
theorem reported_silentLoss (hne : points ≠ []) {id : Int} (hid : 0 ≤ id)
    (h : SilentLoss faults rows crackId points.length) :
    Reported faults now crackId points rows id rows :=
  ⟨fun h' => absurd (h'.persisted hid) (not_persisted hne), fun h' => absurd h h'.2.1⟩

/-- A failure is reported of points that are there. -/
theorem reported_inDoubt (hne : points ≠ [])
    (hpersisted : Persisted now crackId points before after)
    (h : InDoubt faults before crackId points.length) :
    Reported faults now crackId points before (-1) after := by
  refine ⟨fun h' => ?_, fun h' => absurd h h'.2.2⟩
  rw [h'.undone rfl] at hpersisted
  exact absurd hpersisted (not_persisted hne)

theorem not_inDoubt_of_not_fare {n : Nat} (h : ¬ Fare faults (· = .runs) 1 n) :
    ¬ InDoubt faults rows crackId n := fun h' => h h'.2.2.1

/-- `insert_crack_points` from some point on, in a transaction. -/
def pointsFrom (conn : Connection) (crackId : Int) (points : List (Point3D R)) (lastId : Int) :
    Db R Int := do
  let lastId ← insertPointLoop conn crackId points lastId
  if ← commitTransaction conn then
    release conn
    return lastId
  else
    let _ ← rollbackTransaction conn
    release conn
    return -1

theorem insertCrackPoints_eq (crackId : Int) (points : List (Point3D R)) :
    insertCrackPoints crackId points = (do
      let conn ← acquire
      if ← transactionCommand .begin conn then
        pointsFrom conn crackId points (-1)
      else
        release conn
        return -1) := rfl

/-- No id is returned if there has been none so far. -/
theorem ends_pointsFrom_failed {rest : List (Point3D R)} {n : Nat} {m : Remote R}
    (h : m.Spoiled faults 1 n rows) (hsilent : ¬ SilentLoss faults rows crackId points.length)
    (hdoubt : ¬ InDoubt faults rows crackId points.length) :
    (pointsFrom conn crackId rest (-1)).Ends (Remote.serve faults out now) r m fun id m' _ =>
      Reported faults now crackId points rows id m'.backend.store.rows := by
  refine ends_insertPointLoop_spoiled h fun m' hspoiled => ?_
  obtain ⟨ok, m₁, hcommand, hclosed, -⟩ := hspoiled.commit out now
  refine ends_close hcommand hclosed fun m₂ _ hclosed₂ => ?_
  rw [ite_self, hclosed₂.rows]
  exact reported_failure hsilent hdoubt

/-- The rest of the points, if the first one has been inserted. -/
theorem ends_pointsFrom_first {s : Store R} {point : Point3D R} {m : Remote R} {id : Int}
    (hbegin : faults 0 = .runs) (hcrack : s.rows.hasId "cracks" crackId = true)
    (hfirst : faults 1 = .runs) (hopen : m.Open s.rows false) (hsent : m.sent = 2)
    (hstore : m.backend.store = s.add "crack_points" (pointValues now crackId point) now)
    (hid : 0 ≤ id) :
    (pointsFrom conn crackId points id).Ends (Remote.serve faults out now) r m fun id m' _ =>
      Reported faults now crackId (point :: points) s.rows id m'.backend.store.rows := by
  have hne : point :: points ≠ [] := by simp
  have hlength : 1 + points.length = (point :: points).length := Nat.add_comm 1 _
  have hcrack' : m.backend.store.rows.hasId "cracks" crackId = true := by
    rw [hstore, hasId_addPoint]
    exact hcrack
  refine ends_insertPointLoop hopen hsent (fare_succ.mpr ⟨fare_zero, hfirst⟩) hcrack' hid ?_ ?_
  · intro id m' hid' hopen' hsent' hfare hstore'
    rw [hlength] at hfare
    have hsilent : ¬ SilentLoss faults s.rows crackId (point :: points).length := fun h =>
      h.2.2.2.2.1 hfare
    have hpersisted : Persisted now crackId (point :: points) s.rows m'.backend.store.rows := by
      rw [hstore', hstore]
      exact persisted_addPoints s
    obtain ⟨m₁, hcommand, hclosed⟩ := hopen'.commit faults out now
    have hplace : faults m'.sent = faults ((point :: points).length + 1) := by
      rw [hsent', hlength, Nat.add_comm]
    refine ends_close hcommand hclosed fun m₂ _ hclosed₂ => ?_
    rw [hclosed₂.rows, hplace]
    cases hcommit : faults ((point :: points).length + 1) with
    | runs =>
        refine reported_success hne hpersisted hid' hsilent fun h => ?_
        cases hcommit.symm.trans h.2.2.2
    | unanswered => exact reported_inDoubt hne hpersisted ⟨hbegin, hcrack, hfare, hcommit⟩
    | fails => exact reported_failure hsilent fun h => by cases hcommit.symm.trans h.2.2.2
    | drops => exact reported_failure hsilent fun h => by cases hcommit.symm.trans h.2.2.2
  · intro id m' hid' hfare hspoiled
    rw [hlength] at hfare hspoiled
    obtain ⟨ok, m₁, hcommand, hclosed, hok⟩ := hspoiled.commit out now
    have hsilent : SilentLoss faults s.rows crackId (point :: points).length ↔ ok = true := by
      rw [hok, Nat.add_comm 1]
      exact ⟨fun h => ⟨h.2.2.2.1, h.2.2.2.2.2⟩,
        fun h => ⟨hbegin, hcrack, hfirst, h.1, hfare, h.2⟩⟩
    refine ends_close hcommand hclosed fun m₂ _ hclosed₂ => ?_
    rw [hclosed₂.rows]
    cases ok with
    | true => exact reported_silentLoss hne hid' (hsilent.mpr rfl)
    | false =>
        refine reported_failure (fun h => ?_) (not_inDoubt_of_not_fare hfare)
        cases hsilent.mp h

/-- A transaction that has just been opened. -/
theorem ends_pointsFrom {s : Store R} {m : Remote R} (hbegin : faults 0 = .runs)
    (hopen : m.Open s.rows false) (hsent : m.sent = 1) (hstore : m.backend.store = s) :
    (pointsFrom conn crackId points (-1)).Ends (Remote.serve faults out now) r m fun id m' _ =>
      Reported faults now crackId points s.rows id m'.backend.store.rows := by
  cases points with
  | nil =>
      obtain ⟨m', hcommand, hclosed⟩ := hopen.commit faults out now
      have hrows : m'.Closed s.rows := by
        rw [hstore, ite_self] at hclosed
        exact hclosed
      refine ends_close hcommand hrows fun m₁ _ hclosed₁ => ?_
      rw [hclosed₁.rows, ite_self]
      exact ⟨fun h => absurd rfl (h.nonempty rfl), fun h => absurd rfl h.1⟩
  | cons point points =>
      obtain ⟨res, m₁, hserve, hsent₁, heffect⟩ :=
        hopen.query faults out now (pointRow crackId point true)
      rw [hsent] at hsent₁
      rw [hstore, run_pointRow] at heffect
      refine Program.ends_call hserve ?_
      show (pointsFrom conn crackId points _).Ends _ r m₁ _
      cases heffect with
      | ran hrun hok hopen₁ hstore₁ =>
          rw [hsent] at hrun
          by_cases hcrack : s.rows.hasId "cracks" crackId = true
          · rw [if_pos hcrack] at hstore₁ ⊢
            have hid : 0 ≤ atoi (toString (s.nextId "crack_points")) := by
              rw [atoi_nextId]
              exact Int.le_of_lt (s.nextId_pos "crack_points")
            exact ends_pointsFrom_first hbegin hcrack hrun hopen₁ hsent₁ hstore₁ hid
          · rw [if_neg hcrack] at hok
            exact absurd rfl hok
      | failed hfault hfailed hother hopen₁ =>
          rw [hsent] at hfault hfailed
          rw [tuples_of_other hother]
          have hrefused : ¬ (s.rows.hasId "cracks" crackId = true ∧ faults 1 = .runs) := by
            rintro ⟨hcrack, hrun⟩
            rw [if_pos hcrack] at hfailed
            cases hfailed hrun
          exact ends_pointsFrom_failed (hopen₁.spoiled fare_zero hfault hsent₁)
            (fun h => hrefused ⟨h.2.1, h.2.2.1⟩)
            fun h => hrefused ⟨h.2.1, h.2.2.1 0 (Nat.zero_lt_succ _)⟩
      | dropped hfault hlost =>
          rw [hsent] at hfault
          have hfirst := Fate.ne_runs_of_loses hfault
          exact ends_pointsFrom_failed (hlost.spoiled (n := 0) hfault)
            (fun h => hfirst h.2.2.1) fun h => hfirst (h.2.2.1 0 (Nat.zero_lt_succ _))

end Report

/-- The id that `insert_crack_points` returns tells what has become of the
points, unless there are none, a loss is silent or the `COMMIT` is in doubt. -/
theorem insertCrackPoints_truthful_iff (faults : Nat → Fate) (out : Output R) (now : Int)
    (r : Connection) (s : Store R) (crackId : Int) (points : List (Point3D R)) :
    ∃ id m, (insertCrackPoints crackId points).runAlone (Remote.serve faults out now) r
        (Remote.idle s) = (some id, m) ∧
      (Truthful now crackId points s.rows m.backend.store.rows id ↔
        points ≠ [] ∧ ¬ SilentLoss faults s.rows crackId points.length ∧
          ¬ InDoubt faults s.rows crackId points.length) := by
  obtain ⟨m₁, hcommand, hsent, hopen, hclosed⟩ := Remote.command_begin faults out now s
  show (insertCrackPoints crackId points).Ends (Remote.serve faults out now) r (Remote.idle s)
    fun id m _ => Reported faults now crackId points s.rows id m.backend.store.rows
  rw [insertCrackPoints_eq]
  refine Program.ends_acquire (Remote.ends_transactionCommand faults out now hcommand ?_)
  by_cases hbegin : faults 0 = .runs
  · rw [decide_eq_true hbegin]
    exact ends_pointsFrom hbegin (hopen hbegin).1 hsent (hopen hbegin).2
  · rw [decide_eq_false hbegin]
    refine Program.ends_release (Program.ends_pure ?_)
    rw [(hclosed hbegin).rows]
    exact reported_failure (fun h => hbegin h.1) fun h => hbegin h.1

/-- The third statement fails, which is the second `INSERT`. -/
def thirdFails (n : Nat) : Fate := if n = 2 then .fails else .runs

/-- The second of two points is refused, and the id of the first one is returned
for a transaction that has been undone. -/
theorem refused_point_is_not_reported :
    ¬ ∀ (faults : Nat → Fate) (out : Output Unit) (now : Int) (r : Connection) (s : Store Unit)
        (crackId : Int) (points : List (Point3D Unit)) (id : Int) (m : Remote Unit),
      (insertCrackPoints crackId points).runAlone (Remote.serve faults out now) r (Remote.idle s) =
        (some id, m) → Truthful now crackId points s.rows m.backend.store.rows id := by
  intro h
  let points : List (Point3D Unit) := .replicate 2 ⟨(), (), (), (), (), none, none⟩
  have htruthful := h thirdFails plainOutput 0 0 oneCrack 1 points (atoi (toString (1 : Int))) _ rfl
  have hid : 0 ≤ atoi (toString (1 : Int)) := by rw [atoi_toString] <;> decide
  exact not_persisted (List.cons_ne_nil _ _) (htruthful.persisted hid)

end PorcelainMonitor.Database
