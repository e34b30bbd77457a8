import PorcelainMonitor.Database.AlertStore
import PorcelainMonitor.Database.Faults

/-!
# Detections, all or nothing

`batch_insert_crack_detections` stops at the first failed statement and then
undoes its transaction.  So whatever fails, its report is right, and it gives its
connection back once and outside any transaction.  A `COMMIT` that is executed but not
answered is left out: the `ROLLBACK` after it would have no connection.

`Store.addDetections` is what the batch is for.  Every crack is added under the
next id, and its points refer to that id.
-/

namespace PorcelainMonitor.Database

open PooledProgram (Program)

variable {R : Type}

/-! ## Detections in the store -/

/-- The values of the row of a crack. -/
def crackValues (now porcelainId : Int) (crack : CrackInfo R) : List (String × Value R) :=
  rowValues "cracks" (crackRow crack porcelainId).values now

/-- A crack under the next id, with its points. -/
def Store.addDetection (now porcelainId : Int) (s : Store R)
    (detection : CrackInfo R × List (Point3D R)) : Store R :=
  (s.add "cracks" (crackValues now porcelainId detection.1) now).addPoints now (s.nextId "cracks")
    detection.2

def Store.addDetections (now porcelainId : Int) (s : Store R)
    (detections : List (CrackInfo R × List (Point3D R))) : Store R :=
  detections.foldl (Store.addDetection now porcelainId) s

/-- The rows of cracks under these ids. -/
def crackRecords (now porcelainId : Int) (ids : List Int) (cracks : List (CrackInfo R)) :
    List (Record R) :=
  ids.zipWith (fun id crack => ⟨id, crackValues now porcelainId crack, now⟩) cracks

/-- The values of the rows of points, each with the id of its own crack. -/
def detectedValues (now : Int) (ids : List Int) (crackPoints : List (List (Point3D R))) :
    List (List (String × Value R)) :=
  (ids.zip crackPoints).flatMap fun (id, points) => points.map (pointValues now id)

section Rows

variable (now porcelainId : Int)

/-- Detections add rows to two tables. -/
theorem addDetections_rows (detections : List (CrackInfo R × List (Point3D R))) :
    ∀ s : Store R, ∃ ids : List Int, ids.length = detections.length ∧
      (s.addDetections now porcelainId detections).rows "cracks" =
        s.rows "cracks" ++ crackRecords now porcelainId ids (detections.map Prod.fst) ∧
      ((s.addDetections now porcelainId detections).rows "crack_points").map Record.values =
        (s.rows "crack_points").map Record.values ++
          detectedValues now ids (detections.map Prod.snd) ∧
      ∀ table, table ≠ "cracks" → table ≠ "crack_points" →
        (s.addDetections now porcelainId detections).rows table = s.rows table := by
  induction detections with
  | nil =>
      intro s
      exact ⟨[], rfl, (List.append_nil _).symm, (List.append_nil _).symm, fun _ _ _ => rfl⟩
  | cons detection detections ih =>
      intro s
      obtain ⟨ids, hlength, hcracks, hpoints, hothers⟩ :=
        ih (s.addDetection now porcelainId detection)
      refine ⟨s.nextId "cracks" :: ids, by rw [List.length_cons, hlength, List.length_cons], ?_, ?_,
        fun table hcrack hpoint => ?_⟩
      · refine hcracks.trans ?_
        rw [Store.addDetection, addPoints_rows_of_ne now _ _ _ (by simp), Store.add_rows,
          Function.update_self, List.append_assoc]
        rfl
      · refine hpoints.trans ?_
        rw [Store.addDetection, addPoints_rows, Store.add_rows, Function.update_of_ne (by simp),
          List.append_assoc]
        rfl
      · refine (hothers table hcrack hpoint).trans ?_
        rw [Store.addDetection, addPoints_rows_of_ne now _ _ _ hpoint, Store.add_rows,
          Function.update_of_ne hcrack]

end Rows

/-- All rows are there: the one of the laser data, one for every crack, and one
for every point with the id of its own crack.  No other table has changed. -/
structure Committed (now porcelainId : Int) (laser : Query R) (cracks : List (CrackInfo R))
    (crackPoints : List (List (Point3D R))) (before after : Rows R) : Prop where
  laser : ∃ id, after "laser_microscope_data" = before "laser_microscope_data" ++
    [⟨id, rowValues "laser_microscope_data" laser.values now, now⟩]
  detections : ∃ ids : List Int, ids.length = cracks.length ∧
    after "cracks" = before "cracks" ++ crackRecords now porcelainId ids cracks ∧
    (after "crack_points").map Record.values =
      (before "crack_points").map Record.values ++ detectedValues now ids crackPoints
  others : ∀ table, table ≠ "laser_microscope_data" → table ≠ "cracks" → table ≠ "crack_points" →
    after table = before table

theorem committed_addDetections {now porcelainId : Int} {laser : Query R}
    {cracks : List (CrackInfo R)} {crackPoints : List (List (Point3D R))}
    (hlength : crackPoints.length = cracks.length) (s : Store R) :
    Committed now porcelainId laser cracks crackPoints s.rows
      ((s.add "laser_microscope_data"
        (rowValues "laser_microscope_data" laser.values now) now).addDetections now porcelainId
          (cracks.zip crackPoints)).rows := by
  obtain ⟨ids, hids, hcracks, hpoints, hothers⟩ := addDetections_rows now porcelainId
    (cracks.zip crackPoints) (s.add "laser_microscope_data"
      (rowValues "laser_microscope_data" laser.values now) now)
  rw [List.map_fst_zip (Nat.le_of_eq hlength.symm), Store.add_rows,
    Function.update_of_ne (by simp)] at hcracks
  rw [List.map_snd_zip (Nat.le_of_eq hlength), Store.add_rows,
    Function.update_of_ne (by simp)] at hpoints
  rw [List.length_zip, hlength, Nat.min_self] at hids
  refine ⟨⟨s.nextId "laser_microscope_data", ?_⟩, ⟨ids, hids, hcracks, hpoints⟩,
    fun table hlaser hcrack hpoint => ?_⟩
  · rw [hothers _ (by simp) (by simp), Store.add_rows, Function.update_self]
  · rw [hothers table hcrack hpoint, Store.add_rows, Function.update_of_ne hlaser]

/-- A batch is never empty, since it has the laser data. -/
theorem not_committed {now porcelainId : Int} {laser : Query R} {cracks : List (CrackInfo R)}
    {crackPoints : List (List (Point3D R))} {rows : Rows R} :
    ¬ Committed now porcelainId laser cracks crackPoints rows rows := by
  intro h
  obtain ⟨id, hrows⟩ := h.laser
  have hlength := congrArg List.length hrows
  rw [List.length_append, List.length_singleton] at hlength
  omega

/-! ## The statements of a batch -/

section Statements

variable (faults : Nat → Fate) (out : Output R) (now : Int) {conn r : Connection} {rows : Rows R}

/-- An `INSERT` in a transaction adds its row, or nothing can be committed any
more. -/
theorem Remote.Open.insert {m : Remote R} (h : m.Open rows false) (table : String)
    (values : List (String × Value R)) (returning : Bool) :
    ∃ res m', m.serve faults out now (.query (.insert table values returning)) =
        (.result res, m') ∧
      ((m'.Open rows false ∧ m'.sent = m.sent + 1 ∧
          m'.backend.store = m.backend.store.add table (rowValues table values now) now ∧
          res = some (if returning then
            ⟨.tuplesOk, [[some (toString (m.backend.store.nextId table))]]⟩ else done)) ∨
        (m'.Revertible rows ∧ commandOk res = false ∧ tuples res = [])) := by
  obtain ⟨res, m', hserve, hsent, heffect⟩ :=
    h.query faults out now (.insert table values returning)
  refine ⟨res, m', hserve, ?_⟩
  cases heffect with
  | ran _ hok hopen hstore =>
      refine .inl ⟨hopen, hsent, ?_⟩
      cases hadmits : m.backend.store.rows.admits table (rowValues table values now) with
      | false =>
          rw [run_insert_of_not_admits out now hadmits] at hok
          exact absurd rfl hok
      | true =>
          rw [Store.run, if_pos hadmits] at hstore ⊢
          exact ⟨hstore, rfl⟩
  | failed _ _ hother hopen =>
      exact .inr ⟨.inl ⟨true, hopen⟩, commandOk_of_other hother, tuples_of_other hother⟩
  | dropped _ hlost => exact .inr ⟨.inr hlost.toClosed, rfl, rfl⟩

/-- Whatever has failed, the connection is given back with the rows as they
were. -/
theorem ends_giveUp {m : Remote R} (h : m.Revertible rows) :
    (giveUp conn).Ends (Remote.serve faults out now) r m fun ok m' gone =>
      ok = false ∧ gone = [(conn, m')] ∧ m'.Closed rows := by
  obtain ⟨ok, m', hrollback, hclosed⟩ := h.rollback faults out now
  refine Remote.ends_transactionCommand faults out now hrollback ?_
  exact Program.ends_release (Program.ends_pure ⟨rfl, rfl, hclosed⟩)

variable {faults out now} {next : Db R Bool}
  {post : Bool → Remote R → List (Connection × Remote R) → Prop}

/-- The rows of cracks with these points. -/
def rowCount (crackPoints : List (List (Point3D R))) : Nat :=
  (crackPoints.map fun points => points.length + 1).sum

theorem ends_detectionPoints {crackId : Int}
    (hgiveUp : ∀ m : Remote R, m.Revertible rows →
      (giveUp conn).Ends (Remote.serve faults out now) r m post) {points : List (Point3D R)} :
    ∀ {m : Remote R}, m.Open rows false →
      (∀ m' : Remote R, m'.Open rows false → m'.sent = m.sent + points.length →
        m'.backend.store = m.backend.store.addPoints now crackId points →
        next.Ends (Remote.serve faults out now) r m' post) →
      (detectionPoints conn crackId next points).Ends (Remote.serve faults out now) r m post := by
  induction points with
  | nil => exact fun h hnext => hnext _ h rfl rfl
  | cons point points ih =>
      intro m h hnext
      obtain ⟨res, m₁, hserve, ⟨hopen, hsent, hstore, rfl⟩ | ⟨hrevertible, hcommand, -⟩⟩ :=
        h.insert faults out now "crack_points" (pointRow crackId point false).values false
      · refine Program.ends_call hserve (ih hopen fun m' hopen' hsent' hstore' =>
          hnext m' hopen' ?_ ?_)
        · rw [hsent', hsent, List.length_cons, Nat.add_assoc, Nat.add_comm 1]
        · rw [hstore', hstore]
          rfl
      · refine Program.ends_call hserve ?_
        show (if commandOk res then _ else giveUp conn).Ends _ r m₁ post
        rw [hcommand]
        exact hgiveUp m₁ hrevertible

theorem ends_detectionCracks {porcelainId : Int}
    (hgiveUp : ∀ m : Remote R, m.Revertible rows →
      (giveUp conn).Ends (Remote.serve faults out now) r m post)
    {detections : List (CrackInfo R × List (Point3D R))} :
    ∀ {m : Remote R}, m.Open rows false →
      (∀ m' : Remote R, m'.Open rows false → m'.sent = m.sent + rowCount (detections.map Prod.snd) →
        m'.backend.store = m.backend.store.addDetections now porcelainId detections →
        next.Ends (Remote.serve faults out now) r m' post) →
      (detectionCracks conn porcelainId next detections).Ends (Remote.serve faults out now) r m
        post := by
  induction detections with
  | nil => exact fun h hnext => hnext _ h rfl rfl
  | cons detection detections ih =>
      obtain ⟨crack, points⟩ := detection
      intro m h hnext
      obtain ⟨res, m₁, hserve, ⟨hopen, hsent, hstore, rfl⟩ | ⟨hrevertible, -, htuples⟩⟩ :=
        h.insert faults out now "cracks" (crackRow crack porcelainId).values true
      · refine Program.ends_call hserve ?_
        show (detectionPoints conn (atoi (toString (m.backend.store.nextId "cracks")))
          (detectionCracks conn porcelainId next detections) points).Ends _ r m₁ post
        rw [atoi_nextId]
        refine ends_detectionPoints hgiveUp hopen fun m₂ hopen₂ hsent₂ hstore₂ => ?_
        refine ih hopen₂ fun m' hopen' hsent' hstore' => hnext m' hopen' ?_ ?_
        · rw [hsent', hsent₂, hsent]
          simp only [rowCount, List.map_cons, List.sum_cons]
          omega
        · rw [hstore', hstore₂, hstore]
          rfl
      · rw [detectionCracks]
        refine Remote.ends_exec faults out now hserve ?_
        rw [htuples]
        exact hgiveUp m₁ hrevertible

end Statements

/-! ## The batch -/

theorem laserRow_eq_insert {data : LaserMicroscopeData R} {returning : Bool} {q : Query R}
    (h : laserRow data returning = some q) :
    q = .insert "laser_microscope_data" q.values returning := by
  rw [laserRow] at h
  cases hdump : dumpOrNull data.processedData with
  | none =>
      rw [hdump] at h
      cases h
  | some processedData =>
      rw [hdump] at h
      cases h
      rfl

/-- How a batch ends: its connection is given back, in no transaction and with
all the rows or none. -/
def Settled (r : Connection) (before after : Rows R) (ok : Bool) (m : Remote R)
    (gone : List (Connection × Remote R)) : Prop :=
  gone = [(r, m)] ∧ m.Closed (if ok then after else before)

section Batch

variable (faults : Nat → Fate) (out : Output R) (now : Int) (r : Connection) (s : Store R)
  {laserData : LaserMicroscopeData R} {laser : Query R}

theorem ends_commit {m : Remote R} {before : Rows R} (h : m.Open before false)
    (hanswered : faults m.sent ≠ .unanswered) :
    (do
      if ← commitTransaction r then
        release r
        return true
      else
        giveUp r : Db R Bool).Ends (Remote.serve faults out now) r m
          (Settled r before m.backend.store.rows) := by
  obtain ⟨m', hcommand, hclosed⟩ := h.commit faults out now
  refine Remote.ends_transactionCommand faults out now hcommand ?_
  by_cases hrun : faults m.sent = .runs
  · rw [if_pos ⟨Fate.executes_of_runs hrun, rfl⟩] at hclosed
    rw [decide_eq_true hrun]
    exact Program.ends_release (Program.ends_pure ⟨rfl, hclosed⟩)
  · have hundone : (faults m.sent).executes = false := by
      cases hfate : faults m.sent with
      | runs => exact absurd hfate hrun
      | unanswered => exact absurd hfate hanswered
      | fails => rfl
      | drops => rfl
    rw [if_neg (by simp [hundone])] at hclosed
    rw [decide_eq_false hrun]
    obtain ⟨ok, m₁, hgiveUp, rfl, hgone, hclosed₁⟩ := ends_giveUp faults out now (.inr hclosed)
    exact ⟨false, m₁, hgiveUp, hgone, hclosed₁⟩

/-- A batch that stops early has left nothing. -/
theorem settled_giveUp {m : Remote R} {before after : Rows R} (h : m.Revertible before) :
    (giveUp r).Ends (Remote.serve faults out now) r m (Settled r before after) := by
  obtain ⟨ok, m', hgiveUp, rfl, hgone, hclosed⟩ := ends_giveUp faults out now h
  exact ⟨false, m', hgiveUp, hgone, hclosed⟩

theorem ends_batch (hlaser : laserRow laserData true = some laser) (cracks : List (CrackInfo R))
    (crackPoints : List (List (Point3D R))) (hlength : crackPoints.length = cracks.length)
    (hcommit : faults (2 + rowCount crackPoints) ≠ .unanswered) (porcelainId : Int) :
    (batchInsertCrackDetections laserData cracks crackPoints porcelainId).Ends
      (Remote.serve faults out now) r (Remote.idle s) (Settled r s.rows
        ((s.add "laser_microscope_data" (rowValues "laser_microscope_data" laser.values now)
          now).addDetections now porcelainId (cracks.zip crackPoints)).rows) := by
  obtain ⟨m₁, hcommand, hsent₁, hopen, hclosed⟩ := Remote.command_begin faults out now s
  refine Program.ends_acquire ?_
  refine Remote.ends_transactionCommand faults out now hcommand ?_
  by_cases hbegin : faults 0 = .runs
  · obtain ⟨hopen₁, hstore₁⟩ := hopen hbegin
    obtain ⟨res, m₂, hserve, hinsert⟩ :=
      hopen₁.insert faults out now "laser_microscope_data" laser.values true
    rw [← laserRow_eq_insert hlaser] at hserve
    rw [decide_eq_true hbegin, hlaser]
    show (exec r (.query laser) >>= _).Ends _ r m₁ _
    refine Remote.ends_exec faults out now hserve ?_
    rcases hinsert with ⟨hopen₂, hsent₂, hstore₂, rfl⟩ | ⟨hrevertible, -, htuples⟩
    · refine ends_detectionCracks (fun m h => settled_giveUp faults out now r h) hopen₂ ?_
      intro m hopen₃ hsent₃ hstore₃
      rw [hstore₂, hstore₁] at hstore₃
      rw [hsent₂, hsent₁, List.map_snd_zip (Nat.le_of_eq hlength)] at hsent₃
      rw [← hstore₃]
      exact ends_commit faults out now r hopen₃ (hsent₃ ▸ hcommit)
    · rw [htuples]
      exact settled_giveUp faults out now r hrevertible
  · rw [decide_eq_false hbegin]
    exact Program.ends_release (Program.ends_pure ⟨rfl, hclosed hbegin⟩)

end Batch

/-- Whatever fails, the batch reports exactly whether its rows are there or none
of them, and it gives its connection back once and in no transaction.  `BEGIN`, the
laser row and the rows of the cracks come before the `COMMIT`, whose answer is not
lost once it is executed. -/
theorem batchInsertCrackDetections_atomic (faults : Nat → Fate) (out : Output R) (now : Int)
    (r : Connection) (s : Store R) {laserData : LaserMicroscopeData R} {laser : Query R}
    (hlaser : laserRow laserData true = some laser) {cracks : List (CrackInfo R)}
    {crackPoints : List (List (Point3D R))} (hlength : crackPoints.length = cracks.length)
    (hcommit : faults (2 + rowCount crackPoints) ≠ .unanswered) (porcelainId : Int) :
    ∃ ok m, (batchInsertCrackDetections laserData cracks crackPoints porcelainId).runAlone
        (Remote.serve faults out now) r (Remote.idle s) = (some ok, m) ∧
      (ok = true ↔
        Committed now porcelainId laser cracks crackPoints s.rows m.backend.store.rows) ∧
      (ok = false ↔ m.backend.store.rows = s.rows) ∧
      (batchInsertCrackDetections laserData cracks crackPoints porcelainId).releases
        (Remote.serve faults out now) r (Remote.idle s) = [(r, m)] ∧
      m.session.clean = true := by
  obtain ⟨ok, m, hrun, hgone, hclosed⟩ :=
    ends_batch faults out now r s hlaser cracks crackPoints hlength hcommit porcelainId
  have hcommitted : Committed now porcelainId laser cracks crackPoints s.rows _ :=
    committed_addDetections hlength s
  suffices h : (ok = true ↔
      Committed now porcelainId laser cracks crackPoints s.rows m.backend.store.rows) ∧
      (ok = false ↔ m.backend.store.rows = s.rows) from
    ⟨ok, m, hrun, h.1, h.2, hgone, hclosed.clean⟩
  rw [hclosed.rows]
  cases ok with
  | true =>
      refine ⟨iff_of_true rfl hcommitted, iff_of_false (by simp) fun hsame => ?_⟩
      exact not_committed (hsame ▸ hcommitted)
  | false => exact ⟨iff_of_false (by simp) not_committed, iff_of_true rfl rfl⟩

/-- A crack of one point. -/
def chip : CrackInfo Unit :=
  ⟨0, 1, "CRK-1-0", (), (), (), "", [⟨(), (), (), (), (), none, none⟩], 0⟩

def chipReading : LaserMicroscopeData Unit :=
  ⟨0, 1, 1, 0, ((), (), (), ()), (), true, 1, [chip], .null⟩

/-- Nothing fails, and the three rows are there. -/
theorem batchInsertCrackDetections_atomic_chip :
    ∃ laser m, laserRow chipReading true = some laser ∧
      (batchInsertCrackDetections chipReading [chip] [chip.points] 1).runAlone
        (Remote.serve (fun _ => .runs) plainOutput 0) 0 (Remote.idle oneCrack) = (some true, m) ∧
      Committed 0 1 laser [chip] [chip.points] oneCrack.rows m.backend.store.rows ∧
      (batchInsertCrackDetections chipReading [chip] [chip.points] 1).releases
        (Remote.serve (fun _ => .runs) plainOutput 0) 0 (Remote.idle oneCrack) = [(0, m)] ∧
      m.session.clean = true := by
  obtain ⟨laser, hlaser⟩ : ∃ laser, laserRow chipReading true = some laser := ⟨_, rfl⟩
  obtain ⟨ok, m, hrun, hok, -, hreleases, hclean⟩ :=
    @batchInsertCrackDetections_atomic Unit (fun _ => .runs) plainOutput 0 0 oneCrack chipReading
      laser hlaser [chip] [chip.points] rfl (by decide) 1
  obtain rfl : true = ok := Option.some.inj (congrArg Prod.fst hrun)
  exact ⟨laser, m, hlaser, hrun, hok.mp rfl, hreleases, hclean⟩

end PorcelainMonitor.Database
