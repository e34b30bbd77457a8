import PorcelainMonitor.Database.DatabaseManager

/-!
# Conservation of the connection pool

All operations of the database as one service over the pool.  The statements of
an operation are sound as long as nothing it calls throws while it holds a
connection, and no answer leaves a transaction open that the operation does not
close any more.
-/

namespace PorcelainMonitor.Database

open PooledProgram

/-! ## The operations as a service -/

/-- A call of an operation of `DatabaseManager`. -/
inductive Operation (R : Type) where
  | insertLaserData (data : LaserMicroscopeData R)
  | insertVibrationData (data : VibrationData R)
  | insertCrack (crack : CrackInfo R) (porcelainId : Int)
  | insertCrackPoints (crackId : Int) (points : List (Point3D R))
  | insertAlert (alert : Alert R)
  | insertPrediction (prediction : CrackPrediction R)
  | insertSimulation (simulation : RepairSimulation R)
  | logProfinetPacket (sourceIp destIp : String) (frameId : UInt16) (payload : List UInt8)
  | getAllPorcelains
  | getPorcelain (id : Int)
  | getCracksByPorcelain (porcelainId limit : Int)
  | getCrack (crackId : Int)
  | getCrackPoints (crackId : Int)
  | getActiveAlerts
  | getRepairMaterials
  | updateAlertStatus (alertId : Int) (status : AlertStatus)
  | batchInsertLaserData (dataList : List (LaserMicroscopeData R))
  | batchInsertVibrationData (dataList : List (VibrationData R))
  | batchInsertCrackDetections (laserData : LaserMicroscopeData R) (cracks : List (CrackInfo R))
      (crackPoints : List (List (Point3D R))) (porcelainId : Int)

namespace Operation

variable {R : Type}

def Result : Operation R → Type
  | insertLaserData _ => Int
  | insertVibrationData _ => Int
  | insertCrack _ _ => Int
  | insertCrackPoints _ _ => Int
  | insertAlert _ => Int
  | insertPrediction _ => Int
  | insertSimulation _ => Int
  | logProfinetPacket _ _ _ _ => Unit
  | getAllPorcelains => List (PorcelainInfo R)
  | getPorcelain _ => PorcelainInfo R
  | getCracksByPorcelain _ _ => List (CrackInfo R)
  | getCrack _ => CrackInfo R
  | getCrackPoints _ => List (Point3D R)
  | getActiveAlerts => List (Alert R)
  | getRepairMaterials => List (RepairMaterial R)
  | updateAlertStatus _ _ => Bool
  | batchInsertLaserData _ => Bool
  | batchInsertVibrationData _ => Bool
  | batchInsertCrackDetections _ _ _ _ => Bool

def code [Zero R] (lib : Reading R) : (op : Operation R) → Db R op.Result
  | insertLaserData data => Database.insertLaserData data
  | insertVibrationData data => Database.insertVibrationData data
  | insertCrack crack porcelainId => Database.insertCrack crack porcelainId
  | insertCrackPoints crackId points => Database.insertCrackPoints crackId points
  | insertAlert alert => Database.insertAlert alert
  | insertPrediction prediction => Database.insertPrediction prediction
  | insertSimulation simulation => Database.insertSimulation simulation
  | logProfinetPacket sourceIp destIp frameId payload =>
      Database.logProfinetPacket sourceIp destIp frameId payload
  | getAllPorcelains => Database.getAllPorcelains lib
  | getPorcelain id => Database.getPorcelain lib id
  | getCracksByPorcelain porcelainId limit => Database.getCracksByPorcelain lib porcelainId limit
  | getCrack crackId => Database.getCrack lib crackId
  | getCrackPoints crackId => Database.getCrackPoints lib crackId
  | getActiveAlerts => Database.getActiveAlerts lib
  | getRepairMaterials => Database.getRepairMaterials lib
  | updateAlertStatus alertId status => Database.updateAlertStatus alertId status
  | batchInsertLaserData dataList => Database.batchInsertLaserData dataList
  | batchInsertVibrationData dataList => Database.batchInsertVibrationData dataList
  | batchInsertCrackDetections laserData cracks crackPoints porcelainId =>
      Database.batchInsertCrackDetections laserData cracks crackPoints porcelainId

/-- The operation works inside a transaction. -/
def transactional : Operation R → Bool
  | insertCrackPoints _ _ => true
  | batchInsertLaserData _ => true
  | batchInsertVibrationData _ => true
  | batchInsertCrackDetections _ _ _ _ => true
  | _ => false

/-- The operation does not look at what `COMMIT` answers. -/
def ignoresCommit : Operation R → Bool
  | batchInsertLaserData _ => true
  | batchInsertVibrationData _ => true
  | _ => false

end Operation

variable {R : Type}

def service [Zero R] (lib : Reading R) : Service Connection Session (Call R) Reply where
  Op := Operation R
  Result := Operation.Result
  code := Operation.code lib
  answers := answers
  clean := Session.clean

/-! ## Answers that fit -/

/-- The reply to a call is `PGRES_COMMAND_OK`. -/
def Reply.commandOk : Reply → Bool
  | .result res => Database.commandOk res
  | .connected _ => false

/-- An answer leaves a transaction open only where the operation still ends it.
`BEGIN` opens one only if it succeeds.  After a `COMMIT` that leaves it open the
operation goes on with `ROLLBACK`, unless it does not look at the answer, and
`ROLLBACK` leaves none open.  The one statement of an operation without a
transaction opens none, which only a text with an apostrophe could make it do. -/
def FitsFor (transactional ignoresCommit : Bool) (d : Session) (call : Call R) (reply : Reply)
    (d' : Session) : Prop :=
  d' = .transaction →
    match call with
    | .status => True
    | .transaction .begin => reply.commandOk = true
    | .transaction .commit => ignoresCommit = false
    | .transaction .rollback => False
    | .query _ => d = .transaction ∨ transactional = true

def Fits (op : Operation R) : Session → Call R → Reply → Session → Prop :=
  FitsFor op.transactional op.ignoresCommit

/-! ## Rules for calls -/

section Rules

variable {transactional ignoresCommit : Bool}

/-- The answers that a session may give and that fit. -/
def Allowed (transactional ignoresCommit : Bool) (d : Session) (call : Call R) (reply : Reply)
    (d' : Session) : Prop :=
  answers d call reply d' = true ∧ FitsFor transactional ignoresCommit d call reply d'

/-- The precondition of a program on the connections. -/
def Pre {β : Type} (transactional ignoresCommit : Bool) (p : Db R β)
    (post : β → Option (Connection × Session) → Prop) (h : Option (Connection × Session)) : Prop :=
  p.wp (Allowed transactional ignoresCommit) (fun d => d.clean = true) post h

variable {β γ : Type} {post : β → Option (Connection × Session) → Prop} {conn : Connection}
  {d : Session}

theorem pre_bind {p : Db R γ} {f : γ → Db R β} {h : Option (Connection × Session)}
    (hp : Pre transactional ignoresCommit p
      (fun b h' => Pre transactional ignoresCommit (f b) post h') h) :
    Pre transactional ignoresCommit (p >>= f) post h :=
  (Program.wp_bind p f post h).mpr hp

theorem pre_acquire {post : Connection → Option (Connection × Session) → Prop}
    (hpost : ∀ conn d, d.clean = true → post conn (some (conn, d))) :
    Pre transactional ignoresCommit (acquire : Db R Connection) post none :=
  ⟨rfl, hpost⟩

theorem pre_release {post : Unit → Option (Connection × Session) → Prop} (hd : d.clean = true)
    (hpost : post () none) :
    Pre transactional ignoresCommit (release conn : Db R Unit) post (some (conn, d)) :=
  ⟨⟨d, rfl, hd⟩, hpost⟩

theorem pre_exec {post : Option PGresult → Option (Connection × Session) → Prop} {call : Call R}
    (hpost : ∀ res d', Allowed transactional ignoresCommit d call (.result res) d' →
      post res (some (conn, d')))
    (hcall : ∀ b d', answers d call (.connected b) d' = false) :
    Pre transactional ignoresCommit (exec conn call) post (some (conn, d)) := by
  refine ⟨d, rfl, fun reply d' hreply => ?_⟩
  cases reply with
  | connected b =>
      have hanswer := hreply.1
      rw [hcall b d'] at hanswer
      cases hanswer
  | result res => exact hpost res d' hreply

theorem pre_ofOption {x : Option β} {h : Option (Connection × Session)}
    (hpost : ∀ b, x = some b → post b h) :
    Pre transactional ignoresCommit (Program.ofOption x : Db R β) post h :=
  Program.wp_ofOption hpost

theorem pre_query {post : Option PGresult → Option (Connection × Session) → Prop} {q : Query R}
    (hpost : ∀ res d', Allowed transactional ignoresCommit d (.query q) (.result res) d' →
      post res (some (conn, d'))) :
    Pre transactional ignoresCommit (exec conn (.query q)) post (some (conn, d)) :=
  pre_exec hpost fun b d' => by cases d <;> rfl

/-- `PQstatus` tells whether the session is lost. -/
theorem pre_isConnected {post : Bool → Option (Connection × Session) → Prop}
    (hlost : d = .lost → post false (some (conn, d)))
    (hpost : d ≠ .lost → post true (some (conn, d))) :
    Pre transactional ignoresCommit (isConnected conn : Db R Bool) post (some (conn, d)) := by
  refine ⟨d, rfl, fun reply d' hreply => ?_⟩
  obtain ⟨hanswer, _⟩ := hreply
  cases reply with
  | connected b =>
      simp only [answers, Bool.and_eq_true, decide_eq_true_eq] at hanswer
      obtain ⟨rfl, rfl⟩ := hanswer
      by_cases hd : d' = .lost
      · subst hd
        exact hlost rfl
      · have hb : decide (d' ≠ Session.lost) = true := decide_eq_true hd
        rw [hb]
        exact hpost hd
  | result res => cases d <;> cases hanswer

/-- What the answer to a transaction command says about open transactions. -/
def Outcome (ignoresCommit : Bool) (command : TransactionCommand) (ok : Bool) (d : Session) :
    Prop :=
  match command with
  | .begin => ok = false → d.clean = true
  | .commit => ok = true ∨ ignoresCommit = true → d.clean = true
  | .rollback => d.clean = true

theorem outcome_of_lost (command : TransactionCommand) :
    Outcome ignoresCommit command false .lost := by
  cases command with
  | begin => exact fun _ => rfl
  | commit => exact fun _ => rfl
  | rollback => rfl

theorem outcome_of_allowed {command : TransactionCommand} {res : Option PGresult} {d' : Session}
    (hd : d ≠ .lost)
    (h : Allowed transactional ignoresCommit d (.transaction command : Call R) (.result res) d') :
    Outcome ignoresCommit command (commandOk res) d' := by
  obtain ⟨hanswer, hfits⟩ := h
  have hclean : (d' = .transaction → False) → d'.clean = true := fun h => decide_eq_true h
  cases command with
  | begin =>
      refine fun hfailed => hclean fun ht => ?_
      have hok : commandOk res = true := hfits ht
      rw [hok] at hfailed
      cases hfailed
  | commit =>
      refine fun hcase => hclean fun ht => ?_
      rcases hcase with hok | hignores
      · cases d with
        | lost => exact hd rfl
        | idle => simp [answers, hok, ht] at hanswer
        | transaction => simp [answers, hok, ht] at hanswer
      · have hlooks : ignoresCommit = false := hfits ht
        rw [hlooks] at hignores
        cases hignores
  | rollback => exact hclean hfits

theorem pre_transactionCommand {post : Bool → Option (Connection × Session) → Prop}
    {command : TransactionCommand}
    (hpost : ∀ ok d', Outcome ignoresCommit command ok d' → post ok (some (conn, d'))) :
    Pre transactional ignoresCommit (transactionCommand command conn : Db R Bool) post
      (some (conn, d)) := by
  refine pre_bind (pre_isConnected ?_ ?_)
  · rintro rfl
    exact hpost false .lost (outcome_of_lost command)
  · intro hd
    refine pre_bind (pre_exec ?_ fun b d' => by cases d <;> cases command <;> rfl)
    exact fun res d' hallowed => hpost _ d' (outcome_of_allowed hd hallowed)

end Rules

/-! ## Operations of one statement -/

/-- The operation ends with nothing held. -/
abbrev EndsFree (transactional ignoresCommit : Bool) {β : Type} (p : Db R β)
    (h : Option (Connection × Session)) : Prop :=
  Pre transactional ignoresCommit p (fun _ h => h = none) h

theorem endsFree_release {transactional ignoresCommit : Bool} {β : Type} {conn : Connection}
    {d : Session} (hd : d.clean = true) (b : β) :
    EndsFree transactional ignoresCommit (do release conn; return b : Db R β) (some (conn, d)) :=
  pre_bind (pre_release hd rfl)

theorem endsFree_runOne {ignoresCommit : Bool} {β : Type} (statement : Option (Query R))
    (read : Option PGresult → Option β) :
    EndsFree false ignoresCommit (runOne statement read) none := by
  refine pre_bind (pre_acquire fun conn d hd => ?_)
  refine pre_bind (pre_ofOption fun q _ => ?_)
  refine pre_bind (pre_query fun res d' hallowed => ?_)
  refine pre_bind (pre_ofOption fun value _ => ?_)
  have hd' : d'.clean = true := by
    refine decide_eq_true fun ht => ?_
    rcases hallowed.2 ht with h | h
    · rw [h] at hd
      cases hd
    · cases h
  exact endsFree_release hd' value

/-! ## Operations of one transaction -/

section Transactions

variable {ignoresCommit : Bool} {conn : Connection}

/-- An operation that gives up if it cannot begin. -/
theorem endsFree_transaction {β : Type} {f : Connection → Db R β} (b : β)
    (hf : ∀ conn d, EndsFree true ignoresCommit (f conn) (some (conn, d))) :
    EndsFree true ignoresCommit (do
      let conn ← acquire
      if ← beginTransaction conn then f conn
      else
        release conn
        return b : Db R β) none := by
  refine pre_bind (pre_acquire fun conn d _ => ?_)
  refine pre_bind (pre_transactionCommand fun ok d' hbegin => ?_)
  cases ok with
  | true => exact hf conn d'
  | false => exact endsFree_release (hbegin rfl) b

theorem endsFree_rollback {β : Type} (d : Session) (b : β) :
    EndsFree true ignoresCommit (do
      let _ ← rollbackTransaction conn
      release conn
      return b : Db R β) (some (conn, d)) :=
  pre_bind (pre_transactionCommand fun _ _ hrollback => endsFree_release hrollback b)

/-- A `COMMIT` that is looked at, with a `ROLLBACK` if it failed. -/
theorem endsFree_commit {β : Type} (d : Session) (b c : β) :
    EndsFree true ignoresCommit (do
      if ← commitTransaction conn then
        release conn
        return b
      else
        let _ ← rollbackTransaction conn
        release conn
        return c : Db R β) (some (conn, d)) := by
  refine pre_bind (pre_transactionCommand fun ok d' hcommit => ?_)
  cases ok with
  | true => exact endsFree_release (hcommit (.inl rfl)) b
  | false => exact endsFree_rollback d' c

theorem pre_insertPointLoop {post : Int → Option (Connection × Session) → Prop} (crackId : Int)
    (hpost : ∀ lastId d, post lastId (some (conn, d))) (points : List (Point3D R)) :
    ∀ (lastId : Int) (d : Session),
      Pre true ignoresCommit (insertPointLoop conn crackId points lastId) post
        (some (conn, d)) := by
  induction points with
  | nil => exact hpost
  | cons point points ih => exact fun lastId d => pre_bind (pre_query fun res d' _ => ih _ d')

theorem endsFree_insertCrackPoints (crackId : Int) (points : List (Point3D R)) :
    EndsFree true ignoresCommit (insertCrackPoints crackId points) none :=
  endsFree_transaction (-1) fun _ d => pre_bind
    (pre_insertPointLoop crackId (fun lastId d => endsFree_commit d lastId (-1)) points (-1) d)

theorem pre_batchLoop {α : Type} {post : Bool → Option (Connection × Session) → Prop}
    (row : α → Option (Query R)) (hpost : ∀ ok d, post ok (some (conn, d))) (dataList : List α) :
    ∀ d : Session, Pre true ignoresCommit (batchLoop row conn dataList) post (some (conn, d)) := by
  induction dataList with
  | nil => exact hpost true
  | cons data rest ih =>
      intro d
      refine pre_bind (pre_ofOption fun q _ => pre_bind (pre_query fun res d' _ => ?_))
      cases commandOk res with
      | true => exact ih d'
      | false => exact hpost false d'

theorem endsFree_batchInsert {α : Type} (row : α → Option (Query R)) (dataList : List α) :
    EndsFree true true (batchInsert row dataList) none := by
  rw [batchInsert]
  split
  · exact rfl
  · refine endsFree_transaction false fun conn d => ?_
    refine pre_bind (pre_batchLoop row (fun ok d => ?_) dataList d)
    cases ok with
    | true =>
        refine pre_bind (pre_transactionCommand fun _ d' hcommit => ?_)
        exact endsFree_release (hcommit (.inr rfl)) true
    | false => exact endsFree_rollback d false

theorem endsFree_detectionPoints (crackId : Int) {next : Db R Bool}
    (hnext : ∀ d, EndsFree true ignoresCommit next (some (conn, d))) (points : List (Point3D R)) :
    ∀ d, EndsFree true ignoresCommit (detectionPoints conn crackId next points)
      (some (conn, d)) := by
  induction points with
  | nil => exact hnext
  | cons point points ih =>
      refine fun d => pre_bind (pre_query fun res d' _ => ?_)
      cases commandOk res with
      | true => exact ih d'
      | false => exact endsFree_rollback d' false

theorem endsFree_detectionCracks (porcelainId : Int) {next : Db R Bool}
    (hnext : ∀ d, EndsFree true ignoresCommit next (some (conn, d)))
    (detections : List (CrackInfo R × List (Point3D R))) :
    ∀ d, EndsFree true ignoresCommit (detectionCracks conn porcelainId next detections)
      (some (conn, d)) := by
  induction detections with
  | nil => exact hnext
  | cons detection rest ih =>
      refine fun d => pre_bind (pre_query fun res d' _ => ?_)
      cases tuples res with
      | nil => exact endsFree_rollback d' false
      | cons row rows => exact endsFree_detectionPoints _ ih detection.2 d'

theorem endsFree_batchInsertCrackDetections (laserData : LaserMicroscopeData R)
    (cracks : List (CrackInfo R)) (crackPoints : List (List (Point3D R))) (porcelainId : Int) :
    EndsFree true ignoresCommit
      (batchInsertCrackDetections laserData cracks crackPoints porcelainId) none := by
  refine endsFree_transaction false fun conn d => ?_
  refine pre_bind (pre_ofOption fun q _ => pre_bind (pre_query fun res d' _ => ?_))
  cases tuples res with
  | nil => exact endsFree_rollback d' false
  | cons row rows =>
      exact endsFree_detectionCracks porcelainId (fun d => endsFree_commit d true false)
        (cracks.zip crackPoints) d'

end Transactions

/-! ## The pool -/

variable [Zero R]

theorem service_sound (lib : Reading R) : (service lib).Sound Fits := by
  intro op
  cases op with
  | insertCrackPoints crackId points => exact endsFree_insertCrackPoints crackId points
  | batchInsertLaserData dataList => exact endsFree_batchInsert _ dataList
  | batchInsertVibrationData dataList => exact endsFree_batchInsert _ dataList
  | batchInsertCrackDetections laserData cracks crackPoints porcelainId =>
      exact endsFree_batchInsertCrackDetections laserData cracks crackPoints porcelainId
  | _ => exact endsFree_runOne _ _

/-- After `init`, with the connections that could be opened. -/
def initial (lib : Reading R) (poolSize : Nat) (connects : Connection → Bool) :
    (service lib).State :=
  ⟨connections poolSize connects, ⟨connections poolSize connects, fun _ => .idle⟩, []⟩

/-- Along every run in which no operation throws while it holds a connection, and
in which every answer fits, the pool of connections is conserved. -/
theorem pool_conserved (lib : Reading R) (poolSize : Nat) (connects : Connection → Bool)
    {es : List (service lib).Event}
    (hok : Steps.StepsMeet Service.State.step (Service.StepOk Fits)
      (initial lib poolSize connects) es) :
    Steps.StatesMeet Service.State.step Service.Conserved (initial lib poolSize connects) es :=
  Service.statesMeet (service_sound lib)
    (.init _ _ (connections_nodup poolSize connects) fun _ _ => rfl) hok

/-- A reading of results whose columns are all zero. -/
def zeroReading : Reading Nat := ⟨fun _ => 0, fun _ => some .null, false⟩

/-- A packet with the payload `A` is logged over the only connection. -/
def loggedPacket : List (service zeroReading).Event :=
  [.start (.logProfinetPacket "10.0.0.2" "10.0.0.1" 1 [0x41]), .move 0 .go,
    .move 0 (.answer (.result (some ⟨.commandOk, []⟩)) .idle), .move 0 .go, .move 0 .go]

theorem pool_conserved_loggedPacket :
    Steps.StatesMeet Service.State.step Service.Conserved
      (initial zeroReading 1 fun _ => true) loggedPacket := by
  refine pool_conserved zeroReading 1 (fun _ => true) ?_
  -- Only the answer is bound by a condition that is not about throwing.
  refine .cons rfl trivial (.cons rfl (.move rfl fun h => ?_) (.cons rfl (.move rfl ?_)
    (.cons rfl (.move rfl fun h => ?_) (.cons rfl (.move rfl fun h => ?_) trivial))))
  · cases h
  · intro r q k _ ht
    cases ht
  · cases h
  · cases h

/-- A packet whose payload is not valid UTF-8 is logged over the only connection. -/
def undecodablePacket : List (service zeroReading).Event :=
  [.start (.logProfinetPacket "10.0.0.2" "10.0.0.1" 1 [0xFF]), .move 0 .go, .move 0 .go]

theorem log_profinet_packet_leaks_connection :
    ¬ ∀ es : List (service zeroReading).Event,
        Steps.StatesMeet Service.State.step Service.Conserved
          (initial zeroReading 1 fun _ => true) es := by
  intro h
  have hrun := h undecodablePacket
  have hconserved := ((hrun.2 _ rfl).2 _ rfl).2 _ rfl
  have hheld := hconserved.finished _ (List.mem_singleton.mpr rfl) rfl
  cases hheld

end PorcelainMonitor.Database
