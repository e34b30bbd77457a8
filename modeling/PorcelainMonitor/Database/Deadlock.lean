import PorcelainMonitor.Database.Conservation
import PorcelainMonitor.Lib.PoolDeadlock

/-!
# Deadlock of the connection pool

The operations acquire a connection only when they hold none, and return it unless
something throws in between.  So the pool blocks only when all of its connections have been
lost to exceptions, and no operation ever gets one again after that.  As many undecodable
packets as there are connections are enough.
-/

namespace PorcelainMonitor.Database

open PooledProgram

variable {R : Type}

/-! ## Rules for connections -/

section Rules

variable {β γ : Type} {conn : Connection}

/-- A statement keeps the connection, whatever its result is. -/
theorem keeps_exec {post : Option PGresult → Option Connection → Prop} {call : Call R}
    (hpost : ∀ res, post res (some conn)) : (exec conn call : Db R _).Uses post (some conn) := by
  refine ⟨rfl, fun reply => ?_⟩
  cases reply with
  | connected b => exact hpost none
  | result res => exact hpost res

theorem keeps_isConnected {post : Bool → Option Connection → Prop}
    (hpost : ∀ b, post b (some conn)) : (isConnected conn : Db R Bool).Uses post (some conn) := by
  refine ⟨rfl, fun reply => ?_⟩
  cases reply with
  | connected b => exact hpost b
  | result res => exact hpost false

/-- A command of a transaction keeps it too, connected or not. -/
theorem keeps_transactionCommand {command : TransactionCommand}
    {post : Bool → Option Connection → Prop} (hpost : ∀ ok, post ok (some conn)) :
    (transactionCommand command conn : Db R Bool).Uses post (some conn) := by
  refine Program.uses_bind (keeps_isConnected fun b => ?_)
  cases b with
  | true => exact Program.uses_bind (keeps_exec fun res => hpost _)
  | false => exact hpost false

/-- Returning the connection ends the operation. -/
theorem disciplined_release (b : β) :
    (do release conn; return b : Db R β).Disciplined (some conn) :=
  Program.uses_bind ⟨rfl, rfl⟩

/-- An operation that gives up rolls back and returns its connection. -/
theorem disciplined_giveUp : (giveUp conn : Db R Bool).Disciplined (some conn) :=
  Program.uses_bind (keeps_transactionCommand fun _ => disciplined_release false)

/-- The operation gets its connection first. -/
theorem disciplined_acquire {f : Connection → Db R β}
    (hf : ∀ conn, (f conn).Disciplined (some conn)) :
    (do let conn ← acquire; f conn : Db R β).Disciplined none :=
  Program.uses_bind ⟨rfl, hf⟩

/-- If `BEGIN` fails, the connection is returned at once. -/
theorem disciplined_transaction {f : Connection → Db R β} (b : β)
    (hf : ∀ conn, (f conn).Disciplined (some conn)) :
    (do
      let conn ← acquire
      if ← beginTransaction conn then f conn
      else
        release conn
        return b : Db R β).Disciplined none := by
  refine disciplined_acquire fun conn => Program.uses_bind (keeps_transactionCommand fun ok => ?_)
  cases ok with
  | true => exact hf conn
  | false => exact disciplined_release b

end Rules

/-! ## The operations -/

/-- Between the connection and its return only a conversion can throw. -/
theorem disciplined_runOne {β : Type} (statement : Option (Query R))
    (read : Option PGresult → Option β) : (runOne statement read).Disciplined none :=
  disciplined_acquire fun _ => Program.uses_bind <| Program.uses_ofOption fun _ =>
    Program.uses_bind <| keeps_exec fun _ => Program.uses_bind <| Program.uses_ofOption fun value =>
      disciplined_release value

section Transactions

variable {conn : Connection}

theorem keeps_insertPointLoop {post : Int → Option Connection → Prop} (crackId : Int)
    (hpost : ∀ lastId, post lastId (some conn)) (points : List (Point3D R)) :
    ∀ lastId : Int, (insertPointLoop conn crackId points lastId).Uses post (some conn) := by
  induction points with
  | nil => exact hpost
  | cons point points ih => exact fun _ => Program.uses_bind (keeps_exec fun _ => ih _)

/-- All branches behind the loop return the connection. -/
theorem disciplined_insertCrackPoints (crackId : Int) (points : List (Point3D R)) :
    (insertCrackPoints crackId points).Disciplined none := by
  refine disciplined_transaction (-1) fun conn => ?_
  refine Program.uses_bind (keeps_insertPointLoop crackId (fun lastId => ?_) points (-1))
  refine Program.uses_bind (keeps_transactionCommand fun ok => ?_)
  cases ok with
  | true => exact disciplined_release lastId
  | false => exact Program.uses_bind (keeps_transactionCommand fun _ => disciplined_release (-1))

theorem keeps_batchLoop {α : Type} {post : Bool → Option Connection → Prop}
    (row : α → Option (Query R)) (hpost : ∀ ok, post ok (some conn)) (dataList : List α) :
    (batchLoop row conn dataList).Uses post (some conn) := by
  induction dataList with
  | nil => exact hpost true
  | cons data rest ih =>
      refine Program.uses_bind (Program.uses_ofOption fun q => ?_)
      refine Program.uses_bind (keeps_exec fun res => ?_)
      cases commandOk res with
      | true => exact ih
      | false => exact hpost false

theorem disciplined_batchInsert {α : Type} (row : α → Option (Query R)) (dataList : List α) :
    (batchInsert row dataList).Disciplined none := by
  rw [batchInsert]
  split
  · exact rfl
  · refine disciplined_transaction false fun conn => ?_
    refine Program.uses_bind (keeps_batchLoop row (fun ok => ?_) dataList)
    cases ok with
    | true => exact Program.uses_bind (keeps_transactionCommand fun _ => disciplined_release true)
    | false => exact disciplined_giveUp

theorem disciplined_detectionPoints (crackId : Int) {next : Db R Bool}
    (hnext : next.Disciplined (some conn)) (points : List (Point3D R)) :
    (detectionPoints conn crackId next points).Disciplined (some conn) := by
  induction points with
  | nil => exact hnext
  | cons point points ih =>
      refine Program.uses_bind (keeps_exec fun res => ?_)
      cases commandOk res with
      | true => exact ih
      | false => exact disciplined_giveUp

theorem disciplined_detectionCracks (porcelainId : Int) {next : Db R Bool}
    (hnext : next.Disciplined (some conn)) (detections : List (CrackInfo R × List (Point3D R))) :
    (detectionCracks conn porcelainId next detections).Disciplined (some conn) := by
  induction detections with
  | nil => exact hnext
  | cons detection rest ih =>
      refine Program.uses_bind (keeps_exec fun res => ?_)
      cases tuples res with
      | nil => exact disciplined_giveUp
      | cons row rows => exact disciplined_detectionPoints _ ih detection.2

/-- Every early exit of the three loops rolls back and returns the connection. -/
theorem disciplined_batchInsertCrackDetections (laserData : LaserMicroscopeData R)
    (cracks : List (CrackInfo R)) (crackPoints : List (List (Point3D R))) (porcelainId : Int) :
    (batchInsertCrackDetections laserData cracks crackPoints porcelainId).Disciplined none := by
  refine disciplined_transaction false fun conn => ?_
  refine Program.uses_bind (Program.uses_ofOption fun q => ?_)
  refine Program.uses_bind (keeps_exec fun res => ?_)
  cases tuples res with
  | nil => exact disciplined_giveUp
  | cons row rows =>
      refine disciplined_detectionCracks porcelainId ?_ (cracks.zip crackPoints)
      refine Program.uses_bind (keeps_transactionCommand fun ok => ?_)
      cases ok with
      | true => exact disciplined_release true
      | false => exact disciplined_giveUp

end Transactions

variable [Zero R]

/-- Every operation acquires one connection, when it holds none. -/
theorem service_disciplined (lib : Reading R) (op : (service lib).Op) :
    ((service lib).code op).Disciplined none := by
  cases op with
  | insertCrackPoints crackId points => exact disciplined_insertCrackPoints crackId points
  | batchInsertLaserData dataList => exact disciplined_batchInsert _ dataList
  | batchInsertVibrationData dataList => exact disciplined_batchInsert _ dataList
  | batchInsertCrackDetections laserData cracks crackPoints porcelainId =>
      exact disciplined_batchInsertCrackDetections laserData cracks crackPoints porcelainId
  | _ => exact disciplined_runOne _ _

/-- `PQstatus` always answers, and a statement may fail. -/
theorem service_responsive (lib : Reading R) : (service lib).Responsive := by
  intro d call
  cases call with
  | status => exact ⟨.connected (d ≠ .lost : Bool), d, by cases d <;> rfl⟩
  | transaction command => exact ⟨.result none, .lost, by cases d <;> cases command <;> rfl⟩
  | query q =>
      refine ⟨.result none, .lost, ?_⟩
      cases d with
      | idle => exact (Bool.or_eq_true ..).mpr (.inr rfl)
      | _ => rfl

/-! ## The pool -/

/-- At the start all connections are in the queue. -/
theorem initial_ledger (lib : Reading R) (poolSize : Nat) (connects : Connection → Bool) :
    Service.Ledger (initial lib poolSize connects) :=
  .init _ _

section Runs

variable {lib : Reading R} {poolSize : Nat} {connects : Connection → Bool}
  {es : List (service lib).Event} {s : (service lib).State}

/-- The operations block each other exactly when every connection has been lost to an
operation that threw, and all that still run wait for one. -/
theorem pool_deadlocked_iff
    (hrun : Steps.exec Service.State.step (initial lib poolSize connects) es = some s) :
    Service.Deadlocked s ↔ (∃ th ∈ s.threads, th.finished = false) ∧
      (∀ th ∈ s.threads, th.finished = false → th.Waits) ∧
      ∀ conn ∈ connections poolSize connects, Service.Lost s conn := by
  have hpool : s.pool = connections poolSize connects := Service.State.exec_pool hrun
  rw [Service.deadlocked_iff (service_responsive lib)
    ((initial_ledger lib poolSize connects).exec (service_disciplined lib) hrun)
    (hpool ▸ connections_nodup poolSize connects), Service.AllLost, hpool]

end Runs

/-- The only connection is lost with an undecodable packet, and another operation waits. -/
def blocked : (service zeroReading).State :=
  ⟨[0], ⟨[], fun _ => .idle⟩,
    [⟨.logProfinetPacket "10.0.0.2" "10.0.0.1" 1 [0xFF], .threw, [0]⟩,
      ⟨.getAllPorcelains, .running ((service zeroReading).code .getAllPorcelains), []⟩]⟩

theorem pool_deadlocked_iff_undecodable : Service.Deadlocked blocked := by
  have hrun : Steps.exec Service.State.step (initial zeroReading 1 fun _ => true)
      (undecodablePacket ++ [.start .getAllPorcelains]) = some blocked := rfl
  refine (pool_deadlocked_iff hrun).mpr
    ⟨⟨_, List.mem_cons_of_mem _ List.mem_cons_self, rfl⟩, ?_, ?_⟩
  · intro th hth hruns
    rcases List.mem_cons.mp hth with rfl | hth
    · cases hruns
    · rw [List.mem_singleton.mp hth]
      exact ⟨_, rfl⟩
  · intro conn hconn
    rw [show conn = 0 from List.mem_singleton.mp hconn]
    exact ⟨_, List.mem_cons_self, rfl, List.mem_singleton.mpr rfl⟩

/-- The JSON of an undecodable packet throws after the connection has been acquired. -/
theorem logProfinetPacket_undecodable (lib : Reading R) {sourceIp destIp : String}
    {frameId : UInt16} {payload : List UInt8} (hbad : validUtf8 payload = false) :
    (service lib).code (.logProfinetPacket sourceIp destIp frameId payload) =
      .acquire fun _ => .throw := by
  have hdump : (dump (.object [("raw", .str payload), ("size", .int payload.length)]) :
      Option (Value R)) = none := by
    rw [dump, packetJson_validUtf8, hbad]
    rfl
  show logProfinetPacket sourceIp destIp frameId payload = _
  rw [logProfinetPacket, hdump]
  rfl

/-- As many undecodable packets as there are connections exhaust the pool for ever, whatever
operations come after them. -/
theorem undecodable_packets_exhaust_pool (lib : Reading R) (poolSize : Nat)
    (connects : Connection → Bool) (sourceIp destIp : String) (frameId : UInt16)
    {payloads : List (List UInt8)}
    (hlength : payloads.length = (connections poolSize connects).length)
    (hbad : ∀ payload ∈ payloads, validUtf8 payload = false) :
    ∃ s, Steps.exec Service.State.step (initial lib poolSize connects)
        (Service.drain 0
          (payloads.map (Operation.logProfinetPacket sourceIp destIp frameId))) = some s ∧
      ∀ es t, Steps.exec Service.State.step s es = some t → Service.Exhausted t := by
  have hcode : ∀ op ∈ payloads.map (Operation.logProfinetPacket sourceIp destIp frameId),
      (service lib).code op = .acquire fun _ => .throw := by
    intro op hop
    obtain ⟨payload, hpayload, rfl⟩ := List.mem_map.mp hop
    exact logProfinetPacket_undecodable lib (hbad payload hpayload)
  obtain ⟨s, hs, hlost⟩ := Service.exec_drain (s := initial lib poolSize connects) hcode
    ((List.length_map _).trans hlength) fun conn hconn => .inl hconn
  have hledger := (initial_ledger lib poolSize connects).exec (service_disciplined lib) hs
  have hnodup : s.pool.Nodup := by
    rw [Service.State.exec_pool hs]
    exact connections_nodup poolSize connects
  exact ⟨s, hs, fun es t hex =>
    Service.exhausted_forever (service_disciplined lib) hledger hnodup hlost hex⟩

theorem undecodable_packets_exhaust_pool_two :
    ∃ s, Steps.exec Service.State.step (initial zeroReading 2 fun _ => true)
        (Service.drain 0
          ([[0xFF], [0x80]].map (Operation.logProfinetPacket "10.0.0.2" "10.0.0.1" 1))) = some s ∧
      ∀ es t, Steps.exec Service.State.step s es = some t → Service.Exhausted t :=
  undecodable_packets_exhaust_pool zeroReading 2 (fun _ => true) _ _ _ rfl (by decide)

end PorcelainMonitor.Database
