import Mathlib.Algebra.Field.Rat
import Mathlib.Algebra.Order.Ring.Unbundled.Rat
import PorcelainMonitor.Modules.AlertWs
import PorcelainMonitor.Profinet.Decoded

/-!
# The identity of a crack

`insert_crack` gives a crack its number in the database, inside `handle_laser`.
Alerts, predictions and simulations carry the `id` field of the decoded crack
instead, a field that the decoder leaves unassigned and that `handle_laser` does
not set.

A run of `handle_laser` is traced against arbitrary replies of what it calls.
-/

namespace PorcelainMonitor.Modules

variable {R : Type}

/-! ## Tracing -/

/-- What the services answer, by the number of the call. -/
structure Replies where
  logProfinetPacket : Nat → Except Failure Unit
  insertLaserData : Nat → Except Failure Int
  insertVibrationData : Nat → Except Failure Int
  insertCrack : Nat → Except Failure Int
  insertCrackPoints : Nat → Except Failure Int
  insertAlert : Nat → Except Failure Int
  enqueueAlert : Nat → Except Failure Unit
  broadcastJson : Nat → Except Failure Unit
  now : Nat → Int

structure Trace (R : Type) where
  /-- How often anything has been called. -/
  calls : Nat
  /-- The cracks stored, each with the id that `insert_crack` returned. -/
  inserted : List (CrackInfo R × Int)
  /-- The alerts handed to `insert_alert`. -/
  alerts : List (Alert R)

def Trace.empty : Trace R := ⟨0, [], []⟩

/-- Computations that extend a trace and may throw. -/
abbrev Traced (R : Type) := Effects.Comp Failure (Trace R)

/-- Answer a call and write it into the trace. -/
def answer {α : Type} (reply : Nat → Except Failure α) (write : α → Trace R → Trace R) :
    Traced R α where
  run tr :=
    let tr' := { tr with calls := tr.calls + 1 }
    match reply tr.calls with
    | .ok a => (.ok a, write a tr')
    | .error e => (.error e, tr')

/-- The services that give the replies and write the trace. -/
def tracing (replies : Replies) : Services (Traced R) R where
  logProfinetPacket _ _ _ _ := answer replies.logProfinetPacket fun _ => id
  insertLaserData _ := answer replies.insertLaserData fun _ => id
  insertVibrationData _ := answer replies.insertVibrationData fun _ => id
  insertCrack crack _ := answer replies.insertCrack fun id tr =>
    { tr with inserted := tr.inserted ++ [(crack, id)] }
  insertCrackPoints _ _ := answer replies.insertCrackPoints fun _ => id
  insertAlert alert := ⟨fun tr =>
    (answer replies.insertAlert fun _ => id).run { tr with alerts := tr.alerts ++ [alert] }⟩
  enqueueAlert _ := answer replies.enqueueAlert fun _ => id
  broadcastJson _ := answer replies.broadcastJson fun _ => id
  now := answer (fun n => .ok (replies.now n)) fun _ => id

/-! ## The cracks that are stored -/

/-- A call that writes nothing into the list of stored cracks keeps it. -/
theorem keeps_answer {α : Type} (reply : Nat → Except Failure α) :
    Effects.Keeps Trace.inserted (answer reply fun _ => id : Traced R α) := by
  intro tr
  simp only [answer]
  split <;> rfl

theorem keeps_insertAlert (replies : Replies) (alert : Alert R) :
    Effects.Keeps Trace.inserted ((tracing replies).insertAlert alert) := by
  intro tr
  exact keeps_answer replies.insertAlert { tr with alerts := tr.alerts ++ [alert] }

section Stored

variable [LinearOrder R] (replies : Replies) (mgr : Alerts.AlertManager R)
  (ostream : R → String) (unset : Alert R)

/-- The checks store no crack. -/
theorem keeps_checkLaserData (data : LaserMicroscopeData R) :
    Effects.Keeps Trace.inserted
      (Alerts.checkLaserData mgr ostream unset (tracing replies) data) := by
  have hsave : ∀ alert, Effects.Keeps Trace.inserted
      (Alerts.saveAlert (tracing replies : Services (Traced R) R) alert) := by
    intro alert
    refine Effects.Keeps.bind (keeps_insertAlert replies alert) fun id => ?_
    split
    · exact keeps_answer _
    · exact Effects.Keeps.pure _
  rw [Alerts.checkLaserData]
  split
  · refine Effects.Keeps.forM (fun crack => ?_) _
    have hnow : Effects.Keeps Trace.inserted (tracing replies : Services (Traced R) R).now :=
      keeps_answer fun n => .ok (replies.now n)
    exact Effects.Keeps.bind hnow fun _ => Effects.Keeps.bind hnow fun _ =>
      Effects.Keeps.forM (fun alert => hsave _) _
  · exact Effects.Keeps.pure _

omit [LinearOrder R] in
/-- A round of the crack loop stores the crack of the round, or throws before it
has stored anything. -/
theorem storeCrack_inserted (data : LaserMicroscopeData R) (crack : CrackInfo R) (tr : Trace R) :
    (∃ e t, (storeCrack (tracing replies) data crack).run tr = (.error e, t) ∧
      t.inserted = tr.inserted) ∨
    ∃ now id, ((storeCrack (tracing replies) data crack).run tr).2.inserted =
      tr.inserted ++ [(stamp data now crack, id)] := by
  have hnow : (tracing replies : Services (Traced R) R).now.run tr =
      (.ok (replies.now tr.calls), { tr with calls := tr.calls + 1 }) := rfl
  rw [storeCrack, Effects.Comp.bind_ok hnow]
  cases hid : replies.insertCrack (tr.calls + 1) with
  | error e =>
      left
      have hcall : ((tracing replies).insertCrack (stamp data (replies.now tr.calls) crack)
          data.porcelainId).run { tr with calls := tr.calls + 1 } =
          (.error e, { tr with calls := tr.calls + 2 }) := by
        simp [tracing, answer, hid]
      exact ⟨e, _, Effects.Comp.bind_error hcall, rfl⟩
  | ok id =>
      right
      have hcall : ((tracing replies).insertCrack (stamp data (replies.now tr.calls) crack)
          data.porcelainId).run { tr with calls := tr.calls + 1 } =
          (.ok id, { tr with
            calls := tr.calls + 2
            inserted := tr.inserted ++ [(stamp data (replies.now tr.calls) crack, id)] }) := by
        simp [tracing, answer, hid]
      refine ⟨replies.now tr.calls, id, ?_⟩
      rw [Effects.Comp.bind_ok hcall]
      split
      · exact Effects.Keeps.bind (keeps_answer _) (fun _ => Effects.Keeps.pure _) _
      · rfl

/-- The stored cracks are the first of a list, stamped and in its order. -/
def InOrder (data : LaserMicroscopeData R) (cracks : List (CrackInfo R))
    (stored : List (CrackInfo R × Int)) : Prop :=
  ∀ (i : Nat) (p : CrackInfo R × Int), stored[i]? = some p →
    ∃ crack now, cracks[i]? = some crack ∧ p.1 = stamp data now crack

omit [LinearOrder R] in
/-- The crack loop stores the cracks in their order, up to a round that throws. -/
theorem storeCracks_inserted (data : LaserMicroscopeData R) :
    ∀ (cracks : List (CrackInfo R)) (tr : Trace R), ∃ new,
      ((cracks.forM (storeCrack (tracing replies) data)).run tr).2.inserted =
        tr.inserted ++ new ∧
      InOrder data cracks new
  | [], tr => ⟨[], (List.append_nil _).symm, fun _ _ h => by cases h⟩
  | crack :: rest, tr => by
      rw [List.forM]
      rcases storeCrack_inserted replies data crack tr with ⟨e, t, ht, hsame⟩ | ⟨now, id, hins⟩
      · refine ⟨[], ?_, fun _ _ h => by cases h⟩
        rw [Effects.Comp.bind_error ht, List.append_nil]
        exact hsame
      · cases hrun : (storeCrack (tracing replies) data crack).run tr with
        | mk result t =>
            rw [hrun] at hins
            cases result with
            | error e =>
                refine ⟨[(stamp data now crack, id)], ?_, ?_⟩
                · rw [Effects.Comp.bind_error hrun]
                  exact hins
                · intro i p hp
                  cases i with
                  | zero =>
                      cases hp
                      exact ⟨crack, now, rfl, rfl⟩
                  | succ i => cases hp
            | ok u =>
                obtain ⟨new, hnew, hpos⟩ := storeCracks_inserted data rest t
                refine ⟨(stamp data now crack, id) :: new, ?_, ?_⟩
                · rw [Effects.Comp.bind_ok hrun, hnew, hins]
                  simp
                · intro i p hp
                  cases i with
                  | zero =>
                      cases hp
                      exact ⟨crack, now, rfl, rfl⟩
                  | succ i => exact hpos i p hp

/-- The trace of a message that `handle_laser` handles. -/
def handleLaserTrace (msg : ParsedLaserMessage R) : Trace R :=
  ((handleLaser (tracing replies) mgr ostream unset msg).run .empty).2

/-- `insert_crack` is called for the cracks of a message in their order, and only
if the message reports cracks. -/
theorem handleLaser_inserted (msg : ParsedLaserMessage R) :
    InOrder msg.data msg.data.cracks (handleLaserTrace replies mgr ostream unset msg).inserted ∧
      ((handleLaserTrace replies mgr ostream unset msg).inserted ≠ [] →
        msg.data.crackDetected = true) := by
  let Good : List (CrackInfo R × Int) → Prop := fun stored =>
    InOrder msg.data msg.data.cracks stored ∧ (stored ≠ [] → msg.data.crackDetected = true)
  have hnil : Good [] := ⟨fun _ _ h => by (cases h), fun h => absurd rfl h⟩
  show Good _
  rw [handleLaserTrace, handleLaser, guarded_state]
  -- Before the crack loop nothing is stored, and after it nothing more.
  refine Effects.Keeps.first (P := Good) (keeps_answer _) hnil fun _ s hs => ?_
  refine Effects.Keeps.first (P := Good) (keeps_answer _) (hs ▸ hnil) fun _ t ht => ?_
  refine Effects.Keeps.last (P := Good) (fun _ => Effects.Keeps.bind
    (keeps_checkLaserData replies mgr ostream unset msg.data) fun _ => keeps_answer _) ?_
  rw [storeCracks]
  split
  · next hdetected =>
      obtain ⟨new, hnew, horder⟩ := storeCracks_inserted replies msg.data msg.data.cracks t
      rw [hnew, ht, hs]
      exact ⟨horder, fun _ => hdetected⟩
  · show Good t.inserted
    rw [ht, hs]
    exact hnil

end Stored

/-! ## What is derived from a crack -/

section Derived

variable [Field R] [LinearOrder R]

/-- The result at a position of a mapped list is that of the element there. -/
theorem mapM_ok_getElem {α β : Type} {f : α → Except Failure β} :
    ∀ {xs : List α} {ys : List β}, xs.mapM f = .ok ys →
      ∀ (i : Nat) (y : β), ys[i]? = some y → ∃ x, xs[i]? = some x ∧ f x = .ok y
  | [], ys, h, i, y, hy => by
      cases h
      cases hy
  | x :: xs, ys, h, i, y, hy => by
      rw [List.mapM_cons] at h
      cases hx : f x with
      | error e =>
          rw [hx] at h
          cases h
      | ok z =>
          cases hxs : xs.mapM f with
          | error e =>
              rw [hx, hxs] at h
              cases h
          | ok zs =>
              rw [hx, hxs] at h
              cases h
              cases i with
              | zero =>
                  cases hy
                  exact ⟨x, rfl, hx⟩
              | succ i => exact mapM_ok_getElem hxs i y hy

/-- The surroundings that the derived records depend on. -/
structure Setting (R : Type) where
  mgr : Alerts.AlertManager R
  ostream : R → String
  math : Algorithms.CMath R
  predictionHorizonHours : Int
  fatigue : FatiguePredictorModule R
  dem : DemSimulatorModule R

/-- Every alert, prediction and simulation made from the crack at a position of a
message carries the number `k`. -/
structure CarriesId (env : Setting R) (msg : ParsedLaserMessage R) (i : Nat) (crack : CrackInfo R)
    (k : Int) : Prop where
  alerts : ∀ unset depthNow widthNow, ∀ alert ∈
    Alerts.checkCrackThresholds env.mgr env.ostream unset depthNow widthNow crack,
    alert.crackId = k
  predictions : ∀ detection, CrackRouterModule.detection msg = some detection →
    ∀ out, env.fatigue.predictions env.math env.predictionHorizonHours detection = .ok out →
    ∀ m, out[i]? = some m → m.prediction.crackId = k
  dems : ∀ detection, CrackRouterModule.detection msg = some detection →
    ∀ outcomes m, (env.dem.simulations outcomes detection)[i]? = some m → m.result.crackId = k

variable {env : Setting R} {msg : ParsedLaserMessage R} {i : Nat} {crack : CrackInfo R}

omit [Field R] [LinearOrder R] in
/-- The router passes the cracks on as they are. -/
theorem CrackRouterModule.detection_cracks {detection : CrackDetectionMessage R}
    (h : CrackRouterModule.detection msg = some detection) :
    detection.cracks = msg.data.cracks := by
  rw [CrackRouterModule.detection] at h
  split at h
  · cases h
  · cases h
    rfl

/-- A prediction carries the `id` field of its crack. -/
theorem FatiguePredictorModule.prediction_crackId {math : Algorithms.CMath R}
    {predictionHorizonHours porcelainId : Int} {fatigue : FatiguePredictorModule R}
    {m : FatiguePredictionMessage R}
    (h : prediction math predictionHorizonHours fatigue porcelainId crack = .ok m) :
    m.prediction.crackId = toInt32 crack.id := by
  simp only [prediction, bind, Except.bind] at h
  split at h
  · cases h
  · cases h
    rfl

/-- What is made from a crack carries the `id` field of the decoded crack. -/
theorem carriesId_id (hi : msg.data.cracks[i]? = some crack) :
    CarriesId env msg i crack (toInt32 crack.id) := by
  refine ⟨?_, ?_, ?_⟩
  · intro unset depthNow widthNow alert halert
    rw [Alerts.checkCrackThresholds, List.mem_append] at halert
    rcases halert with halert | halert
    · split at halert
      · rw [List.mem_singleton.mp halert]
        rfl
      · cases halert
    · split at halert
      · rw [List.mem_singleton.mp halert]
        rfl
      · cases halert
  · intro detection hdetection out hout m hm
    obtain ⟨crack', hcrack, hpred⟩ := mapM_ok_getElem hout i m hm
    rw [CrackRouterModule.detection_cracks hdetection, hi] at hcrack
    cases hcrack
    exact FatiguePredictorModule.prediction_crackId hpred
  · intro detection hdetection outcomes m hm
    rw [DemSimulatorModule.simulations, List.getElem?_mapIdx,
      CrackRouterModule.detection_cracks hdetection, hi] at hm
    cases hm
    rfl

omit [Field R] in
/-- Something is made of every stored crack: the simulation at its position. -/
theorem exists_dem {replies : Replies} {unset : Alert R} {p : CrackInfo R × Int}
    (hp : (handleLaserTrace replies env.mgr env.ostream unset msg).inserted[i]? = some p)
    (outcomes : Nat → DemOutcome R) :
    ∃ crack detection, msg.data.cracks[i]? = some crack ∧
      CrackRouterModule.detection msg = some detection ∧
      (env.dem.simulations outcomes detection)[i]? =
        some (env.dem.simulation detection.porcelainId crack (outcomes i)) := by
  obtain ⟨horder, hdetected⟩ := handleLaser_inserted replies env.mgr env.ostream unset msg
  obtain ⟨crack, _, hcrack, _⟩ := horder i p hp
  have hstored : (handleLaserTrace replies env.mgr env.ostream unset msg).inserted ≠ [] := by
    intro h
    rw [h] at hp
    cases hp
  have hcracks : msg.data.cracks.isEmpty = false := by
    cases hc : msg.data.cracks with
    | nil =>
        rw [hc] at hcrack
        cases hcrack
    | cons c cs => rfl
  refine ⟨crack, _, hcrack,
    by simp [CrackRouterModule.detection, hdetected hstored, hcracks]; rfl, ?_⟩
  simp [DemSimulatorModule.simulations, List.getElem?_mapIdx, hcrack]

/-- What is made of the cracks of a decoded message carries the ids that
`insert_crack` returns for them exactly if the unassigned `id` field of each of
them happens to hold its id. -/
theorem carriesId_iff {lib : Profinet.Decoding R} {payload : List UInt8} {uninit : Profinet.Uninit}
    {data : LaserMicroscopeData R} (h : Profinet.parseLaserData lib payload uninit = .ok data)
    (packet : ProfinetPacket) (env : Setting R) (replies : Replies) (unset : Alert R) :
    (∀ (i : Nat) (crack stored : CrackInfo R) (k : Int), data.cracks[i]? = some crack →
      (handleLaserTrace replies env.mgr env.ostream unset ⟨packet, data⟩).inserted[i]? =
        some (stored, k) → 0 < k → CarriesId env ⟨packet, data⟩ i crack k) ↔
    ∀ (i : Nat) (stored : CrackInfo R) (k : Int),
      (handleLaserTrace replies env.mgr env.ostream unset ⟨packet, data⟩).inserted[i]? =
        some (stored, k) → 0 < k → toInt32 (uninit.crackId i) = k := by
  constructor
  · intro hcarry i stored k hstored hk
    let outcomes : Nat → DemOutcome R := fun _ => ⟨0, 0, 0, 0, 0, .null⟩
    obtain ⟨crack, detection, hcrack, hdetection, hdem⟩ := exists_dem hstored outcomes
    rw [← Profinet.parseLaserData_crack_id h hcrack]
    exact (hcarry i crack stored k hcrack hstored hk).dems detection hdetection outcomes _ hdem
  · intro hid i crack stored k hcrack hstored hk
    rw [← hid i stored k hstored hk, ← Profinet.parseLaserData_crack_id h hcrack]
    exact carriesId_id hcrack

end Derived

/-! ## A message with one crack -/

/-- Bit patterns and texts that all denote nothing. -/
def blankDecoding : Profinet.Decoding ℚ := ⟨fun _ => 0, fun _ => 0, fun _ => .ok .null⟩

/-- The bytes of a reading that is zero but for one crack without points. -/
def oneCrackPayload : List UInt8 :=
  List.replicate 56 0 ++ [1, 1, 0, 0, 0] ++ List.replicate 32 0

/-- Memory that held zeros. -/
def zeroMemory : Profinet.Uninit := ⟨0, fun _ => 0⟩

def blankPacket : ProfinetPacket := ⟨"10.0.0.1", "10.0.0.2", "LASER_DATA", 0x8001, []⟩

/-- A database that accepts everything and numbers every crack 7. -/
def sevenReplies : Replies where
  logProfinetPacket _ := .ok ()
  insertLaserData _ := .ok 1
  insertVibrationData _ := .ok 1
  insertCrack _ := .ok 7
  insertCrackPoints _ := .ok 1
  insertAlert _ := .ok 1
  enqueueAlert _ := .ok ()
  broadcastJson _ := .ok ()
  now _ := 0

def blankAlert : Alert ℚ :=
  ⟨0, .crackDepthExceeded, 0, 0, 0, 0, 0, "", "", .pending, false, false, 0⟩

def blankSetting : Setting ℚ where
  mgr := ⟨200, 50⟩
  ostream _ := ""
  math := ⟨3, id, fun x _ => x, id, id⟩
  predictionHorizonHours := 720
  fatigue := .new
  dem := .new ⟨1, .zirconia, "", "", 25, 0, 0, 0, 0, .null⟩

/-- The payload decodes, and its crack is stored under the number 7. -/
theorem oneCrack_stored : ∃ data stored,
    Profinet.parseLaserData blankDecoding oneCrackPayload zeroMemory = .ok data ∧
    (handleLaserTrace sevenReplies blankSetting.mgr blankSetting.ostream blankAlert
      ⟨blankPacket, data⟩).inserted[0]? = some (stored, 7) := by
  have hcheck : (match Profinet.parseLaserData blankDecoding oneCrackPayload zeroMemory with
    | .ok data => (handleLaserTrace sevenReplies blankSetting.mgr blankSetting.ostream blankAlert
        ⟨blankPacket, data⟩).inserted[0]?.map Prod.snd
    | .error _ => none) = some 7 := by decide +kernel
  cases hparse : Profinet.parseLaserData blankDecoding oneCrackPayload zeroMemory with
  | error e =>
      rw [hparse] at hcheck
      cases hcheck
  | ok data =>
      rw [hparse] at hcheck
      obtain ⟨⟨stored, k⟩, hstored, rfl⟩ := Option.map_eq_some_iff.mp hcheck
      exact ⟨data, stored, rfl, hstored⟩

/-- The equivalence at that payload. -/
theorem carriesId_iff_oneCrack : ∃ data,
    Profinet.parseLaserData blankDecoding oneCrackPayload zeroMemory = .ok data ∧
    ((∀ (i : Nat) (crack stored : CrackInfo ℚ) (k : Int), data.cracks[i]? = some crack →
      (handleLaserTrace sevenReplies blankSetting.mgr blankSetting.ostream blankAlert
        ⟨blankPacket, data⟩).inserted[i]? = some (stored, k) → 0 < k →
      CarriesId blankSetting ⟨blankPacket, data⟩ i crack k) ↔
    ∀ (i : Nat) (stored : CrackInfo ℚ) (k : Int),
      (handleLaserTrace sevenReplies blankSetting.mgr blankSetting.ostream blankAlert
        ⟨blankPacket, data⟩).inserted[i]? = some (stored, k) → 0 < k →
      toInt32 (zeroMemory.crackId i) = k) := by
  obtain ⟨data, _, hparse, _⟩ := oneCrack_stored
  exact ⟨data, hparse, carriesId_iff hparse blankPacket blankSetting sevenReplies blankAlert⟩

/-- With memory that held zeros, what is made of the crack numbered 7 carries 0. -/
theorem stored_crack_id_is_lost :
    ¬ ∀ (lib : Profinet.Decoding ℚ) (payload : List UInt8) (uninit : Profinet.Uninit)
      (data : LaserMicroscopeData ℚ), Profinet.parseLaserData lib payload uninit = .ok data →
      ∀ (packet : ProfinetPacket) (env : Setting ℚ) (replies : Replies) (unset : Alert ℚ) (i : Nat)
        (crack stored : CrackInfo ℚ) (k : Int), data.cracks[i]? = some crack →
        (handleLaserTrace replies env.mgr env.ostream unset ⟨packet, data⟩).inserted[i]? =
          some (stored, k) → 0 < k → CarriesId env ⟨packet, data⟩ i crack k := by
  intro h
  obtain ⟨data, stored, hparse, hstored⟩ := oneCrack_stored
  let outcomes : Nat → DemOutcome ℚ := fun _ => ⟨0, 0, 0, 0, 0, .null⟩
  obtain ⟨crack, detection, hcrack, hdetection, hdem⟩ := exists_dem hstored outcomes
  have hid : toInt32 crack.id = 7 := (h _ _ _ _ hparse blankPacket blankSetting sevenReplies
    blankAlert 0 crack stored 7 hcrack hstored (by decide)).dems detection hdetection outcomes _
      hdem
  rw [Profinet.parseLaserData_crack_id hparse hcrack] at hid
  revert hid
  decide

end PorcelainMonitor.Modules
