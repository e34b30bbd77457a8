import PorcelainMonitor.Alert.AlertManager
import PorcelainMonitor.Lib.Effects
import PorcelainMonitor.Modules.Module

/-!
# `AlertWsModule`

The sink of the pipeline.  It has four inputs, and a round of its loop takes one
message from the first input that has one.  A handler catches the exceptions of
what it calls, so a message it fails on is gone.  It answers whether it counts
the message as processed.

The loop over the cracks of a laser message is read as working on a copy of the
list, since it assigns to elements of a constant one.
-/

namespace PorcelainMonitor.Modules

structure AlertWsModule where
  laserIn : SharedQueue .laser
  vibrationIn : SharedQueue .vibration
  predictionIn : SharedQueue .prediction
  demIn : SharedQueue .dem
deriving DecidableEq, Repr

/-! ## The loop -/

/-- What a round of the loop took. -/
inductive Taken (R : Type) where
  | laser (msg : ParsedLaserMessage R)
  | vibration (msg : ParsedVibrationMessage R)
  | prediction (msg : FatiguePredictionMessage R)
  | dem (msg : DemSimulationMessage R)
  | nothing

/-- One round: the inputs are tried in a fixed order. -/
def AlertWsModule.take {R : Type} (a : AlertWsModule) (qs : Queues R) : Taken R × Queues R :=
  match qs.tryPop a.laserIn with
  | some (msg, qs) => (.laser msg, qs)
  | none =>
      match qs.tryPop a.vibrationIn with
      | some (msg, qs) => (.vibration msg, qs)
      | none =>
          match qs.tryPop a.predictionIn with
          | some (msg, qs) => (.prediction msg, qs)
          | none =>
              match qs.tryPop a.demIn with
              | some (msg, qs) => (.dem msg, qs)
              | none => (.nothing, qs)

/-! ## What is broadcast -/

section Broadcasts

variable {R : Type}

/-- What `handle_laser` broadcasts. -/
def laserBroadcast (msg : ParsedLaserMessage R) : Json R := .object [
  ("type", .text "laser_data"),
  ("data", .object [
    ("sensor_id", .int msg.data.sensorId),
    ("porcelain_id", .int msg.data.porcelainId),
    ("crack_detected", .bool msg.data.crackDetected),
    ("crack_count", .int msg.data.crackCount)])]

/-- What `handle_vibration` broadcasts. -/
def vibrationBroadcast (msg : ParsedVibrationMessage R) : Json R := .object [
  ("type", .text "vibration_data"),
  ("data", .object [
    ("sensor_id", .int msg.data.sensorId),
    ("porcelain_id", .int msg.data.porcelainId),
    ("rms_value", .float msg.data.rmsValue),
    ("peak_value", .float msg.data.peakValue),
    ("temperature", .float msg.data.temperature),
    ("humidity", .float msg.data.humidity)])]

/-- What `handle_prediction` broadcasts. -/
def predictionBroadcast (msg : FatiguePredictionMessage R) : Json R := .object [
  ("type", .text "fatigue_prediction"),
  ("data", .object [
    ("crack_id", .int msg.prediction.crackId),
    ("porcelain_id", .int msg.porcelainId),
    ("risk_level", .text msg.prediction.riskLevel),
    ("confidence", .float msg.prediction.confidence),
    ("predicted_length_720h", .float msg.prediction.predictedLength)])]

/-- What `handle_dem` broadcasts. -/
def demBroadcast (msg : DemSimulationMessage R) : Json R := .object [
  ("type", .text "dem_simulation"),
  ("data", .object [
    ("crack_id", .int msg.result.crackId),
    ("porcelain_id", .int msg.porcelainId),
    ("filling_rate", .float msg.result.fillingRate),
    ("durability_score", .float msg.result.durabilityScore),
    ("particle_count", .int msg.result.particleCount)])]

end Broadcasts

/-! ## The handlers -/

section Handlers

variable {R : Type} [Field R] [LinearOrder R] {m : Type → Type} [Monad m]
  [MonadExceptOf Failure m] (services : Services m R) (mgr : Alerts.AlertManager R)
  (ostream : R → String) (unset : Alert R)

/-- `try { body } catch (const std::exception&)`: whether the body went through,
which is when the handler counts the message. -/
def guarded (body : m Unit) : m Bool :=
  tryCatchThe Failure (do body; return true) fun failure =>
    match failure with
    | .exception _ => return false
    | other => throwThe Failure other

/-- What the body of a handler has done stays. -/
theorem guarded_state {σ : Type} (body : Effects.Comp Failure σ Unit) (s : σ) :
    ((guarded body).run s).2 = (body.run s).2 := by
  rw [guarded, Effects.Comp.run_tryCatch]
  cases h : body.run s with
  | mk result t =>
      cases result with
      | ok u =>
          rw [Effects.Comp.bind_ok h]
          rfl
      | error e =>
          rw [Effects.Comp.bind_error h]
          cases e with
          | exception what => rfl
          | outOfBounds => rfl
          | divisionByZero => rfl

/-- `"CRK-<porcelain_id>-<seconds since the epoch>"`. -/
def crackCode (porcelainId now : Int) : String :=
  "CRK-" ++ toString porcelainId ++ "-" ++ toString (now.tdiv (10 ^ 9))

/-- What the crack loop assigns to a crack. -/
def stamp (data : LaserMicroscopeData R) (now : Int) (crack : CrackInfo R) : CrackInfo R :=
  { crack with
    crackCode := crackCode data.porcelainId now
    detectedAt := data.measurementTime }

/-- The round of the crack loop of `handle_laser`. -/
def storeCrack (data : LaserMicroscopeData R) (crack : CrackInfo R) : m Unit := do
  let now ← services.now
  let crackId ← services.insertCrack (stamp data now crack) data.porcelainId
  if crackId > 0 then
    let _ ← services.insertCrackPoints crackId crack.points

def storeCracks (data : LaserMicroscopeData R) : m Unit :=
  if data.crackDetected then data.cracks.forM (storeCrack services data) else pure ()

def handleLaser (msg : ParsedLaserMessage R) : m Bool := guarded do
  services.logProfinetPacket msg.packet.sourceIp msg.packet.destinationIp
    msg.packet.frameId msg.packet.payload
  let _ ← services.insertLaserData msg.data
  storeCracks services msg.data
  Alerts.checkLaserData mgr ostream unset services msg.data
  services.broadcastJson (laserBroadcast msg)

def handleVibration (msg : ParsedVibrationMessage R) : m Bool := guarded do
  services.logProfinetPacket msg.packet.sourceIp msg.packet.destinationIp
    msg.packet.frameId msg.packet.payload
  let _ ← services.insertVibrationData msg.data
  Alerts.checkVibrationData ostream unset services msg.data
  services.broadcastJson (vibrationBroadcast msg)

def handlePrediction (msg : FatiguePredictionMessage R) : m Bool := guarded do
  Alerts.checkPrediction ostream unset services msg.prediction
  services.broadcastJson (predictionBroadcast msg)

def handleDem (msg : DemSimulationMessage R) : m Bool := guarded do
  services.broadcastJson (demBroadcast msg)

end Handlers

end PorcelainMonitor.Modules
