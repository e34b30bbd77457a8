import Mathlib.Algebra.Order.Field.Basic
import PorcelainMonitor.Common

/-!
# The checks of `AlertManager`

A check compares a measurement with its thresholds and raises alerts.  Each
alert goes to the database, and if that gives it an id, to the queue of the
worker.

What the checks call is a `Services`: the database, the queue, the web socket
server and the clock, in any monad with exceptions.  A local `Alert` starts with
arbitrary fields, and `unset` is that start.  `ostream` writes a number as
`operator<<` does.
-/

namespace PorcelainMonitor

/-- What the alert modules call. -/
structure Services (m : Type → Type) (R : Type) where
  logProfinetPacket : (sourceIp destinationIp : String) → (frameId : UInt16) →
    (payload : List UInt8) → m Unit
  insertLaserData : LaserMicroscopeData R → m Int
  insertVibrationData : VibrationData R → m Int
  insertCrack : CrackInfo R → (porcelainId : Int) → m Int
  insertCrackPoints : (crackId : Int) → List (Point3D R) → m Int
  insertAlert : Alert R → m Int
  enqueueAlert : Alert R → m Unit
  broadcastJson : Json R → m Unit
  now : m Int

namespace Alerts

/-- The settings of the manager that the checks read. -/
structure AlertManager (R : Type) where
  depthThreshold : R
  widthThreshold : R
deriving DecidableEq, Repr

section Checks

variable {R : Type} [LinearOrder R] (mgr : AlertManager R) (ostream : R → String)
  (unset : Alert R)

/-- The two alerts of a crack differ in their type, the value compared and its
name in the message. -/
def crackAlert (type : AlertType) (what : String) (threshold actual : R) (now : Int)
    (crack : CrackInfo R) : Alert R :=
  { unset with
    type := type
    porcelainId := crack.porcelainId
    crackId := toInt32 crack.id
    thresholdValue := threshold
    actualValue := actual
    unit := "μm"
    message := "瓷器ID " ++ toString crack.porcelainId ++ " 裂纹" ++ what ++ " " ++ ostream actual
      ++ "μm 超过阈值 " ++ ostream threshold ++ "μm"
    status := .pending
    smsSent := false
    websocketSent := false
    createdAt := now }

def depthAlert (now : Int) (crack : CrackInfo R) : Alert R :=
  crackAlert ostream unset .crackDepthExceeded "深度" mgr.depthThreshold crack.maxDepth now crack

def widthAlert (now : Int) (crack : CrackInfo R) : Alert R :=
  crackAlert ostream unset .crackWidthExceeded "宽度" mgr.widthThreshold crack.maxWidth now crack

/-- Each alert has its own reading of the clock. -/
def checkCrackThresholds (depthNow widthNow : Int) (crack : CrackInfo R) : List (Alert R) :=
  (if crack.maxDepth > mgr.depthThreshold then [depthAlert mgr ostream unset depthNow crack]
    else []) ++
  (if crack.maxWidth > mgr.widthThreshold then [widthAlert mgr ostream unset widthNow crack]
    else [])

variable {m : Type → Type} [Monad m] (services : Services m R)

/-- Store an alert, and queue it if the database gave it an id. -/
def saveAlert (alert : Alert R) : m Unit := do
  let id ← services.insertAlert alert
  if id > 0 then services.enqueueAlert { alert with id := id }

/-- The round of `check_laser_data` for one crack. -/
def checkCrack (sensorId : Int) (crack : CrackInfo R) : m Unit := do
  let depthNow ← services.now
  let widthNow ← services.now
  (checkCrackThresholds mgr ostream unset depthNow widthNow crack).forM fun alert =>
    saveAlert services { alert with sensorId := sensorId }

def checkLaserData (data : LaserMicroscopeData R) : m Unit :=
  if data.crackDetected then
    data.cracks.forM (checkCrack mgr ostream unset services data.sensorId)
  else pure ()

end Checks

section Events

variable {R : Type} [Field R] [LinearOrder R] (ostream : R → String) (unset : Alert R)
  {m : Type → Type} [Monad m] (services : Services m R)

def vibrationRmsThreshold : R := 1 / 10 ^ 6

def vibrationPeakThreshold : R := 5 / 10 ^ 6

def checkVibrationData (data : VibrationData R) : m Unit := do
  if data.rmsValue > vibrationRmsThreshold ∨ data.peakValue > vibrationPeakThreshold then
    let now ← services.now
    saveAlert services { unset with
      type := .vibrationAnomaly
      porcelainId := data.porcelainId
      sensorId := data.sensorId
      thresholdValue := vibrationRmsThreshold
      actualValue := data.rmsValue
      unit := "m/s²"
      message := "瓷器ID " ++ toString data.porcelainId ++ " 振动异常 - RMS: "
        ++ ostream data.rmsValue ++ " m/s², 峰值: " ++ ostream data.peakValue ++ " m/s²"
      status := .pending
      smsSent := false
      websocketSent := false
      createdAt := now }

/-- `predicted_depth_720h`, which the source reads here, is the field
`predicted_depth` of a prediction. -/
def checkPrediction (prediction : CrackPrediction R) : m Unit := do
  if prediction.riskLevel = "CRITICAL" ∨ prediction.riskLevel = "HIGH" then
    let now ← services.now
    saveAlert services { unset with
      type := .crackPropagationRisk
      crackId := prediction.crackId
      thresholdValue := 0
      actualValue := prediction.predictedDepth
      unit := "μm"
      message := "裂纹ID " ++ toString prediction.crackId ++ " 扩展风险等级: "
        ++ prediction.riskLevel ++ "，预测720小时后深度: " ++ ostream prediction.predictedDepth ++ "μm"
      status := .pending
      smsSent := false
      websocketSent := false
      createdAt := now }

end Events

end Alerts

end PorcelainMonitor
