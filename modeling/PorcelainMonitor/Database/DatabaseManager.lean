import PorcelainMonitor.Database.DatabaseConnection

/-!
# `DatabaseManager`

The operations of the database, each a program over the pool.  Most of them send
one statement and read its result.  The others open a transaction.
-/

namespace PorcelainMonitor.Database

open PooledProgram (Program)

variable {R : Type}

/-! ## Reading results -/

/-- The value of a run of decimal digits. -/
def digitsValue (digits : List Char) : Int :=
  digits.foldl (fun n c => 10 * n + (c.toNat - '0'.toNat : Nat)) 0

/-- `std::isspace` -/
def isSpace (c : Char) : Bool := c = ' ' || (0x09 ≤ c.toNat && c.toNat ≤ 0x0D)

/-- `std::atoi` and `std::atoll`: blanks, a sign, and as many digits as follow. -/
def atoi (s : String) : Int :=
  match s.toList.dropWhile isSpace with
  | '-' :: rest => -digitsValue (rest.takeWhile Char.isDigit)
  | '+' :: rest => digitsValue (rest.takeWhile Char.isDigit)
  | rest => digitsValue (rest.takeWhile Char.isDigit)

/-- What reading a column of a result depends on. -/
structure Reading (R : Type) where
  /-- `std::atof` -/
  atof : String → R
  /-- `json::parse`, `none` for an exception. -/
  parse : String → Option (Json R)
  /-- The value of a `bool` that was never set. -/
  uninitialized : Bool

/-- `PQgetvalue`, which is empty for `NULL`. -/
def field (row : Row) (column : Nat) : String := ((row.getD column none).getD "")

/-- A column that is used only if it is there and not empty. -/
def nonempty (row : Row) (column : Nat) : Option String :=
  if field row column = "" then none else some (field row column)

/-- The id that a statement returned, or `-1`. -/
def returnedId (res : Option PGresult) : Int :=
  match tuples res with
  | row :: _ => atoi (field row 0)
  | [] => -1

/-- A JSON column, which stays `null` if it is empty. -/
def jsonColumn (lib : Reading R) (row : Row) (column : Nat) : Option (Json R) :=
  match nonempty row column with
  | some s => lib.parse s
  | none => some .null

def readPorcelain (lib : Reading R) (row : Row) : Option (PorcelainInfo R) := do
  let dimensions ← jsonColumn lib row 7
  return {
    id := atoi (field row 0)
    museumId := field row 1
    name := field row 2
    dynasty := if field row 3 = "SONG" then .song else .yuan
    productionYear := atoi (field row 4)
    description := field row 5
    originLocation := field row 6
    dimensions := dimensions
    modelPath := nonempty row 8
  }

def readCrack (lib : Reading R) (row : Row) : CrackInfo R where
  id := atoi (field row 0)
  porcelainId := atoi (field row 1)
  crackCode := field row 2
  maxDepth := lib.atof (field row 3)
  maxWidth := lib.atof (field row 4)
  totalLength := lib.atof (field row 5)
  status := field row 6
  points := []
  detectedAt := 0

def readPoint (lib : Reading R) (row : Row) : Point3D R where
  x := lib.atof (field row 0)
  y := lib.atof (field row 1)
  z := lib.atof (field row 2)
  depth := lib.atof (field row 3)
  width := lib.atof (field row 4)
  normal := (nonempty row 5).map fun s =>
    (lib.atof s, lib.atof (field row 6), lib.atof (field row 7))
  curvature := (nonempty row 8).map lib.atof

def readAlert (lib : Reading R) (row : Row) : Alert R where
  id := atoi (field row 0)
  type :=
    if field row 1 = "CRACK_DEPTH_EXCEEDED" then .crackDepthExceeded
    else if field row 1 = "CRACK_WIDTH_EXCEEDED" then .crackWidthExceeded
    else if field row 1 = "CRACK_PROPAGATION_RISK" then .crackPropagationRisk
    else .vibrationAnomaly
  porcelainId := atoi (field row 2)
  crackId := atoi (field row 3)
  sensorId := atoi (field row 4)
  thresholdValue := lib.atof (field row 5)
  actualValue := lib.atof (field row 6)
  unit := field row 7
  message := field row 8
  status := .pending
  smsSent := lib.uninitialized
  websocketSent := lib.uninitialized
  createdAt := 0

def readMaterial (lib : Reading R) (row : Row) : Option (RepairMaterial R) := do
  let properties ← jsonColumn lib row 9
  return {
    id := atoi (field row 0)
    type :=
      if field row 1 = "ZIRCONIA" then .zirconia
      else if field row 1 = "SILICA" then .silica
      else .composite
    name := field row 2
    manufacturer := field row 3
    particleSizeNm := lib.atof (field row 4)
    purity := lib.atof (field row 5)
    viscosity := lib.atof (field row 6)
    refractiveIndex := lib.atof (field row 7)
    thermalExpansionCoeff := lib.atof (field row 8)
    properties := properties
  }

/-- `PorcelainInfo{}` -/
def PorcelainInfo.zero : PorcelainInfo R :=
  ⟨0, "", "", .song, 0, "", "", .null, none⟩

/-- `CrackInfo{}` -/
def CrackInfo.zero [Zero R] : CrackInfo R :=
  ⟨0, 0, "", 0, 0, 0, "", [], 0⟩

/-! ## Rows -/

/-- `dump()`, which throws on a string that is not valid UTF-8. -/
def dump (j : Json R) : Option (Value R) := if j.validUtf8 then some (.jsonb j) else none

/-- `NULL` for an empty value. -/
def dumpOrNull (j : Json R) : Option (Value R) := if j.empty then some .null else dump j

theorem dumpOrNull_isSome_iff {j : Json R} :
    (dumpOrNull j).isSome = true ↔ j.empty = true ∨ j.validUtf8 = true := by
  rw [dumpOrNull, dump]
  split
  · simp [*]
  · simp [*]

def arrayOf (x : R × R × R × R) : Value R := .array [x.1, x.2.1, x.2.2.1, x.2.2.2]

/-- The row of `laser_microscope_data`. -/
def laserRow (data : LaserMicroscopeData R) (returning : Bool) : Option (Query R) := do
  let processedData ← dumpOrNull data.processedData
  return .insert "laser_microscope_data" [
    ("sensor_id", .int data.sensorId),
    ("porcelain_id", .int data.porcelainId),
    ("measurement_time", .time data.measurementTime),
    ("scan_area", arrayOf data.scanArea),
    ("resolution", .real data.resolution),
    ("crack_detected", .bool data.crackDetected),
    ("crack_count", .int data.crackCount),
    ("processed_data", processedData)] returning

/-- The row of `vibration_data`. -/
def vibrationRow (data : VibrationData R) (returning : Bool) : Option (Query R) := do
  let frequencySpectrum ← dumpOrNull data.frequencySpectrum
  return .insert "vibration_data" [
    ("sensor_id", .int data.sensorId),
    ("porcelain_id", .int data.porcelainId),
    ("measurement_time", .time data.measurementTime),
    ("frequency_spectrum", frequencySpectrum),
    ("amplitude", .array data.amplitude),
    ("rms_value", .real data.rmsValue),
    ("peak_value", .real data.peakValue),
    ("dominant_frequency", .real data.dominantFrequency),
    ("temperature", .real data.temperature),
    ("humidity", .real data.humidity)] returning

/-- The row of `cracks`. -/
def crackRow (crack : CrackInfo R) (porcelainId : Int) : Query R :=
  .insert "cracks" [
    ("porcelain_id", .int porcelainId),
    ("crack_code", .text crack.crackCode),
    ("detected_date", .time crack.detectedAt),
    ("max_depth", .real crack.maxDepth),
    ("max_width", .real crack.maxWidth),
    ("total_length", .real crack.totalLength)] true

/-- The row of `crack_points`. -/
def pointRow (crackId : Int) (point : Point3D R) (returning : Bool) : Query R :=
  .insert "crack_points" [
    ("crack_id", .int crackId),
    ("point_3d", .array [point.x, point.y, point.z]),
    ("normal_vector", match point.normal with
      | some (x, y, z) => .array [x, y, z]
      | none => .null),
    ("depth", .real point.depth),
    ("width", .real point.width),
    ("curvature", match point.curvature with
      | some c => .real c
      | none => .null)] returning

/-! ## Operations of one statement -/

/-- Build a statement, send it over a connection from the pool, and read its
result. -/
def runOne {β : Type} (statement : Option (Query R)) (read : Option PGresult → Option β) :
    Db R β := do
  let conn ← acquire
  let q ← .ofOption statement
  let res ← exec conn (.query q)
  let value ← .ofOption (read res)
  release conn
  return value

def insertLaserData (data : LaserMicroscopeData R) : Db R Int :=
  runOne (laserRow data true) fun res => some (returnedId res)

def insertVibrationData (data : VibrationData R) : Db R Int :=
  runOne (vibrationRow data true) fun res => some (returnedId res)

def insertCrack (crack : CrackInfo R) (porcelainId : Int) : Db R Int :=
  runOne (some (crackRow crack porcelainId)) fun res => some (returnedId res)

/-- `to_string(AlertType)` -/
def alertTypeName : AlertType → String
  | .crackDepthExceeded => "CRACK_DEPTH_EXCEEDED"
  | .crackWidthExceeded => "CRACK_WIDTH_EXCEEDED"
  | .crackPropagationRisk => "CRACK_PROPAGATION_RISK"
  | .vibrationAnomaly => "VIBRATION_ANOMALY"

/-- The columns that `insert_alert` writes. -/
def alertColumns (alert : Alert R) : List (String × Value R) := [
  ("alert_type", .cast (alertTypeName alert.type) "alert_type"),
  ("porcelain_id", .int alert.porcelainId),
  ("crack_id", .int alert.crackId),
  ("sensor_id", .int alert.sensorId),
  ("threshold_value", .real alert.thresholdValue),
  ("actual_value", .real alert.actualValue),
  ("unit", .text alert.unit),
  ("message", .text alert.message),
  ("status", .cast "PENDING" "alert_status"),
  ("sms_sent", .bool alert.smsSent),
  ("websocket_sent", .bool alert.websocketSent)]

def insertAlert (alert : Alert R) : Db R Int :=
  runOne (some (.insert "alerts" (alertColumns alert) true)) fun res => some (returnedId res)

def insertPrediction (prediction : CrackPrediction R) : Db R Int :=
  runOne (do
    let parameters ← dump prediction.parameters
    return .insert "crack_propagation_predictions" [
      ("crack_id", .int prediction.crackId),
      ("model_type", .text prediction.modelType),
      ("parameters", parameters),
      ("time_horizon_hours", .int prediction.timeHorizonHours),
      ("predicted_depth", .real prediction.predictedDepth),
      ("predicted_width", .real prediction.predictedWidth),
      ("predicted_length", .real prediction.predictedLength),
      ("confidence", .real prediction.confidence),
      ("risk_level", .text prediction.riskLevel)] true) fun res => some (returnedId res)

def insertSimulation (simulation : RepairSimulation R) : Db R Int :=
  runOne (do
    let parameters ← dump simulation.parameters
    let result ← dump simulation.result
    return .insert "repair_simulations" [
      ("crack_id", .int simulation.crackId),
      ("material_id", .int simulation.materialId),
      ("method", .text simulation.method),
      ("parameters", parameters),
      ("particle_count", .int simulation.particleCount),
      ("filling_rate", .real simulation.fillingRate),
      ("bonding_strength", .real simulation.bondingStrength),
      ("surface_smoothness", .real simulation.surfaceSmoothness),
      ("durability_score", .real simulation.durabilityScore),
      ("simulation_result", result)] true) fun res => some (returnedId res)

def logProfinetPacket (sourceIp destIp : String) (frameId : UInt16) (payload : List UInt8) :
    Db R Unit :=
  runOne (do
    let payloadJson ← dump (.object [("raw", .str payload), ("size", .int payload.length)])
    return .insert "profinet_packets" [
      ("source_ip", .cast sourceIp "inet"),
      ("destination_ip", .cast destIp "inet"),
      ("frame_id", .int frameId.toNat),
      ("payload_length", .int payload.length),
      ("payload", payloadJson)] false) fun _ => some ()

/-- `dump()` accepts the JSON of a packet if it accepts the payload. -/
theorem packetJson_validUtf8 {payload : List UInt8} :
    (Json.object [("raw", .str payload), ("size", .int payload.length)] : Json R).validUtf8 =
      validUtf8 payload := by
  have hraw : validUtf8 "raw".toByteArray.data.toList = true := by decide
  have hsize : validUtf8 "size".toByteArray.data.toList = true := by decide
  simp [Json.object, Json.validUtf8, fieldsValidUtf8, hraw, hsize]

theorem packetJson_quoteFree {payload : List UInt8} :
    (Json.object [("raw", .str payload), ("size", .int payload.length)] : Json R).quoteFree =
      !payload.contains 0x27 := by
  have hraw : "raw".toUTF8.data.toList.contains 0x27 = false := by decide
  have hsize : "size".toUTF8.data.toList.contains 0x27 = false := by decide
  simp only [Json.object, List.map_cons, List.map_nil, Json.quoteFree, fieldsQuoteFree, hraw,
    hsize]
  simp

def porcelainColumns : List String :=
  ["id", "museum_id", "name", "dynasty", "production_year", "description", "origin_location",
    "dimensions", "model_path"]

def crackColumns : List String :=
  ["id", "porcelain_id", "crack_code", "max_depth", "max_width", "total_length", "status",
    "detected_date"]

def getAllPorcelains (lib : Reading R) : Db R (List (PorcelainInfo R)) :=
  runOne (some (.select porcelainColumns "porcelains" none (some "id") none)) fun res =>
    (tuples res).mapM (readPorcelain lib)

def getPorcelain (lib : Reading R) (id : Int) : Db R (PorcelainInfo R) :=
  runOne (some (.select porcelainColumns "porcelains" (some ("id", id)) none none)) fun res =>
    match tuples res with
    | row :: _ => readPorcelain lib row
    | [] => some PorcelainInfo.zero

def getCracksByPorcelain (lib : Reading R) (porcelainId : Int) (limit : Int := 100) :
    Db R (List (CrackInfo R)) :=
  runOne (some (.select crackColumns "cracks" (some ("porcelain_id", porcelainId))
    (some "detected_date DESC") (some limit))) fun res => some ((tuples res).map (readCrack lib))

def getCrack [Zero R] (lib : Reading R) (crackId : Int) : Db R (CrackInfo R) :=
  runOne (some (.select crackColumns "cracks" (some ("id", crackId)) none none)) fun res =>
    match tuples res with
    | row :: _ => some (readCrack lib row)
    | [] => some CrackInfo.zero

def getCrackPoints (lib : Reading R) (crackId : Int) : Db R (List (Point3D R)) :=
  runOne (some (.select ["point_3d[1]", "point_3d[2]", "point_3d[3]", "depth", "width",
    "normal_vector[1]", "normal_vector[2]", "normal_vector[3]", "curvature"] "crack_points"
    (some ("crack_id", crackId)) (some "id") none)) fun res =>
      some ((tuples res).map (readPoint lib))

def getActiveAlerts (lib : Reading R) : Db R (List (Alert R)) :=
  runOne (some (.select ["id", "alert_type", "porcelain_id", "crack_id", "sensor_id",
    "threshold_value", "actual_value", "unit", "message", "status", "created_at"] "active_alerts"
    none (some "created_at DESC") (some 100))) fun res => some ((tuples res).map (readAlert lib))

def getRepairMaterials (lib : Reading R) : Db R (List (RepairMaterial R)) :=
  runOne (some (.select ["id", "material_type", "name", "manufacturer", "particle_size_nm",
    "purity", "viscosity", "refractive_index", "thermal_expansion_coeff", "properties"]
    "repair_materials" none (some "id") none)) fun res => (tuples res).mapM (readMaterial lib)

def statusName : AlertStatus → String
  | .acknowledged => "ACKNOWLEDGED"
  | .resolved => "RESOLVED"
  | .ignored => "IGNORED"
  | .pending => "PENDING"

def updateAlertStatus (alertId : Int) (status : AlertStatus) : Db R Bool :=
  let times : List (String × Value R) :=
    match status with
    | .acknowledged => [("acknowledged_at", .currentTimestamp)]
    | .resolved => [("resolved_at", .currentTimestamp)]
    | _ => []
  runOne (some (.update "alerts" ([("status", .cast (statusName status) "alert_status"),
    ("updated_at", .currentTimestamp)] ++ times) alertId)) fun res => some (commandOk res)

/-! ## Operations of one transaction -/

/-- The loop of `insert_crack_points`, which goes on after a failed statement. -/
def insertPointLoop (conn : Connection) (crackId : Int) : List (Point3D R) → Int → Db R Int
  | [], lastId => return lastId
  | point :: points, lastId => do
      let res ← exec conn (.query (pointRow crackId point true))
      insertPointLoop conn crackId points
        (match tuples res with
          | row :: _ => atoi (field row 0)
          | [] => lastId)

def insertCrackPoints (crackId : Int) (points : List (Point3D R)) : Db R Int := do
  let conn ← acquire
  if ← beginTransaction conn then
    let lastId ← insertPointLoop conn crackId points (-1)
    if ← commitTransaction conn then
      release conn
      return lastId
    else
      let _ ← rollbackTransaction conn
      release conn
      return -1
  else
    release conn
    return -1

/-- The loop of a batch, which stops at the first failed statement. -/
def batchLoop {α : Type} (row : α → Option (Query R)) (conn : Connection) : List α → Db R Bool
  | [] => return true
  | data :: rest => do
      let q ← .ofOption (row data)
      let res ← exec conn (.query q)
      if commandOk res then batchLoop row conn rest else return false

/-- The common body of the two batches, which does not look at what `COMMIT`
answers. -/
def batchInsert {α : Type} (row : α → Option (Query R)) (dataList : List α) : Db R Bool :=
  if dataList.isEmpty then return true
  else do
    let conn ← acquire
    if ← beginTransaction conn then
      let ok ← batchLoop row conn dataList
      if ok then
        let _ ← commitTransaction conn
        release conn
        return ok
      else
        let _ ← rollbackTransaction conn
        release conn
        return ok
    else
      release conn
      return false

def batchInsertLaserData (dataList : List (LaserMicroscopeData R)) : Db R Bool :=
  batchInsert (fun data => laserRow data false) dataList

def batchInsertVibrationData (dataList : List (VibrationData R)) : Db R Bool :=
  batchInsert (fun data => vibrationRow data false) dataList

/-- Every failure of `batch_insert_crack_detections` ends so. -/
def giveUp (conn : Connection) : Db R Bool := do
  let _ ← rollbackTransaction conn
  release conn
  return false

/-- The points of one crack, and then the rest. -/
def detectionPoints (conn : Connection) (crackId : Int) (next : Db R Bool) :
    List (Point3D R) → Db R Bool
  | [] => next
  | point :: points => do
      let res ← exec conn (.query (pointRow crackId point false))
      if commandOk res then detectionPoints conn crackId next points else giveUp conn

/-- The cracks, each with its points, as long as there are both, and then the
rest. -/
def detectionCracks (conn : Connection) (porcelainId : Int) (next : Db R Bool) :
    List (CrackInfo R × List (Point3D R)) → Db R Bool
  | [] => next
  | (crack, points) :: rest => do
      let res ← exec conn (.query (crackRow crack porcelainId))
      match tuples res with
      | row :: _ =>
          detectionPoints conn (atoi (field row 0)) (detectionCracks conn porcelainId next rest)
            points
      | [] => giveUp conn

def batchInsertCrackDetections (laserData : LaserMicroscopeData R) (cracks : List (CrackInfo R))
    (crackPoints : List (List (Point3D R))) (porcelainId : Int) : Db R Bool := do
  let conn ← acquire
  if ← beginTransaction conn then
    let q ← .ofOption (laserRow laserData true)
    let res ← exec conn (.query q)
    match tuples res with
    | _ :: _ =>
        detectionCracks conn porcelainId (do
          if ← commitTransaction conn then
            release conn
            return true
          else
            giveUp conn) (cracks.zip crackPoints)
    | [] => giveUp conn
  else
    release conn
    return false

end PorcelainMonitor.Database
