import PorcelainMonitor.Algorithms.DemRun
import PorcelainMonitor.Database.Server
import PorcelainMonitor.Http.DocRoot
import PorcelainMonitor.JsonDump
import PorcelainMonitor.Lib.Effects

/-!
# The handlers of the routes

What `register_api_routes` does with a request.  A handler is a computation over the
state of all that it calls.  The database is a `Manager`, the two models are the
fields `predict` and `simulate` of a `Server`, and the files are what can be opened.

The bodies of the requests are not read by any handler.  Of the headers only the
type of the content is kept.
-/

namespace PorcelainMonitor.Http

open Algorithms (CMath Candidate DEMGeometry DEMObject DEMResult ParisLawParameters
  ParisLawResult Vec)
open Database (Output Reading Store alertTypeName digitsValue isSpace)
open Effects (Comp)

/-! ## Responses -/

inductive Body (R : Type) where
  /-- The text of the value. -/
  | json (j : Json R)
  | text (text : Text)
  | file (content : List UInt8)

structure Response (R : Type) where
  status : Nat
  contentType : String
  body : Body R

variable {R σ : Type}

/-- `dump()` throws on a string that is not valid UTF-8. -/
def jsonResponse (j : Json R) (status : Nat := 200) : Comp Failure σ (Response R) :=
  if j.validUtf8 then pure ⟨status, "application/json", .json j⟩
  else throw (.exception "[json.exception.type_error.316]")

def errorResponse (status : Nat) (message : String) : Comp Failure σ (Response R) :=
  jsonResponse (.object [("error", .text message)]) status

def notFound (target : Text) : Response R :=
  ⟨404, "text/plain",
    .text ("The resource '".toList ++ target ++ "' was not found.".toList)⟩

def contentTypeOf (path : Text) : String :=
  if ".html".toList <:+ path then "text/html"
  else if ".css".toList <:+ path then "text/css"
  else if ".js".toList <:+ path then "application/javascript"
  else "application/octet-stream"

/-- The files are the contents of what can be opened. -/
def serveFile (files : Text → Option (List UInt8)) (path : Text) : Response R :=
  match files (fullPath path) with
  | none => notFound path
  | some content => ⟨200, contentTypeOf path, .file content⟩

/-! ## Integers from text -/

def afterSign : Text → Text
  | '-' :: rest => rest
  | '+' :: rest => rest
  | rest => rest

/-- Blanks, a sign and the digits that follow, if they make a number that is at least
`-limit` and below `limit`. -/
def readInteger (name : String) (limit : Int) (s : Text) : Except Failure Int :=
  let rest := s.dropWhile isSpace
  let digits := (afterSign rest).takeWhile Char.isDigit
  let n := if rest.head? = some '-' then -digitsValue digits else digitsValue digits
  if digits = [] then .error (.exception name)
  else if -limit ≤ n ∧ n < limit then .ok n
  else .error (.exception name)

/-- `std::stoi` -/
def stoi (s : Text) : Comp Failure σ Int := .ofExcept (readInteger "stoi" (2 ^ 31) s)

/-- `std::stoll` -/
def stoll (s : Text) : Comp Failure σ Int := .ofExcept (readInteger "stoll" (2 ^ 63) s)

/-- `matches[i].str()`, which is empty for a group that is not there. -/
def group (captures : List Text) (i : Nat) : Text := captures.getD (i - 1) []

/-! ## What the handlers call -/

/-- The methods of `DatabaseManager` that the handlers call. -/
structure Manager (R σ : Type) where
  getAllPorcelains : Comp Failure σ (List (PorcelainInfo R))
  getPorcelain (id : Int) : Comp Failure σ (PorcelainInfo R)
  getCracksByPorcelain (porcelainId : Int) : Comp Failure σ (List (CrackInfo R))
  getCrack (crackId : Int) : Comp Failure σ (CrackInfo R)
  getCrackPoints (crackId : Int) : Comp Failure σ (List (Point3D R))
  getActiveAlerts : Comp Failure σ (List (Alert R))
  getRepairMaterials : Comp Failure σ (List (RepairMaterial R))
  getLaserData (porcelainId hours : Int) : Comp Failure σ (List (LaserMicroscopeData R))
  insertPrediction (prediction : CrackPrediction R) : Comp Failure σ Int
  insertSimulation (simulation : RepairSimulation R) : Comp Failure σ Int
  updateAlertStatus (alertId : Int) (status : AlertStatus) : Comp Failure σ Bool

/-- The values of locals that are never set. -/
structure Unset (R : Type) where
  id : Int
  material : RepairMaterial R

structure Server (R σ : Type) where
  db : Manager R σ
  /-- `CrackPropagationModel::predict` -/
  predict (crack : CrackInfo R) (timeHorizonHours timeSteps : Int) :
    Comp Failure σ (ParisLawResult R)
  /-- The set-up and the run of a `DEMSimulation`. -/
  simulate (crack : CrackInfo R) (material : RepairMaterial R) : Comp Failure σ (DEMResult R)
  /-- `MetricsRegistry::serialize` -/
  serialize : Comp Failure σ Text
  files : Text → Option (List UInt8)
  unset : Unset R

/-! ## JSON -/

def dynastyName : DynastyType → String
  | .song => "SONG"
  | .yuan => "YUAN"

/-- `to_string(RepairMaterialType)` -/
def materialTypeName : RepairMaterialType → String
  | .zirconia => "ZIRCONIA"
  | .silica => "SILICA"
  | .composite => "COMPOSITE"

def porcelainJson (p : PorcelainInfo R) : Json R :=
  .object [
    ("id", .int p.id),
    ("museum_id", .text p.museumId),
    ("name", .text p.name),
    ("dynasty", .text (dynastyName p.dynasty)),
    ("production_year", .int p.productionYear),
    ("description", .text p.description),
    ("origin_location", .text p.originLocation),
    ("dimensions", p.dimensions)]

def pointJson (pt : Point3D R) : Json R :=
  .object [
    ("x", .float pt.x), ("y", .float pt.y), ("z", .float pt.z),
    ("depth", .float pt.depth), ("width", .float pt.width)]

def crackJson (c : CrackInfo R) (points : List (Point3D R)) : Json R :=
  .object [
    ("id", .int c.id),
    ("crack_code", .text c.crackCode),
    ("max_depth", .float c.maxDepth),
    ("max_width", .float c.maxWidth),
    ("total_length", .float c.totalLength),
    ("status", .text c.status),
    ("points", .arr (points.map pointJson))]

/-- The status is not the one of the alert. -/
def alertJson (a : Alert R) : Json R :=
  .object [
    ("id", .int a.id),
    ("type", .text (alertTypeName a.type)),
    ("porcelain_id", .int a.porcelainId),
    ("crack_id", .int a.crackId),
    ("sensor_id", .int a.sensorId),
    ("threshold", .float a.thresholdValue),
    ("actual", .float a.actualValue),
    ("unit", .text a.unit),
    ("message", .text a.message),
    ("status", .text "PENDING")]

def materialJson (m : RepairMaterial R) : Json R :=
  .object [
    ("id", .int m.id),
    ("type", .text (materialTypeName m.type)),
    ("name", .text m.name),
    ("manufacturer", .text m.manufacturer),
    ("particle_size_nm", .float m.particleSizeNm),
    ("purity", .float m.purity),
    ("viscosity", .float m.viscosity),
    ("refractive_index", .float m.refractiveIndex),
    ("thermal_expansion_coeff", .float m.thermalExpansionCoeff),
    ("properties", m.properties)]

def laserJson (d : LaserMicroscopeData R) : Json R :=
  .object [
    ("id", .int d.id),
    ("sensor_id", .int d.sensorId),
    ("crack_detected", .bool d.crackDetected),
    ("crack_count", .int d.crackCount),
    ("resolution", .float d.resolution)]

/-! ## The handlers -/

namespace Server

variable [Field R] [LinearOrder R] (server : Server R σ)

/-- The handler that `main` adds. -/
def metrics : Comp Failure σ (Response R) := do
  let body ← server.serialize
  return ⟨200, "text/plain; version=0.0.4; charset=utf-8", .text body⟩

/-- `r1` -/
def porcelains : Comp Failure σ (Response R) := do
  let porcelains ← server.db.getAllPorcelains
  jsonResponse (.arr (porcelains.map porcelainJson))

/-- `r2` -/
def porcelain (captures : List Text) : Comp Failure σ (Response R) := do
  let id ← stoi (group captures 1)
  let p ← server.db.getPorcelain id
  jsonResponse (porcelainJson p)

/-- The loop of `r3`. -/
def crackRows : List (CrackInfo R) → Comp Failure σ (List (Json R))
  | [] => return []
  | c :: cracks => do
      let points ← server.db.getCrackPoints (toInt32 c.id)
      let rows ← crackRows cracks
      return crackJson c points :: rows

/-- `r3` -/
def cracks (captures : List Text) : Comp Failure σ (Response R) := do
  let id ← stoi (group captures 1)
  let cracks ← server.db.getCracksByPorcelain id
  let rows ← server.crackRows cracks
  jsonResponse (.arr rows)

/-- `r4` -/
def points (captures : List Text) : Comp Failure σ (Response R) := do
  let id ← stoi (group captures 1)
  let points ← server.db.getCrackPoints id
  jsonResponse (.arr (points.map pointJson))

/-- The row that `r5` inserts. -/
def prediction (crackId : Int) (result : ParisLawResult R) : CrackPrediction R where
  id := server.unset.id
  crackId := crackId
  modelType := "PARIS_LAW"
  parameters := (Algorithms.resultToJson result).subscript "parameters"
  timeHorizonHours := 720
  predictedDepth := result.predictedDepth720h
  predictedWidth := result.predictedWidth720h
  predictedLength := result.predictedLength720h
  confidence := result.confidence
  riskLevel := result.riskLevel

/-- `r5`, which does not look whether there is a crack. -/
def predictCrack (captures : List Text) : Comp Failure σ (Response R) := do
  let crackId ← stoi (group captures 1)
  let crack ← server.db.getCrack crackId
  let points ← server.db.getCrackPoints crackId
  let result ← server.predict { crack with points := points } 720 100
  let _ ← server.db.insertPrediction (server.prediction crackId result)
  jsonResponse (Algorithms.resultToJson result)

/-- The row that `r6` inserts. -/
def simulation (crackId materialId : Int) (result : DEMResult R) : RepairSimulation R where
  id := server.unset.id
  crackId := crackId
  materialId := materialId
  method := "DEM"
  parameters := result.toJson.subscript "parameters"
  particleCount := result.particleCount
  fillingRate := result.fillingRate
  bondingStrength := result.bondingStrength
  surfaceSmoothness := result.surfaceSmoothness
  durabilityScore := result.durabilityScore
  result := result.toJson

/-- The material with the id.  The local is not set if there is none. -/
def findMaterial (materials : List (RepairMaterial R)) (materialId : Int) : RepairMaterial R :=
  (materials.find? fun m => m.id = materialId).getD server.unset.material

/-- `r6`, which looks neither for a crack nor for a material. -/
def simulateRepair (captures : List Text) : Comp Failure σ (Response R) := do
  let crackId ← stoi (group captures 1)
  let materialId ← stoi (group captures 2)
  let crack ← server.db.getCrack crackId
  let points ← server.db.getCrackPoints crackId
  let materials ← server.db.getRepairMaterials
  let material := server.findMaterial materials materialId
  let result ← server.simulate { crack with points := points } material
  let _ ← server.db.insertSimulation (server.simulation crackId materialId result)
  jsonResponse result.toJson

/-- `r7` -/
def alerts : Comp Failure σ (Response R) := do
  let alerts ← server.db.getActiveAlerts
  jsonResponse (.arr (alerts.map alertJson))

/-- `r8` -/
def acknowledge (captures : List Text) : Comp Failure σ (Response R) := do
  let id ← stoll (group captures 1)
  let success ← server.db.updateAlertStatus id .acknowledged
  jsonResponse (.object [("success", .bool success)])

/-- `r9` -/
def materials : Comp Failure σ (Response R) := do
  let materials ← server.db.getRepairMaterials
  jsonResponse (.arr (materials.map materialJson))

/-- `r10` -/
def laserData (captures : List Text) : Comp Failure σ (Response R) := do
  let id ← stoi (group captures 1)
  let data ← server.db.getLaserData id 24
  jsonResponse (.arr (data.map laserJson))

/-- A handler with the captures of its route. -/
def call (captures : List Text) : Handler → Comp Failure σ (Response R)
  | .metrics => server.metrics
  | .porcelains => server.porcelains
  | .porcelain => server.porcelain captures
  | .cracks => server.cracks captures
  | .points => server.points captures
  | .predict => server.predictCrack captures
  | .simulate => server.simulateRepair captures
  | .alerts => server.alerts
  | .acknowledge => server.acknowledge captures
  | .materials => server.materials
  | .laserData => server.laserData captures

def respond : Answer → Comp Failure σ (Response R)
  | .file path => return serveFile server.files path
  | .handler h captures => server.call captures h
  | .error status message => errorResponse status message

/-- `route_request` with what it calls. -/
def routeRequest (req : Request) : Comp Failure σ (Response R) :=
  server.respond (Http.routeRequest req)

end Server

/-! ## The models -/

/-- What the two models depend on besides their arguments. -/
structure Models (R : Type) where
  math : CMath R
  cfg : Settings.DEM R
  /-- The geometry and the material of a `DEMSimulation` before they are set. -/
  unsetGeometry : DEMGeometry R
  unsetMaterialId : Int
  candidates : Nat → Candidate R
  draws : Nat → Nat → Vec R

namespace Models

variable [Field R] [LinearOrder R] (models : Models R)

/-- A model with the default parameters. -/
def predict (crack : CrackInfo R) (timeHorizonHours timeSteps : Int) :
    Except Failure (ParisLawResult R) :=
  Algorithms.predict models.math .default crack timeHorizonHours timeSteps

def simulate (crack : CrackInfo R) (material : RepairMaterial R) :
    Except Failure (DEMResult R) :=
  let dem := DEMObject.new models.cfg models.unsetGeometry models.unsetMaterialId
  let dem := (dem.setCrackGeometry crack).setMaterialProperties material
  let dem := (dem.generateParticles models.math models.candidates 1000).generateBoundary
  (dem.run models.math models.draws 1000).map Prod.fst

/-- A server that runs these models. -/
def server (db : Manager R σ) (serialize : Comp Failure σ Text)
    (files : Text → Option (List UInt8)) (unset : Unset R) : Server R σ where
  db := db
  predict crack timeHorizonHours timeSteps :=
    .ofExcept (models.predict crack timeHorizonHours timeSteps)
  simulate crack material := .ofExcept (models.simulate crack material)
  serialize := serialize
  files := files
  unset := unset

end Models

end PorcelainMonitor.Http
