import Mathlib.Algebra.Group.Int.Defs
import Mathlib.Algebra.GroupWithZero.Nat
import Mathlib.Data.List.Basic
import Mathlib.Data.Nat.Init

/-!
# Data of the pipeline (`common.h`)

Every `double` field has the type parameter `R`.  The modules that only carry
such a value leave `R` open, and those that compute with it ask for an ordered
field.  `int` and `int64_t` fields are integers, with `toInt32` at the casts
between the two.  Time points are nanoseconds since the epoch.
-/

namespace PorcelainMonitor

/-- The conversion from `int64_t` to `int`. -/
def toInt32 (n : Int) : Int := n.bmod (2 ^ 32)

/-- How a C++ function can fail to return. -/
inductive Failure where
  /-- An exception derived from `std::exception`, with its text. -/
  | exception (what : String)
  /-- `operator[]` outside the vector, which is undefined behaviour. -/
  | outOfBounds
  /-- Integer division by zero, which is undefined behaviour. -/
  | divisionByZero
deriving DecidableEq, Repr

/-! ## Numerals

Lean takes the instance of a numeral above one out of a definition and names it after the
first declaration that needs it.  The instances of the library for the numbers that several
modules write in `R` get a name of their own here, so that the same number is the same term
wherever it is written.
-/

instance atLeastTwo_two : Nat.AtLeastTwo 2 := inferInstance
instance atLeastTwo_three : Nat.AtLeastTwo 3 := inferInstance
instance atLeastTwo_four : Nat.AtLeastTwo 4 := inferInstance
instance atLeastTwo_five : Nat.AtLeastTwo 5 := inferInstance
instance atLeastTwo_six : Nat.AtLeastTwo 6 := inferInstance
instance atLeastTwo_eight : Nat.AtLeastTwo 8 := inferInstance
instance atLeastTwo_ten : Nat.AtLeastTwo 10 := inferInstance
instance atLeastTwo_fifteen : Nat.AtLeastTwo 15 := inferInstance
instance atLeastTwo_twentyFive : Nat.AtLeastTwo 25 := inferInstance
instance atLeastTwo_thirtyFive : Nat.AtLeastTwo 35 := inferInstance
instance atLeastTwo_fifty : Nat.AtLeastTwo 50 := inferInstance
instance atLeastTwo_seventy : Nat.AtLeastTwo 70 := inferInstance
instance atLeastTwo_hundred : Nat.AtLeastTwo 100 := inferInstance
instance atLeastTwo_hundredFifty : Nat.AtLeastTwo 150 := inferInstance
instance atLeastTwo_twoHundred : Nat.AtLeastTwo 200 := inferInstance
instance atLeastTwo_twoHundredFiftyFive : Nat.AtLeastTwo 255 := inferInstance
instance atLeastTwo_sevenHundredTwenty : Nat.AtLeastTwo 720 := inferInstance
instance atLeastTwo_nineHundredEightyOne : Nat.AtLeastTwo 981 := inferInstance
instance atLeastTwo_thousand : Nat.AtLeastTwo 1000 := inferInstance
instance atLeastTwo_thirtySixHundred : Nat.AtLeastTwo 3600 := inferInstance
instance atLeastTwo_thirtyNineHundredFifty : Nat.AtLeastTwo 3950 := inferInstance

/-! ## JSON values -/

/-- A value of `nlohmann::json`.  Strings and keys are byte strings. -/
inductive Json (R : Type) where
  | null
  | bool (b : Bool)
  | int (n : Int)
  | float (x : R)
  | str (bytes : List UInt8)
  | arr (items : List (Json R))
  | obj (fields : List (List UInt8 × Json R))

/-- An object with keys given as text. -/
def Json.object {R : Type} (fields : List (String × Json R)) : Json R :=
  .obj (fields.map fun (key, value) => (key.toUTF8.data.toList, value))

/-- A string given as text. -/
def Json.text {R : Type} (s : String) : Json R := .str s.toUTF8.data.toList

/-- An array of numbers. -/
def Json.numbers {R : Type} (xs : List R) : Json R := .arr (xs.map .float)

/-- `json::empty()`. -/
def Json.empty {R : Type} : Json R → Bool
  | .null => true
  | .arr items => items.isEmpty
  | .obj fields => fields.isEmpty
  | _ => false

/-- A continuation byte of UTF-8 in a given range. -/
def isCont (lo hi : UInt8) (b : UInt8) : Bool := lo ≤ b && b ≤ hi

/-- Well-formed UTF-8: no stray continuation byte, no overlong form, no
surrogate and nothing above `U+10FFFF`. -/
def validUtf8 : List UInt8 → Bool
  | [] => true
  | a :: rest =>
      if a < 0x80 then validUtf8 rest
      else match rest with
        | b :: rest =>
            if 0xC2 ≤ a && a ≤ 0xDF then isCont 0x80 0xBF b && validUtf8 rest
            else match rest with
              | c :: rest =>
                  if 0xE0 ≤ a && a ≤ 0xEF then
                    isCont (if a = 0xE0 then 0xA0 else 0x80) (if a = 0xED then 0x9F else 0xBF) b
                      && isCont 0x80 0xBF c && validUtf8 rest
                  else match rest with
                    | d :: rest =>
                        0xF0 ≤ a && a ≤ 0xF4
                          && isCont (if a = 0xF0 then 0x90 else 0x80)
                            (if a = 0xF4 then 0x8F else 0xBF) b
                          && isCont 0x80 0xBF c && isCont 0x80 0xBF d && validUtf8 rest
                    | [] => false
              | [] => false
        | [] => false

mutual

/-- Every string and key inside the value is valid UTF-8, which `dump()` asks
for. -/
def Json.validUtf8 {R : Type} : Json R → Bool
  | .str bytes => PorcelainMonitor.validUtf8 bytes
  | .arr items => itemsValidUtf8 items
  | .obj fields => fieldsValidUtf8 fields
  | _ => true

def itemsValidUtf8 {R : Type} : List (Json R) → Bool
  | [] => true
  | j :: js => j.validUtf8 && itemsValidUtf8 js

def fieldsValidUtf8 {R : Type} : List (List UInt8 × Json R) → Bool
  | [] => true
  | (key, j) :: fs => PorcelainMonitor.validUtf8 key && j.validUtf8 && fieldsValidUtf8 fs

end

mutual

/-- No string or key inside the value contains an apostrophe, which `dump()`
leaves as it is. -/
def Json.quoteFree {R : Type} : Json R → Bool
  | .str bytes => !bytes.contains 0x27
  | .arr items => itemsQuoteFree items
  | .obj fields => fieldsQuoteFree fields
  | _ => true

def itemsQuoteFree {R : Type} : List (Json R) → Bool
  | [] => true
  | j :: js => j.quoteFree && itemsQuoteFree js

def fieldsQuoteFree {R : Type} : List (List UInt8 × Json R) → Bool
  | [] => true
  | (key, j) :: fs => !key.contains 0x27 && j.quoteFree && fieldsQuoteFree fs

end

/-! ## Measurements -/

structure Point3D (R : Type) where
  x : R
  y : R
  z : R
  depth : R
  width : R
  normal : Option (R × R × R)
  curvature : Option R

structure CrackInfo (R : Type) where
  id : Int
  porcelainId : Int
  crackCode : String
  maxDepth : R
  maxWidth : R
  totalLength : R
  status : String
  points : List (Point3D R)
  detectedAt : Int

structure LaserMicroscopeData (R : Type) where
  id : Int
  sensorId : Int
  porcelainId : Int
  measurementTime : Int
  scanArea : R × R × R × R
  resolution : R
  crackDetected : Bool
  crackCount : Int
  cracks : List (CrackInfo R)
  processedData : Json R

structure VibrationData (R : Type) where
  id : Int
  sensorId : Int
  porcelainId : Int
  measurementTime : Int
  frequencySpectrum : Json R
  amplitude : List R
  rmsValue : R
  peakValue : R
  dominantFrequency : R
  temperature : R
  humidity : R

/-! ## Porcelains -/

inductive DynastyType where
  | song
  | yuan
deriving DecidableEq, Repr

structure PorcelainInfo (R : Type) where
  id : Int
  museumId : String
  name : String
  dynasty : DynastyType
  productionYear : Int
  description : String
  originLocation : String
  dimensions : Json R
  modelPath : Option String

/-! ## Alerts, predictions and simulations -/

inductive AlertType where
  | crackDepthExceeded
  | crackWidthExceeded
  | crackPropagationRisk
  | vibrationAnomaly
deriving DecidableEq, Repr

inductive AlertStatus where
  | pending
  | acknowledged
  | resolved
  | ignored
deriving DecidableEq, Repr

structure Alert (R : Type) where
  id : Int
  type : AlertType
  porcelainId : Int
  crackId : Int
  sensorId : Int
  thresholdValue : R
  actualValue : R
  unit : String
  message : String
  status : AlertStatus
  smsSent : Bool
  websocketSent : Bool
  createdAt : Int

structure CrackPrediction (R : Type) where
  id : Int
  crackId : Int
  modelType : String
  parameters : Json R
  timeHorizonHours : Int
  predictedDepth : R
  predictedWidth : R
  predictedLength : R
  confidence : R
  riskLevel : String

inductive RepairMaterialType where
  | zirconia
  | silica
  | composite
deriving DecidableEq, Repr

structure RepairMaterial (R : Type) where
  id : Int
  type : RepairMaterialType
  name : String
  manufacturer : String
  particleSizeNm : R
  purity : R
  viscosity : R
  refractiveIndex : R
  thermalExpansionCoeff : R
  properties : Json R

structure RepairSimulation (R : Type) where
  id : Int
  crackId : Int
  materialId : Int
  method : String
  parameters : Json R
  particleCount : Int
  fillingRate : R
  bondingStrength : R
  surfaceSmoothness : R
  durabilityScore : R
  result : Json R

/-! ## Messages between the modules -/

/-- A decoded frame.  Its time of receipt is written and never read, so it is
left out. -/
structure ProfinetPacket where
  sourceIp : String
  destinationIp : String
  packetType : String
  frameId : UInt16
  payload : List UInt8
deriving DecidableEq

structure ParsedLaserMessage (R : Type) where
  packet : ProfinetPacket
  data : LaserMicroscopeData R

structure ParsedVibrationMessage (R : Type) where
  packet : ProfinetPacket
  data : VibrationData R

structure CrackDetectionMessage (R : Type) where
  laserData : LaserMicroscopeData R
  porcelainId : Int
  cracks : List (CrackInfo R)
  crackPoints : List (List (Point3D R))

structure FatiguePredictionMessage (R : Type) where
  crack : CrackInfo R
  porcelainId : Int
  prediction : CrackPrediction R

structure DemSimulationMessage (R : Type) where
  crack : CrackInfo R
  porcelainId : Int
  material : RepairMaterial R
  result : RepairSimulation R

end PorcelainMonitor
