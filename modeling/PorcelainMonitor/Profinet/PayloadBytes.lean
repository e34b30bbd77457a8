import PorcelainMonitor.Profinet.Sender

/-!
# The payloads of the sensor side

`build_laser_payload` and `build_vibration_payload` of the simulator.  The values
that they draw are those of the reading they are given, so a reading holds what
stands on the wire: integers of the sizes that are appended, and `double` and
`float` as their bit patterns.  The loops count to a `uint32_t`.
-/

namespace PorcelainMonitor.Profinet

open LittleEndian

/-! ## Readings -/

/-- A point of a crack, as `double` patterns. -/
structure SentPoint where
  x : UInt64
  y : UInt64
  z : UInt64
  depth : UInt64
  width : UInt64
  normalX : UInt64
  normalY : UInt64
  normalZ : UInt64
  curvature : UInt64
deriving DecidableEq

/-- A crack with the points that are sent for it. -/
structure SentCrack where
  maxDepth : UInt64
  maxWidth : UInt64
  totalLength : UInt64
  points : List SentPoint
  points_lt : points.length < 2 ^ 32

/-- What a microscope sends in one payload. -/
structure LaserReading where
  sensorId : Int32
  porcelainId : Int32
  timestamp : UInt64
  scanArea : UInt64 × UInt64 × UInt64 × UInt64
  resolution : UInt64
  crackDetected : Bool
  cracks : List SentCrack
  cracks_lt : cracks.length < 2 ^ 32
  /-- The text of `dump()`. -/
  json : List UInt8

/-- What a vibration sensor sends in one payload. -/
structure VibrationReading where
  sensorId : Int32
  porcelainId : Int32
  timestamp : UInt64
  rms : UInt64
  peak : UInt64
  dominantFrequency : UInt64
  temperature : UInt32
  humidity : UInt32
  amplitude : List UInt64
  amplitude_lt : amplitude.length < 2 ^ 32
  json : List UInt8

/-! ## Writing -/

/-- The pattern of a `double`. -/
def appendDouble (buf : List UInt8) (bits : UInt64) : List UInt8 := appendU64 buf bits

/-- The pattern of a `float`. -/
def appendFloat (buf : List UInt8) (bits : UInt32) : List UInt8 := appendU32 buf bits

/-- The nine numbers of a point, one after the other. -/
def appendPoint (payload : List UInt8) (point : SentPoint) : List UInt8 :=
  let payload := appendDouble payload point.x
  let payload := appendDouble payload point.y
  let payload := appendDouble payload point.z
  let payload := appendDouble payload point.depth
  let payload := appendDouble payload point.width
  let payload := appendDouble payload point.normalX
  let payload := appendDouble payload point.normalY
  let payload := appendDouble payload point.normalZ
  appendDouble payload point.curvature

def appendCrack (payload : List UInt8) (crack : SentCrack) : List UInt8 :=
  let payload := appendDouble payload crack.maxDepth
  let payload := appendDouble payload crack.maxWidth
  let payload := appendDouble payload crack.totalLength
  let payload := appendU32 payload (UInt32.ofNat crack.points.length)
  crack.points.foldl appendPoint payload

/-- The length of a text, cut to 32 bits, and the text. -/
def appendJson (payload json : List UInt8) : List UInt8 :=
  appendU32 payload (UInt32.ofNat json.length) ++ json

def buildLaserPayload (r : LaserReading) : List UInt8 :=
  let payload := appendU32 [] r.sensorId.toUInt32
  let payload := appendU32 payload r.porcelainId.toUInt32
  let payload := appendU64 payload r.timestamp
  let payload := appendDouble payload r.scanArea.1
  let payload := appendDouble payload r.scanArea.2.1
  let payload := appendDouble payload r.scanArea.2.2.1
  let payload := appendDouble payload r.scanArea.2.2.2
  let payload := appendDouble payload r.resolution
  let payload := payload ++ [if r.crackDetected then 1 else 0]
  let payload := appendU32 payload (UInt32.ofNat r.cracks.length)
  let payload := r.cracks.foldl appendCrack payload
  appendJson payload r.json

def buildVibrationPayload (r : VibrationReading) : List UInt8 :=
  let payload := appendU32 [] r.sensorId.toUInt32
  let payload := appendU32 payload r.porcelainId.toUInt32
  let payload := appendU64 payload r.timestamp
  let payload := appendDouble payload r.rms
  let payload := appendDouble payload r.peak
  let payload := appendDouble payload r.dominantFrequency
  let payload := appendFloat payload r.temperature
  let payload := appendFloat payload r.humidity
  let payload := appendU32 payload (UInt32.ofNat r.amplitude.length)
  let payload := r.amplitude.foldl appendDouble payload
  appendJson payload r.json

/-! ## Layout -/

/-- The 72 bytes of a point. -/
def SentPoint.bytes (p : SentPoint) : List UInt8 :=
  wordBytes 8 p.x.toNat ++ (wordBytes 8 p.y.toNat ++ (wordBytes 8 p.z.toNat
    ++ (wordBytes 8 p.depth.toNat ++ (wordBytes 8 p.width.toNat
    ++ (wordBytes 8 p.normalX.toNat ++ (wordBytes 8 p.normalY.toNat
    ++ (wordBytes 8 p.normalZ.toNat ++ wordBytes 8 p.curvature.toNat)))))))

/-- A count, as it stands on the wire. -/
def countBytes (n : Nat) : List UInt8 := wordBytes 4 (UInt32.ofNat n).toNat

/-- The 28 bytes of a crack and those of its points. -/
def SentCrack.bytes (c : SentCrack) : List UInt8 :=
  wordBytes 8 c.maxDepth.toNat ++ (wordBytes 8 c.maxWidth.toNat ++ (wordBytes 8 c.totalLength.toNat
    ++ (countBytes c.points.length ++ c.points.flatMap SentPoint.bytes)))

/-- The scalars in front of `crack_detected`. -/
def LaserReading.scalarBytes (r : LaserReading) : List UInt8 :=
  wordBytes 4 r.sensorId.toUInt32.toNat ++ (wordBytes 4 r.porcelainId.toUInt32.toNat
    ++ (wordBytes 8 r.timestamp.toNat ++ (wordBytes 8 r.scanArea.1.toNat
    ++ (wordBytes 8 r.scanArea.2.1.toNat ++ (wordBytes 8 r.scanArea.2.2.1.toNat
    ++ (wordBytes 8 r.scanArea.2.2.2.toNat ++ wordBytes 8 r.resolution.toNat))))))

/-- All that stands before the text of a vibration reading. -/
def VibrationReading.headBytes (r : VibrationReading) : List UInt8 :=
  wordBytes 4 r.sensorId.toUInt32.toNat ++ (wordBytes 4 r.porcelainId.toUInt32.toNat
    ++ (wordBytes 8 r.timestamp.toNat ++ (wordBytes 8 r.rms.toNat ++ (wordBytes 8 r.peak.toNat
    ++ (wordBytes 8 r.dominantFrequency.toNat ++ (wordBytes 4 r.temperature.toNat
    ++ (wordBytes 4 r.humidity.toNat ++ (countBytes r.amplitude.length
    ++ r.amplitude.flatMap fun bits => wordBytes 8 bits.toNat))))))))

/-- A loop that appends the bytes of one item a round. -/
theorem foldl_append_bytes {α : Type} {f : List UInt8 → α → List UInt8} {bytes : α → List UInt8}
    (h : ∀ buf x, f buf x = buf ++ bytes x) (xs : List α) (buf : List UInt8) :
    xs.foldl f buf = buf ++ xs.flatMap bytes := by
  induction xs generalizing buf with
  | nil => exact (List.append_nil buf).symm
  | cons x xs ih => rw [List.foldl_cons, ih, h, List.append_assoc, List.flatMap_cons]

theorem appendPoint_eq (buf : List UInt8) (p : SentPoint) : appendPoint buf p = buf ++ p.bytes := by
  simp only [appendPoint, appendDouble, appendU64_eq, SentPoint.bytes, List.append_assoc]

theorem appendCrack_eq (buf : List UInt8) (c : SentCrack) : appendCrack buf c = buf ++ c.bytes := by
  simp only [appendCrack, appendDouble, appendU64_eq, appendU32_eq, SentCrack.bytes, countBytes,
    foldl_append_bytes appendPoint_eq, List.append_assoc]

/-- The payload is the bytes of its parts, in the order in which they are appended. -/
theorem buildLaserPayload_eq (r : LaserReading) :
    buildLaserPayload r = r.scalarBytes ++ ([if r.crackDetected then 1 else 0]
      ++ (countBytes r.cracks.length ++ (r.cracks.flatMap SentCrack.bytes
      ++ (countBytes r.json.length ++ r.json)))) := by
  simp only [buildLaserPayload, appendJson, appendDouble, appendU64_eq, appendU32_eq,
    LaserReading.scalarBytes, countBytes, foldl_append_bytes appendCrack_eq, List.append_assoc,
    List.nil_append]

/-- The same for a vibration reading, whose text comes last too. -/
theorem buildVibrationPayload_eq (r : VibrationReading) :
    buildVibrationPayload r = r.headBytes ++ (countBytes r.json.length ++ r.json) := by
  have hdouble : ∀ buf bits, appendDouble buf bits = buf ++ wordBytes 8 bits.toNat := appendU64_eq
  simp only [buildVibrationPayload, appendJson, foldl_append_bytes hdouble, hdouble, appendFloat,
    appendU64_eq, appendU32_eq, VibrationReading.headBytes, countBytes, List.append_assoc,
    List.nil_append]

end PorcelainMonitor.Profinet
