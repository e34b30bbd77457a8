import PorcelainMonitor.Common

/-!
# `ProfinetParser`

The decoder of the server side (`profinet_parser.cpp`).  Integers are little
endian.  The `read` functions check the length and throw.  `parse` and
`parseLaserData` also read single bytes with the unchecked `operator[]`, so a
function can fail in two ways: it throws, or it reads outside the vector.

`Uninit` holds the values of the fields that the decoder leaves unassigned.
`Decoding` holds what lies outside the repository: the numbers that bit
patterns denote and `json::parse`.

The initialiser of `point.normal` is read as three consecutive doubles.
-/

namespace PorcelainMonitor.Profinet

/-! ## Bytes -/

/-- `data[i]`. -/
def byteAt (data : List UInt8) (i : Nat) : Except Failure UInt8 :=
  match data[i]? with
  | some b => .ok b
  | none => .error .outOfBounds

/-! ## Integers -/

/-- Two bytes, the low one first.  Outside the vector it throws. -/
def readU16 (data : List UInt8) (offset : Nat) : Except Failure UInt16 := do
  if data.length ≤ offset + 1 then throw (.exception "read_u16 offset out of range")
  let b0 ← byteAt data offset
  let b1 ← byteAt data (offset + 1)
  return b0.toUInt16 ||| b1.toUInt16 <<< 8

def readU32 (data : List UInt8) (offset : Nat) : Except Failure UInt32 := do
  if data.length ≤ offset + 3 then throw (.exception "read_u32 offset out of range")
  let b0 ← byteAt data offset
  let b1 ← byteAt data (offset + 1)
  let b2 ← byteAt data (offset + 2)
  let b3 ← byteAt data (offset + 3)
  return b0.toUInt32 ||| b1.toUInt32 <<< 8 ||| b2.toUInt32 <<< 16 ||| b3.toUInt32 <<< 24

/-- The loop of `read_u64` from byte `i` on, `n` bytes still to read. -/
def readU64Loop (data : List UInt8) (offset : Nat) : Nat → Nat → UInt64 → Except Failure UInt64
  | 0, _, value => .ok value
  | n + 1, i, value => do
      let b ← byteAt data (offset + i)
      readU64Loop data offset n (i + 1) (value ||| b.toUInt64 <<< (UInt64.ofNat (i * 8)))

def readU64 (data : List UInt8) (offset : Nat) : Except Failure UInt64 := do
  if data.length ≤ offset + 7 then throw (.exception "read_u64 offset out of range")
  readU64Loop data offset 8 0 0

/-! ## Frames -/

namespace PacketType

def rtClass1 : UInt16 := 0x0001
def rtClass2 : UInt16 := 0x0002
def rtClass3 : UInt16 := 0x0003
def laserData : UInt16 := 0x8001
def vibrationData : UInt16 := 0x8002
def diagnosis : UInt16 := 0x8003
def configuration : UInt16 := 0x8004
def acknowledge : UInt16 := 0xFFFF

end PacketType

/-- `HEADER_SIZE`. -/
def headerSize : Nat := 16

/-- The header in front of the payload. -/
structure ProfinetHeader where
  frameId : UInt16
  serviceId : UInt8
  serviceType : UInt8
  cycleCounter : UInt32
  timestamp : UInt64
  dataStatus : UInt16
  payloadLength : UInt16
deriving DecidableEq

/-- The name of a frame id. -/
def packetTypeToString (frameId : UInt16) : String :=
  if frameId = PacketType.rtClass1 then "RT_CLASS_1"
  else if frameId = PacketType.rtClass2 then "RT_CLASS_2"
  else if frameId = PacketType.rtClass3 then "RT_CLASS_3"
  else if frameId = PacketType.laserData then "LASER_DATA"
  else if frameId = PacketType.vibrationData then "VIBRATION_DATA"
  else if frameId = PacketType.diagnosis then "DIAGNOSIS"
  else if frameId = PacketType.configuration then "CONFIGURATION"
  else if frameId = PacketType.acknowledge then "ACKNOWLEDGE"
  else "UNKNOWN_" ++ toString frameId.toNat

/-- The header fields, read in the order of the source. -/
def parseHeader (data : List UInt8) : Except Failure ProfinetHeader := do
  let frameId ← readU16 data 0
  let serviceId ← byteAt data 2
  let serviceType ← byteAt data 3
  let cycleCounter ← readU32 data 4
  let timestamp ← readU64 data 8
  let dataStatus ← readU16 data 16
  let payloadLength ← readU16 data 18
  return { frameId, serviceId, serviceType, cycleCounter, timestamp, dataStatus, payloadLength }

/-- The header, and as many bytes as it announces, from four bytes behind it on. -/
def parse (data : List UInt8) (sourceIp destIp : String) : Except Failure ProfinetPacket := do
  if data.length < headerSize then
    throw (.exception "Packet too small for PROFINET header")
  let header ← parseHeader data
  let payloadOffset := headerSize + 4
  if payloadOffset + header.payloadLength.toNat ≤ data.length then
    return {
      sourceIp := sourceIp
      destinationIp := destIp
      packetType := packetTypeToString header.frameId
      frameId := header.frameId
      payload := (data.drop payloadOffset).take header.payloadLength.toNat }
  else throw (.exception "Incomplete PROFINET payload")

/-! ## Payloads -/

/-- What the decoder takes from outside: the numbers that the bit patterns of
`double` and `float` denote, and `json::parse`. -/
structure Decoding (R : Type) where
  double : UInt64 → R
  float : UInt32 → R
  jsonParse : List UInt8 → Except String (Json R)

/-- The values of the fields that no decoder assigns. -/
structure Uninit where
  /-- `LaserMicroscopeData::id` or `VibrationData::id`. -/
  id : Int
  /-- `CrackInfo::id` of the crack decoded at this position. -/
  crackId : Nat → Int

/-- A decoder of one payload: it moves an offset and may fail. -/
abbrev Decoder := StateT Nat (Except Failure)

section Payload

variable {R : Type} (lib : Decoding R) (payload : List UInt8)

/-- The eight bytes of a `double`. -/
def readDouble (data : List UInt8) (offset : Nat) : Except Failure R := do
  if data.length ≤ offset + 7 then throw (.exception "read_double offset out of range")
  let bits ← readU64 data offset
  return lib.double bits

def readFloat (data : List UInt8) (offset : Nat) : Except Failure R := do
  if data.length ≤ offset + 3 then throw (.exception "read_float offset out of range")
  let bits ← readU32 data offset
  return lib.float bits

/-- Read at the offset and move it by the size of what was read. -/
def next {α : Type} (read : List UInt8 → Nat → Except Failure α) (size : Nat) : Decoder α :=
  fun offset => do
    let value ← read payload offset
    return (value, offset + size)

def nextU32 : Decoder UInt32 := next payload readU32 4
def nextU64 : Decoder UInt64 := next payload readU64 8
def nextDouble : Decoder R := next payload (readDouble lib) 8
def nextFloat : Decoder R := next payload (readFloat lib) 4

/-- A counted loop that collects what its body reads. -/
def times {α : Type} (body : Nat → Decoder α) : Nat → Nat → Decoder (List α)
  | 0, _ => pure []
  | n + 1, i => do
      let value ← body i
      let rest ← times body n (i + 1)
      return value :: rest

/-- The nine numbers of a point. -/
def decodePoint : Decoder (Point3D R) := do
  let x ← nextDouble lib payload
  let y ← nextDouble lib payload
  let z ← nextDouble lib payload
  let depth ← nextDouble lib payload
  let width ← nextDouble lib payload
  let nx ← nextDouble lib payload
  let ny ← nextDouble lib payload
  let nz ← nextDouble lib payload
  let curvature ← nextDouble lib payload
  return { x, y, z, depth, width, normal := some (nx, ny, nz), curvature := some curvature }

/-- One round of the crack loop.  `crack.id` stays unassigned, and the strings
and the time point keep their default values. -/
def decodeCrack (uninit : Uninit) (porcelainId : Int) (i : Nat) : Decoder (CrackInfo R) := do
  let maxDepth ← nextDouble lib payload
  let maxWidth ← nextDouble lib payload
  let totalLength ← nextDouble lib payload
  let pointCount ← nextU32 payload
  let points ← times (fun _ => decodePoint lib payload) pointCount.toNat 0
  return {
    id := uninit.crackId i
    porcelainId := porcelainId
    crackCode := ""
    maxDepth := maxDepth
    maxWidth := maxWidth
    totalLength := totalLength
    status := ""
    points := points
    detectedAt := 0 }

/-- The JSON trailer: a length and, if the payload holds that many bytes, a
text.  A trailer that is announced but not there is passed over. -/
def decodeJson : Decoder (Json R) := do
  let jsonLength ← nextU32 payload
  let offset ← get
  if 0 < jsonLength.toNat ∧ offset + jsonLength.toNat ≤ payload.length then
    match lib.jsonParse ((payload.drop offset).take jsonLength.toNat) with
    | .ok value => return value
    | .error what => throw (.exception what)
  else return .null

/-- The fields of `parse_laser_data` in their order. -/
def laserDecoder (uninit : Uninit) : Decoder (LaserMicroscopeData R) := do
  let sensorId ← nextU32 payload
  let porcelainId ← nextU32 payload
  let timestampNs ← nextU64 payload
  let area0 ← nextDouble lib payload
  let area1 ← nextDouble lib payload
  let area2 ← nextDouble lib payload
  let area3 ← nextDouble lib payload
  let resolution ← nextDouble lib payload
  let crackDetected ← next payload byteAt 1
  let crackCount ← nextU32 payload
  -- `crack_count` is an `int`, so a count above `INT_MAX` runs no round.
  let cracks ← times (decodeCrack lib payload uninit (toInt32 porcelainId.toNat))
    (toInt32 crackCount.toNat).toNat 0
  let processedData ← decodeJson lib payload
  return {
    id := uninit.id
    sensorId := toInt32 sensorId.toNat
    porcelainId := toInt32 porcelainId.toNat
    measurementTime := timestampNs.toInt64.toInt
    scanArea := (area0, area1, area2, area3)
    resolution := resolution
    crackDetected := crackDetected ≠ 0
    crackCount := toInt32 crackCount.toNat
    cracks := cracks
    processedData := processedData }

/-- A payload from its first byte.  What is left behind the trailer is not looked at. -/
def parseLaserData (uninit : Uninit) : Except Failure (LaserMicroscopeData R) := do
  let (data, _) ← laserDecoder lib payload uninit 0
  return data

/-- The fields of `parse_vibration_data` in their order. -/
def vibrationDecoder (uninit : Uninit) : Decoder (VibrationData R) := do
  let sensorId ← nextU32 payload
  let porcelainId ← nextU32 payload
  let timestampNs ← nextU64 payload
  let rmsValue ← nextDouble lib payload
  let peakValue ← nextDouble lib payload
  let dominantFrequency ← nextDouble lib payload
  let temperature ← nextFloat lib payload
  let humidity ← nextFloat lib payload
  let amplitudeCount ← nextU32 payload
  let amplitude ← times (fun _ => nextDouble lib payload) amplitudeCount.toNat 0
  let frequencySpectrum ← decodeJson lib payload
  return {
    id := uninit.id
    sensorId := toInt32 sensorId.toNat
    porcelainId := toInt32 porcelainId.toNat
    measurementTime := timestampNs.toInt64.toInt
    frequencySpectrum := frequencySpectrum
    amplitude := amplitude
    rmsValue := rmsValue
    peakValue := peakValue
    dominantFrequency := dominantFrequency
    temperature := temperature
    humidity := humidity }

def parseVibrationData (uninit : Uninit) : Except Failure (VibrationData R) := do
  let (data, _) ← vibrationDecoder lib payload uninit 0
  return data

end Payload

end PorcelainMonitor.Profinet
