import PorcelainMonitor.Lib.LittleEndian
import PorcelainMonitor.Profinet.Parser

/-!
# The sender of the sensor side

`ProfinetClient::build_profinet_packet` of the simulator, with the `append`
functions it uses.  Its timestamp is the clock reading of the call and its cycle
counter is the client's own.

A `SentFrame` is one call of it with a payload of at most 65535 bytes, the most
that the 16-bit length field can declare.
-/

namespace PorcelainMonitor.Profinet

open LittleEndian

/-- Push the byte `value & 0xFF`. -/
def appendU16 (buf : List UInt8) (value : UInt16) : List UInt8 :=
  buf ++ [(value &&& 0xFF).toUInt8, (value >>> 8 &&& 0xFF).toUInt8]

def appendU32 (buf : List UInt8) (value : UInt32) : List UInt8 :=
  (List.range 4).foldl
    (fun buf i => buf ++ [(value >>> UInt32.ofNat (i * 8) &&& 0xFF).toUInt8]) buf

def appendU64 (buf : List UInt8) (value : UInt64) : List UInt8 :=
  (List.range 8).foldl
    (fun buf i => buf ++ [(value >>> UInt64.ofNat (i * 8) &&& 0xFF).toUInt8]) buf

/-- The header of 24 bytes and the payload. -/
def buildProfinetPacket (cycleCounter : UInt32) (timestamp : UInt64) (frameId : UInt16)
    (payload : List UInt8) : List UInt8 :=
  let packet := appendU16 [] frameId
  let packet := packet ++ [0x01]
  let packet := packet ++ [0x01]
  let packet := appendU32 packet cycleCounter
  let packet := appendU64 packet timestamp
  let packet := appendU16 packet 0x0001
  let packet := appendU16 packet (UInt16.ofNat payload.length)
  let packet := packet ++ [0x00]
  let packet := packet ++ [0x00]
  let packet := packet ++ [0x00]
  let packet := packet ++ [0x00]
  packet ++ payload

/-- One frame as the sensor side sends it. -/
structure SentFrame where
  frameId : UInt16
  cycleCounter : UInt32
  timestamp : UInt64
  payload : List UInt8
  /-- The length field can declare the payload. -/
  payload_le : payload.length ≤ 65535

/-- The bytes of the frame on the wire. -/
def SentFrame.bytes (f : SentFrame) : List UInt8 :=
  buildProfinetPacket f.cycleCounter f.timestamp f.frameId f.payload

/-! ## Layout -/

theorem appendU16_eq (buf : List UInt8) (value : UInt16) :
    appendU16 buf value = buf ++ wordBytes 2 value.toNat := by
  have h0 := byte_of_shiftRight16 value (i := 0) (by decide)
  have h1 := byte_of_shiftRight16 value (i := 1) (by decide)
  simp only [Nat.zero_mul, Nat.one_mul, Nat.pow_zero, Nat.pow_one, Nat.div_one] at h0 h1
  simp only [appendU16, wordBytes_succ, wordBytes_zero, ← h0, ← h1]
  simp

theorem appendU32_eq (buf : List UInt8) (value : UInt32) :
    appendU32 buf value = buf ++ wordBytes 4 value.toNat := by
  rw [appendU32, foldl_push, wordBytes_eq_map]
  congr 1
  refine List.map_congr_left fun i hi => ?_
  exact byte_of_shiftRight32 value (List.mem_range.mp hi)

theorem appendU64_eq (buf : List UInt8) (value : UInt64) :
    appendU64 buf value = buf ++ wordBytes 8 value.toNat := by
  rw [appendU64, foldl_push, wordBytes_eq_map]
  congr 1
  refine List.map_congr_left fun i hi => ?_
  exact byte_of_shiftRight64 value (List.mem_range.mp hi)

/-- The 24 bytes in front of the payload. -/
def SentFrame.header (f : SentFrame) : List UInt8 :=
  wordBytes 2 f.frameId.toNat ++ ([1, 1] ++ (wordBytes 4 f.cycleCounter.toNat
    ++ (wordBytes 8 f.timestamp.toNat ++ (wordBytes 2 1
    ++ (wordBytes 2 f.payload.length ++ [0, 0, 0, 0])))))

/-- A frame is its header and its payload. -/
theorem SentFrame.bytes_eq (f : SentFrame) : f.bytes = f.header ++ f.payload := by
  have hlen : (UInt16.ofNat f.payload.length).toNat = f.payload.length := by
    rw [UInt16.toNat_ofNat', Nat.mod_eq_of_lt (Nat.lt_succ_of_le f.payload_le)]
  simp [SentFrame.bytes, SentFrame.header, buildProfinetPacket, appendU16_eq, appendU32_eq,
    appendU64_eq, hlen]

/-- Whatever the values are, the header has its size. -/
theorem SentFrame.length_header (f : SentFrame) : f.header.length = 24 := by
  simp [SentFrame.header]

theorem SentFrame.length_bytes (f : SentFrame) : f.bytes.length = 24 + f.payload.length := by
  rw [f.bytes_eq, List.length_append, f.length_header]

end PorcelainMonitor.Profinet
