import Mathlib.Data.List.Flatten
import PorcelainMonitor.Profinet.PayloadBounds
import PorcelainMonitor.Profinet.PayloadBytes

/-!
# The payload codecs

The decoders of the server side read what the sensor side wrote.
-/

namespace PorcelainMonitor.Profinet

open LittleEndian OffsetDecoder

/-! ## Fields -/

section Fields

variable {R : Type} (lib : Decoding R)

/-- A field of a fixed size is read where it was written, and not from a part of it. -/
theorem reads_next {α : Type} {read : List UInt8 → Nat → Except Failure α} {bytes : List UInt8}
    {n : Nat} {a : α} (hsize : bytes.length = n)
    (hread : ∀ before after, read (before ++ (bytes ++ after)) before.length = .ok a)
    (hshort : ∀ data offset, data.length < offset + n → ∃ e, read data offset = .error e) :
    Reads (fun payload => next payload read n) bytes a where
  ok before after := by rw [next_run (hread before after), hsize]
  short before cut hcut hne := by
    have hlt : cut.length < bytes.length :=
      Nat.lt_of_le_of_ne hcut.length_le fun h => hne (hcut.eq_of_length h)
    obtain ⟨e, he⟩ := hshort (before ++ cut) before.length (by rw [List.length_append]; omega)
    exact ⟨e, next_run_error he⟩

/-- For the readers of the parser the second half is known. -/
theorem Reader.reads {α : Type} {read : List UInt8 → Nat → Except Failure α} {bytes : List UInt8}
    {n : Nat} {a : α} (h : Reader read n) (hsize : bytes.length = n)
    (hread : ∀ before after, read (before ++ (bytes ++ after)) before.length = .ok a) :
    Reads (fun payload => next payload read n) bytes a := by
  refine reads_next hsize hread fun data offset hlt => ?_
  obtain ⟨what, hwhat⟩ := h.short data offset hlt
  exact ⟨_, hwhat⟩

/-- A word is read back wherever it stands. -/
theorem readU32_append (before after : List UInt8) (n : UInt32) :
    readU32 (before ++ (wordBytes 4 n.toNat ++ after)) before.length = .ok n := by
  rw [readU32_eq (by simp only [List.length_append, length_bytes]; omega), wordAt_append,
    Nat.mod_eq_of_lt (show n.toNat < 256 ^ 4 from n.toNat_lt), UInt32.ofNat_toNat]

theorem readU64_append (before after : List UInt8) (n : UInt64) :
    readU64 (before ++ (wordBytes 8 n.toNat ++ after)) before.length = .ok n := by
  rw [readU64_eq (by simp only [List.length_append, length_bytes]; omega), wordAt_append,
    Nat.mod_eq_of_lt (show n.toNat < 256 ^ 8 from n.toNat_lt), UInt64.ofNat_toNat]

theorem reads_nextU32 (n : UInt32) : Reads nextU32 (wordBytes 4 n.toNat) n :=
  reader_readU32.reads (length_bytes ..) fun before after => readU32_append before after n

theorem reads_nextU64 (n : UInt64) : Reads nextU64 (wordBytes 8 n.toNat) n :=
  reader_readU64.reads (length_bytes ..) fun before after => readU64_append before after n

/-- The bits are read as a word, which the machine then takes for a number. -/
theorem reads_nextDouble (bits : UInt64) :
    Reads (nextDouble lib) (wordBytes 8 bits.toNat) (lib.double bits) := by
  refine (reader_readDouble lib).reads (length_bytes ..) fun before after => ?_
  rw [readDouble, if_neg (by simp only [List.length_append, length_bytes]; omega), readU64_append]
  rfl

theorem reads_nextFloat (bits : UInt32) :
    Reads (nextFloat lib) (wordBytes 4 bits.toNat) (lib.float bits) := by
  refine (reader_readFloat lib).reads (length_bytes ..) fun before after => ?_
  rw [readFloat, if_neg (by simp only [List.length_append, length_bytes]; omega), readU32_append]
  rfl

theorem reads_nextByte (b : UInt8) : Reads (fun payload => next payload byteAt 1) [b] b := by
  refine reads_next rfl (fun before after => ?_) fun data offset h => ?_
  · simp [byteAt]
  · exact ⟨_, byteAt_of_le (by omega)⟩

/-- A counted loop reads its items one after the other. -/
theorem reads_times {α β : Type} {body : List UInt8 → Nat → Decoder β} {bytes : α → List UInt8}
    {g : Nat → α → β} (xs : List α) (start : Nat)
    (h : ∀ i, ∀ x ∈ xs, Reads (fun payload => body payload i) (bytes x) (g i x)) :
    Reads (fun payload => times (body payload) xs.length start) (xs.flatMap bytes)
      (xs.mapIdx fun i x => g (start + i) x) := by
  induction xs generalizing start with
  | nil => exact Reads.pure []
  | cons x xs ih =>
      have hrest := ih (start + 1) fun i y hy => h i y (List.mem_cons_of_mem x hy)
      have hvalues : ((x :: xs).mapIdx fun i x => g (start + i) x) =
          g start x :: xs.mapIdx fun i x => g (start + 1 + i) x := by
        rw [List.mapIdx_cons]
        simp only [Nat.add_zero, Nat.add_assoc, Nat.add_comm 1]
      rw [List.flatMap_cons, hvalues]
      exact (h start x List.mem_cons_self).bind (hrest.map fun rest => g start x :: rest)

end Fields

/-! ## Readings -/

section Readings

variable {R : Type} (lib : Decoding R) (uninit : Uninit)

/-- The point as the server decodes it.  All of its fields are on the wire. -/
def SentPoint.decoded (p : SentPoint) : Point3D R where
  x := lib.double p.x
  y := lib.double p.y
  z := lib.double p.z
  depth := lib.double p.depth
  width := lib.double p.width
  normal := some (lib.double p.normalX, lib.double p.normalY, lib.double p.normalZ)
  curvature := some (lib.double p.curvature)

/-- The crack as the server decodes it.  Its id, code, status and time are not on the wire. -/
def SentCrack.decoded (porcelainId : Int) (i : Nat) (c : SentCrack) : CrackInfo R where
  id := uninit.crackId i
  porcelainId := porcelainId
  crackCode := ""
  maxDepth := lib.double c.maxDepth
  maxWidth := lib.double c.maxWidth
  totalLength := lib.double c.totalLength
  status := ""
  points := c.points.map (SentPoint.decoded lib)
  detectedAt := 0

/-- The reading with its cracks, as it stands on the wire. -/
def LaserReading.decoded (r : LaserReading) (processedData : Json R) : LaserMicroscopeData R where
  id := uninit.id
  sensorId := r.sensorId.toInt
  porcelainId := r.porcelainId.toInt
  measurementTime := r.timestamp.toNat
  scanArea := (lib.double r.scanArea.1, lib.double r.scanArea.2.1, lib.double r.scanArea.2.2.1,
    lib.double r.scanArea.2.2.2)
  resolution := lib.double r.resolution
  crackDetected := r.crackDetected
  crackCount := r.cracks.length
  cracks := r.cracks.mapIdx (SentCrack.decoded lib uninit r.porcelainId.toInt)
  processedData := processedData

/-- The reading with its amplitudes, as it stands on the wire. -/
def VibrationReading.decoded (r : VibrationReading) (frequencySpectrum : Json R) :
    VibrationData R where
  id := uninit.id
  sensorId := r.sensorId.toInt
  porcelainId := r.porcelainId.toInt
  measurementTime := r.timestamp.toNat
  frequencySpectrum := frequencySpectrum
  amplitude := r.amplitude.map lib.double
  rmsValue := lib.double r.rms
  peakValue := lib.double r.peak
  dominantFrequency := lib.double r.dominantFrequency
  temperature := lib.float r.temperature
  humidity := lib.float r.humidity

/-! ### Conversions -/

/-- A count below 2^32 is not cut. -/
theorem toNat_count {n : Nat} (h : n < 2 ^ 32) : (UInt32.ofNat n).toNat = n := by
  rw [UInt32.toNat_ofNat']
  exact Nat.mod_eq_of_lt h

/-- An `int` keeps its value when it is sent as an unsigned word. -/
theorem toInt32_toUInt32 (n : Int32) : toInt32 n.toUInt32.toNat = n.toInt := by
  rw [toInt32]
  exact n.toBitVec.toInt_eq_toNat_bmod.symm

/-- A time before 2^63 is not negative as an `int64_t`. -/
theorem toInt_timestamp {t : UInt64} (h : t.toNat < 2 ^ 63) : t.toInt64.toInt = t.toNat := by
  have hbmod : t.toInt64.toInt = (t.toNat : Int).bmod (2 ^ 64) := t.toBitVec.toInt_eq_toNat_bmod
  rw [hbmod, Int.bmod_def]
  split <;> omega

/-! ### Decoders of their encodings -/

theorem reads_point (p : SentPoint) : Reads (decodePoint lib) p.bytes (p.decoded lib) := by
  refine (reads_nextDouble lib p.x).bind ((reads_nextDouble lib p.y).bind ?_)
  refine (reads_nextDouble lib p.z).bind ((reads_nextDouble lib p.depth).bind ?_)
  refine (reads_nextDouble lib p.width).bind ((reads_nextDouble lib p.normalX).bind ?_)
  refine (reads_nextDouble lib p.normalY).bind ((reads_nextDouble lib p.normalZ).bind ?_)
  exact (reads_nextDouble lib p.curvature).map _

/-- The points of a crack are read by the count that stands before them. -/
theorem reads_crack (porcelainId : Int) (i : Nat) (c : SentCrack) :
    Reads (fun payload => decodeCrack lib payload uninit porcelainId i) c.bytes
      (c.decoded lib uninit porcelainId i) := by
  refine (reads_nextDouble lib c.maxDepth).bind ((reads_nextDouble lib c.maxWidth).bind ?_)
  refine (reads_nextDouble lib c.totalLength).bind ((reads_nextU32 _).bind ?_)
  rw [toNat_count c.points_lt]
  have hpoints := reads_times (g := fun _ p => p.decoded lib) c.points 0
    fun _ p _ => reads_point lib p
  rw [List.mapIdx_eq_iff.mpr fun i => List.getElem?_map] at hpoints
  exact hpoints.map _

/-- What `parse_laser_data` has read in front of the flag. -/
def LaserReading.scalars (r : LaserReading) : LaserMicroscopeData R where
  id := uninit.id
  sensorId := toInt32 r.sensorId.toUInt32.toNat
  porcelainId := toInt32 r.porcelainId.toUInt32.toNat
  measurementTime := r.timestamp.toInt64.toInt
  scanArea := (lib.double r.scanArea.1, lib.double r.scanArea.2.1, lib.double r.scanArea.2.2.1,
    lib.double r.scanArea.2.2.2)
  resolution := lib.double r.resolution
  crackDetected := false
  crackCount := 0
  cracks := []
  processedData := .null

/-- The fields before the cracks. -/
theorem reads_laserScalars (r : LaserReading) :
    Reads (fun payload => laserScalars lib payload uninit) r.scalarBytes
      (r.scalars lib uninit) := by
  refine (reads_nextU32 r.sensorId.toUInt32).bind ((reads_nextU32 r.porcelainId.toUInt32).bind ?_)
  refine (reads_nextU64 r.timestamp).bind ?_
  refine (reads_nextDouble lib r.scanArea.1).bind ((reads_nextDouble lib r.scanArea.2.1).bind ?_)
  refine (reads_nextDouble lib r.scanArea.2.2.1).bind ?_
  refine (reads_nextDouble lib r.scanArea.2.2.2).bind ?_
  exact (reads_nextDouble lib r.resolution).map _

/-- The cracks that the loop comes to. -/
def LaserReading.readCracks (r : LaserReading) : List SentCrack :=
  if r.cracks.length < 2 ^ 31 then r.cracks else []

/-- The count is read with its sign, so a count from 2^31 on stands for no crack. -/
theorem LaserReading.length_readCracks (r : LaserReading) :
    r.readCracks.length = (toInt32 (UInt32.ofNat r.cracks.length).toNat).toNat := by
  rw [toNat_count r.cracks_lt, LaserReading.readCracks]
  split
  · next h => rw [toInt32_of_lt h, Int.toNat_natCast]
  · next h =>
      have hneg := toInt32_neg (Nat.le_of_not_lt h) r.cracks_lt
      exact (Int.toNat_of_nonpos (Int.le_of_lt hneg)).symm

/-- What `parse_laser_data` reads in front of the trailer. -/
def LaserReading.headBytes (r : LaserReading) : List UInt8 :=
  r.scalarBytes ++ ([if r.crackDetected then 1 else 0] ++ (countBytes r.cracks.length
    ++ r.readCracks.flatMap SentCrack.bytes))

/-- The reading without its cracks. -/
def LaserReading.flagged (r : LaserReading) : LaserMicroscopeData R :=
  { r.scalars lib uninit with crackDetected := r.crackDetected }

/-- The reading without its text, with the cracks that the loop reads. -/
def LaserReading.head (r : LaserReading) : LaserMicroscopeData R :=
  { r.flagged lib uninit with
    crackCount := toInt32 (UInt32.ofNat r.cracks.length).toNat
    cracks := r.readCracks.mapIdx
      (SentCrack.decoded lib uninit (r.flagged lib uninit).porcelainId) }

/-- The count is kept with its sign, and the loop reads as many cracks as it says then. -/
theorem reads_laserCracks (r : LaserReading) (data : LaserMicroscopeData R) :
    Reads (fun payload => laserCracks lib payload uninit data)
      (countBytes r.cracks.length ++ r.readCracks.flatMap SentCrack.bytes)
      { data with
        crackCount := toInt32 (UInt32.ofNat r.cracks.length).toNat
        cracks := r.readCracks.mapIdx (SentCrack.decoded lib uninit data.porcelainId) } := by
  have hcracks := reads_times (g := SentCrack.decoded lib uninit data.porcelainId) r.readCracks 0
    fun i c _ => reads_crack lib uninit data.porcelainId i c
  simp only [Nat.zero_add, r.length_readCracks] at hcracks
  exact (reads_nextU32 (UInt32.ofNat r.cracks.length)).bind (hcracks.map _)

/-- All that stands before the text. -/
theorem reads_laserHead (r : LaserReading) :
    Reads (fun payload => laserHead lib payload uninit) r.headBytes (r.head lib uninit) := by
  have hflag : decide ((if r.crackDetected then (1 : UInt8) else 0) ≠ 0) = r.crackDetected := by
    cases r.crackDetected <;> rfl
  refine (reads_laserScalars lib uninit r).bind ((reads_nextByte _).bind ?_)
  rw [hflag]
  exact reads_laserCracks lib uninit r (r.flagged lib uninit)

/-- The reading without its text. -/
def VibrationReading.head (r : VibrationReading) : VibrationData R where
  id := uninit.id
  sensorId := toInt32 r.sensorId.toUInt32.toNat
  porcelainId := toInt32 r.porcelainId.toUInt32.toNat
  measurementTime := r.timestamp.toInt64.toInt
  frequencySpectrum := .null
  amplitude := r.amplitude.map lib.double
  rmsValue := lib.double r.rms
  peakValue := lib.double r.peak
  dominantFrequency := lib.double r.dominantFrequency
  temperature := lib.float r.temperature
  humidity := lib.float r.humidity

/-- All that stands before the text of a vibration reading. -/
theorem reads_vibrationHead (r : VibrationReading) :
    Reads (fun payload => vibrationHead lib payload uninit) r.headBytes (r.head lib uninit) := by
  have hamplitude := reads_times (g := fun _ bits => lib.double bits) r.amplitude 0
    fun _ bits _ => reads_nextDouble lib bits
  rw [List.mapIdx_eq_iff.mpr fun i => List.getElem?_map] at hamplitude
  refine (reads_nextU32 r.sensorId.toUInt32).bind ((reads_nextU32 r.porcelainId.toUInt32).bind ?_)
  refine (reads_nextU64 r.timestamp).bind ?_
  refine (reads_nextDouble lib r.rms).bind ((reads_nextDouble lib r.peak).bind ?_)
  refine (reads_nextDouble lib r.dominantFrequency).bind ?_
  refine (reads_nextFloat lib r.temperature).bind ((reads_nextFloat lib r.humidity).bind ?_)
  refine (reads_nextU32 (UInt32.ofNat r.amplitude.length)).bind ?_
  rw [toNat_count r.amplitude_lt]
  exact hamplitude.map _

end Readings

/-! ## Payloads -/

section Payloads

variable {R : Type} (lib : Decoding R) (uninit : Uninit)

/-- What stands behind the head: the cracks that the loop has not come to, and the
trailer. -/
def LaserReading.rest (r : LaserReading) : List UInt8 :=
  (r.cracks.drop r.readCracks.length).flatMap SentCrack.bytes
    ++ (countBytes r.json.length ++ r.json)

/-- The loop reads the first cracks. -/
theorem LaserReading.readCracks_append (r : LaserReading) :
    r.readCracks ++ r.cracks.drop r.readCracks.length = r.cracks := by
  rw [LaserReading.readCracks]
  split
  · rw [List.drop_length, List.append_nil]
  · rfl

/-- The payload in two parts: what is read before the text, and what is left then. -/
theorem buildLaserPayload_eq_head (r : LaserReading) :
    buildLaserPayload r = r.headBytes ++ r.rest := by
  have hcracks : r.readCracks.flatMap SentCrack.bytes
      ++ (r.cracks.drop r.readCracks.length).flatMap SentCrack.bytes =
        r.cracks.flatMap SentCrack.bytes := by
    rw [← List.flatMap_append, r.readCracks_append]
  rw [buildLaserPayload_eq, ← hcracks]
  simp only [LaserReading.headBytes, LaserReading.rest, List.append_assoc]

/-- Whatever comes after the head is taken for the text. -/
theorem parseLaserData_head (r : LaserReading) (after : List UInt8) :
    parseLaserData lib (r.headBytes ++ after) uninit =
      ((decodeJson lib (r.headBytes ++ after)).run r.headBytes.length).map fun p =>
        { r.head lib uninit with processedData := p.1 } := by
  have hhead := (reads_laserHead lib uninit r).ok [] after
  rw [List.nil_append, List.length_nil, Nat.zero_add] at hhead
  rw [parseLaserData_eq, run_bind_ok hhead]
  exact map_fst_bind

/-- The same for a vibration reading. -/
theorem parseVibrationData_head (r : VibrationReading) (after : List UInt8) :
    parseVibrationData lib (r.headBytes ++ after) uninit =
      ((decodeJson lib (r.headBytes ++ after)).run r.headBytes.length).map fun p =>
        { r.head lib uninit with frequencySpectrum := p.1 } := by
  have hhead := (reads_vibrationHead lib uninit r).ok [] after
  rw [List.nil_append, List.length_nil, Nat.zero_add] at hhead
  rw [parseVibrationData_eq, run_bind_ok hhead]
  exact map_fst_bind

variable {lib}

/-- The trailer of a text whose length fits. -/
theorem decodeJson_text {before json : List UInt8} {value : Json R} (hpos : 0 < json.length)
    (hlt : json.length < 2 ^ 32) (hjson : lib.jsonParse json = .ok value) :
    (decodeJson lib (before ++ (countBytes json.length ++ json))).run before.length =
      .ok (value, before.length + 4) := by
  have hcount : wordAt (before ++ (countBytes json.length ++ json)) before.length 4 =
      json.length := by
    rw [countBytes, wordAt_append, toNat_count hlt]
    exact Nat.mod_eq_of_lt hlt
  have hlen : (before ++ (countBytes json.length ++ json)).length =
      before.length + 4 + json.length := by
    rw [List.length_append, List.length_append, countBytes, length_bytes, Nat.add_assoc]
  have hdrop : (before ++ (countBytes json.length ++ json)).drop (before.length + 4) = json := by
    rw [← List.append_assoc]
    exact List.drop_left' (by rw [List.length_append, countBytes, length_bytes])
  rw [decodeJson_run (by omega), hcount, if_pos ⟨hpos, by omega⟩, hdrop, List.take_length, hjson]

/-- With fewer than 2^31 cracks none is passed over. -/
theorem LaserReading.head_eq_decoded {r : LaserReading} (htime : r.timestamp.toNat < 2 ^ 63)
    (hcracks : r.cracks.length < 2 ^ 31) (value : Json R) :
    { r.head lib uninit with processedData := value } = r.decoded lib uninit value := by
  simp only [LaserReading.head, LaserReading.flagged, LaserReading.scalars, LaserReading.decoded,
    LaserReading.readCracks, if_pos hcracks, toInt32_toUInt32, toInt_timestamp htime,
    toNat_count r.cracks_lt, toInt32_of_lt hcracks]

theorem LaserReading.rest_eq {r : LaserReading} (hcracks : r.cracks.length < 2 ^ 31) :
    r.rest = countBytes r.json.length ++ r.json := by
  rw [LaserReading.rest, LaserReading.readCracks, if_pos hcracks, List.drop_length,
    List.flatMap_nil, List.nil_append]

/-- The text is read if its length fits and is not zero. -/
theorem parseLaserData_text {r : LaserReading} {value : Json R}
    (hcracks : r.cracks.length < 2 ^ 31) (hpos : 0 < r.json.length)
    (hlt : r.json.length < 2 ^ 32) (hjson : lib.jsonParse r.json = .ok value) :
    parseLaserData lib (buildLaserPayload r) uninit =
      .ok { r.head lib uninit with processedData := value } := by
  rw [buildLaserPayload_eq_head, LaserReading.rest_eq hcracks, parseLaserData_head,
    decodeJson_text hpos hlt hjson]
  rfl

/-- What the sensor side lays out is the reading that the server side decodes. -/
theorem parseLaserData_buildLaserPayload {r : LaserReading} {value : Json R}
    (htime : r.timestamp.toNat < 2 ^ 63) (hcracks : r.cracks.length < 2 ^ 31)
    (hpos : 0 < r.json.length) (hlt : r.json.length < 2 ^ 32)
    (hjson : lib.jsonParse r.json = .ok value) :
    parseLaserData lib (buildLaserPayload r) uninit = .ok (r.decoded lib uninit value) := by
  rw [parseLaserData_text uninit hcracks hpos hlt hjson,
    LaserReading.head_eq_decoded uninit htime hcracks]

/-- A crack of two points. -/
def scratch : SentCrack where
  maxDepth := 1
  maxWidth := 2
  totalLength := 3
  points := [⟨1, 2, 3, 4, 5, 6, 7, 8, 9⟩, ⟨9, 8, 7, 6, 5, 4, 3, 2, 1⟩]
  points_lt := by decide

/-- A reading of that crack, with `1` and a blank as its text. -/
def scratchReading : LaserReading where
  sensorId := 7
  porcelainId := -3
  timestamp := 5
  scanArea := (0, 0, 20, 20)
  resolution := 1
  crackDetected := true
  cracks := [scratch]
  cracks_lt := by decide
  json := [0x31, 0x20]

theorem parseLaserData_scratchReading :
    parseLaserData patterns (buildLaserPayload scratchReading) zeroed =
      .ok (scratchReading.decoded patterns zeroed (.int 1)) :=
  parseLaserData_buildLaserPayload zeroed (by decide) (by decide) (by decide) (by decide) rfl

theorem VibrationReading.head_eq_decoded {r : VibrationReading}
    (htime : r.timestamp.toNat < 2 ^ 63) (value : Json R) :
    { r.head lib uninit with frequencySpectrum := value } = r.decoded lib uninit value := by
  simp only [VibrationReading.head, VibrationReading.decoded, toInt32_toUInt32,
    toInt_timestamp htime]

/-- The text is read if its length fits and is not zero, as for the microscope. -/
theorem parseVibrationData_text {r : VibrationReading} {value : Json R} (hpos : 0 < r.json.length)
    (hlt : r.json.length < 2 ^ 32) (hjson : lib.jsonParse r.json = .ok value) :
    parseVibrationData lib (buildVibrationPayload r) uninit =
      .ok { r.head lib uninit with frequencySpectrum := value } := by
  rw [buildVibrationPayload_eq, parseVibrationData_head, decodeJson_text hpos hlt hjson]
  rfl

/-- A vibration reading whose text is JSON and shorter than 2^32 bytes is decoded as it was
sent.  The empty text is no JSON. -/
theorem parseVibrationData_buildVibrationPayload {r : VibrationReading} {value : Json R}
    (hempty : ∀ value, lib.jsonParse [] ≠ .ok value) (htime : r.timestamp.toNat < 2 ^ 63)
    (hlt : r.json.length < 2 ^ 32) (hjson : lib.jsonParse r.json = .ok value) :
    parseVibrationData lib (buildVibrationPayload r) uninit =
      .ok (r.decoded lib uninit value) := by
  have hpos : 0 < r.json.length := by
    refine List.length_pos_iff.mpr fun hnil => hempty value ?_
    rw [← hnil, hjson]
  rw [parseVibrationData_text uninit hpos hlt hjson, VibrationReading.head_eq_decoded uninit htime]

/-- A reading of two amplitudes with this text. -/
def humReading (json : List UInt8) : VibrationReading where
  sensorId := 21
  porcelainId := 3
  timestamp := 5
  rms := 1
  peak := 2
  dominantFrequency := 50
  temperature := 22
  humidity := 40
  amplitude := [10, 20]
  amplitude_lt := by decide
  json := json

theorem parseVibrationData_humReading :
    parseVibrationData patterns (buildVibrationPayload (humReading [0x31, 0x20])) zeroed =
      .ok ((humReading [0x31, 0x20]).decoded patterns zeroed (.int 1)) :=
  parseVibrationData_buildVibrationPayload zeroed (fun _ h => by cases h) (by decide) (by decide)
    rfl

/-- A text whose length is cut to zero is passed over. -/
theorem parseVibrationData_of_cut_length (r : VibrationReading) (h : r.json.length % 2 ^ 32 = 0) :
    parseVibrationData lib (buildVibrationPayload r) uninit =
      .ok { r.head lib uninit with frequencySpectrum := .null } := by
  have hcount : wordAt (r.headBytes ++ (countBytes r.json.length ++ r.json)) r.headBytes.length 4 =
      0 := by
    rw [countBytes, wordAt_append, UInt32.toNat_ofNat', h, Nat.zero_mod]
  have hlen : r.headBytes.length + 4 ≤
      (r.headBytes ++ (countBytes r.json.length ++ r.json)).length := by
    rw [List.length_append, List.length_append, countBytes, length_bytes]
    omega
  rw [buildVibrationPayload_eq, parseVibrationData_head, decodeJson_run hlen, hcount,
    if_neg fun hpos => Nat.lt_irrefl 0 hpos.1]
  rfl

/-- The number 1 and blanks. -/
def paddedOne (n : Nat) : List UInt8 := 0x31 :: List.replicate n 0x20

theorem paddedOne_parses (n : Nat) : patterns.jsonParse (paddedOne n) = .ok (.int 1) := by
  have hblank : (List.replicate n (0x20 : UInt8)).all (fun b => b = 0x20) = true := by
    simp
  exact if_pos hblank

/-- A text whose length wraps to zero is taken for a missing one, although it is the number 1.
-/
theorem paddedOne_is_lost {n : Nat} (h : (n + 1) % 2 ^ 32 = 0) :
    parseVibrationData patterns (buildVibrationPayload (humReading (paddedOne n))) zeroed ≠
      .ok ((humReading (paddedOne n)).decoded patterns zeroed (.int 1)) := by
  have hlen : (humReading (paddedOne n)).json.length % 2 ^ 32 = 0 := by
    rwa [humReading, paddedOne, List.length_cons, List.length_replicate]
  rw [parseVibrationData_of_cut_length zeroed _ hlen]
  intro heq
  have hjson := congrArg VibrationData.frequencySpectrum (Except.ok.inj heq)
  cases hjson

/-- The length of a text of 2^32 bytes reads as zero. -/
theorem padded_text_is_lost :
    ¬ ∀ (lib : Decoding UInt64) (uninit : Uninit) (r : VibrationReading) (value : Json UInt64),
      (∀ value, lib.jsonParse [] ≠ .ok value) → r.timestamp.toNat < 2 ^ 63 →
      lib.jsonParse r.json = .ok value →
      parseVibrationData lib (buildVibrationPayload r) uninit =
        .ok (r.decoded lib uninit value) := by
  intro h
  refine paddedOne_is_lost (n := 2 ^ 32 - 1) (by decide) ?_
  exact h patterns zeroed (humReading (paddedOne _)) (.int 1) (fun _ h => by cases h) (by decide)
    (paddedOne_parses _)

end Payloads

end PorcelainMonitor.Profinet
