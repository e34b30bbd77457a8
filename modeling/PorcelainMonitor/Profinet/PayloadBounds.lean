import PorcelainMonitor.Lib.OffsetDecoder
import PorcelainMonitor.Profinet.Decoded
import PorcelainMonitor.Profinet.RoundTrip

/-!
# Bounds of the payload decoders

The `read` functions throw where their bytes are not there (`Reader`), and a
decoder made of them fails in no other way.  One access is not theirs:
`parse_laser_data` takes the byte of `crack_detected` with `operator[]`, right
behind the scalars of 56 bytes.

The second half is about counts: where each loop of a decoder has read, and the
declared count next to what came out of it.
-/

namespace PorcelainMonitor.Profinet

open LittleEndian OffsetDecoder

/-! ## Readers -/

/-- The failure is an exception. -/
def Thrown (e : Failure) : Prop := ∃ what, e = .exception what

/-- It reads `size` bytes where they are there, and throws elsewhere. -/
structure Reader {α : Type} (read : List UInt8 → Nat → Except Failure α) (size : Nat) : Prop where
  ok : ∀ data offset, offset + size ≤ data.length → ∃ a, read data offset = .ok a
  short : ∀ data offset, data.length < offset + size →
    ∃ what, read data offset = .error (.exception what)

namespace Reader

variable {α : Type} {read : List UInt8 → Nat → Except Failure α} {size : Nat} {data : List UInt8}

theorem error (h : Reader read size) {offset : Nat} {e : Failure}
    (he : read data offset = .error e) : Thrown e := by
  by_cases hlen : offset + size ≤ data.length
  · obtain ⟨a, ha⟩ := h.ok data offset hlen
    rw [ha] at he
    cases he
  · obtain ⟨what, hwhat⟩ := h.short data offset (by omega)
    rw [hwhat] at he
    cases he
    exact ⟨what, rfl⟩

/-- A field is read or an exception is thrown; nothing else can happen. -/
theorem failsWith (h : Reader read size) : FailsWith Thrown (next data read size) := by
  intro offset e he
  change (do let value ← read data offset; return (value, offset + size)) = _ at he
  cases hread : read data offset with
  | ok a =>
      rw [hread] at he
      cases he
  | error e' =>
      rw [hread] at he
      cases he
      exact h.error hread

end Reader

/-- The offset moves on behind what was read. -/
theorem next_run {α : Type} {read : List UInt8 → Nat → Except Failure α} {size : Nat}
    {data : List UInt8} {offset : Nat} {a : α} (h : read data offset = .ok a) :
    (next data read size).run offset = .ok (a, offset + size) := by
  show (do let value ← read data offset; return (value, _)) = _
  rw [h]
  rfl

theorem next_run_error {α : Type} {read : List UInt8 → Nat → Except Failure α} {size : Nat}
    {data : List UInt8} {offset : Nat} {e : Failure} (h : read data offset = .error e) :
    (next data read size).run offset = .error e := by
  show (do let value ← read data offset; return (value, _)) = _
  rw [h]
  rfl

/-- The converse: what a field returned was read at the offset before it. -/
theorem next_ok {α : Type} {read : List UInt8 → Nat → Except Failure α} {size : Nat}
    {data : List UInt8} {offset : Nat} {r : α × Nat}
    (h : (next data read size).run offset = .ok r) :
    read data offset = .ok r.1 ∧ r.2 = offset + size := by
  cases hread : read data offset with
  | error e =>
      rw [next_run_error hread] at h
      cases h
  | ok a =>
      rw [next_run hread] at h
      cases h
      exact ⟨rfl, rfl⟩

/-- A field that has been read took its bytes from the payload. -/
theorem Reader.sized {α : Type} {read : List UInt8 → Nat → Except Failure α} {size : Nat}
    {data : List UInt8} (h : Reader read size) : Sized size data (next data read size) where
  ok offset hle := by
    obtain ⟨a, ha⟩ := h.ok data offset hle
    exact ⟨a, next_run ha⟩
  short offset _ hlt := by
    obtain ⟨what, hwhat⟩ := h.short data offset hlt
    exact ⟨_, next_run_error hwhat⟩

theorem reader_readU16 : Reader readU16 2 where
  ok _ _ hle := ⟨_, readU16_eq hle⟩
  short data offset hlt := by
    refine ⟨"read_u16 offset out of range", ?_⟩
    rw [readU16, if_pos (by omega)]
    rfl

theorem reader_readU32 : Reader readU32 4 where
  ok _ _ hle := ⟨_, readU32_eq hle⟩
  short data offset hlt := by
    refine ⟨"read_u32 offset out of range", ?_⟩
    rw [readU32, if_pos (by omega)]
    rfl

theorem reader_readU64 : Reader readU64 8 where
  ok _ _ hle := ⟨_, readU64_eq hle⟩
  short data offset hlt := by
    refine ⟨"read_u64 offset out of range", ?_⟩
    rw [readU64, if_pos (by omega)]
    rfl

section Readers

variable {R : Type} (lib : Decoding R)

/-- Inside the vector a `double` is the machine's reading of its 8 bytes. -/
theorem readDouble_eq {data : List UInt8} {offset : Nat} (h : offset + 8 ≤ data.length) :
    readDouble lib data offset = .ok (lib.double (UInt64.ofNat (wordAt data offset 8))) := by
  rw [readDouble, if_neg (by omega), readU64_eq h]
  rfl

theorem readFloat_eq {data : List UInt8} {offset : Nat} (h : offset + 4 ≤ data.length) :
    readFloat lib data offset = .ok (lib.float (UInt32.ofNat (wordAt data offset 4))) := by
  rw [readFloat, if_neg (by omega), readU32_eq h]
  rfl

theorem reader_readDouble : Reader (readDouble lib) 8 where
  ok _ _ hle := ⟨_, readDouble_eq lib hle⟩
  short data offset hlt := by
    refine ⟨"read_double offset out of range", ?_⟩
    rw [readDouble, if_pos (by omega)]
    rfl

theorem reader_readFloat : Reader (readFloat lib) 4 where
  ok _ _ hle := ⟨_, readFloat_eq lib hle⟩
  short data offset hlt := by
    refine ⟨"read_float offset out of range", ?_⟩
    rw [readFloat, if_pos (by omega)]
    rfl

end Readers

/-- `operator[]` checks nothing. -/
theorem byteAt_of_le {data : List UInt8} {i : Nat} (h : data.length ≤ i) :
    byteAt data i = .error .outOfBounds := by
  rw [byteAt, List.getElem?_eq_none h]

/-! ## The conversion of a count -/

theorem toInt32_of_lt {n : Nat} (h : n < 2 ^ 31) : toInt32 n = n := by
  rw [toInt32, Int.bmod_def]
  split <;> omega

/-- A word from 2^31 on is a negative `int`, so a loop up to it makes no round. -/
theorem toInt32_neg {n : Nat} (hle : 2 ^ 31 ≤ n) (hlt : n < 2 ^ 32) : toInt32 n < 0 := by
  rw [toInt32, Int.bmod_def]
  split <;> omega

/-! ## Loops -/

section Loops

variable {α : Type} {data : List UInt8} {body : Nat → Decoder α} {size : Nat}

/-- A loop fails as its rounds do. -/
theorem times_failsWith {P : Failure → Prop} (h : ∀ i, FailsWith P (body i)) (n i : Nat) :
    FailsWith P (times body n i) := by
  induction n generalizing i with
  | zero => exact FailsWith.pure []
  | succ n ih =>
      refine (h i).bind fun value => (ih (i + 1)).bind fun rest => ?_
      exact FailsWith.pure (value :: rest)

/-- A loop that ends has read all of its items. -/
theorem times_sized (h : ∀ i, Sized size data (body i)) (n i : Nat) :
    Sized (n * size) data (times body n i) := by
  induction n generalizing i with
  | zero =>
      rw [Nat.zero_mul]
      exact Sized.pure []
  | succ n ih =>
      rw [Nat.succ_mul, Nat.add_comm]
      refine (h i).bind fun value => ?_
      exact (ih (i + 1)).bind fun rest => Sized.pure (value :: rest)

end Loops

/-! ## Stages -/

section Stages

variable {R : Type} (lib : Decoding R) (payload : List UInt8) (uninit : Uninit)

/-- `parse_laser_data` up to `resolution`. -/
def laserScalars : Decoder (LaserMicroscopeData R) := do
  let sensorId ← nextU32 payload
  let porcelainId ← nextU32 payload
  let timestampNs ← nextU64 payload
  let area0 ← nextDouble lib payload
  let area1 ← nextDouble lib payload
  let area2 ← nextDouble lib payload
  let area3 ← nextDouble lib payload
  let resolution ← nextDouble lib payload
  return {
    id := uninit.id
    sensorId := toInt32 sensorId.toNat
    porcelainId := toInt32 porcelainId.toNat
    measurementTime := timestampNs.toInt64.toInt
    scanArea := (area0, area1, area2, area3)
    resolution := resolution
    crackDetected := false
    crackCount := 0
    cracks := []
    processedData := .null }

/-- The count and the cracks. -/
def laserCracks (data : LaserMicroscopeData R) : Decoder (LaserMicroscopeData R) := do
  let crackCount ← nextU32 payload
  let cracks ← times (decodeCrack lib payload uninit data.porcelainId)
    (toInt32 crackCount.toNat).toNat 0
  return { data with crackCount := toInt32 crackCount.toNat, cracks := cracks }

/-- `parse_laser_data` up to the JSON trailer. -/
def laserHead : Decoder (LaserMicroscopeData R) := do
  let data ← laserScalars lib payload uninit
  let crackDetected ← next payload byteAt 1
  laserCracks lib payload uninit { data with crackDetected := crackDetected ≠ 0 }

/-- `parse_vibration_data` up to the JSON trailer. -/
def vibrationHead : Decoder (VibrationData R) := do
  let sensorId ← nextU32 payload
  let porcelainId ← nextU32 payload
  let timestampNs ← nextU64 payload
  let rmsValue ← nextDouble lib payload
  let peakValue ← nextDouble lib payload
  let dominantFrequency ← nextDouble lib payload
  let temperature ← nextFloat lib payload
  let humidity ← nextFloat lib payload
  let amplitudeCount ← nextU32 payload
  let amplitude ← times (fun _ => nextDouble lib payload) amplitudeCount.toNat 0
  return {
    id := uninit.id
    sensorId := toInt32 sensorId.toNat
    porcelainId := toInt32 porcelainId.toNat
    measurementTime := timestampNs.toInt64.toInt
    frequencySpectrum := .null
    amplitude := amplitude
    rmsValue := rmsValue
    peakValue := peakValue
    dominantFrequency := dominantFrequency
    temperature := temperature
    humidity := humidity }

/-- `parse_laser_data` is its head and the trailer. -/
theorem laserDecoder_eq : laserDecoder lib payload uninit = (do
    let data ← laserHead lib payload uninit
    let processedData ← decodeJson lib payload
    return { data with processedData := processedData }) := by
  simp only [laserDecoder, laserHead, laserScalars, laserCracks, bind_assoc, pure_bind]

/-- `parse_vibration_data` is its head and the trailer. -/
theorem vibrationDecoder_eq : vibrationDecoder lib payload uninit = (do
    let data ← vibrationHead lib payload uninit
    let frequencySpectrum ← decodeJson lib payload
    return { data with frequencySpectrum := frequencySpectrum }) := by
  simp only [vibrationDecoder, vibrationHead, bind_assoc, pure_bind]

end Stages

/-! ## The trailer -/

section Trailer

variable {R : Type} {lib : Decoding R} {payload : List UInt8} {offset : Nat}

/-- Where the length of the trailer is there, the text is parsed if it is there too. -/
theorem decodeJson_run (h : offset + 4 ≤ payload.length) :
    (decodeJson lib payload).run offset =
      if 0 < wordAt payload offset 4 ∧ offset + 4 + wordAt payload offset 4 ≤ payload.length then
        match lib.jsonParse ((payload.drop (offset + 4)).take (wordAt payload offset 4)) with
        | .ok value => .ok (value, offset + 4)
        | .error what => .error (.exception what)
      else .ok (.null, offset + 4) := by
  have hlength : (UInt32.ofNat (wordAt payload offset 4)).toNat = wordAt payload offset 4 := by
    rw [UInt32.toNat_ofNat']
    exact Nat.mod_eq_of_lt (wordAt_lt payload offset 4)
  have hcount : (nextU32 payload).run offset = _ := next_run (readU32_eq h)
  rw [decodeJson, run_bind_ok hcount, run_bind_ok rfl, hlength]
  split
  · cases lib.jsonParse ((payload.drop (offset + 4)).take (wordAt payload offset 4)) with
    | ok value => rfl
    | error what => rfl
  · rfl

/-- Where even the length of the trailer is cut off, it throws. -/
theorem decodeJson_run_short (h : payload.length < offset + 4) :
    ∃ what, (decodeJson lib payload).run offset = .error (.exception what) := by
  obtain ⟨what, hwhat⟩ := reader_readU32.short payload offset h
  exact ⟨what, run_bind_error (next_run_error hwhat)⟩

/-- A text that is no JSON throws as well. -/
theorem decodeJson_failsWith : FailsWith Thrown (decodeJson lib payload) := by
  intro offset e he
  by_cases h : offset + 4 ≤ payload.length
  · rw [decodeJson_run h] at he
    split at he
    · split at he
      · cases he
      · cases he
        exact ⟨_, rfl⟩
    · cases he
  · have hshort : payload.length < offset + 4 := by omega
    obtain ⟨what, hwhat⟩ := decodeJson_run_short hshort
    rw [hwhat] at he
    cases he
    exact ⟨what, rfl⟩

end Trailer

/-! ## Reads outside the vector -/

/-- The offset is dropped in the end. -/
theorem bind_fst {α : Type} (x : Except Failure (α × Nat)) :
    (do let (a, _) ← x; return a) = x.map Prod.fst := by
  cases x with
  | error e => rfl
  | ok p => rfl

/-- What is done with the value of the last part. -/
theorem map_fst_bind {α β : Type} {x : Decoder α} {g : α → β} {offset : Nat} :
    ((x >>= fun a => pure (g a)).run offset).map Prod.fst =
      (x.run offset).map fun p => g p.1 := by
  cases h : x.run offset with
  | error e =>
      rw [run_bind_error h]
      rfl
  | ok p =>
      rw [run_bind_ok h]
      rfl

theorem map_eq_ok {α β : Type} {x : Except Failure α} {g : α → β} {b : β} :
    x.map g = .ok b ↔ ∃ a, x = .ok a ∧ g a = b := by
  cases x with
  | error e => exact ⟨fun h => (by cases h), fun ⟨_, h, _⟩ => by cases h⟩
  | ok a => exact ⟨fun h => ⟨a, rfl, Except.ok.inj h⟩, fun ⟨_, h, hb⟩ => by cases h; rw [← hb]; rfl⟩

theorem map_eq_error {α β : Type} {x : Except Failure α} {g : α → β} {e : Failure} :
    x.map g = .error e ↔ x = .error e := by
  cases x with
  | error e' => exact ⟨fun h => by cases h; rfl, fun h => by cases h; rfl⟩
  | ok a => exact ⟨fun h => (by cases h), fun h => (by cases h)⟩

section Safety

variable {R : Type} (lib : Decoding R) (payload : List UInt8) (uninit : Uninit)

theorem nextU32_failsWith : FailsWith Thrown (nextU32 payload) := reader_readU32.failsWith

theorem nextU64_failsWith : FailsWith Thrown (nextU64 payload) := reader_readU64.failsWith

theorem nextDouble_failsWith : FailsWith Thrown (nextDouble lib payload) :=
  (reader_readDouble lib).failsWith

theorem nextFloat_failsWith : FailsWith Thrown (nextFloat lib payload) :=
  (reader_readFloat lib).failsWith

theorem decodePoint_failsWith : FailsWith Thrown (decodePoint lib payload) := by
  have hdouble := nextDouble_failsWith lib payload
  refine hdouble.bind fun _ => hdouble.bind fun _ => hdouble.bind fun _ => ?_
  refine hdouble.bind fun _ => hdouble.bind fun _ => hdouble.bind fun _ => ?_
  refine hdouble.bind fun _ => hdouble.bind fun _ => hdouble.bind fun _ => ?_
  exact FailsWith.pure _

theorem decodeCrack_failsWith (porcelainId : Int) (i : Nat) :
    FailsWith Thrown (decodeCrack lib payload uninit porcelainId i) := by
  have hdouble := nextDouble_failsWith lib payload
  refine hdouble.bind fun _ => hdouble.bind fun _ => hdouble.bind fun _ => ?_
  refine (nextU32_failsWith payload).bind fun _ => ?_
  refine (times_failsWith (fun _ => decodePoint_failsWith lib payload) _ 0).bind fun _ => ?_
  exact FailsWith.pure _

/-- The scalars are read by checked readers only. -/
theorem laserScalars_failsWith : FailsWith Thrown (laserScalars lib payload uninit) := by
  have hu32 := nextU32_failsWith payload
  have hdouble := nextDouble_failsWith lib payload
  refine hu32.bind fun _ => hu32.bind fun _ => (nextU64_failsWith payload).bind fun _ => ?_
  refine hdouble.bind fun _ => hdouble.bind fun _ => hdouble.bind fun _ => ?_
  refine hdouble.bind fun _ => hdouble.bind fun _ => ?_
  exact FailsWith.pure _

theorem laserCracks_failsWith (data : LaserMicroscopeData R) :
    FailsWith Thrown (laserCracks lib payload uninit data) := by
  refine (nextU32_failsWith payload).bind fun _ => ?_
  refine (times_failsWith (fun i => ?_) _ 0).bind fun _ => FailsWith.pure _
  exact decodeCrack_failsWith lib payload uninit data.porcelainId i

/-- `parse_vibration_data` has no unchecked read. -/
theorem vibrationHead_failsWith : FailsWith Thrown (vibrationHead lib payload uninit) := by
  have hu32 := nextU32_failsWith payload
  have hdouble := nextDouble_failsWith lib payload
  have hfloat := nextFloat_failsWith lib payload
  refine hu32.bind fun _ => hu32.bind fun _ => (nextU64_failsWith payload).bind fun _ => ?_
  refine hdouble.bind fun _ => hdouble.bind fun _ => hdouble.bind fun _ => ?_
  refine hfloat.bind fun _ => hfloat.bind fun _ => hu32.bind fun _ => ?_
  exact (times_failsWith (fun _ => hdouble) _ 0).bind fun _ => FailsWith.pure _

/-- The scalars take 56 bytes. -/
theorem laserScalars_sized : Sized 56 payload (laserScalars lib payload uninit) := by
  have hu32 : Sized 4 payload (nextU32 payload) := reader_readU32.sized
  have hu64 : Sized 8 payload (nextU64 payload) := reader_readU64.sized
  have hdouble : Sized 8 payload (nextDouble lib payload) := (reader_readDouble lib).sized
  refine hu32.bind fun _ => hu32.bind (n := 48) fun _ => hu64.bind (n := 40) fun _ => ?_
  refine hdouble.bind (n := 32) fun _ => hdouble.bind (n := 24) fun _ => ?_
  refine hdouble.bind (n := 16) fun _ => hdouble.bind (n := 8) fun _ => ?_
  exact hdouble.bind fun _ => Sized.pure _

/-- The byte of `crack_detected` is read behind the scalars, wherever the payload
ends. -/
theorem laserHead_run_outside (h : payload.length = 56) :
    (laserHead lib payload uninit).run 0 = .error .outOfBounds := by
  obtain ⟨data, hdata⟩ := (laserScalars_sized lib payload uninit).ok 0 (by omega)
  have hflag : (next payload byteAt 1).run (0 + 56) = .error .outOfBounds :=
    next_run_error (byteAt_of_le (by omega))
  rw [laserHead, run_bind_ok hdata, run_bind_error hflag]

/-- Only with 56 bytes is the flag read outside: with fewer a scalar throws, and with more it is
there. -/
theorem laserHead_run_error (h : payload.length ≠ 56) {e : Failure}
    (he : (laserHead lib payload uninit).run 0 = .error e) : Thrown e := by
  have hscalars := laserScalars_sized lib payload uninit
  by_cases hlen : 56 ≤ payload.length
  · obtain ⟨data, hdata⟩ := hscalars.ok 0 (by omega)
    have hflag : (next payload byteAt 1).run (0 + 56) = .ok (payload[56], 57) :=
      next_run (byteAt_of_lt (by omega))
    rw [laserHead, run_bind_ok hdata, run_bind_ok hflag] at he
    exact laserCracks_failsWith lib payload uninit _ _ e he
  · obtain ⟨e', he'⟩ := hscalars.short 0 (Nat.zero_le _) (by omega)
    rw [laserHead, run_bind_error he'] at he
    cases he
    exact laserScalars_failsWith lib payload uninit 0 e he'

theorem parseLaserData_eq : parseLaserData lib payload uninit =
    ((laserHead lib payload uninit >>= fun data => do
      let processedData ← decodeJson lib payload
      return { data with processedData := processedData }).run 0).map Prod.fst := by
  rw [parseLaserData, laserDecoder_eq]
  exact bind_fst _

theorem parseVibrationData_eq : parseVibrationData lib payload uninit =
    ((vibrationHead lib payload uninit >>= fun data => do
      let frequencySpectrum ← decodeJson lib payload
      return { data with frequencySpectrum := frequencySpectrum }).run 0).map Prod.fst := by
  rw [parseVibrationData, vibrationDecoder_eq]
  exact bind_fst _

/-- A payload that ends behind the scalars is read outside. -/
theorem parseLaserData_outside (h : payload.length = 56) :
    parseLaserData lib payload uninit = .error .outOfBounds := by
  rw [parseLaserData_eq, run_bind_error (laserHead_run_outside lib payload uninit h)]
  rfl

variable {payload uninit}

/-- Any other payload that is refused is refused by an exception. -/
theorem parseLaserData_error (h : payload.length ≠ 56) {e : Failure}
    (he : parseLaserData lib payload uninit = .error e) : Thrown e := by
  rw [parseLaserData_eq, map_eq_error] at he
  cases hhead : (laserHead lib payload uninit).run 0 with
  | error e' =>
      rw [run_bind_error hhead] at he
      cases he
      exact laserHead_run_error lib payload uninit h hhead
  | ok p =>
      rw [run_bind_ok hhead] at he
      exact (decodeJson_failsWith.bind fun _ => FailsWith.pure _) _ e he

theorem parseVibrationData_error {e : Failure}
    (he : parseVibrationData lib payload uninit = .error e) : Thrown e := by
  rw [parseVibrationData_eq, map_eq_error] at he
  have hhead := vibrationHead_failsWith lib payload uninit
  exact hhead.bind (fun _ => decodeJson_failsWith.bind fun _ => FailsWith.pure _) 0 e he

omit lib in
/-- A failure of two steps in a row is one of the first or one of the second. -/
theorem thrown_bind {α β : Type} {x : Except Failure α} {f : α → Except Failure β} {e : Failure}
    (h : (x >>= f) = .error e) (hx : ∀ e, x = .error e → Thrown e)
    (hf : ∀ a, f a = .error e → Thrown e) : Thrown e := by
  cases x with
  | error e' =>
      cases h
      exact hx e rfl
  | ok a => exact hf a h

/-- The caller has checked that the header is there, so its bytes are read inside. -/
theorem parseHeader_error {data : List UInt8} (hlen : headerSize ≤ data.length) {e : Failure}
    (he : parseHeader data = .error e) : Thrown e := by
  have hbyte : ∀ i < 16, ∀ e, byteAt data i = .error e → Thrown e := by
    intro i hi e hi'
    rw [byteAt_of_lt (by rw [headerSize] at hlen; omega)] at hi'
    cases hi'
  refine thrown_bind he (fun _ => reader_readU16.error) fun _ he => ?_
  refine thrown_bind he (hbyte 2 (by decide)) fun _ he => ?_
  refine thrown_bind he (hbyte 3 (by decide)) fun _ he => ?_
  refine thrown_bind he (fun _ => reader_readU32.error) fun _ he => ?_
  refine thrown_bind he (fun _ => reader_readU64.error) fun _ he => ?_
  refine thrown_bind he (fun _ => reader_readU16.error) fun _ he => ?_
  refine thrown_bind he (fun _ => reader_readU16.error) fun _ he => ?_
  cases he

/-- `parse` checks the length before it looks at the header. -/
theorem parse_error {data : List UInt8} {sourceIp destIp : String} {e : Failure}
    (he : parse data sourceIp destIp = .error e) : Thrown e := by
  rw [parse] at he
  split at he
  · cases he
    exact ⟨_, rfl⟩
  · next hlen =>
      refine thrown_bind he (fun _ => parseHeader_error (Nat.le_of_not_lt hlen)) fun header he => ?_
      dsimp only at he
      split at he
      · cases he
      · cases he
        exact ⟨_, rfl⟩

end Safety

/-- The functions that are given bytes from outside. -/
inductive Entry where
  | parse (sourceIp destIp : String)
  | laserData (uninit : Uninit)
  | vibrationData (uninit : Uninit)

/-- A call, without what it returns. -/
def Entry.run {R : Type} (lib : Decoding R) (data : List UInt8) : Entry → Except Failure Unit
  | .parse sourceIp destIp => (Profinet.parse data sourceIp destIp).map fun _ => ()
  | .laserData uninit => (parseLaserData lib data uninit).map fun _ => ()
  | .vibrationData uninit => (parseVibrationData lib data uninit).map fun _ => ()

/-- All entries stay inside the vector, except `parse_laser_data` on one that ends
right behind its scalars. -/
theorem entry_run_inside_iff {R : Type} (lib : Decoding R) (entry : Entry) (data : List UInt8) :
    entry.run lib data ≠ .error .outOfBounds ↔
      ¬ (data.length = 56 ∧ ∃ uninit, entry = .laserData uninit) := by
  have hthrown : ¬ Thrown .outOfBounds := fun ⟨what, hwhat⟩ => by cases hwhat
  refine not_congr ?_
  cases entry with
  | parse sourceIp destIp =>
      rw [Entry.run, map_eq_error]
      exact ⟨fun h => absurd (parse_error h) hthrown, fun ⟨_, _, h⟩ => by cases h⟩
  | laserData uninit =>
      rw [Entry.run, map_eq_error]
      constructor
      · intro h
        refine ⟨by_contra fun hlen => hthrown (parseLaserData_error lib hlen h), uninit, rfl⟩
      · exact fun ⟨hlen, _⟩ => parseLaserData_outside lib data uninit hlen
  | vibrationData uninit =>
      rw [Entry.run, map_eq_error]
      exact ⟨fun h => absurd (parseVibrationData_error lib h) hthrown, fun ⟨_, _, h⟩ => by cases h⟩

/-- Numbers as their patterns and, of JSON, the number 1 with blanks behind it. -/
def patterns : Decoding UInt64 where
  double bits := bits
  float bits := bits.toUInt64
  jsonParse
    | 0x31 :: blanks =>
        if blanks.all fun b => b = 0x20 then .ok (.int 1) else .error "parse error"
    | _ => .error "parse error"

/-- Memory that held zeros. -/
def zeroed : Uninit := ⟨0, fun _ => 0⟩

/-- 56 bytes are scalars and no flag. -/
theorem laser_flag_read_outside :
    ¬ ∀ (lib : Decoding UInt64) (entry : Entry) (data : List UInt8),
      entry.run lib data ≠ .error .outOfBounds := by
  intro h
  refine h patterns (.laserData zeroed) (List.replicate 56 0) ?_
  rw [Entry.run, map_eq_error]
  exact parseLaserData_outside patterns _ zeroed List.length_replicate

end PorcelainMonitor.Profinet
