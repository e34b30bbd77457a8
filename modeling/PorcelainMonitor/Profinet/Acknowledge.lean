import PorcelainMonitor.Profinet.RoundTrip

/-!
# Acknowledge frames

`build_acknowledge` writes into a vector of `HEADER_SIZE + 4 = 20` bytes with the
unchecked `operator[]`.  The header fields fill them, so the payload that the
header declares has no room: its word is written behind the vector, and the 20
bytes by themselves are a frame that `parse` does not take.
-/

namespace PorcelainMonitor.Profinet

open LittleEndian

/-! ## Writing -/

/-- `data[i] = b`. -/
def setByte (data : List UInt8) (i : Nat) (b : UInt8) : Except Failure (List UInt8) :=
  if i < data.length then .ok (data.set i b) else .error .outOfBounds

def writeU16 (data : List UInt8) (offset : Nat) (value : UInt16) :
    Except Failure (List UInt8) := do
  let data ← setByte data offset (value &&& 0xFF).toUInt8
  setByte data (offset + 1) (value >>> 8 &&& 0xFF).toUInt8

def writeU32 (data : List UInt8) (offset : Nat) (value : UInt32) : Except Failure (List UInt8) :=
  (List.range 4).foldlM
    (fun data i => setByte data (offset + i) (value >>> UInt32.ofNat (i * 8) &&& 0xFF).toUInt8) data

/-- The frame up to the payload, with the clock reading `nowNs`. -/
def acknowledgeHeader (cycleCounter : UInt32) (nowNs : UInt64) : Except Failure (List UInt8) := do
  let packet := List.replicate (headerSize + 4) 0
  let packet ← writeU16 packet 0 PacketType.acknowledge
  let packet ← setByte packet 2 0x01
  let packet ← setByte packet 3 0x01
  let packet ← writeU32 packet 4 cycleCounter
  let packet ← (List.range 8).foldlM
    (fun packet i =>
      setByte packet (8 + i) (nowNs >>> UInt64.ofNat (i * 8) &&& 0xFF).toUInt8) packet
  let packet ← writeU16 packet 16 0x0001
  writeU16 packet 18 4

def buildAcknowledge (cycleCounter : UInt32) (nowNs : UInt64) : Except Failure (List UInt8) := do
  let packet ← acknowledgeHeader cycleCounter nowNs
  writeU32 packet 20 0

/-! ## What is written -/

theorem ok_bind {α β : Type} (a : α) (f : α → Except Failure β) : (.ok a >>= f) = f a := rfl

/-- A byte is written over the one that stands there. -/
theorem setByte_append (before after : List UInt8) (old b : UInt8) :
    setByte (before ++ old :: after) before.length b = .ok (before ++ b :: after) := by
  rw [setByte, if_pos (by simp), List.set_append_right _ _ (Nat.le_refl _), Nat.sub_self,
    List.set_cons_zero]

/-- A loop that writes byte after byte replaces as many as it has rounds. -/
theorem foldlM_setByte (g : Nat → UInt8) (before old after : List UInt8) :
    (List.range old.length).foldlM (fun data i => setByte data (before.length + i) (g i))
      (before ++ (old ++ after)) =
    .ok (before ++ ((List.range old.length).map g ++ after)) := by
  induction old generalizing before g with
  | nil => rfl
  | cons b old ih =>
      have hrest := ih (fun i => g (i + 1)) (before ++ [g 0])
      simp only [List.length_append, List.length_singleton, List.append_assoc,
        List.singleton_append, Nat.add_assoc, Nat.add_comm 1] at hrest
      rw [List.length_cons, List.range_succ_eq_map, List.foldlM_cons, List.cons_append,
        Nat.add_zero, setByte_append, List.map_cons, List.map_map]
      show List.foldlM _ _ _ = _
      rw [List.foldlM_map]
      exact hrest

theorem writeU16_append (before after : List UInt8) (b0 b1 : UInt8) (value : UInt16) :
    writeU16 (before ++ b0 :: b1 :: after) before.length value =
      .ok (before ++ (wordBytes 2 value.toNat ++ after)) := by
  have hword : wordBytes 2 value.toNat =
      [(value &&& 0xFF).toUInt8, (value >>> 8 &&& 0xFF).toUInt8] := appendU16_eq [] value |>.symm
  have hsecond := setByte_append (before ++ [(value &&& 0xFF).toUInt8]) after b1
    (value >>> 8 &&& 0xFF).toUInt8
  rw [List.length_append, List.length_singleton, List.append_assoc] at hsecond
  rw [writeU16, setByte_append, hword]
  exact hsecond.trans (by rw [List.append_assoc]; rfl)

theorem writeU32_append (before after : List UInt8) (b0 b1 b2 b3 : UInt8) (value : UInt32) :
    writeU32 (before ++ ([b0, b1, b2, b3] ++ after)) before.length value =
      .ok (before ++ (wordBytes 4 value.toNat ++ after)) := by
  have hword : wordBytes 4 value.toNat = (List.range 4).map fun i =>
      (value >>> UInt32.ofNat (i * 8) &&& 0xFF).toUInt8 := by
    rw [wordBytes_eq_map]
    exact List.map_congr_left fun i hi => (byte_of_shiftRight32 _ (List.mem_range.mp hi)).symm
  rw [hword]
  exact foldlM_setByte _ before [b0, b1, b2, b3] after

/-- The loop over the clock reading. -/
theorem writeClock_append (before old after : List UInt8) (hold : old.length = 8)
    (nowNs : UInt64) :
    (List.range 8).foldlM
      (fun packet i => setByte packet (before.length + i)
        (nowNs >>> UInt64.ofNat (i * 8) &&& 0xFF).toUInt8) (before ++ (old ++ after)) =
      .ok (before ++ (wordBytes 8 nowNs.toNat ++ after)) := by
  have hword : wordBytes 8 nowNs.toNat = (List.range 8).map fun i =>
      (nowNs >>> UInt64.ofNat (i * 8) &&& 0xFF).toUInt8 := by
    rw [wordBytes_eq_map]
    exact List.map_congr_left fun i hi => (byte_of_shiftRight64 _ (List.mem_range.mp hi)).symm
  rw [hword, ← hold]
  exact foldlM_setByte _ before old after

/-- The layout of the header. -/
def acknowledgeBytes (cycleCounter : UInt32) (nowNs : UInt64) : List UInt8 :=
  [0xFF, 0xFF, 1, 1] ++ (wordBytes 4 cycleCounter.toNat ++ (wordBytes 8 nowNs.toNat
    ++ [1, 0, 4, 0]))

theorem length_acknowledgeBytes (cycleCounter : UInt32) (nowNs : UInt64) :
    (acknowledgeBytes cycleCounter nowNs).length = 20 := by
  simp [acknowledgeBytes]

/-- The header fits into the vector. -/
theorem acknowledgeHeader_eq (cycleCounter : UInt32) (nowNs : UInt64) :
    acknowledgeHeader cycleCounter nowNs = .ok (acknowledgeBytes cycleCounter nowNs) := by
  have hid : writeU16 (List.replicate (headerSize + 4) 0) 0 PacketType.acknowledge =
      .ok ([0xFF, 0xFF] ++ List.replicate 18 0) := writeU16_append [] _ 0 0 _
  have hservice : setByte ([0xFF, 0xFF] ++ List.replicate 18 0) 2 1 =
      .ok ([0xFF, 0xFF, 1] ++ List.replicate 17 0) := setByte_append [0xFF, 0xFF] _ 0 1
  have htype : setByte ([0xFF, 0xFF, 1] ++ List.replicate 17 0) 3 1 =
      .ok ([0xFF, 0xFF, 1, 1] ++ List.replicate 16 0) := setByte_append [0xFF, 0xFF, 1] _ 0 1
  have hcycle : writeU32 ([0xFF, 0xFF, 1, 1] ++ List.replicate 16 0) 4 cycleCounter =
      .ok ([0xFF, 0xFF, 1, 1] ++ (wordBytes 4 cycleCounter.toNat
        ++ (List.replicate 8 0 ++ [0, 0, 0, 0]))) :=
    writeU32_append [0xFF, 0xFF, 1, 1] _ 0 0 0 0 cycleCounter
  have hclock := writeClock_append ([0xFF, 0xFF, 1, 1] ++ wordBytes 4 cycleCounter.toNat)
    (List.replicate 8 0) [0, 0, 0, 0] List.length_replicate nowNs
  have hstatus := writeU16_append
    ([0xFF, 0xFF, 1, 1] ++ (wordBytes 4 cycleCounter.toNat ++ wordBytes 8 nowNs.toNat)) [0, 0] 0 0 1
  have hlength := writeU16_append
    ([0xFF, 0xFF, 1, 1] ++ (wordBytes 4 cycleCounter.toNat ++ (wordBytes 8 nowNs.toNat
      ++ wordBytes 2 (UInt16.toNat 1)))) [] 0 0 4
  simp only [List.append_assoc, List.length_append, length_bytes, List.length_cons,
    List.length_nil, Nat.reduceAdd] at hclock hstatus hlength
  rw [acknowledgeHeader, hid, ok_bind, hservice, ok_bind, htype, ok_bind, hcycle, ok_bind, hclock,
    ok_bind, hstatus, ok_bind, hlength]
  rfl

/-- The word of the payload does not. -/
theorem buildAcknowledge_eq (cycleCounter : UInt32) (nowNs : UInt64) :
    buildAcknowledge cycleCounter nowNs = .error .outOfBounds := by
  have hlen := length_acknowledgeBytes cycleCounter nowNs
  have hwrite : setByte (acknowledgeBytes cycleCounter nowNs) (20 + 0)
      ((0 : UInt32) >>> UInt32.ofNat (0 * 8) &&& 0xFF).toUInt8 = .error .outOfBounds := by
    rw [setByte, if_neg (by omega)]
  rw [buildAcknowledge, acknowledgeHeader_eq]
  rw [ok_bind, writeU32, List.range_succ_eq_map, List.foldlM_cons, hwrite]
  rfl

/-- What is inside the vector declares four bytes behind it, so it is refused. -/
theorem parse_acknowledgeBytes (cycleCounter : UInt32) (nowNs : UInt64)
    (sourceIp destIp : String) :
    parse (acknowledgeBytes cycleCounter nowNs) sourceIp destIp =
      .error (.exception "Incomplete PROFINET payload") := by
  have hlen := length_acknowledgeBytes cycleCounter nowNs
  have hdeclared : wordAt (acknowledgeBytes cycleCounter nowNs) 18 2 = 4 := by
    simp [acknowledgeBytes, wordAt]
  have hheader : ∃ header, parseHeader (acknowledgeBytes cycleCounter nowNs) = .ok header ∧
      header.payloadLength = 4 := by
    rw [parseHeader, readU16_eq (by omega), byteAt_of_lt (show 2 < _ by omega),
      byteAt_of_lt (show 3 < _ by omega), readU32_eq (by omega), readU64_eq (by omega),
      readU16_eq (by omega), readU16_eq (by omega), hdeclared]
    exact ⟨_, rfl, rfl⟩
  obtain ⟨header, hheader, hlength⟩ := hheader
  rw [parse, if_neg (by rw [hlen, headerSize]; decide), hheader]
  simp only [bind, Except.bind, pure, Except.pure]
  rw [if_neg (by rw [hlen, hlength]; decide)]
  rfl

/-! ## The frame -/

/-- A frame is built inside its vector, and `parse` reads back what it
acknowledges, with a payload as long as the header says. -/
def AcknowledgeWellFormed (cycleCounter : UInt32) (nowNs : UInt64) : Prop :=
  ∃ bytes, buildAcknowledge cycleCounter nowNs = .ok bytes ∧
    readU32 bytes 4 = .ok cycleCounter ∧
    ∃ header, parseHeader bytes = .ok header ∧
      ∀ sourceIp destIp : String, ∃ packet, parse bytes sourceIp destIp = .ok packet ∧
        packet.frameId = PacketType.acknowledge ∧
        packet.payload.length = header.payloadLength.toNat

/-- No acknowledge frame is well formed. -/
theorem not_acknowledgeWellFormed (cycleCounter : UInt32) (nowNs : UInt64) :
    ¬ AcknowledgeWellFormed cycleCounter nowNs := by
  rintro ⟨bytes, hbytes, _⟩
  rw [buildAcknowledge_eq] at hbytes
  cases hbytes

/-- The first one of a connection, at the start of the clock. -/
theorem first_acknowledge_writes_outside :
    ¬ ∀ (cycleCounter : UInt32) (nowNs : UInt64), AcknowledgeWellFormed cycleCounter nowNs := by
  intro h
  obtain ⟨bytes, hbytes, _⟩ := h 1 0
  rw [buildAcknowledge_eq] at hbytes
  cases hbytes

end PorcelainMonitor.Profinet
