import PorcelainMonitor.Profinet.Sender

/-!
# The frame round trip

The sender puts 24 bytes in front of a payload: 20 bytes of header fields and
four bytes of padding.  `parse` reads the header fields where the sender puts
them (`parseHeader_bytes`) and takes the payload from offset
`HEADER_SIZE + 4 = 20`, which is where the padding starts.  So what comes out is
the payload shifted by four zero bytes and cut to its length (`parse_bytes`),
and that is the payload itself only if the payload is all zeros.
-/

namespace PorcelainMonitor.Profinet

open LittleEndian

/-! ## What the read functions return -/

theorem byteAt_of_lt {data : List UInt8} {i : Nat} (h : i < data.length) :
    byteAt data i = .ok data[i] := by
  rw [byteAt, List.getElem?_eq_getElem h]

theorem readU16_eq {data : List UInt8} {offset : Nat} (h : offset + 2 ≤ data.length) :
    readU16 data offset = .ok (UInt16.ofNat (wordAt data offset 2)) := by
  have h0 : offset < data.length := by omega
  have h1 : offset + 1 < data.length := by omega
  have hvalue : data[offset].toUInt16.toNat = wordAt data offset 1 := by
    rw [wordAt_succ 0 h0]
    simp [wordAt]
  rw [readU16, if_neg (by omega), byteAt_of_lt h0, byteAt_of_lt h1,
    ← or_byte16 hvalue (by decide) h1, UInt16.ofNat_toNat]
  rfl

theorem readU32_eq {data : List UInt8} {offset : Nat} (h : offset + 4 ≤ data.length) :
    readU32 data offset = .ok (UInt32.ofNat (wordAt data offset 4)) := by
  have h0 : offset < data.length := by omega
  have h1 : offset + 1 < data.length := by omega
  have h2 : offset + 2 < data.length := by omega
  have h3 : offset + 3 < data.length := by omega
  have hvalue : data[offset].toUInt32.toNat = wordAt data offset 1 := by
    rw [wordAt_succ 0 h0]
    simp [wordAt]
  have hvalue2 := or_byte32 hvalue (by decide) h1
  have hvalue3 := or_byte32 hvalue2 (by decide) h2
  rw [readU32, if_neg (by omega), byteAt_of_lt h0, byteAt_of_lt h1, byteAt_of_lt h2,
    byteAt_of_lt h3, ← or_byte32 hvalue3 (by decide) h3, UInt32.ofNat_toNat]
  rfl

/-- The loop of `read_u64` adds the bytes from `i` on at their weights. -/
theorem readU64Loop_eq {data : List UInt8} {offset : Nat} (n i : Nat) (value : UInt64)
    (hvalue : value.toNat = wordAt data offset i) (hi : i + n = 8)
    (h : offset + 8 ≤ data.length) :
    readU64Loop data offset n i value = .ok (UInt64.ofNat (wordAt data offset 8)) := by
  induction n generalizing i value with
  | zero =>
      obtain rfl : i = 8 := by omega
      rw [readU64Loop, ← hvalue, UInt64.ofNat_toNat]
  | succ n ih =>
      have hb : offset + i < data.length := by omega
      rw [readU64Loop, byteAt_of_lt hb]
      exact ih (i + 1) _ (or_byte64 hvalue (by omega) hb) (by omega)

theorem readU64_eq {data : List UInt8} {offset : Nat} (h : offset + 8 ≤ data.length) :
    readU64 data offset = .ok (UInt64.ofNat (wordAt data offset 8)) := by
  rw [readU64, if_neg (by omega)]
  exact readU64Loop_eq 8 0 0 rfl rfl h

/-! ## The header -/

/-- The words of the header stand where `parse` reads them. -/
theorem SentFrame.wordAt_bytes (f : SentFrame) :
    wordAt f.bytes 0 2 = f.frameId.toNat ∧ wordAt f.bytes 4 4 = f.cycleCounter.toNat ∧
      wordAt f.bytes 8 8 = f.timestamp.toNat ∧ wordAt f.bytes 16 2 = 1 ∧
      wordAt f.bytes 18 2 = f.payload.length := by
  have hid := f.frameId.toNat_lt
  have hcycle := f.cycleCounter.toNat_lt
  have htime := f.timestamp.toNat_lt
  have hlength := f.payload_le
  simp only [f.bytes_eq, SentFrame.header, wordAt, wordBytes_succ, wordBytes_zero, List.cons_append,
    List.nil_append, List.drop_succ_cons, List.drop_zero, List.take_succ_cons, List.take_zero,
    ofBytes_cons, ofBytes_nil, UInt8.toNat_ofNat']
  exact ⟨by omega, by omega, by omega, trivial, by omega⟩

theorem SentFrame.byteAt_bytes (f : SentFrame) :
    byteAt f.bytes 2 = .ok 1 ∧ byteAt f.bytes 3 = .ok 1 := by
  simp [byteAt, f.bytes_eq, SentFrame.header]

/-- `parse` reads every header field as it was sent. -/
theorem parseHeader_bytes (f : SentFrame) :
    parseHeader f.bytes = .ok {
      frameId := f.frameId
      serviceId := 1
      serviceType := 1
      cycleCounter := f.cycleCounter
      timestamp := f.timestamp
      dataStatus := 1
      payloadLength := UInt16.ofNat f.payload.length } := by
  have hlen : 24 ≤ f.bytes.length := by rw [f.length_bytes]; omega
  obtain ⟨hid, hcycle, htime, hstatus, hlength⟩ := f.wordAt_bytes
  obtain ⟨hservice, htype⟩ := f.byteAt_bytes
  rw [parseHeader, readU16_eq (by omega), readU32_eq (by omega), readU64_eq (by omega),
    readU16_eq (by omega), readU16_eq (by omega), hservice, htype, hid, hcycle, htime, hstatus,
    hlength, UInt16.ofNat_toNat, UInt32.ofNat_toNat, UInt64.ofNat_toNat]
  rfl

/-! ## The payload -/

/-- What comes out of a sent frame: its payload behind the padding, cut to its
length. -/
theorem parse_bytes (f : SentFrame) (sourceIp destIp : String) :
    parse f.bytes sourceIp destIp = .ok {
      sourceIp := sourceIp
      destinationIp := destIp
      packetType := packetTypeToString f.frameId
      frameId := f.frameId
      payload := ([0, 0, 0, 0] ++ f.payload).take f.payload.length } := by
  have hlen : (UInt16.ofNat f.payload.length).toNat = f.payload.length := by
    rw [UInt16.toNat_ofNat', Nat.mod_eq_of_lt (Nat.lt_succ_of_le f.payload_le)]
  have hdrop : f.bytes.drop (headerSize + 4) = [0, 0, 0, 0] ++ f.payload := by
    rw [f.bytes_eq, headerSize, List.drop_append_of_le_length (by rw [f.length_header]; decide)]
    simp [SentFrame.header]
  rw [parse, if_neg (by rw [f.length_bytes, headerSize]; omega), parseHeader_bytes]
  simp only [bind, Except.bind, pure, Except.pure, hlen]
  rw [if_pos (by rw [f.length_bytes, headerSize]; omega), hdrop]

/-- A list behind a block of one value, cut to its length, is itself exactly when
it consists of that value. -/
theorem take_replicate_append {α : Type*} {k : Nat} (hk : 0 < k) (z : α) (p : List α) :
    (List.replicate k z ++ p).take p.length = p ↔ ∀ b ∈ p, b = z := by
  constructor
  · intro h
    -- Element `i` is `z` or, further on, element `i - k`.
    have helem : ∀ (i : Nat) (hi : i < p.length), p[i] = z := by
      intro i
      induction i using Nat.strongRecOn with
      | ind i ih =>
          intro hi
          have hget : p[i]? = ((List.replicate k z ++ p).take p.length)[i]? := by rw [h]
          rw [List.getElem?_take_of_lt hi, List.getElem?_append, List.length_replicate] at hget
          split at hget
          · next hik => simpa [hi, hik] using hget
          · next hik =>
              have hlt : i - k < p.length := by omega
              rw [List.getElem?_eq_getElem hi, List.getElem?_eq_getElem hlt] at hget
              exact (Option.some.inj hget).trans (ih (i - k) (by omega) hlt)
    intro b hb
    obtain ⟨i, hi, rfl⟩ := List.getElem_of_mem hb
    exact helem i hi
  · intro h
    rw [List.eq_replicate_of_mem h]
    simp

/-- A sent frame comes back with its own payload exactly when that payload
consists of zero bytes. -/
theorem parse_bytes_iff (f : SentFrame) (sourceIp destIp : String) :
    (∃ packet, parse f.bytes sourceIp destIp = .ok packet ∧ packet.frameId = f.frameId ∧
      packet.payload = f.payload) ↔ ∀ b ∈ f.payload, b = 0 := by
  rw [parse_bytes, ← take_replicate_append (k := 4) (by decide) 0 f.payload]
  constructor
  · rintro ⟨packet, hparse, _, hpayload⟩
    cases hparse
    exact hpayload
  · intro h
    exact ⟨_, rfl, rfl, h⟩

/-- One payload byte that is not zero is already lost. -/
theorem parse_bytes_loses_payload :
    ¬ ∀ (f : SentFrame) (sourceIp destIp : String),
      ∃ packet, parse f.bytes sourceIp destIp = .ok packet ∧ packet.frameId = f.frameId ∧
        packet.payload = f.payload := by
  intro h
  obtain ⟨packet, hparse, _, hpayload⟩ :=
    h ⟨PacketType.laserData, 1, 0, [7], by decide⟩ "10.0.0.1" "10.0.0.2"
  rw [parse_bytes] at hparse
  cases hparse
  revert hpayload
  decide

end PorcelainMonitor.Profinet
