import PorcelainMonitor.Profinet.PayloadCodec

/-!
# Prefixes of a payload

A payload that ends early is met by three checks.  In front of the trailer the
decoders run out of bytes and throw, where the flag of a laser reading is the
exception.  The length of the trailer is read with a check too.  A text that is
announced and not there is passed over, so a cut inside it is not noticed.
-/

namespace PorcelainMonitor.Profinet

open LittleEndian OffsetDecoder

/-- What is sent as one payload. -/
inductive Measurement where
  | laser (r : LaserReading)
  | vibration (r : VibrationReading)

namespace Measurement

def payload : Measurement → List UInt8
  | laser r => buildLaserPayload r
  | vibration r => buildVibrationPayload r

/-- What the decoder reads in front of the trailer. -/
def headBytes : Measurement → List UInt8
  | laser r => r.headBytes
  | vibration r => r.headBytes

def rest : Measurement → List UInt8
  | laser r => r.rest
  | vibration r => countBytes r.json.length ++ r.json

theorem payload_eq (m : Measurement) : m.payload = m.headBytes ++ m.rest := by
  cases m with
  | laser r => exact buildLaserPayload_eq_head r
  | vibration r => exact buildVibrationPayload_eq r

/-- The decoder of the measurement ends in an exception. -/
def Throws {R : Type} (lib : Decoding R) (uninit : Uninit) (data : List UInt8) :
    Measurement → Prop
  | laser _ => ∃ what, parseLaserData lib data uninit = .error (.exception what)
  | vibration _ => ∃ what, parseVibrationData lib data uninit = .error (.exception what)

/-- The end of the payload is where the flag of a laser reading is looked for. -/
def AtFlag (k : Nat) : Measurement → Prop
  | laser _ => k = 56
  | vibration _ => False

section Cuts

variable {R : Type} {lib : Decoding R} {uninit : Uninit}

theorem throws_append_iff (m : Measurement) (after : List UInt8) :
    m.Throws lib uninit (m.headBytes ++ after) ↔
      ∃ what, (decodeJson lib (m.headBytes ++ after)).run m.headBytes.length =
        .error (.exception what) := by
  cases m with
  | laser r => simp only [Throws, headBytes, parseLaserData_head, map_eq_error]
  | vibration r => simp only [Throws, headBytes, parseVibrationData_head, map_eq_error]

/-- In front of the trailer every cut is noticed. -/
theorem throws_of_short {m : Measurement} {cut : List UInt8} (hcut : cut <+: m.headBytes)
    (hne : cut ≠ m.headBytes) : m.Throws lib uninit cut ↔ ¬ m.AtFlag cut.length := by
  cases m with
  | laser r =>
      obtain ⟨e, he⟩ := (reads_laserHead lib uninit r).short [] cut hcut hne
      rw [List.nil_append, List.length_nil] at he
      have hparse : parseLaserData lib cut uninit = .error e := by
        rw [parseLaserData_eq, run_bind_error he]
        rfl
      constructor
      · rintro ⟨what, hwhat⟩ hlen
        rw [parseLaserData_outside lib cut uninit hlen] at hwhat
        cases hwhat
      · intro hlen
        obtain ⟨what, rfl⟩ := parseLaserData_error lib hlen hparse
        exact ⟨what, hparse⟩
  | vibration r =>
      obtain ⟨e, he⟩ := (reads_vibrationHead lib uninit r).short [] cut hcut hne
      rw [List.nil_append, List.length_nil] at he
      have hparse : parseVibrationData lib cut uninit = .error e := by
        rw [parseVibrationData_eq, run_bind_error he]
        rfl
      obtain ⟨what, rfl⟩ := parseVibrationData_error lib hparse
      exact ⟨fun _ h => h, fun _ => ⟨what, hparse⟩⟩

/-- The flag of a laser reading belongs to its head. -/
theorem not_atFlag {m : Measurement} {k : Nat} (h : m.headBytes.length ≤ k) : ¬ m.AtFlag k := by
  cases m with
  | laser r =>
      intro hk
      rw [AtFlag] at hk
      simp only [headBytes, LaserReading.headBytes, LaserReading.scalarBytes, List.length_append,
        length_bytes, List.length_cons, List.length_nil] at h
      omega
  | vibration r => exact fun hk => hk

/-- What the decoder takes as the length of the text. -/
def declaredLength (m : Measurement) : Nat := wordAt m.payload m.headBytes.length 4

/-- The text that the decoder takes. -/
def declaredText (m : Measurement) : List UInt8 :=
  (m.payload.drop (m.headBytes.length + 4)).take m.declaredLength

/-- The cut is noticed: it does not end at the flag, and it ends in front of the
text, or behind a text that is none. -/
def Notices (lib : Decoding R) (m : Measurement) (k : Nat) : Prop :=
  ¬ m.AtFlag k ∧ (k < m.headBytes.length + 4 ∨
    (0 < m.declaredLength ∧ m.headBytes.length + 4 + m.declaredLength ≤ k ∧
      ∃ what, lib.jsonParse m.declaredText = .error what))

/-- What the trailer comes to where its length is still there. -/
theorem decodeJson_take {m : Measurement} {k : Nat} (hle : m.headBytes.length + 4 ≤ k)
    (hk : k ≤ m.payload.length) :
    (∃ what, (decodeJson lib (m.payload.take k)).run m.headBytes.length =
      .error (.exception what)) ↔
      0 < m.declaredLength ∧ m.headBytes.length + 4 + m.declaredLength ≤ k ∧
        ∃ what, lib.jsonParse m.declaredText = .error what := by
  have hlen : (m.payload.take k).length = k := by
    rw [List.length_take, Nat.min_eq_left hk]
  rw [decodeJson_run (by omega), wordAt_take hle, hlen, ← declaredLength]
  by_cases hthere : 0 < m.declaredLength ∧ m.headBytes.length + 4 + m.declaredLength ≤ k
  · have htext : ((m.payload.take k).drop (m.headBytes.length + 4)).take m.declaredLength =
        m.declaredText := by
      rw [List.drop_take, List.take_take, Nat.min_eq_left (by omega), declaredText]
    rw [if_pos hthere, htext]
    cases lib.jsonParse m.declaredText with
    | ok value =>
        constructor
        · rintro ⟨what, hwhat⟩
          cases hwhat
        · rintro ⟨_, _, what, hwhat⟩
          cases hwhat
    | error what => exact ⟨fun _ => ⟨hthere.1, hthere.2, what, rfl⟩, fun _ => ⟨what, rfl⟩⟩
  · rw [if_neg hthere]
    constructor
    · rintro ⟨what, hwhat⟩
      cases hwhat
    · rintro ⟨hpos, hle, _⟩
      exact absurd ⟨hpos, hle⟩ hthere

/-- The loop counters and the lengths have room for the counts. -/
def Fits : Measurement → Prop
  | laser r => r.cracks.length < 2 ^ 31 ∧ r.json.length < 2 ^ 32
  | vibration r => r.json.length < 2 ^ 32

/-- Then the text is all that is left behind its length. -/
theorem payload_length_eq {m : Measurement} (h : m.Fits) :
    m.payload.length = m.headBytes.length + 4 + m.declaredLength := by
  have hrest : ∃ json : List UInt8, json.length < 2 ^ 32 ∧
      m.rest = countBytes json.length ++ json := by
    cases m with
    | laser r => exact ⟨r.json, h.2, LaserReading.rest_eq h.1⟩
    | vibration r => exact ⟨r.json, h, rfl⟩
  obtain ⟨json, hlt, hrest⟩ := hrest
  have hdeclared : m.declaredLength = json.length := by
    rw [declaredLength, payload_eq, hrest, countBytes, wordAt_append, toNat_count hlt]
    exact Nat.mod_eq_of_lt hlt
  rw [hdeclared, payload_eq, hrest, List.length_append, List.length_append, countBytes,
    length_bytes, Nat.add_assoc]

theorem notices_iff_of_fits {m : Measurement} (h : m.Fits) {k : Nat} (hk : k < m.payload.length) :
    m.Notices lib k ↔ ¬ m.AtFlag k ∧ k < m.headBytes.length + 4 := by
  rw [payload_length_eq h] at hk
  constructor
  · rintro ⟨hflag, hlt | ⟨_, hle, _⟩⟩
    · exact ⟨hflag, hlt⟩
    · omega
  · exact fun ⟨hflag, hlt⟩ => ⟨hflag, .inl hlt⟩

end Cuts

/-- A strict prefix is answered with an exception exactly where the cut is noticed. -/
theorem throws_take_iff {R : Type} (lib : Decoding R) (uninit : Uninit) (m : Measurement) {k : Nat}
    (hk : k < m.payload.length) : m.Throws lib uninit (m.payload.take k) ↔ m.Notices lib k := by
  by_cases hhead : k < m.headBytes.length
  · have htake : m.payload.take k = m.headBytes.take k := by
      rw [payload_eq, List.take_append_of_le_length (Nat.le_of_lt hhead)]
    have hlen : (m.headBytes.take k).length = k := by
      rw [List.length_take, Nat.min_eq_left (Nat.le_of_lt hhead)]
    have hne : m.headBytes.take k ≠ m.headBytes := by
      intro h
      rw [h] at hlen
      omega
    rw [htake, throws_of_short (List.take_prefix k _) hne, hlen]
    exact ⟨fun hflag => ⟨hflag, .inl (by omega)⟩, fun h => h.1⟩
  · have hflag : ¬ m.AtFlag k := not_atFlag (Nat.le_of_not_lt hhead)
    have htake : m.payload.take k = m.headBytes ++ m.rest.take (k - m.headBytes.length) := by
      rw [payload_eq, List.take_append, List.take_of_length_le (Nat.le_of_not_lt hhead)]
    rw [htake, throws_append_iff, ← htake]
    by_cases hlen : k < m.headBytes.length + 4
    · have hshort : (m.payload.take k).length < m.headBytes.length + 4 := by
        rw [List.length_take]
        omega
      exact ⟨fun _ => ⟨hflag, .inl hlen⟩, fun _ => decodeJson_run_short hshort⟩
    · rw [decodeJson_take (Nat.le_of_not_lt hlen) (Nat.le_of_lt hk)]
      constructor
      · exact fun h => ⟨hflag, .inr h⟩
      · rintro ⟨_, hless | h⟩
        · exact absurd hless hlen
        · exact h

/-- The reading of one byte of text. -/
def shortHum : Measurement := vibration (humReading [0x31])

theorem throws_take_shortHum : 10 < shortHum.payload.length ∧
    (shortHum.Throws patterns zeroed (shortHum.payload.take 10) ↔
      shortHum.Notices patterns 10) := by
  have hlen : 10 < shortHum.payload.length := by decide
  exact ⟨hlen, throws_take_iff patterns zeroed shortHum hlen⟩

/-- Without its text the reading still comes out. -/
theorem cut_text_is_not_noticed :
    ¬ ∀ (lib : Decoding UInt64) (uninit : Uninit) (m : Measurement) (k : Nat),
      k < m.payload.length → m.Throws lib uninit (m.payload.take k) := by
  intro h
  have hthrows := h patterns zeroed shortHum 72 (by decide)
  have htake : shortHum.payload.take 72 = shortHum.headBytes ++ [1, 0, 0, 0] := by decide
  rw [htake, throws_append_iff, ← htake, decodeJson_take (by decide) (by decide)] at hthrows
  obtain ⟨_, hle, _⟩ := hthrows
  revert hle
  decide

end Measurement

end PorcelainMonitor.Profinet
