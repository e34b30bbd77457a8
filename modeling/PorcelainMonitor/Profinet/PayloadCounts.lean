import PorcelainMonitor.Profinet.PayloadCodec

/-!
# Declared and decoded counts

Where each loop of a payload decoder has read: a crack takes 28 bytes and 72 for
each of its points, and its point count stands 24 bytes behind its start.  The
loops run as often as the count says, except the one over the cracks, whose
bound went through an `int`.
-/

namespace PorcelainMonitor.Profinet

open LittleEndian OffsetDecoder

/-! ## Offsets -/

section Offsets

variable {payload : List UInt8} {offset : Nat}

theorem nextU32_ok {r : UInt32 × Nat} (h : (nextU32 payload).run offset = .ok r) :
    offset + 4 ≤ payload.length ∧ r.1.toNat = wordAt payload offset 4 ∧ r.2 = offset + 4 := by
  obtain ⟨hread, hoffset⟩ := next_ok h
  have hlen : offset + 4 ≤ payload.length := by
    by_contra hlen
    obtain ⟨what, hwhat⟩ := reader_readU32.short payload offset (by omega)
    rw [hwhat] at hread
    cases hread
  rw [readU32_eq hlen] at hread
  refine ⟨hlen, ?_, hoffset⟩
  rw [← Except.ok.inj hread, UInt32.toNat_ofNat']
  exact Nat.mod_eq_of_lt (wordAt_lt payload offset 4)

/-- A counted loop goes through the list from one item to the next. -/
theorem times_offsets {α : Type} {body : Nat → Decoder α} {w : α → Nat} {P : α → Nat → Prop}
    (hbody : ∀ i o (r : α × Nat), (body i).run o = .ok r → r.2 = o + w r.1 ∧ P r.1 o) :
    ∀ {n i offset : Nat} {r : List α × Nat}, (times body n i).run offset = .ok r →
      ∀ (j : Nat) (a : α), r.1[j]? = some a → P a (offset + ((r.1.take j).map w).sum)
  | 0, i, offset, r, h => by
      cases h
      exact fun j a hj => by cases hj
  | n + 1, i, offset, r, h => by
      rw [times] at h
      obtain ⟨a, o, ha, h⟩ := OffsetDecoder.bind_ok h
      obtain ⟨rest, o', hrest, h⟩ := OffsetDecoder.bind_ok h
      cases h
      obtain ⟨hoffset, hP⟩ := hbody i offset (a, o) ha
      dsimp only at hoffset hP
      intro j b hj
      cases j with
      | zero =>
          cases hj
          exact hP
      | succ j =>
          have hb := times_offsets hbody hrest j b hj
          rw [List.take_succ_cons, List.map_cons, List.sum_cons, ← Nat.add_assoc, ← hoffset]
          exact hb

end Offsets

section Counts

variable {R : Type} {lib : Decoding R} {payload : List UInt8} {uninit : Uninit}

/-- What a crack takes on the wire. -/
def wireSize (crack : CrackInfo R) : Nat := 28 + 72 * crack.points.length

theorem decodePoint_sized : Sized 72 payload (decodePoint lib payload) := by
  have hdouble : Sized 8 payload (nextDouble lib payload) := (reader_readDouble lib).sized
  refine hdouble.bind (n := 64) fun _ => hdouble.bind (n := 56) fun _ => ?_
  refine hdouble.bind (n := 48) fun _ => hdouble.bind (n := 40) fun _ => ?_
  refine hdouble.bind (n := 32) fun _ => hdouble.bind (n := 24) fun _ => ?_
  refine hdouble.bind (n := 16) fun _ => hdouble.bind (n := 8) fun _ => ?_
  exact hdouble.bind fun _ => Sized.pure _

theorem decodeCrack_ok {porcelainId : Int} {i offset : Nat} {r : CrackInfo R × Nat}
    (h : (decodeCrack lib payload uninit porcelainId i).run offset = .ok r) :
    r.2 = offset + wireSize r.1 ∧ r.1.points.length = wordAt payload (offset + 24) 4 := by
  rw [decodeCrack] at h
  obtain ⟨_, _, hdepth, h⟩ := OffsetDecoder.bind_ok h
  obtain ⟨_, _, hwidth, h⟩ := OffsetDecoder.bind_ok h
  obtain ⟨_, _, hlength, h⟩ := OffsetDecoder.bind_ok h
  obtain ⟨pointCount, _, hcount, h⟩ := OffsetDecoder.bind_ok h
  obtain ⟨points, _, hpoints, h⟩ := OffsetDecoder.bind_ok h
  cases h
  obtain rfl := (next_ok hdepth).2
  obtain rfl := (next_ok hwidth).2
  obtain rfl := (next_ok hlength).2
  obtain ⟨hlen, hvalue, rfl⟩ := nextU32_ok hcount
  have hpoint : ∀ _ : Nat, Sized 72 payload (decodePoint lib payload) := fun _ => decodePoint_sized
  have hoffset := ((times_sized hpoint pointCount.toNat 0).of_ok hlen hpoints).2
  have hnumber := (times_ok hpoints).1
  dsimp only at hvalue hoffset hnumber ⊢
  rw [wireSize, hnumber]
  exact ⟨by omega, hvalue⟩

/-- Where crack `i` starts, behind the scalars, the flag and the count. -/
def crackOffset (cracks : List (CrackInfo R)) (i : Nat) : Nat :=
  61 + ((cracks.take i).map wireSize).sum

theorem laserCracks_ok {data : LaserMicroscopeData R} {r : LaserMicroscopeData R × Nat}
    (h : (laserCracks lib payload uninit data).run 57 = .ok r) :
    r.1.crackCount = toInt32 (wordAt payload 57 4) ∧
      r.1.cracks.length = (toInt32 (wordAt payload 57 4)).toNat ∧
      ∀ (i : Nat) (crack : CrackInfo R), r.1.cracks[i]? = some crack →
        crack.points.length = wordAt payload (crackOffset r.1.cracks i + 24) 4 := by
  rw [laserCracks] at h
  obtain ⟨crackCount, _, hcount, h⟩ := OffsetDecoder.bind_ok h
  obtain ⟨cracks, _, hcracks, h⟩ := OffsetDecoder.bind_ok h
  cases h
  obtain ⟨_, hvalue, rfl⟩ := nextU32_ok hcount
  dsimp only at hvalue ⊢
  rw [hvalue] at hcracks ⊢
  refine ⟨rfl, (times_ok hcracks).1, ?_⟩
  exact times_offsets (w := wireSize)
    (P := fun crack o => crack.points.length = wordAt payload (o + 24) 4)
    (fun _ _ _ => decodeCrack_ok) hcracks

theorem parseLaserData_ok {data : LaserMicroscopeData R}
    (h : parseLaserData lib payload uninit = .ok data) :
    data.crackCount = toInt32 (wordAt payload 57 4) ∧
      data.cracks.length = (toInt32 (wordAt payload 57 4)).toNat ∧
      ∀ (i : Nat) (crack : CrackInfo R), data.cracks[i]? = some crack →
        crack.points.length = wordAt payload (crackOffset data.cracks i + 24) 4 := by
  rw [parseLaserData_eq] at h
  obtain ⟨r, hrun, rfl⟩ := map_eq_ok.mp h
  obtain ⟨head, _, hhead, hrun⟩ := OffsetDecoder.bind_ok hrun
  obtain ⟨_, _, _, hrun⟩ := OffsetDecoder.bind_ok hrun
  cases hrun
  rw [laserHead] at hhead
  obtain ⟨scalars, _, hscalars, hhead⟩ := OffsetDecoder.bind_ok hhead
  obtain ⟨crackDetected, _, hflag, hhead⟩ := OffsetDecoder.bind_ok hhead
  obtain ⟨_, rfl⟩ := (laserScalars_sized lib payload uninit).of_ok (Nat.zero_le _) hscalars
  obtain rfl := (next_ok hflag).2
  have hcracks := laserCracks_ok hhead
  exact hcracks

theorem parseVibrationData_ok {data : VibrationData R}
    (h : parseVibrationData lib payload uninit = .ok data) :
    data.amplitude.length = wordAt payload 48 4 := by
  rw [parseVibrationData_eq] at h
  obtain ⟨r, hrun, rfl⟩ := map_eq_ok.mp h
  obtain ⟨head, _, hhead, hrun⟩ := OffsetDecoder.bind_ok hrun
  obtain ⟨_, _, _, hrun⟩ := OffsetDecoder.bind_ok hrun
  cases hrun
  rw [vibrationHead] at hhead
  obtain ⟨_, _, hsensor, hhead⟩ := OffsetDecoder.bind_ok hhead
  obtain ⟨_, _, hporcelain, hhead⟩ := OffsetDecoder.bind_ok hhead
  obtain ⟨_, _, htime, hhead⟩ := OffsetDecoder.bind_ok hhead
  obtain ⟨_, _, hrms, hhead⟩ := OffsetDecoder.bind_ok hhead
  obtain ⟨_, _, hpeak, hhead⟩ := OffsetDecoder.bind_ok hhead
  obtain ⟨_, _, hfrequency, hhead⟩ := OffsetDecoder.bind_ok hhead
  obtain ⟨_, _, htemperature, hhead⟩ := OffsetDecoder.bind_ok hhead
  obtain ⟨_, _, hhumidity, hhead⟩ := OffsetDecoder.bind_ok hhead
  obtain ⟨amplitudeCount, _, hcount, hhead⟩ := OffsetDecoder.bind_ok hhead
  obtain ⟨amplitude, _, hamplitude, hhead⟩ := OffsetDecoder.bind_ok hhead
  cases hhead
  obtain rfl := (next_ok hsensor).2
  obtain rfl := (next_ok hporcelain).2
  obtain rfl := (next_ok htime).2
  obtain rfl := (next_ok hrms).2
  obtain rfl := (next_ok hpeak).2
  obtain rfl := (next_ok hfrequency).2
  obtain rfl := (next_ok htemperature).2
  obtain rfl := (next_ok hhumidity).2
  exact (times_ok hamplitude).1.trans (nextU32_ok hcount).2.1

/-- The count and the cracks are those that the payload declares, and so are the
points of each crack. -/
def LaserCountsAgree (payload : List UInt8) (data : LaserMicroscopeData R) : Prop :=
  0 ≤ data.crackCount ∧ data.crackCount = data.cracks.length ∧
    data.cracks.length = wordAt payload 57 4 ∧
    ∀ (i : Nat) (crack : CrackInfo R), data.cracks[i]? = some crack →
      crack.points.length = wordAt payload (crackOffset data.cracks i + 24) 4

theorem laserCountsAgree_iff {data : LaserMicroscopeData R}
    (h : parseLaserData lib payload uninit = .ok data) :
    LaserCountsAgree payload data ↔ wordAt payload 57 4 < 2 ^ 31 := by
  obtain ⟨hcount, hcracks, hpoints⟩ := parseLaserData_ok h
  constructor
  · rintro ⟨hpos, _, _, _⟩
    by_contra hlarge
    have hneg := toInt32_neg (Nat.le_of_not_lt hlarge) (wordAt_lt payload 57 4)
    omega
  · intro hsmall
    rw [toInt32_of_lt hsmall] at hcount hcracks
    have hlength : data.cracks.length = wordAt payload 57 4 := hcracks
    exact ⟨by omega, by rw [hcount, hlength], hlength, hpoints⟩

end Counts

/-- The counts of a reading of either kind are the declared ones, except those of
2^31 cracks and more. -/
theorem decoded_counts_agree_iff {R : Type} (lib : Decoding R) (uninit : Uninit) :
    (∀ (payload : List UInt8) (data : LaserMicroscopeData R),
      parseLaserData lib payload uninit = .ok data →
        (LaserCountsAgree payload data ↔ wordAt payload 57 4 < 2 ^ 31)) ∧
    ∀ (payload : List UInt8) (data : VibrationData R),
      parseVibrationData lib payload uninit = .ok data →
        data.amplitude.length = wordAt payload 48 4 :=
  ⟨fun _ _ h => laserCountsAgree_iff h, fun _ _ h => parseVibrationData_ok h⟩

/-- Two payloads that the sensor side builds. -/
theorem decoded_counts_agree_scratch :
    (∃ data, parseLaserData patterns (buildLaserPayload scratchReading) zeroed = .ok data ∧
      (LaserCountsAgree (buildLaserPayload scratchReading) data ↔
        wordAt (buildLaserPayload scratchReading) 57 4 < 2 ^ 31)) ∧
    ∃ data, parseVibrationData patterns (buildVibrationPayload (humReading [0x31])) zeroed =
        .ok data ∧
      data.amplitude.length = wordAt (buildVibrationPayload (humReading [0x31])) 48 4 := by
  have hlaser : parseLaserData patterns (buildLaserPayload scratchReading) zeroed =
      .ok { scratchReading.head patterns zeroed with processedData := .int 1 } :=
    parseLaserData_text zeroed (by decide) (by decide) (by decide) rfl
  have hvibration : parseVibrationData patterns (buildVibrationPayload (humReading [0x31])) zeroed =
      .ok { (humReading [0x31]).head patterns zeroed with frequencySpectrum := .int 1 } :=
    parseVibrationData_text zeroed (by decide) (by decide) rfl
  obtain ⟨hl, hv⟩ := decoded_counts_agree_iff patterns zeroed
  exact ⟨⟨_, hlaser, hl _ _ hlaser⟩, _, hvibration, hv _ _ hvibration⟩

/-- A count that is negative as an `int` reads no crack, and the trailer is what follows it. -/
theorem parseLaserData_of_no_round {R : Type} {lib : Decoding R} {payload : List UInt8}
    {uninit : Uninit} (hlen : 65 ≤ payload.length)
    (hcount : (toInt32 (wordAt payload 57 4)).toNat = 0) (hjson : wordAt payload 61 4 = 0) :
    ∃ data, parseLaserData lib payload uninit = .ok data := by
  obtain ⟨scalars, hscalars⟩ := (laserScalars_sized lib payload uninit).ok 0 (by omega)
  have hflag : (next payload byteAt 1).run (0 + 56) = .ok (payload[56], 57) :=
    next_run (byteAt_of_lt (by omega))
  have hword : (nextU32 payload).run 57 = .ok (UInt32.ofNat (wordAt payload 57 4), 61) :=
    next_run (readU32_eq (by omega))
  have hnum : (UInt32.ofNat (wordAt payload 57 4)).toNat = wordAt payload 57 4 :=
    toNat_count (wordAt_lt payload 57 4)
  have hjsonRun : (decodeJson lib payload).run 61 = .ok (.null, 65) := by
    rw [decodeJson_run (by omega), hjson, if_neg fun h => Nat.lt_irrefl 0 h.1]
  have hhead : ∃ head, (laserHead lib payload uninit).run 0 = .ok (head, 61) := by
    rw [laserHead, run_bind_ok hscalars, run_bind_ok hflag, laserCracks, run_bind_ok hword, hnum,
      hcount]
    exact ⟨_, rfl⟩
  obtain ⟨head, hhead⟩ := hhead
  refine ⟨{ head with processedData := .null }, ?_⟩
  rw [parseLaserData_eq, run_bind_ok hhead, run_bind_ok hjsonRun]
  rfl

/-- Zeros, but for the highest byte of the crack count. -/
def negativeCount : List UInt8 := List.replicate 60 0 ++ 0x80 :: List.replicate 4 0

/-- 2^31 cracks are declared, and none is read. -/
theorem negative_count_reads_no_crack :
    ¬ ∀ (lib : Decoding UInt64) (uninit : Uninit),
      (∀ (payload : List UInt8) (data : LaserMicroscopeData UInt64),
        parseLaserData lib payload uninit = .ok data → LaserCountsAgree payload data) ∧
      ∀ (payload : List UInt8) (data : VibrationData UInt64),
        parseVibrationData lib payload uninit = .ok data →
          data.amplitude.length = wordAt payload 48 4 := by
  intro h
  have hparses : ∃ data, parseLaserData patterns negativeCount zeroed = .ok data :=
    parseLaserData_of_no_round (by decide) (by decide) (by decide)
  obtain ⟨data, hdata⟩ := hparses
  have hsmall := (laserCountsAgree_iff hdata).mp ((h patterns zeroed).1 negativeCount data hdata)
  revert hsmall
  decide

end PorcelainMonitor.Profinet
