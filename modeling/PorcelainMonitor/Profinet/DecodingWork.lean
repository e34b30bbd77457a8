import PorcelainMonitor.Lib.CountedDecoder
import PorcelainMonitor.Profinet.PayloadCounts

/-!
# The work of the payload decoders

A count in a payload can be any number of 32 bits.  What a decoder does is bounded by
the bytes of the payload all the same, since every round of a loop reads some of them or
throws.

The counted decoders read what those of the parser read, in the same order.  They count
the rounds as they start, and the elements as they are pushed.
-/

namespace PorcelainMonitor.Profinet

open OffsetDecoder
open OffsetDecoder.Counted (lift tick)

/-! ## Counting -/

/-- What a decoder has done so far. -/
structure Work where
  /-- Rounds of any loop that have started. -/
  rounds : Nat
  cracks : Nat
  points : Nat
  amplitudes : Nat
deriving DecidableEq, Repr

namespace Work

/-- Nothing done yet. -/
def none : Work := ⟨0, 0, 0, 0⟩

def round (w : Work) : Work := { w with rounds := w.rounds + 1 }
def pushCrack (w : Work) : Work := { w with cracks := w.cracks + 1 }
def pushPoint (w : Work) : Work := { w with points := w.points + 1 }
def pushAmplitude (w : Work) : Work := { w with amplitudes := w.amplitudes + 1 }

/-- The bytes that encode what was built. -/
def weight (w : Work) : Nat := 28 * w.cracks + 72 * w.points + 8 * w.amplitudes

/-- Every round reads 8 bytes at least. -/
def roundBytes (w : Work) : Nat := 8 * w.rounds

end Work

/-- A decoder that also counts its work.  The count is kept when it throws. -/
abbrev CountedDecoder := Counted Work Failure

/-- A round counts when it starts, and its value when it is pushed. -/
def countedRound {α : Type} (push : Work → Work) (body : Nat → CountedDecoder α) (i : Nat) :
    CountedDecoder α := do
  tick Work.round
  let value ← body i
  tick push
  return value

/-- The loop of the parser, with its rounds counted. -/
def countedTimes {α : Type} (push : Work → Work) (body : Nat → CountedDecoder α) :
    Nat → Nat → CountedDecoder (List α)
  | 0, _ => pure []
  | n + 1, i => do
      let value ← countedRound push body i
      let rest ← countedTimes push body n (i + 1)
      return value :: rest

section Decoders

variable {R : Type} (lib : Decoding R) (payload : List UInt8) (uninit : Uninit)

/-- The decoder of a crack, with its points counted. -/
def countedCrack (porcelainId : Int) (i : Nat) : CountedDecoder (CrackInfo R) := do
  let maxDepth ← lift (nextDouble lib payload)
  let maxWidth ← lift (nextDouble lib payload)
  let totalLength ← lift (nextDouble lib payload)
  let pointCount ← lift (nextU32 payload)
  let points ← countedTimes Work.pushPoint (fun _ => lift (decodePoint lib payload))
    pointCount.toNat 0
  return {
    id := uninit.crackId i
    porcelainId := porcelainId
    crackCode := ""
    maxDepth := maxDepth
    maxWidth := maxWidth
    totalLength := totalLength
    status := ""
    points := points
    detectedAt := 0 }

/-- `parse_laser_data`, with its cracks and their points counted. -/
def countedLaser : CountedDecoder (LaserMicroscopeData R) := do
  let data ← lift (laserScalars lib payload uninit)
  let crackDetected ← lift (next payload byteAt 1)
  let crackCount ← lift (nextU32 payload)
  let cracks ← countedTimes Work.pushCrack (countedCrack lib payload uninit data.porcelainId)
    (toInt32 crackCount.toNat).toNat 0
  let processedData ← lift (decodeJson lib payload)
  return { data with
    crackDetected := crackDetected ≠ 0
    crackCount := toInt32 crackCount.toNat
    cracks := cracks
    processedData := processedData }

/-- `parse_vibration_data`, with its amplitudes counted. -/
def countedVibration : CountedDecoder (VibrationData R) := do
  let sensorId ← lift (nextU32 payload)
  let porcelainId ← lift (nextU32 payload)
  let timestampNs ← lift (nextU64 payload)
  let rmsValue ← lift (nextDouble lib payload)
  let peakValue ← lift (nextDouble lib payload)
  let dominantFrequency ← lift (nextDouble lib payload)
  let temperature ← lift (nextFloat lib payload)
  let humidity ← lift (nextFloat lib payload)
  let amplitudeCount ← lift (nextU32 payload)
  let amplitude ← countedTimes Work.pushAmplitude (fun _ => lift (nextDouble lib payload))
    amplitudeCount.toNat 0
  let frequencySpectrum ← lift (decodeJson lib payload)
  return {
    id := uninit.id
    sensorId := toInt32 sensorId.toNat
    porcelainId := toInt32 porcelainId.toNat
    measurementTime := timestampNs.toInt64.toInt
    frequencySpectrum := frequencySpectrum
    amplitude := amplitude
    rmsValue := rmsValue
    peakValue := peakValue
    dominantFrequency := dominantFrequency
    temperature := temperature
    humidity := humidity }

end Decoders

/-! ## They are the decoders -/

/-- Without its counts the loop is that of the parser, if its body is. -/
theorem countedTimes_erases {α : Type} {push : Work → Work} {body : Nat → CountedDecoder α}
    {plain : Nat → Decoder α} (h : ∀ i, Erases (body i) (plain i)) (n i : Nat) :
    Erases (countedTimes push body n i) (times plain n i) := by
  induction n generalizing i with
  | zero => exact Erases.pure []
  | succ n ih =>
      have hround : Erases (countedRound push body i) (plain i) := by
        have hbody := ((h i).bind fun a => (Erases.pure a).tick push).tick Work.round
        rwa [bind_pure] at hbody
      exact hround.bind fun value => (ih (i + 1)).bind fun rest => Erases.pure (value :: rest)

section Erasing

variable {R : Type} (lib : Decoding R) (payload : List UInt8) (uninit : Uninit)

/-- The counted decoders return, throw and move the offset as the decoders do. -/
theorem countedCrack_erases (porcelainId : Int) (i : Nat) :
    Erases (countedCrack lib payload uninit porcelainId i)
      (decodeCrack lib payload uninit porcelainId i) := by
  refine (Erases.lift _).bind fun _ => (Erases.lift _).bind fun _ => ?_
  refine (Erases.lift _).bind fun _ => (Erases.lift _).bind fun _ => ?_
  exact (countedTimes_erases (fun _ => Erases.lift _) _ 0).bind fun _ => Erases.pure _

theorem countedLaser_erases :
    Erases (countedLaser lib payload uninit) (laserDecoder lib payload uninit) := by
  rw [laserDecoder_eq]
  simp only [laserHead, laserCracks, bind_assoc, pure_bind]
  refine (Erases.lift _).bind fun data => (Erases.lift _).bind fun _ => ?_
  refine (Erases.lift _).bind fun _ => ?_
  refine (countedTimes_erases (countedCrack_erases lib payload uninit _) _ 0).bind fun _ => ?_
  exact (Erases.lift _).bind fun _ => Erases.pure _

theorem countedVibration_erases :
    Erases (countedVibration lib payload uninit) (vibrationDecoder lib payload uninit) := by
  refine (Erases.lift _).bind fun _ => (Erases.lift _).bind fun _ => ?_
  refine (Erases.lift _).bind fun _ => (Erases.lift _).bind fun _ => ?_
  refine (Erases.lift _).bind fun _ => (Erases.lift _).bind fun _ => ?_
  refine (Erases.lift _).bind fun _ => (Erases.lift _).bind fun _ => ?_
  refine (Erases.lift _).bind fun _ => ?_
  refine (countedTimes_erases (fun _ => Erases.lift _) _ 0).bind fun _ => ?_
  exact (Erases.lift _).bind fun _ => Erases.pure _

end Erasing

/-! ## The bytes pay for the work -/

section Paying

variable {α : Type} {push : Work → Work} {body : Nat → CountedDecoder α} {cost : Work → Nat}
  {debt limit : Nat}

/-- Every round pays for itself. -/
theorem countedTimes_pays (h : ∀ i, Pays cost debt 0 limit (countedRound push body i))
    (n i : Nat) : Pays cost debt 0 limit (countedTimes push body n i) := by
  induction n generalizing i with
  | zero => exact Pays.pure []
  | succ n ih =>
      exact (h i).bind fun value => (ih (i + 1)).bind fun rest => Pays.pure (value :: rest)

/-- The value of a round pays for what is pushed. -/
theorem countedRound_weight {c : Nat} (h : ∀ i, Pays Work.weight debt c limit (body i))
    (hpush : ∀ w, (push w).weight = w.weight + c) (i : Nat) :
    Pays Work.weight debt 0 limit (countedRound push body i) :=
  Pays.borrow (c := 0) (Pays.spend (h i) hpush) fun _ => rfl

/-- The first 8 bytes of a round pay for its start; a round that fails still owes them. -/
theorem countedRound_roundBytes {c : Nat} (h : ∀ i, Pays Work.roundBytes debt c limit (body i))
    (hc : 8 ≤ c) (push : Work → Work) (hpush : ∀ w, (push w).rounds = w.rounds) (i : Nat) :
    Pays Work.roundBytes (debt + 8) 0 limit (countedRound push body i) := by
  have hbody : Pays Work.roundBytes debt (0 + (8 + 0)) limit (body i) :=
    (h i).weaken (by omega) (Nat.le_refl debt)
  refine Pays.borrow (Pays.spend hbody fun w => ?_) fun w => Nat.mul_succ 8 w.rounds
  rw [Work.roundBytes, hpush]
  rfl

variable {R : Type} (lib : Decoding R) (payload : List UInt8) (uninit : Uninit)

theorem decodeJson_advances : Advances 4 payload.length (decodeJson lib payload) := by
  intro offset hle value offset' hrun
  by_cases hlen : offset + 4 ≤ payload.length
  · rw [decodeJson_run hlen] at hrun
    split at hrun
    · split at hrun
      · cases hrun
        exact ⟨Nat.le_refl _, hlen⟩
      · cases hrun
    · cases hrun
      exact ⟨Nat.le_refl _, hlen⟩
  · obtain ⟨what, hwhat⟩ := decodeJson_run_short (Nat.not_le.mp hlen)
    rw [hwhat] at hrun
    cases hrun

/-- The flag is read outside or takes a byte. -/
theorem byteAt_advances : Advances 1 payload.length (next payload byteAt 1) := by
  intro offset hle value offset' hrun
  obtain ⟨hread, hoffset⟩ := next_ok hrun
  by_cases hlen : payload.length ≤ offset
  · rw [byteAt_of_le hlen] at hread
    cases hread
  · dsimp only at hoffset
    omega

/-- A reader that counts nothing pays with all that it reads. -/
theorem Reader.pays {β : Type} {read : List UInt8 → Nat → Except Failure β} {size : Nat}
    (h : Reader read size) (cost : Work → Nat) (debt : Nat) :
    Pays cost debt size payload.length (lift (next payload read size)) :=
  Pays.lift h.sized.advances

variable (cost) (debt)

/-- The numbers of a crack take 28 bytes, whatever its points take. -/
theorem countedCrack_pays (porcelainId : Int) (i : Nat)
    (hpoints : ∀ n, Pays cost debt 0 payload.length
      (countedTimes Work.pushPoint (fun _ => lift (decodePoint lib payload)) n 0)) :
    Pays cost debt 28 payload.length (countedCrack lib payload uninit porcelainId i) := by
  have hdouble := (reader_readDouble lib).pays payload cost debt
  have hu32 := reader_readU32.pays payload cost debt
  refine hdouble.bind (l := 20) fun _ => hdouble.bind (l := 12) fun _ => ?_
  refine hdouble.bind (l := 4) fun _ => hu32.bind (l := 0) fun _ => ?_
  exact (hpoints _).bind fun _ => Pays.pure _

/-- The scalars, the flag and the two lengths take 65 bytes, whatever the cracks take. -/
theorem countedLaser_pays
    (hcracks : ∀ porcelainId n, Pays cost debt 0 payload.length
      (countedTimes Work.pushCrack (countedCrack lib payload uninit porcelainId) n 0)) :
    Pays cost debt 65 payload.length (countedLaser lib payload uninit) := by
  have hscalars := laserScalars_sized lib payload uninit
  have hu32 := reader_readU32.pays payload cost debt
  refine (Pays.lift hscalars.advances).bind (l := 9) fun _ => ?_
  refine (Pays.lift (byteAt_advances payload)).bind (l := 8) fun _ => ?_
  refine hu32.bind (l := 4) fun _ => (hcracks _ _).bind (l := 4) fun _ => ?_
  exact (Pays.lift (decodeJson_advances lib payload)).bind fun _ => Pays.pure _

/-- The numbers and the two lengths take 56 bytes, whatever the amplitudes take. -/
theorem countedVibration_pays
    (hamplitudes : ∀ n, Pays cost debt 0 payload.length
      (countedTimes Work.pushAmplitude (fun _ => lift (nextDouble lib payload)) n 0)) :
    Pays cost debt 56 payload.length (countedVibration lib payload uninit) := by
  have hdouble := (reader_readDouble lib).pays payload cost debt
  have hfloat := (reader_readFloat lib).pays payload cost debt
  have hu32 := reader_readU32.pays payload cost debt
  have hu64 := reader_readU64.pays payload cost debt
  refine hu32.bind (l := 52) fun _ => hu32.bind (l := 48) fun _ => hu64.bind (l := 40) fun _ => ?_
  refine hdouble.bind (l := 32) fun _ => hdouble.bind (l := 24) fun _ => ?_
  refine hdouble.bind (l := 16) fun _ => hfloat.bind (l := 12) fun _ => ?_
  refine hfloat.bind (l := 8) fun _ => hu32.bind (l := 4) fun _ => ?_
  refine (hamplitudes _).bind (l := 4) fun _ => ?_
  exact (Pays.lift (decodeJson_advances lib payload)).bind fun _ => Pays.pure _

end Paying

section Bounds

variable {R : Type} (lib : Decoding R) (payload : List UInt8) (uninit : Uninit)

theorem decodePoint_pays (cost : Work → Nat) (debt : Nat) :
    Pays cost debt 72 payload.length (lift (decodePoint lib payload)) :=
  Pays.lift decodePoint_sized.advances

/-- Each crack and each point that is built has been paid for with its own bytes. -/
theorem countedLaser_weight :
    Pays Work.weight 0 65 payload.length (countedLaser lib payload uninit) := by
  refine countedLaser_pays _ _ lib payload uninit fun porcelainId n => ?_
  refine countedTimes_pays (countedRound_weight (c := 28) (fun i => ?_) fun w => ?_) n 0
  · refine countedCrack_pays _ _ lib payload uninit porcelainId i fun n => ?_
    refine countedTimes_pays (countedRound_weight (fun _ => decodePoint_pays lib payload _ _)
      fun w => ?_) n 0
    simp only [Work.weight, Work.pushPoint]
    omega
  · simp only [Work.weight, Work.pushCrack]
    omega

/-- Two rounds can fail without their 8 bytes: one of the cracks and one of its points. -/
theorem countedLaser_roundBytes :
    Pays Work.roundBytes 16 65 payload.length (countedLaser lib payload uninit) := by
  refine countedLaser_pays _ _ lib payload uninit fun porcelainId n => ?_
  refine countedTimes_pays (countedRound_roundBytes (c := 28) (fun i => ?_) (by omega)
    Work.pushCrack fun _ => rfl) n 0
  refine countedCrack_pays _ _ lib payload uninit porcelainId i fun n => ?_
  exact countedTimes_pays (countedRound_roundBytes (fun _ => decodePoint_pays lib payload _ 0)
    (by omega) Work.pushPoint fun _ => rfl) n 0

theorem countedVibration_weight :
    Pays Work.weight 0 56 payload.length (countedVibration lib payload uninit) := by
  refine countedVibration_pays _ _ lib payload uninit fun n => ?_
  refine countedTimes_pays (countedRound_weight
    (fun _ => (reader_readDouble lib).pays payload _ _) fun w => ?_) n 0
  simp only [Work.weight, Work.pushAmplitude]
  omega

/-- One round can fail without its 8 bytes. -/
theorem countedVibration_roundBytes :
    Pays Work.roundBytes 8 56 payload.length (countedVibration lib payload uninit) := by
  refine countedVibration_pays _ _ lib payload uninit fun n => ?_
  exact countedTimes_pays (countedRound_roundBytes
    (fun _ => (reader_readDouble lib).pays payload _ 0) (Nat.le_refl 8) Work.pushAmplitude
    fun _ => rfl) n 0

end Bounds

/-! ## What a reading has counted -/

section Tallies

variable {R : Type} {lib : Decoding R} {payload : List UInt8} {uninit : Uninit}
  {offset offset' : Nat} {w w' : Work}

/-- A measure of the work that every round raises by `t` of its value and every push
by `p`. -/
theorem countedTimes_ok {α : Type} {push : Work → Work} {body : Nat → CountedDecoder α}
    {n i : Nat} {xs : List α} (measure : Work → Nat) (t : α → Nat) (p : Nat)
    (h : (countedTimes push body n i).runWith offset w = (.ok (xs, offset'), w'))
    (hround : ∀ w, measure w.round = measure w) (hpush : ∀ w, measure (push w) = measure w + p)
    (hbody : ∀ i offset w a offset' w', (body i).runWith offset w = (.ok (a, offset'), w') →
      measure w' = measure w + t a) :
    measure w' = measure w + (xs.map fun a => t a + p).sum := by
  induction n generalizing i offset w xs with
  | zero =>
      cases h
      rfl
  | succ n ih =>
      obtain ⟨value, offset₁, w₁, hvalue, h⟩ := Counted.bind_ok h
      obtain ⟨rest, offset₂, w₂, hrest, h⟩ := Counted.bind_ok h
      cases h
      obtain ⟨_, _, w₃, hstart, hvalue⟩ := Counted.bind_ok hvalue
      cases hstart
      obtain ⟨a, _, w₄, ha, hvalue⟩ := Counted.bind_ok hvalue
      cases hvalue
      rw [ih hrest, hpush, hbody _ _ _ _ _ _ ha, hround, List.map_cons, List.sum_cons]
      omega

/-- Every point that was pushed is in the crack. -/
theorem countedCrack_ok {porcelainId : Int} {i : Nat} {crack : CrackInfo R}
    (h : (countedCrack lib payload uninit porcelainId i).runWith offset w =
      (.ok (crack, offset'), w')) :
    w'.cracks = w.cracks ∧ w'.points = w.points + crack.points.length := by
  obtain ⟨_, _, _, h⟩ := Counted.bind_lift_ok h
  obtain ⟨_, _, _, h⟩ := Counted.bind_lift_ok h
  obtain ⟨_, _, _, h⟩ := Counted.bind_lift_ok h
  obtain ⟨_, _, _, h⟩ := Counted.bind_lift_ok h
  obtain ⟨points, _, _, hpoints, h⟩ := Counted.bind_ok h
  cases h
  have hkeep (measure : Work → Nat) : ∀ (_ offset : Nat) (w : Work) (a : Point3D R)
      (offset' : Nat) (w' : Work),
      (lift (decodePoint lib payload) : CountedDecoder _).runWith offset w =
        (.ok (a, offset'), w') → measure w' = measure w + 0 := by
    intro _ offset w a offset' w' hrun
    rw [(Counted.lift_ok hrun).2, Nat.add_zero]
  have hcracks := countedTimes_ok Work.cracks _ 0 hpoints (fun _ => rfl) (fun _ => rfl) (hkeep _)
  have hlen := countedTimes_ok Work.points _ 1 hpoints (fun _ => rfl) (fun _ => rfl) (hkeep _)
  exact ⟨by simpa using hcracks, by simpa using hlen⟩

/-- Every crack and every point that was pushed is in the result. -/
theorem countedLaser_ok {data : LaserMicroscopeData R}
    (h : (countedLaser lib payload uninit).runWith offset w = (.ok (data, offset'), w')) :
    w'.cracks = w.cracks + data.cracks.length ∧
      w'.points = w.points + (data.cracks.map fun crack => crack.points.length).sum := by
  obtain ⟨_, _, _, h⟩ := Counted.bind_lift_ok h
  obtain ⟨_, _, _, h⟩ := Counted.bind_lift_ok h
  obtain ⟨_, _, _, h⟩ := Counted.bind_lift_ok h
  obtain ⟨cracks, _, _, hcracks, h⟩ := Counted.bind_ok h
  obtain ⟨_, _, _, h⟩ := Counted.bind_lift_ok h
  cases h
  have hlen := countedTimes_ok Work.cracks (fun _ => 0) 1 hcracks (fun _ => rfl) (fun _ => rfl)
    fun _ _ _ _ _ _ hrun => (countedCrack_ok hrun).1
  have hpoints := countedTimes_ok Work.points _ 0 hcracks (fun _ => rfl) (fun _ => rfl)
    fun _ _ _ _ _ _ hrun => (countedCrack_ok hrun).2
  exact ⟨by simpa using hlen, by simpa using hpoints⟩

theorem countedVibration_ok {data : VibrationData R}
    (h : (countedVibration lib payload uninit).runWith offset w = (.ok (data, offset'), w')) :
    w'.amplitudes = w.amplitudes + data.amplitude.length := by
  obtain ⟨_, _, _, h⟩ := Counted.bind_lift_ok h
  obtain ⟨_, _, _, h⟩ := Counted.bind_lift_ok h
  obtain ⟨_, _, _, h⟩ := Counted.bind_lift_ok h
  obtain ⟨_, _, _, h⟩ := Counted.bind_lift_ok h
  obtain ⟨_, _, _, h⟩ := Counted.bind_lift_ok h
  obtain ⟨_, _, _, h⟩ := Counted.bind_lift_ok h
  obtain ⟨_, _, _, h⟩ := Counted.bind_lift_ok h
  obtain ⟨_, _, _, h⟩ := Counted.bind_lift_ok h
  obtain ⟨_, _, _, h⟩ := Counted.bind_lift_ok h
  obtain ⟨amplitude, _, _, hamplitude, h⟩ := Counted.bind_ok h
  obtain ⟨_, _, _, h⟩ := Counted.bind_lift_ok h
  cases h
  have hlen := countedTimes_ok Work.amplitudes (fun _ => 0) 1 hamplitude (fun _ => rfl)
    (fun _ => rfl) fun _ _ _ _ _ _ hrun => by rw [(Counted.lift_ok hrun).2, Nat.add_zero]
  simpa using hlen

end Tallies

/-! ## The bound -/

/-- A counted decoder that has run goes the way of the decoder. -/
theorem erased_run {α : Type} {m : CountedDecoder α} {d : Decoder α} (h : Erases m d)
    {a : α} {w : Work} (hd : (d.run 0).map Prod.fst = .ok a) :
    ∃ offset', m.runWith 0 w = (.ok (a, offset'), (m.runWith 0 w).2) := by
  obtain ⟨r, hr, rfl⟩ := map_eq_ok.mp hd
  exact ⟨r.2, Prod.ext ((h 0 w).trans hr) rfl⟩

section Bounded

variable {R : Type} (lib : Decoding R) (uninit : Uninit) (payload : List UInt8)

/-- The counted copy of `parse_laser_data`, when it has returned or thrown. -/
structure LaserBounded (result : Except Failure (LaserMicroscopeData R)) (work : Work) :
    Prop where
  same : result = parseLaserData lib payload uninit
  rounds : 8 * work.rounds ≤ payload.length + 16
  built : 28 * work.cracks + 72 * work.points ≤ payload.length
  returned : ∀ data, parseLaserData lib payload uninit = .ok data →
    work.cracks = data.cracks.length ∧
      work.points = (data.cracks.map fun crack => crack.points.length).sum ∧
      65 + 28 * data.cracks.length +
        72 * (data.cracks.map fun crack => crack.points.length).sum ≤ payload.length

/-- The counted copy of `parse_vibration_data`, when it has returned or thrown. -/
structure VibrationBounded (result : Except Failure (VibrationData R)) (work : Work) :
    Prop where
  same : result = parseVibrationData lib payload uninit
  rounds : 8 * work.rounds ≤ payload.length + 8
  built : 8 * work.amplitudes ≤ payload.length
  returned : ∀ data, parseVibrationData lib payload uninit = .ok data →
    work.amplitudes = data.amplitude.length ∧ 56 + 8 * data.amplitude.length ≤ payload.length

/-- The bytes that pay are those of the payload. -/
theorem laser_bounded : LaserBounded lib uninit payload
    (((countedLaser lib payload uninit).runWith 0 .none).1.map Prod.fst)
    ((countedLaser lib payload uninit).runWith 0 .none).2 := by
  have hplain : ((laserDecoder lib payload uninit).run 0).map Prod.fst =
      parseLaserData lib payload uninit := (bind_fst _).symm
  have hpays := countedLaser_weight lib payload uninit
  refine ⟨?_, ?_, ?_, fun data hdata => ?_⟩
  · rw [countedLaser_erases lib payload uninit, hplain]
  · exact (countedLaser_roundBytes lib payload uninit).total rfl
  · have hweight := hpays.total (w := Work.none) rfl
    rw [Work.weight] at hweight
    omega
  · obtain ⟨_, hrun⟩ := erased_run (w := Work.none) (countedLaser_erases lib payload uninit)
      (hplain.trans hdata)
    obtain ⟨hcracks, hpoints⟩ := countedLaser_ok hrun
    have hcracks := hcracks.trans (Nat.zero_add _)
    have hpoints := hpoints.trans (Nat.zero_add _)
    have hweight := hpays.returned rfl hrun
    rw [Work.weight, hcracks, hpoints] at hweight
    exact ⟨hcracks, hpoints, by omega⟩

theorem vibration_bounded : VibrationBounded lib uninit payload
    (((countedVibration lib payload uninit).runWith 0 .none).1.map Prod.fst)
    ((countedVibration lib payload uninit).runWith 0 .none).2 := by
  have hplain : ((vibrationDecoder lib payload uninit).run 0).map Prod.fst =
      parseVibrationData lib payload uninit := (bind_fst _).symm
  have hpays := countedVibration_weight lib payload uninit
  refine ⟨?_, ?_, ?_, fun data hdata => ?_⟩
  · rw [countedVibration_erases lib payload uninit, hplain]
  · exact (countedVibration_roundBytes lib payload uninit).total rfl
  · have hweight := hpays.total (w := Work.none) rfl
    rw [Work.weight] at hweight
    omega
  · obtain ⟨_, hrun⟩ := erased_run (w := Work.none)
      (countedVibration_erases lib payload uninit) (hplain.trans hdata)
    have hamplitudes := (countedVibration_ok hrun).trans (Nat.zero_add _)
    have hweight := hpays.returned rfl hrun
    rw [Work.weight, hamplitudes] at hweight
    exact ⟨hamplitudes, by omega⟩

/-- Whatever the counts of a payload say, no loop starts more rounds than its bytes
allow, and no run, whether it returns or throws, builds more than its bytes encode. -/
theorem decoding_bounded :
    LaserBounded lib uninit payload
        (((countedLaser lib payload uninit).runWith 0 .none).1.map Prod.fst)
        ((countedLaser lib payload uninit).runWith 0 .none).2 ∧
      VibrationBounded lib uninit payload
        (((countedVibration lib payload uninit).runWith 0 .none).1.map Prod.fst)
        ((countedVibration lib payload uninit).runWith 0 .none).2 :=
  ⟨laser_bounded lib uninit payload, vibration_bounded lib uninit payload⟩

end Bounded

end PorcelainMonitor.Profinet
