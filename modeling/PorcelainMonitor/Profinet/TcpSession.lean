import PorcelainMonitor.Lib.Framing
import PorcelainMonitor.Profinet.RoundTrip

/-!
# `TcpSession`

A session appends every read to `frame_buf_` and cuts frames off its front
(`tryParseFrames`).  A frame is handed to the parser, a decoded reading goes to
the callback of its kind, and the frame is acknowledged.  An exception on the
way discards the frame and is logged.

The log lists what the session does, in order.  Endpoint lookups succeed, the
callbacks do not throw and `send_acknowledge` does not fail.

The loop takes the length of a frame from bytes 12 and 13 of the buffer and
counts the header as 16 bytes.  `frameBufFraming` is that rule, and
`receive_eq` says that a session fed read by read does what the rule does to the
whole stream.  In a sent frame these bytes belong to the timestamp
(`total_bytes`), so the stream is cut back into the sent frames only where the
timestamp happens to spell the right length (`receive_frames_iff`).
-/

namespace PorcelainMonitor.Profinet

open LittleEndian

/-! ## The session -/

/-- What a session does, in order. -/
inductive SessionEvent (R : Type) where
  /-- The slice handed to `ProfinetParser::parse`. -/
  | handed (frame : List UInt8)
  | laser (packet : ProfinetPacket) (data : LaserMicroscopeData R)
  | vibration (packet : ProfinetPacket) (data : VibrationData R)
  | acknowledge (cycleCounter : UInt32)
  /-- The frame was given up. -/
  | discarded (failure : Failure)

/-- The surroundings of a session: its decoder, the values that the decoder
leaves unassigned in a payload, its endpoints, and which callbacks are set. -/
structure SessionConfig (R : Type) where
  lib : Decoding R
  uninit : List UInt8 → Uninit
  remoteIp : String
  localIp : String
  laserCallback : Bool
  vibrationCallback : Bool

structure TcpSession (R : Type) where
  frameBuf : List UInt8 := []
  log : List (SessionEvent R) := []

/-- `MAX_FRAME_BUF_SIZE`. -/
def maxFrameBufSize : Nat := 4 * 1024 * 1024

section Session

variable {R : Type} (cfg : SessionConfig R)

/-- The callback for a decoded packet, if it is a reading. -/
def dispatch (packet : ProfinetPacket) : Except Failure (List (SessionEvent R)) := do
  if packet.frameId = PacketType.laserData then
    let data ← parseLaserData cfg.lib packet.payload (cfg.uninit packet.payload)
    return if cfg.laserCallback then [.laser packet data] else []
  else if packet.frameId = PacketType.vibrationData then
    let data ← parseVibrationData cfg.lib packet.payload (cfg.uninit packet.payload)
    return if cfg.vibrationCallback then [.vibration packet data] else []
  else return []

/-- The body of the `try` block for one frame. -/
def handleFrame (frameData : List UInt8) : List (SessionEvent R) :=
  .handed frameData ::
    match parse frameData cfg.remoteIp cfg.localIp with
    | .error failure => [.discarded failure]
    | .ok packet =>
        match dispatch cfg packet with
        | .error failure => [.discarded failure]
        | .ok called =>
            match readU32 frameData 4 with
            | .error failure => called ++ [.discarded failure]
            | .ok cycleCounter => called ++ [.acknowledge cycleCounter]

/-- The `while` loop of `try_parse_frames`: what it does and what it leaves in
the buffer. -/
def tryParseFramesLoop (frameBuf : List UInt8) : List (SessionEvent R) × List UInt8 :=
  if _h : headerSize ≤ frameBuf.length then
    have _h12 : 12 < frameBuf.length := Nat.lt_of_lt_of_le (by decide) _h
    have _h13 : 13 < frameBuf.length := Nat.lt_of_lt_of_le (by decide) _h
    let payloadLen : UInt16 := frameBuf[12].toUInt16 ||| frameBuf[13].toUInt16 <<< 8
    let frameTotal := headerSize + payloadLen.toNat
    if frameBuf.length < frameTotal then ([], frameBuf)
    else
      let rest := tryParseFramesLoop (frameBuf.drop frameTotal)
      (handleFrame cfg (frameBuf.take frameTotal) ++ rest.1, rest.2)
  else ([], frameBuf)
termination_by frameBuf.length
decreasing_by
  have : 0 < headerSize := by decide
  simp only [List.length_drop]
  omega

def tryParseFrames (s : TcpSession R) : TcpSession R :=
  let (events, rest) := tryParseFramesLoop cfg s.frameBuf
  { frameBuf := if maxFrameBufSize < rest.length then [] else rest
    log := s.log ++ events }

/-- The completion handler of `do_read`. -/
def doRead (s : TcpSession R) (read : List UInt8) : TcpSession R :=
  tryParseFrames cfg { s with frameBuf := s.frameBuf ++ read }

/-- A session that has got these reads. -/
def receive (reads : List (List UInt8)) : TcpSession R := reads.foldl (doRead cfg) {}

/-- The slices handed to the parser, in order. -/
def handedSlices (log : List (SessionEvent R)) : List (List UInt8) :=
  log.filterMap fun
    | .handed frame => some frame
    | _ => none

end Session

/-! ## The framing rule of the loop -/

/-- The length that the loop reads off a buffer. -/
def frameBufTotal (xs : List UInt8) : Option Nat :=
  if headerSize ≤ xs.length then some (headerSize + wordAt xs 12 2) else none

theorem frameBufTotal_pos {xs : List UInt8} {n : Nat} (h : frameBufTotal xs = some n) : 0 < n := by
  rw [frameBufTotal] at h
  split at h
  · cases h
    exact Nat.add_pos_left (by decide) _
  · cases h

theorem frameBufTotal_append {xs : List UInt8} {n : Nat} (h : frameBufTotal xs = some n)
    (ys : List UInt8) : frameBufTotal (xs ++ ys) = some n := by
  rw [frameBufTotal] at h ⊢
  split at h
  · next hlen =>
      have hword : wordAt (xs ++ ys) 12 2 = wordAt xs 12 2 := by
        rw [headerSize] at hlen
        rw [wordAt, wordAt, List.drop_append_of_le_length (by omega),
          List.take_append_of_le_length (by rw [List.length_drop]; omega)]
      rw [if_pos (by rw [List.length_append]; omega), hword]
      exact h
  · cases h

/-- Bytes 12 and 13 plus a header of 16 bytes. -/
def frameBufFraming : Framing UInt8 where
  total := frameBufTotal
  total_pos := frameBufTotal_pos
  total_append := frameBufTotal_append

theorem total_of_le {xs : List UInt8} (h : headerSize ≤ xs.length) :
    frameBufFraming.total xs = some (headerSize + wordAt xs 12 2) := if_pos h

theorem total_of_lt {xs : List UInt8} (h : ¬ headerSize ≤ xs.length) :
    frameBufFraming.total xs = none := if_neg h

section Session

variable {R : Type} {cfg : SessionConfig R}

theorem lengthField_eq {xs : List UInt8} (h12 : 12 < xs.length) (h13 : 13 < xs.length) :
    (xs[12].toUInt16 ||| xs[13].toUInt16 <<< 8).toNat = wordAt xs 12 2 := by
  have hvalue : xs[12].toUInt16.toNat = wordAt xs 12 1 := by
    rw [wordAt_succ 0 h12]
    simp [wordAt]
  exact or_byte16 hvalue (by decide) h13

/-- The loop handles the frames of the rule, one after the other. -/
theorem tryParseFramesLoop_eq (xs : List UInt8) :
    tryParseFramesLoop cfg xs =
      ((frameBufFraming.deframe xs).1.flatMap (handleFrame cfg),
        (frameBufFraming.deframe xs).2) := by
  induction xs using frameBufFraming.deframe_induction with
  | stop xs h =>
      rw [tryParseFramesLoop, Framing.deframe_of_incomplete h]
      split
      · next hlen =>
          have h12 : 12 < xs.length := Nat.lt_of_lt_of_le (by decide) hlen
          have h13 : 13 < xs.length := Nat.lt_of_lt_of_le (by decide) hlen
          have hshort : xs.length < headerSize + wordAt xs 12 2 := by
            by_contra hle
            exact h _ ⟨total_of_le hlen, Nat.le_of_not_lt hle⟩
          simp only [lengthField_eq h12 h13]
          rw [if_pos hshort]
          rfl
      · rfl
  | cut xs n h ih =>
      have hlen : headerSize ≤ xs.length := by
        by_contra hlen
        exact absurd h.1 (by simp [total_of_lt hlen])
      have h12 : 12 < xs.length := Nat.lt_of_lt_of_le (by decide) hlen
      have h13 : 13 < xs.length := Nat.lt_of_lt_of_le (by decide) hlen
      obtain rfl : headerSize + wordAt xs 12 2 = n := by
        exact Option.some.inj ((total_of_le hlen).symm.trans h.1)
      rw [tryParseFramesLoop, dif_pos hlen, Framing.deframe_of_complete h]
      simp only [lengthField_eq h12 h13]
      rw [if_neg (Nat.not_lt.mpr h.2), ih]
      rfl

/-- What the loop leaves is too short for the overflow reset. -/
theorem length_rest_lt (xs : List UInt8) : (frameBufFraming.deframe xs).2.length < 65551 := by
  by_contra hlong
  have hlen : headerSize ≤ (frameBufFraming.deframe xs).2.length := by
    rw [headerSize]
    omega
  have hword := wordAt_lt (frameBufFraming.deframe xs).2 12 2
  refine Framing.deframe_rest_incomplete xs _ ⟨total_of_le hlen, ?_⟩
  rw [headerSize]
  omega

/-- One read: the frames it completes are handled, and nothing is reset. -/
theorem doRead_eq (s : TcpSession R) (read : List UInt8) :
    doRead cfg s read =
      { frameBuf := (frameBufFraming.deframe (s.frameBuf ++ read)).2
        log := s.log ++
          (frameBufFraming.deframe (s.frameBuf ++ read)).1.flatMap (handleFrame cfg) } := by
  have hshort := length_rest_lt (s.frameBuf ++ read)
  have hmax : ¬ maxFrameBufSize < (frameBufFraming.deframe (s.frameBuf ++ read)).2.length := by
    rw [maxFrameBufSize]
    omega
  simp only [doRead, tryParseFrames, tryParseFramesLoop_eq]
  rw [if_neg hmax]

/-- A read that is a frame whose length the loop reads off correctly. -/
theorem doRead_frame {frame : List UInt8} (h : frameBufFraming.total frame = some frame.length) :
    doRead cfg {} frame = { frameBuf := [], log := handleFrame cfg frame } := by
  have hnil : frameBufFraming.deframe [] = ([], []) := by
    refine Framing.deframe_of_incomplete fun n hn => ?_
    have htotal := hn.1
    rw [total_of_lt (by decide)] at htotal
    cases htotal
  have hcut : frameBufFraming.deframe frame = ([frame], []) := by
    have h := Framing.deframe_frame_append h []
    rwa [List.append_nil, hnil] at h
  rw [doRead_eq]
  change TcpSession.mk (frameBufFraming.deframe frame).2
    ((frameBufFraming.deframe frame).1.flatMap (handleFrame cfg)) = _
  rw [hcut]
  simp

theorem foldl_doRead_eq (reads : List (List UInt8)) (s : TcpSession R) :
    reads.foldl (doRead cfg) s =
      { frameBuf := (frameBufFraming.feed s.frameBuf reads).2
        log := s.log ++ (frameBufFraming.feed s.frameBuf reads).1.flatMap (handleFrame cfg) } := by
  induction reads generalizing s with
  | nil => simp [Framing.feed]
  | cons read reads ih =>
      rw [List.foldl_cons, ih, doRead_eq]
      simp [Framing.feed]

/-- A session fed read by read handles the frames of the whole stream. -/
theorem receive_eq (reads : List (List UInt8)) :
    receive cfg reads =
      { frameBuf := (frameBufFraming.deframe reads.flatten).2
        log := (frameBufFraming.deframe reads.flatten).1.flatMap (handleFrame cfg) } := by
  have hempty : ∀ n, ¬ frameBufFraming.Complete [] n := by
    rintro n ⟨htotal, _⟩
    rw [total_of_lt (by decide)] at htotal
    cases htotal
  rw [receive, foldl_doRead_eq, Framing.feed_eq_deframe reads hempty]
  simp

theorem handedSlices_append (log log' : List (SessionEvent R)) :
    handedSlices (log ++ log') = handedSlices log ++ handedSlices log' :=
  List.filterMap_append

/-- A callback hands nothing to the parser. -/
theorem handedSlices_dispatch {packet : ProfinetPacket} {called : List (SessionEvent R)}
    (h : dispatch cfg packet = .ok called) : handedSlices called = [] := by
  simp only [dispatch, bind, Except.bind, pure, Except.pure] at h
  split at h
  · split at h
    · cases h
    · cases h
      split <;> rfl
  · split at h
    · split at h
      · cases h
      · cases h
        split <;> rfl
    · cases h
      rfl

/-- Handling a frame hands it to the parser, once. -/
theorem handedSlices_handleFrame (frame : List UInt8) :
    handedSlices (handleFrame cfg frame) = [frame] := by
  rw [handleFrame]
  cases parse frame cfg.remoteIp cfg.localIp with
  | error failure => rfl
  | ok packet =>
      cases hd : dispatch cfg packet with
      | error failure =>
          simp only [hd]
          rfl
      | ok called =>
          have hcalled := handedSlices_dispatch hd
          simp only [hd]
          cases readU32 frame 4 with
          | error failure =>
              exact congrArg (frame :: ·)
                ((handedSlices_append called _).trans (by rw [hcalled]; rfl))
          | ok cycleCounter =>
              exact congrArg (frame :: ·)
                ((handedSlices_append called _).trans (by rw [hcalled]; rfl))

theorem handedSlices_flatMap (frames : List (List UInt8)) :
    handedSlices (frames.flatMap (handleFrame cfg)) = frames := by
  induction frames with
  | nil => rfl
  | cons frame frames ih =>
      rw [List.flatMap_cons, handedSlices_append, handedSlices_handleFrame, ih]
      rfl

/-! ## Reassembly -/

/-- What one `async_read_some` into `read_buf_` delivers. -/
structure Read where
  bytes : List UInt8
  pos : 0 < bytes.length
  le : bytes.length ≤ 8192

/-- The length that the loop reads off a sent frame: the middle of the
timestamp, behind the header of 16 bytes. -/
theorem total_bytes (f : SentFrame) :
    frameBufFraming.total f.bytes = some (16 + f.timestamp.toNat / 2 ^ 32 % 2 ^ 16) := by
  have hlen : headerSize ≤ f.bytes.length := by
    rw [headerSize, f.length_bytes]
    omega
  have hword : wordAt f.bytes 12 2 = f.timestamp.toNat / 2 ^ 32 % 2 ^ 16 := by
    simp only [f.bytes_eq, SentFrame.header, wordAt, wordBytes_succ, wordBytes_zero,
      List.cons_append, List.nil_append, List.drop_succ_cons, List.drop_zero, List.take_succ_cons,
      List.take_zero, ofBytes_cons, ofBytes_nil, UInt8.toNat_ofNat']
    omega
  rw [total_of_le hlen, hword, headerSize]

/-- The length read off a sent frame is its own when the timestamp spells the
payload length plus eight. -/
theorem total_bytes_iff (f : SentFrame) :
    frameBufFraming.total f.bytes = some f.bytes.length ↔
      f.timestamp.toNat / 2 ^ 32 % 2 ^ 16 = f.payload.length + 8 := by
  rw [total_bytes, f.length_bytes, Option.some.injEq]
  omega

/-- The session hands on exactly the sent frames when the middle of every
timestamp spells the length of its frame. -/
theorem receive_synchronised_iff {frames : List SentFrame} {reads : List (List UInt8)}
    (hcut : reads.flatten = (frames.map SentFrame.bytes).flatten) :
    (handedSlices (receive cfg reads).log = frames.map SentFrame.bytes ∧
        (receive cfg reads).frameBuf = []) ↔
      ∀ f ∈ frames, f.timestamp.toNat / 2 ^ 32 % 2 ^ 16 = f.payload.length + 8 := by
  have hsome : ∀ b ∈ frames.map SentFrame.bytes, (frameBufFraming.total b).isSome := by
    intro b hb
    obtain ⟨f, _, rfl⟩ := List.mem_map.mp hb
    rw [total_bytes]
    rfl
  rw [receive_eq, hcut, handedSlices_flatMap, ← Prod.mk.injEq,
    Framing.deframe_flatten_iff hsome, List.forall_mem_map]
  exact forall₂_congr fun f _ => total_bytes_iff f

/-- However the stream of sent frames is cut into reads, the slices handed to the
parser are the sent frames, with nothing left in the buffer, exactly when the
middle of every timestamp spells the length of its frame. -/
theorem receive_frames_iff (cfg : SessionConfig R) (frames : List SentFrame) (reads : List Read)
    (hcut : (reads.map Read.bytes).flatten = (frames.map SentFrame.bytes).flatten) :
    (handedSlices (receive cfg (reads.map Read.bytes)).log = frames.map SentFrame.bytes ∧
        (receive cfg (reads.map Read.bytes)).frameBuf = []) ↔
      ∀ f ∈ frames, f.timestamp.toNat / 2 ^ 32 % 2 ^ 16 = f.payload.length + 8 :=
  receive_synchronised_iff hcut

end Session

/-! ## Two streams -/

/-- Surroundings that decode every number to nothing. -/
def silentConfig : SessionConfig Unit where
  lib := ⟨fun _ => (), fun _ => (), fun _ => .ok .null⟩
  uninit := fun _ => ⟨0, fun _ => 0⟩
  remoteIp := "10.0.0.1"
  localIp := "10.0.0.2"
  laserCallback := true
  vibrationCallback := true

/-- A frame without payload, stamped with a given time. -/
def emptyFrame (timestamp : UInt64) : SentFrame :=
  ⟨PacketType.laserData, 1, timestamp, [], by decide⟩

/-- A frame whose timestamp happens to spell its length survives a cut after ten
bytes. -/
theorem receive_frames_iff_lucky :
    handedSlices (receive silentConfig
        [(emptyFrame 0x800000000).bytes.take 10, (emptyFrame 0x800000000).bytes.drop 10]).log =
      [(emptyFrame 0x800000000).bytes] ∧
    (receive silentConfig
        [(emptyFrame 0x800000000).bytes.take 10, (emptyFrame 0x800000000).bytes.drop 10]).frameBuf =
      [] :=
  (receive_frames_iff silentConfig [emptyFrame 0x800000000]
    [⟨(emptyFrame 0x800000000).bytes.take 10, by decide, by decide⟩,
      ⟨(emptyFrame 0x800000000).bytes.drop 10, by decide, by decide⟩]
    (by decide)).mpr (by decide)

/-- One frame stamped with time zero, read whole, is cut in two. -/
theorem receive_loses_synchronisation :
    ¬ ∀ (cfg : SessionConfig Unit) (frames : List SentFrame) (reads : List Read),
      (reads.map Read.bytes).flatten = (frames.map SentFrame.bytes).flatten →
      handedSlices (receive cfg (reads.map Read.bytes)).log = frames.map SentFrame.bytes ∧
        (receive cfg (reads.map Read.bytes)).frameBuf = [] := by
  intro h
  have hcut : [(emptyFrame 0).bytes].flatten = ([emptyFrame 0].map SentFrame.bytes).flatten := rfl
  have hsync := h silentConfig [emptyFrame 0] [⟨(emptyFrame 0).bytes, by decide, by decide⟩] hcut
  have hlength := (receive_synchronised_iff hcut).mp hsync (emptyFrame 0) List.mem_cons_self
  revert hlength
  decide

end PorcelainMonitor.Profinet
