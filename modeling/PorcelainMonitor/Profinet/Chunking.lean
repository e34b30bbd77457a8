import PorcelainMonitor.Profinet.TcpSession

/-!
# A session and the chunks of its stream

What a session does depends on the bytes it receives, and not on how the network
cuts them into reads.  `decodeFrame` is what a slice of the stream comes to,
`handleFrame_handled` says what the session does about it, and `tryParseFrames_short`
that the overflow reset has nothing to reset.

A frame whose payload ends where the crack flag of a laser reading should be makes
the decoder read one byte past its end.  Such a frame counts as one that the
decoder fails on, as the next read of four bytes does.
-/

namespace PorcelainMonitor.Profinet

open LittleEndian

variable {R : Type} (cfg : SessionConfig R)

/-! ## One slice -/

/-- The decoding of one slice, and the callback that it leads to. -/
def decodeFrame (frameData : List UInt8) : Except Failure (List (SessionEvent R)) := do
  let packet ← parse frameData cfg.remoteIp cfg.localIp
  dispatch cfg packet

/-- A call of the laser or of the vibration callback. -/
def SessionEvent.IsCallback : SessionEvent R → Prop
  | .laser _ _ => True
  | .vibration _ _ => True
  | _ => False

/-- The number that an acknowledge of the frame carries. -/
def cycleCounterOf (frameData : List UInt8) : UInt32 := UInt32.ofNat (wordAt frameData 4 4)

/-- What a slice is to lead to: an acknowledge, after at most one callback, or, if
decoding fails, neither. -/
inductive SliceHandled (frameData : List UInt8) : List (SessionEvent R) → Prop where
  | acknowledged {called : List (SessionEvent R)}
      (hdecode : decodeFrame cfg frameData = .ok called)
      (hone : called.length ≤ 1) (hcallback : ∀ e ∈ called, e.IsCallback) :
      SliceHandled frameData
        (.handed frameData :: (called ++ [.acknowledge (cycleCounterOf frameData)]))
  | discarded {failure : Failure} (hdecode : decodeFrame cfg frameData = .error failure) :
      SliceHandled frameData [.handed frameData, .discarded failure]

variable {cfg}

/-- A decoded packet leads to one callback at most. -/
theorem dispatch_callbacks {packet : ProfinetPacket} {called : List (SessionEvent R)}
    (h : dispatch cfg packet = .ok called) :
    called.length ≤ 1 ∧ ∀ e ∈ called, e.IsCallback := by
  have hone : ∀ {e : SessionEvent R} {b : Bool}, e.IsCallback →
      (if b then [e] else []).length ≤ 1 ∧ ∀ e' ∈ (if b then [e] else []), e'.IsCallback := by
    intro e b he
    cases b with
    | false => exact ⟨Nat.zero_le 1, fun e' he' => (List.not_mem_nil he').elim⟩
    | true => exact ⟨Nat.le_refl 1, List.forall_mem_singleton.mpr he⟩
  simp only [dispatch, bind, Except.bind, pure, Except.pure] at h
  split at h
  · split at h
    · cases h
    · cases h
      exact hone trivial
  · split at h
    · split at h
      · cases h
      · cases h
        exact hone trivial
    · cases h
      exact ⟨Nat.zero_le 1, fun e he => (List.not_mem_nil he).elim⟩

/-- The cycle counter of a slice with a header can be read. -/
theorem readU32_cycleCounter {frameData : List UInt8} (h : headerSize ≤ frameData.length) :
    readU32 frameData 4 = .ok (cycleCounterOf frameData) :=
  readU32_eq (Nat.le_trans (by decide) h)

theorem handleFrame_handled {frameData : List UInt8} (h : headerSize ≤ frameData.length) :
    SliceHandled cfg frameData (handleFrame cfg frameData) := by
  have hdecode : decodeFrame cfg frameData =
      (parse frameData cfg.remoteIp cfg.localIp).bind (dispatch cfg) := rfl
  rw [handleFrame]
  cases hp : parse frameData cfg.remoteIp cfg.localIp with
  | error failure => exact .discarded (by rw [hdecode, hp]; rfl)
  | ok packet =>
      cases hd : dispatch cfg packet with
      | error failure =>
          simp only [hd]
          exact .discarded (by rw [hdecode, hp]; exact hd)
      | ok called =>
          obtain ⟨hone, hcallback⟩ := dispatch_callbacks hd
          simp only [hd, readU32_cycleCounter h]
          exact .acknowledged (by rw [hdecode, hp]; exact hd) hone hcallback

/-! ## The whole stream -/

/-- Every slice has a header. -/
theorem headerSize_le_of_mem {xs slice : List UInt8}
    (h : slice ∈ (frameBufFraming.deframe xs).1) : headerSize ≤ slice.length := by
  suffices hcut : ∀ (ys : List UInt8) n, frameBufFraming.Complete ys n →
      headerSize ≤ (ys.take n).length from
    Framing.deframe_forall (P := fun f => headerSize ≤ f.length) hcut xs slice h
  intro ys n hn
  have hlen : headerSize ≤ ys.length := by
    by_contra hshort
    exact absurd hn.1 (by simp [total_of_lt hshort])
  have htotal : headerSize + wordAt ys 12 2 = n :=
    Option.some.inj ((total_of_le hlen).symm.trans hn.1)
  rw [List.length_take, Nat.min_eq_left hn.2, ← htotal]
  exact Nat.le_add_right _ _

/-- Whatever the buffer, `try_parse_frames` leaves what its loop leaves, and that
is short. -/
theorem tryParseFrames_short (s : TcpSession R) :
    (tryParseFrames cfg s).frameBuf = (tryParseFramesLoop cfg s.frameBuf).2 ∧
      (tryParseFrames cfg s).frameBuf.length < 65551 := by
  have hshort : (tryParseFramesLoop cfg s.frameBuf).2.length < 65551 := by
    rw [tryParseFramesLoop_eq]
    exact length_rest_lt s.frameBuf
  have hkept : (tryParseFrames cfg s).frameBuf = (tryParseFramesLoop cfg s.frameBuf).2 :=
    if_neg (Nat.not_lt.mpr (Nat.le_trans (Nat.le_of_lt hshort) (by decide)))
  exact ⟨hkept, by rw [hkept]; exact hshort⟩

/-- Two ways of cutting a stream into reads make the session do the same and
leave the same bytes.  The slices and these bytes are the stream, each slice is
acknowledged or discarded, and no read ever makes the buffer overflow. -/
theorem receive_independent_of_chunks (cfg : SessionConfig R) (reads reads' : List Read)
    (h : (reads.map Read.bytes).flatten = (reads'.map Read.bytes).flatten) :
    receive cfg (reads.map Read.bytes) = receive cfg (reads'.map Read.bytes) ∧
      (handedSlices (receive cfg (reads.map Read.bytes)).log).flatten ++
          (receive cfg (reads.map Read.bytes)).frameBuf = (reads.map Read.bytes).flatten ∧
      (receive cfg (reads.map Read.bytes)).log =
        (handedSlices (receive cfg (reads.map Read.bytes)).log).flatMap (handleFrame cfg) ∧
      (∀ slice ∈ handedSlices (receive cfg (reads.map Read.bytes)).log,
        SliceHandled cfg slice (handleFrame cfg slice)) ∧
      ∀ s : TcpSession R,
        (tryParseFrames cfg s).frameBuf = (tryParseFramesLoop cfg s.frameBuf).2 ∧
          (tryParseFrames cfg s).frameBuf.length < 65551 := by
  refine ⟨by rw [receive_eq, receive_eq, h], ?_, ?_, ?_, tryParseFrames_short⟩
  · rw [receive_eq, handedSlices_flatMap]
    exact Framing.deframe_flatten _
  · rw [receive_eq, handedSlices_flatMap]
  · rw [receive_eq, handedSlices_flatMap]
    exact fun slice hslice => handleFrame_handled (headerSize_le_of_mem hslice)

/-- A frame in one piece and the same frame cut after ten bytes. -/
theorem receive_independent_of_chunks_cut :
    receive silentConfig [(emptyFrame 0x800000000).bytes] =
      receive silentConfig
        [(emptyFrame 0x800000000).bytes.take 10, (emptyFrame 0x800000000).bytes.drop 10] :=
  (receive_independent_of_chunks silentConfig
    [⟨(emptyFrame 0x800000000).bytes, by decide, by decide⟩]
    [⟨(emptyFrame 0x800000000).bytes.take 10, by decide, by decide⟩,
      ⟨(emptyFrame 0x800000000).bytes.drop 10, by decide, by decide⟩] (by decide)).1

end PorcelainMonitor.Profinet
