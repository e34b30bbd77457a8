import PorcelainMonitor.Lib.OffsetDecoder
import PorcelainMonitor.Profinet.Parser

/-!
# What a decoded payload holds

Inversion of the payload decoders: what is known of the parts of a reading that
a decoder returned.
-/

namespace PorcelainMonitor.Profinet

/-- A counted loop collects one value a round, from the body of that round. -/
theorem times_ok {α : Type} {body : Nat → Decoder α} : ∀ {n i offset : Nat} {r : List α × Nat},
    (times body n i).run offset = .ok r →
      r.1.length = n ∧ ∀ (j : Nat) (a : α), r.1[j]? = some a →
        ∃ o o', (body (i + j)).run o = .ok (a, o')
  | 0, i, offset, r, h => by
      cases h
      exact ⟨rfl, fun j a hj => by cases hj⟩
  | n + 1, i, offset, r, h => by
      rw [times] at h
      obtain ⟨a, o, ha, h⟩ := OffsetDecoder.bind_ok h
      obtain ⟨rest, o', hrest, h⟩ := OffsetDecoder.bind_ok h
      cases h
      obtain ⟨hlen, hpos⟩ := times_ok hrest
      refine ⟨congrArg Nat.succ hlen, fun j b hj => ?_⟩
      cases j with
      | zero =>
          cases hj
          exact ⟨offset, o, ha⟩
      | succ j =>
          rw [Nat.add_succ, ← Nat.succ_add]
          exact hpos j b hj

section Payload

variable {R : Type} {lib : Decoding R} {payload : List UInt8} {uninit : Uninit}

/-- A decoded crack has the `id` that its memory held before. -/
theorem decodeCrack_id {porcelainId : Int} {i offset : Nat} {r : CrackInfo R × Nat}
    (h : (decodeCrack lib payload uninit porcelainId i).run offset = .ok r) :
    r.1.id = uninit.crackId i := by
  rw [decodeCrack] at h
  obtain ⟨_, _, _, h⟩ := OffsetDecoder.bind_ok h
  obtain ⟨_, _, _, h⟩ := OffsetDecoder.bind_ok h
  obtain ⟨_, _, _, h⟩ := OffsetDecoder.bind_ok h
  obtain ⟨_, _, _, h⟩ := OffsetDecoder.bind_ok h
  obtain ⟨_, _, _, h⟩ := OffsetDecoder.bind_ok h
  cases h
  rfl

/-- The cracks of a reading, one decoded in each round of the crack loop. -/
theorem parseLaserData_cracks {data : LaserMicroscopeData R}
    (h : parseLaserData lib payload uninit = .ok data) :
    ∀ (i : Nat) (crack : CrackInfo R), data.cracks[i]? = some crack →
      ∃ o o', (decodeCrack lib payload uninit data.porcelainId i).run o = .ok (crack, o') := by
  rw [parseLaserData] at h
  cases hdec : laserDecoder lib payload uninit 0 with
  | error e =>
      rw [hdec] at h
      cases h
  | ok p =>
      rw [hdec] at h
      cases h
      replace hdec : (laserDecoder lib payload uninit).run 0 = .ok p := hdec
      rw [laserDecoder] at hdec
      obtain ⟨_, _, _, hdec⟩ := OffsetDecoder.bind_ok hdec
      obtain ⟨porcelainId, _, _, hdec⟩ := OffsetDecoder.bind_ok hdec
      obtain ⟨_, _, _, hdec⟩ := OffsetDecoder.bind_ok hdec
      obtain ⟨_, _, _, hdec⟩ := OffsetDecoder.bind_ok hdec
      obtain ⟨_, _, _, hdec⟩ := OffsetDecoder.bind_ok hdec
      obtain ⟨_, _, _, hdec⟩ := OffsetDecoder.bind_ok hdec
      obtain ⟨_, _, _, hdec⟩ := OffsetDecoder.bind_ok hdec
      obtain ⟨_, _, _, hdec⟩ := OffsetDecoder.bind_ok hdec
      obtain ⟨_, _, _, hdec⟩ := OffsetDecoder.bind_ok hdec
      obtain ⟨crackCount, _, _, hdec⟩ := OffsetDecoder.bind_ok hdec
      obtain ⟨cracks, _, hcracks, hdec⟩ := OffsetDecoder.bind_ok hdec
      obtain ⟨_, _, _, hdec⟩ := OffsetDecoder.bind_ok hdec
      cases hdec
      intro i crack hi
      obtain ⟨o, o', ho⟩ := (times_ok hcracks).2 i crack hi
      rw [Nat.zero_add] at ho
      dsimp only
      exact ⟨o, o', ho⟩

/-- Every crack of a reading has the `id` that its memory held before. -/
theorem parseLaserData_crack_id {data : LaserMicroscopeData R}
    (h : parseLaserData lib payload uninit = .ok data) {i : Nat} {crack : CrackInfo R}
    (hi : data.cracks[i]? = some crack) : crack.id = uninit.crackId i := by
  obtain ⟨o, o', ho⟩ := parseLaserData_cracks h i crack hi
  exact decodeCrack_id ho

end Payload

end PorcelainMonitor.Profinet
