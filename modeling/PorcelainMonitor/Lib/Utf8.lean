import Mathlib.Data.List.Basic

/-!
# ASCII bytes of UTF-8

The bytes below 128 of a text in UTF-8 are its ASCII characters.
-/

namespace Utf8

/-- The bytes of a text. -/
def bytes (s : String) : List UInt8 := s.toUTF8.data.toList

theorem bytes_eq (s : String) : bytes s = s.toList.flatMap String.utf8EncodeChar := by
  rw [bytes, String.toUTF8, ← String.utf8Encode_toList]
  simp [List.utf8Encode]

theorem mem_utf8EncodeChar {c : Char} {b : UInt8} (hb : b.toNat < 128) :
    b ∈ String.utf8EncodeChar c ↔ b.toNat = c.toNat := by
  have hlow : ∀ n : Nat, 128 ≤ n % 256 → b ≠ UInt8.ofNat n := by
    rintro n hn rfl
    rw [UInt8.toNat_ofNat'] at hb
    omega
  have hc : c.val.toNat = c.toNat := rfl
  simp only [String.utf8EncodeChar, hc]
  split
  · rw [List.mem_singleton, ← UInt8.toNat_inj, UInt8.toNat_ofNat']
    omega
  · have hne : b.toNat ≠ c.toNat := by omega
    simp only [hne, iff_false]
    -- Every byte of a longer encoding has its highest bit set.
    split
    · simp only [List.mem_cons, List.not_mem_nil, or_false, not_or]
      exact ⟨hlow _ (by omega), hlow _ (by omega)⟩
    · split
      · simp only [List.mem_cons, List.not_mem_nil, or_false, not_or]
        exact ⟨hlow _ (by omega), hlow _ (by omega), hlow _ (by omega)⟩
      · simp only [List.mem_cons, List.not_mem_nil, or_false, not_or]
        exact ⟨hlow _ (by omega), hlow _ (by omega), hlow _ (by omega), hlow _ (by omega)⟩

theorem mem_bytes {s : String} {b : UInt8} (hb : b.toNat < 128) :
    b ∈ bytes s ↔ ∃ c ∈ s.toList, b.toNat = c.toNat := by
  rw [bytes_eq, List.mem_flatMap]
  simp only [mem_utf8EncodeChar hb]

/-- The same for a character. -/
theorem mem_bytes_ofNat {s : String} {c : Char} (hc : c.toNat < 128) :
    UInt8.ofNat c.toNat ∈ bytes s ↔ c ∈ s.toList := by
  have hval : (UInt8.ofNat c.toNat).toNat = c.toNat := by
    rw [UInt8.toNat_ofNat']
    omega
  rw [mem_bytes (by omega), hval]
  constructor
  · rintro ⟨d, hd, heq⟩
    rwa [Char.toNat_inj.mp heq]
  · exact fun h => ⟨c, h, rfl⟩

end Utf8
