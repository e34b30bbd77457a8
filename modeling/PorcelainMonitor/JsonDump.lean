import PorcelainMonitor.Common
import PorcelainMonitor.Lib.Utf8

/-!
# What `dump()` accepts

`dump()` throws on a string that is not valid UTF-8.  Every text is, so JSON that is
made of texts and numbers can be dumped.
-/

namespace PorcelainMonitor

/-! ## Texts are valid UTF-8 -/

section Bytes

variable {a b c d : UInt8} {rest : List UInt8}

/-- A continuation byte within these bounds. -/
theorem isCont_iff {lo hi : UInt8} :
    isCont lo hi b = true ↔ lo.toNat ≤ b.toNat ∧ b.toNat ≤ hi.toNat := by
  rw [isCont, Bool.and_eq_true, decide_eq_true_eq, decide_eq_true_eq, UInt8.le_iff_toNat_le,
    UInt8.le_iff_toNat_le]

/-- A byte below 0x80 is a character. -/
theorem validUtf8_one (ha : a.toNat < 0x80) : validUtf8 (a :: rest) = validUtf8 rest := by
  have hlow : a < 0x80 := UInt8.lt_iff_toNat_lt.mpr ha
  rw [validUtf8.eq_def]
  exact if_pos hlow

theorem not_low (ha : 0x80 ≤ a.toNat) : ¬ a < 0x80 :=
  fun h => absurd (UInt8.lt_iff_toNat_lt.mp h) (Nat.not_lt.mpr ha)

/-- So is a leading byte from 0xC2 on with one more byte. -/
theorem validUtf8_two (ha : 0xC2 ≤ a.toNat ∧ a.toNat ≤ 0xDF)
    (hb : isCont 0x80 0xBF b = true) : validUtf8 (a :: b :: rest) = validUtf8 rest := by
  have htwo : (0xC2 ≤ a && a ≤ 0xDF) = true := isCont_iff.mpr ha
  rw [validUtf8.eq_def]
  simp only [if_neg (not_low (a := a) (by omega)), if_pos htwo, hb, Bool.true_and]

/-- Characters of three bytes, without those that fit in two and without surrogates. -/
theorem validUtf8_three (ha : 0xE0 ≤ a.toNat ∧ a.toNat ≤ 0xEF)
    (hb : isCont (if a = 0xE0 then 0xA0 else 0x80) (if a = 0xED then 0x9F else 0xBF) b = true)
    (hc : isCont 0x80 0xBF c = true) :
    validUtf8 (a :: b :: c :: rest) = validUtf8 rest := by
  have htwo : ¬ (0xC2 ≤ a && a ≤ 0xDF) = true := fun h => by
    have hle : a.toNat ≤ 0xDF := (isCont_iff.mp h).2
    omega
  have hthree : (0xE0 ≤ a && a ≤ 0xEF) = true := isCont_iff.mpr ha
  rw [validUtf8.eq_def]
  simp only [if_neg (not_low (a := a) (by omega)), if_neg htwo, if_pos hthree, hb, hc,
    Bool.true_and]

/-- Characters of four bytes, up to U+10FFFF. -/
theorem validUtf8_four (ha : 0xF0 ≤ a.toNat ∧ a.toNat ≤ 0xF4)
    (hb : isCont (if a = 0xF0 then 0x90 else 0x80) (if a = 0xF4 then 0x8F else 0xBF) b = true)
    (hc : isCont 0x80 0xBF c = true) (hd : isCont 0x80 0xBF d = true) :
    validUtf8 (a :: b :: c :: d :: rest) = validUtf8 rest := by
  have htwo : ¬ (0xC2 ≤ a && a ≤ 0xDF) = true := fun h => by
    have hle : a.toNat ≤ 0xDF := (isCont_iff.mp h).2
    omega
  have hthree : ¬ (0xE0 ≤ a && a ≤ 0xEF) = true := fun h => by
    have hle : a.toNat ≤ 0xEF := (isCont_iff.mp h).2
    omega
  have hfour : (0xF0 ≤ a && a ≤ 0xF4) = true := isCont_iff.mpr ha
  rw [validUtf8.eq_def]
  simp only [if_neg (not_low (a := a) (by omega)), if_neg htwo, if_neg hthree, hfour, hb, hc, hd,
    Bool.true_and]

end Bytes

theorem toNat_ofNat_byte {n : Nat} (hn : n < 256) : (UInt8.ofNat n).toNat = n := by
  rw [UInt8.toNat_ofNat', Nat.mod_eq_of_lt hn]

/-- A continuation byte carries six bits. -/
theorem isCont_six (v : Nat) : isCont 0x80 0xBF (UInt8.ofNat (v % 64 + 0x80)) = true := by
  rw [isCont_iff, toNat_ofNat_byte (by omega)]
  show 0x80 ≤ v % 64 + 0x80 ∧ v % 64 + 0x80 ≤ 0xBF
  omega

/-- The bounds of the second byte may depend on the first. -/
theorem isCont_six_of {lo lo' hi hi' e e' : UInt8} {u v : Nat} (hu : u < 256)
    (hlo : (if u = e.toNat then lo else lo').toNat ≤ v % 64 + 0x80)
    (hhi : v % 64 + 0x80 ≤ (if u = e'.toNat then hi else hi').toNat) :
    isCont (if UInt8.ofNat u = e then lo else lo') (if UInt8.ofNat u = e' then hi else hi')
      (UInt8.ofNat (v % 64 + 0x80)) = true := by
  have hbyte : ∀ f : UInt8, UInt8.ofNat u = f ↔ u = f.toNat := fun f => by
    rw [← UInt8.toNat_inj, toNat_ofNat_byte hu]
  rw [isCont_iff, toNat_ofNat_byte (by omega)]
  simp only [hbyte]
  exact ⟨hlo, hhi⟩

/-- The encoding of a character is accepted, and then the rest. -/
theorem validUtf8_encodeChar (c : Char) (rest : List UInt8) :
    validUtf8 (String.utf8EncodeChar c ++ rest) = validUtf8 rest := by
  have hvalid : c.val.toNat < 0xD800 ∨ 0xDFFF < c.val.toNat ∧ c.val.toNat < 0x110000 := c.valid
  rw [String.utf8EncodeChar]
  generalize c.val.toNat = v at hvalid
  split
  · exact validUtf8_one (by rw [toNat_ofNat_byte] <;> omega)
  · split
    · refine validUtf8_two ?_ (isCont_six v)
      rw [toNat_ofNat_byte (by omega)]
      omega
    · split
      · refine validUtf8_three ?_ ?_ (isCont_six v)
        · rw [toNat_ofNat_byte (by omega)]
          omega
        · refine isCont_six_of (by omega) ?_ ?_
          · show (if v / 4096 % 16 + 0xE0 = 0xE0 then (0xA0 : UInt8) else 0x80).toNat ≤ _
            split
            · show 0xA0 ≤ v / 64 % 64 + 0x80
              omega
            · show 0x80 ≤ v / 64 % 64 + 0x80
              omega
          · show _ ≤ (if v / 4096 % 16 + 0xE0 = 0xED then (0x9F : UInt8) else 0xBF).toNat
            split
            · show v / 64 % 64 + 0x80 ≤ 0x9F
              omega
            · show v / 64 % 64 + 0x80 ≤ 0xBF
              omega
      · refine validUtf8_four ?_ ?_ (isCont_six _) (isCont_six v)
        · rw [toNat_ofNat_byte (by omega)]
          omega
        · refine isCont_six_of (by omega) ?_ ?_
          · show (if v / 262144 % 8 + 0xF0 = 0xF0 then (0x90 : UInt8) else 0x80).toNat ≤ _
            split
            · show 0x90 ≤ v / 4096 % 64 + 0x80
              omega
            · show 0x80 ≤ v / 4096 % 64 + 0x80
              omega
          · show _ ≤ (if v / 262144 % 8 + 0xF0 = 0xF4 then (0x8F : UInt8) else 0xBF).toNat
            split
            · show v / 4096 % 64 + 0x80 ≤ 0x8F
              omega
            · show v / 4096 % 64 + 0x80 ≤ 0xBF
              omega

/-- The bytes of a text are valid. -/
theorem validUtf8_bytes (s : String) : validUtf8 (Utf8.bytes s) = true := by
  rw [Utf8.bytes_eq]
  induction s.toList with
  | nil => rfl
  | cons c cs ih => rw [List.flatMap_cons, validUtf8_encodeChar, ih]

/-! ## JSON that can be dumped -/

namespace Json

variable {R : Type}

@[simp] theorem validUtf8_text (s : String) : (text s : Json R).validUtf8 = true :=
  validUtf8_bytes s

@[simp] theorem validUtf8_bool (b : Bool) : (bool b : Json R).validUtf8 = true := rfl

@[simp] theorem validUtf8_int (n : Int) : (int n : Json R).validUtf8 = true := rfl

@[simp] theorem validUtf8_float (x : R) : (float x).validUtf8 = true := rfl

@[simp] theorem validUtf8_arr {items : List (Json R)} :
    (arr items).validUtf8 = true ↔ ∀ j ∈ items, j.validUtf8 = true := by
  show itemsValidUtf8 items = true ↔ _
  induction items with
  | nil => simp [itemsValidUtf8]
  | cons j items ih => rw [itemsValidUtf8, Bool.and_eq_true, ih, List.forall_mem_cons]

/-- The keys of an object are texts. -/
@[simp] theorem validUtf8_object {fields : List (String × Json R)} :
    (object fields).validUtf8 = true ↔ ∀ field ∈ fields, field.2.validUtf8 = true := by
  show fieldsValidUtf8 (fields.map _) = true ↔ _
  induction fields with
  | nil => simp [fieldsValidUtf8]
  | cons field fields ih =>
      have hkey : PorcelainMonitor.validUtf8 field.1.toUTF8.data.toList = true :=
        validUtf8_bytes field.1
      rw [List.map_cons, fieldsValidUtf8, hkey, Bool.true_and, Bool.and_eq_true, ih,
        List.forall_mem_cons]

@[simp] theorem validUtf8_numbers (xs : List R) : (numbers xs).validUtf8 = true := by
  rw [numbers, validUtf8_arr]
  intro j hj
  obtain ⟨x, -, rfl⟩ := List.mem_map.mp hj
  rfl

/-- `operator[]` of an object. -/
def subscript (j : Json R) (key : String) : Json R :=
  match j with
  | .obj fields => (fields.lookup key.toUTF8.data.toList).getD .null
  | _ => .null

/-- What is found in a valid object is valid. -/
theorem validUtf8_lookup {fields : List (List UInt8 × Json R)} {key : List UInt8} {j : Json R}
    (hfields : fieldsValidUtf8 fields = true) (h : fields.lookup key = some j) :
    j.validUtf8 = true := by
  induction fields with
  | nil => cases h
  | cons field fields ih =>
      obtain ⟨name, value⟩ := field
      rw [fieldsValidUtf8, Bool.and_eq_true, Bool.and_eq_true] at hfields
      rw [List.lookup_cons] at h
      split at h
      · cases h
        exact hfields.1.2
      · exact ih hfields.2 h

theorem validUtf8_subscript {j : Json R} {key : String} (h : j.validUtf8 = true) :
    (j.subscript key).validUtf8 = true := by
  cases j with
  | obj fields =>
      show ((fields.lookup key.toUTF8.data.toList).getD .null).validUtf8 = true
      cases hlookup : fields.lookup key.toUTF8.data.toList with
      | none => rfl
      | some value => exact validUtf8_lookup h hlookup
  | _ => rfl

end Json

end PorcelainMonitor
