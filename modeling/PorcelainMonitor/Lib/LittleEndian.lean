import Mathlib.Data.Nat.Bitwise

/-!
# Little-endian words in byte lists

`wordBytes w n` are the `w` low bytes of the number `n`, lowest first, and
`ofBytes` adds bytes up at their weights.  `wordAt data off w` is the number
that the `w` bytes from offset `off` on stand for.

Code that assembles a word ORs shifted bytes together.  The `or_byte`
lemmas, one for each word size, say that each OR reads one byte more.
-/

namespace LittleEndian

/-- The `w` low bytes of a number, lowest first. -/
def wordBytes : Nat → Nat → List UInt8
  | 0, _ => []
  | w + 1, n => UInt8.ofNat n :: wordBytes w (n / 256)

/-- The number with the given bytes. -/
def ofBytes : List UInt8 → Nat
  | [] => 0
  | b :: bs => b.toNat + 256 * ofBytes bs

/-- The number that `w` bytes from an offset on stand for. -/
def wordAt (data : List UInt8) (off w : Nat) : Nat := ofBytes ((data.drop off).take w)

@[simp] theorem wordBytes_zero (n : Nat) : wordBytes 0 n = [] := rfl

@[simp] theorem wordBytes_succ (w n : Nat) :
    wordBytes (w + 1) n = UInt8.ofNat n :: wordBytes w (n / 256) := rfl

@[simp] theorem ofBytes_nil : ofBytes [] = 0 := rfl

@[simp] theorem ofBytes_cons (b : UInt8) (bs : List UInt8) :
    ofBytes (b :: bs) = b.toNat + 256 * ofBytes bs := rfl

@[simp] theorem length_bytes (w n : Nat) : (wordBytes w n).length = w := by
  induction w generalizing n with
  | zero => rfl
  | succ w ih => simp [ih]

/-- Byte `i` of a word is the number shifted down by `i` bytes. -/
theorem wordBytes_eq_map (w n : Nat) :
    wordBytes w n = (List.range w).map fun i => UInt8.ofNat (n / 256 ^ i) := by
  induction w generalizing n with
  | zero => rfl
  | succ w ih =>
      rw [wordBytes_succ, ih, List.range_succ_eq_map, List.map_cons, List.map_map]
      simp [Function.comp_def, Nat.pow_succ', Nat.div_div_eq_div_mul]

theorem ofBytes_lt (bs : List UInt8) : ofBytes bs < 256 ^ bs.length := by
  induction bs with
  | nil => simp
  | cons b bs ih =>
      have hb := b.toNat_lt
      simp only [ofBytes_cons, List.length_cons, Nat.pow_succ]
      omega

theorem ofBytes_wordBytes (w n : Nat) : ofBytes (wordBytes w n) = n % 256 ^ w := by
  induction w generalizing n with
  | zero => rw [wordBytes_zero, ofBytes_nil, Nat.pow_zero, Nat.mod_one]
  | succ w ih =>
      rw [wordBytes_succ, ofBytes_cons, ih, UInt8.toNat_ofNat',
        show 256 ^ (w + 1) = 256 * 256 ^ w from Nat.pow_succ']
      exact Nat.mod_mul.symm

/-! ## Reading inside a list -/

/-- A word is read where its bytes stand. -/
theorem wordAt_append (before after : List UInt8) (w n : Nat) :
    wordAt (before ++ (wordBytes w n ++ after)) before.length w = n % 256 ^ w := by
  rw [wordAt, List.drop_left, List.take_append_of_le_length (by rw [length_bytes]),
    List.take_of_length_le (by rw [length_bytes]), ofBytes_wordBytes]

/-- A prefix that reaches behind a word has the same word. -/
theorem wordAt_take {data : List UInt8} {off w k : Nat} (h : off + w ≤ k) :
    wordAt (data.take k) off w = wordAt data off w := by
  rw [wordAt, List.drop_take, List.take_take, Nat.min_eq_left (by omega), wordAt]

theorem wordAt_lt (data : List UInt8) (off w : Nat) : wordAt data off w < 256 ^ w :=
  Nat.lt_of_lt_of_le (ofBytes_lt _)
    (Nat.pow_le_pow_right (by decide) (List.length_take_le ..))

/-- The first byte of a word has weight one. -/
theorem wordAt_succ {data : List UInt8} {off : Nat} (w : Nat) (h : off < data.length) :
    wordAt data off (w + 1) = data[off].toNat + 256 * wordAt data (off + 1) w := by
  rw [wordAt, List.drop_eq_getElem_cons h, List.take_succ_cons, ofBytes_cons, wordAt]

/-- The last byte of a word has the highest weight. -/
theorem wordAt_succ_last :
    ∀ {data : List UInt8} {off : Nat} (w : Nat) (h : off + w < data.length),
      wordAt data off (w + 1) = wordAt data off w + 256 ^ w * data[off + w].toNat
  | data, off, 0, h => by
      have hoff : off < data.length := h
      rw [wordAt_succ 0 hoff]
      simp [wordAt]
  | data, off, w + 1, h => by
      have hoff : off < data.length := by omega
      have hlast : off + 1 + w < data.length := by omega
      rw [wordAt_succ (w + 1) hoff, wordAt_succ_last w hlast, wordAt_succ w hoff, Nat.pow_succ']
      simp only [show off + 1 + w = off + (w + 1) by omega]
      simp only [Nat.mul_add, Nat.mul_assoc, Nat.add_assoc]

/-- A loop that pushes one byte a round appends the bytes of its rounds. -/
theorem foldl_push {α : Type*} (g : α → UInt8) (is : List α) (buf : List UInt8) :
    is.foldl (fun buf i => buf ++ [g i]) buf = buf ++ is.map g := by
  induction is generalizing buf with
  | nil => simp
  | cons i is ih => simp [ih]

/-! ## Taking a word apart

Byte `i` of a word is cut out by a shift and a mask. -/

theorem shiftRight_and_byte (n i : Nat) :
    UInt8.ofNat (n >>> (i * 8) &&& 255) = UInt8.ofNat (n / 256 ^ i) := by
  apply UInt8.toNat.inj
  rw [UInt8.toNat_ofNat', UInt8.toNat_ofNat', show (255 : Nat) = 2 ^ 8 - 1 by decide,
    Nat.and_two_pow_sub_one_eq_mod, Nat.mod_mod, Nat.shiftRight_eq_div_pow, Nat.mul_comm,
    Nat.pow_mul]

theorem byte_of_shiftRight16 (v : UInt16) {i : Nat} (h : i < 2) :
    (v >>> UInt16.ofNat (i * 8) &&& 0xFF).toUInt8 = UInt8.ofNat (v.toNat / 256 ^ i) := by
  rw [← shiftRight_and_byte]
  apply UInt8.toNat.inj
  simp [Nat.mod_eq_of_lt (show i * 8 < 65536 by omega), Nat.mod_eq_of_lt (show i * 8 < 16 by omega)]

theorem byte_of_shiftRight32 (v : UInt32) {i : Nat} (h : i < 4) :
    (v >>> UInt32.ofNat (i * 8) &&& 0xFF).toUInt8 = UInt8.ofNat (v.toNat / 256 ^ i) := by
  rw [← shiftRight_and_byte]
  apply UInt8.toNat.inj
  simp [Nat.mod_eq_of_lt (show i * 8 < 4294967296 by omega),
    Nat.mod_eq_of_lt (show i * 8 < 32 by omega)]

theorem byte_of_shiftRight64 (v : UInt64) {i : Nat} (h : i < 8) :
    (v >>> UInt64.ofNat (i * 8) &&& 0xFF).toUInt8 = UInt8.ofNat (v.toNat / 256 ^ i) := by
  rw [← shiftRight_and_byte]
  apply UInt8.toNat.inj
  simp [Nat.mod_eq_of_lt (show i * 8 < 18446744073709551616 by omega),
    Nat.mod_eq_of_lt (show i * 8 < 64 by omega)]

/-! ## Assembling by OR -/

/-- A number below `2 ^ k` leaves the bits from `k` on free for an OR. -/
theorem or_shiftLeft_eq_add {a k : Nat} (h : a < 2 ^ k) (b : Nat) :
    a ||| b <<< k = a + b * 2 ^ k := by
  rw [Nat.or_comm, ← Nat.shiftLeft_add_eq_or_of_lt h, Nat.shiftLeft_eq, Nat.add_comm]

/-- The OR on numbers: the bytes read so far lie below the next one. -/
theorem wordAt_or_byte {data : List UInt8} {off i : Nat} (hb : off + i < data.length) :
    wordAt data off i ||| data[off + i].toNat <<< (i * 8) = wordAt data off (i + 1) := by
  have hlt : wordAt data off i < 2 ^ (i * 8) := by
    rw [Nat.mul_comm, Nat.pow_mul]
    exact wordAt_lt data off i
  rw [or_shiftLeft_eq_add hlt, wordAt_succ_last i hb, Nat.mul_comm i, Nat.pow_mul, Nat.mul_comm]

/-- A byte shifted to bit `k` stays inside `w` bits. -/
theorem byte_shiftLeft_lt (b : UInt8) {k w : Nat} (h : k + 8 ≤ w) : b.toNat <<< k < 2 ^ w := by
  rw [Nat.shiftLeft_eq]
  calc b.toNat * 2 ^ k < 2 ^ 8 * 2 ^ k :=
        Nat.mul_lt_mul_of_pos_right b.toNat_lt (Nat.two_pow_pos k)
    _ = 2 ^ (k + 8) := by rw [← Nat.pow_add, Nat.add_comm]
    _ ≤ 2 ^ w := Nat.pow_le_pow_right (by decide) h

/-- OR-ing the next byte into a word read so far reads one byte more. -/
theorem or_byte16 {data : List UInt8} {off i : Nat} {value : UInt16}
    (hvalue : value.toNat = wordAt data off i) (hi : i < 2) (hb : off + i < data.length) :
    (value ||| data[off + i].toUInt16 <<< UInt16.ofNat (i * 8)).toNat =
      wordAt data off (i + 1) := by
  have hlt := byte_shiftLeft_lt data[off + i] (show i * 8 + 8 ≤ 16 by omega)
  simp only [UInt16.toNat_or, UInt16.toNat_shiftLeft, UInt8.toNat_toUInt16, UInt16.toNat_ofNat']
  rw [Nat.mod_eq_of_lt (show i * 8 < 2 ^ 16 by omega), Nat.mod_eq_of_lt (show i * 8 < 16 by omega),
    Nat.mod_eq_of_lt hlt, hvalue, wordAt_or_byte hb]

theorem or_byte32 {data : List UInt8} {off i : Nat} {value : UInt32}
    (hvalue : value.toNat = wordAt data off i) (hi : i < 4) (hb : off + i < data.length) :
    (value ||| data[off + i].toUInt32 <<< UInt32.ofNat (i * 8)).toNat =
      wordAt data off (i + 1) := by
  have hlt := byte_shiftLeft_lt data[off + i] (show i * 8 + 8 ≤ 32 by omega)
  simp only [UInt32.toNat_or, UInt32.toNat_shiftLeft, UInt8.toNat_toUInt32, UInt32.toNat_ofNat']
  rw [Nat.mod_eq_of_lt (show i * 8 < 2 ^ 32 by omega), Nat.mod_eq_of_lt (show i * 8 < 32 by omega),
    Nat.mod_eq_of_lt hlt, hvalue, wordAt_or_byte hb]

theorem or_byte64 {data : List UInt8} {off i : Nat} {value : UInt64}
    (hvalue : value.toNat = wordAt data off i) (hi : i < 8) (hb : off + i < data.length) :
    (value ||| data[off + i].toUInt64 <<< UInt64.ofNat (i * 8)).toNat =
      wordAt data off (i + 1) := by
  have hlt := byte_shiftLeft_lt data[off + i] (show i * 8 + 8 ≤ 64 by omega)
  simp only [UInt64.toNat_or, UInt64.toNat_shiftLeft, UInt8.toNat_toUInt64, UInt64.toNat_ofNat']
  rw [Nat.mod_eq_of_lt (show i * 8 < 2 ^ 64 by omega), Nat.mod_eq_of_lt (show i * 8 < 64 by omega),
    Nat.mod_eq_of_lt hlt, hvalue, wordAt_or_byte hb]

end LittleEndian
