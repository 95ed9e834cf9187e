import Mathlib.Data.Vector.Defs
import Mathlib.Data.List.Basic
import Mathlib.Tactic.Ring

/-!
# Fixed-size byte arrays

The byte-level vocabulary of the instruction: `[u8; N]` arrays, the `array_ref!` macro that
reads a fixed-size window of a slice (and panics when the slice is too short),
`copy_from_slice` into a zeroed array, and the little-endian encodings of `u16` and `u64`.
A panic is `none` wherever a function can reach one.
-/

namespace TransferWithFee

/-- A Rust `[u8; n]` array. -/
abbrev Bytes (n : ℕ) := Mathlib.Vector UInt8 n

/-! ## Machine words -/

theorem uint8_toNat_ofNat (n : ℕ) : (UInt8.ofNat n).toNat = n % 256 := by
  show (BitVec.ofNat 8 n).toNat = _
  simp

theorem uint8_ofNat_toNat (byte : UInt8) : UInt8.ofNat byte.toNat = byte :=
  UInt8.toNat.inj (by rw [uint8_toNat_ofNat]; exact Nat.mod_eq_of_lt byte.toNat_lt_size)

theorem uint16_toNat_ofNat (n : ℕ) : (UInt16.ofNat n).toNat = n % 2 ^ 16 := by
  show (BitVec.ofNat 16 n).toNat = _
  simp

theorem uint16_ofNat_toNat (value : UInt16) : UInt16.ofNat value.toNat = value :=
  UInt16.toNat.inj (by rw [uint16_toNat_ofNat]; exact Nat.mod_eq_of_lt value.toNat_lt_size)

theorem uint32_toNat_ofNat (n : ℕ) : (UInt32.ofNat n).toNat = n % 2 ^ 32 := by
  show (BitVec.ofNat 32 n).toNat = _
  simp

theorem uint64_toNat_ofNat (n : ℕ) : (UInt64.ofNat n).toNat = n % 2 ^ 64 := by
  show (BitVec.ofNat 64 n).toNat = _
  simp

theorem uint64_ofNat_toNat (value : UInt64) : UInt64.ofNat value.toNat = value :=
  UInt64.toNat.inj (by rw [uint64_toNat_ofNat]; exact Nat.mod_eq_of_lt value.toNat_lt_size)

theorem uint64_toNat_add (a b : UInt64) : (a + b).toNat = (a.toNat + b.toNat) % 2 ^ 64 := by
  show (a.toBitVec + b.toBitVec).toNat = _
  simp [BitVec.toNat_add]
  rfl

theorem uint64_toNat_mul (a b : UInt64) : (a * b).toNat = a.toNat * b.toNat % 2 ^ 64 := by
  show (a.toBitVec * b.toBitVec).toNat = _
  simp [BitVec.toNat_mul]
  rfl

/-- `u64::checked_sub`: `None` when the subtraction would underflow. -/
def checkedSub (a b : UInt64) : Option UInt64 := if b ≤ a then some (a - b) else none

theorem checkedSub_toNat {a b : UInt64} (noUnderflow : b ≤ a) :
    checkedSub a b = some (a - b) ∧ (a - b).toNat = a.toNat - b.toNat :=
  ⟨if_pos noUnderflow, UInt64.toNat_sub_of_le a b noUnderflow⟩

/-! ## Little-endian integers -/

/-- The `width` little-endian bytes of `n`, low byte first; higher bytes are dropped. -/
def leBytes : ℕ → ℕ → List UInt8
  | 0, _ => []
  | width + 1, n => UInt8.ofNat (n % 256) :: leBytes width (n / 256)

/-- The natural number whose little-endian bytes are `bytes`. -/
def ofLeBytes : List UInt8 → ℕ
  | [] => 0
  | byte :: rest => byte.toNat + 256 * ofLeBytes rest

@[simp] theorem length_leBytes (width n : ℕ) : (leBytes width n).length = width := by
  induction width generalizing n with
  | zero => rfl
  | succ width inductionHypothesis => simp [leBytes, inductionHypothesis]

theorem ofLeBytes_leBytes (width n : ℕ) : ofLeBytes (leBytes width n) = n % 256 ^ width := by
  induction width generalizing n with
  | zero => simp [leBytes, ofLeBytes, Nat.mod_one]
  | succ width inductionHypothesis =>
      rw [leBytes, ofLeBytes, inductionHypothesis, uint8_toNat_ofNat, Nat.mod_mod,
        pow_succ', Nat.mod_mul]

theorem ofLeBytes_lt (bytes : List UInt8) : ofLeBytes bytes < 256 ^ bytes.length := by
  induction bytes with
  | nil => simp [ofLeBytes]
  | cons byte rest inductionHypothesis =>
      have byteBound : byte.toNat < 256 := byte.toNat_lt_size
      rw [ofLeBytes, List.length_cons, pow_succ]
      omega

theorem leBytes_ofLeBytes (bytes : List UInt8) :
    leBytes bytes.length (ofLeBytes bytes) = bytes := by
  induction bytes with
  | nil => rfl
  | cons byte rest inductionHypothesis =>
      have byteBound : byte.toNat < 256 := byte.toNat_lt_size
      have lowByte : (byte.toNat + 256 * ofLeBytes rest) % 256 = byte.toNat := by omega
      have highBytes : (byte.toNat + 256 * ofLeBytes rest) / 256 = ofLeBytes rest := by omega
      rw [List.length_cons, leBytes, ofLeBytes, lowByte, highBytes, uint8_ofNat_toNat,
        inductionHypothesis]

/-- `u16::to_le_bytes`. -/
def u16ToLeBytes (value : UInt16) : List UInt8 := leBytes 2 value.toNat

/-- `u64::to_le_bytes`. -/
def u64ToLeBytes (value : UInt64) : List UInt8 := leBytes 8 value.toNat

/-- `u16::from_le_bytes`, on the two bytes `array_refs!` hands it. -/
def u16FromLeBytes (bytes : List UInt8) : UInt16 := UInt16.ofNat (ofLeBytes bytes)

/-- `u64::from_le_bytes`, on the eight bytes `array_refs!` hands it. -/
def u64FromLeBytes (bytes : List UInt8) : UInt64 := UInt64.ofNat (ofLeBytes bytes)

@[simp] theorem length_u16ToLeBytes (value : UInt16) : (u16ToLeBytes value).length = 2 :=
  length_leBytes 2 _

@[simp] theorem length_u64ToLeBytes (value : UInt64) : (u64ToLeBytes value).length = 8 :=
  length_leBytes 8 _

theorem u16FromLeBytes_u16ToLeBytes (value : UInt16) :
    u16FromLeBytes (u16ToLeBytes value) = value := by
  rw [u16FromLeBytes, u16ToLeBytes, ofLeBytes_leBytes,
    Nat.mod_eq_of_lt (value.toNat_lt_size.trans_eq (by rfl)), uint16_ofNat_toNat]

theorem u64FromLeBytes_u64ToLeBytes (value : UInt64) :
    u64FromLeBytes (u64ToLeBytes value) = value := by
  rw [u64FromLeBytes, u64ToLeBytes, ofLeBytes_leBytes,
    Nat.mod_eq_of_lt (value.toNat_lt_size.trans_eq (by rfl)), uint64_ofNat_toNat]

theorem u16ToLeBytes_u16FromLeBytes {bytes : List UInt8} (twoBytes : bytes.length = 2) :
    u16ToLeBytes (u16FromLeBytes bytes) = bytes := by
  have bound := ofLeBytes_lt bytes
  rw [twoBytes] at bound
  rw [u16ToLeBytes, u16FromLeBytes, uint16_toNat_ofNat, Nat.mod_eq_of_lt (by omega), ← twoBytes,
    leBytes_ofLeBytes]

theorem u64ToLeBytes_u64FromLeBytes {bytes : List UInt8} (eightBytes : bytes.length = 8) :
    u64ToLeBytes (u64FromLeBytes bytes) = bytes := by
  have bound := ofLeBytes_lt bytes
  rw [eightBytes] at bound
  rw [u64ToLeBytes, u64FromLeBytes, uint64_toNat_ofNat, Nat.mod_eq_of_lt (by omega),
    ← eightBytes, leBytes_ofLeBytes]

/-! ## Slices -/

/-- `&bytes[start..start + len]` inside an array the range lies in. -/
def slice (bytes : List UInt8) (start len : ℕ) : List UInt8 := (bytes.drop start).take len

/-- `array_ref![bytes, offset, len]`: the window of `len` bytes at `offset`; the macro indexes
`bytes[offset..offset + len]`, which panics when the slice is shorter. -/
def arrayRef (bytes : List UInt8) (offset len : ℕ) : Option (List UInt8) :=
  if offset + len ≤ bytes.length then some (slice bytes offset len) else none

/-- `bytes[start..start + src.len()].copy_from_slice(src)`, at call sites where the range is in
bounds. -/
def copyFromSlice (bytes : List UInt8) (start : ℕ) (src : List UInt8) : List UInt8 :=
  bytes.take start ++ src ++ bytes.drop (start + src.length)

/-- A zeroed array `[0u8; n]`. -/
def zeroes (n : ℕ) : List UInt8 := List.replicate n 0

/-- Filling a zeroed tail from its start appends the source and keeps the rest zeroed. -/
theorem copyFromSlice_zeroes (written src : List UInt8) (n : ℕ) :
    copyFromSlice (written ++ zeroes n) written.length src =
      (written ++ src) ++ zeroes (n - src.length) := by
  simp [copyFromSlice, zeroes, List.drop_append_eq_append_drop, List.drop_replicate]

theorem slice_append_left {front back : List UInt8} {len : ℕ} (frontLength : front.length = len) :
    slice (front ++ back) 0 len = front := by
  simp [slice, ← frontLength]

theorem slice_of_length {bytes : List UInt8} {len : ℕ} (exact : bytes.length = len) :
    slice bytes 0 len = bytes := by
  rw [slice, List.drop_zero, ← exact, List.take_length]

theorem slice_append_of_length_le {front back : List UInt8} {start len : ℕ}
    (frontBefore : front.length ≤ start) :
    slice (front ++ back) start len = slice back (start - front.length) len := by
  rw [slice, slice, List.drop_append_eq_append_drop, List.drop_eq_nil_of_le frontBefore,
    List.nil_append]

/-- A window and what follows it make up the array from the window's start on. -/
theorem slice_append_drop (bytes : List UInt8) (start len : ℕ) :
    slice bytes start len ++ bytes.drop (start + len) = bytes.drop start := by
  rw [slice, ← List.drop_drop, List.take_append_drop]

theorem arrayRef_of_length {bytes : List UInt8} {len : ℕ} (exact : bytes.length = len) :
    arrayRef bytes 0 len = some bytes := by
  rw [arrayRef, if_pos (by omega), slice_of_length exact]

end TransferWithFee
