import Mathlib.Algebra.Group.Nat.Defs
import Mathlib.Data.Nat.Digits.Defs
import RegisterLink.Bytes.Word

/-!
# Words there and back

Writing and reading a word are inverse in both directions on strings of the given width. A signed
number is the word that its two's complement tells, by one rule for all numbers.
-/
namespace RegisterLink.Word

/-- Bits above the width are dropped, all others come back. -/
theorem decode_encode (width value : Nat) :
    decode (encode width value) = value % 256 ^ width := by
  induction width generalizing value with
  | zero => simp [encode, decode, Nat.mod_one]
  | succ width ih =>
    have hpow : 256 ^ (width + 1) = 256 * 256 ^ width := by rw [Nat.pow_succ, Nat.mul_comm]
    have hbyte : (UInt8.ofNat value).toNat = value % 256 := UInt8.toNat_ofNat'
    rw [encode, decode, ih, hbyte, hpow, Nat.mod_mul]

theorem decode_encode_of_lt {width value : Nat} (h : value < 256 ^ width) :
    decode (encode width value) = value := by
  rw [decode_encode, Nat.mod_eq_of_lt h]

theorem decode_lt (bytes : List UInt8) : decode bytes < 256 ^ bytes.length := by
  induction bytes with
  | nil => simp [decode]
  | cons byte rest ih =>
    have hb := byte.toNat_lt
    rw [decode, List.length_cons, Nat.pow_succ]
    omega

/-- Writing back what was read gives the same bytes. -/
theorem encode_decode (bytes : List UInt8) : encode bytes.length (decode bytes) = bytes := by
  induction bytes with
  | nil => rfl
  | cons byte rest ih =>
    have hb := byte.toNat_lt
    have hdiv : (byte.toNat + 256 * decode rest) / 256 = decode rest := by omega
    have hlow : UInt8.ofNat (byte.toNat + 256 * decode rest) = byte := by
      apply UInt8.toNat_inj.mp
      rw [UInt8.toNat_ofNat']
      omega
    rw [List.length_cons, decode, encode, hdiv, ih, hlow]

theorem encode_decode_of_length {width : Nat} {bytes : List UInt8} (h : bytes.length = width) :
    encode width (decode bytes) = bytes := by
  rw [← h, encode_decode]

theorem decode_take_lt (width : Nat) (bytes : List UInt8) :
    decode (bytes.take width) < 256 ^ width :=
  Nat.lt_of_lt_of_le (decode_lt _)
    (Nat.pow_le_pow_right (by decide) (List.length_take_le width bytes))

/-- A word is the number with these digits to the base 256, lowest first. -/
theorem decode_eq_ofDigits (bytes : List UInt8) :
    decode bytes = Nat.ofDigits 256 (bytes.map UInt8.toNat) := by
  induction bytes with
  | nil => rfl
  | cons byte rest ih => rw [List.map_cons, Nat.ofDigits_cons, decode, ih]

theorem decodeInt32_encodeInt32 (value : Int32) : decodeInt32 (encodeInt32 value) = value := by
  have h := value.toUInt32.toNat_lt
  rw [decodeInt32, encodeInt32, decode_encode_of_lt (by simpa using h), UInt32.ofNat_toNat]
  simp

theorem encodeInt32_decodeInt32 {bytes : List UInt8} (h : bytes.length = 4) :
    encodeInt32 (decodeInt32 bytes) = bytes := by
  have hlt : decode bytes < 2 ^ 32 := by
    have hword := decode_lt bytes
    rw [h] at hword
    exact hword
  rw [encodeInt32, decodeInt32, UInt32.toUInt32_toInt32, UInt32.toNat_ofNat_of_lt' hlt, ← h,
    encode_decode]

/-! ## Two's complement -/

/-- The four bytes are the digits to the base 256, lowest first, of the number modulo `2 ^ 32`. -/
structure TwosComplement (value : Int32) (bytes : List UInt8) : Prop where
  size : bytes.length = 4
  digits : ((Nat.ofDigits 256 (bytes.map UInt8.toNat) : Nat) : Int) = value.toInt % 2 ^ 32

theorem natCast_toUInt32 (value : Int32) :
    (value.toUInt32.toNat : Int) = value.toInt % 2 ^ 32 := by
  have hlt : (value.toUInt32.toNat : Int) < 2 ^ 32 := by
    exact_mod_cast value.toUInt32.toNat_lt
  have hsigned : value.toInt = (value.toUInt32.toNat : Int).bmod (2 ^ 32) :=
    BitVec.toInt_eq_toNat_bmod value.toBitVec
  have hsame : (value.toUInt32.toNat : Int).bmod (2 ^ 32) % (2 ^ 32 : Nat) =
      value.toUInt32.toNat % (2 ^ 32 : Nat) := Int.bmod_emod
  rw [hsigned]
  exact (hsame.trans (Int.emod_eq_of_lt (Int.natCast_nonneg _) hlt)).symm

/-- The bytes of a signed number are fixed by its two's complement, whatever its sign. -/
theorem encodeInt32_eq_iff {value : Int32} {bytes : List UInt8} :
    encodeInt32 value = bytes ↔ TwosComplement value bytes := by
  constructor
  · rintro rfl
    have hlt : value.toUInt32.toNat < 256 ^ 4 := value.toUInt32.toNat_lt
    refine ⟨length_encodeInt32 value, ?_⟩
    rw [← decode_eq_ofDigits, encodeInt32, decode_encode_of_lt hlt, natCast_toUInt32]
  · rintro ⟨hsize, hdigits⟩
    rw [← decode_eq_ofDigits, ← natCast_toUInt32, Int.natCast_inj] at hdigits
    rw [encodeInt32, ← hdigits, encode_decode_of_length hsize]

end RegisterLink.Word
