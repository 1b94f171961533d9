import Mathlib.Data.UInt
import Mathlib.Tactic.IntervalCases

/-!
# Little-endian words

The 16, 24, 32 and 64-bit fields of a frame, least significant byte first, and the
round trips between a word and its bytes.
-/

namespace Isobus.Lib

/-- Byte `k` of a word: `(value >> 8k) & 0xFF`. -/
def byteOf (value : UInt32) (k : UInt32) : UInt8 :=
  ((value >>> (8 * k)) &&& 0xFF).toUInt8

def decode16 (b₀ b₁ : UInt8) : UInt16 :=
  b₀.toUInt16 ||| (b₁.toUInt16 <<< 8)

def decode24 (b₀ b₁ b₂ : UInt8) : UInt32 :=
  b₀.toUInt32 ||| (b₁.toUInt32 <<< 8) ||| (b₂.toUInt32 <<< 16)

def decode32 (b₀ b₁ b₂ b₃ : UInt8) : UInt32 :=
  b₀.toUInt32 ||| (b₁.toUInt32 <<< 8) ||| (b₂.toUInt32 <<< 16) ||| (b₃.toUInt32 <<< 24)

theorem byteOf_eq (value k : UInt32) : byteOf value k = (value >>> (8 * k)).toUInt8 := by
  rw [byteOf, ← UInt8.toNat_inj, UInt32.toNat_toUInt8, UInt32.toNat_toUInt8, UInt32.toNat_and]
  change ((value >>> (8 * k)).toNat &&& (2 ^ 8 - 1)) % 2 ^ 8 = _
  rw [Nat.and_two_pow_sub_one_eq_mod, Nat.mod_mod]

@[simp] theorem decode16_byteOf (value : UInt16) :
    decode16 (byteOf value.toUInt32 0) (byteOf value.toUInt32 1) = value := by
  rw [← UInt16.toBitVec_inj]
  apply BitVec.eq_of_getLsbD_eq
  intro i hi
  simp only [decode16, byteOf_eq]
  simp [-UInt32.toUInt16_toUInt8, -UInt16.toUInt16_toUInt8]
  interval_cases i <;> simp

theorem decode24_byteOf_and (value : UInt32) :
    decode24 (byteOf value 0) (byteOf value 1) (byteOf value 2) = value &&& 0xFFFFFF := by
  rw [← UInt32.toBitVec_inj]
  apply BitVec.eq_of_getLsbD_eq
  intro i hi
  simp only [decode24, byteOf_eq]
  simp [-UInt32.toUInt32_toUInt8]
  interval_cases i <;> simp

theorem decode24_byteOf (value : UInt32) (h : value.toNat < 2 ^ 24) :
    decode24 (byteOf value 0) (byteOf value 1) (byteOf value 2) = value := by
  rw [decode24_byteOf_and, ← UInt32.toNat_inj, UInt32.toNat_and]
  change value.toNat &&& (2 ^ 24 - 1) = value.toNat
  rw [Nat.and_two_pow_sub_one_eq_mod, Nat.mod_eq_of_lt h]

@[simp] theorem decode32_byteOf (value : UInt32) :
    decode32 (byteOf value 0) (byteOf value 1) (byteOf value 2) (byteOf value 3) = value := by
  rw [← UInt32.toBitVec_inj]
  apply BitVec.eq_of_getLsbD_eq
  intro i hi
  simp only [decode32, byteOf_eq]
  simp [-UInt32.toUInt32_toUInt8]
  interval_cases i <;> simp

/-- Byte `k` of a word of 64 bits. -/
def byteOf64 (value : UInt64) (k : UInt64) : UInt8 :=
  ((value >>> (8 * k)) &&& 0xFF).toUInt8

def decode64 (b₀ b₁ b₂ b₃ b₄ b₅ b₆ b₇ : UInt8) : UInt64 :=
  b₀.toUInt64 ||| (b₁.toUInt64 <<< 8) ||| (b₂.toUInt64 <<< 16) ||| (b₃.toUInt64 <<< 24) |||
    (b₄.toUInt64 <<< 32) ||| (b₅.toUInt64 <<< 40) ||| (b₆.toUInt64 <<< 48) |||
    (b₇.toUInt64 <<< 56)

theorem byteOf64_eq (value k : UInt64) : byteOf64 value k = (value >>> (8 * k)).toUInt8 := by
  rw [byteOf64, ← UInt8.toNat_inj, UInt64.toNat_toUInt8, UInt64.toNat_toUInt8, UInt64.toNat_and]
  change ((value >>> (8 * k)).toNat &&& (2 ^ 8 - 1)) % 2 ^ 8 = _
  rw [Nat.and_two_pow_sub_one_eq_mod, Nat.mod_mod]

@[simp] theorem decode64_byteOf64 (value : UInt64) :
    decode64 (byteOf64 value 0) (byteOf64 value 1) (byteOf64 value 2) (byteOf64 value 3)
      (byteOf64 value 4) (byteOf64 value 5) (byteOf64 value 6) (byteOf64 value 7) = value := by
  rw [← UInt64.toBitVec_inj]
  apply BitVec.eq_of_getLsbD_eq
  intro i hi
  simp only [decode64, byteOf64_eq]
  simp [-UInt64.toUInt64_toUInt8]
  interval_cases i <;> simp

theorem decode24_toNat_lt (b₀ b₁ b₂ : UInt8) : (decode24 b₀ b₁ b₂).toNat < 2 ^ 24 := by
  have h₀ := b₀.toNat_lt
  have h₁ := b₁.toNat_lt
  have h₂ := b₂.toNat_lt
  simp only [decode24, UInt32.toNat_or]
  apply Nat.or_lt_two_pow
  · apply Nat.or_lt_two_pow
    · simp only [UInt8.toNat_toUInt32]
      omega
    · rw [UInt32.toNat_shiftLeft]
      change b₁.toNat <<< 8 % 2 ^ 32 < 2 ^ 24
      rw [Nat.shiftLeft_eq]
      omega
  · rw [UInt32.toNat_shiftLeft]
    change b₂.toNat <<< 16 % 2 ^ 32 < 2 ^ 24
    rw [Nat.shiftLeft_eq]
    omega

end Isobus.Lib
