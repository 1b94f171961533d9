import Isobus.Can.Message
import Mathlib.Tactic

/-!
# Integers in the data of a message

The accessors of `can_message.cpp` that put an integer together from bytes, in either order of the
bytes, unsigned and signed.
-/

namespace Isobus.Can

open Isobus.Lib

inductive ByteFormat
  | littleEndian
  | bigEndian
  deriving DecidableEq

abbrev MessageBytes := List UInt8

namespace MessageBytes

variable (data : MessageBytes)

def getUint8At (index : Nat) : Option UInt8 := data[index]?

def getInt8At (index : Nat) : Option Int8 := do
  let b ← data[index]?
  return b.toInt8

def getUint16At (index : Nat) (format : ByteFormat) : Option UInt16 := do
  let b₀ ← data[index]?
  let b₁ ← data[index + 1]?
  match format with
  | .littleEndian => return b₀.toUInt16 ||| (b₁.toUInt16 <<< 8)
  | .bigEndian => return (b₀.toUInt16 <<< 8) ||| b₁.toUInt16

def getInt16At (index : Nat) (format : ByteFormat) : Option Int16 := do
  let b₀ ← data[index]?
  let b₁ ← data[index + 1]?
  match format with
  | .littleEndian => return b₀.toUInt16.toInt16 ||| (b₁.toUInt16.toInt16 <<< 8)
  | .bigEndian => return (b₀.toUInt16.toInt16 <<< 8) ||| b₁.toUInt16.toInt16

def getUint24At (index : Nat) (format : ByteFormat) : Option UInt32 := do
  let b₀ ← data[index]?
  let b₁ ← data[index + 1]?
  let b₂ ← data[index + 2]?
  match format with
  | .littleEndian => return b₀.toUInt32 ||| (b₁.toUInt32 <<< 8) ||| (b₂.toUInt32 <<< 16)
  | .bigEndian => return (b₀.toUInt32 <<< 16) ||| (b₁.toUInt32 <<< 8) ||| b₂.toUInt32

def getInt24At (index : Nat) (format : ByteFormat) : Option Int32 := do
  let b₀ ← data[index]?
  let b₁ ← data[index + 1]?
  let b₂ ← data[index + 2]?
  match format with
  | .littleEndian =>
    return b₀.toUInt32.toInt32 ||| (b₁.toUInt32.toInt32 <<< 8) ||| (b₂.toUInt32.toInt32 <<< 16)
  | .bigEndian =>
    return (b₀.toUInt32.toInt32 <<< 16) ||| (b₁.toUInt32.toInt32 <<< 8) ||| b₂.toUInt32.toInt32

def getUint32At (index : Nat) (format : ByteFormat) : Option UInt32 := do
  let b₀ ← data[index]?
  let b₁ ← data[index + 1]?
  let b₂ ← data[index + 2]?
  let b₃ ← data[index + 3]?
  match format with
  | .littleEndian =>
    return b₀.toUInt32 ||| (b₁.toUInt32 <<< 8) ||| (b₂.toUInt32 <<< 16) ||| (b₃.toUInt32 <<< 24)
  | .bigEndian =>
    return (b₀.toUInt32 <<< 24) ||| (b₁.toUInt32 <<< 16) ||| (b₂.toUInt32 <<< 8) ||| b₃.toUInt32

def getInt32At (index : Nat) (format : ByteFormat) : Option Int32 := do
  let b₀ ← data[index]?
  let b₁ ← data[index + 1]?
  let b₂ ← data[index + 2]?
  let b₃ ← data[index + 3]?
  match format with
  | .littleEndian =>
    return b₀.toUInt32.toInt32 ||| (b₁.toUInt32.toInt32 <<< 8) |||
      (b₂.toUInt32.toInt32 <<< 16) ||| (b₃.toUInt32.toInt32 <<< 24)
  | .bigEndian =>
    return (b₀.toUInt32.toInt32 <<< 24) ||| (b₁.toUInt32.toInt32 <<< 16) |||
      (b₂.toUInt32.toInt32 <<< 8) ||| b₃.toUInt32.toInt32

def getUint64At (index : Nat) (format : ByteFormat) : Option UInt64 := do
  let b₀ ← data[index]?
  let b₁ ← data[index + 1]?
  let b₂ ← data[index + 2]?
  let b₃ ← data[index + 3]?
  let b₄ ← data[index + 4]?
  let b₅ ← data[index + 5]?
  let b₆ ← data[index + 6]?
  let b₇ ← data[index + 7]?
  match format with
  | .littleEndian =>
    return b₀.toUInt64 ||| (b₁.toUInt64 <<< 8) ||| (b₂.toUInt64 <<< 16) |||
      (b₃.toUInt64 <<< 24) ||| (b₄.toUInt64 <<< 32) ||| (b₅.toUInt64 <<< 40) |||
      (b₆.toUInt64 <<< 48) ||| (b₇.toUInt64 <<< 56)
  | .bigEndian =>
    return (b₀.toUInt64 <<< 56) ||| (b₁.toUInt64 <<< 48) ||| (b₂.toUInt64 <<< 40) |||
      (b₃.toUInt64 <<< 32) ||| (b₄.toUInt64 <<< 24) ||| (b₅.toUInt64 <<< 16) |||
      (b₆.toUInt64 <<< 8) ||| b₇.toUInt64

def getInt64At (index : Nat) (format : ByteFormat) : Option Int64 := do
  let b₀ ← data[index]?
  let b₁ ← data[index + 1]?
  let b₂ ← data[index + 2]?
  let b₃ ← data[index + 3]?
  let b₄ ← data[index + 4]?
  let b₅ ← data[index + 5]?
  let b₆ ← data[index + 6]?
  let b₇ ← data[index + 7]?
  match format with
  | .littleEndian =>
    return b₀.toUInt64.toInt64 ||| (b₁.toUInt64.toInt64 <<< 8) |||
      (b₂.toUInt64.toInt64 <<< 16) ||| (b₃.toUInt64.toInt64 <<< 24) |||
      (b₄.toUInt64.toInt64 <<< 32) ||| (b₅.toUInt64.toInt64 <<< 40) |||
      (b₆.toUInt64.toInt64 <<< 48) ||| (b₇.toUInt64.toInt64 <<< 56)
  | .bigEndian =>
    return (b₀.toUInt64.toInt64 <<< 56) ||| (b₁.toUInt64.toInt64 <<< 48) |||
      (b₂.toUInt64.toInt64 <<< 40) ||| (b₃.toUInt64.toInt64 <<< 32) |||
      (b₄.toUInt64.toInt64 <<< 24) ||| (b₅.toUInt64.toInt64 <<< 16) |||
      (b₆.toUInt64.toInt64 <<< 8) ||| b₇.toUInt64.toInt64

end MessageBytes

def leValue : List UInt8 → Nat
  | [] => 0
  | b :: bytes => b.toNat + 256 * leValue bytes

def valueOf : ByteFormat → List UInt8 → Nat
  | .littleEndian, bytes => leValue bytes
  | .bigEndian, bytes => leValue bytes.reverse

def twosComplement (bits n : Nat) : Int := if n < 2 ^ (bits - 1) then n else (n : Int) - 2 ^ bits

inductive Width
  | one
  | two
  | three
  | four
  | eight
  deriving DecidableEq

def Width.bytes : Width → Nat
  | one => 1
  | two => 2
  | three => 3
  | four => 4
  | eight => 8

namespace MessageBytes

variable (data : MessageBytes)

def unsignedAt (width : Width) (index : Nat) (format : ByteFormat) : Option Nat :=
  match width with
  | .one => (data.getUint8At index).map UInt8.toNat
  | .two => (data.getUint16At index format).map UInt16.toNat
  | .three => (data.getUint24At index format).map UInt32.toNat
  | .four => (data.getUint32At index format).map UInt32.toNat
  | .eight => (data.getUint64At index format).map UInt64.toNat

def signedAt (width : Width) (index : Nat) (format : ByteFormat) : Option Int :=
  match width with
  | .one => (data.getInt8At index).map Int8.toInt
  | .two => (data.getInt16At index format).map Int16.toInt
  | .three => (data.getInt24At index format).map Int32.toInt
  | .four => (data.getInt32At index format).map Int32.toInt
  | .eight => (data.getInt64At index format).map Int64.toInt

def slice (index : Nat) (width : Width) : List UInt8 := (data.drop index).take width.bytes

end MessageBytes

variable {k : Nat}

theorem or_shift_eq {acc b : Nat} (hacc : acc < 2 ^ k) : acc ||| b <<< k = acc + b * 2 ^ k := by
  rw [Nat.or_comm, ← Nat.shiftLeft_add_eq_or_of_lt hacc, Nat.shiftLeft_eq, Nat.add_comm]

theorem toNat_shift16 (b : UInt8) (hk : k ≤ 8) :
    (b.toUInt16 <<< UInt16.ofNat k).toNat = b.toNat <<< k := by
  have hb := b.toNat_lt
  have hshift : (UInt16.ofNat k).toNat % 16 = k := by
    rw [UInt16.toNat_ofNat_of_lt' (Nat.lt_of_le_of_lt hk (by decide))]
    omega
  rw [UInt16.toNat_shiftLeft, UInt8.toNat_toUInt16, hshift, Nat.shiftLeft_eq]
  apply Nat.mod_eq_of_lt
  calc b.toNat * 2 ^ k ≤ b.toNat * 2 ^ 8 :=
        Nat.mul_le_mul_left _ (Nat.pow_le_pow_right (by decide) hk)
    _ < 2 ^ 16 := by omega

theorem toNat_shift32 (b : UInt8) (hk : k ≤ 24) :
    (b.toUInt32 <<< UInt32.ofNat k).toNat = b.toNat <<< k := by
  have hb := b.toNat_lt
  have hshift : (UInt32.ofNat k).toNat % 32 = k := by
    rw [UInt32.toNat_ofNat_of_lt' (Nat.lt_of_le_of_lt hk (by decide))]
    omega
  rw [UInt32.toNat_shiftLeft, UInt8.toNat_toUInt32, hshift, Nat.shiftLeft_eq]
  apply Nat.mod_eq_of_lt
  calc b.toNat * 2 ^ k ≤ b.toNat * 2 ^ 24 :=
        Nat.mul_le_mul_left _ (Nat.pow_le_pow_right (by decide) hk)
    _ < 2 ^ 32 := by omega

theorem toNat_shift64 (b : UInt8) (hk : k ≤ 56) :
    (b.toUInt64 <<< UInt64.ofNat k).toNat = b.toNat <<< k := by
  have hb := b.toNat_lt
  have hshift : (UInt64.ofNat k).toNat % 64 = k := by
    rw [UInt64.toNat_ofNat_of_lt' (Nat.lt_of_le_of_lt hk (by decide))]
    omega
  rw [UInt64.toNat_shiftLeft, UInt8.toNat_toUInt64, hshift, Nat.shiftLeft_eq]
  apply Nat.mod_eq_of_lt
  calc b.toNat * 2 ^ k ≤ b.toNat * 2 ^ 56 :=
        Nat.mul_le_mul_left _ (Nat.pow_le_pow_right (by decide) hk)
    _ < 2 ^ 64 := by omega

theorem toNat_decode16 (b₀ b₁ : UInt8) : (decode16 b₀ b₁).toNat = leValue [b₀, b₁] := by
  have h₀ := b₀.toNat_lt
  have hshift : (b₁.toUInt16 <<< 8).toNat = b₁.toNat <<< 8 := toNat_shift16 b₁ (by decide)
  rw [decode16, UInt16.toNat_or, hshift, UInt8.toNat_toUInt16, or_shift_eq h₀]
  simp only [leValue]
  omega

theorem toNat_decode24 (b₀ b₁ b₂ : UInt8) : (decode24 b₀ b₁ b₂).toNat = leValue [b₀, b₁, b₂] := by
  have h₀ := b₀.toNat_lt
  have h₁ := b₁.toNat_lt
  have hshift₁ : (b₁.toUInt32 <<< 8).toNat = b₁.toNat <<< 8 := toNat_shift32 b₁ (by decide)
  have hshift₂ : (b₂.toUInt32 <<< 16).toNat = b₂.toNat <<< 16 := toNat_shift32 b₂ (by decide)
  rw [decode24, UInt32.toNat_or, UInt32.toNat_or, hshift₁, hshift₂, UInt8.toNat_toUInt32,
    or_shift_eq h₀, or_shift_eq (by omega)]
  simp only [leValue]
  omega

theorem toNat_decode32 (b₀ b₁ b₂ b₃ : UInt8) :
    (decode32 b₀ b₁ b₂ b₃).toNat = leValue [b₀, b₁, b₂, b₃] := by
  have hshift : (b₃.toUInt32 <<< 24).toNat = b₃.toNat <<< 24 := toNat_shift32 b₃ (by decide)
  have hlow := toNat_decode24 b₀ b₁ b₂
  have hlt := decode24_toNat_lt b₀ b₁ b₂
  change (decode24 b₀ b₁ b₂ ||| (b₃.toUInt32 <<< 24)).toNat = _
  rw [UInt32.toNat_or, hshift, or_shift_eq hlt, hlow]
  simp only [leValue]
  omega

theorem toNat_decode64 (b₀ b₁ b₂ b₃ b₄ b₅ b₆ b₇ : UInt8) :
    (decode64 b₀ b₁ b₂ b₃ b₄ b₅ b₆ b₇).toNat = leValue [b₀, b₁, b₂, b₃, b₄, b₅, b₆, b₇] := by
  have h₀ := b₀.toNat_lt
  have h₁ := b₁.toNat_lt
  have h₂ := b₂.toNat_lt
  have h₃ := b₃.toNat_lt
  have h₄ := b₄.toNat_lt
  have h₅ := b₅.toNat_lt
  have h₆ := b₆.toNat_lt
  have hshift₁ : (b₁.toUInt64 <<< 8).toNat = b₁.toNat <<< 8 := toNat_shift64 b₁ (by decide)
  have hshift₂ : (b₂.toUInt64 <<< 16).toNat = b₂.toNat <<< 16 := toNat_shift64 b₂ (by decide)
  have hshift₃ : (b₃.toUInt64 <<< 24).toNat = b₃.toNat <<< 24 := toNat_shift64 b₃ (by decide)
  have hshift₄ : (b₄.toUInt64 <<< 32).toNat = b₄.toNat <<< 32 := toNat_shift64 b₄ (by decide)
  have hshift₅ : (b₅.toUInt64 <<< 40).toNat = b₅.toNat <<< 40 := toNat_shift64 b₅ (by decide)
  have hshift₆ : (b₆.toUInt64 <<< 48).toNat = b₆.toNat <<< 48 := toNat_shift64 b₆ (by decide)
  have hshift₇ : (b₇.toUInt64 <<< 56).toNat = b₇.toNat <<< 56 := toNat_shift64 b₇ (by decide)
  simp only [decode64, UInt64.toNat_or, hshift₁, hshift₂, hshift₃, hshift₄, hshift₅, hshift₆,
    hshift₇, UInt8.toNat_toUInt64]
  rw [or_shift_eq h₀, or_shift_eq (k := 16) (by omega), or_shift_eq (k := 24) (by omega),
    or_shift_eq (k := 32) (by omega), or_shift_eq (k := 40) (by omega),
    or_shift_eq (k := 48) (by omega), or_shift_eq (k := 56) (by omega)]
  simp only [leValue]
  omega

theorem twosComplement_eq_toInt {w : Nat} (hw : 0 < w) (x : BitVec w) :
    twosComplement w x.toNat = x.toInt := by
  have hpow : 2 ^ w = 2 * 2 ^ (w - 1) := by rw [← Nat.pow_succ', Nat.succ_eq_add_one]; congr; omega
  rw [twosComplement, BitVec.toInt_eq_toNat_cond]
  by_cases hlow : x.toNat < 2 ^ (w - 1)
  · rw [if_pos hlow, if_pos (by omega)]
  · rw [if_neg hlow, if_neg (by omega)]
    norm_cast

theorem toInt_toInt8 (b : UInt8) : b.toInt8.toInt = twosComplement 8 b.toNat :=
  (twosComplement_eq_toInt (by decide) b.toBitVec).symm

theorem toInt_toInt16 (u : UInt16) : u.toInt16.toInt = twosComplement 16 u.toNat :=
  (twosComplement_eq_toInt (by decide) u.toBitVec).symm

theorem toInt_toInt32 (u : UInt32) : u.toInt32.toInt = twosComplement 32 u.toNat :=
  (twosComplement_eq_toInt (by decide) u.toBitVec).symm

theorem toInt_toInt64 (u : UInt64) : u.toInt64.toInt = twosComplement 64 u.toNat :=
  (twosComplement_eq_toInt (by decide) u.toBitVec).symm

theorem twosComplement_widths_eq_iff {n : Nat} (hn : n < 2 ^ 24) :
    twosComplement 32 n = twosComplement 24 n ↔ n < 2 ^ 23 := by
  have hlow : n < 2 ^ (32 - 1) := by omega
  rw [twosComplement, twosComplement, if_pos hlow]
  constructor
  · intro heq
    by_contra hge
    rw [if_neg hge] at heq
    omega
  · intro hlt
    rw [if_pos hlt]

namespace MessageBytes

variable (data : MessageBytes)

theorem unsignedAt_drop (width : Width) (index : Nat) (format : ByteFormat) :
    data.unsignedAt width index format =
      MessageBytes.unsignedAt (data.drop index) width 0 format := by
  cases width <;>
    simp [unsignedAt, getUint8At, getUint16At, getUint24At, getUint32At, getUint64At]

theorem signedAt_drop (width : Width) (index : Nat) (format : ByteFormat) :
    data.signedAt width index format =
      MessageBytes.signedAt (data.drop index) width 0 format := by
  cases width <;>
    simp [signedAt, getInt8At, getInt16At, getInt24At, getInt32At, getInt64At]

/-- The width of the word that a signed accessor fills: it reads three bytes into 32 bits. -/
def signedBits : Width → Nat
  | .three => 32
  | width => 8 * width.bytes

theorem or_reverse₃ (a b c : UInt32) : a ||| b ||| c = c ||| b ||| a := by ac_rfl

theorem or_reverse₄ (a b c d : UInt32) : a ||| b ||| c ||| d = d ||| c ||| b ||| a := by ac_rfl

theorem or_reverse₈ (a b c d e f g h : UInt64) :
    a ||| b ||| c ||| d ||| e ||| f ||| g ||| h = h ||| g ||| f ||| e ||| d ||| c ||| b ||| a := by
  ac_rfl

theorem exists_eight {bytes : List UInt8} (hlen : bytes.length = 8) :
    ∃ b₀ b₁ b₂ b₃ b₄ b₅ b₆ b₇, bytes = [b₀, b₁, b₂, b₃, b₄, b₅, b₆, b₇] := by
  have htake : (bytes.take 4).length = 4 := by rw [List.length_take]; omega
  have hdrop : (bytes.drop 4).length = 4 := by rw [List.length_drop]; omega
  obtain ⟨b₀, b₁, b₂, b₃, hlow⟩ := List.length_eq_four.mp htake
  obtain ⟨b₄, b₅, b₆, b₇, hhigh⟩ := List.length_eq_four.mp hdrop
  refine ⟨b₀, b₁, b₂, b₃, b₄, b₅, b₆, b₇, ?_⟩
  calc bytes = bytes.take 4 ++ bytes.drop 4 := (List.take_append_drop 4 bytes).symm
    _ = [b₀, b₁, b₂, b₃, b₄, b₅, b₆, b₇] := by rw [hlow, hhigh]; rfl

section Words

variable (rest : List UInt8) (format : ByteFormat)

theorem getUint16At_eq (b₀ b₁ : UInt8) :
    getUint16At (b₀ :: b₁ :: rest) 0 format =
      some (if format = .littleEndian then decode16 b₀ b₁ else decode16 b₁ b₀) := by
  cases format with
  | littleEndian => rfl
  | bigEndian => exact congrArg some (UInt16.or_comm _ _)

theorem getInt16At_eq (b₀ b₁ : UInt8) :
    getInt16At (b₀ :: b₁ :: rest) 0 format =
      (getUint16At (b₀ :: b₁ :: rest) 0 format).map UInt16.toInt16 := by
  cases format <;> rfl

theorem getUint24At_eq (b₀ b₁ b₂ : UInt8) :
    getUint24At (b₀ :: b₁ :: b₂ :: rest) 0 format =
      some (if format = .littleEndian then decode24 b₀ b₁ b₂ else decode24 b₂ b₁ b₀) := by
  cases format with
  | littleEndian => rfl
  | bigEndian => exact congrArg some (or_reverse₃ _ _ _)

theorem getInt24At_eq (b₀ b₁ b₂ : UInt8) :
    getInt24At (b₀ :: b₁ :: b₂ :: rest) 0 format =
      (getUint24At (b₀ :: b₁ :: b₂ :: rest) 0 format).map UInt32.toInt32 := by
  cases format <;> rfl

theorem getUint32At_eq (b₀ b₁ b₂ b₃ : UInt8) :
    getUint32At (b₀ :: b₁ :: b₂ :: b₃ :: rest) 0 format =
      some (if format = .littleEndian then decode32 b₀ b₁ b₂ b₃ else decode32 b₃ b₂ b₁ b₀) := by
  cases format with
  | littleEndian => rfl
  | bigEndian => exact congrArg some (or_reverse₄ _ _ _ _)

theorem getInt32At_eq (b₀ b₁ b₂ b₃ : UInt8) :
    getInt32At (b₀ :: b₁ :: b₂ :: b₃ :: rest) 0 format =
      (getUint32At (b₀ :: b₁ :: b₂ :: b₃ :: rest) 0 format).map UInt32.toInt32 := by
  cases format <;> rfl

theorem getUint64At_eq (b₀ b₁ b₂ b₃ b₄ b₅ b₆ b₇ : UInt8) :
    getUint64At (b₀ :: b₁ :: b₂ :: b₃ :: b₄ :: b₅ :: b₆ :: b₇ :: rest) 0 format =
      some (if format = .littleEndian then decode64 b₀ b₁ b₂ b₃ b₄ b₅ b₆ b₇
        else decode64 b₇ b₆ b₅ b₄ b₃ b₂ b₁ b₀) := by
  cases format with
  | littleEndian => rfl
  | bigEndian => exact congrArg some (or_reverse₈ _ _ _ _ _ _ _ _)

theorem getInt64At_eq (b₀ b₁ b₂ b₃ b₄ b₅ b₆ b₇ : UInt8) :
    getInt64At (b₀ :: b₁ :: b₂ :: b₃ :: b₄ :: b₅ :: b₆ :: b₇ :: rest) 0 format =
      (getUint64At (b₀ :: b₁ :: b₂ :: b₃ :: b₄ :: b₅ :: b₆ :: b₇ :: rest) 0 format).map
        UInt64.toInt64 := by
  cases format <;> rfl

end Words

variable {width : Width}

theorem unsignedAt_append {bytes : List UInt8} (hlen : bytes.length = width.bytes)
    (rest : List UInt8) (format : ByteFormat) :
    unsignedAt (bytes ++ rest) width 0 format = some (valueOf format bytes) := by
  cases width with
  | one =>
    obtain ⟨b, rfl⟩ := List.length_eq_one_iff.mp hlen
    cases format <;> exact congrArg some (Nat.add_zero _).symm
  | two =>
    obtain ⟨b₀, b₁, rfl⟩ := List.length_eq_two.mp hlen
    change (getUint16At (b₀ :: b₁ :: rest) 0 format).map UInt16.toNat = _
    rw [getUint16At_eq]
    cases format with
    | littleEndian => exact congrArg some (toNat_decode16 b₀ b₁)
    | bigEndian => exact congrArg some (toNat_decode16 b₁ b₀)
  | three =>
    obtain ⟨b₀, b₁, b₂, rfl⟩ := List.length_eq_three.mp hlen
    change (getUint24At (b₀ :: b₁ :: b₂ :: rest) 0 format).map UInt32.toNat = _
    rw [getUint24At_eq]
    cases format with
    | littleEndian => exact congrArg some (toNat_decode24 b₀ b₁ b₂)
    | bigEndian => exact congrArg some (toNat_decode24 b₂ b₁ b₀)
  | four =>
    obtain ⟨b₀, b₁, b₂, b₃, rfl⟩ := List.length_eq_four.mp hlen
    change (getUint32At (b₀ :: b₁ :: b₂ :: b₃ :: rest) 0 format).map UInt32.toNat = _
    rw [getUint32At_eq]
    cases format with
    | littleEndian => exact congrArg some (toNat_decode32 b₀ b₁ b₂ b₃)
    | bigEndian => exact congrArg some (toNat_decode32 b₃ b₂ b₁ b₀)
  | eight =>
    obtain ⟨b₀, b₁, b₂, b₃, b₄, b₅, b₆, b₇, rfl⟩ := exists_eight hlen
    change (getUint64At (b₀ :: b₁ :: b₂ :: b₃ :: b₄ :: b₅ :: b₆ :: b₇ :: rest) 0 format).map
      UInt64.toNat = _
    rw [getUint64At_eq]
    cases format with
    | littleEndian => exact congrArg some (toNat_decode64 b₀ b₁ b₂ b₃ b₄ b₅ b₆ b₇)
    | bigEndian => exact congrArg some (toNat_decode64 b₇ b₆ b₅ b₄ b₃ b₂ b₁ b₀)

theorem signedAt_append {bytes : List UInt8} (hlen : bytes.length = width.bytes)
    (rest : List UInt8) (format : ByteFormat) :
    signedAt (bytes ++ rest) width 0 format =
      (unsignedAt (bytes ++ rest) width 0 format).map (twosComplement (signedBits width)) := by
  cases width with
  | one =>
    obtain ⟨b, rfl⟩ := List.length_eq_one_iff.mp hlen
    exact congrArg some (toInt_toInt8 b)
  | two =>
    obtain ⟨b₀, b₁, rfl⟩ := List.length_eq_two.mp hlen
    change (getInt16At (b₀ :: b₁ :: rest) 0 format).map Int16.toInt =
      ((getUint16At (b₀ :: b₁ :: rest) 0 format).map UInt16.toNat).map _
    rw [getInt16At_eq, Option.map_map, Option.map_map]
    exact congrArg (Option.map · _) (funext toInt_toInt16)
  | three =>
    obtain ⟨b₀, b₁, b₂, rfl⟩ := List.length_eq_three.mp hlen
    change (getInt24At (b₀ :: b₁ :: b₂ :: rest) 0 format).map Int32.toInt =
      ((getUint24At (b₀ :: b₁ :: b₂ :: rest) 0 format).map UInt32.toNat).map _
    rw [getInt24At_eq, Option.map_map, Option.map_map]
    exact congrArg (Option.map · _) (funext toInt_toInt32)
  | four =>
    obtain ⟨b₀, b₁, b₂, b₃, rfl⟩ := List.length_eq_four.mp hlen
    change (getInt32At (b₀ :: b₁ :: b₂ :: b₃ :: rest) 0 format).map Int32.toInt =
      ((getUint32At (b₀ :: b₁ :: b₂ :: b₃ :: rest) 0 format).map UInt32.toNat).map _
    rw [getInt32At_eq, Option.map_map, Option.map_map]
    exact congrArg (Option.map · _) (funext toInt_toInt32)
  | eight =>
    obtain ⟨b₀, b₁, b₂, b₃, b₄, b₅, b₆, b₇, rfl⟩ := exists_eight hlen
    change (getInt64At (b₀ :: b₁ :: b₂ :: b₃ :: b₄ :: b₅ :: b₆ :: b₇ :: rest) 0 format).map
      Int64.toInt = ((getUint64At (b₀ :: b₁ :: b₂ :: b₃ :: b₄ :: b₅ :: b₆ :: b₇ :: rest) 0
        format).map UInt64.toNat).map _
    rw [getInt64At_eq, Option.map_map, Option.map_map]
    exact congrArg (Option.map · _) (funext toInt_toInt64)

variable {index : Nat}

theorem length_slice (h : index + width.bytes ≤ data.length) :
    (data.slice index width).length = width.bytes := by
  rw [slice, List.length_take, List.length_drop]
  omega

theorem drop_eq_slice_append (index : Nat) (width : Width) :
    data.drop index = data.slice index width ++ (data.drop index).drop width.bytes :=
  (List.take_append_drop _ _).symm

theorem unsignedAt_eq (h : index + width.bytes ≤ data.length) (format : ByteFormat) :
    data.unsignedAt width index format = some (valueOf format (data.slice index width)) := by
  rw [unsignedAt_drop, data.drop_eq_slice_append index width]
  exact unsignedAt_append (data.length_slice h) _ format

theorem signedAt_eq (h : index + width.bytes ≤ data.length) (format : ByteFormat) :
    data.signedAt width index format =
      some (twosComplement (signedBits width) (valueOf format (data.slice index width))) := by
  rw [signedAt_drop, data.drop_eq_slice_append index width,
    signedAt_append (data.length_slice h), unsignedAt_append (data.length_slice h)]
  rfl

end MessageBytes

def ByteFormat.other : ByteFormat → ByteFormat
  | littleEndian => bigEndian
  | bigEndian => littleEndian

structure ReadsIntegers (data : MessageBytes) (width : Width) (index : Nat) (format : ByteFormat) :
    Prop where
  unsigned : data.unsignedAt width index format = some (valueOf format (data.slice index width))
  reversed : data.unsignedAt width index format =
    MessageBytes.unsignedAt (data.slice index width).reverse width 0 format.other
  signed : data.signedAt width index format =
    (data.unsignedAt width index format).map (twosComplement (8 * width.bytes))

def AccessorsRight (data : MessageBytes) (index : Nat) : Prop :=
  ∀ width format, index + width.bytes ≤ data.length → ReadsIntegers data width index format

/-- The sign bit of three bytes from the index on, in either format, is clear. -/
def PositiveTriple (data : MessageBytes) (index : Nat) : Prop :=
  ∀ b₀ b₁ b₂, data.slice index .three = [b₀, b₁, b₂] → b₀ < 0x80 ∧ b₂ < 0x80

theorem valueOf_other (format : ByteFormat) (bytes : List UInt8) :
    valueOf format.other bytes.reverse = valueOf format bytes := by
  cases format with
  | littleEndian => exact congrArg leValue (List.reverse_reverse bytes)
  | bigEndian => rfl

variable {index : Nat}

theorem reversed_eq {data : MessageBytes} {width : Width} (h : index + width.bytes ≤ data.length)
    (format : ByteFormat) :
    data.unsignedAt width index format =
      MessageBytes.unsignedAt (data.slice index width).reverse width 0 format.other := by
  have hlen : (data.slice index width).reverse.length = width.bytes := by
    rw [List.length_reverse, data.length_slice h]
  have happend := MessageBytes.unsignedAt_append hlen [] format.other
  rw [List.append_nil, valueOf_other] at happend
  rw [data.unsignedAt_eq h, happend]

theorem readsIntegers_iff {data : MessageBytes} {width : Width}
    (h : index + width.bytes ≤ data.length) (format : ByteFormat) :
    ReadsIntegers data width index format ↔
      twosComplement (MessageBytes.signedBits width) (valueOf format (data.slice index width)) =
        twosComplement (8 * width.bytes) (valueOf format (data.slice index width)) := by
  have hunsigned := data.unsignedAt_eq h format
  constructor
  · intro hreads
    have hsigned := hreads.signed
    rw [data.signedAt_eq h, hunsigned] at hsigned
    exact Option.some.inj hsigned
  · intro hsame
    refine ⟨hunsigned, reversed_eq h format, ?_⟩
    rw [data.signedAt_eq h, hunsigned, hsame]
    rfl

theorem readsIntegers_of_ne_three {data : MessageBytes} {width : Width} (hwidth : width ≠ .three)
    (h : index + width.bytes ≤ data.length) (format : ByteFormat) :
    ReadsIntegers data width index format := by
  refine (readsIntegers_iff h format).mpr ?_
  cases width with
  | three => exact absurd rfl hwidth
  | one | two | four | eight => rfl

theorem leValue_triple_lt (b₀ b₁ b₂ : UInt8) : leValue [b₀, b₁, b₂] < 2 ^ 24 := by
  have h₀ := b₀.toNat_lt
  have h₁ := b₁.toNat_lt
  have h₂ := b₂.toNat_lt
  simp only [leValue]
  omega

theorem leValue_triple_lt_iff (b₀ b₁ b₂ : UInt8) : leValue [b₀, b₁, b₂] < 2 ^ 23 ↔ b₂ < 0x80 := by
  have h₀ := b₀.toNat_lt
  have h₁ := b₁.toNat_lt
  rw [UInt8.lt_iff_toNat_lt]
  change _ ↔ b₂.toNat < 128
  simp only [leValue]
  omega

/-- The accessors read the integers of their bytes exactly when neither end of the three bytes has
its sign bit set. -/
theorem accessorsRight_iff (data : MessageBytes) (index : Nat) :
    AccessorsRight data index ↔ PositiveTriple data index := by
  constructor
  · intro hright b₀ b₁ b₂ hslice
    have hlen : index + 3 ≤ data.length := by
      have hthree := congrArg List.length hslice
      rw [MessageBytes.slice, List.length_take, List.length_drop] at hthree
      simp only [Width.bytes, List.length_cons, List.length_nil] at hthree
      omega
    have hlittle := (readsIntegers_iff hlen _).mp (hright .three .littleEndian hlen)
    have hbig := (readsIntegers_iff hlen _).mp (hright .three .bigEndian hlen)
    rw [hslice] at hlittle hbig
    constructor
    · exact (leValue_triple_lt_iff b₂ b₁ b₀).mp
        ((twosComplement_widths_eq_iff (leValue_triple_lt b₂ b₁ b₀)).mp hbig)
    · exact (leValue_triple_lt_iff b₀ b₁ b₂).mp
        ((twosComplement_widths_eq_iff (leValue_triple_lt b₀ b₁ b₂)).mp hlittle)
  · intro hpositive width format hlen
    by_cases hwidth : width = .three
    · subst hwidth
      refine (readsIntegers_iff hlen format).mpr ?_
      obtain ⟨b₀, b₁, b₂, hslice⟩ := List.length_eq_three.mp (data.length_slice hlen)
      obtain ⟨hfirst, hlast⟩ := hpositive b₀ b₁ b₂ hslice
      rw [hslice]
      cases format with
      | littleEndian =>
        exact (twosComplement_widths_eq_iff (leValue_triple_lt b₀ b₁ b₂)).mpr
          ((leValue_triple_lt_iff b₀ b₁ b₂).mpr hlast)
      | bigEndian =>
        exact (twosComplement_widths_eq_iff (leValue_triple_lt b₂ b₁ b₀)).mpr
          ((leValue_triple_lt_iff b₂ b₁ b₀).mpr hfirst)
    · exact readsIntegers_of_ne_three hwidth hlen format

/-- Three bytes FF read as 16777215 instead of -1. -/
theorem int24_not_extended : ¬ ∀ data index, AccessorsRight data index := by
  intro hall
  have hreads := hall [0xFF, 0xFF, 0xFF] 0 .three .littleEndian (by decide)
  exact absurd hreads.signed (by decide)

end Isobus.Can
