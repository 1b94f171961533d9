import Mathlib.Data.UInt

/-!
# Bits in a list of bytes

The bits of a list of bytes, numbered from the lowest bit of the first byte.
-/

namespace Isobus.Lib

def bitMask (k : Nat) : UInt8 := UInt8.ofNat (1 <<< k)

variable {k : Nat}

theorem toBitVec_bitMask : (bitMask k).toBitVec = BitVec.twoPow 8 k := by
  rw [bitMask, BitVec.twoPow_eq, Nat.shiftLeft_eq, Nat.one_mul]
  apply BitVec.eq_of_toNat_eq
  rw [BitVec.toNat_shiftLeft]
  simp [Nat.shiftLeft_eq]

def byteBit (byte : UInt8) (k : Nat) : Bool := byte.toBitVec.getLsbD k

theorem byteBit_or_bitMask (byte : UInt8) {j : Nat} (hk : k < 8) :
    byteBit (byte ||| bitMask k) j = if j = k then true else byteBit byte j := by
  rw [byteBit, UInt8.toBitVec_or, toBitVec_bitMask, BitVec.getLsbD_or, BitVec.getLsbD_twoPow]
  split
  · rename_i hsame
    rw [hsame, decide_eq_true hk, decide_eq_true rfl]
    exact Bool.or_true _
  · rename_i hne
    rw [decide_eq_false (Ne.symm hne), Bool.and_false, Bool.or_false]
    rfl

theorem byteBit_and_not_bitMask (byte : UInt8) {j : Nat} (hk : k < 8) :
    byteBit (byte &&& ~~~bitMask k) j = if j = k then false else byteBit byte j := by
  rw [byteBit, UInt8.toBitVec_and, UInt8.toBitVec_not, toBitVec_bitMask, BitVec.getLsbD_and,
    BitVec.getLsbD_not, BitVec.getLsbD_twoPow]
  split
  · rename_i hsame
    rw [hsame, decide_eq_true hk, decide_eq_true rfl]
    exact Bool.and_false _
  · rename_i hne
    rw [decide_eq_false (Ne.symm hne), Bool.and_false, Bool.not_false, Bool.and_true]
    rcases Nat.lt_or_ge j 8 with hj | hj
    · rw [decide_eq_true hj, Bool.and_true]
      rfl
    · rw [byteBit, BitVec.getLsbD_of_ge _ _ hj, Bool.false_and]

theorem and_bitMask_ne_zero (byte : UInt8) (hk : k < 8) :
    (byte &&& bitMask k != 0) = byteBit byte k := by
  have hand : byte &&& bitMask k = if byteBit byte k then bitMask k else 0 := by
    apply UInt8.toBitVec_inj.mp
    rw [UInt8.toBitVec_and, toBitVec_bitMask, BitVec.and_twoPow, byteBit]
    split
    · exact toBitVec_bitMask.symm
    · rfl
  rw [hand]
  cases byteBit byte k with
  | true =>
    rw [if_pos rfl, bne_iff_ne, ne_eq]
    intro hzero
    have hset : byteBit (0 ||| bitMask k) k = true := (byteBit_or_bitMask 0 hk).trans (if_pos rfl)
    rw [hzero] at hset
    exact absurd hset (Bool.eq_false_iff.mp BitVec.getLsbD_zero)
  | false => rfl

def bitAt (bytes : List UInt8) (n : Nat) : Bool := byteBit (bytes.getD (n / 8) 0) (n % 8)

def setBit (bytes : List UInt8) (n : Nat) (value : Bool) : List UInt8 :=
  let old := bytes.getD (n / 8) 0
  bytes.set (n / 8) (if value then old ||| bitMask (n % 8) else old &&& ~~~bitMask (n % 8))

theorem length_setBit (bytes : List UInt8) (n : Nat) (value : Bool) :
    (setBit bytes n value).length = bytes.length := List.length_set

theorem bitAt_setBit {bytes : List UInt8} {n : Nat} (h : n / 8 < bytes.length) (m : Nat)
    (value : Bool) :
    bitAt (setBit bytes n value) m = if m = n then value else bitAt bytes m := by
  have hbit : n % 8 < 8 := Nat.mod_lt n (by decide)
  unfold bitAt setBit
  by_cases hbyte : m / 8 = n / 8
  · have hsame : m % 8 = n % 8 ↔ m = n := by omega
    rw [hbyte, List.getD_eq_getElem?_getD, List.getElem?_set_self h, Option.getD_some]
    cases value with
    | true =>
      rw [if_pos rfl, byteBit_or_bitMask _ hbit]
      exact if_congr hsame rfl rfl
    | false =>
      rw [if_neg Bool.false_ne_true, byteBit_and_not_bitMask _ hbit]
      exact if_congr hsame rfl rfl
  · have hne : m ≠ n := fun hsame => hbyte (congrArg (· / 8) hsame)
    rw [if_neg hne, List.getD_eq_getElem?_getD, List.getElem?_set_ne (Ne.symm hbyte),
      List.getD_eq_getElem?_getD]

theorem bitAt_replicate_zero (k n : Nat) : bitAt (List.replicate k 0) n = false := by
  have hzero : (List.replicate k (0 : UInt8)).getD (n / 8) 0 = 0 := by
    rw [List.getD_eq_getElem?_getD, List.getElem?_replicate]
    split <;> rfl
  rw [bitAt, hzero]
  exact BitVec.getLsbD_zero

end Isobus.Lib
