import Mathlib.Data.Nat.Digits.Lemmas

/-!
# Numbers as text

Numbers written in a base, the highest digit first and with zeros up to a width, and read back.
Texts are their bytes.
-/

namespace Isobus.Lib

abbrev Text := List UInt8

def ascii (text : String) : Text := text.toList.map fun character => UInt8.ofNat character.toNat

namespace Numerals

/-- The digits behind 9 are upper case letters. -/
def digitByte (digit : Nat) : UInt8 :=
  if digit < 10 then UInt8.ofNat (0x30 + digit) else UInt8.ofNat (0x37 + digit)

def digitValue (byte : UInt8) : Option Nat :=
  if 0x30 ≤ byte ∧ byte ≤ 0x39 then some (byte.toNat - 0x30)
  else if 0x41 ≤ byte ∧ byte ≤ 0x46 then some (byte.toNat - 0x37)
  else none

theorem digitValue_digitByte {digit : Nat} (h : digit < 16) :
    digitValue (digitByte digit) = some digit := by
  interval_cases digit <;> rfl

/-- A digit or a letter from A to F. -/
def IsDigit (byte : UInt8) : Prop :=
  0x30 ≤ byte ∧ byte ≤ 0x39 ∨ 0x41 ≤ byte ∧ byte ≤ 0x46

theorem isDigit_digitByte {digit : Nat} (h : digit < 16) : IsDigit (digitByte digit) := by
  unfold IsDigit
  interval_cases digit <;> decide

def write (base width n : Nat) : Text := (Nat.digitsAppend base width n).reverse.map digitByte

def read (base : Nat) (text : Text) : Option Nat :=
  if text = [] then none
  else text.foldlM (fun value byte => do
    let digit ← digitValue byte
    if digit < base then return value * base + digit else none) 0

variable {base width n : Nat}

theorem foldlM_digits {digits : List Nat} (hbase : base ≤ 16) (hdigits : ∀ d ∈ digits, d < base) :
    (digits.reverse.map digitByte).foldlM (fun value byte => do
      let digit ← digitValue byte
      if digit < base then return value * base + digit else none) 0 =
      some (Nat.ofDigits base digits) := by
  induction digits with
  | nil => rfl
  | cons digit digits ih =>
    obtain ⟨hdigit, hdigits⟩ := List.forall_mem_cons.mp hdigits
    rw [List.reverse_cons, List.map_append, List.foldlM_append, ih hdigits, List.map_singleton,
      Nat.ofDigits_cons]
    simp only [List.foldlM_cons, List.foldlM_nil, Option.bind_eq_bind, Option.bind_some,
      digitValue_digitByte (hdigit.trans_le hbase), if_pos hdigit]
    exact congrArg some (by rw [Nat.mul_comm, Nat.add_comm])

theorem write_ne_nil (hwidth : 0 < width) : write base width n ≠ [] := by
  rw [write, ← List.length_pos_iff, List.length_map, List.length_reverse, Nat.digitsAppend,
    List.length_append, List.length_replicate]
  omega

theorem read_write (hone : 1 < base) (hbase : base ≤ 16) (hwidth : 0 < width) :
    read base (write base width n) = some n := by
  rw [read, if_neg (write_ne_nil hwidth), write,
    foldlM_digits hbase fun d => Nat.lt_of_mem_digitsAppend hone width d, Nat.digitsAppend,
    Nat.ofDigits_append_replicate_zero, Nat.ofDigits_digits]

theorem length_write (hone : 1 < base) (h : n < base ^ width) :
    (write base width n).length = width := by
  rw [write, List.length_map, List.length_reverse, Nat.length_digitsAppend hone width h]

theorem isDigit_of_mem_write (hone : 1 < base) (hbase : base ≤ 16) {byte : UInt8}
    (h : byte ∈ write base width n) : IsDigit byte := by
  obtain ⟨digit, hdigit, rfl⟩ := List.mem_map.mp h
  have hlt := Nat.lt_of_mem_digitsAppend hone width digit (List.mem_reverse.mp hdigit)
  exact isDigit_digitByte (hlt.trans_le hbase)

def writeInt (n : Int) : Text :=
  if n < 0 then 0x2D :: write 10 1 n.natAbs else write 10 1 n.natAbs

def readInt : Text → Option Int
  | [] => none
  | byte :: text =>
    if byte = 0x2D then (read 10 text).map fun value => -Int.ofNat value
    else (read 10 (byte :: text)).map Int.ofNat

theorem readInt_writeInt (n : Int) : readInt (writeInt n) = some n := by
  have hread : read 10 (write 10 1 n.natAbs) = some n.natAbs :=
    read_write (by decide) (by decide) (by decide)
  unfold writeInt
  split_ifs with hneg
  · rw [readInt, if_pos rfl, hread, Option.map_some]
    exact congrArg some (by rw [Int.ofNat_eq_natCast]; omega)
  · obtain ⟨byte, text, htext⟩ := List.exists_cons_of_ne_nil
      (@write_ne_nil 10 1 n.natAbs Nat.one_pos)
    have hdigit : IsDigit byte := by
      refine @isDigit_of_mem_write 10 1 n.natAbs (by decide) (by decide) byte ?_
      rw [htext]
      exact List.mem_cons_self
    have hne : byte ≠ 0x2D := by
      rintro rfl
      rcases hdigit with ⟨h, -⟩ | ⟨h, -⟩
      · exact absurd h (by decide)
      · exact absurd h (by decide)
    rw [htext] at hread ⊢
    rw [readInt, if_neg hne, hread, Option.map_some]
    exact congrArg some (by rw [Int.ofNat_eq_natCast]; omega)

theorem mem_writeInt {n : Int} {byte : UInt8} (h : byte ∈ writeInt n) :
    byte = 0x2D ∨ IsDigit byte := by
  unfold writeInt at h
  split_ifs at h
  · rcases List.mem_cons.mp h with rfl | h
    · exact .inl rfl
    · exact .inr (isDigit_of_mem_write (by decide) (by decide) h)
  · exact .inr (isDigit_of_mem_write (by decide) (by decide) h)

def writeBytes (bytes : List UInt8) : Text := bytes.flatMap fun byte => write 16 2 byte.toNat

def readBytePairs : Text → Option (List UInt8)
  | [] => some []
  | [_] => none
  | high :: low :: text => do
      let value ← read 16 [high, low]
      let bytes ← readBytePairs text
      return UInt8.ofNat value :: bytes

theorem readBytePairs_writeBytes (bytes : List UInt8) :
    readBytePairs (writeBytes bytes) = some bytes := by
  induction bytes with
  | nil => rfl
  | cons byte bytes ih =>
    have hlength : (write 16 2 byte.toNat).length = 2 :=
      length_write (by decide) (byte.toNat_lt.trans_le (by decide))
    obtain ⟨high, low, hpair⟩ := List.length_eq_two.mp hlength
    have hread : read 16 (write 16 2 byte.toNat) = some byte.toNat :=
      read_write (by decide) (by decide) (by decide)
    rw [hpair] at hread
    rw [writeBytes, List.flatMap_cons, hpair]
    change readBytePairs (high :: low :: writeBytes bytes) = _
    rw [readBytePairs, hread, ih]
    exact congrArg (fun b => some (b :: bytes)) (UInt8.ofNat_toNat)

theorem isDigit_of_mem_writeBytes {bytes : List UInt8} {byte : UInt8}
    (h : byte ∈ writeBytes bytes) : IsDigit byte := by
  obtain ⟨value, -, hvalue⟩ := List.mem_flatMap.mp h
  exact isDigit_of_mem_write (by decide) (by decide) hvalue

end Numerals

end Isobus.Lib
