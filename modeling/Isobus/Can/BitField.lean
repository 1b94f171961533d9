import Isobus.Can.Accessors

/-!
# Fields of any number of bits

`CANMessage::get_data_custom_length`: the bits of a field are collected into groups of eight, and
the groups are put together in either byte order.
-/

namespace Isobus.Can

open Isobus.Lib

/-- The locals of the loop that change. -/
structure Extraction where
  retVal : UInt64
  currentByte : UInt8
  bitCounter : Nat
  amountOfBytesLeft : Nat

namespace MessageBytes

variable (data : MessageBytes)

/-- `(data.at(byteIndex) >> (indexOfFinalByteBit - bitIndexWithinByte)) & 1`; the index has been
checked. -/
def bitAtIndex (i : Nat) : UInt8 := (data.getD (i / 8) 0 >>> UInt8.ofNat (7 - i % 8)) &&& 1

def bitShift (length bitCounter i : Nat) : Nat :=
  if length - bitCounter < 8 then length - 1 - bitCounter else 7 - i % 8

def groupShift (format : ByteFormat) (startAmountOfBytes amountOfBytesLeft : Nat) : Nat :=
  match format with
  | .littleEndian => (startAmountOfBytes - amountOfBytesLeft) * 8
  | .bigEndian => amountOfBytesLeft * 8 - 8

/-- One turn of the loop. -/
def extractBit (length endBitIndex : Nat) (format : ByteFormat) (st : Extraction) (i : Nat) :
    Extraction :=
  let currentByte := st.currentByte |||
    (data.bitAtIndex i <<< UInt8.ofNat (bitShift length st.bitCounter i))
  if (st.bitCounter + 1) % 8 = 0 ∨ i = endBitIndex then
    { retVal := st.retVal ||| (currentByte.toUInt64 <<<
        UInt64.ofNat (groupShift format ((length + 8 - 1) / 8) st.amountOfBytesLeft))
      currentByte := 0
      bitCounter := st.bitCounter + 1
      amountOfBytesLeft := st.amountOfBytesLeft - 1 }
  else
    { st with currentByte := currentByte, bitCounter := st.bitCounter + 1 }

def getDataCustomLength (startBitIndex length : UInt32) (format : ByteFormat) : UInt64 :=
  let endBitIndex := startBitIndex + length - 1
  if endBitIndex.toNat ≥ 8 * data.length ∨ length < 1 ∨ startBitIndex.toNat ≥ 8 * data.length then
    0
  else
    -- the end of the field may have wrapped around before its start: then nothing is read
    ((List.range' startBitIndex.toNat (endBitIndex.toNat + 1 - startBitIndex.toNat)).foldl
      (data.extractBit length.toNat endBitIndex.toNat format)
      ⟨0, 0, 0, (length.toNat + 8 - 1) / 8⟩).retVal

/-- A bit of the data, counted from the most significant bit of its first byte. -/
def bitOf (i : Nat) : Nat := (data.getD (i / 8) 0).toNat / 2 ^ (7 - i % 8) % 2

def fieldBits (start length : Nat) : List Nat := (List.range' start length).map data.bitOf

/-- The integer whose binary digits are the bits of a field, the most significant one first. -/
def fieldValue (start length : Nat) : Nat := Nat.ofDigits 2 (data.fieldBits start length).reverse

theorem bitOf_lt (i : Nat) : data.bitOf i < 2 := Nat.mod_lt _ (by decide)

theorem length_fieldBits (start length : Nat) :
    (data.fieldBits start length).length = length := by
  rw [fieldBits, List.length_map, List.length_range']

@[simp] theorem fieldValue_zero (start : Nat) : data.fieldValue start 0 = 0 := rfl

theorem fieldValue_add (start m n : Nat) :
    data.fieldValue start (m + n) =
      data.fieldValue start m * 2 ^ n + data.fieldValue (start + m) n := by
  have hsplit : data.fieldBits start (m + n) =
      data.fieldBits start m ++ data.fieldBits (start + m) n := by
    rw [fieldBits, fieldBits, fieldBits, ← List.map_append, List.range'_append_1]
  rw [fieldValue, hsplit, List.reverse_append, Nat.ofDigits_append, List.length_reverse,
    length_fieldBits, Nat.mul_comm]
  exact Nat.add_comm _ _

theorem fieldValue_one (start : Nat) : data.fieldValue start 1 = data.bitOf start :=
  Nat.ofDigits_singleton

theorem fieldValue_succ (start n : Nat) :
    data.fieldValue start (n + 1) =
      data.bitOf start * 2 ^ n + data.fieldValue (start + 1) n := by
  rw [Nat.add_comm n 1, fieldValue_add, fieldValue_one]

theorem fieldValue_lt (start length : Nat) : data.fieldValue start length < 2 ^ length := by
  have hlt := Nat.ofDigits_lt_base_pow_length (b := 2) (l := (data.fieldBits start length).reverse)
    (by decide) ?_
  · rwa [List.length_reverse, length_fieldBits] at hlt
  · intro bit hbit
    obtain ⟨i, -, rfl⟩ := List.mem_map.mp (List.mem_reverse.mp hbit)
    exact data.bitOf_lt i

theorem bitAtIndex_toNat (i : Nat) : (data.bitAtIndex i).toNat = data.bitOf i := by
  have hshift : (UInt8.ofNat (7 - i % 8)).toNat % 8 = 7 - i % 8 := by
    rw [UInt8.toNat_ofNat_of_lt' (by change 7 - i % 8 < 256; omega)]
    omega
  rw [bitAtIndex, UInt8.toNat_and, UInt8.toNat_shiftRight, hshift, Nat.shiftRight_eq_div_pow]
  exact Nat.and_one_is_mod _

variable {r length endBitIndex n start k : Nat}

theorem currentByte_or {X : Nat} (hr : r < 8) (hX : X < 2 ^ (7 - r)) (i : Nat) :
    UInt8.ofNat (X * 2 ^ (r + 1)) ||| (data.bitAtIndex i <<< UInt8.ofNat r) =
      UInt8.ofNat ((2 * X + data.bitOf i) * 2 ^ r) := by
  have hbit := data.bitOf_lt i
  have hexp : 7 - r + (r + 1) = 8 := by omega
  have hexp' : 8 - r + r = 8 := by omega
  have hpow : 2 ^ (7 - r) * 2 ^ (r + 1) = 256 := by rw [← Nat.pow_add, hexp]
  have hbyte : X * 2 ^ (r + 1) < 256 := by
    calc X * 2 ^ (r + 1) < 2 ^ (7 - r) * 2 ^ (r + 1) :=
          Nat.mul_lt_mul_of_pos_right hX (Nat.two_pow_pos _)
      _ = 256 := hpow
  have hpow' : 2 ^ (8 - r) * 2 ^ r = 256 := by rw [← Nat.pow_add, hexp']
  have hnext : (2 * X + data.bitOf i) * 2 ^ r < 256 := by
    have hdouble : 2 * 2 ^ (7 - r) = 2 ^ (8 - r) := by
      rw [← Nat.pow_succ']
      congr 1
      omega
    calc (2 * X + data.bitOf i) * 2 ^ r < 2 ^ (8 - r) * 2 ^ r :=
          Nat.mul_lt_mul_of_pos_right (by omega) (Nat.two_pow_pos _)
      _ = 256 := hpow'
  have hlow : data.bitOf i * 2 ^ r < 2 ^ (r + 1) := by
    calc data.bitOf i * 2 ^ r < 2 * 2 ^ r :=
          Nat.mul_lt_mul_of_pos_right hbit (Nat.two_pow_pos _)
      _ = 2 ^ (r + 1) := (Nat.pow_succ' ..).symm
  have hshift : (UInt8.ofNat r).toNat % 8 = r := by
    rw [UInt8.toNat_ofNat_of_lt' (by change r < 256; omega)]
    omega
  have hbitShift : (data.bitAtIndex i <<< UInt8.ofNat r).toNat = data.bitOf i * 2 ^ r := by
    rw [UInt8.toNat_shiftLeft, hshift, Nat.shiftLeft_eq, bitAtIndex_toNat]
    refine Nat.mod_eq_of_lt (hlow.trans_le ?_)
    exact Nat.pow_le_pow_right (by decide) (by omega)
  rw [← UInt8.toNat_inj, UInt8.toNat_or, hbitShift, UInt8.toNat_ofNat_of_lt' hbyte,
    UInt8.toNat_ofNat_of_lt' hnext, Nat.or_comm, ← Nat.shiftLeft_eq X,
    Nat.or_comm, ← Nat.shiftLeft_add_eq_or_of_lt hlow, Nat.shiftLeft_eq]
  ring

/-- The bits `i … i + r` fill one byte from the top, and only the last of them ends it. -/
structure IsGroup (length endBitIndex bitCounter i r : Nat) : Prop where
  shift : ∀ j ≤ r, bitShift length (bitCounter + j) (i + j) = r - j
  inner : ∀ j < r, ¬ ((bitCounter + j + 1) % 8 = 0 ∨ i + j = endBitIndex)
  ends : (bitCounter + r + 1) % 8 = 0 ∨ i + r = endBitIndex

theorem IsGroup.tail {bitCounter i : Nat} (h : IsGroup length endBitIndex bitCounter i (r + 1)) :
    IsGroup length endBitIndex (bitCounter + 1) (i + 1) r := by
  constructor
  · intro j hj
    have hshift := h.shift (j + 1) (by omega)
    rw [show bitCounter + 1 + j = bitCounter + (j + 1) by omega,
      show i + 1 + j = i + (j + 1) by omega, hshift]
    omega
  · intro j hj
    have hinner := h.inner (j + 1) (by omega)
    rwa [show bitCounter + 1 + j + 1 = bitCounter + (j + 1) + 1 by omega,
      show i + 1 + j = i + (j + 1) by omega]
  · have hends := h.ends
    rwa [show bitCounter + 1 + r + 1 = bitCounter + (r + 1) + 1 by omega,
      show i + 1 + r = i + (r + 1) by omega]

theorem foldl_group (format : ByteFormat) :
    ∀ {st : Extraction} {i X : Nat}, r < 8 → X < 2 ^ (7 - r) →
      st.currentByte = UInt8.ofNat (X * 2 ^ (r + 1)) →
      IsGroup length endBitIndex st.bitCounter i r →
      (List.range' i (r + 1)).foldl (data.extractBit length endBitIndex format) st =
        { retVal := st.retVal |||
            ((UInt8.ofNat (X * 2 ^ (r + 1) + data.fieldValue i (r + 1))).toUInt64 <<<
              UInt64.ofNat (groupShift format ((length + 8 - 1) / 8) st.amountOfBytesLeft))
          currentByte := 0
          bitCounter := st.bitCounter + r + 1
          amountOfBytesLeft := st.amountOfBytesLeft - 1 } := by
  induction r with
  | zero =>
    intro st i X hr hX hbyte hgroup
    have hshift : bitShift length st.bitCounter i = 0 := hgroup.shift 0 (Nat.le_refl 0)
    have hends : (st.bitCounter + 1) % 8 = 0 ∨ i = endBitIndex := hgroup.ends
    change data.extractBit length endBitIndex format st i = _
    rw [extractBit, hbyte, hshift, if_pos hends, data.currentByte_or hr hX, fieldValue_one,
        Nat.pow_zero, Nat.mul_one,
      Nat.mul_comm 2 X]
    rfl
  | succ r ih =>
    intro st i X hr hX hbyte hgroup
    have hshift : bitShift length st.bitCounter i = r + 1 := hgroup.shift 0 (Nat.zero_le _)
    have hinner : ¬ ((st.bitCounter + 1) % 8 = 0 ∨ i = endBitIndex) :=
      hgroup.inner 0 (Nat.succ_pos r)
    have hstep : data.extractBit length endBitIndex format st i =
        { st with
          currentByte := UInt8.ofNat ((2 * X + data.bitOf i) * 2 ^ (r + 1))
          bitCounter := st.bitCounter + 1 } := by
      rw [extractBit, hbyte, hshift, if_neg hinner, data.currentByte_or hr hX]
    have hbit := data.bitOf_lt i
    have hnext : 2 * X + data.bitOf i < 2 ^ (7 - r) := by
      have hdouble : 2 * 2 ^ (7 - (r + 1)) = 2 ^ (7 - r) := by
        rw [← Nat.pow_succ']
        congr 1
        omega
      omega
    have hvalue : (2 * X + data.bitOf i) * 2 ^ (r + 1) + data.fieldValue (i + 1) (r + 1) =
        X * 2 ^ (r + 1 + 1) + data.fieldValue i (r + 1 + 1) := by
      rw [fieldValue_succ data i]
      ring
    rw [List.range'_succ, List.foldl_cons, hstep]
    rw [ih (by omega) hnext rfl hgroup.tail, hvalue]
    have hcounter : st.bitCounter + 1 + r + 1 = st.bitCounter + (r + 1) + 1 := by omega
    rw [hcounter]

/-- The number that groups make as bytes, the first of them lowest or highest. -/
def assembled (format : ByteFormat) (values : List Nat) : Nat :=
  match format with
  | .littleEndian => Nat.ofDigits 256 values
  | .bigEndian => Nat.ofDigits 256 values.reverse

def placed (format : ByteFormat) (n : Nat) (values : List Nat) : Nat :=
  match format with
  | .littleEndian => Nat.ofDigits 256 values
  | .bigEndian => Nat.ofDigits 256 values.reverse * 256 ^ (n - values.length)

theorem placed_of_length {format : ByteFormat} {values : List Nat} (h : values.length = n) :
    placed format n values = assembled format values := by
  cases format with
  | littleEndian => rfl
  | bigEndian => rw [placed, assembled, h, Nat.sub_self, Nat.pow_zero, Nat.mul_one]

variable {retVal : UInt64} {v : Nat}

theorem toNat_or_group {p : Nat} (hv : v < 256) (hp : p ≤ 7) :
    (retVal ||| ((UInt8.ofNat v).toUInt64 <<< UInt64.ofNat (p * 8))).toNat =
      retVal.toNat ||| v * 256 ^ p := by
  have hshift := toNat_shift64 (UInt8.ofNat v) (k := p * 8) (by omega)
  rw [UInt64.toNat_or, hshift, UInt8.toNat_ofNat_of_lt' hv, Nat.shiftLeft_eq, Nat.mul_comm p 8,
    Nat.pow_mul]

theorem ofDigits_append_one (values : List Nat) (v : Nat) :
    Nat.ofDigits 256 (values ++ [v]) =
      Nat.ofDigits 256 values + v * 256 ^ values.length := by
  rw [Nat.ofDigits_append, Nat.ofDigits_singleton, Nat.mul_comm]

theorem placed_append {format : ByteFormat} (hn : n ≤ 8) {values : List Nat}
    (hvalues : ∀ v ∈ values, v < 256) (hlen : values.length < n) (hv : v < 256)
    (hret : retVal.toNat = placed format n values) :
    (retVal ||| ((UInt8.ofNat v).toUInt64 <<<
      UInt64.ofNat (groupShift format n (n - values.length)))).toNat =
        placed format n (values ++ [v]) := by
  cases format with
  | littleEndian =>
    have hlow : Nat.ofDigits 256 values < 2 ^ (8 * values.length) := by
      rw [Nat.pow_mul]
      exact Nat.ofDigits_lt_base_pow_length (by decide) hvalues
    have hplace : groupShift .littleEndian n (n - values.length) = values.length * 8 := by
      rw [groupShift]
      omega
    rw [hplace, toNat_or_group hv (by omega), hret, placed, placed, ofDigits_append_one,
      Nat.or_comm, show 256 ^ values.length = 2 ^ (8 * values.length) by rw [Nat.pow_mul],
      ← Nat.shiftLeft_eq, ← Nat.shiftLeft_add_eq_or_of_lt hlow, Nat.add_comm]
  | bigEndian =>
    obtain ⟨p, hp⟩ : ∃ p, n - values.length = p + 1 := ⟨n - values.length - 1, by omega⟩
    have hplace : groupShift .bigEndian n (n - values.length) = p * 8 := by
      rw [groupShift]
      omega
    have hleft : n - (values ++ [v]).length = p := by
      rw [List.length_append, List.length_singleton]
      omega
    have hv' : v * 256 ^ p < 2 ^ (8 * (p + 1)) := by
      calc v * 256 ^ p < 256 * 256 ^ p := Nat.mul_lt_mul_of_pos_right hv (Nat.pow_pos (by decide))
        _ = 256 ^ (p + 1) := (Nat.pow_succ' ..).symm
        _ = 2 ^ (8 * (p + 1)) := by rw [Nat.pow_mul]
    rw [hplace, toNat_or_group hv (by omega), hret, placed, placed, hp, hleft,
      List.reverse_append, List.reverse_singleton, List.singleton_append, Nat.ofDigits_cons,
      show 256 ^ (p + 1) = 2 ^ (8 * (p + 1)) by rw [Nat.pow_mul], ← Nat.shiftLeft_eq,
      ← Nat.shiftLeft_add_eq_or_of_lt hv', Nat.shiftLeft_eq, Nat.pow_mul]
    ring

def groups (start k : Nat) : List Nat :=
  (List.range k).map fun g => data.fieldValue (start + 8 * g) 8

@[simp] theorem length_groups (start k : Nat) : (data.groups start k).length = k := by
  rw [groups, List.length_map, List.length_range]

theorem groups_succ (start k : Nat) :
    data.groups start (k + 1) = data.groups start k ++ [data.fieldValue (start + 8 * k) 8] := by
  rw [groups, groups, List.range_succ, List.map_append]
  rfl

theorem lt_of_mem_groups (h : v ∈ data.groups start k) : v < 256 := by
  obtain ⟨g, -, rfl⟩ := List.mem_map.mp h
  exact data.fieldValue_lt _ 8

theorem fieldValue_lt_byte (start : Nat) (h : length ≤ 8) :
    data.fieldValue start length < 256 := by
  calc data.fieldValue start length < 2 ^ length := data.fieldValue_lt start length
    _ ≤ 2 ^ 8 := Nat.pow_le_pow_right (by decide) h

theorem foldl_next (format : ByteFormat) (hn : (length + 8 - 1) / 8 = n) (hle : n ≤ 8)
    (hk : k < n) (hr : r < 8) (hgroup : IsGroup length endBitIndex (8 * k) (start + 8 * k) r)
    (hret : retVal.toNat = placed format n (data.groups start k)) :
    ∃ next : UInt64,
      (List.range' (start + 8 * k) (r + 1)).foldl (data.extractBit length endBitIndex format)
        ⟨retVal, 0, 8 * k, n - k⟩ = ⟨next, 0, 8 * k + r + 1, n - (k + 1)⟩ ∧
      next.toNat = placed format n
        (data.groups start k ++ [data.fieldValue (start + 8 * k) (r + 1)]) := by
  have hplaced := placed_append hle (fun v => data.lt_of_mem_groups)
    (by rw [length_groups]; exact hk) (data.fieldValue_lt_byte (start + 8 * k) hr) hret
  rw [length_groups] at hplaced
  refine ⟨_, ?_, hplaced⟩
  have hempty : (0 : UInt8) = UInt8.ofNat (0 * 2 ^ (r + 1)) := by
    rw [Nat.zero_mul]
    rfl
  rw [data.foldl_group format hr (Nat.two_pow_pos _) hempty hgroup, Nat.zero_mul, Nat.zero_add,
    hn, Nat.sub_sub]

theorem foldl_groups (format : ByteFormat) (hn : (length + 8 - 1) / 8 = n) (hle : n ≤ 8)
    (hk : k ≤ n) (hgroup : ∀ g < k, IsGroup length endBitIndex (8 * g) (start + 8 * g) 7) :
    ∃ retVal : UInt64,
      (List.range' start (8 * k)).foldl (data.extractBit length endBitIndex format)
        ⟨0, 0, 0, n⟩ = ⟨retVal, 0, 8 * k, n - k⟩ ∧
      retVal.toNat = placed format n (data.groups start k) := by
  induction k with
  | zero =>
    refine ⟨0, rfl, ?_⟩
    cases format with
    | littleEndian => rfl
    | bigEndian => exact (Nat.zero_mul _).symm
  | succ k ih =>
    obtain ⟨retVal, hfold, hret⟩ := ih (by omega) fun g hg => hgroup g (by omega)
    obtain ⟨next, hnext, hplaced⟩ :=
      data.foldl_next format hn hle hk (by decide) (hgroup k (by omega)) hret
    refine ⟨next, ?_, ?_⟩
    · rw [Nat.mul_succ, ← List.range'_append_1, List.foldl_append, hfold, hnext]
    · rw [groups_succ, hplaced]

theorem getDataCustomLength_toNat {start length : UInt32} (format : ByteFormat)
    (hlength : length.toNat = 8 * k + (r + 1)) (hr : r < 8) (hk : k < 8)
    (hin : start.toNat + length.toNat ≤ 8 * data.length) (hmax : 8 * data.length < 2 ^ 32)
    (hgroup : ∀ g < k,
      IsGroup length.toNat (start.toNat + (8 * k + r)) (8 * g) (start.toNat + 8 * g) 7)
    (hlast : IsGroup length.toNat (start.toNat + (8 * k + r)) (8 * k) (start.toNat + 8 * k) r) :
    (data.getDataCustomLength start length format).toNat =
      assembled format (data.groups start.toNat k ++
        [data.fieldValue (start.toNat + 8 * k) (r + 1)]) := by
  have hsum : (start + length).toNat = start.toNat + length.toNat := by
    rw [UInt32.toNat_add]
    exact Nat.mod_eq_of_lt (by omega)
  have hone : (1 : UInt32) ≤ start + length := by
    rw [UInt32.le_iff_toNat_le, hsum]
    change 1 ≤ _
    omega
  have hend : (start + length - 1).toNat = start.toNat + (8 * k + r) := by
    rw [UInt32.toNat_sub_of_le _ _ hone, hsum]
    change _ - 1 = _
    omega
  have hpos : ¬ length < 1 := by
    rw [UInt32.lt_iff_toNat_lt]
    change ¬ _ < 1
    omega
  have hcheck : ¬ ((start + length - 1).toNat ≥ 8 * data.length ∨ length < 1 ∨
      start.toNat ≥ 8 * data.length) := by
    intro hrejected
    rw [hend] at hrejected
    rcases hrejected with hlarge | hshort | hstart
    · omega
    · exact hpos hshort
    · omega
  have hn : (length.toNat + 8 - 1) / 8 = k + 1 := by omega
  obtain ⟨retVal, hfold, hret⟩ := data.foldl_groups format hn (by omega) (Nat.le_succ k) hgroup
  obtain ⟨next, hnext, hplaced⟩ :=
    data.foldl_next format hn (by omega) (Nat.lt_succ_self k) hr hlast hret
  have hcount : start.toNat + (8 * k + r) + 1 - start.toNat = 8 * k + (r + 1) := by omega
  rw [getDataCustomLength, if_neg hcheck, hend, hcount, ← List.range'_append_1,
      List.foldl_append, hn,
      hfold, hnext]
  change next.toNat = _
  rw [hplaced, placed_of_length]
  rw [List.length_append, length_groups, List.length_singleton]

/-- The groups of a short field, and of one from the start of a byte on that ends with one or with
seven bits. -/
def ReadInGroups (start k r : Nat) : Prop := (k = 0 ∧ r < 7) ∨ (8 ∣ start ∧ (r = 6 ∨ r = 7))

theorem isGroup_of_full {g : Nat} (h : ReadInGroups start k r) (hg : g < k) :
    IsGroup (8 * k + (r + 1)) (start + (8 * k + r)) (8 * g) (start + 8 * g) 7 := by
  obtain ⟨hk, -⟩ | ⟨hstart, hr⟩ := h
  · omega
  · obtain ⟨byteIndex, rfl⟩ := hstart
    constructor
    · intro j hj
      rw [bitShift]
      split
      · omega
      · omega
    · intro j hj
      omega
    · exact Or.inl (by omega)

theorem isGroup_of_last (h : ReadInGroups start k r) :
    IsGroup (8 * k + (r + 1)) (start + (8 * k + r)) (8 * k) (start + 8 * k) r := by
  constructor
  · intro j hj
    rw [bitShift]
    split
    · omega
    · obtain ⟨-, hr⟩ | ⟨⟨byteIndex, rfl⟩, hr⟩ := h
      · omega
      · omega
  · intro j hj
    obtain ⟨-, hr⟩ | ⟨-, hr⟩ := h
    · omega
    · omega
  · exact Or.inr (by omega)

theorem getDataCustomLength_of_groups {start length : UInt32} (format : ByteFormat)
    (hlength : length.toNat = 8 * k + (r + 1)) (hr : r < 8) (hk : k < 8)
    (hin : start.toNat + length.toNat ≤ 8 * data.length) (hmax : 8 * data.length < 2 ^ 32)
    (hgroups : ReadInGroups start.toNat k r) :
    (data.getDataCustomLength start length format).toNat =
      assembled format (data.groups start.toNat k ++
        [data.fieldValue (start.toNat + 8 * k) (r + 1)]) := by
  apply data.getDataCustomLength_toNat format hlength hr hk hin hmax
  · intro g hg
    rw [hlength]
    exact isGroup_of_full hgroups hg
  · rw [hlength]
    exact isGroup_of_last hgroups

theorem fieldValue_eq_groups (start k : Nat) :
    data.fieldValue start (8 * k) = Nat.ofDigits 256 (data.groups start k).reverse := by
  induction k with
  | zero => rfl
  | succ k ih =>
    rw [Nat.mul_succ, fieldValue_add, ih, groups_succ, List.reverse_append,
      List.reverse_singleton, List.singleton_append, Nat.ofDigits_cons]
    ring

theorem assembled_bigEndian (start k r : Nat) :
    assembled .bigEndian (data.groups start k ++ [data.fieldValue (start + 8 * k) (r + 1)]) =
      data.fieldValue start (8 * k) * 2 ^ 8 + data.fieldValue (start + 8 * k) (r + 1) := by
  rw [assembled, List.reverse_append, List.reverse_singleton, List.singleton_append,
    Nat.ofDigits_cons, fieldValue_eq_groups]
  ring

theorem fieldValue_byte (byteIndex : Nat) :
    data.fieldValue (8 * byteIndex) 8 = (data.getD byteIndex 0).toNat := by
  have hbyte := (data.getD byteIndex 0).toNat_lt
  have hbit : ∀ j < 8, data.bitOf (8 * byteIndex + j) =
      (data.getD byteIndex 0).toNat / 2 ^ (7 - j) % 2 := by
    intro j hj
    have hindex : (8 * byteIndex + j) / 8 = byteIndex := by omega
    have hwithin : (8 * byteIndex + j) % 8 = j := by omega
    rw [bitOf, hindex, hwithin]
  have hbit₀ := hbit 0 (by decide)
  have hbit₁ := hbit 1 (by decide)
  have hbit₂ := hbit 2 (by decide)
  have hbit₃ := hbit 3 (by decide)
  have hbit₄ := hbit 4 (by decide)
  have hbit₅ := hbit 5 (by decide)
  have hbit₆ := hbit 6 (by decide)
  have hbit₇ := hbit 7 (by decide)
  simp only [fieldValue_succ, fieldValue_zero, Nat.add_assoc, Nat.reduceAdd]
  rw [Nat.add_zero] at hbit₀
  rw [hbit₀, hbit₁, hbit₂, hbit₃, hbit₄, hbit₅, hbit₆, hbit₇]
  omega

theorem groups_eq_bytes {byteIndex : Nat} (h : byteIndex + k ≤ data.length) :
    data.groups (8 * byteIndex) k = ((data.drop byteIndex).take k).map UInt8.toNat := by
  apply List.ext_getElem
  · rw [length_groups, List.length_map, List.length_take, List.length_drop]
    omega
  · intro g hg hg'
    rw [length_groups] at hg
    have hindex : byteIndex + g < data.length := by omega
    have hstart : 8 * byteIndex + 8 * g = 8 * (byteIndex + g) := by omega
    simp only [groups, List.getElem_map, List.getElem_range, List.getElem_take,
      List.getElem_drop]
    rw [hstart, fieldValue_byte, List.getD_eq_getElem?_getD, List.getElem?_eq_getElem hindex,
      Option.getD_some]

theorem leValue_eq_ofDigits (bytes : List UInt8) :
    leValue bytes = Nat.ofDigits 256 (bytes.map UInt8.toNat) := by
  induction bytes with
  | nil => rfl
  | cons b bytes ih => rw [leValue, ih, List.map_cons, Nat.ofDigits_cons]

end MessageBytes

/-- What the fields of a message are read as: a field of less than a byte, or of whole bytes, is its
big-endian integer; a field of bytes is their little-endian integer in the other format; seven bits
behind whole bytes are a byte of their own. -/
structure ExtractsField (data : MessageBytes) (start length : UInt32) : Prop where
  bigEndian : length.toNat < 8 ∨ (8 ∣ start.toNat ∧ 8 ∣ length.toNat) →
    (data.getDataCustomLength start length .bigEndian).toNat =
      data.fieldValue start.toNat length.toNat
  sevenLeft : ∀ k, 8 ∣ start.toNat → length.toNat = 8 * k + 7 →
    (data.getDataCustomLength start length .bigEndian).toNat =
      data.fieldValue start.toNat (8 * k) * 2 ^ 8 + data.fieldValue (start.toNat + 8 * k) 7
  littleEndian : ∀ byteIndex k, start.toNat = 8 * byteIndex → length.toNat = 8 * k →
    (data.getDataCustomLength start length .littleEndian).toNat =
      leValue ((data.drop byteIndex).take k)
  accessors : ∀ byteIndex (width : Width), start.toNat = 8 * byteIndex →
    length.toNat = 8 * width.bytes →
    data.unsignedAt width byteIndex .littleEndian =
      some (data.getDataCustomLength start length .littleEndian).toNat

def ABSOLUTE_MAX_MESSAGE_LENGTH : Nat := 117440505

theorem extractsField {data : MessageBytes} {start length : UInt32} (hpos : 1 ≤ length.toNat)
    (hle : length.toNat ≤ 64) (hin : start.toNat + length.toNat ≤ 8 * data.length)
    (hmax : data.length ≤ ABSOLUTE_MAX_MESSAGE_LENGTH) : ExtractsField data start length := by
  have hbits : 8 * data.length < 2 ^ 32 := by
    rw [ABSOLUTE_MAX_MESSAGE_LENGTH] at hmax
    omega
  have hlittle : ∀ byteIndex k, start.toNat = 8 * byteIndex → length.toNat = 8 * k →
      (data.getDataCustomLength start length .littleEndian).toNat =
        leValue ((data.drop byteIndex).take k) := by
    intro byteIndex k hstart hlength
    obtain ⟨k, rfl⟩ : ∃ k', k = k' + 1 := ⟨k - 1, by omega⟩
    rw [data.getDataCustomLength_of_groups .littleEndian (k := k) (r := 7) hlength (by decide)
      (by omega) hin hbits (Or.inr ⟨⟨byteIndex, hstart⟩, Or.inr rfl⟩)]
    rw [MessageBytes.assembled, hstart, ← MessageBytes.groups_succ,
      data.groups_eq_bytes (by omega), MessageBytes.leValue_eq_ofDigits]
  constructor
  · rintro (hshort | ⟨hstart, hwhole⟩)
    · have hlength : length.toNat - 1 + 1 = length.toNat := by omega
      rw [data.getDataCustomLength_of_groups .bigEndian (k := 0) (r := length.toNat - 1) (by omega)
        (by omega) (by decide) hin hbits (Or.inl ⟨rfl, by omega⟩), hlength]
      exact Nat.ofDigits_singleton
    · obtain ⟨k, hlength⟩ := hwhole
      obtain ⟨k, rfl⟩ : ∃ k', k = k' + 1 := ⟨k - 1, by omega⟩
      rw [data.getDataCustomLength_of_groups .bigEndian (k := k) (r := 7) hlength (by decide)
        (by omega) hin hbits (Or.inr ⟨hstart, Or.inr rfl⟩), data.assembled_bigEndian, hlength,
        Nat.mul_succ, data.fieldValue_add start.toNat (8 * k) 8]
  · intro k hstart hlength
    rw [data.getDataCustomLength_of_groups .bigEndian (k := k) (r := 6) hlength (by decide)
      (by omega) hin hbits (Or.inr ⟨hstart, Or.inl rfl⟩), data.assembled_bigEndian]
  · exact hlittle
  · intro byteIndex width hstart hlength
    have hslice : byteIndex + width.bytes ≤ data.length := by omega
    rw [data.unsignedAt_eq hslice, hlittle byteIndex width.bytes hstart hlength]
    rfl

/-- Sixteen bits from the second byte of eight. -/
theorem second_field_extracted :
    1 ≤ (16 : UInt32).toNat ∧ (16 : UInt32).toNat ≤ 64 ∧
      ExtractsField [1, 2, 3, 4, 5, 6, 7, 8] 8 16 :=
  ⟨by decide, by decide, extractsField (by decide) (by decide) (by decide) (by decide)⟩

/-- The fifteen bits from the second byte on are 257, and are read as 513. -/
theorem fifteen_bits_misread :
    ¬ ∀ (data : MessageBytes) (start length : UInt32), 1 ≤ length.toNat → length.toNat ≤ 64 →
      start.toNat + length.toNat ≤ 8 * data.length → data.length ≤ ABSOLUTE_MAX_MESSAGE_LENGTH →
      (data.getDataCustomLength start length .bigEndian).toNat =
        data.fieldValue start.toNat length.toNat := by
  intro hall
  have hfifteen :=
      hall [1, 2, 3, 4, 5, 6, 7, 8] 8 15 (by decide) (by decide) (by decide) (by decide)
  revert hfifteen
  decide +kernel

end Isobus.Can
