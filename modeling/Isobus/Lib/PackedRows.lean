import Mathlib.Data.List.Basic
import Mathlib.Tactic.Ring

/-!
# Packed rows

Rows of equal width whose elements are packed into units, each row starting with a unit of its own.
-/

namespace Isobus.Lib

variable {α β : Type}

def unpackUnit (unpack : α → List β) (left : Nat) (unit : α) : List β := (unpack unit).take left

def leftAfter (size width left : Nat) : Nat := if left ≤ size then width else left - size

def unpackRows (unpack : α → List β) (size width : Nat) : Nat → List α → List β
  | _, [] => []
  | left, unit :: units =>
    unpackUnit unpack left unit ++
      unpackRows unpack size width (leftAfter size width left) units

def unitsPerRow (size width : Nat) : Nat := (width + size - 1) / size

section Rows

variable {unpack : α → List β} {size width : Nat}

theorem getElem?_flatMap (hsize : 0 < size) (hunpack : ∀ a, (unpack a).length = size)
    (units : List α) (i : Nat) :
    (units.flatMap unpack)[i]? = units[i / size]?.bind fun unit => (unpack unit)[i % size]? := by
  induction units generalizing i with
  | nil => simp
  | cons unit units ih =>
    rw [List.flatMap_cons]
    by_cases hi : i < size
    · rw [List.getElem?_append_left (by rwa [hunpack]), Nat.div_eq_of_lt hi, Nat.mod_eq_of_lt hi]
      rfl
    · have hle : size ≤ i := Nat.le_of_not_lt hi
      rw [List.getElem?_append_right (by rwa [hunpack]), hunpack, ih,
        Nat.div_eq_sub_div hsize hle, List.getElem?_cons_succ, Nat.mod_eq_sub_mod hle]

theorem length_flatMap (hunpack : ∀ a, (unpack a).length = size) (units : List α) :
    (units.flatMap unpack).length = size * units.length := by
  induction units with
  | nil => rfl
  | cons unit units ih =>
    rw [List.flatMap_cons, List.length_append, hunpack, ih, List.length_cons]
    ring

theorem unpackRows_of_short (hunpack : ∀ a, (unpack a).length = size) {left : Nat}
    {units : List α} (hshort : size * units.length < left) :
    unpackRows unpack size width left units = units.flatMap unpack := by
  induction units generalizing left with
  | nil => rfl
  | cons unit units ih =>
    rw [List.length_cons, Nat.mul_succ] at hshort
    rw [unpackRows, leftAfter, if_neg (by omega), ih (by omega), List.flatMap_cons, unpackUnit,
      List.take_of_length_le (by rw [hunpack]; omega)]

theorem unpackRows_append (hunpack : ∀ a, (unpack a).length = size) {left : Nat}
    {units : List α} (hfills : left ≤ size * units.length)
    (hneeds : size * units.length < left + size) (rest : List α) (hleft : 0 < left) :
    unpackRows unpack size width left (units ++ rest) =
      (units.flatMap unpack).take left ++ unpackRows unpack size width width rest := by
  induction units generalizing left with
  | nil =>
    rw [List.length_nil] at hfills
    omega
  | cons unit units ih =>
    rw [List.length_cons, Nat.mul_succ] at hfills hneeds
    rw [List.cons_append, unpackRows, List.flatMap_cons, unpackUnit]
    by_cases hlast : left ≤ size
    · have hnil : units = [] := by
        apply List.eq_nil_of_length_eq_zero
        by_contra hpos
        have := Nat.mul_le_mul_left size (Nat.one_le_iff_ne_zero.mpr hpos)
        omega
      rw [leftAfter, if_pos hlast, hnil, List.flatMap_nil, List.append_nil, List.nil_append]
    · rw [leftAfter, if_neg hlast, ih (by omega) (by omega) (by omega),
        List.take_append, hunpack, List.append_assoc]

theorem le_size_mul_unitsPerRow (hsize : 0 < size) : width ≤ size * unitsPerRow size width := by
  have hmod := Nat.div_add_mod (width + size - 1) size
  have hlt := Nat.mod_lt (width + size - 1) hsize
  unfold unitsPerRow
  omega

theorem size_mul_unitsPerRow_lt (hsize : 0 < size) :
    size * unitsPerRow size width < width + size := by
  have hle := Nat.mul_div_le (width + size - 1) size
  unfold unitsPerRow
  omega

theorem unpackRows_row (hsize : 0 < size) (hwidth : 0 < width)
    (hunpack : ∀ a, (unpack a).length = size) {row : List α}
    (hrow : row.length = unitsPerRow size width) (rest : List α) :
    unpackRows unpack size width width (row ++ rest) =
      (row.flatMap unpack).take width ++ unpackRows unpack size width width rest :=
  unpackRows_append hunpack (hrow ▸ le_size_mul_unitsPerRow hsize)
    (hrow ▸ size_mul_unitsPerRow_lt hsize) rest hwidth

theorem length_row (hsize : 0 < size) (hunpack : ∀ a, (unpack a).length = size) {row : List α}
    (hrow : row.length = unitsPerRow size width) :
    ((row.flatMap unpack).take width).length = width := by
  rw [List.length_take, length_flatMap hunpack, hrow]
  exact Nat.min_eq_left (le_size_mul_unitsPerRow hsize)

theorem row_or_short (units : List α) (size width : Nat) :
    (∃ row rest, units = row ++ rest ∧ row.length = unitsPerRow size width) ∨
      units.length < unitsPerRow size width := by
  rcases Nat.lt_or_ge units.length (unitsPerRow size width) with hlt | hle
  · exact .inr hlt
  · exact .inl ⟨_, _, (List.take_append_drop _ _).symm, List.length_take_of_le hle⟩

theorem unpackRows_of_lt (hsize : 0 < size) (hunpack : ∀ a, (unpack a).length = size)
    {units : List α} (hlt : units.length < unitsPerRow size width) :
    unpackRows unpack size width width units = units.flatMap unpack ∧
      (units.flatMap unpack).length < width := by
  have hshort : size * units.length < width := by
    have hle := Nat.mul_le_mul_left size (Nat.succ_le_of_lt hlt)
    have := @size_mul_unitsPerRow_lt size width hsize
    rw [Nat.mul_succ] at hle
    omega
  exact ⟨unpackRows_of_short hunpack hshort, by rwa [length_flatMap hunpack]⟩

theorem length_unpackRows_le (hunpack : ∀ a, (unpack a).length = size) (left : Nat)
    (units : List α) : (unpackRows unpack size width left units).length ≤ size * units.length := by
  induction units generalizing left with
  | nil => exact Nat.zero_le _
  | cons unit units ih =>
    have hunit := List.length_take_le' left (unpack unit)
    have := ih (leftAfter size width left)
    rw [hunpack] at hunit
    rw [unpackRows, List.length_append, List.length_cons, Nat.mul_succ, unpackUnit]
    omega

theorem mul_le_length_unpackRows_iff (hsize : 0 < size) (hwidth : 0 < width)
    (hunpack : ∀ a, (unpack a).length = size) (units : List α) (height : Nat) :
    width * height ≤ (unpackRows unpack size width width units).length ↔
      unitsPerRow size width * height ≤ units.length := by
  induction height generalizing units with
  | zero => simp
  | succ height ih =>
    rcases row_or_short units size width with ⟨row, rest, rfl, hrow⟩ | hlt
    · rw [unpackRows_row hsize hwidth hunpack hrow, List.length_append,
        length_row hsize hunpack hrow, List.length_append, hrow, Nat.mul_succ, Nat.mul_succ]
      have := ih rest
      omega
    · obtain ⟨heq, hlength⟩ := unpackRows_of_lt hsize hunpack hlt
      rw [heq, Nat.mul_succ, Nat.mul_succ]
      omega

theorem length_unpackRows_le_mul_iff (hsize : 0 < size) (hwidth : 0 < width)
    (hunpack : ∀ a, (unpack a).length = size) (units : List α) (height : Nat) :
    (unpackRows unpack size width width units).length ≤ width * height ↔
      units.length ≤ unitsPerRow size width * height := by
  induction height generalizing units with
  | zero =>
    cases units with
    | nil => simp [unpackRows]
    | cons unit units =>
      rw [unpackRows, unpackUnit, List.length_append, List.length_take, hunpack]
      simp only [Nat.mul_zero, List.length_cons]
      omega
  | succ height ih =>
    rcases row_or_short units size width with ⟨row, rest, rfl, hrow⟩ | hlt
    · rw [unpackRows_row hsize hwidth hunpack hrow, List.length_append,
        length_row hsize hunpack hrow, List.length_append, hrow, Nat.mul_succ, Nat.mul_succ]
      have := ih rest
      omega
    · obtain ⟨heq, hlength⟩ := unpackRows_of_lt hsize hunpack hlt
      rw [heq, Nat.mul_succ, Nat.mul_succ]
      omega

theorem getElem?_unpackRows (hsize : 0 < size) (hwidth : 0 < width)
    (hunpack : ∀ a, (unpack a).length = size) (units : List α) {row column : Nat}
    (hcolumn : column < width) :
    (unpackRows unpack size width width units)[width * row + column]? =
      units[unitsPerRow size width * row + column / size]?.bind fun unit =>
        (unpack unit)[column % size]? := by
  have hunit : column / size < unitsPerRow size width := by
    apply Nat.div_lt_of_lt_mul
    exact Nat.lt_of_lt_of_le hcolumn (le_size_mul_unitsPerRow hsize)
  induction row generalizing units with
  | zero =>
    rw [Nat.mul_zero, Nat.zero_add, Nat.mul_zero, Nat.zero_add]
    rcases row_or_short units size width with ⟨row, rest, rfl, hrow⟩ | hlt
    · rw [unpackRows_row hsize hwidth hunpack hrow,
        List.getElem?_append_left (by rwa [length_row hsize hunpack hrow]),
        List.getElem?_take_of_lt hcolumn, getElem?_flatMap hsize hunpack,
        List.getElem?_append_left (by rwa [hrow])]
    · rw [(unpackRows_of_lt hsize hunpack hlt).1, getElem?_flatMap hsize hunpack]
  | succ row ih =>
    rw [Nat.mul_succ, Nat.mul_succ]
    generalize column / size = position at hunit ih ⊢
    rcases row_or_short units size width with ⟨first, rest, rfl, hfirst⟩ | hlt
    · have hlength := length_row hsize hunpack hfirst
      rw [unpackRows_row hsize hwidth hunpack hfirst,
        List.getElem?_append_right (by rw [hlength]; omega),
        List.getElem?_append_right (by rw [hfirst]; omega), hlength, hfirst]
      have hindex : width * row + width + column - width = width * row + column := by omega
      have hindex' : unitsPerRow size width * row + unitsPerRow size width + position -
          unitsPerRow size width = unitsPerRow size width * row + position := by omega
      rw [hindex, hindex', ih]
    · obtain ⟨heq, hlength⟩ := unpackRows_of_lt hsize hunpack hlt
      rw [heq, List.getElem?_eq_none (by omega), List.getElem?_eq_none (by omega)]
      rfl

end Rows

end Isobus.Lib
