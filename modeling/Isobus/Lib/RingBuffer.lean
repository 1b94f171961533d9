import Mathlib.Data.List.Range
import Mathlib.Logic.Function.Basic

/-!
# Ring buffers

A queue in an array of fixed size between a read and a write index.
-/

namespace Isobus.Lib

structure RingBuffer (α : Type) where
  capacity : Nat
  buffer : Nat → α
  readIndex : Nat
  writeIndex : Nat
  readIndex_lt : readIndex < capacity
  writeIndex_lt : writeIndex < capacity

namespace RingBuffer

variable {α : Type}

def ofCapacity (fill : α) (capacity : Nat) (h : 0 < capacity) : RingBuffer α where
  capacity := capacity
  buffer := fun _ => fill
  readIndex := 0
  writeIndex := 0
  readIndex_lt := h
  writeIndex_lt := h

variable (q : RingBuffer α)

theorem capacity_pos : 0 < q.capacity := Nat.lt_of_le_of_lt (Nat.zero_le _) q.readIndex_lt

def nextIndex (current : Nat) : Nat := (current + 1) % q.capacity

theorem nextIndex_lt (current : Nat) : q.nextIndex current < q.capacity :=
  Nat.mod_lt _ q.capacity_pos

def push (item : α) : Option (RingBuffer α) :=
  if q.nextIndex q.writeIndex = q.readIndex then none
  else
    some { q with
      buffer := Function.update q.buffer q.writeIndex item
      writeIndex := q.nextIndex q.writeIndex
      writeIndex_lt := q.nextIndex_lt _ }

def peek : Option α :=
  if q.readIndex = q.writeIndex then none else some (q.buffer q.readIndex)

def pop : RingBuffer α :=
  if q.readIndex = q.writeIndex then q
  else { q with readIndex := q.nextIndex q.readIndex, readIndex_lt := q.nextIndex_lt _ }

def isFull : Bool := q.nextIndex q.writeIndex = q.readIndex

def clear : RingBuffer α :=
  { q with readIndex := q.writeIndex, readIndex_lt := q.writeIndex_lt }

def length : Nat := (q.writeIndex + q.capacity - q.readIndex) % q.capacity

def contents : List α :=
  (List.range q.length).map fun k => q.buffer ((q.readIndex + k) % q.capacity)

@[simp] theorem length_contents : q.contents.length = q.length := by simp [contents]

theorem mod_of_lt_two_mul {n c : Nat} (h : n < 2 * c) : n % c = if n < c then n else n - c := by
  split
  · exact Nat.mod_eq_of_lt ‹_›
  · rw [Nat.mod_eq_sub_mod (by omega), Nat.mod_eq_of_lt (by omega)]

theorem length_eq :
    q.length = if q.readIndex ≤ q.writeIndex then q.writeIndex - q.readIndex
      else q.writeIndex + q.capacity - q.readIndex := by
  have hread := q.readIndex_lt
  have hwrite := q.writeIndex_lt
  rw [length, mod_of_lt_two_mul (by omega)]
  split <;> split <;> omega

theorem nextIndex_eq {current : Nat} (h : current < q.capacity) :
    q.nextIndex current = if current + 1 < q.capacity then current + 1 else 0 := by
  rw [nextIndex, mod_of_lt_two_mul (by omega)]
  split
  · rfl
  · omega

theorem length_lt : q.length < q.capacity := Nat.mod_lt _ q.capacity_pos

theorem contents_eq_nil_iff : q.contents = [] ↔ q.readIndex = q.writeIndex := by
  have hread := q.readIndex_lt
  have hwrite := q.writeIndex_lt
  rw [← List.length_eq_zero_iff, length_contents, length_eq]
  split <;> omega

theorem contents_clear : q.clear.contents = [] := (contents_eq_nil_iff _).mpr rfl

theorem isFull_iff : q.isFull = true ↔ q.contents.length + 1 = q.capacity := by
  have hread := q.readIndex_lt
  have hwrite := q.writeIndex_lt
  rw [isFull, decide_eq_true_eq, length_contents, length_eq, q.nextIndex_eq hwrite]
  split <;> split <;> omega

theorem length_pos (h : q.readIndex ≠ q.writeIndex) : 0 < q.length := by
  rw [← length_contents, List.length_pos_iff]
  exact fun hnil => h (q.contents_eq_nil_iff.mp hnil)

theorem peek_eq_head? : q.peek = q.contents.head? := by
  by_cases h : q.readIndex = q.writeIndex
  · rw [peek, if_pos h, q.contents_eq_nil_iff.mpr h]
    rfl
  · have hpos := q.length_pos h
    have hfirst : (q.readIndex + 0) % q.capacity = q.readIndex := Nat.mod_eq_of_lt q.readIndex_lt
    rw [peek, if_neg h, contents, List.head?_map, List.head?_range, if_neg (by omega),
      Option.map_some, hfirst]

theorem contents_skip {k place : Nat} (hk : k ≤ q.length) (hplace : place < q.capacity)
    (h : place = (q.readIndex + k) % q.capacity) :
    { q with readIndex := place, readIndex_lt := hplace : RingBuffer α }.contents =
      q.contents.drop k := by
  have hread := q.readIndex_lt
  have hwrite := q.writeIndex_lt
  have hlt := q.length_lt
  have hlength : ({ q with readIndex := place, readIndex_lt := hplace } : RingBuffer α).length =
      q.length - k := by
    have hplace' := mod_of_lt_two_mul (show q.readIndex + k < 2 * q.capacity by omega)
    rw [length_eq, q.length_eq]
    rw [q.length_eq] at hk
    dsimp only
    split at hplace' <;> split at hk <;> split <;> omega
  apply List.ext_getElem
  · simp [hlength]
  · intro j hj _
    have hstep : (place + j) % q.capacity = (q.readIndex + (k + j)) % q.capacity := by
      rw [h, Nat.mod_add_mod, Nat.add_assoc]
    simp [contents, hstep]

/-- The place behind the items is the one at the write index. -/
theorem place_eq_iff {k : Nat} (hk : k ≤ q.length) :
    (q.readIndex + k) % q.capacity = q.writeIndex ↔ k = q.length := by
  have hread := q.readIndex_lt
  have hwrite := q.writeIndex_lt
  have hlt := q.length_lt
  have hcount := q.length_eq
  rw [mod_of_lt_two_mul (by omega)]
  split at hcount <;> split <;> omega

theorem contents_write (item : α) :
    { q with buffer := Function.update q.buffer q.writeIndex item }.contents = q.contents := by
  refine List.map_congr_left fun k hk => Function.update_of_ne (fun heq => ?_) _ _
  have hlt : k < q.length := List.mem_range.mp hk
  exact hlt.ne ((q.place_eq_iff hlt.le).mp heq)

theorem contents_advance (h : q.length + 1 < q.capacity) :
    { q with writeIndex := q.nextIndex q.writeIndex, writeIndex_lt := q.nextIndex_lt _ }.contents =
      q.contents ++ [q.buffer q.writeIndex] := by
  have hread := q.readIndex_lt
  have hwrite := q.writeIndex_lt
  have hlength : ({ q with
      writeIndex := q.nextIndex q.writeIndex
      writeIndex_lt := q.nextIndex_lt _ } : RingBuffer α).length = q.length + 1 := by
    have hnext := q.nextIndex_eq hwrite
    rw [q.length_eq] at h ⊢
    rw [length_eq]
    dsimp only
    split at hnext <;> split at h <;> split <;> omega
  rw [contents, hlength, List.range_succ, List.map_append, List.map_singleton,
    (q.place_eq_iff le_rfl).mpr rfl]
  rfl

end RingBuffer

end Isobus.Lib
