import Isobus.Lib.Machine
import Mathlib.Data.UInt
import Mathlib.Tactic

/-!
# Message data from a callback

`CANMessageDataCallback` asks for one chunk at a time (`can_message_data.cpp`).
-/

namespace Isobus.Can

open Isobus.Lib

/-- A callback, with a state of its own, that fills the requested range from a byte sequence. -/
structure DataChunkCallback (κ : Type) (source : Nat → UInt8) where
  call : κ → (bytesOffset numberOfBytesNeeded : UInt32) → List UInt8 → κ × List UInt8
  length : ∀ k offset needed chunkBuffer,
    (call k offset needed chunkBuffer).2.length = chunkBuffer.length
  fills : ∀ k offset needed chunkBuffer j, j < needed.toNat → j < chunkBuffer.length →
    (call k offset needed chunkBuffer).2[j]? = some (source (offset.toNat + j))

structure CANMessageDataCallback (κ : Type) where
  totalSize : UInt64
  buffer : List UInt8
  bufferSize : UInt64
  dataOffset : UInt64
  initialized : Bool
  parent : κ

inductive DataAccess
  | requested (bytesOffset numberOfBytesNeeded : UInt32)
  | returned (index : UInt64) (byte : UInt8)
  deriving DecidableEq

namespace CANMessageDataCallback

variable {κ : Type} {source : Nat → UInt8}

def lesser (a b : UInt64) : UInt64 := if b < a then b else a

def ofSize (size chunkSize : UInt64) (parent : κ) : CANMessageDataCallback κ where
  totalSize := size
  buffer := List.replicate chunkSize.toNat 0
  bufferSize := chunkSize
  dataOffset := 0
  initialized := false
  parent := parent

def getByte (callback : DataChunkCallback κ source) (self : CANMessageDataCallback κ)
    (index : UInt64) : CANMessageDataCallback κ × List DataAccess :=
  if index ≥ self.totalSize then (self, [.returned index 0])
  else if index ≥ self.dataOffset + self.bufferSize ∨ index < self.dataOffset ∨
      ¬ self.initialized then
    let offset := index.toUInt32
    let needed := (lesser (self.totalSize - index) self.bufferSize).toUInt32
    let filled := callback.call self.parent offset needed self.buffer
    ({ self with
        initialized := true
        dataOffset := index
        buffer := filled.2
        parent := filled.1 },
      [.requested offset needed, .returned index (filled.2.getD (index - index).toNat 0)])
  else (self, [.returned index (self.buffer.getD (index - self.dataOffset).toNat 0)])

end CANMessageDataCallback

def dataReader {κ : Type} {source : Nat → UInt8} (callback : DataChunkCallback κ source) :
    Machine (CANMessageDataCallback κ) UInt64 DataAccess where
  step := CANMessageDataCallback.getByte callback

namespace DataAccess

/-- An access returns the byte of the source, and zero behind its end; a request stays inside. -/
def IsRight (source : Nat → UInt8) (totalSize : UInt64) : DataAccess → Prop
  | requested offset needed => offset.toNat + needed.toNat ≤ totalSize.toNat
  | returned index byte =>
    byte = if index < totalSize then source index.toNat else 0

end DataAccess

namespace CANMessageDataCallback

variable {κ : Type} {source : Nat → UInt8}

structure Holds (source : Nat → UInt8) (size chunkSize : UInt64)
    (reader : CANMessageDataCallback κ) : Prop where
  totalSize : reader.totalSize = size
  bufferSize : reader.bufferSize = chunkSize
  length : reader.buffer.length = chunkSize.toNat
  bytes : reader.initialized = true → ∀ j < chunkSize.toNat,
    reader.dataOffset.toNat + j < size.toNat →
    reader.buffer[j]? = some (source (reader.dataOffset.toNat + j))

def FitsCallback (size chunkSize : UInt64) : Prop :=
  size.toNat < 2 ^ 32 ∨ size.toNat = 2 ^ 32 ∧ chunkSize.toNat < 2 ^ 32

variable {size chunkSize : UInt64}

theorem FitsCallback.request (h : FitsCallback size chunkSize) {index : UInt64}
    (hindex : index < size) :
    index.toUInt32.toNat = index.toNat ∧
      (lesser (size - index) chunkSize).toUInt32.toNat =
        min (size.toNat - index.toNat) chunkSize.toNat := by
  have hlt := UInt64.lt_iff_toNat_lt.mp hindex
  have hrest : (size - index).toNat = size.toNat - index.toNat :=
    UInt64.toNat_sub_of_le _ _ (UInt64.le_of_lt hindex)
  have hmin : (lesser (size - index) chunkSize).toNat =
      min (size.toNat - index.toNat) chunkSize.toNat := by
    unfold lesser
    split
    · rename_i hless
      have hless := UInt64.lt_iff_toNat_lt.mp hless
      omega
    · rename_i hless
      have hless := mt UInt64.lt_iff_toNat_lt.mpr hless
      omega
  rw [UInt64.toNat_toUInt32, UInt64.toNat_toUInt32, hmin]
  unfold FitsCallback at h
  constructor
  · exact Nat.mod_eq_of_lt (by omega)
  · exact Nat.mod_eq_of_lt (by omega)

theorem getElem?_call (callback : DataChunkCallback κ source) (k : κ)
    (offset needed : UInt32) (buffer : List UInt8) {j : Nat} (hneeded : j < needed.toNat)
    (hbuffer : j < buffer.length) :
    (callback.call k offset needed buffer).2.getD j 0 = source (offset.toNat + j) := by
  rw [List.getD_eq_getElem?_getD, callback.fills k offset needed buffer j hneeded hbuffer,
    Option.getD_some]

theorem Holds.getByte {self : CANMessageDataCallback κ} (h : self.Holds source size chunkSize)
    (hfits : FitsCallback size chunkSize) (hchunk : 0 < chunkSize.toNat)
    (callback : DataChunkCallback κ source) (index : UInt64) :
    (getByte callback self index).1.Holds source size chunkSize ∧
      ∀ access ∈ (getByte callback self index).2, access.IsRight source size := by
  unfold CANMessageDataCallback.getByte
  rw [h.totalSize, h.bufferSize]
  by_cases hend : index ≥ size
  · rw [if_pos hend]
    refine ⟨h, fun access haccess => ?_⟩
    rw [List.mem_singleton.mp haccess, DataAccess.IsRight, if_neg (UInt64.not_lt.mpr hend)]
  · rw [if_neg hend]
    have hindex : index < size := UInt64.not_le.mp hend
    have hlt := UInt64.lt_iff_toNat_lt.mp hindex
    obtain ⟨hoffset, hneeded⟩ := hfits.request hindex
    by_cases hmiss : index ≥ self.dataOffset + chunkSize ∨ index < self.dataOffset ∨
        ¬ self.initialized
    · rw [if_pos hmiss]
      constructor
      · refine ⟨rfl, rfl, (callback.length _ _ _ _).trans h.length, fun _ j hj hsize => ?_⟩
        change index.toNat + j < size.toNat at hsize
        rw [callback.fills _ _ _ _ j (by omega) (by rw [h.length]; exact hj), hoffset]
      · intro access haccess
        rcases List.mem_pair.mp haccess with rfl | rfl
        · rw [DataAccess.IsRight, hoffset, hneeded]
          omega
        · have hzero : (index - index).toNat = 0 := by simp
          rw [DataAccess.IsRight, if_pos hindex, hzero,
            getElem?_call callback _ _ _ _ (by omega) (by rw [h.length]; exact hchunk), hoffset]
          rfl
    · rw [if_neg hmiss]
      refine ⟨h, fun access haccess => ?_⟩
      -- The end of the window may be behind the largest position; it is then before the index.
      have hwindow : self.dataOffset.toNat ≤ index.toNat ∧
          index.toNat < self.dataOffset.toNat + chunkSize.toNat ∧ self.initialized = true := by
        rw [not_or, not_or, not_not] at hmiss
        have hbefore := UInt64.lt_iff_toNat_lt.mp (UInt64.not_le.mp hmiss.1)
        have hafter := UInt64.le_iff_toNat_le.mp (UInt64.not_lt.mp hmiss.2.1)
        rw [UInt64.toNat_add] at hbefore
        exact ⟨hafter, Nat.lt_of_lt_of_le hbefore (Nat.mod_le _ _), hmiss.2.2⟩
      have hplace : (index - self.dataOffset).toNat = index.toNat - self.dataOffset.toNat :=
        UInt64.toNat_sub_of_le _ _ (UInt64.le_iff_toNat_le.mpr hwindow.1)
      rw [List.mem_singleton.mp haccess, DataAccess.IsRight, if_pos hindex, hplace,
        List.getD_eq_getElem?_getD, h.bytes hwindow.2.2 _ (by omega) (by omega), Option.getD_some,
        Nat.add_sub_cancel' hwindow.1]

theorem holds_ofSize (source : Nat → UInt8) (size chunkSize : UInt64) (parent : κ) :
    (ofSize size chunkSize parent).Holds source size chunkSize :=
  ⟨rfl, rfl, List.length_replicate, fun hinitialized => absurd hinitialized Bool.false_ne_true⟩

theorem accesses_right (hfits : FitsCallback size chunkSize) (hchunk : 0 < chunkSize.toNat)
    (callback : DataChunkCallback κ source) (parent : κ) (indices : List UInt64) :
    ∀ access ∈ (dataReader callback).outputs (ofSize size chunkSize parent) indices,
      access.IsRight source size := by
  rw [← (dataReader callback).along_emits_iff]
  exact (dataReader callback).along_of_invariant_along
    (P := fun reader => reader.Holds source size chunkSize)
    (fun reader index h _ => (h.getByte hfits hchunk callback index).1)
    (fun reader index h _ => (h.getByte hfits hchunk callback index).2)
    (holds_ofSize source size chunkSize parent) indices
    ((dataReader callback).along_of_mem _ indices fun _ _ => trivial)

end CANMessageDataCallback

/-- The callback that writes the requested range and nothing else. -/
def copyFrom (source : Nat → UInt8) : DataChunkCallback Unit source where
  call _ offset needed chunkBuffer :=
    ((), (chunkBuffer.zipIdx).map fun entry =>
      if entry.2 < needed.toNat then source (offset.toNat + entry.2) else entry.1)
  length := by simp
  fills := by
    intro _ offset needed chunkBuffer j hneeded hbuffer
    simp [hbuffer, hneeded]

/-- For every byte sequence, every callback that serves it and every order of accesses, the reader
returns the bytes and asks for nothing behind the end. -/
def ReadsItsSource (size chunkSize : UInt64) : Prop :=
  ∀ (κ : Type) (source : Nat → UInt8) (callback : DataChunkCallback κ source) (parent : κ)
    (indices : List UInt64), ∀ access ∈
      (dataReader callback).outputs (CANMessageDataCallback.ofSize size chunkSize parent) indices,
      access.IsRight source size

theorem returned_first (source : Nat → UInt8) {size chunkSize index : UInt64}
    (hchunk : 0 < chunkSize.toNat) (hindex : index < size) :
    DataAccess.returned index
        (if 0 < (CANMessageDataCallback.lesser (size - index) chunkSize).toUInt32.toNat then
          source index.toUInt32.toNat else 0) ∈
      (dataReader (copyFrom source)).outputs (CANMessageDataCallback.ofSize size chunkSize ())
        [index] := by
  have hbuffer : (List.replicate chunkSize.toNat (0 : UInt8)) =
      0 :: List.replicate (chunkSize.toNat - 1) 0 := by
    rw [← List.replicate_succ, Nat.sub_add_cancel hchunk]
  have hstep : (CANMessageDataCallback.getByte (copyFrom source)
      (CANMessageDataCallback.ofSize size chunkSize ()) index).2 =
      [.requested index.toUInt32
          (CANMessageDataCallback.lesser (size - index) chunkSize).toUInt32,
        .returned index
          (if 0 < (CANMessageDataCallback.lesser (size - index) chunkSize).toUInt32.toNat then
            source index.toUInt32.toNat else 0)] := by
    have hinside : ¬ index ≥ (CANMessageDataCallback.ofSize size chunkSize ()).totalSize :=
      UInt64.not_le.mpr hindex
    have hfresh : ¬ (CANMessageDataCallback.ofSize size chunkSize ()).initialized = true :=
      Bool.false_ne_true
    unfold CANMessageDataCallback.getByte
    rw [if_neg hinside, if_pos (Or.inr (Or.inr hfresh))]
    simp [copyFrom, CANMessageDataCallback.ofSize, hbuffer]
  rw [Machine.outputs_cons, Machine.emits]
  refine List.mem_append_left _ ?_
  change _ ∈ (CANMessageDataCallback.getByte _ _ _).2
  rw [hstep]
  exact List.mem_pair.mpr (Or.inr rfl)

/-- The reader is its source exactly if the offsets and lengths of its requests fit into 32 bits. -/
theorem readsItsSource_iff {size chunkSize : UInt64} (hchunk : 0 < chunkSize.toNat) :
    ReadsItsSource size chunkSize ↔ CANMessageDataCallback.FitsCallback size chunkSize := by
  constructor
  · intro h
    by_contra hfits
    have hsize : 2 ^ 32 ≤ size.toNat := by
      unfold CANMessageDataCallback.FitsCallback at hfits
      omega
    -- A byte that is asked for at the wrong place, or not at all.
    have hwrong : ∀ index : UInt64, index < size →
        (0 < (CANMessageDataCallback.lesser (size - index) chunkSize).toUInt32.toNat →
          index.toUInt32.toNat ≠ index.toNat) → False := by
      intro index hindex hplace
      let source : Nat → UInt8 := fun i => if i = index.toNat then 1 else 0
      have hright := h Unit source (copyFrom source) () [index] _
        (returned_first source hchunk hindex)
      rw [DataAccess.IsRight, if_pos hindex, show source index.toNat = 1 from if_pos rfl] at hright
      split at hright
      · rename_i hneeded
        rw [show source index.toUInt32.toNat = 0 from if_neg (hplace hneeded)] at hright
        cases hright
      · cases hright
    rcases Nat.lt_or_ge (2 ^ 32) size.toNat with hlarge | hsmall
    · refine hwrong 0x100000000 (UInt64.lt_iff_toNat_lt.mpr hlarge) fun _ => by decide
    · have hzero : (0 : UInt64) < size :=
        UInt64.lt_iff_toNat_lt.mpr (Nat.lt_of_lt_of_le (by decide) hsize)
      refine hwrong 0 hzero fun hneeded => ?_
      unfold CANMessageDataCallback.FitsCallback at hfits
      have heq : size.toNat = 2 ^ 32 := by omega
      have hlesser : CANMessageDataCallback.lesser (size - 0) chunkSize = size := by
        rw [UInt64.sub_zero, CANMessageDataCallback.lesser, if_neg]
        rw [UInt64.lt_iff_toNat_lt]
        omega
      rw [hlesser, UInt64.toNat_toUInt32, heq] at hneeded
      cases hneeded
  · intro hfits κ source callback parent indices
    exact CANMessageDataCallback.accesses_right hfits hchunk callback parent indices

/-- A message of 20 bytes in chunks of 7. -/
theorem readsItsSource_twenty :
    0 < (7 : UInt64).toNat ∧
      (ReadsItsSource 20 7 ↔ CANMessageDataCallback.FitsCallback 20 7) :=
  ⟨by decide, readsItsSource_iff (by decide)⟩

/-- The byte at 2^32 of a message that is one byte longer is read from the beginning. -/
theorem last_byte_not_read : ¬ ReadsItsSource 0x100000001 7 := by
  intro h
  let source : Nat → UInt8 := fun i => if i = 0x100000000 then 1 else 0
  have hright := h Unit source (copyFrom source) () [0x100000000] _
    (returned_first source (by decide) (by decide))
  rw [DataAccess.IsRight, if_pos (by decide)] at hright
  revert hright
  decide +kernel

end Isobus.Can
