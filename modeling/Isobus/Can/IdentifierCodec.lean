import Isobus.Can.Frame
import Mathlib.Tactic

/-!
# The encoders and the decoder of identifiers

`construct_frame` and the constructor of `CANIdentifier` pack the same fields into an identifier,
which the getters take apart.
-/

namespace Isobus.Can

/-- A group with a destination in its identifier. -/
def IsPdu1 (pgn : UInt32) : Prop := pgn &&& 0xF000 < 0xF000

instance (pgn : UInt32) : Decidable (IsPdu1 pgn) := UInt32.decLt _ _

/-- The fields of an identifier: the low byte of a PDU1 group is zero, and a PDU2 group goes to all
nodes. -/
structure Encodable (priority destination : UInt8) (pgn : UInt32) : Prop where
  priority_le : priority ≤ 7
  destination_ne : destination ≠ NULL_CAN_ADDRESS
  pgn_lt : pgn.toNat < 2 ^ 18
  pdu1 : IsPdu1 pgn → pgn &&& 0xFF = 0
  pdu2 : ¬ IsPdu1 pgn → destination = BROADCAST_CAN_ADDRESS

def packed (priority source destination : UInt8) (pgn : UInt32) : CANIdentifier :=
  .ofFields .extended pgn priority.toUInt32 destination source

/-- Both encoders give one identifier, and the decoder returns the fields. -/
structure CodecAgrees (priority source destination : UInt8) (pgn : UInt32) : Prop where
  construct : ∀ (portIndex : UInt8) (data : List UInt8), data.length ≤ CAN_DATA_LENGTH →
    (constructFrame portIndex source destination pgn priority data).map (·.identifier) =
      some (packed priority source destination pgn).rawIdentifier
  getIdentifierType : (packed priority source destination pgn).getIdentifierType = .extended
  getPriority : (packed priority source destination pgn).getPriority = priority.toUInt32
  getParameterGroupNumber : (packed priority source destination pgn).getParameterGroupNumber = pgn
  getDestinationAddress :
    (packed priority source destination pgn).getDestinationAddress = destination
  getSourceAddress : (packed priority source destination pgn).getSourceAddress = source

namespace CANIdentifier

def pdu1Bits (priority : UInt8) (pgn : UInt32) (destination source : UInt8) : UInt32 :=
  (priority.toUInt32 <<< 26) ||| ((pgn &&& DESTINATION_SPECIFIC_PGN_MASK) <<< 8) |||
    (destination.toUInt32 <<< 8) ||| source.toUInt32

def pdu2Bits (priority : UInt8) (pgn : UInt32) (source : UInt8) : UInt32 :=
  (priority.toUInt32 <<< 26) ||| ((pgn &&& BROADCAST_PGN_MASK) <<< 8) ||| source.toUInt32

theorem pdu1Bits_construct (priority : UInt8) (pgn : UInt32) (destination source : UInt8) :
    ((((priority &&& 0x07) &&& 0x07).toUInt32 <<< 26) ||| source.toUInt32 |||
      (destination.toUInt32 <<< 8) ||| ((pgn &&& 0x3FF00) <<< 8)) &&& 0x1FFFFFFF =
      pdu1Bits (priority &&& 0x07) pgn destination source := by
  rw [← UInt32.toBitVec_inj]
  apply BitVec.eq_of_getLsbD_eq
  intro i hi
  simp only [pdu1Bits, DESTINATION_SPECIFIC_PGN_MASK]
  simp
  interval_cases i <;> simp

theorem pdu2Bits_construct (priority : UInt8) (pgn : UInt32) (source : UInt8) :
    ((((priority &&& 0x07) &&& 0x07).toUInt32 <<< 26) ||| source.toUInt32 |||
      ((pgn &&& 0x3FFFF) <<< 8)) &&& 0x1FFFFFFF =
      pdu2Bits (priority &&& 0x07) pgn source := by
  rw [← UInt32.toBitVec_inj]
  apply BitVec.eq_of_getLsbD_eq
  intro i hi
  simp only [pdu2Bits, BROADCAST_PGN_MASK]
  simp
  interval_cases i <;> simp

theorem pdu1Bits_priority (priority : UInt8) (pgn : UInt32) (destination source : UInt8) :
    (pdu1Bits (priority &&& 0x07) pgn destination source >>> 26) &&& 0x07 =
      (priority &&& 0x07).toUInt32 := by
  rw [← UInt32.toBitVec_inj]
  apply BitVec.eq_of_getLsbD_eq
  intro i hi
  simp only [pdu1Bits, DESTINATION_SPECIFIC_PGN_MASK]
  simp
  interval_cases i <;> simp

theorem pdu2Bits_priority (priority : UInt8) (pgn : UInt32) (source : UInt8) :
    (pdu2Bits (priority &&& 0x07) pgn source >>> 26) &&& 0x07 = (priority &&& 0x07).toUInt32 := by
  rw [← UInt32.toBitVec_inj]
  apply BitVec.eq_of_getLsbD_eq
  intro i hi
  simp only [pdu2Bits, BROADCAST_PGN_MASK]
  simp
  interval_cases i <;> simp

theorem pdu1Bits_source (priority : UInt8) (pgn : UInt32) (destination source : UInt8) :
    (pdu1Bits priority pgn destination source &&& 0xFF).toUInt8 = source := by
  rw [← UInt8.toBitVec_inj]
  apply BitVec.eq_of_getLsbD_eq
  intro i hi
  simp only [pdu1Bits, DESTINATION_SPECIFIC_PGN_MASK]
  simp
  interval_cases i <;> simp

theorem pdu2Bits_source (priority : UInt8) (pgn : UInt32) (source : UInt8) :
    (pdu2Bits priority pgn source &&& 0xFF).toUInt8 = source := by
  rw [← UInt8.toBitVec_inj]
  apply BitVec.eq_of_getLsbD_eq
  intro i hi
  simp only [pdu2Bits, BROADCAST_PGN_MASK]
  simp
  interval_cases i <;> simp

theorem pdu1Bits_destination (priority : UInt8) (pgn : UInt32) (destination source : UInt8) :
    ((pdu1Bits priority pgn destination source >>> 8) &&& 0xFF).toUInt8 = destination := by
  rw [← UInt8.toBitVec_inj]
  apply BitVec.eq_of_getLsbD_eq
  intro i hi
  simp only [pdu1Bits, DESTINATION_SPECIFIC_PGN_MASK]
  simp
  interval_cases i <;> simp

theorem shift_le_of_standard {raw : UInt32} (h : raw ≤ 0x7FF) : (raw >>> 8).toNat ≤ 7 := by
  have hle := UInt32.le_iff_toNat_le.mp h
  change raw.toNat ≤ 0x7FF at hle
  rw [UInt32.toNat_shiftRight, Nat.shiftRight_eq_div_pow]
  change raw.toNat / 2 ^ 8 ≤ 7
  omega

theorem priority_zero_of_standard {raw : UInt32} (h : raw ≤ 0x7FF) : (raw >>> 26) &&& 0x07 = 0 := by
  have hle := UInt32.le_iff_toNat_le.mp h
  change raw.toNat ≤ 0x7FF at hle
  have hzero : raw >>> 26 = 0 := by
    rw [← UInt32.toNat_inj, UInt32.toNat_shiftRight, Nat.shiftRight_eq_div_pow]
    change raw.toNat / 2 ^ 26 = 0
    omega
  rw [hzero, UInt32.zero_and]

/-- A PDU1 identifier looks like a standard one if nothing but a small destination and the source
is in it. -/
theorem pdu1Bits_le_iff {priority : UInt8} {pgn : UInt32} (destination source : UInt8)
    (hpriority : priority &&& 0x07 = priority)
    (hpgn : pgn &&& DESTINATION_SPECIFIC_PGN_MASK = pgn) :
    pdu1Bits priority pgn destination source ≤ 0x7FF ↔
      priority = 0 ∧ pgn = 0 ∧ destination ≤ 7 := by
  constructor
  · intro h
    refine ⟨?_, ?_, ?_⟩
    · have hbits := pdu1Bits_priority priority pgn destination source
      rw [hpriority, priority_zero_of_standard h] at hbits
      apply UInt8.toNat_inj.mp
      rw [← UInt8.toNat_toUInt32, ← hbits]
      rfl
    · have hbits := group_bits priority.toUInt32 pgn destination source hpgn
      exact hbits.symm.trans (group_zero_of_standard _ h)
    · have hbits := congrArg UInt8.toNat (pdu1Bits_destination priority pgn destination source)
      rw [UInt32.toNat_toUInt8, UInt32.toNat_and] at hbits
      have hsmall := shift_le_of_standard h
      have hand := Nat.and_le_left (n := (pdu1Bits priority pgn destination source >>> 8).toNat)
        (m := (0xFF : UInt32).toNat)
      rw [UInt8.le_iff_toNat_le, ← hbits]
      exact (Nat.mod_le _ _).trans (hand.trans hsmall)
  · rintro ⟨rfl, rfl, hdestination⟩
    have hle := UInt8.le_iff_toNat_le.mp hdestination
    change destination.toNat ≤ 7 at hle
    have hraw : pdu1Bits 0 0 destination source =
        (destination.toUInt32 <<< 8) ||| source.toUInt32 := by
      rw [pdu1Bits, UInt32.zero_and]
      change (0 : UInt32) ||| 0 ||| _ ||| _ = _
      rw [UInt32.zero_or, UInt32.zero_or]
    have hlt : (pdu1Bits 0 0 destination source).toNat < 2 ^ 11 := by
      rw [hraw, UInt32.toNat_or]
      apply Nat.or_lt_two_pow
      · rw [UInt32.toNat_shiftLeft, UInt8.toNat_toUInt32, Nat.shiftLeft_eq]
        change destination.toNat * 2 ^ 8 % 2 ^ 32 < 2 ^ 11
        omega
      · rw [UInt8.toNat_toUInt32]
        exact Nat.lt_trans source.toNat_lt (by decide)
    rw [UInt32.le_iff_toNat_le]
    change (pdu1Bits 0 0 destination source).toNat ≤ 0x7FF
    omega

theorem not_pdu2Bits_le {priority : UInt8} {pgn : UInt32} (source : UInt8)
    (hpdu2 : (pgn <<< 8) &&& PDU2_FORMAT_MASK = PDU2_FORMAT_MASK) :
    ¬ pdu2Bits priority pgn source ≤ 0x7FF := by
  intro hle
  have hsmall := UInt32.le_iff_toNat_le.mp hle
  have hand := congrArg UInt32.toNat
    ((broadcast_format_bits priority.toUInt32 pgn source).trans hpdu2)
  have hright := Nat.and_le_right (n := PDU2_FORMAT_MASK.toNat)
    (m := (pdu2Bits priority pgn source).toNat)
  rw [UInt32.toNat_and] at hand
  change PDU2_FORMAT_MASK.toNat &&& (pdu2Bits priority pgn source).toNat = _ at hand
  rw [hand] at hright
  exact absurd (le_trans hright hsmall) (by decide)

end CANIdentifier

namespace Encodable

variable {priority destination : UInt8} {pgn : UInt32}

theorem priority_and (h : Encodable priority destination pgn) : priority &&& 0x07 = priority := by
  have hle := UInt8.le_iff_toNat_le.mp h.priority_le
  change priority.toNat ≤ 7 at hle
  rw [← UInt8.toNat_inj, UInt8.toNat_and]
  change priority.toNat &&& (2 ^ 3 - 1) = priority.toNat
  rw [Nat.and_two_pow_sub_one_eq_mod]
  exact Nat.mod_eq_of_lt (by omega)

theorem pgn_and (h : Encodable priority destination pgn) :
    pgn &&& CANIdentifier.BROADCAST_PGN_MASK = pgn := by
  rw [← UInt32.toNat_inj, UInt32.toNat_and]
  change pgn.toNat &&& (2 ^ 18 - 1) = pgn.toNat
  rw [Nat.and_two_pow_sub_one_eq_mod]
  exact Nat.mod_eq_of_lt h.pgn_lt

theorem pgn_and_of_pdu1 (h : Encodable priority destination pgn) (hpdu1 : IsPdu1 pgn) :
    pgn &&& CANIdentifier.DESTINATION_SPECIFIC_PGN_MASK = pgn := by
  have hmask : CANIdentifier.BROADCAST_PGN_MASK =
      CANIdentifier.DESTINATION_SPECIFIC_PGN_MASK ||| 0xFF := by decide
  have hpgn := h.pgn_and
  have hlow := congrArg UInt32.toNat (h.pdu1 hpdu1)
  rw [UInt32.toNat_and] at hlow
  rw [hmask, ← UInt32.toNat_inj, UInt32.toNat_and, UInt32.toNat_or, Nat.and_or_distrib_left,
    hlow] at hpgn
  rw [← UInt32.toNat_inj, UInt32.toNat_and]
  exact (Nat.or_zero _).symm.trans hpgn

theorem format_toNat (pgn : UInt32) :
    ((pgn <<< 8) &&& CANIdentifier.PDU2_FORMAT_MASK).toNat = (pgn &&& 0xF000).toNat * 2 ^ 8 ∧
      (pgn &&& 0xF000).toNat ≤ 0xF000 := by
  have hle : (pgn &&& 0xF000).toNat ≤ 0xF000 := by
    rw [UInt32.toNat_and]
    exact Nat.and_le_right
  have hshift : (pgn <<< 8) &&& CANIdentifier.PDU2_FORMAT_MASK = (pgn &&& 0xF000) <<< 8 := by
    rw [← UInt32.toBitVec_inj]
    apply BitVec.eq_of_getLsbD_eq
    intro i hi
    simp only [CANIdentifier.PDU2_FORMAT_MASK]
    simp
    interval_cases i <;> simp
  refine ⟨?_, hle⟩
  rw [hshift, UInt32.toNat_shiftLeft, Nat.shiftLeft_eq]
  change (pgn &&& 0xF000).toNat * 2 ^ 8 % 2 ^ 32 = _
  exact Nat.mod_eq_of_lt (by omega)

theorem format_iff (pgn : UInt32) :
    (pgn <<< 8) &&& CANIdentifier.PDU2_FORMAT_MASK < CANIdentifier.PDU2_FORMAT_MASK ↔
      IsPdu1 pgn := by
  obtain ⟨hformat, -⟩ := format_toNat pgn
  rw [IsPdu1, UInt32.lt_iff_toNat_lt, UInt32.lt_iff_toNat_lt, hformat]
  change _ < 0xF00000 ↔ _ < 0xF000
  omega

theorem format_of_pdu2 (hpdu2 : ¬ IsPdu1 pgn) :
    (pgn <<< 8) &&& CANIdentifier.PDU2_FORMAT_MASK = CANIdentifier.PDU2_FORMAT_MASK := by
  obtain ⟨hformat, hle⟩ := format_toNat pgn
  rw [IsPdu1, UInt32.lt_iff_toNat_lt] at hpdu2
  change ¬ _ < 0xF000 at hpdu2
  rw [← UInt32.toNat_inj, hformat]
  change _ = 0xF00000
  omega

theorem packed_of_pdu1 (hpdu1 : IsPdu1 pgn) (priority source destination : UInt8) :
    (packed priority source destination pgn).rawIdentifier =
      CANIdentifier.pdu1Bits priority pgn destination source := by
  rw [packed, CANIdentifier.ofFields, if_pos ((format_iff pgn).mpr hpdu1)]
  rfl

theorem packed_of_pdu2 (hpdu2 : ¬ IsPdu1 pgn) (priority source destination : UInt8) :
    (packed priority source destination pgn).rawIdentifier =
      CANIdentifier.pdu2Bits priority pgn source := by
  rw [packed, CANIdentifier.ofFields, if_neg (mt (format_iff pgn).mp hpdu2)]
  rfl

theorem construct (h : Encodable priority destination pgn) (source portIndex : UInt8)
    {data : List UInt8} (hdata : data.length ≤ CAN_DATA_LENGTH) :
    (constructFrame portIndex source destination pgn priority data).map (·.identifier) =
      some (packed priority source destination pgn).rawIdentifier := by
  unfold constructFrame
  rw [if_pos ⟨h.destination_ne.symm, h.priority_le, hdata⟩]
  by_cases hpdu1 : IsPdu1 pgn
  · rw [packed_of_pdu1 hpdu1, ← h.priority_and, ← CANIdentifier.pdu1Bits_construct]
    have hnot : ¬ pgn &&& 0xF000 ≥ 0xF000 := UInt32.not_le.mpr hpdu1
    have hlt : pgn &&& 0xF000 < 0xF000 := hpdu1
    dsimp only
    rw [if_neg hnot, if_pos hlt, ite_self]
    rfl
  · rw [packed_of_pdu2 hpdu1, ← h.priority_and, ← CANIdentifier.pdu2Bits_construct]
    have hge : pgn &&& 0xF000 ≥ 0xF000 := UInt32.not_lt.mp hpdu1
    dsimp only
    rw [if_pos (h.pdu2 hpdu1).symm, if_pos hge]
    rfl

end Encodable

/-- The encoders always agree, and the decoder with them exactly if the identifier is not small
enough for a standard one. -/
theorem codecAgrees_iff {priority destination : UInt8} {pgn : UInt32} (source : UInt8)
    (h : Encodable priority destination pgn) :
    CodecAgrees priority source destination pgn ↔
      ¬ (priority = 0 ∧ pgn = 0 ∧ destination ≤ 7) := by
  by_cases hpdu1 : IsPdu1 pgn
  · have hraw := Encodable.packed_of_pdu1 hpdu1 priority source destination
    have hsize := CANIdentifier.pdu1Bits_le_iff destination source h.priority_and
      (h.pgn_and_of_pdu1 hpdu1)
    constructor
    · intro hagrees hsmall
      have htype := hagrees.getIdentifierType
      rw [CANIdentifier.getIdentifierType, hraw, if_pos (hsize.mpr hsmall)] at htype
      cases htype
    · intro hlarge
      have htype : (packed priority source destination pgn).getIdentifierType = .extended := by
        rw [CANIdentifier.getIdentifierType, hraw, if_neg (mt hsize.mp hlarge)]
      have hformat : CANIdentifier.PDU2_FORMAT_MASK &&&
          CANIdentifier.pdu1Bits priority pgn destination source <
            CANIdentifier.PDU2_FORMAT_MASK := by
        rw [CANIdentifier.pdu1Bits, CANIdentifier.format_bits]
        exact (Encodable.format_iff pgn).mpr hpdu1
      refine ⟨fun portIndex data hdata => h.construct source portIndex hdata, htype, ?_, ?_, ?_, ?_⟩
      · rw [CANIdentifier.getPriority, if_pos htype, hraw, ← h.priority_and]
        exact CANIdentifier.pdu1Bits_priority _ _ _ _
      · rw [CANIdentifier.getParameterGroupNumber, if_pos htype, hraw, if_pos hformat]
        exact CANIdentifier.group_bits _ _ _ _ (h.pgn_and_of_pdu1 hpdu1)
      · rw [CANIdentifier.getDestinationAddress, hraw, if_pos ⟨htype, hformat⟩]
        exact CANIdentifier.pdu1Bits_destination _ _ _ _
      · rw [CANIdentifier.getSourceAddress, if_pos htype, hraw]
        exact CANIdentifier.pdu1Bits_source _ _ _ _
  · have hraw := Encodable.packed_of_pdu2 hpdu1 priority source destination
    have hpdu2 := Encodable.format_of_pdu2 hpdu1
    have hglobal := h.pdu2 hpdu1
    have htype : (packed priority source destination pgn).getIdentifierType = .extended := by
      rw [CANIdentifier.getIdentifierType, hraw,
          if_neg (CANIdentifier.not_pdu2Bits_le source hpdu2)]
    have hformat : ¬ CANIdentifier.PDU2_FORMAT_MASK &&&
        CANIdentifier.pdu2Bits priority pgn source < CANIdentifier.PDU2_FORMAT_MASK := by
      rw [CANIdentifier.pdu2Bits, CANIdentifier.broadcast_format_bits, hpdu2]
      decide
    refine iff_of_true ⟨fun portIndex data hdata => h.construct source portIndex hdata, htype,
      ?_, ?_, ?_, ?_⟩ fun hsmall => ?_
    · rw [CANIdentifier.getPriority, if_pos htype, hraw, ← h.priority_and]
      exact CANIdentifier.pdu2Bits_priority _ _ _
    · rw [CANIdentifier.getParameterGroupNumber, if_pos htype, hraw, if_neg hformat]
      exact CANIdentifier.broadcast_group_bits _ _ _ h.pgn_and
    · rw [CANIdentifier.getDestinationAddress, hraw, if_neg fun hboth => hformat hboth.2, hglobal]
    · rw [CANIdentifier.getSourceAddress, if_pos htype, hraw]
      exact CANIdentifier.pdu2Bits_source _ _ _
    · rw [hglobal] at hsmall
      exact absurd hsmall.2.2 (by decide)

/-- An address claim to all nodes. -/
theorem addressClaim_codecAgrees :
    CodecAgrees 6 0x80 0xFF 0xEE00 ↔
        ¬ ((6 : UInt8) = 0 ∧ (0xEE00 : UInt32) = 0 ∧ (0xFF : UInt8) ≤ 7) :=
  codecAgrees_iff 0x80 ⟨by decide, by decide, by decide, by decide +kernel, by decide +kernel⟩

/-- The group 0 for the address 3 is taken for a standard identifier. -/
theorem group_zero_not_decoded : Encodable 0 3 0 ∧ ¬ CodecAgrees 0 0x80 3 0 := by
  refine ⟨⟨by decide, by decide, by decide, by decide +kernel, by decide +kernel⟩, ?_⟩
  intro h
  have htype := h.getIdentifierType
  revert htype
  decide

end Isobus.Can
