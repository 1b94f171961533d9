import Mathlib.Data.UInt
import Mathlib.Tactic.IntervalCases

/-!
# CAN identifiers

`can_identifier.cpp` and `can_constants.hpp`: the 29 bits pack a priority, a parameter group number,
a destination address (for PDU1 groups only) and a source address.
-/

namespace Isobus.Can

def NULL_CAN_ADDRESS : UInt8 := 0xFE

def BROADCAST_CAN_ADDRESS : UInt8 := 0xFF

def CAN_DATA_LENGTH : Nat := 8

/-- The parameter group numbers that the modelled code compares with. -/
def extendedTransportProtocolDataTransfer : UInt32 := 0xC700
def extendedTransportProtocolConnectionManagement : UInt32 := 0xC800
def parameterGroupNumberRequest : UInt32 := 0xEA00
def transportProtocolDataTransfer : UInt32 := 0xEB00
def transportProtocolConnectionManagement : UInt32 := 0xEC00
def addressClaim : UInt32 := 0xEE00
def commandedAddress : UInt32 := 0xFED8

/-- Standard (11-bit) and extended (29-bit) identifiers. -/
inductive IdentifierType
  | standard
  | extended
  deriving DecidableEq

structure CANIdentifier where
  rawIdentifier : UInt32
  deriving DecidableEq

namespace CANIdentifier

def UNDEFINED_PARAMETER_GROUP_NUMBER : UInt32 := 0xFFFFFFFF
def BROADCAST_PGN_MASK : UInt32 := 0x0003FFFF
def DESTINATION_SPECIFIC_PGN_MASK : UInt32 := 0x0003FF00
def PDU2_FORMAT_MASK : UInt32 := 0x00F00000

/-- The constructor that encodes the fields. -/
def ofFields (identifierType : IdentifierType) (pgn priority : UInt32)
    (destinationAddress sourceAddress : UInt8) : CANIdentifier :=
  match identifierType with
  | .standard => ⟨sourceAddress.toUInt32⟩
  | .extended =>
    if (pgn <<< 8) &&& PDU2_FORMAT_MASK < PDU2_FORMAT_MASK then
      ⟨(priority <<< 26) ||| ((pgn &&& DESTINATION_SPECIFIC_PGN_MASK) <<< 8) |||
        (destinationAddress.toUInt32 <<< 8) ||| sourceAddress.toUInt32⟩
    else
      ⟨(priority <<< 26) ||| ((pgn &&& BROADCAST_PGN_MASK) <<< 8) |||
        sourceAddress.toUInt32⟩

def getIdentifierType (identifier : CANIdentifier) : IdentifierType :=
  if identifier.rawIdentifier ≤ 0x7FF then .standard else .extended

def getPriority (identifier : CANIdentifier) : UInt32 :=
  if identifier.getIdentifierType = .extended then
    (identifier.rawIdentifier >>> 26) &&& 0x07
  else 0

def getParameterGroupNumber (identifier : CANIdentifier) : UInt32 :=
  if identifier.getIdentifierType = .extended then
    if PDU2_FORMAT_MASK &&& identifier.rawIdentifier < PDU2_FORMAT_MASK then
      (identifier.rawIdentifier >>> 8) &&& DESTINATION_SPECIFIC_PGN_MASK
    else (identifier.rawIdentifier >>> 8) &&& BROADCAST_PGN_MASK
  else UNDEFINED_PARAMETER_GROUP_NUMBER

def getDestinationAddress (identifier : CANIdentifier) : UInt8 :=
  if identifier.getIdentifierType = .extended ∧
      PDU2_FORMAT_MASK &&& identifier.rawIdentifier < PDU2_FORMAT_MASK then
    ((identifier.rawIdentifier >>> 8) &&& 0xFF).toUInt8
  else BROADCAST_CAN_ADDRESS

def getSourceAddress (identifier : CANIdentifier) : UInt8 :=
  if identifier.getIdentifierType = .extended then
    (identifier.rawIdentifier &&& 0xFF).toUInt8
  else BROADCAST_CAN_ADDRESS

theorem group_bits (priority group : UInt32) (destinationAddress sourceAddress : UInt8)
    (hgroup : group &&& DESTINATION_SPECIFIC_PGN_MASK = group) :
    (((priority <<< 26) ||| ((group &&& DESTINATION_SPECIFIC_PGN_MASK) <<< 8) |||
      (destinationAddress.toUInt32 <<< 8) ||| sourceAddress.toUInt32) >>> 8) &&&
        DESTINATION_SPECIFIC_PGN_MASK = group := by
  rw [← hgroup, ← UInt32.toBitVec_inj]
  apply BitVec.eq_of_getLsbD_eq
  intro i hi
  simp only [DESTINATION_SPECIFIC_PGN_MASK]
  simp
  interval_cases i <;> simp

theorem format_bits (priority group : UInt32) (destinationAddress sourceAddress : UInt8) :
    PDU2_FORMAT_MASK &&& ((priority <<< 26) |||
      ((group &&& DESTINATION_SPECIFIC_PGN_MASK) <<< 8) |||
      (destinationAddress.toUInt32 <<< 8) ||| sourceAddress.toUInt32) =
        (group <<< 8) &&& PDU2_FORMAT_MASK := by
  rw [← UInt32.toBitVec_inj]
  apply BitVec.eq_of_getLsbD_eq
  intro i hi
  simp only [DESTINATION_SPECIFIC_PGN_MASK, PDU2_FORMAT_MASK]
  simp
  interval_cases i <;> simp

theorem group_zero_of_standard (raw : UInt32) (h : raw ≤ 0x7FF) :
    (raw >>> 8) &&& DESTINATION_SPECIFIC_PGN_MASK = 0 := by
  have hle : raw.toNat ≤ 0x7FF := by simpa using UInt32.le_iff_toNat_le.mp h
  rw [← UInt32.toNat_inj]
  have hsmall : (raw >>> 8).toNat < 2 ^ 3 := by
    rw [UInt32.toNat_shiftRight, Nat.shiftRight_eq_div_pow]
    change raw.toNat / 2 ^ 8 < 2 ^ 3
    omega
  rw [UInt32.toNat_and]
  generalize (raw >>> 8).toNat = n at hsmall
  simp only [DESTINATION_SPECIFIC_PGN_MASK]
  interval_cases n <;> rfl

theorem getParameterGroupNumber_ofFields (group priority : UInt32)
    (destinationAddress sourceAddress : UInt8) (hne : group ≠ 0)
    (hgroup : group &&& DESTINATION_SPECIFIC_PGN_MASK = group)
    (hpdu1 : (group <<< 8) &&& PDU2_FORMAT_MASK < PDU2_FORMAT_MASK) :
    (ofFields .extended group priority destinationAddress sourceAddress).getParameterGroupNumber =
      group := by
  have hbits := group_bits priority group destinationAddress sourceAddress hgroup
  have hformat := format_bits priority group destinationAddress sourceAddress
  simp only [ofFields, if_pos hpdu1]
  generalize hraw : (priority <<< 26) ||| ((group &&& DESTINATION_SPECIFIC_PGN_MASK) <<< 8) |||
    (destinationAddress.toUInt32 <<< 8) ||| sourceAddress.toUInt32 = raw at hbits hformat
  have hextended : ¬raw ≤ 0x7FF := by
    intro hle
    rw [group_zero_of_standard raw hle] at hbits
    exact hne hbits.symm
  simp only [getParameterGroupNumber, getIdentifierType, if_neg hextended]
  rw [if_pos trivial, hformat, if_pos hpdu1, hbits]

theorem broadcast_group_bits (priority group : UInt32) (sourceAddress : UInt8)
    (hgroup : group &&& BROADCAST_PGN_MASK = group) :
    (((priority <<< 26) ||| ((group &&& BROADCAST_PGN_MASK) <<< 8) |||
      sourceAddress.toUInt32) >>> 8) &&& BROADCAST_PGN_MASK = group := by
  rw [← hgroup, ← UInt32.toBitVec_inj]
  apply BitVec.eq_of_getLsbD_eq
  intro i hi
  simp only [BROADCAST_PGN_MASK]
  simp
  interval_cases i <;> simp

theorem broadcast_format_bits (priority group : UInt32) (sourceAddress : UInt8) :
    PDU2_FORMAT_MASK &&& ((priority <<< 26) |||
      ((group &&& BROADCAST_PGN_MASK) <<< 8) ||| sourceAddress.toUInt32) =
        (group <<< 8) &&& PDU2_FORMAT_MASK := by
  rw [← UInt32.toBitVec_inj]
  apply BitVec.eq_of_getLsbD_eq
  intro i hi
  simp only [BROADCAST_PGN_MASK, PDU2_FORMAT_MASK]
  simp
  interval_cases i <;> simp

theorem getParameterGroupNumber_ofFields_pdu2 (group priority : UInt32)
    (destinationAddress sourceAddress : UInt8)
    (hgroup : group &&& BROADCAST_PGN_MASK = group)
    (hpdu2 : (group <<< 8) &&& PDU2_FORMAT_MASK = PDU2_FORMAT_MASK) :
    (ofFields .extended group priority destinationAddress sourceAddress).getParameterGroupNumber =
      group := by
  have hbits := broadcast_group_bits priority group sourceAddress hgroup
  have hformat := broadcast_format_bits priority group sourceAddress
  have hnot : ¬(group <<< 8) &&& PDU2_FORMAT_MASK < PDU2_FORMAT_MASK := by
    rw [hpdu2]
    decide
  simp only [ofFields, if_neg hnot]
  generalize hraw : (priority <<< 26) ||| ((group &&& BROADCAST_PGN_MASK) <<< 8) |||
    sourceAddress.toUInt32 = raw at hbits hformat
  have hextended : ¬raw ≤ 0x7FF := by
    intro hle
    have hsmall := UInt32.le_iff_toNat_le.mp hle
    have hand := congrArg UInt32.toNat (hformat.trans hpdu2)
    have hright := Nat.and_le_right (n := PDU2_FORMAT_MASK.toNat) (m := raw.toNat)
    rw [UInt32.toNat_and] at hand
    rw [hand] at hright
    exact absurd (le_trans hright hsmall) (by decide)
  simp only [getParameterGroupNumber, getIdentifierType, if_neg hextended]
  rw [if_pos trivial, hformat, if_neg hnot, hbits]

theorem pdu2_of_range {group : UInt32} (hlo : 0x1F000 ≤ group) (hhi : group ≤ 0x1FFFF) :
    group &&& BROADCAST_PGN_MASK = group ∧
      (group <<< 8) &&& PDU2_FORMAT_MASK = PDU2_FORMAT_MASK := by
  have hlo' := UInt32.le_iff_toNat_le.mp hlo
  have hhi' := UInt32.le_iff_toNat_le.mp hhi
  simp at hlo' hhi'
  have htop : group >>> 12 = 0x1F := by
    rw [← UInt32.toNat_inj, UInt32.toNat_shiftRight, Nat.shiftRight_eq_div_pow]
    simp
    omega
  constructor
  · rw [← UInt32.toNat_inj, UInt32.toNat_and]
    change group.toNat &&& (2 ^ 18 - 1) = group.toNat
    rw [Nat.and_two_pow_sub_one_eq_mod]
    exact Nat.mod_eq_of_lt (by omega)
  · have hbit (i : Nat) : group.toBitVec.getLsbD (12 + i) = (0x1F#32).getLsbD i := by
      have h := congrArg (fun x : UInt32 => x.toBitVec.getLsbD i) htop
      simpa using h
    have h12 := hbit 0
    have h13 := hbit 1
    have h14 := hbit 2
    have h15 := hbit 3
    rw [← UInt32.toBitVec_inj]
    apply BitVec.eq_of_getLsbD_eq
    intro i hi
    simp only [PDU2_FORMAT_MASK]
    simp at h12 h13 h14 h15 ⊢
    interval_cases i <;> simp [h12, h13, h14, h15]
end CANIdentifier

end Isobus.Can
