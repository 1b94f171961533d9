import Isobus.NetworkManager.Contention

/-!
# The address table when messages are worked off

The message of a claim refreshes the entry of its address: a control function that lost its address
leaves, and an inactive one that has it comes back. No message changes an address.
-/

namespace Isobus.NetworkManager

open Isobus.Can Isobus.Lib

namespace CANNetworkManager

structure SamePlaces (nm nm' : CANNetworkManager) : Prop where
  controlFunctions : nm'.controlFunctions = nm.controlFunctions
  partnered : nm'.partnered = nm.partnered
  next : nm'.nextControlFunction = nm.nextControlFunction
  table : nm'.controlFunctionTable = nm.controlFunctionTable
  inactive : nm'.inactiveControlFunctions = nm.inactiveControlFunctions
  internals : nm'.internalControlFunctions = nm.internalControlFunctions
  partners : nm'.partneredControlFunctions = nm.partneredControlFunctions
  started : nm'.initialized = nm.initialized

def stolen (nm : CANNetworkManager) (channel address : UInt8) : Option CFRef :=
  (nm.controlFunctionTable channel address).filter fun c => nm.address c = NULL_CAN_ADDRESS

def returning (nm : CANNetworkManager) (channel address : UInt8) : Option CFRef :=
  nm.inactiveControlFunctions.find? fun c => nm.address c = address ∧ nm.port c = channel

def refreshed (nm : CANNetworkManager) (channel address : UInt8) : Option CFRef :=
  ((nm.controlFunctionTable channel address).filter fun c => nm.address c ≠ NULL_CAN_ADDRESS).or
    (nm.returning channel address)

/-- A claim of this address was worked off. -/
structure Refreshed (channel address : UInt8) (nm nm' : CANNetworkManager) : Prop where
  controlFunctions : nm'.controlFunctions = nm.controlFunctions
  partnered : nm'.partnered = nm.partnered
  next : nm'.nextControlFunction = nm.nextControlFunction
  table : ∀ channel' address', nm'.controlFunctionTable channel' address' =
    if channel' = channel ∧ address' = address then nm.refreshed channel address
    else nm.controlFunctionTable channel' address'
  inactive : nm'.inactiveControlFunctions =
    nm.inactiveControlFunctions ++ (nm.stolen channel address).toList
  internals : nm'.internalControlFunctions = nm.internalControlFunctions
  partners : nm'.partneredControlFunctions = nm.partneredControlFunctions
  started : nm'.initialized = nm.initialized

variable {nm nm' nm'' : CANNetworkManager} {env : Environment}

theorem SamePlaces.refl (nm : CANNetworkManager) : SamePlaces nm nm := by constructor <;> rfl

theorem SamePlaces.trans (h : SamePlaces nm nm') (h' : SamePlaces nm' nm'') :
    SamePlaces nm nm'' where
  controlFunctions := h'.controlFunctions.trans h.controlFunctions
  partnered := h'.partnered.trans h.partnered
  next := h'.next.trans h.next
  table := h'.table.trans h.table
  inactive := h'.inactive.trans h.inactive
  internals := h'.internals.trans h.internals
  partners := h'.partners.trans h.partners
  started := h'.started.trans h.started

variable {channel address : UInt8}

theorem SamePlaces.address_eq (h : SamePlaces nm nm') (c : CFRef) : nm'.address c =
    nm.address c := by
  rw [CANNetworkManager.address, h.controlFunctions]; rfl

theorem SamePlaces.port_eq (h : SamePlaces nm nm') (c : CFRef) : nm'.port c = nm.port c := by
  rw [CANNetworkManager.port, h.controlFunctions]; rfl

theorem Refreshed.address_eq (h : Refreshed channel address nm nm') (c : CFRef) : nm'.address c =
    nm.address c := by
  rw [CANNetworkManager.address, h.controlFunctions]; rfl

theorem Refreshed.port_eq (h : Refreshed channel address nm nm') (c : CFRef) : nm'.port c =
    nm.port c := by
  rw [CANNetworkManager.port, h.controlFunctions]; rfl

variable {c : CFRef}

end CANNetworkManager

end Isobus.NetworkManager
