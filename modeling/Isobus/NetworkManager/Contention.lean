import Isobus.NetworkManager.Turn

/-!
# The contention for a claimed address

What a received claim does to one control function depends on that one alone: whether it has the
address, whether it can defend it, and how often the walk comes by.
-/

namespace Isobus.NetworkManager

open Isobus.Can Isobus.Lib

namespace CANNetworkManager

/-- The entries, the lists, and of the objects everything but their addresses. -/
structure SameEntries (nm nm' : CANNetworkManager) : Prop where
  name : ∀ c, nm'.name c = nm.name c
  kind : ∀ c, nm'.type c = nm.type c ∧ nm'.port c = nm.port c
  partnered : nm'.partnered = nm.partnered
  next : nm'.nextControlFunction = nm.nextControlFunction
  table : nm'.controlFunctionTable = nm.controlFunctionTable
  inactive : nm'.inactiveControlFunctions = nm.inactiveControlFunctions
  internals : nm'.internalControlFunctions = nm.internalControlFunctions
  partners : nm'.partneredControlFunctions = nm.partneredControlFunctions
  queue : nm'.receivedMessageQueue = nm.receivedMessageQueue
  started : nm'.initialized = nm.initialized

variable {nm nm' nm'' : CANNetworkManager}

theorem SameEntries.refl (nm : CANNetworkManager) : SameEntries nm nm := by
  constructor <;> first | rfl | exact fun _ => rfl | exact fun _ => ⟨rfl, rfl⟩

theorem SameEntries.trans (h : SameEntries nm nm') (h' : SameEntries nm' nm'') :
    SameEntries nm nm'' where
  name c := (h'.name c).trans (h.name c)
  kind c := ⟨(h'.kind c).1.trans (h.kind c).1, (h'.kind c).2.trans (h.kind c).2⟩
  partnered := h'.partnered.trans h.partnered
  next := h'.next.trans h.next
  table := h'.table.trans h.table
  inactive := h'.inactive.trans h.inactive
  internals := h'.internals.trans h.internals
  partners := h'.partners.trans h.partners
  queue := h'.queue.trans h.queue
  started := h'.started.trans h.started

variable {c : CFRef}

variable {env : Environment}

def slotCount (nm : CANNetworkManager) (channel : UInt8) (c : CFRef) : Nat :=
  slots.countP fun address => nm.controlFunctionTable channel address = some c

/-- One of ours that is done and whose NAME is lower, met once by the walk. -/
def Defends (nm : CANNetworkManager) (channel : UInt8) (claimedName : NAME) (c : CFRef) : Prop :=
  nm.type c = .internal ∧ nm.currentState c = .addressClaimingComplete ∧
    nm.name c < claimedName ∧ nm.slotCount channel c = 1

instance (nm : CANNetworkManager) (channel : UInt8) (claimedName : NAME) (c : CFRef) :
    Decidable (nm.Defends channel claimedName c) :=
  inferInstanceAs (Decidable (_ ∧ _ ∧ _ ∧ _))

variable {found : Option CFRef}

section Iterate

variable {type : ControlFunctionType} {name claimedName : NAME} {claimedAddress : UInt8}
  {now : UInt32} {before : UInt8 × InternalControlFunction}

end Iterate

variable {c : CFRef}

def Loses (nm : CANNetworkManager) (found : Option CFRef) (channel claimedAddress : UInt8)
    (claimedName : NAME) (c : CFRef) : Prop :=
  found ≠ some c ∧ nm.address c = claimedAddress ∧
    (0 < nm.slotCount channel c ∧ ¬nm.Defends channel claimedName c ∨
      c ∈ nm.inactiveControlFunctions ∧ nm.port c = channel)

instance (nm : CANNetworkManager) (found : Option CFRef) (channel claimedAddress : UInt8)
    (claimedName : NAME) (c : CFRef) :
    Decidable (nm.Loses found channel claimedAddress claimedName c) :=
  inferInstanceAs (Decidable (_ ∧ _ ∧ (_ ∧ _ ∨ _ ∧ _)))

section Claim

variable {channel claimedAddress : UInt8}

theorem findClaimant_of_known {claimedName : NAME} {c : CFRef}
    (h : nm.findKnown channel claimedName = some c) :
    nm.findClaimant channel claimedAddress claimedName = (some c, nm) := by
  rw [findClaimant, h]

theorem findClaimant_of_partner {claimedName : NAME} {c : CFRef}
    (h : nm.findKnown channel claimedName = none)
    (hpartner : nm.findPartner channel claimedName = some c) :
    nm.findClaimant channel claimedAddress claimedName =
      (some c, (nm.setName c claimedName).setSlot channel claimedAddress (some c)) := by
  rw [findClaimant, h, hpartner]

end Claim

end CANNetworkManager

end Isobus.NetworkManager
