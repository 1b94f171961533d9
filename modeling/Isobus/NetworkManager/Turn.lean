import Isobus.NetworkManager.WellFormed

namespace Isobus.NetworkManager

open Isobus.Can Isobus.Lib

namespace CANNetworkManager

variable (env : Environment)

def claimGetsOut (nm : CANNetworkManager) (c : CFRef) (addressToClaim : UInt8) : Bool :=
  (constructFrame (nm.port c) addressToClaim BROADCAST_CAN_ADDRESS addressClaim 6
    (nameBytes (nm.name c))).any fun frame => nm.port c < CAN_PORT_MAXIMUM && env.send frame

def claimable (nm : CANNetworkManager) (c : CFRef) (i : UInt8) : Bool :=
  (nm.getControlFunction (nm.port c) i).isNone && nm.claimGetsOut env c i

def dueAddress (nm : CANNetworkManager) (c : CFRef) : Option UInt8 :=
  match nm.currentState c with
  | .sendPreferredAddressClaim | .contendForPreferredAddress =>
    some (nm.internal c).preferredAddress
  | .sendReclaimAddressOnRequest => some (nm.address c)
  | .sendArbitraryAddressClaim => (arbitrationRange (nm.name c)).find? (nm.claimable env c)
  | _ => none

def claimedAddress (nm : CANNetworkManager) (c : CFRef) : Option UInt8 :=
  (nm.dueAddress env c).filter fun address => nm.claimGetsOut env c address

/-- Only an object of ours changes, and of that only the address and the claim machine. -/
structure OnlyOwn (c : CFRef) (nm nm' : CANNetworkManager) : Prop where
  others : ∀ d ≠ c, nm'.controlFunctions d = nm.controlFunctions d
  own : nm'.controlFunctions c = { nm.controlFunctions c with address := nm'.address c }
  internal : ∀ d ≠ c, nm'.internal d = nm.internal d
  claimed : nm'.claimedAddressSinceLastAddressClaimRequest =
    nm.claimedAddressSinceLastAddressClaimRequest
  partnered : nm'.partnered = nm.partnered
  next : nm'.nextControlFunction = nm.nextControlFunction
  table : nm'.controlFunctionTable = nm.controlFunctionTable
  inactive : nm'.inactiveControlFunctions = nm.inactiveControlFunctions
  internals : nm'.internalControlFunctions = nm.internalControlFunctions
  partners : nm'.partneredControlFunctions = nm.partneredControlFunctions
  request : nm'.lastAddressClaimRequestTimestamp = nm.lastAddressClaimRequestTimestamp
  queue : nm'.receivedMessageQueue = nm.receivedMessageQueue
  started : nm'.initialized = nm.initialized
  noClaim : NoClaim nm nm'

variable {c : CFRef} {nm nm' nm'' : CANNetworkManager}

theorem OnlyOwn.refl (c : CFRef) (nm : CANNetworkManager) : OnlyOwn c nm nm := by
  constructor <;> first | rfl | exact fun _ _ => rfl | exact .refl nm

theorem OnlyOwn.trans (h : OnlyOwn c nm nm') (h' : OnlyOwn c nm' nm'') : OnlyOwn c nm nm'' where
  others d hd := (h'.others d hd).trans (h.others d hd)
  own := by rw [h'.own, h.own]
  internal d hd := (h'.internal d hd).trans (h.internal d hd)
  claimed := h'.claimed.trans h.claimed
  partnered := h'.partnered.trans h.partnered
  next := h'.next.trans h.next
  table := h'.table.trans h.table
  inactive := h'.inactive.trans h.inactive
  internals := h'.internals.trans h.internals
  partners := h'.partners.trans h.partners
  request := h'.request.trans h.request
  queue := h'.queue.trans h.queue
  started := h'.started.trans h.started
  noClaim := h.noClaim.trans h'.noClaim

theorem OnlyOwn.name (h : OnlyOwn c nm nm') (d : CFRef) : nm'.name d = nm.name d := by
  by_cases hd : d = c
  · subst hd; rw [CANNetworkManager.name, h.own]; rfl
  · rw [CANNetworkManager.name, h.others d hd]; rfl

theorem OnlyOwn.port (h : OnlyOwn c nm nm') (d : CFRef) : nm'.port d = nm.port d := by
  by_cases hd : d = c
  · subst hd; rw [CANNetworkManager.port, h.own]; rfl
  · rw [CANNetworkManager.port, h.others d hd]; rfl

theorem OnlyOwn.type (h : OnlyOwn c nm nm') (d : CFRef) : nm'.type d = nm.type d := by
  by_cases hd : d = c
  · subst hd; rw [CANNetworkManager.type, h.own]; rfl
  · rw [CANNetworkManager.type, h.others d hd]; rfl

theorem OnlyOwn.getControlFunction (h : OnlyOwn c nm nm') (channelIndex address : UInt8) :
    nm'.getControlFunction channelIndex address = nm.getControlFunction channelIndex address := by
  simp only [CANNetworkManager.getControlFunction, h.table]

theorem OnlyOwn.claimGetsOut (h : OnlyOwn c nm nm') (d : CFRef) (addressToClaim : UInt8) :
    nm'.claimGetsOut env d addressToClaim = nm.claimGetsOut env d addressToClaim := by
  simp only [CANNetworkManager.claimGetsOut, h.port, h.name]

theorem OnlyOwn.claimable (h : OnlyOwn c nm nm') (d : CFRef) :
    nm'.claimable env d = nm.claimable env d := by
  funext i
  simp only [CANNetworkManager.claimable, h.getControlFunction, h.port, h.claimGetsOut env]

theorem OnlyOwn.wellFormed (h : OnlyOwn c nm nm') (hwf : WellFormed nm) : WellFormed nm' :=
  hwf.of_kinds h.next (fun d => ⟨h.type d, h.port d⟩) h.table (fun _ hd => h.inactive ▸ hd)
    (fun _ hd => h.internals ▸ hd) (fun _ hd => h.partners ▸ hd)

theorem OnlyOwn.toExtends (h : OnlyOwn c nm nm') : Extends nm nm' :=
  extends_of_kinds h.next fun d => ⟨h.type d, h.port d⟩

theorem WellFormed.emit {nm : CANNetworkManager} (hwf : WellFormed nm) (event : Event) :
    WellFormed (nm.emit event) :=
  ⟨hwf.slot, hwf.entry, hwf.inactive, hwf.internals, hwf.partners⟩

def turns : Machine CANNetworkManager CFRef Event where
  step nm c := (nm.updateInternalCf env c,
    (nm.updateInternalCf env c).log.drop nm.log.length)

variable {config : CANNetworkConfiguration}

end CANNetworkManager

end Isobus.NetworkManager
