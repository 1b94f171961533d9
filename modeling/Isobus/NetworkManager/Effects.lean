import Isobus.Lib.Fold
import Isobus.NetworkManager.Manager

namespace Isobus.NetworkManager

open Isobus.Can Isobus.Lib

def claimOf : Event → Option (CFRef × UInt8)
  | .addressClaimed c address => some (c, address)
  | _ => none

namespace CANNetworkManager

def NoClaim (nm nm' : CANNetworkManager) : Prop :=
  ∃ events, nm'.log = nm.log ++ events ∧ ∀ e ∈ events, claimOf e = none

theorem NoClaim.refl (nm : CANNetworkManager) : NoClaim nm nm := ⟨[], by simp, by simp⟩

variable {nm nm' : CANNetworkManager}

variable {nm'' : CANNetworkManager}

theorem NoClaim.trans (h : NoClaim nm nm') (h' : NoClaim nm' nm'') : NoClaim nm nm'' := by
  obtain ⟨events, hlog, hevents⟩ := h
  obtain ⟨events', hlog', hevents'⟩ := h'
  refine ⟨events ++ events', by rw [hlog', hlog, List.append_assoc], fun e he => ?_⟩
  exact (List.mem_append.mp he).elim (hevents e) (hevents' e)

/-- Everything but the claim machines, the sessions and the log. -/
structure SameTables (nm nm' : CANNetworkManager) : Prop where
  controlFunctions : nm'.controlFunctions = nm.controlFunctions
  claimed : nm'.claimedAddressSinceLastAddressClaimRequest =
    nm.claimedAddressSinceLastAddressClaimRequest
  partnered : nm'.partnered = nm.partnered
  next : nm'.nextControlFunction = nm.nextControlFunction
  table : nm'.controlFunctionTable = nm.controlFunctionTable
  inactive : nm'.inactiveControlFunctions = nm.inactiveControlFunctions
  internals : nm'.internalControlFunctions = nm.internalControlFunctions
  partners : nm'.partneredControlFunctions = nm.partneredControlFunctions
  request : nm'.lastAddressClaimRequestTimestamp = nm.lastAddressClaimRequestTimestamp
  queue : nm'.receivedMessageQueue = nm.receivedMessageQueue
  started : nm'.initialized = nm.initialized

theorem SameTables.refl (nm : CANNetworkManager) : SameTables nm nm := by
  constructor <;> rfl

theorem SameTables.trans (h : SameTables nm nm') (h' : SameTables nm' nm'') :
    SameTables nm nm'' where
  controlFunctions := h'.controlFunctions.trans h.controlFunctions
  claimed := h'.claimed.trans h.claimed
  partnered := h'.partnered.trans h.partnered
  next := h'.next.trans h.next
  table := h'.table.trans h.table
  inactive := h'.inactive.trans h.inactive
  internals := h'.internals.trans h.internals
  partners := h'.partners.trans h.partners
  request := h'.request.trans h.request
  queue := h'.queue.trans h.queue
  started := h'.started.trans h.started

def Nudged (before after : InternalControlFunction) : Prop :=
  after = before ∨ before.state = .addressClaimingComplete ∧
    (after.state = .addressClaimingComplete ∨ after.state = .sendReclaimAddressOnRequest ∨
      after.state = .sendPreferredAddressClaim ∨ after.state = .sendArbitraryAddressClaim)

theorem Nudged.trans {a b c : InternalControlFunction} (h : Nudged a b) (h' : Nudged b c) :
    Nudged a c := by
  rcases h' with rfl | ⟨hb, hc⟩
  · exact h
  · rcases h with rfl | ⟨ha, -⟩
    · exact .inr ⟨hb, hc⟩
    · exact .inr ⟨ha, hc⟩

/-- What messages may do: they nudge claim machines and call callbacks. -/
structure Nudges (nm nm' : CANNetworkManager) : Prop extends SameTables nm nm' where
  nudged : ∀ c, Nudged (nm.internal c) (nm'.internal c)
  noClaim : NoClaim nm nm'

theorem Nudges.refl (nm : CANNetworkManager) : Nudges nm nm where
  toSameTables := .refl nm
  nudged _ := .inl rfl
  noClaim := .refl nm

theorem Nudges.trans (h : Nudges nm nm') (h' : Nudges nm' nm'') : Nudges nm nm'' where
  toSameTables := h.toSameTables.trans h'.toSameTables
  nudged c := (h.nudged c).trans (h'.nudged c)
  noClaim := h.noClaim.trans h'.noClaim

variable {config : CANNetworkConfiguration} {env : Environment}

end CANNetworkManager

end Isobus.NetworkManager
