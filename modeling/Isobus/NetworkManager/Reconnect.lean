import Isobus.NetworkManager.AddressTable

namespace Isobus.NetworkManager

open Isobus.Can Isobus.Lib

namespace CANNetworkManager

/-- The manager still has the partner where it looks for its NAME, and gives it the entry of the
claimed address: because it moves there from another valid address, has the entry, or is inactive
and nobody keeps the entry. -/
def CanReconnect (nm : CANNetworkManager) (partner : CFRef) (claimedAddress : UInt8) : Prop :=
  nm.findKnown (nm.port partner) (nm.name partner) = some partner ∧
      (nm.address partner ≠ claimedAddress ∧ nm.address partner < NULL_CAN_ADDRESS ∨
        nm.controlFunctionTable (nm.port partner) claimedAddress = some partner ∨
        partner ∈ nm.inactiveControlFunctions ∧
          ∀ c, nm.controlFunctionTable (nm.port partner) claimedAddress = some c →
            nm.address c = NULL_CAN_ADDRESS ∨
              nm.Loses (some partner) (nm.port partner) claimedAddress (nm.name partner) c) ∨
    nm.findKnown (nm.port partner) (nm.name partner) = none ∧
      nm.findPartner (nm.port partner) (nm.name partner) = some partner

variable {nm nm' : CANNetworkManager} {partner : CFRef} {channel claimedAddress : UInt8}

/-- Once the messages are worked off, the partner will have its entry. -/
structure Awaits (channel claimedAddress : UInt8) (partner : CFRef)
    (nm : CANNetworkManager) : Prop where
  address : nm.address partner = claimedAddress
  port : nm.port partner = channel
  entry : nm.controlFunctionTable channel claimedAddress = some partner ∨
    partner ∈ nm.inactiveControlFunctions ∧
      (∀ c, nm.controlFunctionTable channel claimedAddress = some c →
        nm.address c = NULL_CAN_ADDRESS) ∧
      ∀ c ∈ nm.inactiveControlFunctions, nm.address c = claimedAddress → nm.port c = channel →
        c = partner

theorem Awaits.refreshed (h : Awaits channel claimedAddress partner nm)
    (hslot : claimedAddress < NULL_CAN_ADDRESS) :
    nm.refreshed channel claimedAddress = some partner := by
  have hne : claimedAddress ≠ NULL_CAN_ADDRESS := UInt8.ne_of_lt hslot
  rcases h.entry with hentry | ⟨hmem, hnull, hunique⟩
  · rw [CANNetworkManager.refreshed, hentry, Option.filter_some_pos (by simp [h.address, hne])]
    rfl
  · have hkept : (nm.controlFunctionTable channel claimedAddress).filter
        (fun c => nm.address c ≠ NULL_CAN_ADDRESS) = none := by
      cases hentry : nm.controlFunctionTable channel claimedAddress with
      | none => rfl
      | some c => rw [Option.filter_some_neg (by simp [hnull c hentry])]
    rw [CANNetworkManager.refreshed, hkept, Option.none_or, returning]
    cases hfind : nm.inactiveControlFunctions.find?
        (fun c => nm.address c = claimedAddress ∧ nm.port c = channel) with
    | none => exact absurd (List.find?_eq_none.mp hfind partner hmem) (by simp [h.address, h.port])
    | some c =>
      have hc := List.find?_some hfind
      rw [decide_eq_true_eq] at hc
      rw [hunique c (List.mem_of_find?_eq_some hfind) hc.1 hc.2]

variable {config : CANNetworkConfiguration} {env : Environment}

variable {claimedName : NAME} {rxFrame : CANMessageFrame}

variable {c : CFRef}

/-- Where a partner that is known ends up, before the messages are worked off. -/
structure Returns (nm accepted : CANNetworkManager) (partner : CFRef)
    (channel claimedAddress : UInt8) (claimedName : NAME) : Prop where
  address : accepted.address partner = claimedAddress
  others : ∀ c ≠ partner, accepted.address c =
    if nm.Loses (some partner) channel claimedAddress claimedName c then NULL_CAN_ADDRESS
    else nm.address c
  port : ∀ c, accepted.port c = nm.port c
  table : accepted.controlFunctionTable = nm.controlFunctionTable
  inactive : accepted.inactiveControlFunctions = nm.inactiveControlFunctions

theorem Returns.awaits {accepted : CANNetworkManager}
    (h : Returns nm accepted partner channel claimedAddress claimedName)
    (hslot : claimedAddress < NULL_CAN_ADDRESS) (hport : nm.port partner = channel)
    (hentry : nm.controlFunctionTable channel claimedAddress = some partner ∨
      partner ∈ nm.inactiveControlFunctions ∧
        ∀ c, nm.controlFunctionTable channel claimedAddress = some c →
          nm.address c = NULL_CAN_ADDRESS ∨
            nm.Loses (some partner) channel claimedAddress claimedName c) :
    Awaits channel claimedAddress partner accepted := by
  have hne : NULL_CAN_ADDRESS ≠ claimedAddress := (UInt8.ne_of_lt hslot).symm
  refine ⟨h.address, (h.port partner).trans hport, ?_⟩
  rw [h.table, h.inactive]
  by_cases hown : nm.controlFunctionTable channel claimedAddress = some partner
  · exact .inl hown
  · obtain ⟨hmem, hnull⟩ := hentry.resolve_left hown
    refine .inr ⟨hmem, fun c hc => ?_, fun c hc haddress hcport => ?_⟩
    · rw [h.others c fun heq => hown (heq ▸ hc)]
      split_ifs with hloses
      · rfl
      · exact (hnull c hc).resolve_right hloses
    · -- An inactive control function of the channel loses the address to the claimant.
      by_contra hcp
      rw [h.port] at hcport
      rw [h.others c hcp] at haddress
      split_ifs at haddress with hloses
      · exact hne haddress
      · exact hloses ⟨fun heq => hcp (Option.some.inj heq).symm, haddress, .inr ⟨hc, hcport⟩⟩

theorem CanReconnect.findClaimant (h : CanReconnect nm partner claimedAddress) :
    (nm.findClaimant (nm.port partner) claimedAddress (nm.name partner)).1 = some partner := by
  rcases h with ⟨hknown, -⟩ | ⟨hunknown, hpartner⟩
  · rw [findClaimant_of_known hknown]
  · rw [findClaimant_of_partner hunknown hpartner]

end CANNetworkManager

open CANNetworkManager

variable (globalCallbacks anyControlFunctionCallbacks protocolCallbacks :
  List ParameterGroupNumberCallbackData)

end Isobus.NetworkManager
