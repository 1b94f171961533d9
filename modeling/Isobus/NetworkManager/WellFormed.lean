import Isobus.NetworkManager.Effects

namespace Isobus.NetworkManager

open Isobus.Can Isobus.Lib

namespace CANNetworkManager

structure WellFormed (nm : CANNetworkManager) : Prop where
  slot : ∀ channel address c, nm.controlFunctionTable channel address = some c →
    address < NULL_CAN_ADDRESS
  entry : ∀ channel address c, nm.controlFunctionTable channel address = some c →
    c < nm.nextControlFunction ∧ nm.port c = channel
  inactive : ∀ c ∈ nm.inactiveControlFunctions, c < nm.nextControlFunction
  internals : ∀ c ∈ nm.internalControlFunctions, c < nm.nextControlFunction ∧ nm.type c = .internal
  partners : ∀ c ∈ nm.partneredControlFunctions,
    c < nm.nextControlFunction ∧ nm.type c = .partnered ∧ nm.port c < CAN_PORT_MAXIMUM

/-- Objects stay, and stay what and where they are. -/
structure Extends (nm nm' : CANNetworkManager) : Prop where
  next_le : nm.nextControlFunction ≤ nm'.nextControlFunction
  type_eq : ∀ c < nm.nextControlFunction, nm'.type c = nm.type c
  port_eq : ∀ c < nm.nextControlFunction, nm'.port c = nm.port c

theorem Extends.refl (nm : CANNetworkManager) : Extends nm nm :=
  ⟨le_rfl, fun _ _ => rfl, fun _ _ => rfl⟩

variable {nm' : CANNetworkManager} {c : CFRef} {channel : UInt8}

theorem Extends.trans {nm nm'' : CANNetworkManager} (h : Extends nm nm') (h' : Extends nm' nm'') :
    Extends nm nm'' where
  next_le := h.next_le.trans h'.next_le
  type_eq c hc := (h'.type_eq c (hc.trans_le h.next_le)).trans (h.type_eq c hc)
  port_eq c hc := (h'.port_eq c (hc.trans_le h.next_le)).trans (h.port_eq c hc)

theorem WellFormed.of_kinds {nm : CANNetworkManager} (hwf : WellFormed nm)
    (hnext : nm'.nextControlFunction = nm.nextControlFunction)
    (hkind : ∀ c, nm'.type c = nm.type c ∧ nm'.port c = nm.port c)
    (htable : nm'.controlFunctionTable = nm.controlFunctionTable)
    (hinactive : ∀ c ∈ nm'.inactiveControlFunctions, c ∈ nm.inactiveControlFunctions)
    (hinternals : ∀ c ∈ nm'.internalControlFunctions, c ∈ nm.internalControlFunctions)
    (hpartners : ∀ c ∈ nm'.partneredControlFunctions, c ∈ nm.partneredControlFunctions) :
    WellFormed nm' where
  slot := by rw [htable]; exact hwf.slot
  entry channel address c hc := by
    rw [htable] at hc
    rw [hnext, (hkind c).2]
    exact hwf.entry channel address c hc
  inactive c hc := hnext ▸ hwf.inactive c (hinactive c hc)
  internals c hc := by
    rw [hnext, (hkind c).1]
    exact hwf.internals c (hinternals c hc)
  partners c hc := by
    rw [hnext, (hkind c).1, (hkind c).2]
    exact hwf.partners c (hpartners c hc)

theorem extends_of_kinds {nm : CANNetworkManager}
    (hnext : nm'.nextControlFunction = nm.nextControlFunction)
    (hkind : ∀ c, nm'.type c = nm.type c ∧ nm'.port c = nm.port c) : Extends nm nm' :=
  ⟨hnext.ge, fun c _ => (hkind c).1, fun c _ => (hkind c).2⟩

/-- A claim machine that is done may have to go on; no other machine moves. -/
def Stirred (before after : InternalControlFunction) : Prop :=
  after = before ∨ before.state = .addressClaimingComplete ∧
    (after.state = .addressClaimingComplete ∨ after.state = .sendReclaimAddressOnRequest ∨
      after.state = .sendPreferredAddressClaim ∨ after.state = .sendArbitraryAddressClaim ∨
      after.state = .waitForRequestContentionPeriod)

theorem Nudged.stirred {before after : InternalControlFunction} (h : Nudged before after) :
    Stirred before after := by
  rcases h with h | ⟨h, h' | h' | h' | h'⟩
  · exact .inl h
  all_goals exact .inr ⟨h, by simp [h']⟩

theorem Stirred.trans {a b c : InternalControlFunction} (h : Stirred a b) (h' : Stirred b c) :
    Stirred a c := by
  rcases h' with rfl | ⟨hb, hc⟩
  · exact h
  · rcases h with rfl | ⟨ha, -⟩
    · exact .inr ⟨hb, hc⟩
    · exact .inr ⟨ha, hc⟩

/-- What everything but the turns of the claim machines does. -/
structure Calm (nm nm' : CANNetworkManager) : Prop extends Extends nm nm' where
  stirred : ∀ c, Stirred (nm.internal c) (nm'.internal c)
  noClaim : NoClaim nm nm'
  wellFormed : WellFormed nm'

theorem Calm.refl {nm : CANNetworkManager} (hwf : WellFormed nm) : Calm nm nm where
  toExtends := .refl nm
  stirred _ := .inl rfl
  noClaim := .refl nm
  wellFormed := hwf

theorem Calm.trans {nm nm'' : CANNetworkManager} (h : Calm nm nm') (h' : Calm nm' nm'') :
    Calm nm nm'' where
  toExtends := h.toExtends.trans h'.toExtends
  stirred c := (h.stirred c).trans (h'.stirred c)
  noClaim := h.noClaim.trans h'.noClaim
  wellFormed := h'.wellFormed

variable {config : CANNetworkConfiguration} {env : Environment} {nm : CANNetworkManager}

variable {claimedName : NAME}

end CANNetworkManager

end Isobus.NetworkManager
