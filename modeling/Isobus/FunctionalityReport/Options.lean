import Isobus.FunctionalityReport.ControlFunctionFunctionalities
import Mathlib.Data.List.GetD
import Mathlib.Tactic

namespace Isobus.FunctionalityReport

open Isobus.Lib

def MinimumControlFunctionOptions.place : MinimumControlFunctionOptions → Option Nat
  | .type1ECUInternalWeakTermination => some 0
  | .type2ECUInternalEndPointTermination => some 1
  | .supportOfHeartbeatProducer => some 2
  | .supportOfHeartbeatConsumer => some 3
  | .noOptions | .reserved => none

def AuxOOptions.place : AuxOOptions → Option Nat
  | .supportsType0Function => some 0
  | .supportsType1Function => some 1
  | .supportsType2Function => some 2
  | .noOptions | .reserved => none

def AuxNOptions.place : AuxNOptions → Option Nat
  | .supportsType0Function => some 0
  | .supportsType1Function => some 1
  | .supportsType2Function => some 2
  | .supportsType3Function => some 3
  | .supportsType4Function => some 4
  | .supportsType5Function => some 5
  | .supportsType6Function => some 6
  | .supportsType7Function => some 7
  | .supportsType8Function => some 8
  | .supportsType9Function => some 9
  | .supportsType10Function => some 10
  | .supportsType11Function => some 11
  | .supportsType12Function => some 12
  | .supportsType13Function => some 13
  | .supportsType14Function => some 14
  | .noOptions | .reserved => none

def TaskControllerGeoServerOptions.place : TaskControllerGeoServerOptions → Option Nat
  | .polygonBasedPrescriptionMapsAreSupported => some 0
  | .noOptions | .reserved => none

def BasicTractorECUOptions.place : BasicTractorECUOptions → Option Nat
  | .class1NoOptions => some 0
  | .class2NoOptions => some 1
  | .classRequiredLighting => some 2
  | .navigationOption => some 3
  | .frontHitchOption => some 4
  | .guidanceOption => some 5
  | .tecuNotMeetingCompleteClass1Requirements | .reserved => none

/-- Two bits for each of the valves come first, the other options from the tenth byte on. -/
def TractorImplementManagementOptions.place : TractorImplementManagementOptions → Option Nat
  | .noOptions => none
  | option => some (8 * (getTimOptionByteIndex option).toNat + (getTimOptionBitIndex option).toNat)

inductive FlagOption
  | minimumControlFunction (option : MinimumControlFunctionOptions)
  | auxOInputs (option : AuxOOptions)
  | auxOFunctions (option : AuxOOptions)
  | auxNInputs (option : AuxNOptions)
  | auxNFunctions (option : AuxNOptions)
  | taskControllerGeoServer (option : TaskControllerGeoServerOptions)
  | basicTractorECUServer (option : BasicTractorECUOptions)
  | basicTractorECUImplementClient (option : BasicTractorECUOptions)
  | timServer (option : TractorImplementManagementOptions)
  | timClient (option : TractorImplementManagementOptions)
  | timServerAuxValveState (auxValveIndex : UInt8)
  | timServerAuxValveFlow (auxValveIndex : UInt8)
  | timClientAuxValveState (auxValveIndex : UInt8)
  | timClientAuxValveFlow (auxValveIndex : UInt8)
  deriving DecidableEq

namespace FlagOption

def functionality : FlagOption → Functionalities
  | minimumControlFunction _ => .minimumControlFunction
  | auxOInputs _ => .auxOInputs
  | auxOFunctions _ => .auxOFunctions
  | auxNInputs _ => .auxNInputs
  | auxNFunctions _ => .auxNFunctions
  | taskControllerGeoServer _ => .taskControllerGeoServer
  | basicTractorECUServer _ => .basicTractorECUServer
  | basicTractorECUImplementClient _ => .basicTractorECUImplementClient
  | timServer _ | timServerAuxValveState _ | timServerAuxValveFlow _ =>
    .tractorImplementManagementServer
  | timClient _ | timClientAuxValveState _ | timClientAuxValveFlow _ =>
    .tractorImplementManagementClient

/-- The number of the bit; the values that mean no option, reserved ones and missing valves have
none. -/
def place : FlagOption → Option Nat
  | minimumControlFunction option => option.place
  | auxOInputs option | auxOFunctions option => option.place
  | auxNInputs option | auxNFunctions option => option.place
  | taskControllerGeoServer option => option.place
  | basicTractorECUServer option | basicTractorECUImplementClient option => option.place
  | timServer option | timClient option => option.place
  | timServerAuxValveState index | timClientAuxValveState index =>
    if index < NUMBER_TIM_AUX_VALVES then some (2 * index.toNat) else none
  | timServerAuxValveFlow index | timClientAuxValveFlow index =>
    if index < NUMBER_TIM_AUX_VALVES then some (2 * index.toNat + 1) else none

end FlagOption

theorem MinimumControlFunctionOptions.place_injective {a b : MinimumControlFunctionOptions}
    (ha : a.place.isSome) (h : a.place = b.place) : a = b := by
  revert ha h
  cases a <;> cases b <;> decide

theorem AuxOOptions.place_injective {a b : AuxOOptions} (ha : a.place.isSome)
    (h : a.place = b.place) : a = b := by
  revert ha h
  cases a <;> cases b <;> decide

theorem AuxNOptions.place_injective {a b : AuxNOptions} (ha : a.place.isSome)
    (h : a.place = b.place) : a = b := by
  revert ha h
  cases a <;> cases b <;> decide

theorem TaskControllerGeoServerOptions.place_injective {a b : TaskControllerGeoServerOptions}
    (ha : a.place.isSome) (h : a.place = b.place) : a = b := by
  revert ha h
  cases a <;> cases b <;> decide

theorem BasicTractorECUOptions.place_injective {a b : BasicTractorECUOptions}
    (ha : a.place.isSome) (h : a.place = b.place) : a = b := by
  revert ha h
  cases a <;> cases b <;> decide

theorem TractorImplementManagementOptions.place_injective
    {a b : TractorImplementManagementOptions} (ha : a.place.isSome) (h : a.place = b.place) :
    a = b := by
  revert ha h
  cases a <;> cases b <;> decide

theorem TractorImplementManagementOptions.le_place {option : TractorImplementManagementOptions}
    {n : Nat} (h : option.place = some n) : 72 ≤ n ∧ n < 120 := by
  revert h
  cases option <;> simp only [place, reduceCtorEq, Option.some_inj, IsEmpty.forall_iff] <;>
    rintro rfl <;> decide

theorem valve_place {index : UInt8} {m n : Nat}
    (h : (if index < NUMBER_TIM_AUX_VALVES then some m else none) = some n) :
    index.toNat < 32 ∧ m = n := by
  split at h
  · rename_i hindex
    exact ⟨UInt8.lt_iff_toNat_lt.mp hindex, Option.some_inj.mp h⟩
  · cases h

namespace FlagOption

theorem place_injective {a b : FlagOption} (hsame : a.functionality = b.functionality) {n : Nat}
    (ha : a.place = some n) (hb : b.place = some n) : a = b := by
  have hplace : a.place.isSome := Option.isSome_iff_exists.mpr ⟨n, ha⟩
  have heq := ha.trans hb.symm
  cases a <;> cases b <;> cases hsame
  case minimumControlFunction.minimumControlFunction.refl =>
    exact congrArg _ (MinimumControlFunctionOptions.place_injective hplace heq)
  case auxOInputs.auxOInputs.refl | auxOFunctions.auxOFunctions.refl =>
    exact congrArg _ (AuxOOptions.place_injective hplace heq)
  case auxNInputs.auxNInputs.refl | auxNFunctions.auxNFunctions.refl =>
    exact congrArg _ (AuxNOptions.place_injective hplace heq)
  case taskControllerGeoServer.taskControllerGeoServer.refl =>
    exact congrArg _ (TaskControllerGeoServerOptions.place_injective hplace heq)
  case basicTractorECUServer.basicTractorECUServer.refl |
      basicTractorECUImplementClient.basicTractorECUImplementClient.refl =>
    exact congrArg _ (BasicTractorECUOptions.place_injective hplace heq)
  case timServer.timServer.refl | timClient.timClient.refl =>
    exact congrArg _ (TractorImplementManagementOptions.place_injective hplace heq)
  -- The valves have the even and the odd bits of the first eight bytes.
  case timServerAuxValveState.timServerAuxValveState.refl |
      timServerAuxValveFlow.timServerAuxValveFlow.refl |
      timClientAuxValveState.timClientAuxValveState.refl |
      timClientAuxValveFlow.timClientAuxValveFlow.refl =>
    have hfirst := valve_place ha
    have hsecond := valve_place hb
    exact congrArg _ (UInt8.toNat_inj.mp (by omega))
  case timServerAuxValveState.timServerAuxValveFlow.refl |
      timServerAuxValveFlow.timServerAuxValveState.refl |
      timClientAuxValveState.timClientAuxValveFlow.refl |
      timClientAuxValveFlow.timClientAuxValveState.refl =>
    have hfirst := valve_place ha
    have hsecond := valve_place hb
    omega
  case timServer.timServerAuxValveState.refl | timServer.timServerAuxValveFlow.refl |
      timClient.timClientAuxValveState.refl | timClient.timClientAuxValveFlow.refl =>
    have hfirst := TractorImplementManagementOptions.le_place ha
    have hsecond := valve_place hb
    omega
  case timServerAuxValveState.timServer.refl | timServerAuxValveFlow.timServer.refl |
      timClientAuxValveState.timClient.refl | timClientAuxValveFlow.timClient.refl =>
    have hfirst := valve_place ha
    have hsecond := TractorImplementManagementOptions.le_place hb
    omega

theorem place_lt {option : FlagOption} {n : Nat} (h : option.place = some n) :
    n / 8 < (FunctionalityData.configureDefaultData option.functionality).length := by
  cases option
  case timServer option | timClient option =>
    have hplace := TractorImplementManagementOptions.le_place h
    change n / 8 < 15
    omega
  case timServerAuxValveState index | timServerAuxValveFlow index |
      timClientAuxValveState index | timClientAuxValveFlow index =>
    have hplace := valve_place h
    change n / 8 < 15
    omega
  all_goals
    rename_i option
    revert h
    cases option <;> rintro ⟨⟩ <;> decide

end FlagOption

namespace FunctionalityData

variable {k : Nat}

theorem bitMask_lt (hk : k < 8) : bitMask k < 0xFF := by
  interval_cases k <;> decide

theorem setBitInOption_bitMask (data : FunctionalityData) (byteIndex : UInt8) (hk : k < 8)
    (value : Bool) :
    data.setBitInOption byteIndex (bitMask k) value =
      { data with
        serializedValue := setBit data.serializedValue (8 * byteIndex.toNat + k) value } := by
  have hbyte : (8 * byteIndex.toNat + k) / 8 = byteIndex.toNat := by omega
  have hbit : (8 * byteIndex.toNat + k) % 8 = k := by omega
  unfold setBitInOption setBit
  rw [hbyte, hbit]
  by_cases hlength : byteIndex.toNat < data.serializedValue.length
  · dsimp only
    rw [if_pos ⟨hlength, bitMask_lt hk⟩]
    cases value <;> rfl
  · dsimp only
    rw [if_neg fun h => hlength h.1, List.set_eq_of_length_le (Nat.le_of_not_lt hlength)]

theorem setBitInOption_zero (data : FunctionalityData) (byteIndex : UInt8) (value : Bool) :
    data.setBitInOption byteIndex 0 value = data := by
  unfold setBitInOption
  by_cases hlength : byteIndex.toNat < data.serializedValue.length
  · have hold : ∀ byte, byte = data.serializedValue.getD byteIndex.toNat 0 →
        data.serializedValue.set byteIndex.toNat byte = data.serializedValue := by
      intro byte hbyte
      rw [hbyte, List.getD_eq_getElem _ _ hlength, List.set_getElem_self]
    rw [if_pos ⟨hlength, by decide⟩]
    cases value with
    | true => rw [if_pos rfl, hold _ UInt8.or_zero]
    | false => rw [if_neg Bool.false_ne_true, hold _ (by simp)]
  · rw [if_neg fun h => hlength h.1]

theorem getBitInOption_bitMask (data : FunctionalityData) (byteIndex : UInt8) (hk : k < 8) :
    data.getBitInOption byteIndex (bitMask k) =
      bitAt data.serializedValue (8 * byteIndex.toNat + k) := by
  have hbyte : (8 * byteIndex.toNat + k) / 8 = byteIndex.toNat := by omega
  have hbit : (8 * byteIndex.toNat + k) % 8 = k := by omega
  unfold getBitInOption bitAt
  rw [hbyte, hbit]
  by_cases hlength : byteIndex.toNat < data.serializedValue.length
  · rw [if_pos ⟨hlength, bitMask_lt hk⟩, and_bitMask_ne_zero _ hk]
  · rw [if_neg fun h => hlength h.1, List.getD_eq_getElem?_getD,
      List.getElem?_eq_none (Nat.le_of_not_lt hlength)]
    exact (BitVec.getLsbD_zero).symm

end FunctionalityData

namespace ControlFunctionFunctionalities

variable (self : ControlFunctionFunctionalities)

def setFlag (option : FlagOption) (value : Bool) : ControlFunctionFunctionalities :=
  match option.place with
  | none => self
  | some n => self.modifyFunctionality option.functionality fun data =>
    { data with serializedValue := setBit data.serializedValue n value }

def getFlag (option : FlagOption) : Bool :=
  match option.place with
  | none => false
  | some n =>
    match self.getFunctionality option.functionality with
    | none => false
    | some data => bitAt data.serializedValue n

def enabled : List Functionalities := self.supportedFunctionalities.entries.map Prod.fst

theorem getFunctionality_modify (functionality other : Functionalities)
    (change : FunctionalityData → FunctionalityData) :
    (self.modifyFunctionality functionality change).getFunctionality other =
      if other = functionality then (self.getFunctionality functionality).map change
      else self.getFunctionality other := by
  unfold getFunctionality modifyFunctionality
  rw [KeyedTable.lookup_alter]
  split
  · exact Option.map_eq_bind.symm
  · rfl

theorem enabled_modify (functionality : Functionalities)
    (change : FunctionalityData → FunctionalityData) :
    (self.modifyFunctionality functionality change).enabled = self.enabled :=
  KeyedTable.map_fst_alter_some _ _ _

theorem ext_getFunctionality {a b : ControlFunctionFunctionalities}
    (henabled : a.enabled = b.enabled)
    (hdata : ∀ functionality, a.getFunctionality functionality = b.getFunctionality functionality) :
    a = b := by
  cases a
  cases b
  exact congrArg _ (KeyedTable.ext_lookup henabled hdata)

theorem modifyFunctionality_id (functionality : Functionalities) :
    (self.modifyFunctionality functionality fun data => data) = self := by
  apply ext_getFunctionality
  · exact self.enabled_modify _ _
  · intro other
    rw [getFunctionality_modify]
    split
    · rename_i hsame
      rw [hsame]
      exact congrFun Option.map_id _
    · rfl

theorem modifyFunctionality_modify (functionality : Functionalities)
    (first second : FunctionalityData → FunctionalityData) :
    (self.modifyFunctionality functionality first).modifyFunctionality functionality second =
      self.modifyFunctionality functionality fun data => second (first data) := by
  apply ext_getFunctionality
  · rw [enabled_modify, enabled_modify, enabled_modify]
  · intro other
    rw [getFunctionality_modify, getFunctionality_modify, getFunctionality_modify,
      getFunctionality_modify, if_pos rfl, Option.map_map]
    split
    · rfl
    · rfl

theorem getFunctionalityByteOption_eq (option : FlagOption) (byteIndex : UInt8) {k n : Nat}
    (hk : k < 8) (hplace : option.place = some n) (hn : n = 8 * byteIndex.toNat + k) :
    self.getFunctionalityByteOption option.functionality byteIndex (bitMask k) =
      self.getFlag option := by
  unfold getFunctionalityByteOption getFlag
  rw [hplace]
  cases self.getFunctionality option.functionality with
  | none => rfl
  | some data =>
    rw [hn]
    exact data.getBitInOption_bitMask byteIndex hk

def IsFirstByteMask (place : Option Nat) (reserved value : UInt8) : Prop :=
  match place with
  | some n => n < 8 ∧ value = bitMask n ∧ value < reserved
  | none => value = 0 ∨ ¬ value < reserved

theorem setFirstByteOption_eq (option : FlagOption) {reserved value : UInt8}
    (h : IsFirstByteMask option.place reserved value) (optionState : Bool) :
    self.setFirstByteOption option.functionality reserved value optionState =
      self.setFlag option optionState := by
  unfold setFirstByteOption setFlag
  cases hplace : option.place with
  | none =>
    rw [hplace] at h
    rcases h with hzero | hreserved
    · rw [hzero]
      split
      · simp only [FunctionalityData.setBitInOption_zero]
        exact self.modifyFunctionality_id option.functionality
      · rfl
    · rw [if_neg hreserved]
  | some n =>
    rw [hplace] at h
    obtain ⟨hn, hvalue, hlt⟩ := h
    rw [if_pos hlt, hvalue]
    simp only [FunctionalityData.setBitInOption_bitMask _ _ hn]
    rw [show 8 * (0 : UInt8).toNat + n = n from Nat.zero_add n]

theorem getFirstByteOption_eq (option : FlagOption) {reserved value : UInt8}
    (h : IsFirstByteMask option.place reserved value) (hoption : option.place.isSome) :
    self.getFunctionalityByteOption option.functionality 0 value = self.getFlag option := by
  obtain ⟨n, hplace⟩ := Option.isSome_iff_exists.mp hoption
  rw [hplace] at h
  rw [h.2.1]
  exact self.getFunctionalityByteOption_eq option 0 h.1 hplace (Nat.zero_add n).symm

end ControlFunctionFunctionalities

theorem MinimumControlFunctionOptions.isFirstByteMask (option : MinimumControlFunctionOptions) :
    ControlFunctionFunctionalities.IsFirstByteMask option.place
      MinimumControlFunctionOptions.reserved.value option.value := by
  cases option <;> simp only [ControlFunctionFunctionalities.IsFirstByteMask, place] <;> decide

theorem AuxOOptions.isFirstByteMask (option : AuxOOptions) :
    ControlFunctionFunctionalities.IsFirstByteMask option.place AuxOOptions.reserved.value
      option.value := by
  cases option <;> simp only [ControlFunctionFunctionalities.IsFirstByteMask, place] <;> decide

theorem TaskControllerGeoServerOptions.isFirstByteMask
    (option : TaskControllerGeoServerOptions) :
    ControlFunctionFunctionalities.IsFirstByteMask option.place
      TaskControllerGeoServerOptions.reserved.value option.value := by
  cases option <;> simp only [ControlFunctionFunctionalities.IsFirstByteMask, place] <;> decide

theorem BasicTractorECUOptions.isFirstByteMask (option : BasicTractorECUOptions) :
    ControlFunctionFunctionalities.IsFirstByteMask option.place
      BasicTractorECUOptions.reserved.value option.value := by
  cases option <;> simp only [ControlFunctionFunctionalities.IsFirstByteMask, place] <;> decide

theorem AuxNOptions.value_of_place {option : AuxNOptions} {n : Nat}
    (h : option.place = some n) :
    option.value < AuxNOptions.reserved.value ∧
      (option.value > AuxNOptions.supportsType7Function.value ↔ 8 ≤ n) ∧
      (8 ≤ n → n < 16 ∧ (option.value >>> 8).toUInt8 = bitMask (n - 8) ∧
        option.value.toUInt8 = 0) ∧
      (n < 8 → option.value.toUInt8 = bitMask n) := by
  revert h
  cases option <;> rintro ⟨⟩ <;> decide

theorem TractorImplementManagementOptions.bitIndex_lt {option : TractorImplementManagementOptions}
    (h : option ≠ .noOptions) : (getTimOptionBitIndex option).toNat < 8 := by
  revert h
  cases option <;> decide

theorem TractorImplementManagementOptions.place_eq {option : TractorImplementManagementOptions}
    (h : option ≠ .noOptions) :
    option.place =
      some (8 * (getTimOptionByteIndex option).toNat + (getTimOptionBitIndex option).toNat) := by
  cases option <;> first | rfl | exact absurd rfl h

namespace ControlFunctionFunctionalities

variable (self : ControlFunctionFunctionalities)

theorem setAuxNOption_eq (option : FlagOption) {aux : AuxNOptions}
    (hplace : option.place = aux.place) (optionState : Bool) :
    self.setAuxNOption option.functionality aux optionState = self.setFlag option optionState := by
  unfold setAuxNOption setFlag
  rw [hplace]
  cases haux : aux.place with
  | none =>
    have hnone : aux = .noOptions ∨ aux = .reserved := by
      revert haux
      cases aux <;> decide
    rcases hnone with rfl | rfl
    · rw [if_pos (by decide)]
      exact (congrArg (self.modifyFunctionality option.functionality)
        (funext fun data => data.setBitInOption_zero 0 optionState)).trans
        (self.modifyFunctionality_id option.functionality)
    · rfl
  | some n =>
    obtain ⟨hlt, hsecond, hhigh, hlow⟩ := AuxNOptions.value_of_place haux
    rw [if_pos hlt]
    dsimp only
    congr 1
    funext data
    by_cases hn : 8 ≤ n
    · have hmask := hhigh hn
      rw [if_pos (hsecond.mpr hn), if_pos (hsecond.mpr hn), hmask.2.1,
        data.setBitInOption_bitMask 1 (by omega)]
      rw [show 8 * (1 : UInt8).toNat + (n - 8) = n from Nat.add_sub_cancel' hn]
    · have hno := mt hsecond.mp hn
      rw [if_neg hno, if_neg hno, hlow (Nat.lt_of_not_le hn),
        data.setBitInOption_bitMask 0 (Nat.lt_of_not_le hn)]
      rw [show 8 * (0 : UInt8).toNat + n = n from Nat.zero_add n]

theorem setTimOption_eq (option : FlagOption) {tim : TractorImplementManagementOptions}
    (hplace : option.place = tim.place) (optionState : Bool) :
    self.setTimOption option.functionality tim optionState = self.setFlag option optionState := by
  unfold setTimOption setFlag
  rw [hplace]
  by_cases hno : tim = .noOptions
  · subst hno
    exact (congrArg (self.modifyFunctionality option.functionality)
      (funext fun data => data.setBitInOption_zero 0xFF optionState)).trans
      (self.modifyFunctionality_id option.functionality)
  · rw [TractorImplementManagementOptions.place_eq hno]
    congr 1
    funext data
    exact data.setBitInOption_bitMask _ (TractorImplementManagementOptions.bitIndex_lt hno) _

theorem valve_index (index : UInt8) :
    (index / 4).toNat = index.toNat / 4 ∧ (2 * (index % 4)).toNat = 2 * (index.toNat % 4) ∧
      (2 * (index % 4) + 1).toNat = 2 * (index.toNat % 4) + 1 := by
  have hdouble : (2 * (index % 4)).toNat = 2 * (index.toNat % 4) := by
    rw [UInt8.toNat_mul, UInt8.toNat_mod]
    exact Nat.mod_eq_of_lt (by simp; omega)
  refine ⟨UInt8.toNat_div _ _, hdouble, ?_⟩
  rw [UInt8.toNat_add, hdouble]
  exact Nat.mod_eq_of_lt (by simp; omega)

variable {index : UInt8}

theorem setTimAuxValveOption_eq (state flow : FlagOption)
    (hfunctionality : flow.functionality = state.functionality)
    (hstate : state.place =
      if index < NUMBER_TIM_AUX_VALVES then some (2 * index.toNat) else none)
    (hflow : flow.place =
      if index < NUMBER_TIM_AUX_VALVES then some (2 * index.toNat + 1) else none)
    (stateSupported flowSupported : Bool) :
    self.setTimAuxValveOption state.functionality index stateSupported flowSupported =
      (self.setFlag state stateSupported).setFlag flow flowSupported := by
  unfold setTimAuxValveOption setFlag
  rw [hstate, hflow, hfunctionality]
  split
  · rename_i hindex
    obtain ⟨hbyte, heven, hodd⟩ := valve_index index
    dsimp only
    rw [modifyFunctionality_modify]
    congr 1
    funext data
    rw [FunctionalityData.setBitInOption_bitMask _ _ (by omega),
      FunctionalityData.setBitInOption_bitMask _ _ (by omega), hbyte, heven, hodd]
    rw [show 8 * (index.toNat / 4) + 2 * (index.toNat % 4) = 2 * index.toNat by omega,
      show 8 * (index.toNat / 4) + (2 * (index.toNat % 4) + 1) = 2 * index.toNat + 1 by omega]
  · rfl

theorem getTimAuxValveStateSupported_eq (option : FlagOption)
    (hplace : option.place =
      if index < NUMBER_TIM_AUX_VALVES then some (2 * index.toNat) else none) :
    self.getTimAuxValveStateSupported option.functionality index = self.getFlag option := by
  unfold getTimAuxValveStateSupported
  split
  · rename_i hindex
    rw [if_pos hindex] at hplace
    obtain ⟨hbyte, heven, -⟩ := valve_index index
    exact self.getFunctionalityByteOption_eq option _ (by omega) hplace (by omega)
  · rename_i hindex
    rw [if_neg hindex] at hplace
    rw [getFlag, hplace]

theorem getTimAuxValveFlowSupported_eq (option : FlagOption)
    (hplace : option.place =
      if index < NUMBER_TIM_AUX_VALVES then some (2 * index.toNat + 1) else none) :
    self.getTimAuxValveFlowSupported option.functionality index = self.getFlag option := by
  unfold getTimAuxValveFlowSupported
  split
  · rename_i hindex
    rw [if_pos hindex] at hplace
    obtain ⟨hbyte, -, hodd⟩ := valve_index index
    exact self.getFunctionalityByteOption_eq option _ (by omega) hplace (by omega)
  · rename_i hindex
    rw [if_neg hindex] at hplace
    rw [getFlag, hplace]

/-- The getter of each option. -/
def getOption : FlagOption → Bool
  | .minimumControlFunction option => self.getMinimumControlFunctionOptionState option
  | .auxOInputs option => self.getAuxOInputsOptionState option
  | .auxOFunctions option => self.getAuxOFunctionsOptionState option
  | .auxNInputs option => self.getAuxNInputsOptionState option
  | .auxNFunctions option => self.getAuxNFunctionsOptionState option
  | .taskControllerGeoServer option => self.getTaskControllerGeoServerOptionState option
  | .basicTractorECUServer option => self.getBasicTractorECUServerOptionState option
  | .basicTractorECUImplementClient option =>
    self.getBasicTractorECUImplementClientOptionState option
  | .timServer option => self.getTractorImplementManagementServerOptionState option
  | .timClient option => self.getTractorImplementManagementClientOptionState option
  | .timServerAuxValveState index =>
    self.getTractorImplementManagementServerAuxValveStateSupported index
  | .timServerAuxValveFlow index =>
    self.getTractorImplementManagementServerAuxValveFlowSupported index
  | .timClientAuxValveState index =>
    self.getTractorImplementManagementClientAuxValveStateSupported index
  | .timClientAuxValveFlow index =>
    self.getTractorImplementManagementClientAuxValveFlowSupported index

end ControlFunctionFunctionalities

/-- The auxiliary controls of the types 8 to 14, whose bits are in the second byte. -/
def FlagOption.inSecondByte : FlagOption → Bool
  | .auxNInputs option | .auxNFunctions option =>
    option.value > AuxNOptions.supportsType7Function.value
  | _ => false

namespace ControlFunctionFunctionalities

variable (self : ControlFunctionFunctionalities)

theorem getAuxNOption_eq (option : FlagOption) {aux : AuxNOptions}
    (hplace : option.place = aux.place) (hoption : option.place.isSome)
    (hfirst : ¬ aux.value > AuxNOptions.supportsType7Function.value) :
    self.getFunctionalityByteOption option.functionality 0 aux.value.toUInt8 =
      self.getFlag option := by
  obtain ⟨n, hn⟩ := Option.isSome_iff_exists.mp hoption
  obtain ⟨-, hsecond, -, hlow⟩ := AuxNOptions.value_of_place (hplace.symm.trans hn)
  have hlt : n < 8 := Nat.lt_of_not_le (mt hsecond.mpr hfirst)
  rw [hlow hlt]
  exact self.getFunctionalityByteOption_eq option 0 hlt hn (Nat.zero_add n).symm

theorem getOption_eq {option : FlagOption} (hoption : option.place.isSome)
    (hfirst : option.inSecondByte = false) : self.getOption option = self.getFlag option := by
  cases option with
  | minimumControlFunction option =>
    exact self.getFirstByteOption_eq (.minimumControlFunction option) option.isFirstByteMask
      hoption
  | auxOInputs option =>
    exact self.getFirstByteOption_eq (.auxOInputs option) option.isFirstByteMask hoption
  | auxOFunctions option =>
    exact self.getFirstByteOption_eq (.auxOFunctions option) option.isFirstByteMask hoption
  | auxNInputs option =>
    exact self.getAuxNOption_eq (.auxNInputs option) rfl hoption
      (of_decide_eq_false hfirst)
  | auxNFunctions option =>
    exact self.getAuxNOption_eq (.auxNFunctions option) rfl hoption
      (of_decide_eq_false hfirst)
  | taskControllerGeoServer option =>
    exact self.getFirstByteOption_eq (.taskControllerGeoServer option) option.isFirstByteMask
      hoption
  | basicTractorECUServer option =>
    have hoption' : option ≠ .tecuNotMeetingCompleteClass1Requirements := by
      rintro rfl
      cases hoption
    exact (if_neg hoption').trans (self.getFirstByteOption_eq (.basicTractorECUServer option)
      option.isFirstByteMask hoption)
  | basicTractorECUImplementClient option =>
    have hoption' : option ≠ .tecuNotMeetingCompleteClass1Requirements := by
      rintro rfl
      cases hoption
    exact (if_neg hoption').trans
      (self.getFirstByteOption_eq (.basicTractorECUImplementClient option)
        option.isFirstByteMask hoption)
  | timServer option =>
    have hno : option ≠ .noOptions := by
      rintro rfl
      cases hoption
    have hbit := TractorImplementManagementOptions.bitIndex_lt hno
    change (if option = .noOptions then _ else if _ then _ else _) = _
    rw [if_neg hno, if_pos (UInt8.lt_iff_toNat_lt.mpr (Nat.lt_trans hbit (by decide)))]
    exact self.getFunctionalityByteOption_eq (.timServer option) _ hbit
      (TractorImplementManagementOptions.place_eq hno) rfl
  | timClient option =>
    have hno : option ≠ .noOptions := by
      rintro rfl
      cases hoption
    have hbit := TractorImplementManagementOptions.bitIndex_lt hno
    change (if option = .noOptions then _ else if _ then _ else _) = _
    rw [if_neg hno, if_pos (UInt8.lt_iff_toNat_lt.mpr hbit)]
    exact self.getFunctionalityByteOption_eq (.timClient option) _ hbit
      (TractorImplementManagementOptions.place_eq hno) rfl
  | timServerAuxValveState index =>
    exact self.getTimAuxValveStateSupported_eq (.timServerAuxValveState index) rfl
  | timServerAuxValveFlow index =>
    exact self.getTimAuxValveFlowSupported_eq (.timServerAuxValveFlow index) rfl
  | timClientAuxValveState index =>
    exact self.getTimAuxValveStateSupported_eq (.timClientAuxValveState index) rfl
  | timClientAuxValveFlow index =>
    exact self.getTimAuxValveFlowSupported_eq (.timClientAuxValveFlow index) rfl

theorem getOption_of_inSecondByte {option : FlagOption} (hoption : option.place.isSome)
    (hsecond : option.inSecondByte = true) : self.getOption option = false := by
  have hempty : ∀ functionality, self.getFunctionalityByteOption functionality 0 0 = false := by
    intro functionality
    unfold getFunctionalityByteOption
    cases self.getFunctionality functionality with
    | none => rfl
    | some data =>
      change data.getBitInOption 0 0 = false
      unfold FunctionalityData.getBitInOption
      rw [UInt8.and_zero]
      split <;> rfl
  have haux : ∀ aux : AuxNOptions, aux.place.isSome →
      aux.value > AuxNOptions.supportsType7Function.value → aux.value.toUInt8 = 0 := by
    intro aux hplace hvalue
    obtain ⟨n, hn⟩ := Option.isSome_iff_exists.mp hplace
    obtain ⟨-, hsecond, hhigh, -⟩ := AuxNOptions.value_of_place hn
    exact (hhigh (hsecond.mp hvalue)).2.2
  cases option
  case auxNInputs option =>
    change self.getFunctionalityByteOption .auxNInputs 0 option.value.toUInt8 = false
    rw [haux option hoption (of_decide_eq_true hsecond)]
    exact hempty _
  case auxNFunctions option =>
    change self.getFunctionalityByteOption .auxNFunctions 0 option.value.toUInt8 = false
    rw [haux option hoption (of_decide_eq_true hsecond)]
    exact hempty _
  all_goals cases hsecond

end ControlFunctionFunctionalities

inductive NumberOption
  | taskControllerGeoClientChannels
  | sectionControlServerBooms
  | sectionControlServerSections
  | sectionControlClientBooms
  | sectionControlClientSections
  deriving DecidableEq

namespace NumberOption

def functionality : NumberOption → Functionalities
  | taskControllerGeoClientChannels => .taskControllerGeoClient
  | sectionControlServerBooms | sectionControlServerSections =>
    .taskControllerSectionControlServer
  | sectionControlClientBooms | sectionControlClientSections =>
    .taskControllerSectionControlClient

def place : NumberOption → Nat
  | taskControllerGeoClientChannels | sectionControlServerBooms | sectionControlClientBooms => 0
  | sectionControlServerSections | sectionControlClientSections => 1

def default : NumberOption → UInt8
  | taskControllerGeoClientChannels => 0
  | _ => 1

theorem place_injective {a b : NumberOption} (hsame : a.functionality = b.functionality)
    (h : a.place = b.place) : a = b := by
  revert hsame h
  cases a <;> cases b <;> decide

theorem functionality_ne (option : NumberOption) (flag : FlagOption) :
    option.functionality ≠ flag.functionality := by
  cases option <;> cases flag <;> intro h <;> cases h

end NumberOption

namespace ControlFunctionFunctionalities

variable (self : ControlFunctionFunctionalities)

def setNumber (option : NumberOption) (value : UInt8) : ControlFunctionFunctionalities :=
  self.modifyFunctionality option.functionality fun data => data.setByte option.place value

def getNumber : NumberOption → UInt8
  | .taskControllerGeoClientChannels => self.getTaskControllerGeoClientOption
  | .sectionControlServerBooms => self.getTaskControllerSectionControlServerNumberSupportedBooms
  | .sectionControlServerSections =>
    self.getTaskControllerSectionControlServerNumberSupportedSections
  | .sectionControlClientBooms => self.getTaskControllerSectionControlClientNumberSupportedBooms
  | .sectionControlClientSections =>
    self.getTaskControllerSectionControlClientNumberSupportedSections

theorem getNumber_eq (option : NumberOption) :
    self.getNumber option = self.getWholeByte option.functionality option.place := by
  cases option <;> rfl

end ControlFunctionFunctionalities

end Isobus.FunctionalityReport
