import Isobus.FunctionalityReport.Options

namespace Isobus.FunctionalityReport

open Isobus.Lib

inductive Call
  | setFunctionalityIsSupported (functionality : Functionalities)
      (functionalityGeneration : UInt8) (isSupported : Bool)
  | setMinimumControlFunctionOptionState (option : MinimumControlFunctionOptions)
      (optionState : Bool)
  | setAuxOInputsOptionState (option : AuxOOptions) (optionState : Bool)
  | setAuxOFunctionsOptionState (option : AuxOOptions) (optionState : Bool)
  | setAuxNInputsOptionState (option : AuxNOptions) (optionState : Bool)
  | setAuxNFunctionsOptionState (option : AuxNOptions) (optionState : Bool)
  | setTaskControllerGeoServerOptionState (option : TaskControllerGeoServerOptions)
      (optionState : Bool)
  | setTaskControllerGeoClientOption (numberOfControlChannels : UInt8)
  | setTaskControllerSectionControlServerOptionState
      (numberOfSupportedBooms numberOfSupportedSections : UInt8)
  | setTaskControllerSectionControlClientOptionState
      (numberOfSupportedBooms numberOfSupportedSections : UInt8)
  | setBasicTractorECUServerOptionState (option : BasicTractorECUOptions) (optionState : Bool)
  | setBasicTractorECUImplementClientOptionState (option : BasicTractorECUOptions)
      (optionState : Bool)
  | setTractorImplementManagementServerOptionState
      (option : TractorImplementManagementOptions) (optionState : Bool)
  | setTractorImplementManagementServerAuxValveOption (auxValveIndex : UInt8)
      (stateSupported flowSupported : Bool)
  | setTractorImplementManagementClientOptionState
      (option : TractorImplementManagementOptions) (optionState : Bool)
  | setTractorImplementManagementClientAuxValveOption (auxValveIndex : UInt8)
      (stateSupported flowSupported : Bool)
  deriving DecidableEq

namespace ControlFunctionFunctionalities

def apply (self : ControlFunctionFunctionalities) : Call → ControlFunctionFunctionalities
  | .setFunctionalityIsSupported functionality functionalityGeneration isSupported =>
    self.setFunctionalityIsSupported functionality functionalityGeneration isSupported
  | .setMinimumControlFunctionOptionState option optionState =>
    self.setMinimumControlFunctionOptionState option optionState
  | .setAuxOInputsOptionState option optionState =>
    self.setAuxOInputsOptionState option optionState
  | .setAuxOFunctionsOptionState option optionState =>
    self.setAuxOFunctionsOptionState option optionState
  | .setAuxNInputsOptionState option optionState =>
    self.setAuxNInputsOptionState option optionState
  | .setAuxNFunctionsOptionState option optionState =>
    self.setAuxNFunctionsOptionState option optionState
  | .setTaskControllerGeoServerOptionState option optionState =>
    self.setTaskControllerGeoServerOptionState option optionState
  | .setTaskControllerGeoClientOption numberOfControlChannels =>
    self.setTaskControllerGeoClientOption numberOfControlChannels
  | .setTaskControllerSectionControlServerOptionState booms sections =>
    self.setTaskControllerSectionControlServerOptionState booms sections
  | .setTaskControllerSectionControlClientOptionState booms sections =>
    self.setTaskControllerSectionControlClientOptionState booms sections
  | .setBasicTractorECUServerOptionState option optionState =>
    self.setBasicTractorECUServerOptionState option optionState
  | .setBasicTractorECUImplementClientOptionState option optionState =>
    self.setBasicTractorECUImplementClientOptionState option optionState
  | .setTractorImplementManagementServerOptionState option optionState =>
    self.setTractorImplementManagementServerOptionState option optionState
  | .setTractorImplementManagementServerAuxValveOption index stateSupported flowSupported =>
    self.setTractorImplementManagementServerAuxValveOption index stateSupported flowSupported
  | .setTractorImplementManagementClientOptionState option optionState =>
    self.setTractorImplementManagementClientOptionState option optionState
  | .setTractorImplementManagementClientAuxValveOption index stateSupported flowSupported =>
    self.setTractorImplementManagementClientAuxValveOption index stateSupported flowSupported

def after (calls : List Call) : ControlFunctionFunctionalities := calls.foldl apply create

end ControlFunctionFunctionalities

/-- One value that a call sets. -/
inductive Setting
  | supported (functionality : Functionalities) (generation : UInt8) (isSupported : Bool)
  | flag (option : FlagOption) (value : Bool)
  | number (option : NumberOption) (value : UInt8)
  deriving DecidableEq

/-- What a call sets.  A number of channels, booms or sections is at least one; other calls are
refused. -/
def Call.settings : Call → List Setting
  | .setFunctionalityIsSupported functionality generation isSupported =>
    [.supported functionality generation isSupported]
  | .setMinimumControlFunctionOptionState option value =>
    [.flag (.minimumControlFunction option) value]
  | .setAuxOInputsOptionState option value => [.flag (.auxOInputs option) value]
  | .setAuxOFunctionsOptionState option value => [.flag (.auxOFunctions option) value]
  | .setAuxNInputsOptionState option value => [.flag (.auxNInputs option) value]
  | .setAuxNFunctionsOptionState option value => [.flag (.auxNFunctions option) value]
  | .setTaskControllerGeoServerOptionState option value =>
    [.flag (.taskControllerGeoServer option) value]
  | .setTaskControllerGeoClientOption channels =>
    if channels > 0 then [.number .taskControllerGeoClientChannels channels] else []
  | .setTaskControllerSectionControlServerOptionState booms sections =>
    if booms > 0 ∧ sections > 0 then
      [.number .sectionControlServerBooms booms, .number .sectionControlServerSections sections]
    else []
  | .setTaskControllerSectionControlClientOptionState booms sections =>
    if booms > 0 ∧ sections > 0 then
      [.number .sectionControlClientBooms booms, .number .sectionControlClientSections sections]
    else []
  | .setBasicTractorECUServerOptionState option value =>
    [.flag (.basicTractorECUServer option) value]
  | .setBasicTractorECUImplementClientOptionState option value =>
    [.flag (.basicTractorECUImplementClient option) value]
  | .setTractorImplementManagementServerOptionState option value =>
    [.flag (.timServer option) value]
  | .setTractorImplementManagementServerAuxValveOption index stateSupported flowSupported =>
    [.flag (.timServerAuxValveState index) stateSupported,
      .flag (.timServerAuxValveFlow index) flowSupported]
  | .setTractorImplementManagementClientOptionState option value =>
    [.flag (.timClient option) value]
  | .setTractorImplementManagementClientAuxValveOption index stateSupported flowSupported =>
    [.flag (.timClientAuxValveState index) stateSupported,
      .flag (.timClientAuxValveFlow index) flowSupported]

def settingsOf (calls : List Call) : List Setting :=
  .supported .minimumControlFunction 1 true :: calls.flatMap Call.settings

/-- The value of an option while its functionality is enabled: enabling sets the default, unless it
is enabled already. -/
def FlagOption.track (option : FlagOption) (current : Option Bool) : Setting → Option Bool
  | .supported functionality _ isSupported =>
    if functionality = option.functionality then
      if isSupported then some (current.getD false) else none
    else current
  | .flag other value => if other = option then current.map fun _ => value else current
  | .number _ _ => current

def NumberOption.track (option : NumberOption) (current : Option UInt8) : Setting → Option UInt8
  | .supported functionality _ isSupported =>
    if functionality = option.functionality then
      if isSupported then some (current.getD option.default) else none
    else current
  | .flag _ _ => current
  | .number other value => if other = option then current.map fun _ => value else current

/-- The functionalities with their generations, in the order in which they were enabled. -/
def trackEnabled (current : List (Functionalities × UInt8)) :
    Setting → List (Functionalities × UInt8)
  | .supported functionality generation isSupported =>
    if isSupported then
      if functionality ∈ current.map Prod.fst then current
      else current ++ [(functionality, generation)]
    else current.filter fun entry => entry.1 ≠ functionality
  | _ => current

/-- The value last set since the functionality was enabled, or the default; nothing while it is
disabled. -/
def flagLastSet (calls : List Call) (option : FlagOption) : Option Bool :=
  (settingsOf calls).foldl option.track none

def numberLastSet (calls : List Call) (option : NumberOption) : Option UInt8 :=
  (settingsOf calls).foldl option.track none

def enabledInOrder (calls : List Call) : List (Functionalities × UInt8) :=
  (settingsOf calls).foldl trackEnabled []

namespace ControlFunctionFunctionalities

def applySetting (self : ControlFunctionFunctionalities) :
    Setting → ControlFunctionFunctionalities
  | .supported functionality generation isSupported =>
    self.setFunctionalityIsSupported functionality generation isSupported
  | .flag option value => self.setFlag option value
  | .number option value => self.setNumber option value

theorem setSectionControlOption_eq (self : ControlFunctionFunctionalities)
    (first second : NumberOption) (hsame : second.functionality = first.functionality)
    (hfirst : first.place = 0) (hsecond : second.place = 1) (booms sections : UInt8) :
    self.setSectionControlOption first.functionality booms sections =
      (if booms > 0 ∧ sections > 0 then
        [Setting.number first booms, .number second sections] else []).foldl applySetting self := by
  unfold setSectionControlOption
  split
  · change _ = (self.setNumber first booms).setNumber second sections
    rw [setNumber, setNumber, hsame, modifyFunctionality_modify, hfirst, hsecond]
  · rfl

theorem apply_eq (self : ControlFunctionFunctionalities) (call : Call) :
    self.apply call = call.settings.foldl applySetting self := by
  cases call with
  | setFunctionalityIsSupported => rfl
  | setMinimumControlFunctionOptionState option value =>
    exact self.setFirstByteOption_eq (.minimumControlFunction option) option.isFirstByteMask value
  | setAuxOInputsOptionState option value =>
    exact self.setFirstByteOption_eq (.auxOInputs option) option.isFirstByteMask value
  | setAuxOFunctionsOptionState option value =>
    exact self.setFirstByteOption_eq (.auxOFunctions option) option.isFirstByteMask value
  | setAuxNInputsOptionState option value =>
    exact self.setAuxNOption_eq (.auxNInputs option) rfl value
  | setAuxNFunctionsOptionState option value =>
    exact self.setAuxNOption_eq (.auxNFunctions option) rfl value
  | setTaskControllerGeoServerOptionState option value =>
    exact self.setFirstByteOption_eq (.taskControllerGeoServer option) option.isFirstByteMask
      value
  | setTaskControllerGeoClientOption channels =>
    change (if _ then _ else _) = List.foldl _ _ (if _ then _ else _)
    split <;> rfl
  | setTaskControllerSectionControlServerOptionState booms sections =>
    exact self.setSectionControlOption_eq .sectionControlServerBooms
      .sectionControlServerSections rfl rfl rfl booms sections
  | setTaskControllerSectionControlClientOptionState booms sections =>
    exact self.setSectionControlOption_eq .sectionControlClientBooms
      .sectionControlClientSections rfl rfl rfl booms sections
  | setBasicTractorECUServerOptionState option value =>
    exact self.setFirstByteOption_eq (.basicTractorECUServer option) option.isFirstByteMask value
  | setBasicTractorECUImplementClientOptionState option value =>
    exact self.setFirstByteOption_eq (.basicTractorECUImplementClient option)
      option.isFirstByteMask value
  | setTractorImplementManagementServerOptionState option value =>
    change (if option ≠ .noOptions then _ else _) = self.setFlag (.timServer option) value
    by_cases hno : option = .noOptions
    · rw [hno]
      rfl
    · rw [if_pos hno]
      exact self.setTimOption_eq (.timServer option) rfl value
  | setTractorImplementManagementServerAuxValveOption index stateSupported flowSupported =>
    exact self.setTimAuxValveOption_eq (.timServerAuxValveState index)
      (.timServerAuxValveFlow index) rfl rfl rfl stateSupported flowSupported
  | setTractorImplementManagementClientOptionState option value =>
    exact self.setTimOption_eq (.timClient option) rfl value
  | setTractorImplementManagementClientAuxValveOption index stateSupported flowSupported =>
    exact self.setTimAuxValveOption_eq (.timClientAuxValveState index)
      (.timClientAuxValveFlow index) rfl rfl rfl stateSupported flowSupported

def empty : ControlFunctionFunctionalities := ⟨KeyedTable.empty⟩

theorem after_eq (calls : List Call) :
    after calls = (settingsOf calls).foldl applySetting empty := by
  have happly : apply = fun self call => call.settings.foldl applySetting self :=
    funext fun self => funext fun call => self.apply_eq call
  rw [after, happly, settingsOf, List.foldl_cons, List.foldl_flatMap]
  rfl

theorem getFunctionality_supported (self : ControlFunctionFunctionalities)
    (functionality other : Functionalities) (generation : UInt8) (isSupported : Bool) :
    (self.setFunctionalityIsSupported functionality generation isSupported).getFunctionality
        other =
      if functionality = other then
        if isSupported then
          some ((self.getFunctionality other).getD
            ⟨FunctionalityData.configureDefaultData other, generation⟩)
        else none
      else self.getFunctionality other := by
  unfold setFunctionalityIsSupported getFunctionality
  by_cases hsame : functionality = other
  · subst hsame
    rw [if_pos rfl]
    by_cases h : self.supportedFunctionalities.lookup functionality = none
    · rw [dif_pos h, h]
      cases isSupported with
      | true => exact KeyedTable.lookup_insert_self _ _ _ h
      | false => exact h
    · rw [dif_neg h]
      obtain ⟨data, hdata⟩ := Option.ne_none_iff_exists'.mp h
      rw [hdata]
      cases isSupported with
      | true => exact hdata
      | false => exact KeyedTable.lookup_erase_self _ _
  · rw [if_neg hsame]
    split
    · split
      · rename_i hnone _
        exact KeyedTable.lookup_insert_ne _ _ hnone (Ne.symm hsame)
      · rfl
    · split
      · rfl
      · exact KeyedTable.lookup_erase_ne _ (Ne.symm hsame)

/-- The option bytes keep the length that they were configured with. -/
def Sized (self : ControlFunctionFunctionalities) : Prop :=
  ∀ functionality data, self.getFunctionality functionality = some data →
    data.serializedValue.length =
      (FunctionalityData.configureDefaultData functionality).length

variable {self : ControlFunctionFunctionalities}

theorem Sized.modify (h : self.Sized) (functionality : Functionalities)
    {change : FunctionalityData → FunctionalityData}
    (hchange : ∀ data, (change data).serializedValue.length = data.serializedValue.length) :
    (self.modifyFunctionality functionality change).Sized := by
  intro other data hdata
  rw [getFunctionality_modify] at hdata
  split at hdata
  · rename_i hsame
    obtain ⟨old, hold, rfl⟩ := Option.map_eq_some_iff.mp hdata
    rw [hchange, hsame]
    exact h functionality old hold
  · exact h other data hdata

theorem Sized.applySetting (h : self.Sized) (setting : Setting) :
    (self.applySetting setting).Sized := by
  cases setting with
  | supported functionality generation isSupported =>
    intro other data hdata
    change (self.setFunctionalityIsSupported functionality generation
      isSupported).getFunctionality other = some data at hdata
    rw [getFunctionality_supported] at hdata
    split at hdata
    · split at hdata
      · cases hold : self.getFunctionality other with
        | none =>
          rw [hold] at hdata
          rw [← Option.some_inj.mp hdata]
          rfl
        | some old =>
          rw [hold] at hdata
          rw [← Option.some_inj.mp hdata]
          exact h other old hold
      · cases hdata
    · exact h other data hdata
  | flag option value =>
    change (self.setFlag option value).Sized
    unfold setFlag
    split
    · exact h
    · exact h.modify _ fun data => length_setBit _ _ _
  | number option value => exact h.modify _ fun data => List.length_set

theorem sized_empty : empty.Sized := fun _ _ hdata => by cases hdata

theorem configureDefaultData_eq {functionality : Functionalities}
    (h : ∀ option : NumberOption, option.functionality ≠ functionality) :
    FunctionalityData.configureDefaultData functionality =
      List.replicate (FunctionalityData.configureDefaultData functionality).length 0 := by
  cases functionality
  case taskControllerSectionControlServer => exact absurd rfl (h .sectionControlServerBooms)
  case taskControllerSectionControlClient => exact absurd rfl (h .sectionControlClientBooms)
  all_goals rfl

theorem bitAt_default {functionality : Functionalities}
    (h : ∀ option : NumberOption, option.functionality ≠ functionality) (n : Nat) :
    bitAt (FunctionalityData.configureDefaultData functionality) n = false := by
  rw [configureDefaultData_eq h]
  exact bitAt_replicate_zero _ n

theorem tracks_flag (hsized : self.Sized) (option : FlagOption) {n : Nat}
    (hplace : option.place = some n) (setting : Setting) :
    ((self.applySetting setting).getFunctionality option.functionality).map
        (fun data => bitAt data.serializedValue n) =
      option.track ((self.getFunctionality option.functionality).map
        fun data => bitAt data.serializedValue n) setting := by
  cases setting with
  | supported functionality generation isSupported =>
    change ((self.setFunctionalityIsSupported functionality generation
      isSupported).getFunctionality option.functionality).map _ = _
    rw [getFunctionality_supported, FlagOption.track]
    split
    · split
      · cases self.getFunctionality option.functionality with
        | none =>
          exact congrArg some (bitAt_default (fun number => number.functionality_ne option) n)
        | some data => rfl
      · rfl
    · rfl
  | flag other value =>
    change ((self.setFlag other value).getFunctionality option.functionality).map _ = _
    rw [FlagOption.track, setFlag]
    by_cases hsame : other = option
    · rw [if_pos hsame, hsame, hplace]
      rw [getFunctionality_modify, if_pos rfl, Option.map_map]
      cases hdata : self.getFunctionality option.functionality with
      | none => rfl
      | some data =>
        have hlength : n / 8 < data.serializedValue.length := by
          rw [hsized _ data hdata]
          exact FlagOption.place_lt hplace
        exact congrArg some ((bitAt_setBit hlength n value).trans (if_pos rfl))
    · rw [if_neg hsame]
      cases hother : other.place with
      | none => rfl
      | some m =>
        rw [getFunctionality_modify]
        split
        · rename_i hfunctionality
          have hne : n ≠ m := fun heq =>
            hsame (FlagOption.place_injective hfunctionality.symm hother (heq ▸ hplace))
          rw [Option.map_map, hfunctionality]
          cases hdata : self.getFunctionality other.functionality with
          | none => rfl
          | some data =>
            have hlength : m / 8 < data.serializedValue.length := by
              rw [hsized _ data hdata]
              exact FlagOption.place_lt hother
            exact congrArg some ((bitAt_setBit hlength n value).trans (if_neg hne))
        · rfl
  | number other value =>
    change ((self.setNumber other value).getFunctionality option.functionality).map _ = _
    rw [setNumber, getFunctionality_modify, if_neg (other.functionality_ne option).symm]
    rfl

theorem tracks_number (hsized : self.Sized) (option : NumberOption) (setting : Setting) :
    ((self.applySetting setting).getFunctionality option.functionality).map
        (fun data => data.serializedValue.getD option.place 0) =
      option.track ((self.getFunctionality option.functionality).map
        fun data => data.serializedValue.getD option.place 0) setting := by
  cases setting with
  | supported functionality generation isSupported =>
    change ((self.setFunctionalityIsSupported functionality generation
      isSupported).getFunctionality option.functionality).map _ = _
    rw [getFunctionality_supported, NumberOption.track]
    split
    · split
      · cases self.getFunctionality option.functionality with
        | none => cases option <;> rfl
        | some data => rfl
      · rfl
    · rfl
  | flag other value =>
    change ((self.setFlag other value).getFunctionality option.functionality).map _ = _
    rw [setFlag]
    cases other.place with
    | none => rfl
    | some m =>
      rw [getFunctionality_modify, if_neg (option.functionality_ne other)]
      rfl
  | number other value =>
    change ((self.setNumber other value).getFunctionality option.functionality).map _ = _
    rw [NumberOption.track, setNumber, getFunctionality_modify]
    by_cases hfunctionality : option.functionality = other.functionality
    · rw [if_pos hfunctionality, Option.map_map, ← hfunctionality]
      cases hdata : self.getFunctionality option.functionality with
      | none =>
        split <;> rfl
      | some data =>
        have hlength : option.place < data.serializedValue.length := by
          rw [hsized _ data hdata]
          cases option <;> decide
        split
        · rename_i hsame
          refine congrArg some ?_
          change (data.serializedValue.set other.place value).getD option.place 0 = value
          rw [hsame, List.getD_eq_getElem?_getD, List.getElem?_set_self hlength]
          rfl
        · rename_i hne
          have hplace : other.place ≠ option.place := fun heq =>
            hne (NumberOption.place_injective hfunctionality.symm heq)
          refine congrArg some ?_
          change (data.serializedValue.set other.place value).getD option.place 0 =
            data.serializedValue.getD option.place 0
          rw [List.getD_eq_getElem?_getD, List.getElem?_set_ne hplace,
            List.getD_eq_getElem?_getD]
    · have hne : other ≠ option := fun heq => hfunctionality (congrArg _ heq.symm)
      rw [if_neg hfunctionality, if_neg hne]

end ControlFunctionFunctionalities

end Isobus.FunctionalityReport
