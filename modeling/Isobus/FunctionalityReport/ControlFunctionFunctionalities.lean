import Isobus.Lib.BitArrays
import Isobus.Lib.KeyedTable

/-!
# Control function functionalities

What a control function reports about itself (`isobus_functionalities.cpp`): the functionalities it
supports, each with a generation and its option bytes.
-/

namespace Isobus.FunctionalityReport

open Isobus.Lib

/-- The functionalities that can be reported. -/
inductive Functionalities
  | minimumControlFunction
  | universalTerminalServer
  | universalTerminalWorkingSet
  | auxOInputs
  | auxOFunctions
  | auxNInputs
  | auxNFunctions
  | taskControllerBasicServer
  | taskControllerBasicClient
  | taskControllerGeoServer
  | taskControllerGeoClient
  | taskControllerSectionControlServer
  | taskControllerSectionControlClient
  | basicTractorECUServer
  | basicTractorECUImplementClient
  | tractorImplementManagementServer
  | tractorImplementManagementClient
  | fileServer
  | fileServerClient
  | reservedRangeBegin
  | maxFunctionalityReserved
  deriving DecidableEq

def Functionalities.value : Functionalities → UInt8
  | .minimumControlFunction => 0
  | .universalTerminalServer => 1
  | .universalTerminalWorkingSet => 2
  | .auxOInputs => 3
  | .auxOFunctions => 4
  | .auxNInputs => 5
  | .auxNFunctions => 6
  | .taskControllerBasicServer => 7
  | .taskControllerBasicClient => 8
  | .taskControllerGeoServer => 9
  | .taskControllerGeoClient => 10
  | .taskControllerSectionControlServer => 11
  | .taskControllerSectionControlClient => 12
  | .basicTractorECUServer => 13
  | .basicTractorECUImplementClient => 14
  | .tractorImplementManagementServer => 15
  | .tractorImplementManagementClient => 16
  | .fileServer => 17
  | .fileServerClient => 18
  | .reservedRangeBegin => 19
  | .maxFunctionalityReserved => 255

inductive MinimumControlFunctionOptions
  | noOptions
  | type1ECUInternalWeakTermination
  | type2ECUInternalEndPointTermination
  | supportOfHeartbeatProducer
  | supportOfHeartbeatConsumer
  | reserved
  deriving DecidableEq

def MinimumControlFunctionOptions.value : MinimumControlFunctionOptions → UInt8
  | .noOptions => 0x00
  | .type1ECUInternalWeakTermination => 0x01
  | .type2ECUInternalEndPointTermination => 0x02
  | .supportOfHeartbeatProducer => 0x04
  | .supportOfHeartbeatConsumer => 0x08
  | .reserved => 0xF0

inductive AuxOOptions
  | noOptions
  | supportsType0Function
  | supportsType1Function
  | supportsType2Function
  | reserved
  deriving DecidableEq

def AuxOOptions.value : AuxOOptions → UInt8
  | .noOptions => 0x00
  | .supportsType0Function => 0x01
  | .supportsType1Function => 0x02
  | .supportsType2Function => 0x04
  | .reserved => 0xF8

inductive AuxNOptions
  | noOptions
  | supportsType0Function
  | supportsType1Function
  | supportsType2Function
  | supportsType3Function
  | supportsType4Function
  | supportsType5Function
  | supportsType6Function
  | supportsType7Function
  | supportsType8Function
  | supportsType9Function
  | supportsType10Function
  | supportsType11Function
  | supportsType12Function
  | supportsType13Function
  | supportsType14Function
  | reserved
  deriving DecidableEq

def AuxNOptions.value : AuxNOptions → UInt16
  | .noOptions => 0x00
  | .supportsType0Function => 0x01
  | .supportsType1Function => 0x02
  | .supportsType2Function => 0x04
  | .supportsType3Function => 0x08
  | .supportsType4Function => 0x10
  | .supportsType5Function => 0x20
  | .supportsType6Function => 0x40
  | .supportsType7Function => 0x80
  | .supportsType8Function => 0x100
  | .supportsType9Function => 0x200
  | .supportsType10Function => 0x400
  | .supportsType11Function => 0x800
  | .supportsType12Function => 0x1000
  | .supportsType13Function => 0x2000
  | .supportsType14Function => 0x4000
  | .reserved => 0x8000

inductive TaskControllerGeoServerOptions
  | noOptions
  | polygonBasedPrescriptionMapsAreSupported
  | reserved
  deriving DecidableEq

def TaskControllerGeoServerOptions.value : TaskControllerGeoServerOptions → UInt8
  | .noOptions => 0x00
  | .polygonBasedPrescriptionMapsAreSupported => 0x01
  | .reserved => 0xFE

inductive BasicTractorECUOptions
  | tecuNotMeetingCompleteClass1Requirements
  | class1NoOptions
  | class2NoOptions
  | classRequiredLighting
  | navigationOption
  | frontHitchOption
  | guidanceOption
  | reserved
  deriving DecidableEq

def BasicTractorECUOptions.value : BasicTractorECUOptions → UInt8
  | .tecuNotMeetingCompleteClass1Requirements => 0x00
  | .class1NoOptions => 0x01
  | .class2NoOptions => 0x02
  | .classRequiredLighting => 0x04
  | .navigationOption => 0x08
  | .frontHitchOption => 0x10
  | .guidanceOption => 0x20
  | .reserved => 0xC0

inductive TractorImplementManagementOptions
  | noOptions
  | frontPTODisengagementIsSupported
  | frontPTOEngagementCCWIsSupported
  | frontPTOengagementCWIsSupported
  | frontPTOspeedCCWIsSupported
  | frontPTOspeedCWIsSupported
  | rearPTODisengagementIsSupported
  | rearPTOEngagementCCWIsSupported
  | rearPTOEngagementCWIsSupported
  | rearPTOSpeedCCWIsSupported
  | rearPTOSpeedCWIsSupported
  | frontHitchMotionIsSupported
  | frontHitchPositionIsSupported
  | rearHitchMotionIsSupported
  | rearHitchPositionIsSupported
  | vehicleSpeedInForwardDirectionIsSupported
  | vehicleSpeedInReverseDirectionIsSupported
  | vehicleSpeedStartMotionIsSupported
  | vehicleSpeedStopMotionIsSupported
  | vehicleSpeedForwardSetByServerIsSupported
  | vehicleSpeedReverseSetByServerIsSupported
  | vehicleSpeedChangeDirectionIsSupported
  | guidanceCurvatureIsSupported
  deriving DecidableEq

def NUMBER_TIM_AUX_VALVES : UInt8 := 32
def CAN_DATA_LENGTH : Nat := 8

/-- The functionality itself is the key under which its data is stored. -/
structure FunctionalityData where
  serializedValue : List UInt8
  generation : UInt8
  deriving DecidableEq

namespace FunctionalityData

def configureDefaultData : Functionalities → List UInt8
  | .minimumControlFunction
  | .universalTerminalServer
  | .universalTerminalWorkingSet
  | .auxOInputs
  | .auxOFunctions
  | .taskControllerBasicServer
  | .taskControllerBasicClient
  | .taskControllerGeoServer
  | .taskControllerGeoClient
  | .basicTractorECUServer
  | .basicTractorECUImplementClient
  | .fileServer
  | .fileServerClient => [0x00]
  | .auxNInputs
  | .auxNFunctions => [0x00, 0x00]
  | .taskControllerSectionControlServer
  | .taskControllerSectionControlClient => [0x01, 0x01]
  | .tractorImplementManagementServer
  | .tractorImplementManagementClient => List.replicate 15 0x00
  | .reservedRangeBegin
  | .maxFunctionalityReserved => []

def setBitInOption (data : FunctionalityData) (byteIndex bit : UInt8) (value : Bool) :
    FunctionalityData :=
  let old := data.serializedValue.getD byteIndex.toNat 0
  if byteIndex.toNat < data.serializedValue.length ∧ bit < 0xFF then
    if value then
      { data with serializedValue := data.serializedValue.set byteIndex.toNat (old ||| bit) }
    else
      { data with serializedValue := data.serializedValue.set byteIndex.toNat (old &&& ~~~bit) }
  else data

def getBitInOption (data : FunctionalityData) (byteIndex bit : UInt8) : Bool :=
  if byteIndex.toNat < data.serializedValue.length ∧ bit < 0xFF then
    data.serializedValue.getD byteIndex.toNat 0 &&& bit != 0
  else false

def setByte (data : FunctionalityData) (byteIndex : Nat) (value : UInt8) : FunctionalityData :=
  { data with serializedValue := data.serializedValue.set byteIndex value }

end FunctionalityData

def getTimOptionByteIndex : TractorImplementManagementOptions → UInt8
  | .frontPTODisengagementIsSupported
  | .frontPTOEngagementCCWIsSupported
  | .frontPTOengagementCWIsSupported
  | .frontPTOspeedCCWIsSupported
  | .frontPTOspeedCWIsSupported => 9
  | .rearPTODisengagementIsSupported
  | .rearPTOEngagementCCWIsSupported
  | .rearPTOEngagementCWIsSupported
  | .rearPTOSpeedCCWIsSupported
  | .rearPTOSpeedCWIsSupported => 10
  | .frontHitchMotionIsSupported
  | .frontHitchPositionIsSupported => 11
  | .rearHitchMotionIsSupported
  | .rearHitchPositionIsSupported => 12
  | .vehicleSpeedInForwardDirectionIsSupported
  | .vehicleSpeedInReverseDirectionIsSupported
  | .vehicleSpeedStartMotionIsSupported
  | .vehicleSpeedStopMotionIsSupported
  | .vehicleSpeedForwardSetByServerIsSupported
  | .vehicleSpeedReverseSetByServerIsSupported
  | .vehicleSpeedChangeDirectionIsSupported => 13
  | .guidanceCurvatureIsSupported => 14
  | .noOptions => 0xFF

def getTimOptionBitIndex : TractorImplementManagementOptions → UInt8
  | .frontPTODisengagementIsSupported
  | .rearPTODisengagementIsSupported
  | .frontHitchMotionIsSupported
  | .rearHitchMotionIsSupported
  | .vehicleSpeedInForwardDirectionIsSupported
  | .guidanceCurvatureIsSupported => 0
  | .frontPTOEngagementCCWIsSupported
  | .rearPTOEngagementCCWIsSupported
  | .vehicleSpeedInReverseDirectionIsSupported => 1
  | .frontHitchPositionIsSupported
  | .rearHitchPositionIsSupported
  | .vehicleSpeedStartMotionIsSupported => 2
  | .frontPTOengagementCWIsSupported
  | .rearPTOEngagementCWIsSupported
  | .vehicleSpeedStopMotionIsSupported => 3
  | .frontPTOspeedCCWIsSupported
  | .rearPTOSpeedCCWIsSupported
  | .vehicleSpeedForwardSetByServerIsSupported => 4
  | .frontPTOspeedCWIsSupported
  | .rearPTOSpeedCWIsSupported
  | .vehicleSpeedReverseSetByServerIsSupported => 5
  | .vehicleSpeedChangeDirectionIsSupported => 6
  | .noOptions => 0xFF

structure ControlFunctionFunctionalities where
  supportedFunctionalities : KeyedTable Functionalities FunctionalityData

namespace ControlFunctionFunctionalities

variable (self : ControlFunctionFunctionalities)

def getFunctionality (functionality : Functionalities) : Option FunctionalityData :=
  self.supportedFunctionalities.lookup functionality

/-- A change through the iterator that `get_functionality` returns. -/
def modifyFunctionality (functionality : Functionalities)
    (change : FunctionalityData → FunctionalityData) : ControlFunctionFunctionalities :=
  ⟨self.supportedFunctionalities.alter functionality fun data => some (change data)⟩

def setFunctionalityIsSupported (functionality : Functionalities)
    (functionalityGeneration : UInt8) (isSupported : Bool) : ControlFunctionFunctionalities :=
  if h : self.supportedFunctionalities.lookup functionality = none then
    if isSupported then
      ⟨self.supportedFunctionalities.insert functionality
        ⟨FunctionalityData.configureDefaultData functionality, functionalityGeneration⟩ h⟩
    else self
  else if isSupported then self
  else ⟨self.supportedFunctionalities.erase functionality⟩

def create : ControlFunctionFunctionalities :=
  ControlFunctionFunctionalities.setFunctionalityIsSupported ⟨KeyedTable.empty⟩
    .minimumControlFunction 1 true

def getFunctionalityByteOption (functionality : Functionalities) (byteIndex option : UInt8) :
    Bool :=
  match self.getFunctionality functionality with
  | some data => data.getBitInOption byteIndex option
  | none => false

def setFirstByteOption (functionality : Functionalities) (reserved option : UInt8)
    (optionState : Bool) : ControlFunctionFunctionalities :=
  if option < reserved then
    self.modifyFunctionality functionality fun data => data.setBitInOption 0 option optionState
  else self

def setMinimumControlFunctionOptionState (option : MinimumControlFunctionOptions)
    (optionState : Bool) : ControlFunctionFunctionalities :=
  self.setFirstByteOption .minimumControlFunction MinimumControlFunctionOptions.reserved.value
    option.value optionState

def getMinimumControlFunctionOptionState (option : MinimumControlFunctionOptions) : Bool :=
  self.getFunctionalityByteOption .minimumControlFunction 0 option.value

def setAuxOInputsOptionState (option : AuxOOptions) (optionState : Bool) :
    ControlFunctionFunctionalities :=
  self.setFirstByteOption .auxOInputs AuxOOptions.reserved.value option.value optionState

def getAuxOInputsOptionState (option : AuxOOptions) : Bool :=
  self.getFunctionalityByteOption .auxOInputs 0 option.value

def setAuxOFunctionsOptionState (option : AuxOOptions) (optionState : Bool) :
    ControlFunctionFunctionalities :=
  self.setFirstByteOption .auxOFunctions AuxOOptions.reserved.value option.value optionState

def getAuxOFunctionsOptionState (option : AuxOOptions) : Bool :=
  self.getFunctionalityByteOption .auxOFunctions 0 option.value

def setAuxNOption (functionality : Functionalities) (option : AuxNOptions)
    (optionState : Bool) : ControlFunctionFunctionalities :=
  if option.value < AuxNOptions.reserved.value then
    let second := option.value > AuxNOptions.supportsType7Function.value
    self.modifyFunctionality functionality fun data =>
      data.setBitInOption (if second then 1 else 0)
        (if second then (option.value >>> 8).toUInt8 else option.value.toUInt8) optionState
  else self

def setAuxNInputsOptionState (option : AuxNOptions) (optionState : Bool) :
    ControlFunctionFunctionalities :=
  self.setAuxNOption .auxNInputs option optionState

def getAuxNInputsOptionState (option : AuxNOptions) : Bool :=
  self.getFunctionalityByteOption .auxNInputs 0 option.value.toUInt8

def setAuxNFunctionsOptionState (option : AuxNOptions) (optionState : Bool) :
    ControlFunctionFunctionalities :=
  self.setAuxNOption .auxNFunctions option optionState

def getAuxNFunctionsOptionState (option : AuxNOptions) : Bool :=
  self.getFunctionalityByteOption .auxNFunctions 0 option.value.toUInt8

def setTaskControllerGeoServerOptionState (option : TaskControllerGeoServerOptions)
    (optionState : Bool) : ControlFunctionFunctionalities :=
  self.setFirstByteOption .taskControllerGeoServer TaskControllerGeoServerOptions.reserved.value
    option.value optionState

def getTaskControllerGeoServerOptionState (option : TaskControllerGeoServerOptions) : Bool :=
  self.getFunctionalityByteOption .taskControllerGeoServer 0 option.value

def getWholeByte (functionality : Functionalities) (byteIndex : Nat) : UInt8 :=
  match self.getFunctionality functionality with
  | some data => data.serializedValue.getD byteIndex 0
  | none => 0

def setTaskControllerGeoClientOption (numberOfControlChannels : UInt8) :
    ControlFunctionFunctionalities :=
  if numberOfControlChannels > 0 then
    self.modifyFunctionality .taskControllerGeoClient fun data =>
      data.setByte 0 numberOfControlChannels
  else self

def getTaskControllerGeoClientOption : UInt8 := self.getWholeByte .taskControllerGeoClient 0

def setSectionControlOption (functionality : Functionalities)
    (numberOfSupportedBooms numberOfSupportedSections : UInt8) :
    ControlFunctionFunctionalities :=
  if numberOfSupportedBooms > 0 ∧ numberOfSupportedSections > 0 then
    self.modifyFunctionality functionality fun data =>
      (data.setByte 0 numberOfSupportedBooms).setByte 1 numberOfSupportedSections
  else self

def setTaskControllerSectionControlServerOptionState
    (numberOfSupportedBooms numberOfSupportedSections : UInt8) : ControlFunctionFunctionalities :=
  self.setSectionControlOption .taskControllerSectionControlServer numberOfSupportedBooms
    numberOfSupportedSections

def getTaskControllerSectionControlServerNumberSupportedBooms : UInt8 :=
  self.getWholeByte .taskControllerSectionControlServer 0

def getTaskControllerSectionControlServerNumberSupportedSections : UInt8 :=
  self.getWholeByte .taskControllerSectionControlServer 1

def setTaskControllerSectionControlClientOptionState
    (numberOfSupportedBooms numberOfSupportedSections : UInt8) : ControlFunctionFunctionalities :=
  self.setSectionControlOption .taskControllerSectionControlClient numberOfSupportedBooms
    numberOfSupportedSections

def getTaskControllerSectionControlClientNumberSupportedBooms : UInt8 :=
  self.getWholeByte .taskControllerSectionControlClient 0

def getTaskControllerSectionControlClientNumberSupportedSections : UInt8 :=
  self.getWholeByte .taskControllerSectionControlClient 1

def setBasicTractorECUServerOptionState (option : BasicTractorECUOptions) (optionState : Bool) :
    ControlFunctionFunctionalities :=
  self.setFirstByteOption .basicTractorECUServer BasicTractorECUOptions.reserved.value
    option.value optionState

/-- The getters of the tractor options; the value 0 stands for a tractor without any. -/
def getBasicTractorECUOption (functionality : Functionalities)
    (option : BasicTractorECUOptions) : Bool :=
  if option = .tecuNotMeetingCompleteClass1Requirements then
    match self.getFunctionality functionality with
    | some data => data.serializedValue.getD 0 0 == 0
    | none => false
  else self.getFunctionalityByteOption functionality 0 option.value

def getBasicTractorECUServerOptionState (option : BasicTractorECUOptions) : Bool :=
  self.getBasicTractorECUOption .basicTractorECUServer option

def setBasicTractorECUImplementClientOptionState (option : BasicTractorECUOptions)
    (optionState : Bool) : ControlFunctionFunctionalities :=
  self.setFirstByteOption .basicTractorECUImplementClient BasicTractorECUOptions.reserved.value
    option.value optionState

def getBasicTractorECUImplementClientOptionState (option : BasicTractorECUOptions) : Bool :=
  self.getBasicTractorECUOption .basicTractorECUImplementClient option

def setTimOption (functionality : Functionalities) (option : TractorImplementManagementOptions)
    (optionState : Bool) : ControlFunctionFunctionalities :=
  self.modifyFunctionality functionality fun data =>
    data.setBitInOption (getTimOptionByteIndex option) (bitMask (getTimOptionBitIndex option).toNat)
      optionState

def setTractorImplementManagementServerOptionState
    (option : TractorImplementManagementOptions) (optionState : Bool) :
    ControlFunctionFunctionalities :=
  if option ≠ .noOptions then self.setTimOption .tractorImplementManagementServer option optionState
  else self

/-- The answer for the absence of options, where a missing functionality has none either. -/
def getTimNoOptions (functionality : Functionalities) : Bool :=
  match self.getFunctionality functionality with
  | some data => data.serializedValue.all (· == 0)
  | none => true

def getTractorImplementManagementServerOptionState
    (option : TractorImplementManagementOptions) : Bool :=
  if option = .noOptions then self.getTimNoOptions .tractorImplementManagementServer
  else if getTimOptionBitIndex option < 0xFF then
    self.getFunctionalityByteOption .tractorImplementManagementServer
      (getTimOptionByteIndex option) (bitMask (getTimOptionBitIndex option).toNat)
  else false

def setTimAuxValveOption (functionality : Functionalities) (auxValveIndex : UInt8)
    (stateSupported flowSupported : Bool) : ControlFunctionFunctionalities :=
  if auxValveIndex < NUMBER_TIM_AUX_VALVES then
    self.modifyFunctionality functionality fun data =>
      (data.setBitInOption (auxValveIndex / 4) (bitMask (2 * (auxValveIndex % 4)).toNat)
        stateSupported).setBitInOption (auxValveIndex / 4)
            (bitMask (2 * (auxValveIndex % 4) + 1).toNat)
        flowSupported
  else self

def getTimAuxValveStateSupported (functionality : Functionalities) (auxValveIndex : UInt8) :
    Bool :=
  if auxValveIndex < NUMBER_TIM_AUX_VALVES then
    self.getFunctionalityByteOption functionality (auxValveIndex / 4)
      (bitMask (2 * (auxValveIndex % 4)).toNat)
  else false

def getTimAuxValveFlowSupported (functionality : Functionalities) (auxValveIndex : UInt8) :
    Bool :=
  if auxValveIndex < NUMBER_TIM_AUX_VALVES then
    self.getFunctionalityByteOption functionality (auxValveIndex / 4)
      (bitMask (2 * (auxValveIndex % 4) + 1).toNat)
  else false

def setTractorImplementManagementServerAuxValveOption (auxValveIndex : UInt8)
    (stateSupported flowSupported : Bool) : ControlFunctionFunctionalities :=
  self.setTimAuxValveOption .tractorImplementManagementServer auxValveIndex stateSupported
    flowSupported

def getTractorImplementManagementServerAuxValveStateSupported (auxValveIndex : UInt8) : Bool :=
  self.getTimAuxValveStateSupported .tractorImplementManagementServer auxValveIndex

def getTractorImplementManagementServerAuxValveFlowSupported (auxValveIndex : UInt8) : Bool :=
  self.getTimAuxValveFlowSupported .tractorImplementManagementServer auxValveIndex

def setTractorImplementManagementClientOptionState
    (option : TractorImplementManagementOptions) (optionState : Bool) :
    ControlFunctionFunctionalities :=
  self.setTimOption .tractorImplementManagementClient option optionState

def getTractorImplementManagementClientOptionState
    (option : TractorImplementManagementOptions) : Bool :=
  if option = .noOptions then self.getTimNoOptions .tractorImplementManagementClient
  else if getTimOptionBitIndex option < 8 then
    self.getFunctionalityByteOption .tractorImplementManagementClient
      (getTimOptionByteIndex option) (bitMask (getTimOptionBitIndex option).toNat)
  else false

def setTractorImplementManagementClientAuxValveOption (auxValveIndex : UInt8)
    (stateSupported flowSupported : Bool) : ControlFunctionFunctionalities :=
  self.setTimAuxValveOption .tractorImplementManagementClient auxValveIndex stateSupported
    flowSupported

def getTractorImplementManagementClientAuxValveStateSupported (auxValveIndex : UInt8) : Bool :=
  self.getTimAuxValveStateSupported .tractorImplementManagementClient auxValveIndex

def getTractorImplementManagementClientAuxValveFlowSupported (auxValveIndex : UInt8) : Bool :=
  self.getTimAuxValveFlowSupported .tractorImplementManagementClient auxValveIndex

def getMessageContent : List UInt8 :=
  let supported := self.supportedFunctionalities.entries
  let messageData := 0xFF :: UInt8.ofNat supported.length ::
    supported.flatMap fun functionality =>
      functionality.1.value :: functionality.2.generation ::
        UInt8.ofNat functionality.2.serializedValue.length :: functionality.2.serializedValue
  messageData ++ List.replicate (CAN_DATA_LENGTH - messageData.length) 0xFF

end ControlFunctionFunctionalities

end Isobus.FunctionalityReport
