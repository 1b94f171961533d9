import Isobus.DeviceDescriptor.ObjectPool
import Isobus.NetworkManager.Channels

/-!
# The task controller client

What `isobus_task_controller_client.cpp` keeps about its connection to a task controller,
the messages that it sends, and the queues of requests, commands and triggers.
-/

namespace Isobus.TaskClient

open Isobus.Can Isobus.Lib Isobus.DeviceDescriptor Isobus.NetworkManager

def PROCESS_DATA : UInt32 := 0xCB00
def ACKNOWLEDGE : UInt32 := 0xE800
def WORKING_SET_MASTER : UInt32 := 0xFE0D
def LANGUAGE_COMMAND : UInt32 := 0xFE0F
def SIX_SECOND_TIMEOUT_MS : UInt32 := 6000
def TWO_SECOND_TIMEOUT_MS : UInt32 := 2000
def REQUEST_DEFAULT_PROCESS_DATA : UInt16 := 0xDFFF
def SECOND_PUBLISHED_EDITION : UInt8 := 4

inductive ProcessDataCommands
  | technicalCapabilities
  | deviceDescriptor
  | requestValue
  | value
  | measurementTimeInterval
  | measurementDistanceInterval
  | measurementMinimumWithinThreshold
  | measurementMaximumWithinThreshold
  | measurementChangeThreshold
  | peerControlAssignment
  | setValueAndAcknowledge
  | reserved1
  | reserved2
  | processDataAcknowledge
  | statusMessage
  | clientTask
  deriving DecidableEq

/-- The command in the low half of the first byte. -/
def ProcessDataCommands.ofByte (byte : UInt8) : ProcessDataCommands :=
  match (byte &&& 0x0F).toNat with
  | 0 => .technicalCapabilities
  | 1 => .deviceDescriptor
  | 2 => .requestValue
  | 3 => .value
  | 4 => .measurementTimeInterval
  | 5 => .measurementDistanceInterval
  | 6 => .measurementMinimumWithinThreshold
  | 7 => .measurementMaximumWithinThreshold
  | 8 => .measurementChangeThreshold
  | 9 => .peerControlAssignment
  | 10 => .setValueAndAcknowledge
  | 11 => .reserved1
  | 12 => .reserved2
  | 13 => .processDataAcknowledge
  | 14 => .statusMessage
  | _ => .clientTask

/-- The first byte of the messages, the command below its parameter. -/
def REQUEST_VERSION : UInt8 := 0x00
def PARAMETER_VERSION : UInt8 := 0x10
def IDENTIFY_TASK_CONTROLLER : UInt8 := 0x20
def REQUEST_STRUCTURE_LABEL : UInt8 := 0x01
def REQUEST_LOCALIZATION_LABEL : UInt8 := 0x21
def REQUEST_OBJECT_POOL_TRANSFER : UInt8 := 0x41
def OBJECT_POOL_TRANSFER : UInt8 := 0x61
def OBJECT_POOL_ACTIVATE_DEACTIVATE : UInt8 := 0x81
def OBJECT_POOL_DELETE : UInt8 := 0xA1
def VALUE : UInt8 := 0x03
def PROCESS_DATA_ACKNOWLEDGE : UInt8 := 0x0D
def CLIENT_TASK : UInt8 := 0x0F

inductive StateMachineState
  | disconnected
  | waitForStartUpDelay
  | waitForServerStatusMessage
  | sendWorkingSetMaster
  | sendStatusMessage
  | requestVersion
  | waitForRequestVersionResponse
  | waitForRequestVersionFromServer
  | sendRequestVersionResponse
  | requestLanguage
  | waitForLanguageResponse
  | processDDOP
  | requestStructureLabel
  | waitForStructureLabelResponse
  | requestLocalizationLabel
  | waitForLocalizationLabelResponse
  | sendDeleteObjectPool
  | waitForDeleteObjectPoolResponse
  | sendRequestTransferObjectPool
  | waitForRequestTransferObjectPoolResponse
  | beginTransferDDOP
  | waitForDDOPTransfer
  | waitForObjectPoolTransferResponse
  | sendObjectPoolActivate
  | waitForObjectPoolActivateResponse
  | connected
  | deactivateObjectPool
  | waitForObjectPoolDeactivateResponse
  deriving DecidableEq

structure ProcessDataCallbackInfo where
  processDataValue : Int32 := 0
  lastValue : Int32 := 0
  elementNumber : UInt16
  ddi : UInt16
  ackRequested : Bool := false
  thresholdPassed : Bool := false
  deriving DecidableEq

/-- Two of them are equal for the source if they are about the same value. -/
def ProcessDataCallbackInfo.sameValue (info other : ProcessDataCallbackInfo) : Bool :=
  info.ddi = other.ddi && info.elementNumber = other.elementNumber

inductive DDOPUploadType
  | programaticallyGenerated
  | userProvidedBinaryPointer
  | userProvidedVector
  deriving DecidableEq

/-- The device descriptor in the form in which it was supplied. A pointer is known by its data. -/
structure SuppliedDDOP where
  ddopUploadMode : DDOPUploadType := .programaticallyGenerated
  clientDDOP : Option DeviceDescriptorObjectPool := none
  userSuppliedBinaryDDOP : Option (List UInt8) := none
  userSuppliedBinaryDDOPSize : UInt32 := 0
  userSuppliedVectorDDOP : Option (List UInt8) := none
  generatedBinaryDDOP : List UInt8 := []
  ddopStructureLabel : List UInt8 := []
  ddopLocalizationLabel : LocalizationLabel := .zeros

/-- What waits to be done once the client is connected. -/
structure Queues where
  queuedValueRequests : List ProcessDataCallbackInfo := []
  queuedValueCommands : List ProcessDataCallbackInfo := []
  measurementDistanceIntervalCommands : List ProcessDataCallbackInfo := []
  measurementTimeIntervalCommands : List ProcessDataCallbackInfo := []
  measurementMinimumThresholdCommands : List ProcessDataCallbackInfo := []
  measurementMaximumThresholdCommands : List ProcessDataCallbackInfo := []
  measurementOnChangeThresholdCommands : List ProcessDataCallbackInfo := []
  deriving DecidableEq

/-- What the server told about itself. -/
structure ServerData where
  tcStatusBitfield : UInt8 := 0
  sourceAddressOfCommandBeingExecuted : UInt8 := 0
  commandBeingExecuted : UInt8 := 0
  serverVersion : UInt8 := 0
  maxServerBootTime : UInt8 := 0
  serverOptionsByte1 : UInt8 := 0
  serverOptionsByte2 : UInt8 := 0
  serverNumberOfBoomsForSectionControl : UInt8 := 0
  serverNumberOfSectionsForSectionControl : UInt8 := 0
  serverNumberOfChannelsForPositionBasedControl : UInt8 := 0
  deriving DecidableEq

/-- What the client reports about itself. -/
structure ClientOptions where
  numberBoomsSupported : UInt8 := 0
  numberSectionsSupported : UInt8 := 0
  numberChannelsSupportedForPositionBasedControl : UInt8 := 0
  supportsDocumentation : Bool := false
  supportsTCGEOWithoutPositionBasedControl : Bool := false
  supportsTCGEOWithPositionBasedControl : Bool := false
  supportsPeerControlAssignment : Bool := false
  supportsImplementSectionControl : Bool := false
  deriving DecidableEq

structure LanguageCommandInterface where
  myPartner : Option CFRef
  initialized : Bool := false
  languageCommandTimestamp : UInt32 := 0
  languageCode : List UInt8 := []
  deriving DecidableEq

structure TaskControllerClient where
  this : PointerRef
  partnerControlFunction : CFRef
  myControlFunction : CFRef
  primaryVirtualTerminal : Option CFRef
  languageCommandInterface : LanguageCommandInterface
  ddop : SuppliedDDOP := {}
  queues : Queues := {}
  server : ServerData := {}
  options : ClientOptions := {}
  previousStructureLabel : List UInt8 := []
  currentState : StateMachineState := .disconnected
  stateMachineTimestamp : UInt32 := 0
  statusMessageTimestamp : UInt32 := 0
  serverStatusMessageTimestamp : UInt32 := 0
  languageCommandWaitingTimestamp : UInt32 := 0
  totalMachineDistance : UInt32 := 0
  numberOfWorkingSetMembers : UInt8 := 1
  initialized : Bool := false
  shouldTerminate : Bool := false
  enableStatusMessage : Bool := false
  shouldReuploadAfterDDOPDeletion : Bool := false
  shouldProcessAllDefaultProcessDataRequests : Bool := false

def TaskControllerClient.create (this : PointerRef) (partner clientSource : CFRef)
    (primaryVT : Option CFRef) : TaskControllerClient where
  this := this
  partnerControlFunction := partner
  myControlFunction := clientSource
  primaryVirtualTerminal := primaryVT
  languageCommandInterface := { myPartner := some partner }

structure DefaultProcessDataSettings where
  timeTriggerInterval : Int32 := 0
  distanceTriggerInterval : Int32 := 0
  minimumWithinThreshold : Int32 := 0
  maximumWithinThreshold : Int32 := 0
  changeThreshold : Int32 := 0
  enableTimeTrigger : Bool := false
  enableDistanceTrigger : Bool := false
  enableMinimumWithinThresholdTrigger : Bool := false
  enableMaximumWithinThresholdTrigger : Bool := false
  enableChangeThresholdTrigger : Bool := false
  deriving DecidableEq

/-- The callbacks of the application; what is passed by reference comes back changed. -/
structure Application where
  defaultProcessDataRequestedCallbacks :
    List (UInt16 → UInt16 → DefaultProcessDataSettings → Bool × DefaultProcessDataSettings)
  requestValueCallbacks : List (UInt16 → UInt16 → Int32 → Bool × Int32)
  valueCommandsCallbacks : List (UInt16 → UInt16 → Int32 → Bool)

/-- What one call of the client reads from its surroundings. What the network manager takes depends
on how much was noted before; a temporary pool that is gone shows whatever is there. -/
structure Environment where
  now : UInt32
  nm : CANNetworkManager
  accepts : Nat → Bool
  application : Application
  destroyedPool : DeviceDescriptorObjectPool

def Environment.timeExpired (env : Environment) (timestamp timeout : UInt32) : Bool :=
  env.now - timestamp ≥ timeout

/-- What the client does to its surroundings. -/
inductive Event
  /-- A message was handed to the network manager, which gave this answer. -/
  | message (frame : TransmitFrame) (sent : Bool)
  /-- A transfer of so many bytes was requested; they are asked for one chunk after another. -/
  | transfer (dataLength : UInt32) (sent : Bool)
  | valueCommand (elementNumber ddi : UInt16) (value : Int32)
  /-- A chunk request was answered with these bytes, or refused. -/
  | chunk (bytesOffset numberOfBytesNeeded : UInt32) (answer : Option (List UInt8))
  | callbacksAdded
  | callbacksRemoved
  deriving DecidableEq

/-- A client in the middle of a call. -/
structure Turn where
  client : TaskControllerClient
  events : List Event := []

/-- Change the first command about the same value, or add a new one. -/
def addMeasurement (update : ProcessDataCallbackInfo → ProcessDataCallbackInfo)
    (info : ProcessDataCallbackInfo) (commands : List ProcessDataCallbackInfo) :
    List ProcessDataCallbackInfo :=
  if commands.any (·.sameValue info) then
    commands.replaceF fun previous =>
      if previous.sameValue info then some (update previous) else none
  else commands ++ [info]

namespace Queues

variable (info : ProcessDataCallbackInfo) (queues : Queues)

def alterThreshold (previous : ProcessDataCallbackInfo) : ProcessDataCallbackInfo :=
  { previous with processDataValue := info.processDataValue, thresholdPassed := false }

def alterInterval (previous : ProcessDataCallbackInfo) : ProcessDataCallbackInfo :=
  { previous with processDataValue := info.processDataValue }

def addMeasurementChangeThreshold : Queues :=
  { queues with
    measurementOnChangeThresholdCommands :=
      addMeasurement (alterThreshold info) info queues.measurementOnChangeThresholdCommands }

def addMeasurementDistanceInterval : Queues :=
  { queues with
    measurementDistanceIntervalCommands :=
      addMeasurement (alterInterval info) info queues.measurementDistanceIntervalCommands }

def addMeasurementTimeInterval : Queues :=
  { queues with
    measurementTimeIntervalCommands :=
      addMeasurement (alterInterval info) info queues.measurementTimeIntervalCommands }

def addMeasurementMaximumThreshold : Queues :=
  { queues with
    measurementMaximumThresholdCommands :=
      addMeasurement (alterThreshold info) info queues.measurementMaximumThresholdCommands }

def addMeasurementMinimumThreshold : Queues :=
  { queues with
    measurementMinimumThresholdCommands :=
      addMeasurement (alterThreshold info) info queues.measurementMinimumThresholdCommands }

end Queues

namespace TaskControllerClient

variable (client : TaskControllerClient)

def setState (env : Environment) (newState : StateMachineState) : TaskControllerClient :=
  if newState = client.currentState then client
  else
    { client with
      stateMachineTimestamp := env.now
      currentState := newState
      queues := if newState = .disconnected then {} else client.queues }

def processDataFrame (data : List UInt8) : TransmitFrame where
  parameterGroupNumber := PROCESS_DATA
  data := data
  source := some client.myControlFunction
  destination := some client.partnerControlFunction
  priority := PriorityDefault6

def genericProcessData (multiplexer : UInt8) : TransmitFrame :=
  client.processDataFrame (multiplexer :: List.replicate 7 0xFF)

def deleteObjectPool : TransmitFrame := client.genericProcessData OBJECT_POOL_DELETE

def objectPoolActivate : TransmitFrame :=
  client.genericProcessData OBJECT_POOL_ACTIVATE_DEACTIVATE

def objectPoolDeactivate : TransmitFrame :=
  client.processDataFrame ([OBJECT_POOL_ACTIVATE_DEACTIVATE, 0x00] ++ List.replicate 6 0xFF)

def pdack (elementNumber ddi : UInt16) : TransmitFrame :=
  client.processDataFrame
    [PROCESS_DATA_ACKNOWLEDGE ||| ((elementNumber &&& 0x0F).toUInt8 <<< 4),
      (elementNumber >>> 4).toUInt8, (ddi &&& 0xFF).toUInt8, (ddi >>> 8).toUInt8,
      0xFF, 0xFF, 0xFF, 0xFF]

def requestLocalizationLabel : TransmitFrame :=
  client.genericProcessData REQUEST_LOCALIZATION_LABEL

/-- The size of the pool, which is that of the generated one unless a pointer was given. -/
def announcedSize : Nat :=
  if client.ddop.ddopUploadMode = .userProvidedBinaryPointer then
    client.ddop.userSuppliedBinaryDDOPSize.toNat
  else client.ddop.generatedBinaryDDOP.length

def requestObjectPoolTransfer : TransmitFrame :=
  client.processDataFrame ([REQUEST_OBJECT_POOL_TRANSFER] ++
    bytes32 (UInt32.ofNat client.announcedSize) ++ List.replicate 3 0xFF)

def requestStructureLabel : TransmitFrame := client.genericProcessData REQUEST_STRUCTURE_LABEL

def requestVersionResponse : TransmitFrame :=
  let bit (supported : Bool) (n : UInt8) : UInt8 := (if supported then 1 else 0) <<< n
  client.processDataFrame
    [PARAMETER_VERSION, SECOND_PUBLISHED_EDITION, 0xFF,
      bit client.options.supportsDocumentation 0 |||
        bit client.options.supportsTCGEOWithoutPositionBasedControl 1 |||
        bit client.options.supportsTCGEOWithPositionBasedControl 2 |||
        bit client.options.supportsPeerControlAssignment 3 |||
        bit client.options.supportsImplementSectionControl 4,
      0x00, client.options.numberBoomsSupported, client.options.numberSectionsSupported,
      client.options.numberChannelsSupportedForPositionBasedControl]

def status : TransmitFrame :=
  client.processDataFrame
    [CLIENT_TASK ||| 0xF0, 0xFF, 0xFF, 0xFF, client.server.tcStatusBitfield &&& 0x01, 0x00, 0x00,
      0x00]

def valueCommand (elementNumber ddi : UInt16) (value : Int32) : TransmitFrame :=
  client.processDataFrame
    ([VALUE ||| ((elementNumber &&& 0x0F).toUInt8 <<< 4), (elementNumber >>> 4).toUInt8,
      (ddi &&& 0xFF).toUInt8, (ddi >>> 8).toUInt8] ++ bytes32 value.toUInt32)

def versionRequest : TransmitFrame := client.genericProcessData REQUEST_VERSION

def workingSetMaster : TransmitFrame where
  parameterGroupNumber := WORKING_SET_MASTER
  data := client.numberOfWorkingSetMembers :: List.replicate 7 0xFF
  source := some client.myControlFunction
  destination := none
  priority := PriorityDefault6

def requestLanguageCommand : TransmitFrame where
  parameterGroupNumber := parameterGroupNumberRequest
  data := [byteOf LANGUAGE_COMMAND 0, byteOf LANGUAGE_COMMAND 1, byteOf LANGUAGE_COMMAND 2]
  source := some client.myControlFunction
  destination := client.languageCommandInterface.myPartner
  priority := PriorityDefault6

end TaskControllerClient

namespace Turn

variable (env : Environment) (turn : Turn)

def emit (event : Event) : Turn := { turn with events := turn.events ++ [event] }

def map (f : TaskControllerClient → TaskControllerClient) : Turn :=
  { turn with client := f turn.client }

def setState (newState : StateMachineState) : Turn := turn.map (·.setState env newState)

def sent : Bool := env.accepts turn.events.length

def offer (frame : TransmitFrame) : Turn := turn.emit (.message frame (turn.sent env))

def terminate : Turn :=
  if turn.client.initialized then
    (turn.emit .callbacksRemoved).map fun client => { client with shouldTerminate := true }
  else turn

end Turn

end Isobus.TaskClient
