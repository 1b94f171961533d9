import Isobus.Can.Message
import Isobus.Can.Name
import Isobus.Lib.Machine

/-!
# The task controller server

`isobus_task_controller_server.cpp`. A step that looks behind the end of the received data, or
follows a null pointer, has no result.
-/

namespace Isobus.TaskController

open Isobus.Can Isobus.Lib

def PROCESS_DATA : UInt32 := 0xCB00
def WORKING_SET_MASTER : UInt32 := 0xFE0D
def ACKNOWLEDGE : UInt32 := 0xE800
def ABSOLUTE_MAX_MESSAGE_LENGTH : UInt32 := 117440505
def MIN_STATUS_MESSAGE_INTERVAL_MS : UInt32 := 200
def STATUS_MESSAGE_RATE_MS : UInt32 := 2000
def CLIENT_TASK_TIMEOUT_MS : UInt32 := 6000
def PRIORITY_3 : UInt32 := 3
def PRIORITY_4 : UInt32 := 4
def PRIORITY_5 : UInt32 := 5

inductive ProcessDataCommands
  | technicalCapabilities
  | deviceDescriptor
  | requestValue
  | value
  | measurementTimeInterval
  | measurementDistanceInterval
  | measurementMinimumWithinThreshold
  | measurementMaximumWithinThreshold
  | measurementChangeThreshold
  | peerControlAssignment
  | setValueAndAcknowledge
  | reserved
  | reserved2
  | acknowledge
  | status
  | clientTask
  deriving DecidableEq

/-- The command in the low half of the first byte. -/
def ProcessDataCommands.ofByte (byte : UInt8) : ProcessDataCommands :=
  match (byte &&& 0x0F).toNat with
  | 0 => .technicalCapabilities
  | 1 => .deviceDescriptor
  | 2 => .requestValue
  | 3 => .value
  | 4 => .measurementTimeInterval
  | 5 => .measurementDistanceInterval
  | 6 => .measurementMinimumWithinThreshold
  | 7 => .measurementMaximumWithinThreshold
  | 8 => .measurementChangeThreshold
  | 9 => .peerControlAssignment
  | 10 => .setValueAndAcknowledge
  | 11 => .reserved
  | 12 => .reserved2
  | 13 => .acknowledge
  | 14 => .status
  | _ => .clientTask

inductive TechnicalDataCommandParameters
  | requestVersion
  | parameterVersion
  | identifyTaskController
  deriving DecidableEq

def TechnicalDataCommandParameters.ofByte (byte : UInt8) : Option TechnicalDataCommandParameters :=
  match (byte >>> 4).toNat with
  | 0 => some .requestVersion
  | 1 => some .parameterVersion
  | 2 => some .identifyTaskController
  | _ => none

inductive DeviceDescriptorCommandParameters
  | requestStructureLabel
  | structureLabel
  | requestLocalizationLabel
  | localizationLabel
  | requestObjectPoolTransfer
  | requestObjectPoolTransferResponse
  | objectPoolTransfer
  | objectPoolTransferResponse
  | objectPoolActivateDeactivate
  | objectPoolActivateDeactivateResponse
  | deleteObjectPool
  | deleteObjectPoolResponse
  | changeDesignator
  | changeDesignatorResponse
  deriving DecidableEq

def DeviceDescriptorCommandParameters.ofByte (byte : UInt8) :
    Option DeviceDescriptorCommandParameters :=
  match (byte >>> 4).toNat with
  | 0 => some .requestStructureLabel
  | 1 => some .structureLabel
  | 2 => some .requestLocalizationLabel
  | 3 => some .localizationLabel
  | 4 => some .requestObjectPoolTransfer
  | 5 => some .requestObjectPoolTransferResponse
  | 6 => some .objectPoolTransfer
  | 7 => some .objectPoolTransferResponse
  | 8 => some .objectPoolActivateDeactivate
  | 9 => some .objectPoolActivateDeactivateResponse
  | 10 => some .deleteObjectPool
  | 11 => some .deleteObjectPoolResponse
  | 12 => some .changeDesignator
  | 13 => some .changeDesignatorResponse
  | _ => none

structure ActiveClient where
  clientControlFunction : Option CFRef
  lastStatusMessageTimestamp : UInt32
  clientDDOPsize : UInt32 := 0
  statusBitfield : UInt32 := 0
  numberOfObjectPoolSegments : UInt16 := 0
  reportedVersion : UInt8 := 0
  isDDOPActive : Bool := false
  deriving DecidableEq

structure ServerConfiguration where
  serverControlFunction : CFRef
  reportedVersion : UInt8
  numberBoomsSupportedToReport : UInt8
  numberSectionsSupportedToReport : UInt8
  numberChannelsSupportedForPositionBasedControlToReport : UInt8
  optionsBitfieldToReport : UInt8

structure TaskControllerServer where
  rxMessageQueue : List CANMessage := []
  activeClients : List ActiveClient := []
  lastStatusMessageTimestamp : UInt32 := 0
  currentStatusByte : UInt8 := 0
  currentCommandSourceAddress : UInt8 := 0
  currentCommandByte : UInt8 := 0
  statusUpdatePending : Bool := false

/-- What the application answers to the calls of one message. An answer to an activation is the
result with both error codes and the faulty objects. -/
structure Application where
  activateObjectPool : CFRef → Bool × UInt8 × UInt8 × UInt16 × UInt16
  changeDesignator : CFRef → UInt16 → List UInt8 → Bool
  deactivateObjectPool : CFRef → Bool
  deleteDeviceDescriptorObjectPool : CFRef → Bool × UInt8
  getIsStoredByStructureLabel : CFRef → List UInt8 → List UInt8 → Bool
  getIsStoredByLocalizationLabel : CFRef → List UInt8 → Bool
  getIsEnoughMemoryAvailable : UInt32 → Bool
  onValueCommand : CFRef → UInt16 → UInt16 → UInt32 → Bool × UInt8
  storeDeviceDescriptorObjectPool : CFRef → List UInt8 → Bool → Bool
  /-- A value command that fails comes with an error code. -/
  onValueCommand_error : ∀ c ddi element value,
    (onValueCommand c ddi element value).1 = false → (onValueCommand c ddi element value).2 ≠ 0

inductive ServerEvent
  /-- A message was handed to the network manager, which gave this answer. -/
  | message (frame : TransmitFrame) (sent : Bool)
  | identifyTaskController (taskControllerNumber : UInt8)
  | clientVersionReceived (client : CFRef) (version : UInt8)
  | processDataAcknowledge (client : CFRef) (dataDescriptionIndex elementNumber : UInt16)
      (errorCodes : UInt8) (command : ProcessDataCommands)
  | clientTimeout (client : CFRef)
  deriving DecidableEq

/-- What the server reads from its surroundings; the application answers for each message anew. -/
structure ServerEnvironment where
  now : UInt32
  world : World
  send : TransmitFrame → Bool
  application : Nat → Application

abbrev Outcome := Option (TaskControllerServer × List ServerEvent)

def uint16At (message : CANMessage) (index : Nat) : Option UInt16 := do
  return decode16 (← message.data[index]?) (← message.data[index + 1]?)

def uint32At (message : CANMessage) (index : Nat) : Option UInt32 := do
  return decode32 (← message.data[index]?) (← message.data[index + 1]?)
    (← message.data[index + 2]?) (← message.data[index + 3]?)

def elementNumberAt (message : CANMessage) : Option UInt16 := do
  return (← message.data[0]?).toUInt16 >>> 4 ||| (← message.data[1]?).toUInt16 <<< 4

variable (config : ServerConfiguration) (env : ServerEnvironment)

def sendProcessDataToClient (client : Option CFRef) (data : List UInt8)
    (priority : UInt32) : List ServerEvent :=
  let frame : TransmitFrame :=
    { parameterGroupNumber := PROCESS_DATA
      data := data
      source := some config.serverControlFunction
      destination := client
      priority := priority }
  [.message frame (env.send frame)]

def sendGenericProcessDataDefaultPayload (multiplexer : UInt8) (destination : Option CFRef) :
    List ServerEvent :=
  let priority := match ProcessDataCommands.ofByte multiplexer with
    | .value | .setValueAndAcknowledge | .status | .clientTask => PRIORITY_3
    | .acknowledge => PRIORITY_4
    | _ => PRIORITY_5
  sendProcessDataToClient config env destination
    [multiplexer, 0xFF, 0xFF, 0xFF, 0xFF, 0xFF, 0xFF, 0xFF] priority

def sendVersion (client : Option CFRef) : List ServerEvent :=
  sendProcessDataToClient config env client
    [0x10, config.reportedVersion, 0xFF, config.optionsBitfieldToReport, 0x00,
      config.numberBoomsSupportedToReport, config.numberSectionsSupportedToReport,
      config.numberChannelsSupportedForPositionBasedControlToReport] PRIORITY_5

def nackProcessDataCommand (client : Option CFRef) : List ServerEvent :=
  match client with
  | none => []
  | some c =>
    let frame : TransmitFrame :=
      { parameterGroupNumber := ACKNOWLEDGE
        data := [0x01, 0xFF, 0xFF, 0xFF, (env.world c).address, byteOf PROCESS_DATA 0,
          byteOf PROCESS_DATA 1, byteOf PROCESS_DATA 2]
        source := some config.serverControlFunction
        destination := some c
        priority := PriorityDefault6 }
    [.message frame (env.send frame)]

/-- The responses with a payload of their own, which are only sent to somebody. -/
def respond (client : Option CFRef) (data : List UInt8) (priority : UInt32) : List ServerEvent :=
  match client with
  | none => []
  | some _ => sendProcessDataToClient config env client data priority

def sendStructureLabel (client : Option CFRef)
    (structureLabel extendedStructureLabel : List UInt8) :
    List ServerEvent :=
  respond config env client
    (0x11 :: structureLabel ++ List.replicate (7 - structureLabel.length) 0xFF ++
      extendedStructureLabel) PRIORITY_5

def sendLocalizationLabel (client : Option CFRef) (localizationLabel : List UInt8) :
    List ServerEvent :=
  respond config env client (0x31 :: localizationLabel) PRIORITY_5

def sendRequestObjectPoolTransferResponse (client : Option CFRef) (isEnoughMemory : Bool) :
    List ServerEvent :=
  respond config env client
    [0x51, if isEnoughMemory then 0 else 1, 0xFF, 0xFF, 0xFF, 0xFF, 0xFF, 0xFF] PRIORITY_5

def sendObjectPoolTransferResponse (client : Option CFRef) (errorBitfield : UInt8)
    (sizeBytes : UInt32) : List ServerEvent :=
  respond config env client
    [0x71, errorBitfield, byteOf sizeBytes 0, byteOf sizeBytes 1, byteOf sizeBytes 2,
      byteOf sizeBytes 3, 0xFF, 0xFF] PRIORITY_5

def sendObjectPoolActivateDeactivateResponse (client : Option CFRef)
    (activationErrorBitfield objectPoolErrorBitfield : UInt8)
    (parentOfFaultingObject faultingObject : UInt16) : List ServerEvent :=
  respond config env client
    [0x91, activationErrorBitfield, byteOf parentOfFaultingObject.toUInt32 0,
      byteOf parentOfFaultingObject.toUInt32 1, byteOf faultingObject.toUInt32 0,
      byteOf faultingObject.toUInt32 1, objectPoolErrorBitfield, 0xFF] PRIORITY_5

def sendDeleteObjectPoolResponse (client : Option CFRef) (deletionResult : Bool)
    (errorCode : UInt8) : List ServerEvent :=
  respond config env client
    [0xB1, if deletionResult then 0 else 1, errorCode, 0xFF, 0xFF, 0xFF, 0xFF, 0xFF] PRIORITY_5

def sendChangeDesignatorResponse (client : Option CFRef) (objectID : UInt16) (errorCode : UInt8) :
    List ServerEvent :=
  respond config env client
    [0xD1, byteOf objectID.toUInt32 0, byteOf objectID.toUInt32 1, errorCode, 0xFF, 0xFF, 0xFF,
      0xFF] PRIORITY_5

def sendProcessDataAcknowledge (client : Option CFRef)
    (dataDescriptionIndex elementNumber : UInt16) (errorBitfield commandByte : UInt8) :
    List ServerEvent :=
  respond config env client
    [(0x0D : UInt8) ||| (elementNumber &&& 0x0F).toUInt8 <<< 4, (elementNumber >>> 4).toUInt8,
      byteOf dataDescriptionIndex.toUInt32 0, byteOf dataDescriptionIndex.toUInt32 1,
      errorBitfield, 0xF0 ||| (commandByte &&& 0x0F), 0xFF, 0xFF] PRIORITY_4

def sendStatusMessage (server : TaskControllerServer) : List ServerEvent × Bool :=
  let frame : TransmitFrame :=
    { parameterGroupNumber := PROCESS_DATA
      data := [0xFE, 0xFF, 0xFF, 0xFF, server.currentStatusByte,
        server.currentCommandSourceAddress, server.currentCommandByte, 0xFF]
      source := some config.serverControlFunction
      destination := none
      priority := PRIORITY_3 }
  ([.message frame (env.send frame)], env.send frame)

def isClient (world : World) (client : Option CFRef) (activeClient : ActiveClient) : Bool :=
  match activeClient.clientControlFunction, client with
  | some a, some c =>
    (world a).controlFunctionNAME = (world c).controlFunctionNAME &&
      (world a).canPortIndex = (world c).canPortIndex
  | _, _ => false

namespace TaskControllerServer

def getActiveClient (world : World) (client : Option CFRef) (server : TaskControllerServer) :
    Option ActiveClient :=
  server.activeClients.find? (isClient world client)

def alterClient (world : World) (client : Option CFRef) (f : ActiveClient → ActiveClient)
    (server : TaskControllerServer) : TaskControllerServer :=
  { server with
    activeClients := server.activeClients.replaceF fun activeClient =>
      if isClient world client activeClient then some (f activeClient) else none }

def setCommandBusy (isBusy : Bool) (clientAddress commandByte : UInt8)
    (server : TaskControllerServer) : TaskControllerServer :=
  if isBusy then
    { server with
      currentCommandSourceAddress := clientAddress
      currentCommandByte := commandByte
      currentStatusByte := server.currentStatusByte ||| 0x08
      statusUpdatePending := true }
  else
    { server with
      currentCommandSourceAddress := 0
      currentCommandByte := 0
      currentStatusByte := server.currentStatusByte &&& ~~~0x08
      statusUpdatePending := true }

def getTaskTotalsActive (server : TaskControllerServer) : Bool :=
  server.currentStatusByte &&& 0x01 ≠ 0

def setTaskTotalsActive (isTaskActive : Bool) (server : TaskControllerServer) :
    TaskControllerServer :=
  if isTaskActive ≠ server.getTaskTotalsActive then
    { server with
      currentStatusByte := server.currentStatusByte &&& ~~~0x01 ||| (if isTaskActive then 1 else 0)
      statusUpdatePending := true }
  else server

def storeRxMessage (message : CANMessage) (server : TaskControllerServer) : TaskControllerServer :=
  { server with rxMessageQueue := server.rxMessageQueue ++ [message] }

def technicalCapabilities (command : UInt8) (message : CANMessage)
    (server : TaskControllerServer) : Outcome :=
  match TechnicalDataCommandParameters.ofByte command with
  | some .requestVersion =>
    if message.destination = some config.serverControlFunction then
      some (server, sendVersion config env message.source ++
        sendGenericProcessDataDefaultPayload config env 0x00 message.source)
    else some (server, [])
  | some .parameterVersion =>
    if message.data.length = CAN_DATA_LENGTH then do
      let version ← message.data[1]?
      let _ ← server.getActiveClient env.world message.source
      let source ← message.source
      return (server.alterClient env.world message.source fun client =>
        { client with reportedVersion := version }, [.clientVersionReceived source version])
    else some (server, [])
  | some .identifyTaskController => do
      -- The log names the address of the source.
      let source ← message.source
      let number := NAME.getFunctionInstance
        (env.world config.serverControlFunction).controlFunctionNAME + 1
      if message.destination = some config.serverControlFunction then
        return (server, sendGenericProcessDataDefaultPayload config env command (some source)
          ++ [.identifyTaskController number])
      else return (server, [.identifyTaskController number])
  | none => some (server, [])

/-! The commands about object pools; their source is a client that is known. -/

def requestStructureLabel (application : Application) (source : CFRef) (message : CANMessage)
    (server : TaskControllerServer) : Outcome := do
  let structureLabel ← (List.range 7).mapM fun i => message.data[i + 1]?
  let extendedStructureLabel ← (List.range (message.data.length - 8)).mapM fun i =>
    message.data[8 + i]?
  if application.getIsStoredByStructureLabel source structureLabel extendedStructureLabel then
    return (server, sendStructureLabel config env (some source) structureLabel
      extendedStructureLabel)
  else return (server, sendGenericProcessDataDefaultPayload config env 0x11 (some source))

def requestLocalizationLabel (application : Application) (source : CFRef) (message : CANMessage)
    (server : TaskControllerServer) : Outcome := do
  let localizationLabel ← (List.range 7).mapM fun i => message.data[i + 1]?
  if application.getIsStoredByLocalizationLabel source localizationLabel then
    return (server, sendLocalizationLabel config env (some source) localizationLabel)
  else return (server, sendGenericProcessDataDefaultPayload config env 0x31 (some source))

def requestObjectPoolTransfer (application : Application) (source : CFRef) (message : CANMessage)
    (server : TaskControllerServer) : Outcome := do
  let requestedSize ← uint32At message 1
  if requestedSize ≤ ABSOLUTE_MAX_MESSAGE_LENGTH ∧
      application.getIsEnoughMemoryAvailable requestedSize then
    return (server.alterClient env.world (some source) fun client =>
        { client with clientDDOPsize := requestedSize },
      sendRequestObjectPoolTransferResponse config env (some source) true)
  else return (server, sendRequestObjectPoolTransferResponse config env (some source) false)

def objectPoolTransfer (application : Application) (source : CFRef) (client : ActiveClient)
    (command : UInt8) (message : CANMessage) (server : TaskControllerServer) : Outcome :=
  let objectPool := message.data.tail
  let error : UInt8 := if application.storeDeviceDescriptorObjectPool source objectPool
    (client.numberOfObjectPoolSegments ≠ 0) then 0 else 2
  some ((server.setCommandBusy true (env.world source).address command).setCommandBusy false 0 0,
    sendObjectPoolTransferResponse config env (some source) error
      (UInt32.ofNat objectPool.length))

def setDDOPActive (source : CFRef) (active : Bool) (server : TaskControllerServer) :
    TaskControllerServer :=
  server.alterClient env.world (some source) fun client => { client with isDDOPActive := active }

def objectPoolActivate (application : Application) (source : CFRef)
    (server : TaskControllerServer) : TaskControllerServer × List ServerEvent :=
  match application.activateObjectPool source with
  | (true, _) => (server.setDDOPActive env source true,
      sendObjectPoolActivateDeactivateResponse config env (some source) 0 0 0xFFFF 0xFFFF)
  | (false, activationError, errorCode, faultingParentObject, faultingObject) => (server,
      sendObjectPoolActivateDeactivateResponse config env (some source) activationError
        errorCode faultingParentObject faultingObject)

def objectPoolDeactivate (application : Application) (source : CFRef)
    (server : TaskControllerServer) : TaskControllerServer × List ServerEvent :=
  if application.deactivateObjectPool source then (server.setDDOPActive env source false,
    sendObjectPoolActivateDeactivateResponse config env (some source) 0 0 0xFFFF 0xFFFF)
  else (server,
    sendObjectPoolActivateDeactivateResponse config env (some source) 4 0 0xFFFF 0xFFFF)

def objectPoolActivateDeactivate (application : Application) (source : CFRef) (command : UInt8)
    (message : CANMessage) (server : TaskControllerServer) : Outcome := do
  let request ← message.data[1]?
  let busy := server.setCommandBusy true (env.world source).address command
  let answer :=
    if request = 0xFF then busy.objectPoolActivate config env application source
    else if request = 0x00 then busy.objectPoolDeactivate config env application source
    else (busy, [])
  return (answer.1.setCommandBusy false 0 0, answer.2)

def deleteObjectPool (application : Application) (source : CFRef)
    (server : TaskControllerServer) : Outcome :=
  match application.deleteDeviceDescriptorObjectPool source with
  | (true, _) =>
    some (server, sendDeleteObjectPoolResponse config env (some source) true 0xFF)
  | (false, errorCode) =>
    some (server, sendDeleteObjectPoolResponse config env (some source) false errorCode)

def changeDesignator (application : Application) (source : CFRef) (client : ActiveClient)
    (message : CANMessage) (server : TaskControllerServer) : Outcome :=
  if client.isDDOPActive then do
    let objectID ← uint16At message 1
    let designator ← (List.range (message.data.length - 3)).mapM fun i => message.data[3 + i]?
    let error : UInt8 := if application.changeDesignator source objectID designator then 0 else 1
    return (server, sendChangeDesignatorResponse config env (some source) objectID error)
  else some (server, [])

def clientDeviceDescriptor (application : Application) (source : CFRef) (client : ActiveClient)
    (command : UInt8) (message : CANMessage) (server : TaskControllerServer) :
    DeviceDescriptorCommandParameters → Outcome
  | .requestStructureLabel =>
    server.requestStructureLabel config env application source message
  | .requestLocalizationLabel =>
    server.requestLocalizationLabel config env application source message
  | .requestObjectPoolTransfer =>
    server.requestObjectPoolTransfer config env application source message
  | .objectPoolTransfer =>
    server.objectPoolTransfer config env application source client command message
  | .objectPoolActivateDeactivate =>
    server.objectPoolActivateDeactivate config env application source command message
  | .deleteObjectPool => server.deleteObjectPool config env application source
  | .changeDesignator =>
    server.changeDesignator config env application source client message
  -- The messages of a server are not answered here.
  | .structureLabel | .localizationLabel | .requestObjectPoolTransferResponse
  | .objectPoolTransferResponse | .objectPoolActivateDeactivateResponse
  | .deleteObjectPoolResponse | .changeDesignatorResponse =>
    some (server, nackProcessDataCommand config env (some source))

def deviceDescriptor (application : Application) (command : UInt8) (message : CANMessage)
    (server : TaskControllerServer) : Outcome :=
  match DeviceDescriptorCommandParameters.ofByte command, message.source, message.destination with
  | some parameter, some source, some _ =>
    if message.data.length ≥ CAN_DATA_LENGTH then
      match server.getActiveClient env.world (some source) with
      | some client =>
        server.clientDeviceDescriptor config env application source client command
          message parameter
      | none => some (server, nackProcessDataCommand config env (some source))
    else some (server, [])
  | _, _, _ => some (server, [])

def valueCommand (application : Application) (command : UInt8) (message : CANMessage)
    (server : TaskControllerServer) : Outcome :=
  match server.getActiveClient env.world message.source with
  | none => some (server, nackProcessDataCommand config env message.source)
  | some client =>
    if client.isDDOPActive then do
      let dataDescriptionIndex ← uint16At message 2
      let elementNumber ← elementNumberAt message
      let value ← uint32At message 4
      let source ← message.source
      match application.onValueCommand source dataDescriptionIndex elementNumber value with
      | (true, _) =>
        if ProcessDataCommands.ofByte command = .setValueAndAcknowledge then
          return (server, sendProcessDataAcknowledge config env (some source)
            dataDescriptionIndex elementNumber 0 command)
        else return (server, [])
      | (false, errorCodes) =>
        return (server, sendProcessDataAcknowledge config env (some source)
          dataDescriptionIndex elementNumber errorCodes command)
    else some (server, [])

def processDataAcknowledge (command : UInt8) (message : CANMessage)
    (server : TaskControllerServer) : Outcome :=
  match server.getActiveClient env.world message.source with
  | none => some (server, nackProcessDataCommand config env message.source)
  | some client => do
      let dataDescriptionIndex ← uint16At message 2
      let elementNumber ← elementNumberAt message
      let source ← message.source
      if client.isDDOPActive then
        let errorCodes ← message.data[4]?
        return (server,
            [.processDataAcknowledge source dataDescriptionIndex elementNumber errorCodes
          (ProcessDataCommands.ofByte command)])
      else
        return (server, sendProcessDataAcknowledge config env (some source)
          dataDescriptionIndex elementNumber 0x10 command)

def measurementCommand (command : UInt8) (message : CANMessage)
    (server : TaskControllerServer) : Outcome :=
  if message.data.length = CAN_DATA_LENGTH then do
    let dataDescriptionIndex ← uint16At message 2
    let elementNumber ← elementNumberAt message
    let source ← message.source
    return (server, sendProcessDataAcknowledge config env (some source) dataDescriptionIndex
      elementNumber 0x01 command)
  else do
    let _ ← message.source
    return (server, [])

def clientTask (message : CANMessage) (server : TaskControllerServer) : Outcome :=
  if message.data.length = CAN_DATA_LENGTH then do
    let status ← uint32At message 4
    return ({ server with
      activeClients := server.activeClients.map fun client =>
        if client.clientControlFunction = message.source then
          { client with lastStatusMessageTimestamp := env.now, statusBitfield := status }
        else client }, [])
  else some (server, [])

def processData (application : Application) (message : CANMessage)
    (server : TaskControllerServer) : Outcome := do
  let command ← message.data[0]?
  match ProcessDataCommands.ofByte command with
  | .technicalCapabilities => server.technicalCapabilities config env command message
  | .deviceDescriptor => server.deviceDescriptor config env application command message
  | .value | .setValueAndAcknowledge =>
    server.valueCommand config env application command message
  | .acknowledge => server.processDataAcknowledge config env command message
  | .measurementTimeInterval | .measurementDistanceInterval | .measurementMinimumWithinThreshold
  | .measurementMaximumWithinThreshold | .measurementChangeThreshold =>
    server.measurementCommand config env command message
  | .clientTask => server.clientTask env message
  | .status | .requestValue | .peerControlAssignment | .reserved | .reserved2 =>
    return (server, [])

/-- Who announces itself becomes a client, if it is not one yet. -/
def workingSetMaster (message : CANMessage) (server : TaskControllerServer) : Outcome :=
  if message.data.length = CAN_DATA_LENGTH then do
    let numberOfWorkingSetMembers ← message.data[0]?
    if 1 ≤ numberOfWorkingSetMembers then
      match server.getActiveClient env.world message.source with
      | none =>
        let server := { server with
          activeClients := server.activeClients ++
            [{ clientControlFunction := message.source, lastStatusMessageTimestamp := env.now }] }
        -- The log names the address of the new client.
        let source ← message.source
        return (server,
          sendGenericProcessDataDefaultPayload config env 0x00 (some source))
      | some _ => return (server, [])
    else return (server, [])
  else some (server, [])

def processRxMessage (application : Application) (message : CANMessage)
    (server : TaskControllerServer) : Outcome :=
  if message.identifier.getParameterGroupNumber = PROCESS_DATA then
    server.processData config env application message
  else if message.identifier.getParameterGroupNumber = WORKING_SET_MASTER then
    server.workingSetMaster config env message
  else some (server, [])

/-- Work off the queue; the answers of the application are numbered by the messages. -/
def processRxMessages (server : TaskControllerServer) : List CANMessage → Nat → Outcome
  | [], _ => some (server, [])
  | message :: rest, k => do
      let first ← server.processRxMessage config env (env.application k) message
      let others ← first.1.processRxMessages rest (k + 1)
      return (others.1, first.2 ++ others.2)

def updateStatus (server : TaskControllerServer) : TaskControllerServer × List ServerEvent :=
  let elapsed := env.now - server.lastStatusMessageTimestamp
  let shouldSendStatus : Bool :=
    if server.statusUpdatePending then elapsed ≥ MIN_STATUS_MESSAGE_INTERVAL_MS
    else elapsed ≥ STATUS_MESSAGE_RATE_MS
  let server := { server with
    statusUpdatePending := server.statusUpdatePending && !shouldSendStatus }
  if shouldSendStatus then
    let sent := sendStatusMessage config env server
    (if sent.2 then { server with lastStatusMessageTimestamp := env.now } else server, sent.1)
  else (server, [])

/-- Which of the clients are left, and what is done about the others. -/
def removeTimedOut (server : TaskControllerServer) :
    List ActiveClient → Option (List ActiveClient × TaskControllerServer × List ServerEvent)
  | [] => some ([], server, [])
  | client :: rest =>
    if env.now - client.lastStatusMessageTimestamp ≥ CLIENT_TASK_TIMEOUT_MS then do
      let c ← client.clientControlFunction
      let server := if server.currentCommandSourceAddress = (env.world c).address then
        server.setCommandBusy false 0 0 else server
      let others ← server.removeTimedOut rest
      return (others.1, others.2.1, .clientTimeout c :: others.2.2)
    else do
      let others ← server.removeTimedOut rest
      return (client :: others.1, others.2)

def update (server : TaskControllerServer) : Outcome := do
  let processed ← { server with rxMessageQueue := [] }.processRxMessages config env
    server.rxMessageQueue 0
  let status := processed.1.updateStatus config env
  let removed ← status.1.removeTimedOut env status.1.activeClients
  return ({ removed.2.1 with activeClients := removed.1 },
    processed.2 ++ status.2 ++ removed.2.2)

end TaskControllerServer

inductive ServerCall
  | storeRxMessage (message : CANMessage)
  | update
  | setTaskTotalsActive (isTaskActive : Bool)
  | setCommandBusy (isBusy : Bool) (clientAddress commandByte : UInt8)

structure ServerInput where
  env : ServerEnvironment
  call : ServerCall

namespace TaskControllerServer

def serve (server : TaskControllerServer) (input : ServerInput) : Outcome :=
  match input.call with
  | .storeRxMessage message => some (server.storeRxMessage message, [])
  | .update => server.update config input.env
  | .setTaskTotalsActive isTaskActive => some (server.setTaskTotalsActive isTaskActive, [])
  | .setCommandBusy isBusy clientAddress commandByte =>
    some (server.setCommandBusy isBusy clientAddress commandByte, [])

end TaskControllerServer

def taskControllerServer : Machine (Option TaskControllerServer) ServerInput ServerEvent where
  step
    | none, _ => (none, [])
    | some server, input =>
      match server.serve config input with
      | some outcome => (some outcome.1, outcome.2)
      | none => (none, [])

end Isobus.TaskController
