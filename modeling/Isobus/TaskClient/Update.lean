import Isobus.TaskClient.Messages
import Isobus.TaskClient.Values

/-!
# The calls of the task controller client

The state machine in `TaskControllerClient::update`, what the application may ask for, and
the client as a machine that serves one call after another.
-/

namespace Isobus.TaskClient

open Isobus.Can Isobus.Lib Isobus.DeviceDescriptor Isobus.NetworkManager

/-- A device descriptor in one of its three forms. -/
inductive DDOP
  | object (pool : DeviceDescriptorObjectPool)
  | pointer (binaryDDOP : List UInt8) (hsize : binaryDDOP.length < 2 ^ 32)
  | vector (binaryDDOP : List UInt8)

namespace SuppliedDDOP

variable (supplied : SuppliedDDOP)

/-- What `configure` and `reupload_device_descriptor_object_pool` do first. A pool supplied as an
object stays known. -/
def supply (ddop : DDOP) : SuppliedDDOP :=
  match ddop with
  | .object pool => { ddopUploadMode := .programaticallyGenerated, clientDDOP := some pool }
  | .pointer binaryDDOP _ =>
    { ddopUploadMode := .userProvidedBinaryPointer
      clientDDOP := supplied.clientDDOP
      userSuppliedBinaryDDOP := some binaryDDOP
      userSuppliedBinaryDDOPSize := UInt32.ofNat binaryDDOP.length }
  | .vector binaryDDOP =>
    { ddopUploadMode := .userProvidedVector
      clientDDOP := supplied.clientDDOP
      userSuppliedVectorDDOP := some binaryDDOP }

def wasSupplied : Bool :=
  match supplied.ddopUploadMode with
  | .programaticallyGenerated => supplied.clientDDOP.isSome
  | .userProvidedBinaryPointer =>
    supplied.userSuppliedBinaryDDOP.isSome && supplied.userSuppliedBinaryDDOPSize ≠ 0
  | .userProvidedVector => supplied.userSuppliedVectorDDOP.any fun binaryDDOP => binaryDDOP ≠ []

def binaryDDOP : Option (List UInt8) :=
  if supplied.ddopUploadMode = .userProvidedBinaryPointer then
    supplied.userSuppliedBinaryDDOP.map (·.take supplied.userSuppliedBinaryDDOPSize.toNat)
  else supplied.userSuppliedVectorDDOP

/-- The labels behind the three texts of a device. Each assertion is made before the bytes are read,
and one more byte follows the last label. -/
def readLabels (bytes : List UInt8) : Option (List UInt8 × LocalizationLabel) := do
  let designatorLength ← bytes[5]?
  let softwareVersion := 6 + designatorLength.toNat
  let softwareVersionLength ← bytes[softwareVersion]?
  let serialNumber := softwareVersion + softwareVersionLength.toNat + 9
  let serialNumberLength ← bytes[serialNumber]?
  let structureLabel := serialNumber + serialNumberLength.toNat + 1
  let localizationLabel := structureLabel + MAX_STRUCTURE_AND_LOCALIZATION_LABEL_LENGTH
  if localizationLabel + MAX_STRUCTURE_AND_LOCALIZATION_LABEL_LENGTH < bytes.length then
    return (← readBytes bytes structureLabel MAX_STRUCTURE_AND_LOCALIZATION_LABEL_LENGTH,
      ← readLabel bytes localizationLabel)
  else none

/-- `process_labels_from_ddop`: what does not begin with the device table is searched forever. -/
def processLabelsFromDdop : Option SuppliedDDOP :=
  match supplied.ddopUploadMode with
  | .programaticallyGenerated => do
      match (← supplied.clientDDOP).getObjectById 0 with
      | some (.device device) =>
        return { supplied with
          ddopStructureLabel := device.structureLabel ++ List.replicate
            (MAX_STRUCTURE_AND_LOCALIZATION_LABEL_LENGTH - device.structureLabel.length) 0x20
          ddopLocalizationLabel := device.localizationLabel }
      | _ => none
  | _ => do
      let bytes ← supplied.binaryDDOP
      if bytes.length = ObjectTypes.device.tableID.length then return supplied
      else if bytes.take 3 = ObjectTypes.device.tableID then
        let labels ← readLabels bytes
        return { supplied with
          ddopStructureLabel := supplied.ddopStructureLabel ++ labels.1
          ddopLocalizationLabel := labels.2 }
      else none

def lowerTo (serverVersion : UInt8) (pool : DeviceDescriptorObjectPool) :
    DeviceDescriptorObjectPool :=
  if h : serverVersion < pool.taskControllerCompatibilityLevel then
    pool.setTaskControllerCompatibilityLevel serverVersion
      (UInt8.le_trans (UInt8.le_of_lt h) pool.taskControllerCompatibilityLevel_le)
  else pool

end SuppliedDDOP

namespace Turn

variable (env : Environment) (turn : Turn)

def expired (timeout : UInt32) : Bool :=
  env.timeExpired turn.client.stateMachineTimestamp timeout

def awaitResponse (timeout : UInt32) : Turn :=
  if turn.expired env timeout then turn.setState env .disconnected else turn

def attempt (frame : TransmitFrame) (newState : StateMachineState) : Turn :=
  if turn.sent env then (turn.offer env frame).setState env newState
  else (turn.offer env frame).awaitResponse env TWO_SECOND_TIMEOUT_MS

def updateDisconnected : Turn :=
  let reset := turn.map fun client =>
    { client with enableStatusMessage := false, shouldReuploadAfterDDOPDeletion := false }
  if turn.client.ddop.wasSupplied then reset.setState env .waitForStartUpDelay else reset

def selectLanguageCommandPartner : Turn :=
  turn.map fun client =>
    if client.server.serverVersion < SECOND_PUBLISHED_EDITION then
      { client with
        languageCommandInterface := { client.languageCommandInterface with
          myPartner := client.primaryVirtualTerminal } }
    else client

def sendStatusMessage : Turn :=
  if turn.sent env then
    ((turn.offer env turn.client.status).map fun client =>
      { client with
        enableStatusMessage := true
        statusMessageTimestamp := env.now }).setState env .requestVersion
  else (turn.offer env turn.client.status).awaitResponse env TWO_SECOND_TIMEOUT_MS

def requestLanguageCommand : Bool × Turn :=
  if turn.client.languageCommandInterface.initialized then
    (turn.sent env, turn.offer env turn.client.requestLanguageCommand)
  else (false, turn)

def requestLanguage : Turn :=
  let requested := turn.requestLanguageCommand env
  if requested.1 then
    (requested.2.setState env .waitForLanguageResponse).map fun client =>
      { client with languageCommandWaitingTimestamp := env.now }
  else requested.2.awaitResponse env SIX_SECOND_TIMEOUT_MS

/-- Without a response, another partner is asked: the virtual terminal, or everybody. -/
def waitForLanguageResponse : Turn :=
  let interface := turn.client.languageCommandInterface
  if env.now - interface.languageCommandTimestamp < TWO_SECOND_TIMEOUT_MS ∧
      interface.languageCode ≠ [] ∨
      env.timeExpired turn.client.languageCommandWaitingTimestamp SIX_SECOND_TIMEOUT_MS then
    turn.setState env .processDDOP
  else if turn.expired env TWO_SECOND_TIMEOUT_MS ∧ interface.myPartner.isSome then
    ((turn.map fun client =>
      { client with
        languageCommandInterface := { interface with
          myPartner := client.primaryVirtualTerminal } }).requestLanguageCommand env).2.map
      fun client => { client with stateMachineTimestamp := env.now }
  else turn

/-- The binary pool is generated only if there is none. -/
def processObjectDDOP : Option Turn := do
  let pool ← turn.client.ddop.clientDDOP
  if UInt16.ofNat pool.objectList.length = 0 then none
  else
    let lowered := SuppliedDDOP.lowerTo turn.client.server.serverVersion pool
    let supplied := { turn.client.ddop with clientDDOP := some lowered }
    let known := turn.map fun client => { client with ddop := supplied }
    if supplied.generatedBinaryDDOP ≠ [] then return known.setState env .requestStructureLabel
    else
      match lowered.generateBinaryObjectPool with
      | none => return known.terminate
      | some binary =>
        let labelled ← { supplied with generatedBinaryDDOP := binary }.processLabelsFromDdop
        return (turn.map fun client =>
          { client with
            ddop := labelled
            previousStructureLabel := labelled.ddopStructureLabel }).setState env
          .requestStructureLabel

def processBinaryDDOP : Option Turn := do
  if turn.client.ddop.ddopStructureLabel = [] then
    let labelled ← turn.client.ddop.processLabelsFromDdop
    let known := turn.map fun client => { client with ddop := labelled }
    return (if labelled.ddopStructureLabel = [] then known.terminate else known).setState env
      .requestStructureLabel
  else return turn.setState env .requestStructureLabel

def processDDOP : Option Turn :=
  if turn.client.ddop.ddopUploadMode = .programaticallyGenerated then turn.processObjectDDOP env
  else turn.processBinaryDDOP env

def transferLength : Option UInt32 :=
  match turn.client.ddop.ddopUploadMode with
  | .programaticallyGenerated =>
    some (UInt32.ofNat (turn.client.ddop.generatedBinaryDDOP.length + 1))
  | .userProvidedBinaryPointer => some (turn.client.ddop.userSuppliedBinaryDDOPSize + 1)
  | .userProvidedVector => turn.client.ddop.userSuppliedVectorDDOP.map fun binaryDDOP =>
    UInt32.ofNat (binaryDDOP.length + 1)

def beginTransferDDOP : Option Turn := do
  let dataLength ← turn.transferLength
  if dataLength = 0 then none
  else
    let requested := turn.emit (.transfer dataLength (turn.sent env))
    return if turn.sent env then requested.setState env .waitForDDOPTransfer
      else requested.awaitResponse env TWO_SECOND_TIMEOUT_MS

def updateConnected : Turn :=
  if env.timeExpired turn.client.serverStatusMessageTimestamp SIX_SECOND_TIMEOUT_MS then
    turn.setState env .disconnected
  else (turn.processQueuedCommands env).processQueuedThresholdCommands env

def deactivateObjectPool : Turn :=
  let offered := turn.offer env turn.client.objectPoolDeactivate
  if turn.sent env then offered.setState env .waitForObjectPoolDeactivateResponse
  else if turn.expired env TWO_SECOND_TIMEOUT_MS then (offered.setState env .disconnected).terminate
  else offered

def waitForObjectPoolDeactivateResponse : Turn :=
  if turn.expired env TWO_SECOND_TIMEOUT_MS then
    if turn.client.shouldReuploadAfterDDOPDeletion then
      (turn.map fun client => { client with shouldReuploadAfterDDOPDeletion := false }).setState env
        .processDDOP
    else (turn.setState env .disconnected).terminate
  else turn

def processState : Option Turn :=
  match turn.client.currentState with
  | .disconnected => some (turn.updateDisconnected env)
  | .waitForStartUpDelay =>
    some (if turn.expired env SIX_SECOND_TIMEOUT_MS then
      turn.setState env .waitForServerStatusMessage else turn)
  | .sendWorkingSetMaster =>
    some (turn.attempt env turn.client.workingSetMaster .sendStatusMessage)
  | .sendStatusMessage => some (turn.sendStatusMessage env)
  | .requestVersion =>
    some (turn.attempt env turn.client.versionRequest .waitForRequestVersionResponse)
  | .waitForRequestVersionFromServer =>
    some (if turn.expired env SIX_SECOND_TIMEOUT_MS then
      turn.selectLanguageCommandPartner.setState env .requestLanguage else turn)
  | .sendRequestVersionResponse =>
    some (if turn.sent env then
      (turn.offer env
          turn.client.requestVersionResponse).selectLanguageCommandPartner.setState env
        .requestLanguage
    else (turn.offer env turn.client.requestVersionResponse).awaitResponse env
      TWO_SECOND_TIMEOUT_MS)
  | .requestLanguage => some (turn.requestLanguage env)
  | .waitForLanguageResponse => some (turn.waitForLanguageResponse env)
  | .processDDOP => turn.processDDOP env
  | .requestStructureLabel =>
    some (turn.attempt env turn.client.requestStructureLabel .waitForStructureLabelResponse)
  | .requestLocalizationLabel =>
    some (turn.attempt env turn.client.requestLocalizationLabel .waitForLocalizationLabelResponse)
  | .sendDeleteObjectPool =>
    some (turn.attempt env turn.client.deleteObjectPool .waitForDeleteObjectPoolResponse)
  | .sendRequestTransferObjectPool =>
    some (turn.attempt env turn.client.requestObjectPoolTransfer
      .waitForRequestTransferObjectPoolResponse)
  | .beginTransferDDOP => turn.beginTransferDDOP env
  | .sendObjectPoolActivate =>
    some (turn.attempt env turn.client.objectPoolActivate .waitForObjectPoolActivateResponse)
  | .connected => some (turn.updateConnected env)
  | .deactivateObjectPool => some (turn.deactivateObjectPool env)
  | .waitForObjectPoolDeactivateResponse => some (turn.waitForObjectPoolDeactivateResponse env)
  | .waitForDDOPTransfer => some turn
  | .waitForServerStatusMessage => some turn
  | _ => some (turn.awaitResponse env TWO_SECOND_TIMEOUT_MS)

def sendStatusIfDue : Turn :=
  if turn.client.enableStatusMessage ∧
      env.timeExpired turn.client.statusMessageTimestamp TWO_SECOND_TIMEOUT_MS then
    if turn.sent env then
      (turn.offer env turn.client.status).map fun client =>
        { client with statusMessageTimestamp := env.now }
    else turn.offer env turn.client.status
  else turn

/-- It does not return where an assertion fails or a search does not end. -/
def update : Option Turn := do
  let prepared ← turn.processAllDefaultProcessDataRequests env
  return (← prepared.processState env).sendStatusIfDue env

def initializeClient : Turn :=
  (turn.emit .callbacksAdded).map fun client =>
    { client with
      languageCommandInterface := { client.languageCommandInterface with initialized := true }
      shouldTerminate := false
      initialized := true }

def restart : Turn := if turn.client.initialized then turn.setState env .disconnected else turn

/-- The device descriptor cannot be changed while the client is running. -/
def configure (ddop : DDOP) (options : ClientOptions) : Option Turn :=
  if turn.client.currentState = .disconnected then
    match ddop with
    | .pointer [] _ => none
    | _ => some (turn.map fun client =>
      { client with ddop := client.ddop.supply ddop, options := options })
  else some turn

def reuploadDeviceDescriptorObjectPool (ddop : DDOP) : Option Turn :=
  if turn.client.currentState = .connected then
    match ddop with
    | .pointer [] _ | .vector [] => none
    | _ => some (((turn.map fun client =>
      { client with
        ddop := client.ddop.supply ddop
        shouldReuploadAfterDDOPDeletion := true }).setState env .deactivateObjectPool).queue
      fun _ => {})
  else some turn

def setDistance (distance : UInt32) : Turn :=
  if distance = turn.client.totalMachineDistance then turn
  else
    let due (info : ProcessDataCallbackInfo) : Bool :=
      distance ≥ info.lastValue.toUInt32 + info.processDataValue.toUInt32
    (turn.map fun client => { client with totalMachineDistance := distance }).queue fun queues =>
      { queues with
        queuedValueRequests := queues.queuedValueRequests ++
          (queues.measurementDistanceIntervalCommands.filter due).map fun info =>
            { elementNumber := info.elementNumber, ddi := info.ddi }
        measurementDistanceIntervalCommands :=
          queues.measurementDistanceIntervalCommands.map fun info =>
            if due info then { info with lastValue := distance.toInt32 } else info }

def onValueChangedTrigger (elementNumber ddi : UInt16) : Turn :=
  turn.queue fun queues =>
    { queues with
      queuedValueRequests := queues.queuedValueRequests ++
        [{ elementNumber := elementNumber, ddi := ddi }] }

def requestTaskControllerIdentification : Turn :=
  turn.offer env
    { turn.client.genericProcessData IDENTIFY_TASK_CONTROLLER with destination := none }

end Turn

def SuppliedDDOP.chunkSource (supplied : SuppliedDDOP) : Option (List UInt8) :=
  if supplied.ddopUploadMode = .userProvidedBinaryPointer then supplied.userSuppliedBinaryDDOP
  else some supplied.generatedBinaryDDOP

/-- The first byte of a transfer is that of the message, and the bytes of the pool follow. -/
def chunkBytes (source : List UInt8) (bytesOffset numberOfBytesNeeded : UInt32) :
    Option (List UInt8) :=
  if bytesOffset = 0 then
    (readBytes source 0 (numberOfBytesNeeded.toNat - 1)).map (OBJECT_POOL_TRANSFER :: ·)
  else readBytes source (bytesOffset.toNat - 1) numberOfBytesNeeded.toNat

def Turn.processInternalObjectPoolUploadCallback (turn : Turn)
    (bytesOffset numberOfBytesNeeded : UInt32) : Option Turn :=
  let ddop := turn.client.ddop
  if numberOfBytesNeeded = 0 then none
  else if (bytesOffset + numberOfBytesNeeded).toNat ≤ ddop.generatedBinaryDDOP.length + 1 ∨
      bytesOffset + numberOfBytesNeeded ≤ ddop.userSuppliedBinaryDDOPSize + 1 then do
    let source ← ddop.chunkSource
    let bytes ← chunkBytes source bytesOffset numberOfBytesNeeded
    return turn.emit (.chunk bytesOffset numberOfBytesNeeded (some bytes))
  else some (turn.emit (.chunk bytesOffset numberOfBytesNeeded none))

inductive Call
  | initializeClient
  | terminate
  | restart
  | configure (ddop : DDOP) (options : ClientOptions)
  | reuploadDeviceDescriptorObjectPool (ddop : DDOP)
  | setDistance (distance : UInt32)
  | onValueChangedTrigger (elementNumber ddi : UInt16)
  | requestTaskControllerIdentification
  | update
  | receive (message : CANMessage)
  | processTxCallback (successful : Bool)
  | processInternalObjectPoolUploadCallback (bytesOffset numberOfBytesNeeded : UInt32)

structure Input where
  env : Environment
  call : Call

def Turn.serve (env : Environment) (turn : Turn) : Call → Option Turn
  | .initializeClient => some turn.initializeClient
  | .terminate => some turn.terminate
  | .restart => some (turn.restart env)
  | .configure ddop options => turn.configure ddop options
  | .reuploadDeviceDescriptorObjectPool ddop => turn.reuploadDeviceDescriptorObjectPool env ddop
  | .setDistance distance => some (turn.setDistance distance)
  | .onValueChangedTrigger elementNumber ddi => some (turn.onValueChangedTrigger elementNumber ddi)
  | .requestTaskControllerIdentification => some (turn.requestTaskControllerIdentification env)
  | .update => turn.update env
  | .receive message => some (turn.receive env message)
  | .processTxCallback successful => some (turn.processTxCallback env successful)
  | .processInternalObjectPoolUploadCallback bytesOffset numberOfBytesNeeded =>
    turn.processInternalObjectPoolUploadCallback bytesOffset numberOfBytesNeeded

def taskControllerClient : Machine (Option TaskControllerClient) Input Event where
  step state input :=
    match state with
    | none => (none, [])
    | some client =>
      match Turn.serve input.env ⟨client, []⟩ input.call with
      | none => (none, [])
      | some turn => (some turn.client, turn.events)

end Isobus.TaskClient
