import Isobus.TaskClient.Client

/-!
# What the task controller client is told

`TaskControllerClient::process_rx_message`, `process_tx_callback` and the answers to the
chunk requests of a pool transfer.
-/

namespace Isobus.TaskClient

open Isobus.Can Isobus.Lib Isobus.DeviceDescriptor Isobus.NetworkManager

def PROCESS_RX_MESSAGE : CallbackRef := 0
def PROCESS_LANGUAGE_COMMAND : CallbackRef := 1

def NEGATIVE_ACKNOWLEDGEMENT : UInt8 := 1

def subcommand (message : CANMessage) : UInt8 := message.getUint8At 0 >>> 4

def processDataInfo (message : CANMessage) : ProcessDataCallbackInfo where
  processDataValue := (message.getUint32At 4).toInt32
  elementNumber := (message.getUint8At 0 >>> 4).toUInt16 ||| (message.getUint8At 1).toUInt16 <<< 4
  ddi := message.getUint16At 2

/-- The server has no label of the client. -/
def hasNoLabel (message : CANMessage) : Bool :=
  message.data.drop 1 = List.replicate 7 0xFF

namespace Turn

variable (env : Environment) (message : CANMessage) (turn : Turn)

def advance (expected newState : StateMachineState) : Turn :=
  if turn.client.currentState = expected then turn.setState env newState else turn

def processAcknowledge : Turn :=
  if message.getUint8At 0 = NEGATIVE_ACKNOWLEDGEMENT ∧ message.getUint24At 5 = PROCESS_DATA then
    turn.setState env .disconnected
  else turn

def storeVersion : Turn :=
  turn.map fun client =>
    { client with
      server := { client.server with
        serverVersion := message.getUint8At 1
        maxServerBootTime := message.getUint8At 2
        serverOptionsByte1 := message.getUint8At 3
        serverOptionsByte2 := message.getUint8At 4
        serverNumberOfBoomsForSectionControl := message.getUint8At 5
        serverNumberOfSectionsForSectionControl := message.getUint8At 6
        serverNumberOfChannelsForPositionBasedControl := message.getUint8At 7 } }

def processTechnicalCapabilities : Turn :=
  if subcommand message = 0 then
    turn.advance env .waitForRequestVersionFromServer .sendRequestVersionResponse
  else if subcommand message = 1 then
    (turn.storeVersion message).advance env .waitForRequestVersionResponse
      .waitForRequestVersionFromServer
  else turn

def processStructureLabel : Turn :=
  turn.advance env .waitForStructureLabelResponse
    (if hasNoLabel message then .sendRequestTransferObjectPool
    else if turn.client.ddop.ddopStructureLabel = message.data.drop 1 then .requestLocalizationLabel
    else .sendDeleteObjectPool)

def processLocalizationLabel : Turn :=
  turn.advance env .waitForLocalizationLabelResponse
    (if hasNoLabel message then .sendRequestTransferObjectPool
    else if (message.data.drop 1).take 7 = turn.client.ddop.ddopLocalizationLabel.val then
      .sendObjectPoolActivate
    else .sendDeleteObjectPool)

/-- Go on after a response without an error, and stop after another one. -/
def proceed (expected newState : StateMachineState) : Turn :=
  if turn.client.currentState = expected then
    if message.getUint8At 1 = 0 then turn.setState env newState else turn.terminate
  else turn

def processActivateDeactivateResponse : Turn :=
  if turn.client.currentState = .waitForObjectPoolActivateResponse then
    if message.getUint8At 1 = 0 then turn.setState env .connected
    else (turn.setState env .disconnected).terminate
  else if turn.client.currentState = .waitForObjectPoolDeactivateResponse ∧
      message.getUint8At 1 = 0 ∧ turn.client.shouldReuploadAfterDDOPDeletion then
    turn.setState env .sendDeleteObjectPool
  else turn

def processDeviceDescriptor : Turn :=
  match (subcommand message).toNat with
  | 1 => turn.processStructureLabel env message
  | 3 => turn.processLocalizationLabel env message
  | 5 => turn.proceed env message .waitForRequestTransferObjectPoolResponse .beginTransferDDOP
  | 7 => turn.proceed env message .waitForObjectPoolTransferResponse .sendObjectPoolActivate
  | 9 => turn.processActivateDeactivateResponse env message
  | 11 => turn.advance env .waitForDeleteObjectPoolResponse .sendRequestTransferObjectPool
  | _ => turn

def storeStatus : Turn :=
  turn.map fun client =>
    { client with
      server := { client.server with
        tcStatusBitfield := message.getUint8At 4
        sourceAddressOfCommandBeingExecuted := message.getUint8At 5
        commandBeingExecuted := message.getUint8At 6 }
      serverStatusMessageTimestamp := env.now }

def processStatusMessage (source : CFRef) : Turn :=
  if env.nm.name turn.client.partnerControlFunction = env.nm.name source then
    (turn.storeStatus env message).advance env .waitForServerStatusMessage .sendWorkingSetMaster
  else turn

def queue (change : Queues → Queues) : Turn :=
  turn.map fun client => { client with queues := change client.queues }

def processRequestValue : Turn :=
  let info := processDataInfo message
  let queued := turn.queue fun queues =>
    { queues with queuedValueRequests := queues.queuedValueRequests ++ [info] }
  if info.ddi = REQUEST_DEFAULT_PROCESS_DATA ∧ info.elementNumber = 0 then
    queued.map fun client => { client with shouldProcessAllDefaultProcessDataRequests := true }
  else queued

def processValue (ackRequested : Bool) : Turn :=
  turn.queue fun queues =>
    { queues with
      queuedValueCommands :=
        queues.queuedValueCommands ++
            [{ processDataInfo message with ackRequested := ackRequested }] }

def processProcessData (source : CFRef) : Turn :=
  let info := processDataInfo message
  match ProcessDataCommands.ofByte (message.getUint8At 0) with
  | .technicalCapabilities => turn.processTechnicalCapabilities env message
  | .deviceDescriptor => turn.processDeviceDescriptor env message
  | .statusMessage => turn.processStatusMessage env message source
  | .requestValue => turn.processRequestValue message
  | .value => turn.processValue message false
  | .setValueAndAcknowledge => turn.processValue message true
  | .measurementTimeInterval =>
    turn.queue (.addMeasurementTimeInterval { info with lastValue := env.now.toInt32 })
  | .measurementMaximumWithinThreshold => turn.queue (.addMeasurementMaximumThreshold info)
  | .measurementMinimumWithinThreshold => turn.queue (.addMeasurementMinimumThreshold info)
  | .measurementChangeThreshold => turn.queue (.addMeasurementChangeThreshold info)
  | .measurementDistanceInterval => turn.queue (.addMeasurementDistanceInterval info)
  | _ => turn

def processRxMessage : Turn :=
  match message.source with
  | none => turn
  | some source =>
    if CAN_DATA_LENGTH ≤ message.data.length then
      if message.identifier.getParameterGroupNumber = ACKNOWLEDGE then
        turn.processAcknowledge env message
      else if message.identifier.getParameterGroupNumber = PROCESS_DATA then
        turn.processProcessData env message source
      else turn
    else turn

/-- `LanguageCommandInterface::process_rx_message`; there is always a partner where it is called. -/
def processLanguageCommand : Turn :=
  turn.map fun client =>
    let interface := client.languageCommandInterface
    if CAN_DATA_LENGTH ≤ message.data.length ∧
        message.identifier.getParameterGroupNumber = LANGUAGE_COMMAND ∧
        interface.myPartner.all fun partner => message.source.any fun source =>
          env.nm.name source = env.nm.name partner then
      { client with
        languageCommandInterface := { interface with
          languageCommandTimestamp := env.now
          languageCode := [message.getUint8At 0, message.getUint8At 1] } }
    else client

def processTxCallback (successful : Bool) : Turn :=
  turn.advance env .waitForDDOPTransfer
    (if successful then .waitForObjectPoolTransferResponse else .disconnected)

def callEntry (turn : Turn) (entry : ParameterGroupNumberCallbackData) : Turn :=
  if entry.parent = turn.client.this then
    if entry.callback = some PROCESS_RX_MESSAGE then turn.processRxMessage env message
    else if entry.callback = some PROCESS_LANGUAGE_COMMAND then
      turn.processLanguageCommand env message
    else turn
  else turn

/-- The entries that the network manager finds for the message are called one by one. -/
def receive : Turn :=
  (env.nm.globalAndPartnerCallbacks message).foldl (callEntry env message) turn

end Turn

end Isobus.TaskClient
