import Isobus.Diagnostics.Sending

/-!
# The calls of the diagnostic protocol

Messages, requests, what the application asks for, and `DiagnosticProtocol::update`, as a machine.
-/

namespace Isobus.Diagnostics

open Isobus.Can Isobus.Lib

inductive StopStartCommand
  | stopBroadcast
  | startBroadcast
  | reserved
  | dontCareNoAction
  deriving DecidableEq

def StopStartCommand.ofBits : Nat → StopStartCommand
  | 0 => .stopBroadcast
  | 1 => .startBroadcast
  | 2 => .reserved
  | _ => .dontCareNoAction

/-- The two bits of a network, looked for in the first byte only. -/
def networkCommand (networkType : NetworkType) (message : CANMessage) : StopStartCommand :=
  let shift := DM13_BITS_PER_NETWORK * networkType.number
  .ofBits (((message.getUint8At 0).toNat &&& DM13_NETWORK_BITMASK <<< shift) >>> shift)

inductive SuspendSignalState
  | indefiniteSuspension
  | partialIndefiniteSuspension
  | temporarySuspension
  | partialTemporarySuspension
  | other
  deriving DecidableEq

def SuspendSignalState.ofByte (byte : UInt8) : SuspendSignalState :=
  match (byte &&& 0x0F).toNat with
  | 0 => .indefiniteSuspension
  | 1 => .partialIndefiniteSuspension
  | 2 => .temporarySuspension
  | 3 => .partialTemporarySuspension
  | _ => .other

namespace DiagnosticProtocol

variable (message : CANMessage)

/-- The duration of a suspension begins with the byte of the signal itself. -/
def stopBroadcast (protocol : DiagnosticProtocol) : DiagnosticProtocol :=
  let stopped := { protocol with broadcastState := false }
  match SuspendSignalState.ofByte (message.getUint8At 3) with
  | .temporarySuspension | .partialTemporarySuspension =>
    let suspensionTime := message.getUint16At 3
    { stopped with
      customDM13SuspensionTime :=
        if suspensionTime < MAX_DM13_CUSTOM_SUSPEND_TIME_MS then suspensionTime else 0 }
  | .indefiniteSuspension | .partialIndefiniteSuspension =>
    { stopped with customDM13SuspensionTime := 0 }
  | .other => stopped

def obeyNetworkCommand (protocol : DiagnosticProtocol) : DiagnosticProtocol :=
  match networkCommand protocol.networkType message with
  | .stopBroadcast => protocol.stopBroadcast message
  | .startBroadcast => { protocol with broadcastState := true }
  | _ => protocol

def obeyCurrentDataLinkCommand (protocol : DiagnosticProtocol) : DiagnosticProtocol :=
  match networkCommand .currentDataLink message with
  | .stopBroadcast => protocol.stopBroadcast message
  | .startBroadcast => { protocol with broadcastState := true, customDM13SuspensionTime := 0 }
  | _ => protocol

/-- `parse_j1939_network_states` and the timestamp behind it, whomever the message commands. -/
def processDiagnosticMessage13 (env : Environment) (protocol : DiagnosticProtocol) :
    DiagnosticProtocol :=
  if message.data.length = CAN_DATA_LENGTH then
    { (protocol.obeyNetworkCommand message).obeyCurrentDataLinkCommand message with
      lastDM13ReceivedTimestamp := env.now }
  else protocol

theorem exists_stopBroadcast (protocol : DiagnosticProtocol) :
    ∃ broadcastState suspensionTime, protocol.stopBroadcast message =
      { protocol with
        broadcastState := broadcastState
        customDM13SuspensionTime := suspensionTime } := by
  rw [stopBroadcast]
  cases SuspendSignalState.ofByte (message.getUint8At 3) <;> exact ⟨_, _, rfl⟩

theorem exists_obeyNetworkCommand (protocol : DiagnosticProtocol) :
    ∃ broadcastState suspensionTime, protocol.obeyNetworkCommand message =
      { protocol with
        broadcastState := broadcastState
        customDM13SuspensionTime := suspensionTime } := by
  rw [obeyNetworkCommand]
  cases networkCommand protocol.networkType message with
  | stopBroadcast => exact protocol.exists_stopBroadcast message
  | startBroadcast => exact ⟨_, _, rfl⟩
  | reserved => exact ⟨_, _, rfl⟩
  | dontCareNoAction => exact ⟨_, _, rfl⟩

theorem exists_obeyCurrentDataLinkCommand (protocol : DiagnosticProtocol) :
    ∃ broadcastState suspensionTime, protocol.obeyCurrentDataLinkCommand message =
      { protocol with
        broadcastState := broadcastState
        customDM13SuspensionTime := suspensionTime } := by
  rw [obeyCurrentDataLinkCommand]
  cases networkCommand .currentDataLink message with
  | stopBroadcast => exact protocol.exists_stopBroadcast message
  | startBroadcast => exact ⟨_, _, rfl⟩
  | reserved => exact ⟨_, _, rfl⟩
  | dontCareNoAction => exact ⟨_, _, rfl⟩

theorem exists_processDiagnosticMessage13 (env : Environment) (protocol : DiagnosticProtocol) :
    ∃ broadcastState suspensionTime timestamp, protocol.processDiagnosticMessage13 message env =
      { protocol with
        broadcastState := broadcastState
        customDM13SuspensionTime := suspensionTime
        lastDM13ReceivedTimestamp := timestamp } := by
  rw [processDiagnosticMessage13]
  split_ifs
  · obtain ⟨_, _, hnetwork⟩ := protocol.exists_obeyNetworkCommand message
    obtain ⟨_, _, hlink⟩ := exists_obeyCurrentDataLinkCommand message
      (protocol.obeyNetworkCommand message)
    rw [hlink, hnetwork]
    exact ⟨_, _, _, rfl⟩
  · exact ⟨_, _, _, rfl⟩

def REQUEST_TO_CLEAR_PREVIOUSLY_ACTIVE_DTC : UInt8 := 0x01
def REQUEST_TO_CLEAR_ACTIVE_DTC : UInt8 := 0x11
def UNKNOWN_OR_DOES_NOT_EXIST : UInt8 := 0x02
def DTC_NO_LONGER_PREVIOUSLY_ACTIVE : UInt8 := 0x03
def DTC_NO_LONGER_ACTIVE : UInt8 := 0x04

def requestedParameterNumber : UInt32 :=
  (message.getUint8At 5).toUInt32 ||| (message.getUint8At 6).toUInt32 <<< 8 |||
    ((message.getUint8At 7 &&& 0xE0) >>> 5).toUInt32 <<< 16

def requestedFailureMode : UInt8 := message.getUint8At 7 &&& 0x1F

def isRequested (dtc : DiagnosticTroubleCode) : Bool :=
  dtc.isNamed (requestedParameterNumber message) (requestedFailureMode message)

def queueDm22Response (clearActive nack : Bool) (nackIndicator : UInt8)
    (protocol : DiagnosticProtocol) : DiagnosticProtocol :=
  let response : DM22Data :=
    { destination := message.source
      suspectParameterNumber := requestedParameterNumber message
      failureModeIdentifier := requestedFailureMode message
      nackIndicator := nackIndicator
      clearActive := clearActive
      nack := nack }
  { protocol.setFlag .dm22 with
    dm22ResponseQueue := protocol.dm22ResponseQueue ++ [response] }

/-- The first code that the request names becomes inactive. -/
def requestToClearActive (protocol : DiagnosticProtocol) : DiagnosticProtocol :=
  match protocol.activeDTCList.find? (isRequested message) with
  | some dtc =>
    let moved := { protocol with
      inactiveDTCList := protocol.inactiveDTCList ++ [dtc]
      activeDTCList := protocol.activeDTCList.eraseP (isRequested message) }
    moved.queueDm22Response message true false 0
  | none =>
    protocol.queueDm22Response message true true
      (if protocol.inactiveDTCList.any (isRequested message) then DTC_NO_LONGER_ACTIVE
      else UNKNOWN_OR_DOES_NOT_EXIST)

def requestToClearPreviouslyActive (protocol : DiagnosticProtocol) : DiagnosticProtocol :=
  if protocol.inactiveDTCList.any (isRequested message) then
    let removed := { protocol with
      inactiveDTCList := protocol.inactiveDTCList.eraseP (isRequested message) }
    removed.queueDm22Response message false false 0
  else
    protocol.queueDm22Response message false true
      (if protocol.activeDTCList.any (isRequested message) then DTC_NO_LONGER_PREVIOUSLY_ACTIVE
      else UNKNOWN_OR_DOES_NOT_EXIST)

def processDiagnosticMessage22 (protocol : DiagnosticProtocol) : DiagnosticProtocol :=
  if message.data.length = CAN_DATA_LENGTH then
    if message.getUint8At 0 = REQUEST_TO_CLEAR_ACTIVE_DTC then
      protocol.requestToClearActive message
    else if message.getUint8At 0 = REQUEST_TO_CLEAR_PREVIOUSLY_ACTIVE_DTC then
      protocol.requestToClearPreviouslyActive message
    else protocol
  else protocol

def isAddressed (protocol : DiagnosticProtocol) : Bool :=
  (message.destination = none &&
      message.identifier.getDestinationAddress = BROADCAST_CAN_ADDRESS) ||
    message.destination = some protocol.myControlFunction

def processMessage (env : Environment) (protocol : DiagnosticProtocol) : DiagnosticProtocol :=
  if protocol.isAddressed message then
    if message.identifier.getParameterGroupNumber = DIAGNOSTIC_MESSAGE_13 then
      protocol.processDiagnosticMessage13 message env
    else if message.identifier.getParameterGroupNumber = DIAGNOSTIC_MESSAGE_22 then
      protocol.processDiagnosticMessage22 message
    else protocol
  else protocol

/-- What becomes of a request: whether it was handled, and whether it is acknowledged. -/
structure RequestOutcome where
  handled : Bool
  acknowledge : Bool := false
  positive : Bool := false
  deriving DecidableEq

def processParameterGroupNumberRequest (parameterGroupNumber : UInt32)
    (requestingControlFunction : Option CFRef) (protocol : DiagnosticProtocol) :
    DiagnosticProtocol × RequestOutcome :=
  match requestingControlFunction with
  | none => (protocol, { handled := false })
  | some requester =>
    if parameterGroupNumber = DIAGNOSTIC_MESSAGE_1 then
      (protocol.setFlag .dm1, { handled := true })
    else if parameterGroupNumber = DIAGNOSTIC_MESSAGE_2 then
      (protocol.setFlag .dm2, { handled := true })
    else if parameterGroupNumber = DIAGNOSTIC_MESSAGE_3 then
      (protocol.clearInactiveDiagnosticTroubleCodes,
        { handled := true, acknowledge := true, positive := true })
    else if parameterGroupNumber = DIAGNOSTIC_MESSAGE_11 then
      (protocol.clearActiveDiagnosticTroubleCodes,
        { handled := true, acknowledge := true, positive := true })
    else if parameterGroupNumber = PRODUCT_IDENTIFICATION then
      ((protocol.insertRequest parameterGroupNumber requester).setFlag .productIdentification,
        { handled := true })
    else if parameterGroupNumber = DIAGNOSTIC_PROTOCOL_IDENTIFICATION then
      (protocol.setFlag .diagnosticProtocolID, { handled := true })
    else if parameterGroupNumber = SOFTWARE_IDENTIFICATION then
      ((protocol.insertRequest parameterGroupNumber requester).setFlag .softwareIdentification,
        { handled := true })
    else if parameterGroupNumber = ECU_IDENTIFICATION_INFORMATION then
      ((protocol.insertRequest parameterGroupNumber requester).setFlag .ecuIdentification,
        { handled := true })
    else (protocol, { handled := false })

def setSoftwareIdField (index : Nat) (value : List UInt8) (protocol : DiagnosticProtocol) :
    DiagnosticProtocol :=
  let fields := protocol.softwareIdentificationFields
  { protocol with
    softwareIdentificationFields :=
      (fields ++ List.replicate (index + 1 - fields.length) []).set index value }

/-- A text about the product replaces the one before if it has less than fifty characters. -/
def chooseText (value current : List UInt8) : List UInt8 :=
  if value.length < PRODUCT_IDENTIFICATION_MAX_STRING_LENGTH then value else current

def setProductIdentificationCode (value : List UInt8) (protocol : DiagnosticProtocol) :
    DiagnosticProtocol :=
  { protocol with
    productIdentificationCode := chooseText value protocol.productIdentificationCode }

def setProductIdentificationBrand (value : List UInt8) (protocol : DiagnosticProtocol) :
    DiagnosticProtocol :=
  { protocol with
    productIdentificationBrand := chooseText value protocol.productIdentificationBrand }

def setProductIdentificationModel (value : List UInt8) (protocol : DiagnosticProtocol) :
    DiagnosticProtocol :=
  { protocol with
    productIdentificationModel := chooseText value protocol.productIdentificationModel }

def setEcuIdField (field : Nat) (value : List UInt8) (protocol : DiagnosticProtocol) :
    DiagnosticProtocol × List Event :=
  if field ≤ 6 then
    ({ protocol with
        ecuIdentificationFields :=
            protocol.ecuIdentificationFields.set field (value ++ [ASTERISK]) },
      if field = 6 then [.outOfBounds] else [])
  else (protocol, [])

end DiagnosticProtocol

namespace Turn

variable (env : Environment) (turn : Turn)

def dm13AnnounceSuspension (suspendTime : UInt16) : TransmitFrame :=
  turn.protocol.frame DIAGNOSTIC_MESSAGE_13
    [0xFF, 0xFF, 0xFF, 0xFF, byteOf suspendTime.toUInt32 0, byteOf suspendTime.toUInt32 1, 0xFF,
      0xFF] none

def suspendBroadcasts (suspendTime : UInt16) : Turn :=
  (turn.map fun protocol =>
    { protocol with
      broadcastState := false
      lastDM13ReceivedTimestamp := env.now
      customDM13SuspensionTime :=
        if protocol.customDM13SuspensionTime < MAX_DM13_CUSTOM_SUSPEND_TIME_MS then suspendTime
        else protocol.customDM13SuspensionTime }).offer env
            (turn.dm13AnnounceSuspension suspendTime)

end Turn

namespace DiagnosticProtocol

variable (env : Environment) (protocol : DiagnosticProtocol)

def resumeBroadcasts : DiagnosticProtocol :=
  if protocol.customDM13SuspensionTime ≠ 0 then
    if env.timeExpired protocol.lastDM13ReceivedTimestamp
        protocol.customDM13SuspensionTime.toUInt32 then
      { protocol with broadcastState := true, customDM13SuspensionTime := 0 }
    else protocol
  else if env.timeExpired protocol.lastDM13ReceivedTimestamp DM13_TIMEOUT_MS then
    { protocol with broadcastState := true }
  else protocol

/-- Without an active code there is no cyclic DM1 in ISO 11783 mode. -/
def scheduleDM1 : DiagnosticProtocol :=
  if protocol.broadcastState ∧ (protocol.j1939Mode ∨ protocol.activeDTCList ≠ []) ∧
      env.timeExpired protocol.lastDM1SentTimestamp DM_MAX_FREQUENCY_MS then
    { protocol.setFlag .dm1 with lastDM1SentTimestamp := env.now }
  else protocol

end DiagnosticProtocol

def Turn.update (env : Environment) (turn : Turn) : Turn :=
  (turn.map fun protocol => (protocol.resumeBroadcasts env).scheduleDM1 env).processAllFlags env

inductive Call
  | update
  | setJ1939Mode (value : Bool)
  | clearActiveDiagnosticTroubleCodes
  | clearInactiveDiagnosticTroubleCodes
  | setDiagnosticTroubleCodeActive (dtc : DiagnosticTroubleCode) (active : Bool)
  | onAddressViolation (address : UInt8)
  | processMessage (message : CANMessage)
  | processParameterGroupNumberRequest (parameterGroupNumber : UInt32)
      (requestingControlFunction : Option CFRef)
  | suspendBroadcasts (suspendTime : UInt16)
  | setEcuIdField (field : Nat) (value : List UInt8)
  | setProductIdentificationCode (value : List UInt8)
  | setProductIdentificationBrand (value : List UInt8)
  | setProductIdentificationModel (value : List UInt8)
  | setSoftwareIdField (index : Nat) (value : List UInt8)
  | clearSoftwareIdFields

structure Input where
  env : Environment
  call : Call

def DiagnosticProtocol.serve (protocol : DiagnosticProtocol) (env : Environment) : Call → Turn
  | .update => Turn.update env ⟨protocol, []⟩
  | .setJ1939Mode value => ⟨{ protocol with j1939Mode := value }, []⟩
  | .clearActiveDiagnosticTroubleCodes => ⟨protocol.clearActiveDiagnosticTroubleCodes, []⟩
  | .clearInactiveDiagnosticTroubleCodes => ⟨protocol.clearInactiveDiagnosticTroubleCodes, []⟩
  | .setDiagnosticTroubleCodeActive dtc active =>
    ⟨protocol.setDiagnosticTroubleCodeActive env dtc active, []⟩
  | .onAddressViolation address => ⟨protocol.onAddressViolation env address, []⟩
  | .processMessage message => ⟨protocol.processMessage message env, []⟩
  | .processParameterGroupNumberRequest parameterGroupNumber requestingControlFunction =>
    ⟨(protocol.processParameterGroupNumberRequest parameterGroupNumber
      requestingControlFunction).1, []⟩
  | .suspendBroadcasts suspendTime => Turn.suspendBroadcasts env ⟨protocol, []⟩ suspendTime
  | .setEcuIdField field value =>
    ⟨(protocol.setEcuIdField field value).1, (protocol.setEcuIdField field value).2⟩
  | .setProductIdentificationCode value => ⟨protocol.setProductIdentificationCode value, []⟩
  | .setProductIdentificationBrand value => ⟨protocol.setProductIdentificationBrand value, []⟩
  | .setProductIdentificationModel value => ⟨protocol.setProductIdentificationModel value, []⟩
  | .setSoftwareIdField index value => ⟨protocol.setSoftwareIdField index value, []⟩
  | .clearSoftwareIdFields => ⟨{ protocol with softwareIdentificationFields := [] }, []⟩

def diagnosticProtocol : Machine DiagnosticProtocol Input Event where
  step protocol input :=
    ((protocol.serve input.env input.call).protocol, (protocol.serve input.env input.call).events)

end Isobus.Diagnostics
