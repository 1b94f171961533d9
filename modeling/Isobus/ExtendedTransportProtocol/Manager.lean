import Isobus.ExtendedTransportProtocol.Session
import Isobus.Lib.Machine

/-!
# The extended transport protocol manager

`ExtendedTransportProtocolManager`, as a machine whose inputs are the calls it serves.
-/

namespace Isobus.ExtendedTransportProtocol

open Isobus.Can Isobus.Lib

abbrev ActiveSessions := KeyedTable SessionKey ExtendedTransportProtocolSession

abbrev Reply := ActiveSessions × List Event

def receiveSession (parameterGroupNumber totalMessageSize : UInt32)
    (clearToSendPacketCountLimit : UInt8) : ExtendedTransportProtocolSession where
  direction := .receive
  parameterGroupNumber := parameterGroupNumber
  data := List.replicate totalMessageSize.toNat 0
  totalMessageSize := totalMessageSize
  clearToSendPacketCountLimit := clearToSendPacketCountLimit
  data_length := List.length_replicate

def transmitSession (request : TransmitRequest)
    (h : request.data.length ≤ MAX_PROTOCOL_DATA_LENGTH) : ExtendedTransportProtocolSession where
  direction := .transmit
  parameterGroupNumber := request.parameterGroupNumber
  data := request.data
  sessionCompleteCallback := request.sessionCompleteCallback
  parent := request.parentPointer
  totalMessageSize := UInt32.ofNat request.data.length
  data_length := by
    have hsize : request.data.length < 2 ^ 32 := Nat.lt_of_le_of_lt h (by decide)
    exact (UInt32.toNat_ofNat_of_lt hsize).symm

variable (config : CANNetworkConfiguration) (env : Environment)

def sessionsFull (sessions : ActiveSessions) : Bool :=
  sessions.size ≥ config.maxNumberTransportProtocolSessions.toNat

def openSession (key : SessionKey) (session : ExtendedTransportProtocolSession)
    (sessions : ActiveSessions) : Reply :=
  (sessions.push key session).dispatch key (·.updateStateMachine config env key)

/-- Any announced length is taken. -/
def processRequestToSend (source destination : CFRef)
    (parameterGroupNumber totalMessageSize : UInt32) (sessions : ActiveSessions) : Reply :=
  if sessionsFull config sessions then
    (sessions, [ExtendedTransportProtocolSession.sendAbort env destination source
      parameterGroupNumber .alreadyInCMSession])
  else
    let key : SessionKey := ⟨source, some destination⟩
    let closed := sessions.dispatch key fun old =>
      if old.parameterGroupNumber ≠ parameterGroupNumber then
        old.abortSession env key .alreadyInCMSession
      else old.closeSession key false
    let newSession := receiveSession parameterGroupNumber totalMessageSize
      config.numberOfPacketsPerDPOMessage
    let opened := openSession config env key (newSession.setState env.now .sendClearToSend)
      closed.1
    (opened.1, closed.2 ++ opened.2)

def processClearToSend (source destination : CFRef) (parameterGroupNumber : UInt32)
    (packetsToBeSent : UInt8) (nextPacketNumber : UInt32) (sessions : ActiveSessions) : Reply :=
  let key : SessionKey := ⟨destination, some source⟩
  sessions.dispatch key fun session =>
    if session.parameterGroupNumber ≠ parameterGroupNumber then
      let aborted := session.abortSession env key .clearToSendReceivedWhileTransferInProgress
      (aborted.1, aborted.2 ++ [ExtendedTransportProtocolSession.sendAbort env destination source
        parameterGroupNumber .clearToSendReceivedWhileTransferInProgress])
    else session.receiveClearToSend env key packetsToBeSent nextPacketNumber

def processDataPacketOffset (source destination : CFRef) (parameterGroupNumber : UInt32)
    (numberOfPackets : UInt8) (packetOffset : UInt32) (sessions : ActiveSessions) : Reply :=
  let key : SessionKey := ⟨source, some destination⟩
  sessions.dispatch key fun session =>
    if session.parameterGroupNumber ≠ parameterGroupNumber then
      let aborted := session.abortSession env key .unexpectedDataPacketOffsetPGN
      (aborted.1, aborted.2 ++ [ExtendedTransportProtocolSession.sendAbort env destination source
        parameterGroupNumber .unexpectedDataPacketOffsetPGN])
    else session.receiveDataPacketOffset env key numberOfPackets packetOffset

def processEndOfSessionAcknowledgement (source destination : CFRef)
    (numberOfBytesTransferred : UInt32) (sessions : ActiveSessions) : Reply :=
  let key : SessionKey := ⟨destination, some source⟩
  sessions.dispatch key (·.receiveEndOfMessageAcknowledge key numberOfBytesTransferred)

/-- Both directions between the two parties are looked at, one after the other. -/
def processAbort (source destination : CFRef) (parameterGroupNumber : UInt32)
    (sessions : ActiveSessions) : Reply :=
  let close (key : SessionKey) (session : ExtendedTransportProtocolSession) : Outcome :=
    if session.parameterGroupNumber = parameterGroupNumber then session.closeSession key false
    else (some session, [])
  let first := sessions.dispatch ⟨source, some destination⟩ (close ⟨source, some destination⟩)
  let second := first.1.dispatch ⟨destination, some source⟩ (close ⟨destination, some source⟩)
  (second.1, first.2 ++ second.2)

def processConnectionManagementMessage (source destination : CFRef) (message : CANMessage)
    (sessions : ActiveSessions) : Reply :=
  if CAN_DATA_LENGTH ≠ message.data.length then (sessions, [])
  else
    let parameterGroupNumber := message.getUint24At 5
    let multiplexor := message.getUint8At 0
    if multiplexor = REQUEST_TO_SEND_MULTIPLEXOR then
      processRequestToSend config env source destination parameterGroupNumber
        (message.getUint32At 1) sessions
    else if multiplexor = CLEAR_TO_SEND_MULTIPLEXOR then
      processClearToSend env source destination parameterGroupNumber (message.getUint8At 1)
        (message.getUint24At 2) sessions
    else if multiplexor = DATA_PACKET_OFFSET_MULTIPLXOR then
      processDataPacketOffset env source destination parameterGroupNumber (message.getUint8At 1)
        (message.getUint24At 2) sessions
    else if multiplexor = END_OF_MESSAGE_ACKNOWLEDGE_MULTIPLEXOR then
      processEndOfSessionAcknowledgement source destination (message.getUint32At 1) sessions
    else if multiplexor = CONNECTION_ABORT_MULTIPLEXOR then
      processAbort source destination parameterGroupNumber sessions
    else (sessions, [])

def processDataTransferMessage (source destination : CFRef) (message : CANMessage)
    (sessions : ActiveSessions) : Reply :=
  if CAN_DATA_LENGTH ≠ message.data.length then (sessions, [])
  else
    let key : SessionKey := ⟨source, some destination⟩
    sessions.dispatch key (·.receiveDataTransfer config env key message)

def processMessage (message : CANMessage) (sessions : ActiveSessions) : Reply :=
  match message.source, message.destination with
  | some source, some destination =>
    if message.hasValidSourceControlFunction env.world &&
        message.isDestinationOurDevice env.world then
      if message.identifier.getParameterGroupNumber =
          extendedTransportProtocolConnectionManagement then
        processConnectionManagementMessage config env source destination message sessions
      else if message.identifier.getParameterGroupNumber =
          extendedTransportProtocolDataTransfer then
        processDataTransferMessage config env source destination message sessions
      else (sessions, [])
    else (sessions, [])
  | _, _ => (sessions, [])

/-- The session a transmit request opens, unless the request is refused. -/
def requestedSession (request : TransmitRequest) (sessions : ActiveSessions) :
    Option (SessionKey × ExtendedTransportProtocolSession) :=
  if h : request.data.length ≤ 1785 ∨ request.data.length > MAX_PROTOCOL_DATA_LENGTH then none
  else
    match request.source, request.destination with
    | some source, some destination =>
      if (env.world source).getAddressValid = true ∧
          (env.world destination).getAddressValid = true ∧
          sessions.lookup ⟨source, some destination⟩ = none then
        some (⟨source, some destination⟩,
          (transmitSession request (by omega)).setState env.now .sendRequestToSend)
      else none
    | _, _ => none

def protocolTransmitMessage (request : TransmitRequest) (sessions : ActiveSessions) : Reply :=
  match requestedSession env request sessions with
  | none => (sessions, [.transmitAnswered false])
  | some (key, session) =>
    let opened := openSession config env key session sessions
    (opened.1, opened.2 ++ [.transmitAnswered true])

def update (sessions : ActiveSessions) : Reply :=
  sessions.sweepBack fun key session => session.update config env key

def extendedTransportProtocolManager : Machine ActiveSessions Input Event where
  step sessions input :=
    match input.call with
    | .processMessage message => processMessage config input.env message sessions
    | .update => update config input.env sessions
    | .protocolTransmitMessage request =>
      protocolTransmitMessage config input.env request sessions

end Isobus.ExtendedTransportProtocol
