import Isobus.TransportProtocol.Session
import Isobus.Lib.Machine

/-!
# The transport protocol manager

`TransportProtocolManager`: which session a message is for, when a session is
opened, and the walk of `update` over all of them.  The manager is a machine
whose inputs are the calls it serves and whose outputs are what it does to its
surroundings.
-/

namespace Isobus.TransportProtocol

open Isobus.Can Isobus.Lib

abbrev ActiveSessions := KeyedTable SessionKey TransportProtocolSession

abbrev Reply := ActiveSessions × List Event

def receiveSession (parameterGroupNumber : UInt32) (totalMessageSize : UInt16)
    (clearToSendPacketMax : UInt8) : TransportProtocolSession where
  direction := .receive
  parameterGroupNumber := parameterGroupNumber
  data := List.replicate totalMessageSize.toNat 0
  totalMessageSize := totalMessageSize
  clearToSendPacketCountMax := clearToSendPacketMax
  data_length := List.length_replicate

@[simp] theorem getTotalNumberOfPackets_receiveSession (group : UInt32) (length : UInt16)
    (limit : UInt8) : (receiveSession group length limit).getTotalNumberOfPackets =
      TransportProtocolSession.totalNumberOfPackets length := rfl

def transmitSession (request : TransmitRequest) (clearToSendPacketMax : UInt8)
    (h : request.data.length ≤ MAX_PROTOCOL_DATA_LENGTH) : TransportProtocolSession where
  direction := .transmit
  parameterGroupNumber := request.parameterGroupNumber
  data := request.data
  sessionCompleteCallback := request.sessionCompleteCallback
  parent := request.parentPointer
  totalMessageSize := UInt16.ofNat request.data.length
  clearToSendPacketCountMax := clearToSendPacketMax
  data_length := by
    have hsize : request.data.length < 2 ^ 16 := Nat.lt_of_le_of_lt h (by decide)
    exact (UInt16.toNat_ofNat_of_lt hsize).symm

variable (config : CANNetworkConfiguration) (env : Environment)

def sessionsFull (sessions : ActiveSessions) : Bool :=
  sessions.size ≥ config.maxNumberTransportProtocolSessions.toNat

def openSession (key : SessionKey) (session : TransportProtocolSession)
    (sessions : ActiveSessions) : Reply :=
  (sessions.push key session).dispatch key (·.updateStateMachine config env key)

def processBroadcastAnnounceMessage (source : CFRef) (parameterGroupNumber : UInt32)
    (totalMessageSize : UInt16) (totalNumberOfPackets : UInt8) (sessions : ActiveSessions) :
    Reply :=
  if sessionsFull config sessions then (sessions, [])
  else if totalMessageSize.toNat > MAX_PROTOCOL_DATA_LENGTH then (sessions, [])
  else
    let key : SessionKey := ⟨source, none⟩
    let closed := sessions.dispatch key (·.closeSession key false)
    let newSession := receiveSession parameterGroupNumber totalMessageSize 0xFF
    if newSession.getTotalNumberOfPackets ≠ totalNumberOfPackets then closed
    else
      let opened := openSession config env key
        (newSession.setState env.now .waitForDataTransferPacket) closed.1
      (opened.1, closed.2 ++ opened.2)

/-- The packets per window that a request asks for, cut to the configured number. -/
def packetLimit (clearToSendPacketMax : UInt8) : UInt8 :=
  if clearToSendPacketMax > config.numberOfPacketsPerCTSMessage then
    config.numberOfPacketsPerCTSMessage
  else clearToSendPacketMax

/-- The length is not compared with `MAX_PROTOCOL_DATA_LENGTH` here. -/
def processRequestToSend (source destination : CFRef) (parameterGroupNumber : UInt32)
    (totalMessageSize : UInt16) (totalNumberOfPackets clearToSendPacketMax : UInt8)
    (sessions : ActiveSessions) : Reply :=
  if sessionsFull config sessions then
    (sessions, [TransportProtocolSession.sendAbort env destination source parameterGroupNumber
      .alreadyInCMSession])
  else
    let key : SessionKey := ⟨source, some destination⟩
    let closed := sessions.dispatch key fun old =>
      if old.parameterGroupNumber ≠ parameterGroupNumber then
        old.abortSession env key .alreadyInCMSession
      else old.closeSession key false
    let newSession := receiveSession parameterGroupNumber totalMessageSize
      (packetLimit config clearToSendPacketMax)
    if newSession.getTotalNumberOfPackets ≠ totalNumberOfPackets then
      (closed.1, closed.2 ++ (newSession.abortSession env key .anyOtherError).2)
    else
      let opened := openSession config env key
        (newSession.setState env.now .sendClearToSend) closed.1
      (opened.1, closed.2 ++ opened.2)

def processClearToSend (source destination : CFRef) (parameterGroupNumber : UInt32)
    (packetsToBeSent nextPacketNumber : UInt8) (sessions : ActiveSessions) : Reply :=
  let key : SessionKey := ⟨destination, some source⟩
  sessions.dispatch key fun session =>
    if session.parameterGroupNumber ≠ parameterGroupNumber then
      let aborted := session.abortSession env key .clearToSendReceivedWhileTransferInProgress
      (aborted.1, aborted.2 ++ [TransportProtocolSession.sendAbort env destination source
        parameterGroupNumber .clearToSendReceivedWhileTransferInProgress])
    else session.receiveClearToSend env key packetsToBeSent nextPacketNumber

def processEndOfSessionAcknowledgement (source destination : CFRef) (sessions : ActiveSessions) :
    Reply :=
  let key : SessionKey := ⟨destination, some source⟩
  sessions.dispatch key (·.receiveEndOfMessageAcknowledge key)

/-- Both directions between the two parties are looked at, one after the other. -/
def processAbort (source destination : CFRef) (parameterGroupNumber : UInt32)
    (sessions : ActiveSessions) : Reply :=
  let close (key : SessionKey) (session : TransportProtocolSession) : Outcome :=
    if session.parameterGroupNumber = parameterGroupNumber then session.closeSession key false
    else (some session, [])
  let first := sessions.dispatch ⟨source, some destination⟩ (close ⟨source, some destination⟩)
  let second := first.1.dispatch ⟨destination, some source⟩ (close ⟨destination, some source⟩)
  (second.1, first.2 ++ second.2)

def processConnectionManagementMessage (source : CFRef) (message : CANMessage)
    (sessions : ActiveSessions) : Reply :=
  if CAN_DATA_LENGTH ≠ message.data.length then (sessions, [])
  else
    let parameterGroupNumber := message.getUint24At 5
    let multiplexor := message.getUint8At 0
    match message.specificDestination env.world with
    | none =>
      if multiplexor = BROADCAST_ANNOUNCE_MESSAGE_MULTIPLEXOR then
        processBroadcastAnnounceMessage config env source parameterGroupNumber
          (message.getUint16At 1) (message.getUint8At 3) sessions
      else (sessions, [])
    | some destination =>
      if multiplexor = REQUEST_TO_SEND_MULTIPLEXOR then
        processRequestToSend config env source destination parameterGroupNumber
          (message.getUint16At 1) (message.getUint8At 3) (message.getUint8At 4) sessions
      else if multiplexor = CLEAR_TO_SEND_MULTIPLEXOR then
        processClearToSend env source destination parameterGroupNumber
          (message.getUint8At 1) (message.getUint8At 2) sessions
      else if multiplexor = END_OF_MESSAGE_ACKNOWLEDGE_MULTIPLEXOR then
        processEndOfSessionAcknowledgement source destination sessions
      else if multiplexor = CONNECTION_ABORT_MULTIPLEXOR then
        processAbort source destination parameterGroupNumber sessions
      else (sessions, [])

def processDataTransferMessage (source : CFRef) (message : CANMessage)
    (sessions : ActiveSessions) : Reply :=
  if CAN_DATA_LENGTH ≠ message.data.length then (sessions, [])
  else
    let key : SessionKey := ⟨source, message.specificDestination env.world⟩
    sessions.dispatch key (·.receiveDataTransfer env key message)

/-- Only messages with a valid source that are for us or for everyone count. -/
def processMessage (message : CANMessage) (sessions : ActiveSessions) : Reply :=
  match message.source with
  | none => (sessions, [])
  | some source =>
    if message.hasValidSourceControlFunction env.world &&
        (message.isDestinationOurDevice env.world || message.isBroadcast env.world) then
      if message.identifier.getParameterGroupNumber =
          transportProtocolConnectionManagement then
        processConnectionManagementMessage config env source message sessions
      else if message.identifier.getParameterGroupNumber = transportProtocolDataTransfer then
        processDataTransferMessage env source message sessions
      else (sessions, [])
    else (sessions, [])

/-- The session a transmit request opens, unless the request is refused. -/
def requestedSession (request : TransmitRequest) (sessions : ActiveSessions) :
    Option (SessionKey × TransportProtocolSession) :=
  if h : request.data.length ≤ CAN_DATA_LENGTH ∨
      request.data.length > MAX_PROTOCOL_DATA_LENGTH then none
  else
    match request.source with
    | none => none
    | some source =>
      if (env.world source).getAddressValid = true ∧
          sessions.lookup ⟨source, request.destination⟩ = none then
        let session := transmitSession request config.numberOfPacketsPerCTSMessage
          (by omega)
        some (⟨source, request.destination⟩, session.setState env.now
          (if request.destination = none then .sendBroadcastAnnounce else .sendRequestToSend))
      else none

def protocolTransmitMessage (request : TransmitRequest) (sessions : ActiveSessions) : Reply :=
  match requestedSession config env request sessions with
  | none => (sessions, [.transmitAnswered false])
  | some (key, session) =>
    let opened := openSession config env key session sessions
    (opened.1, opened.2 ++ [.transmitAnswered true])

def update (sessions : ActiveSessions) : Reply :=
  sessions.sweep fun key session => session.update config env key

def transportProtocolManager : Machine ActiveSessions Input Event where
  step sessions input :=
    match input.call with
    | .processMessage message => processMessage config input.env message sessions
    | .update => update config input.env sessions
    | .protocolTransmitMessage request =>
      protocolTransmitMessage config input.env request sessions

theorem step_of_update {sessions : ActiveSessions} {input : Input} (h : input.call = .update) :
    (transportProtocolManager config).step sessions input =
      update config input.env sessions := by
  unfold transportProtocolManager
  dsimp only
  rw [h]

end Isobus.TransportProtocol
