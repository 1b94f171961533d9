import Isobus.Can.TransportProtocolBase

/-!
# Transport protocol sessions

One session of `can_transport_protocol.cpp`: its counters, the frames it sends and what each event
does to it.
-/

namespace Isobus.TransportProtocol

open Isobus.Can Isobus.Lib

inductive StateMachineState
  | none
  | sendBroadcastAnnounce
  | sendRequestToSend
  | waitForClearToSend
  | sendClearToSend
  | waitForDataTransferPacket
  | sendDataTransferPackets
  | waitForEndOfMessageAcknowledge
  deriving DecidableEq

inductive ConnectionAbortReason
  | reserved
  | alreadyInCMSession
  | systemResourcesNeeded
  | timeout
  | clearToSendReceivedWhileTransferInProgress
  | maximumRetransmitRequestLimitReached
  | unexpectedDataTransferPacketReceived
  | badSequenceNumber
  | duplicateSequenceNumber
  | totalMessageSizeTooBig
  | anyOtherError
  deriving DecidableEq

def ConnectionAbortReason.toUInt8 : ConnectionAbortReason → UInt8
  | .reserved => 0
  | .alreadyInCMSession => 1
  | .systemResourcesNeeded => 2
  | .timeout => 3
  | .clearToSendReceivedWhileTransferInProgress => 4
  | .maximumRetransmitRequestLimitReached => 5
  | .unexpectedDataTransferPacketReceived => 6
  | .badSequenceNumber => 7
  | .duplicateSequenceNumber => 8
  | .totalMessageSizeTooBig => 9
  | .anyOtherError => 250

def REQUEST_TO_SEND_MULTIPLEXOR : UInt8 := 0x10
def CLEAR_TO_SEND_MULTIPLEXOR : UInt8 := 0x11
def END_OF_MESSAGE_ACKNOWLEDGE_MULTIPLEXOR : UInt8 := 0x13
def BROADCAST_ANNOUNCE_MESSAGE_MULTIPLEXOR : UInt8 := 0x20
def CONNECTION_ABORT_MULTIPLEXOR : UInt8 := 0xFF
def MAX_PROTOCOL_DATA_LENGTH : Nat := 1785
def T1_TIMEOUT_MS : UInt32 := 750
def T2_T3_TIMEOUT_MS : UInt32 := 1250
def SEQUENCE_NUMBER_DATA_INDEX : Nat := 0
def PROTOCOL_BYTES_PER_FRAME : Nat := 7

/-- A session owns a buffer of exactly the announced size. -/
structure TransportProtocolSession extends TransportProtocolSessionBase where
  totalMessageSize : UInt16
  state : StateMachineState := .none
  lastSequenceNumber : UInt8 := 0
  lastAcknowledgedPacketNumber : UInt8 := 0
  clearToSendPacketCount : UInt8 := 0
  clearToSendPacketCountMax : UInt8 := 0xFF
  data_length : data.length = totalMessageSize.toNat
  deriving DecidableEq

abbrev Outcome := Option TransportProtocolSession × List Event

namespace TransportProtocolSession

def getMessageLength (session : TransportProtocolSession) : UInt16 := session.totalMessageSize

def getLastSequenceNumber (session : TransportProtocolSession) : UInt8 :=
  session.lastSequenceNumber

def getLastPacketNumber (session : TransportProtocolSession) : UInt8 := session.lastSequenceNumber

def setState (session : TransportProtocolSession) (now : UInt32) (value : StateMachineState) :
    TransportProtocolSession :=
  { session with state := value, timestamp := now }

def setCtsNumberOfPackets (session : TransportProtocolSession) (now : UInt32) (value : UInt8) :
    TransportProtocolSession :=
  { session with clearToSendPacketCount := value, timestamp := now }

def setLastSequencyNumber (session : TransportProtocolSession) (now : UInt32) (value : UInt8) :
    TransportProtocolSession :=
  { session with lastSequenceNumber := value, timestamp := now }

def setAcknowledgedPacketNumber (session : TransportProtocolSession) (now : UInt32)
    (value : UInt8) : TransportProtocolSession :=
  { session with lastAcknowledgedPacketNumber := value, timestamp := now }

def getCtsNumberOfPacketsRemaining (session : TransportProtocolSession) : UInt8 :=
  session.clearToSendPacketCount -
    (session.getLastPacketNumber - session.lastAcknowledgedPacketNumber)

def getCtsNumberOfPackets (session : TransportProtocolSession) : UInt8 :=
  session.clearToSendPacketCount

def getRtsNumberOfPacketLimit (session : TransportProtocolSession) : UInt8 :=
  session.clearToSendPacketCountMax

/-- The packet count of a message length, in the eight bits of the source. -/
def totalNumberOfPackets (messageLength : UInt16) : UInt8 :=
  (messageLength / 7).toUInt8 + if messageLength % 7 > 0 then 1 else 0

def getTotalNumberOfPackets (session : TransportProtocolSession) : UInt8 :=
  totalNumberOfPackets session.getMessageLength

def getNumberOfRemainingPackets (session : TransportProtocolSession) : UInt8 :=
  session.getTotalNumberOfPackets - session.getLastPacketNumber

def connectionManagementFrame (b₀ b₁ b₂ b₃ b₄ : UInt8) (parameterGroupNumber : UInt32)
    (source destination : Option CFRef) : TransmitFrame where
  parameterGroupNumber := transportProtocolConnectionManagement
  data := [b₀, b₁, b₂, b₃, b₄, byteOf parameterGroupNumber 0, byteOf parameterGroupNumber 1,
    byteOf parameterGroupNumber 2]
  source := source
  destination := destination
  priority := PriorityLowest7

def abortFrame (sender receiver : CFRef) (parameterGroupNumber : UInt32)
    (reason : ConnectionAbortReason) : TransmitFrame :=
  connectionManagementFrame CONNECTION_ABORT_MULTIPLEXOR reason.toUInt8 0xFF 0xFF 0xFF
    parameterGroupNumber sender receiver

def broadcastAnnounceFrame (key : SessionKey) (session : TransportProtocolSession) :
    TransmitFrame :=
  connectionManagementFrame BROADCAST_ANNOUNCE_MESSAGE_MULTIPLEXOR
    (byteOf session.getMessageLength.toUInt32 0) (byteOf session.getMessageLength.toUInt32 1)
    session.getTotalNumberOfPackets 0xFF session.parameterGroupNumber key.source none

def requestToSendFrame (key : SessionKey) (session : TransportProtocolSession) : TransmitFrame :=
  connectionManagementFrame REQUEST_TO_SEND_MULTIPLEXOR
    (byteOf session.getMessageLength.toUInt32 0) (byteOf session.getMessageLength.toUInt32 1)
    session.getTotalNumberOfPackets session.getRtsNumberOfPacketLimit
    session.parameterGroupNumber key.source key.destination

/-- How many packets the next clear to send asks for; the 16 only apply below the limit of the
request. -/
def packetsThisSegment (session : TransportProtocolSession) : UInt8 :=
  if session.getNumberOfRemainingPackets > session.getRtsNumberOfPacketLimit then
    session.getRtsNumberOfPacketLimit
  else if session.getNumberOfRemainingPackets > 16 then 16
  else session.getNumberOfRemainingPackets

/-- The receiving side answers, so the destination of the session is the sender. -/
def clearToSendFrame (key : SessionKey) (session : TransportProtocolSession) : TransmitFrame :=
  connectionManagementFrame CLEAR_TO_SEND_MULTIPLEXOR session.packetsThisSegment
    (session.getLastPacketNumber + 1) 0xFF 0xFF session.parameterGroupNumber key.destination
    key.source

def endOfMessageAcknowledgeFrame (key : SessionKey) (session : TransportProtocolSession) :
    TransmitFrame :=
  connectionManagementFrame END_OF_MESSAGE_ACKNOWLEDGE_MULTIPLEXOR
    (byteOf session.getMessageLength.toUInt32 0) (byteOf session.getMessageLength.toUInt32 1)
    session.getTotalNumberOfPackets 0xFF session.parameterGroupNumber key.destination key.source

/-- The next data frame: its number, then seven bytes padded with `0xFF`. -/
def dataTransferFrame (key : SessionKey) (session : TransportProtocolSession) :
    TransmitFrame where
  parameterGroupNumber := transportProtocolDataTransfer
  data := (session.getLastSequenceNumber + 1) ::
    segment 0xFF session.data (session.getLastPacketNumber.toNat * PROTOCOL_BYTES_PER_FRAME)
      PROTOCOL_BYTES_PER_FRAME
  source := key.source
  destination := key.destination
  priority := PriorityLowest7

def closeSession (key : SessionKey) (session : TransportProtocolSession) (successful : Bool) :
    Outcome :=
  (none, session.complete key session.totalMessageSize.toUInt32 successful)

def sendAbort (env : Environment) (sender receiver : CFRef) (parameterGroupNumber : UInt32)
    (reason : ConnectionAbortReason) : Event :=
  env.offer (abortFrame sender receiver parameterGroupNumber reason)

def abortSession (env : Environment) (key : SessionKey) (session : TransportProtocolSession)
    (reason : ConnectionAbortReason) : Outcome :=
  let abort := match abortParties key session.direction with
    | some (own, partner) => [sendAbort env own partner session.parameterGroupNumber reason]
    | none => []
  (none, abort ++ (closeSession key session false).2)

/-- Answer with a clear to send and open the next window once it is out. -/
def sendClearToSend (env : Environment) (key : SessionKey) (session : TransportProtocolSession) :
    Bool × TransportProtocolSession × List Event :=
  let frame := session.clearToSendFrame key
  if env.send frame then
    (true, (session.setCtsNumberOfPackets env.now
        session.packetsThisSegment).setAcknowledgedPacketNumber
      env.now session.getLastPacketNumber, [.frame frame true])
  else (false, session, [.frame frame false])

/-- The sending loop: at most `framesToSend` frames, up to the first refusal. -/
def sendFrames (env : Environment) (key : SessionKey) :
    Nat → TransportProtocolSession → TransportProtocolSession × List Event
  | 0, session => (session, [])
  | framesToSend + 1, session =>
    let frame := session.dataTransferFrame key
    if env.send frame then
      let rest := sendFrames env key framesToSend
        (session.setLastSequencyNumber env.now (session.getLastSequenceNumber + 1))
      (rest.1, .frame frame true :: rest.2)
    else (session, [.frame frame false])

def framesToSend (config : CANNetworkConfiguration) (key : SessionKey)
    (session : TransportProtocolSession) : UInt8 :=
  if key.destination = none then 1
  else if session.getCtsNumberOfPacketsRemaining >
      config.networkManagerMaxFramesToSendPerUpdate then
    config.networkManagerMaxFramesToSendPerUpdate
  else session.getCtsNumberOfPacketsRemaining

def sendDataTransferPackets (config : CANNetworkConfiguration) (env : Environment)
    (key : SessionKey) (session : TransportProtocolSession) : Outcome :=
  let sent := sendFrames env key (session.framesToSend config key).toNat session
  if sent.1.getNumberOfRemainingPackets = 0 then
    if key.destination = none then
      (none, sent.2 ++ (closeSession key sent.1 true).2)
    else (some (sent.1.setState env.now .waitForEndOfMessageAcknowledge), sent.2)
  else if sent.1.getCtsNumberOfPacketsRemaining = 0 ∧ key.destination ≠ none then
    (some (sent.1.setState env.now .waitForClearToSend), sent.2)
  else (some sent.1, sent.2)

def updateStateMachine (config : CANNetworkConfiguration) (env : Environment)
    (key : SessionKey) (session : TransportProtocolSession) : Outcome :=
  match session.state with
  | .none => (some session, [])
  | .sendBroadcastAnnounce =>
    let frame := session.broadcastAnnounceFrame key
    if env.send frame then
      (some (session.setState env.now .sendDataTransferPackets), [.frame frame true])
    else (some session, [.frame frame false])
  | .sendRequestToSend =>
    let frame := session.requestToSendFrame key
    if env.send frame then
      (some (session.setState env.now .waitForClearToSend), [.frame frame true])
    else (some session, [.frame frame false])
  | .waitForClearToSend =>
    if env.timeElapsed session.timestamp > T2_T3_TIMEOUT_MS then
      -- A connection counts as established once a clear to send was received.
      if session.getCtsNumberOfPackets > 0 then abortSession env key session .timeout
      else closeSession key session false
    else (some session, [])
  | .sendClearToSend =>
    let answer := session.sendClearToSend env key
    if answer.1 then
      (some (answer.2.1.setState env.now .waitForDataTransferPacket), answer.2.2)
    else (some answer.2.1, answer.2.2)
  | .sendDataTransferPackets =>
    if key.destination = none ∧ env.timeElapsed session.timestamp <
        config.minimumTimeBetweenTransportProtocolBAMFrames then
      (some session, [])
    else session.sendDataTransferPackets config env key
  | .waitForDataTransferPacket =>
    if key.destination = none then
      if env.timeElapsed session.timestamp > T1_TIMEOUT_MS then closeSession key session false
      else (some session, [])
    else if session.getCtsNumberOfPacketsRemaining = session.getCtsNumberOfPackets then
      if env.timeElapsed session.timestamp > T2_T3_TIMEOUT_MS then
        abortSession env key session .timeout
      else (some session, [])
    else if env.timeElapsed session.timestamp > T1_TIMEOUT_MS then
      abortSession env key session .timeout
    else (some session, [])
  | .waitForEndOfMessageAcknowledge =>
    if env.timeElapsed session.timestamp > T2_T3_TIMEOUT_MS then
      abortSession env key session .timeout
    else (some session, [])

def update (config : CANNetworkConfiguration) (env : Environment) (key : SessionKey)
    (session : TransportProtocolSession) : Outcome :=
  if !(env.world key.source).getAddressValid then closeSession key session false
  else if key.destination.any fun d => !(env.world d).getAddressValid then
    closeSession key session false
  else if session.state ≠ .none then session.updateStateMachine config env key
  else (some session, [])

def receiveClearToSend (env : Environment) (key : SessionKey)
    (packetsToBeSent nextPacketNumber : UInt8) (session : TransportProtocolSession) : Outcome :=
  if nextPacketNumber > session.getTotalNumberOfPackets then
    abortSession env key session .badSequenceNumber
  else if session.state ≠ .waitForClearToSend then
    abortSession env key session .clearToSendReceivedWhileTransferInProgress
  else
    let session := (session.setAcknowledgedPacketNumber env.now
      (nextPacketNumber - 1)).setCtsNumberOfPackets env.now packetsToBeSent
    -- Zero packets ask the sender to wait for the next clear to send.
    if packetsToBeSent ≠ 0 then (some (session.setState env.now .sendDataTransferPackets), [])
    else (some session, [])

def receiveEndOfMessageAcknowledge (key : SessionKey) (session : TransportProtocolSession) :
    Outcome :=
  if session.state = .waitForEndOfMessageAcknowledge then closeSession key session true
  else (some session, [])

def currentDataIndex (session : TransportProtocolSession) : Nat :=
  PROTOCOL_BYTES_PER_FRAME * session.getLastPacketNumber.toNat

def bytesToCopy (session : TransportProtocolSession) : Nat :=
  min PROTOCOL_BYTES_PER_FRAME (session.getMessageLength.toNat - session.currentDataIndex)

def overwriteData (session : TransportProtocolSession) (offset : Nat) (chunk : List UInt8) :
    TransportProtocolSession :=
  { session with
    data := overwrite session.data offset chunk
    data_length := (length_overwrite _ _ _).trans session.data_length }

/-- Copy what still belongs to the message. The buffer is a plain array, and a chunk that leaves it
is `none`. -/
def copyIn (session : TransportProtocolSession) (payload : List UInt8) :
    Option TransportProtocolSession :=
  let chunk := payload.take session.bytesToCopy
  if session.currentDataIndex + chunk.length ≤ session.data.length then
    some (session.overwriteData session.currentDataIndex chunk)
  else none

def completedMessage (env : Environment) (key : SessionKey) (timestampUs : UInt64)
    (session : TransportProtocolSession) : CANMessage where
  identifier := .ofFields .extended session.parameterGroupNumber PriorityDefault6
    (addressOf env.world key.destination) (env.world key.source).address
  data := session.data
  source := key.source
  destination := key.destination
  canPortIndex := 0
  timestampUs := timestampUs

/-- What follows once a packet is in the buffer and counted. -/
def afterPacket (env : Environment) (key : SessionKey) (timestampUs : UInt64)
    (session : TransportProtocolSession) : Outcome :=
  if session.getNumberOfRemainingPackets = 0 then
    let acknowledge := match key.destination with
      | some _ => [env.offer (session.endOfMessageAcknowledgeFrame key)]
      | none => []
    (none, acknowledge ++ [.messageReceived (session.completedMessage env key timestampUs)] ++
      (closeSession key session true).2)
  else if session.getCtsNumberOfPacketsRemaining = 0 then
    let answer := session.sendClearToSend env key
    (some answer.2.1, answer.2.2)
  else (some session, [])

def receiveDataTransfer (env : Environment) (key : SessionKey) (message : CANMessage)
    (session : TransportProtocolSession) : Outcome :=
  let sequenceNumber := message.getUint8At SEQUENCE_NUMBER_DATA_INDEX
  if session.state ≠ .waitForDataTransferPacket then
    abortSession env key session .unexpectedDataTransferPacketReceived
  else if sequenceNumber = session.getLastSequenceNumber then
    abortSession env key session .duplicateSequenceNumber
  -- The comparison is made in `int`, so 255 has no successor.
  else if sequenceNumber.toNat = session.getLastSequenceNumber.toNat + 1 then
    if session.currentDataIndex ≥ session.getMessageLength.toNat then
      abortSession env key session .anyOtherError
    else
      match session.copyIn (message.data.drop 1) with
      | some session =>
        (session.setLastSequencyNumber env.now sequenceNumber).afterPacket env key
          message.timestampUs
      | none => (some session, [.outOfBounds])
  else abortSession env key session .badSequenceNumber

end TransportProtocolSession

end Isobus.TransportProtocol
