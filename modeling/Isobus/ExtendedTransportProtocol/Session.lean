import Isobus.Can.TransportProtocolBase

/-!
# Extended transport protocol sessions

One session of `can_extended_transport_protocol.cpp`. Packets are counted in 32 bits, as an 8-bit
sequence number on top of an offset.
-/

namespace Isobus.ExtendedTransportProtocol

open Isobus.Can Isobus.Lib

inductive StateMachineState
  | none
  | sendRequestToSend
  | waitForClearToSend
  | sendClearToSend
  | waitForDataPacketOffset
  | sendDataPacketOffset
  | waitForDataTransferPacket
  | sendDataTransferPackets
  | waitForEndOfMessageAcknowledge
  deriving DecidableEq

inductive ConnectionAbortReason
  | reserved
  | alreadyInCMSession
  | systemResourcesNeeded
  | timeout
  | clearToSendReceivedWhileTransferInProgress
  | maximumRetransmitRequestLimitReached
  | unexpectedDataTransferPacketReceived
  | badSequenceNumber
  | duplicateSequenceNumber
  | unexpectedDataPacketOffsetReceived
  | unexpectedDataPacketOffsetPGN
  | dataPacketOffsetExceedsClearToSend
  | badDataPacketOffset
  | unexpectedClearToSendPGN
  | numberOfClearToSendPacketsExceedsMessage
  | anyOtherError
  deriving DecidableEq

def ConnectionAbortReason.toUInt8 : ConnectionAbortReason → UInt8
  | .reserved => 0
  | .alreadyInCMSession => 1
  | .systemResourcesNeeded => 2
  | .timeout => 3
  | .clearToSendReceivedWhileTransferInProgress => 4
  | .maximumRetransmitRequestLimitReached => 5
  | .unexpectedDataTransferPacketReceived => 6
  | .badSequenceNumber => 7
  | .duplicateSequenceNumber => 8
  | .unexpectedDataPacketOffsetReceived => 9
  | .unexpectedDataPacketOffsetPGN => 10
  | .dataPacketOffsetExceedsClearToSend => 11
  | .badDataPacketOffset => 12
  | .unexpectedClearToSendPGN => 14
  | .numberOfClearToSendPacketsExceedsMessage => 15
  | .anyOtherError => 250

def REQUEST_TO_SEND_MULTIPLEXOR : UInt8 := 0x14
def CLEAR_TO_SEND_MULTIPLEXOR : UInt8 := 0x15
def DATA_PACKET_OFFSET_MULTIPLXOR : UInt8 := 0x16
def END_OF_MESSAGE_ACKNOWLEDGE_MULTIPLEXOR : UInt8 := 0x17
def CONNECTION_ABORT_MULTIPLEXOR : UInt8 := 0xFF
def MAX_PROTOCOL_DATA_LENGTH : Nat := 117440505
def T1_TIMEOUT_MS : UInt32 := 750
def T2_T3_TIMEOUT_MS : UInt32 := 1250
def SEQUENCE_NUMBER_DATA_INDEX : Nat := 0
def PROTOCOL_BYTES_PER_FRAME : UInt32 := 7

/-- A session owns a buffer of exactly the announced size. -/
structure ExtendedTransportProtocolSession extends TransportProtocolSessionBase where
  totalMessageSize : UInt32
  state : StateMachineState := .none
  lastAcknowledgedPacketNumber : UInt32 := 0
  sequenceNumberOffset : UInt32 := 0
  lastSequenceNumber : UInt8 := 0
  dataPacketOffsetPacketCount : UInt8 := 0
  clearToSendPacketCountLimit : UInt8 := 0xFF
  data_length : data.length = totalMessageSize.toNat
  deriving DecidableEq

abbrev Outcome := Option ExtendedTransportProtocolSession × List Event

namespace ExtendedTransportProtocolSession

def getMessageLength (session : ExtendedTransportProtocolSession) : UInt32 :=
  session.totalMessageSize

def getLastSequenceNumber (session : ExtendedTransportProtocolSession) : UInt8 :=
  session.lastSequenceNumber

def getLastPacketNumber (session : ExtendedTransportProtocolSession) : UInt32 :=
  session.lastSequenceNumber.toUInt32 + session.sequenceNumberOffset

def setState (session : ExtendedTransportProtocolSession) (now : UInt32)
    (value : StateMachineState) : ExtendedTransportProtocolSession :=
  { session with state := value, timestamp := now }

def setDpoNumberOfPackets (session : ExtendedTransportProtocolSession) (now : UInt32)
    (value : UInt8) : ExtendedTransportProtocolSession :=
  { session with dataPacketOffsetPacketCount := value, timestamp := now }

def setCtsNumberOfPacketLimit (session : ExtendedTransportProtocolSession) (now : UInt32)
    (value : UInt8) : ExtendedTransportProtocolSession :=
  { session with clearToSendPacketCountLimit := value, timestamp := now }

def setSequenceNumberOffset (session : ExtendedTransportProtocolSession) (now value : UInt32) :
    ExtendedTransportProtocolSession :=
  { session with sequenceNumberOffset := value, timestamp := now }

def setLastSequencyNumber (session : ExtendedTransportProtocolSession) (now : UInt32)
    (value : UInt8) : ExtendedTransportProtocolSession :=
  { session with lastSequenceNumber := value, timestamp := now }

def setAcknowledgedPacketNumber (session : ExtendedTransportProtocolSession) (now value : UInt32) :
    ExtendedTransportProtocolSession :=
  { session with lastAcknowledgedPacketNumber := value, timestamp := now }

def getCtsNumberOfPacketLimit (session : ExtendedTransportProtocolSession) : UInt8 :=
  session.clearToSendPacketCountLimit

def getLastAcknowledgedPacketNumber (session : ExtendedTransportProtocolSession) : UInt32 :=
  session.lastAcknowledgedPacketNumber

def getDpoNumberOfPacketsRemaining (session : ExtendedTransportProtocolSession) : UInt8 :=
  session.dataPacketOffsetPacketCount -
    (session.getLastPacketNumber - session.lastAcknowledgedPacketNumber).toUInt8

def getTotalNumberOfPackets (session : ExtendedTransportProtocolSession) : UInt32 :=
  session.getMessageLength / PROTOCOL_BYTES_PER_FRAME +
    if session.getMessageLength % PROTOCOL_BYTES_PER_FRAME > 0 then 1 else 0

def getNumberOfRemainingPackets (session : ExtendedTransportProtocolSession) : UInt32 :=
  session.getTotalNumberOfPackets - session.getLastPacketNumber

def connectionManagementFrame (b₀ b₁ b₂ b₃ b₄ : UInt8) (parameterGroupNumber : UInt32)
    (source destination : Option CFRef) : TransmitFrame where
  parameterGroupNumber := extendedTransportProtocolConnectionManagement
  data := [b₀, b₁, b₂, b₃, b₄, byteOf parameterGroupNumber 0, byteOf parameterGroupNumber 1,
    byteOf parameterGroupNumber 2]
  source := source
  destination := destination
  priority := PriorityLowest7

def abortFrame (sender receiver : CFRef) (parameterGroupNumber : UInt32)
    (reason : ConnectionAbortReason) : TransmitFrame :=
  connectionManagementFrame CONNECTION_ABORT_MULTIPLEXOR reason.toUInt8 0xFF 0xFF 0xFF
    parameterGroupNumber sender receiver

def requestToSendFrame (key : SessionKey) (session : ExtendedTransportProtocolSession) :
    TransmitFrame :=
  connectionManagementFrame REQUEST_TO_SEND_MULTIPLEXOR (byteOf session.getMessageLength 0)
    (byteOf session.getMessageLength 1) (byteOf session.getMessageLength 2)
    (byteOf session.getMessageLength 3) session.parameterGroupNumber key.source key.destination

def packetLimit (session : ExtendedTransportProtocolSession) : UInt8 :=
  if session.getCtsNumberOfPacketLimit.toUInt32 > session.getNumberOfRemainingPackets then
    session.getNumberOfRemainingPackets.toUInt8
  else session.getCtsNumberOfPacketLimit

/-- The receiving side answers, so the destination of the session is the sender. -/
def clearToSendFrame (key : SessionKey) (session : ExtendedTransportProtocolSession) :
    TransmitFrame :=
  connectionManagementFrame CLEAR_TO_SEND_MULTIPLEXOR session.packetLimit
    (byteOf (session.getLastPacketNumber + 1) 0) (byteOf (session.getLastPacketNumber + 1) 1)
    (byteOf (session.getLastPacketNumber + 1) 2) session.parameterGroupNumber key.destination
    key.source

/-- The packets of the next data packet offset: at most 255, what is left, what the clear to send
allows and what is configured. -/
def packetsThisSegment (config : CANNetworkConfiguration)
    (session : ExtendedTransportProtocolSession) : UInt8 :=
  let packets : UInt8 :=
    if 0xFF > session.getNumberOfRemainingPackets then session.getNumberOfRemainingPackets.toUInt8
    else 0xFF
  let packets :=
    if packets > session.getCtsNumberOfPacketLimit then session.getCtsNumberOfPacketLimit
    else packets
  if packets > config.numberOfPacketsPerDPOMessage then
    config.numberOfPacketsPerDPOMessage
  else packets

def dataPacketOffsetFrame (config : CANNetworkConfiguration) (key : SessionKey)
    (session : ExtendedTransportProtocolSession) : TransmitFrame :=
  connectionManagementFrame DATA_PACKET_OFFSET_MULTIPLXOR
    (session.packetsThisSegment config) (byteOf session.getLastPacketNumber 0)
    (byteOf session.getLastPacketNumber 1) (byteOf session.getLastPacketNumber 2)
    session.parameterGroupNumber key.source key.destination

def endOfMessageAcknowledgeFrame (key : SessionKey)
    (session : ExtendedTransportProtocolSession) : TransmitFrame :=
  connectionManagementFrame END_OF_MESSAGE_ACKNOWLEDGE_MULTIPLEXOR
    (byteOf session.getMessageLength 0) (byteOf session.getMessageLength 1)
    (byteOf session.getMessageLength 2) (byteOf session.getMessageLength 3)
    session.parameterGroupNumber key.destination key.source

/-- The bytes of a packet; the index is computed in 32 bits. -/
def payload (session : ExtendedTransportProtocolSession) : List UInt8 :=
  let dataOffset := session.getLastPacketNumber * PROTOCOL_BYTES_PER_FRAME
  (List.range PROTOCOL_BYTES_PER_FRAME.toNat).map fun j =>
    session.data.getD (dataOffset + UInt32.ofNat j).toNat 0xFF

/-- The next data frame: its sequence number, then seven bytes padded with `0xFF`. -/
def dataTransferFrame (key : SessionKey) (session : ExtendedTransportProtocolSession) :
    TransmitFrame where
  parameterGroupNumber := extendedTransportProtocolDataTransfer
  data := (session.getLastSequenceNumber + 1) :: session.payload
  source := key.source
  destination := key.destination
  priority := PriorityLowest7

def closeSession (key : SessionKey) (session : ExtendedTransportProtocolSession)
    (successful : Bool) : Outcome :=
  (none, session.complete key session.totalMessageSize successful)

def sendAbort (env : Environment) (sender receiver : CFRef) (parameterGroupNumber : UInt32)
    (reason : ConnectionAbortReason) : Event :=
  env.offer (abortFrame sender receiver parameterGroupNumber reason)

def abortSession (env : Environment) (key : SessionKey)
    (session : ExtendedTransportProtocolSession) (reason : ConnectionAbortReason) : Outcome :=
  let abort := match abortParties key session.direction with
    | some (own, partner) => [sendAbort env own partner session.parameterGroupNumber reason]
    | none => []
  (none, abort ++ (closeSession key session false).2)

def sendClearToSend (env : Environment) (key : SessionKey)
    (session : ExtendedTransportProtocolSession) :
    Bool × ExtendedTransportProtocolSession × List Event :=
  let frame := session.clearToSendFrame key
  if env.send frame then
    (true, session.setAcknowledgedPacketNumber env.now session.getLastPacketNumber,
      [.frame frame true])
  else (false, session, [.frame frame false])

/-- Announce the next packets; the offset is the last packet sent. -/
def sendDataPacketOffset (config : CANNetworkConfiguration) (env : Environment)
    (key : SessionKey) (session : ExtendedTransportProtocolSession) :
    Bool × ExtendedTransportProtocolSession × List Event :=
  let frame := session.dataPacketOffsetFrame config key
  if env.send frame then
    let counted := session.setDpoNumberOfPackets env.now (session.packetsThisSegment config)
    (true, (counted.setSequenceNumberOffset env.now
        counted.getLastPacketNumber).setLastSequencyNumber
      env.now 0, [.frame frame true])
  else (false, session, [.frame frame false])

/-- The sending loop: at most `framesToSend` frames, up to the first refusal. -/
def sendFrames (env : Environment) (key : SessionKey) :
    Nat → ExtendedTransportProtocolSession → ExtendedTransportProtocolSession × List Event
  | 0, session => (session, [])
  | framesToSend + 1, session =>
    let frame := session.dataTransferFrame key
    if env.send frame then
      let rest := sendFrames env key framesToSend
        (session.setLastSequencyNumber env.now (session.getLastSequenceNumber + 1))
      (rest.1, .frame frame true :: rest.2)
    else (session, [.frame frame false])

def framesToSend (config : CANNetworkConfiguration)
    (session : ExtendedTransportProtocolSession) : UInt8 :=
  if session.getDpoNumberOfPacketsRemaining >
      config.networkManagerMaxFramesToSendPerUpdate then
    config.networkManagerMaxFramesToSendPerUpdate
  else session.getDpoNumberOfPacketsRemaining

def sendDataTransferPackets (config : CANNetworkConfiguration) (env : Environment)
    (key : SessionKey) (session : ExtendedTransportProtocolSession) : Outcome :=
  let sent := sendFrames env key (session.framesToSend config).toNat session
  if sent.1.getNumberOfRemainingPackets = 0 then
    (some (sent.1.setState env.now .waitForEndOfMessageAcknowledge), sent.2)
  else if sent.1.getDpoNumberOfPacketsRemaining = 0 then
    (some (sent.1.setState env.now .waitForClearToSend), sent.2)
  else (some sent.1, sent.2)

def advance (env : Environment) (value : StateMachineState)
    (answer : Bool × ExtendedTransportProtocolSession × List Event) : Outcome :=
  if answer.1 then (some (answer.2.1.setState env.now value), answer.2.2)
  else (some answer.2.1, answer.2.2)

def updateStateMachine (config : CANNetworkConfiguration) (env : Environment)
    (key : SessionKey) (session : ExtendedTransportProtocolSession) : Outcome :=
  match session.state with
  | .none => (some session, [])
  | .sendRequestToSend =>
    let frame := session.requestToSendFrame key
    advance env .waitForClearToSend (env.send frame, session, [env.offer frame])
  | .waitForClearToSend =>
    if env.timeElapsed session.timestamp > T2_T3_TIMEOUT_MS then
      if session.getCtsNumberOfPacketLimit > 0 then abortSession env key session .timeout
      else closeSession key session false
    else (some session, [])
  | .sendClearToSend => advance env .waitForDataPacketOffset (session.sendClearToSend env key)
  | .waitForDataPacketOffset =>
    if env.timeElapsed session.timestamp > T2_T3_TIMEOUT_MS then
      abortSession env key session .timeout
    else (some session, [])
  | .sendDataPacketOffset =>
    advance env .sendDataTransferPackets (session.sendDataPacketOffset config env key)
  | .sendDataTransferPackets => session.sendDataTransferPackets config env key
  | .waitForDataTransferPacket =>
    if env.timeElapsed session.timestamp > T1_TIMEOUT_MS then
      abortSession env key session .timeout
    else (some session, [])
  | .waitForEndOfMessageAcknowledge =>
    if env.timeElapsed session.timestamp > T2_T3_TIMEOUT_MS then
      abortSession env key session .timeout
    else (some session, [])

def update (config : CANNetworkConfiguration) (env : Environment) (key : SessionKey)
    (session : ExtendedTransportProtocolSession) : Outcome :=
  if !(env.world key.source).getAddressValid then closeSession key session false
  else if key.destination.any fun d => !(env.world d).getAddressValid then
    closeSession key session false
  else if session.state ≠ .none then session.updateStateMachine config env key
  else (some session, [])

def receiveClearToSend (env : Environment) (key : SessionKey) (packetsToBeSent : UInt8)
    (nextPacketNumber : UInt32) (session : ExtendedTransportProtocolSession) : Outcome :=
  if nextPacketNumber > session.getTotalNumberOfPackets then
    abortSession env key session .numberOfClearToSendPacketsExceedsMessage
  else if session.state ≠ .waitForClearToSend then
    abortSession env key session .clearToSendReceivedWhileTransferInProgress
  else
    let session := (session.setAcknowledgedPacketNumber env.now
      (nextPacketNumber - 1)).setCtsNumberOfPacketLimit env.now packetsToBeSent
    -- Zero packets ask the sender to wait for the next clear to send.
    if packetsToBeSent ≠ 0 then (some (session.setState env.now .sendDataPacketOffset), [])
    else (some session, [])

def receiveDataPacketOffset (env : Environment) (key : SessionKey) (numberOfPackets : UInt8)
    (packetOffset : UInt32) (session : ExtendedTransportProtocolSession) : Outcome :=
  if session.state ≠ .waitForDataPacketOffset then
    abortSession env key session .unexpectedDataPacketOffsetReceived
  else if numberOfPackets > session.getCtsNumberOfPacketLimit then
    abortSession env key session .dataPacketOffsetExceedsClearToSend
  else if packetOffset ≠ session.getLastAcknowledgedPacketNumber then
    abortSession env key session .badDataPacketOffset
  else
    let session := ((session.setDpoNumberOfPackets env.now numberOfPackets).setSequenceNumberOffset
      env.now packetOffset).setLastSequencyNumber env.now 0
    if numberOfPackets ≠ 0 then (some (session.setState env.now .waitForDataTransferPacket), [])
    else (some session, [])

def receiveEndOfMessageAcknowledge (key : SessionKey) (numberOfBytesTransferred : UInt32)
    (session : ExtendedTransportProtocolSession) : Outcome :=
  if session.state = .waitForEndOfMessageAcknowledge then
    closeSession key { session with state := .none }
      (numberOfBytesTransferred = session.getMessageLength)
  else (some session, [])

/-- Where the next packet goes, in 32 bits, and how much of it fits. -/
def currentDataIndex (session : ExtendedTransportProtocolSession) : UInt32 :=
  PROTOCOL_BYTES_PER_FRAME * session.getLastPacketNumber

def bytesToCopy (session : ExtendedTransportProtocolSession) : Nat :=
  min PROTOCOL_BYTES_PER_FRAME.toNat (session.getMessageLength - session.currentDataIndex).toNat

def overwriteData (session : ExtendedTransportProtocolSession) (offset : Nat)
    (chunk : List UInt8) : ExtendedTransportProtocolSession :=
  { session with
    data := overwrite session.data offset chunk
    data_length := (length_overwrite _ _ _).trans session.data_length }

/-- Copy what still belongs to the message. The buffer is a plain array, and a chunk that leaves it
is `none`. -/
def copyIn (session : ExtendedTransportProtocolSession) (payload : List UInt8) :
    Option ExtendedTransportProtocolSession :=
  let chunk := payload.take session.bytesToCopy
  if session.currentDataIndex.toNat + chunk.length ≤ session.data.length then
    some (session.overwriteData session.currentDataIndex.toNat chunk)
  else none

def completedMessage (env : Environment) (key : SessionKey) (timestampUs : UInt64)
    (session : ExtendedTransportProtocolSession) : CANMessage where
  identifier := .ofFields .extended session.parameterGroupNumber PriorityDefault6
    (addressOf env.world key.destination) (env.world key.source).address
  data := session.data
  source := key.source
  destination := key.destination
  canPortIndex := 0
  timestampUs := timestampUs

def afterPacket (config : CANNetworkConfiguration) (env : Environment) (key : SessionKey)
    (timestampUs : UInt64) (session : ExtendedTransportProtocolSession) : Outcome :=
  if session.getNumberOfRemainingPackets = 0 then
    (none, [env.offer (session.endOfMessageAcknowledgeFrame key),
        .messageReceived (session.completedMessage env key timestampUs)] ++
      (closeSession key session true).2)
  else if session.getDpoNumberOfPacketsRemaining = 0 then
    (session.setState env.now .sendClearToSend).updateStateMachine config env key
  else (some session, [])

def receiveDataTransfer (config : CANNetworkConfiguration) (env : Environment)
    (key : SessionKey) (message : CANMessage) (session : ExtendedTransportProtocolSession) :
    Outcome :=
  let sequenceNumber := message.getUint8At SEQUENCE_NUMBER_DATA_INDEX
  if session.state ≠ .waitForDataTransferPacket then
    abortSession env key session .unexpectedDataTransferPacketReceived
  else if sequenceNumber = session.getLastSequenceNumber then
    abortSession env key session .duplicateSequenceNumber
  -- The comparison is made in `int`, so 255 has no successor.
  else if sequenceNumber.toNat = session.getLastSequenceNumber.toNat + 1 then
    if session.currentDataIndex ≥ session.getMessageLength then
      abortSession env key session .anyOtherError
    else
      match session.copyIn (message.data.drop 1) with
      | some session =>
        (session.setLastSequencyNumber env.now sequenceNumber).afterPacket config env key
          message.timestampUs
      | none => (some session, [.outOfBounds])
  else abortSession env key session .badSequenceNumber

end ExtendedTransportProtocolSession

end Isobus.ExtendedTransportProtocol
