import Isobus.Can.TransportProtocolBase

/-!
# Fast packet sessions

One session of `nmea2000_fast_packet_protocol.cpp`. The first frame carries the length and six
bytes, every other frame seven; the first byte holds a 3-bit sequence number and a 5-bit frame
counter.
-/

namespace Isobus.FastPacket

open Isobus.Can Isobus.Lib

def FP_MIN_PARAMETER_GROUP_NUMBER : UInt32 := 0x1F000
def FP_MAX_PARAMETER_GROUP_NUMBER : UInt32 := 0x1FFFF
def FP_TIMEOUT_MS : UInt32 := 750
def MAX_PROTOCOL_MESSAGE_LENGTH : UInt8 := 223
def FRAME_COUNTER_BIT_MASK : UInt8 := 0x1F
def SEQUENCE_NUMBER_BIT_MASK : UInt8 := 0x07
def SEQUENCE_NUMBER_BIT_OFFSET : UInt8 := 5
def PROTOCOL_BYTES_PER_FRAME : UInt8 := 7

/-- What `get_session` compares: the key under which the protocol keeps a session. -/
structure FastPacketKey extends SessionKey where
  parameterGroupNumber : UInt32
  deriving DecidableEq

/-- One entry of the list of message callbacks. -/
structure ParameterGroupNumberCallbackData where
  parameterGroupNumber : UInt32
  callback : CallbackRef
  parent : PointerRef
  internalControlFunction : Option CFRef
  deriving DecidableEq

/-- What the protocol does to its surroundings, in order. -/
inductive Event
  /-- The send callback was called with this frame and gave this answer. -/
  | frame (frame : TransmitFrame) (sent : Bool)
  | messageReceived (callback : ParameterGroupNumberCallbackData) (message : CANMessage)
  /-- A transmit session reported that it ended. -/
  | transmitComplete (completion : Completion)
  | transmitAnswered (accepted : Bool)
  deriving DecidableEq

/-- A session owns a buffer of exactly the announced size. -/
structure FastPacketProtocolSession where
  direction : Direction
  data : List UInt8
  timestamp : UInt32 := 0
  sessionCompleteCallback : Option CallbackRef := none
  parent : PointerRef := 0
  totalMessageSize : UInt8
  numberOfBytesTransferred : UInt8 := 0
  sequenceNumber : UInt8
  priority : UInt32
  data_length : data.length = totalMessageSize.toNat
  deriving DecidableEq

abbrev Outcome := Option FastPacketProtocolSession × List Event

def calculateNumberOfFrames (messageLength : UInt8) : UInt8 :=
  let first : UInt8 := if messageLength > 6 then 1 else 0
  let rest := if messageLength > 6 then messageLength - 6 else messageLength
  first + rest / PROTOCOL_BYTES_PER_FRAME + if rest % PROTOCOL_BYTES_PER_FRAME ≠ 0 then 1 else 0

namespace FastPacketProtocolSession

def getMessageLength (session : FastPacketProtocolSession) : UInt8 := session.totalMessageSize

def getTotalBytesTransferred (session : FastPacketProtocolSession) : UInt8 :=
  session.numberOfBytesTransferred

def getLastPacketNumber (session : FastPacketProtocolSession) : UInt8 :=
  calculateNumberOfFrames session.getTotalBytesTransferred

def getTotalNumberOfPackets (session : FastPacketProtocolSession) : UInt8 :=
  calculateNumberOfFrames session.getMessageLength

def getNumberOfRemainingPackets (session : FastPacketProtocolSession) : UInt8 :=
  session.getTotalNumberOfPackets - session.getLastPacketNumber

def addNumberOfBytesTransferred (session : FastPacketProtocolSession) (now : UInt32)
    (bytes : UInt8) : FastPacketProtocolSession :=
  { session with
    numberOfBytesTransferred := session.numberOfBytesTransferred + bytes
    timestamp := now }

/-- Report the end of a transmission; the protocol drops and remembers the session. -/
def closeSession (key : FastPacketKey) (session : FastPacketProtocolSession)
    (successful : Bool) : Outcome :=
  match session.sessionCompleteCallback, session.direction with
  | some callback, .transmit =>
    (none, [.transmitComplete
      { callback := callback
        parameterGroupNumber := key.parameterGroupNumber
        dataLength := session.totalMessageSize.toUInt32
        source := key.source
        destination := key.destination
        successful := successful
        parentPointer := session.parent }])
  | _, _ => (none, [])

/-- The payload bytes of the next frame: the first one has a byte less. -/
def bytesThisFrame (session : FastPacketProtocolSession) : UInt8 :=
  if session.getTotalBytesTransferred = 0 then PROTOCOL_BYTES_PER_FRAME - 1
  else PROTOCOL_BYTES_PER_FRAME

/-- The payload of the next frame, padded with `0xFF`; the index has eight bits. -/
def payload (session : FastPacketProtocolSession) : List UInt8 :=
  (List.range session.bytesThisFrame.toNat).map fun j =>
    let index := session.getTotalBytesTransferred + UInt8.ofNat j
    if index < session.getMessageLength then session.data.getD index.toNat 0xFF else 0xFF

def transferFrame (key : FastPacketKey) (session : FastPacketProtocolSession) :
    TransmitFrame where
  parameterGroupNumber := key.parameterGroupNumber
  data := (session.getLastPacketNumber |||
      (session.sequenceNumber <<< SEQUENCE_NUMBER_BIT_OFFSET)) ::
    ((if session.getTotalBytesTransferred = 0 then [session.getMessageLength] else []) ++
      session.payload)
  source := key.source
  destination := key.destination
  priority := session.priority

/-- What the sending loop leaves behind. -/
structure Sent where
  session : FastPacketProtocolSession
  events : List Event
  refused : Bool

/-- The sending loop. Its bound, the number of remaining packets, shrinks with every frame that gets
out. The first argument counts the values left to the 8-bit counter. -/
def sendFrames (env : Environment) (key : FastPacketKey) :
    Nat → FastPacketProtocolSession → Sent
  | 0, session => ⟨session, [], false⟩
  | left + 1, session =>
    if 255 - left < session.getNumberOfRemainingPackets.toNat then
      let frame := session.transferFrame key
      if env.send frame then
        let rest := sendFrames env key left
          (session.addNumberOfBytesTransferred env.now session.bytesThisFrame)
        ⟨rest.session, .frame frame true :: rest.events, rest.refused⟩
      else ⟨session, [.frame frame false], true⟩
    else ⟨session, [], false⟩

/-- One round of sending; what is left of the session is closed when it timed out or
when nothing remains. -/
def updateTransmit (env : Environment) (key : FastPacketKey)
    (session : FastPacketProtocolSession) : Outcome :=
  let sent := session.sendFrames env key 256
  let timedOut : Outcome :=
    if sent.refused = true ∧ env.timeElapsed sent.session.timestamp > FP_TIMEOUT_MS then
      closeSession key sent.session false
    else (some sent.session, [])
  let done : Outcome :=
    if sent.session.getNumberOfRemainingPackets = 0 then closeSession key sent.session true
    else (timedOut.1, [])
  (done.1, sent.events ++ timedOut.2 ++ done.2)

def updateSession (env : Environment) (key : FastPacketKey)
    (session : FastPacketProtocolSession) : Outcome :=
  match session.direction with
  | .receive =>
    if env.timeElapsed session.timestamp > FP_TIMEOUT_MS then closeSession key session false
    else (some session, [])
  | .transmit => session.updateTransmit env key

def endpointInvalid (env : Environment) (key : FastPacketKey) : Bool :=
  !(env.world key.source).getAddressValid ||
    key.destination.any fun d => !(env.world d).getAddressValid

/-- The part of `update` for one session, also for one that is closed for an invalid party. -/
def update (env : Environment) (key : FastPacketKey) (session : FastPacketProtocolSession) :
    Outcome :=
  let updated := session.updateSession env key
  if endpointInvalid env key then (none, (closeSession key session false).2 ++ updated.2)
  else updated

def overwriteData (session : FastPacketProtocolSession) (offset : Nat) (chunk : List UInt8) :
    FastPacketProtocolSession :=
  { session with
    data := overwrite session.data offset chunk
    data_length := (length_overwrite _ _ _).trans session.data_length }

def copyIn (session : FastPacketProtocolSession) (now : UInt32) (payload : List UInt8) :
    FastPacketProtocolSession :=
  let bytesToCopy := min payload.length
    (session.getMessageLength - session.numberOfBytesTransferred).toNat
  (session.overwriteData session.numberOfBytesTransferred.toNat
    (payload.take bytesToCopy)).addNumberOfBytesTransferred now (UInt8.ofNat bytesToCopy)

def completedMessage (message : CANMessage) (session : FastPacketProtocolSession) :
    CANMessage where
  identifier := message.identifier
  data := session.data
  source := message.source
  destination := message.destination
  canPortIndex := message.canPortIndex
  timestampUs := message.timestampUs

/-- A frame for a session, which is closed by a frame that starts a new message. -/
def receiveFrame (env : Environment) (key : FastPacketKey)
    (callbacks : List ParameterGroupNumberCallbackData) (message : CANMessage)
    (session : FastPacketProtocolSession) : Outcome :=
  if message.getUint8At 0 &&& FRAME_COUNTER_BIT_MASK = 0 then closeSession key session false
  else if session.numberOfBytesTransferred ≥ session.getMessageLength then
    closeSession key session false
  else
    let session := session.copyIn env.now (message.data.drop 1)
    if session.numberOfBytesTransferred ≥ session.getMessageLength then
      (none, callbacks.map (.messageReceived · (session.completedMessage message)) ++
        (closeSession key session true).2)
    else (some session, [])

end FastPacketProtocolSession

end Isobus.FastPacket
