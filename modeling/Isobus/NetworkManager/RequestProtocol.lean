import Isobus.NetworkManager.AddressClaim

/-!
# The parameter group number request protocol

How requests are answered (`can_parameter_group_number_request_protocol.cpp`).
-/

namespace Isobus.NetworkManager

open Isobus.Can Isobus.Lib

inductive AcknowledgementType
  | positive
  | negative
  | accessDenied
  | cannotRespond
  deriving DecidableEq

def AcknowledgementType.toUInt8 : AcknowledgementType → UInt8
  | positive => 0
  | negative => 1
  | accessDenied => 2
  | cannotRespond => 3

namespace CANLibParameterGroupNumber

/-- The group of the callbacks that are asked about every request. -/
def any : UInt32 := 0

def requestForRepetitionRate : UInt32 := 0xCC00
def acknowledge : UInt32 := 0xE800

end CANLibParameterGroupNumber

def PGN_REQUEST_LENGTH : Nat := 3

/-- Whether a callback could process the request, and what it writes to `acknowledge` and
`acknowledgeType`. -/
structure Answer where
  accepts : Bool
  acknowledge : Option Bool := none
  acknowledgeType : Option AcknowledgementType := none
  deriving DecidableEq

/-- A callback with its parent. It is given the requested group, the requester and what the two
variables hold. -/
structure PGNRequestCallbackInfo where
  callbackFunction : UInt32 → Option CFRef → Bool → AcknowledgementType → Answer
  pgn : UInt32

/-- The same for a requested rate, where there is nothing to acknowledge. -/
structure PGNRequestForRepetitionRateCallbackInfo where
  callbackFunction : UInt32 → Option CFRef → Option CFRef → UInt16 → Bool
  pgn : UInt32

structure ParameterGroupNumberRequestProtocol where
  myControlFunction : CFRef
  pgnRequestCallbacks : List PGNRequestCallbackInfo
  repetitionRateCallbacks : List PGNRequestForRepetitionRateCallbackInfo

/-- What one message leads to: the answers of the callbacks that were called, and the messages
handed to the network manager. -/
structure Reaction where
  answers : List Answer := []
  rateAnswers : List Bool := []
  sent : List TransmitFrame := []
  deriving DecidableEq

namespace ParameterGroupNumberRequestProtocol

variable (world : World)

def acknowledgement (protocol : ParameterGroupNumberRequestProtocol) (type : AcknowledgementType)
    (parameterGroupNumber : UInt32) (destination : CFRef) : TransmitFrame where
  parameterGroupNumber := CANLibParameterGroupNumber.acknowledge
  data := [type.toUInt8, 0xFF, 0xFF, 0xFF, (world destination).address,
    byteOf parameterGroupNumber 0, byteOf parameterGroupNumber 1, byteOf parameterGroupNumber 2]
  source := some protocol.myControlFunction
  destination := none
  priority := PriorityDefault6

def sendAcknowledgement (protocol : ParameterGroupNumberRequestProtocol)
    (type : AcknowledgementType) (parameterGroupNumber : UInt32) (destination : Option CFRef) :
    List TransmitFrame :=
  match destination with
  | none => []
  | some destination => [protocol.acknowledgement world type parameterGroupNumber destination]

def askCallbacks (protocol : ParameterGroupNumberRequestProtocol) (message : CANMessage)
    (requestedPGN : UInt32) (shouldAck : Bool) (ackType : AcknowledgementType) :
    List PGNRequestCallbackInfo → Reaction
  | [] =>
    -- no callback processed the request
    { sent :=
        if message.destination ≠ none then
          protocol.sendAcknowledgement world .negative requestedPGN message.source
        else [] }
  | info :: rest =>
    if info.pgn = requestedPGN ∨ CANLibParameterGroupNumber.any = info.pgn then
      let answer := info.callbackFunction requestedPGN message.source shouldAck ackType
      let shouldAck := answer.acknowledge.getD shouldAck
      let ackType := answer.acknowledgeType.getD ackType
      if answer.accepts then
        { answers := [answer]
          sent :=
            if shouldAck ∧ message.destination ≠ none then
              protocol.sendAcknowledgement world ackType requestedPGN message.source
            else [] }
      else
        let reaction := askCallbacks protocol message requestedPGN shouldAck ackType rest
        { reaction with answers := answer :: reaction.answers }
    else askCallbacks protocol message requestedPGN shouldAck ackType rest

/-- The loop over the callbacks for a rate, which stops at the first that can process it. -/
def askRateCallbacks (message : CANMessage) (requestedPGN : UInt32) (requestedRate : UInt16) :
    List PGNRequestForRepetitionRateCallbackInfo → List Bool
  | [] => []
  | info :: rest =>
    if info.pgn = requestedPGN ∨ CANLibParameterGroupNumber.any = info.pgn then
      if info.callbackFunction requestedPGN message.source message.destination requestedRate then
        [true]
      else false :: askRateCallbacks message requestedPGN requestedRate rest
    else askRateCallbacks message requestedPGN requestedRate rest

def processMessage (protocol : ParameterGroupNumberRequestProtocol) (message : CANMessage) :
    Reaction :=
  if (message.destination = none ∧
        BROADCAST_CAN_ADDRESS = message.identifier.getDestinationAddress) ∨
      message.destination = some protocol.myControlFunction then
    if message.identifier.getParameterGroupNumber =
        CANLibParameterGroupNumber.requestForRepetitionRate then
      if CAN_DATA_LENGTH = message.data.length ∧ message.destination ≠ none then
        { rateAnswers := askRateCallbacks message (message.getUint24At 0) (message.getUint16At 3)
            protocol.repetitionRateCallbacks }
      else {}
    else if message.identifier.getParameterGroupNumber = parameterGroupNumberRequest then
      if PGN_REQUEST_LENGTH ≤ message.data.length then
        protocol.askCallbacks world message (message.getUint24At 0) false .negative
          protocol.pgnRequestCallbacks
      else {}
    else {}
  else {}

end ParameterGroupNumberRequestProtocol

end Isobus.NetworkManager
