import Isobus.Nmea2000.MessageDefinitions
import Mathlib.Logic.Function.Basic

/-!
# The NMEA 2000 message interface

`nmea2000_message_interface.cpp`. The source has a member of its own for each of the seven classes
wherever this model has a function of the class.
-/

namespace Isobus.Nmea2000

open Isobus.Can Isobus.Lib

namespace MessageClass

def transmitFlags : List MessageClass :=
  [courseOverGroundSpeedOverGroundRapidUpdate, datum, gnssPositionData,
    positionDeltaHighPrecisionRapidUpdate, positionRapidUpdate, rateOfTurn, vesselHeading]

def parameterGroupNumber : MessageClass → UInt32
  | courseOverGroundSpeedOverGroundRapidUpdate => 0x1F802
  | datum => 0x1F814
  | gnssPositionData => 0x1F805
  | positionDeltaHighPrecisionRapidUpdate => 0x1F803
  | positionRapidUpdate => 0x1F801
  | rateOfTurn => 0x1F113
  | vesselHeading => 0x1F112

def getTimeout : MessageClass → UInt32
  | courseOverGroundSpeedOverGroundRapidUpdate => 250
  | datum => 10000
  | gnssPositionData => 1000
  | positionDeltaHighPrecisionRapidUpdate => 250
  | positionRapidUpdate => 100
  | rateOfTurn => 100
  | vesselHeading => 100

def priority : MessageClass → UInt32
  | datum => PriorityDefault6
  | gnssPositionData => 3
  | _ => 2

end MessageClass

/-- What the interface does to its surroundings. -/
inductive Nmea2000Event
  /-- A message was handed to the network manager, or to the fast packet protocol, which gave this
  answer. -/
  | message (frame : TransmitFrame) (sent : Bool)
  | received (kind : MessageClass) (source : CFRef) (data : Received kind.Data)
      (anySignalChanged : Bool)
  /-- A message object was read outside of the received message. -/
  | thrown

structure NMEA2000MessageInterface where
  sender : Option CFRef
  sendCyclically : MessageClass → Bool
  transmitMessage : (kind : MessageClass) → Received kind.Data :=
    fun kind => { data := kind.constructed }
  receivedMessages : (kind : MessageClass) → ReceivedMessages kind.Data := fun _ => .empty
  transmitFlag : MessageClass → Bool := fun _ => false
  initialized : Bool := false

def messageClass? (parameterGroupNumber : UInt32) : Option MessageClass :=
  MessageClass.transmitFlags.find? (·.parameterGroupNumber = parameterGroupNumber)

namespace NMEA2000MessageInterface

variable (env : Environment) (interface : NMEA2000MessageInterface)

def frame (kind : MessageClass) : TransmitFrame where
  parameterGroupNumber := kind.parameterGroupNumber
  data := kind.serialize (interface.transmitMessage kind).data
  source := interface.sender
  destination := none
  priority := kind.priority

def processFlag (kind : MessageClass) : Bool × List Nmea2000Event :=
  if interface.sender.isSome then
    (env.send (interface.frame kind),
      [.message (interface.frame kind) (env.send (interface.frame kind))])
  else (true, [])

def processFlags : NMEA2000MessageInterface × List Nmea2000Event :=
  ({ interface with
      transmitFlag := fun kind =>
        interface.transmitFlag kind && !(interface.processFlag env kind).1 },
    (MessageClass.transmitFlags.filter interface.transmitFlag).flatMap fun kind =>
      (interface.processFlag env kind).2)

def isTransmitDue (kind : MessageClass) : Bool :=
  interface.sendCyclically kind &&
    env.timeExpired (interface.transmitMessage kind).timestamp kind.getTimeout

def checkTransmitTimeouts : NMEA2000MessageInterface :=
  { interface with
    transmitFlag := fun kind => interface.isTransmitDue env kind || interface.transmitFlag kind
    transmitMessage := fun kind =>
      if interface.isTransmitDue env kind then
        { interface.transmitMessage kind with timestamp := env.now }
      else interface.transmitMessage kind }

def checkReceiveTimeouts : NMEA2000MessageInterface :=
  { interface with
    receivedMessages := fun kind =>
      (interface.receivedMessages kind).prune env (3 * kind.getTimeout) }

def update : NMEA2000MessageInterface × List Nmea2000Event :=
  if interface.initialized then
    let processed := (interface.checkTransmitTimeouts env).processFlags env
    (processed.1.checkReceiveTimeouts env, processed.2)
  else (interface, [])

def receive (kind : MessageClass) (source : CFRef) (message : CANMessage) :
    NMEA2000MessageInterface × List Nmea2000Event :=
  let messages := interface.receivedMessages kind
  let read := kind.deserialize env.now message (messages.entryOf source kind.constructed)
  ({ interface with
      receivedMessages := Function.update interface.receivedMessages kind
        (messages.receive source kind.constructed fun _ => read.received) },
    if read.thrown then [.thrown] else [.received kind source read.received read.changed])

def processRxMessage (message : CANMessage) :
    NMEA2000MessageInterface × List Nmea2000Event :=
  match messageClass? message.identifier.getParameterGroupNumber, message.source with
  | some kind, some source => interface.receive env kind source message
  | _, _ => (interface, [])

end NMEA2000MessageInterface

end Isobus.Nmea2000
