import Isobus.Can.ReceivedMessages
import Isobus.Lib.BitFields
import Mathlib.Logic.Function.Basic

/-!
# The speed messages interface

`isobus_speed_distance_messages.cpp`: four messages about how fast a machine is going.
-/

namespace Isobus.SpeedDistance

open Isobus.Can Isobus.Lib

def SPEED_DISTANCE_MESSAGE_TX_INTERVAL_MS : UInt32 := 100
def SPEED_DISTANCE_MESSAGE_RX_TIMEOUT_MS : UInt32 := 300
def SAEds05_MAX_VALUE : UInt32 := 4211081215
def SAEvl01_MAX_VALUE : UInt16 := 64255

def Priority3 : UInt32 := 3

/-- The getters of distances: values above the maximum should be ignored. -/
def shownDistance (distance : UInt32) : UInt32 :=
  if distance > SAEds05_MAX_VALUE then 0 else distance

def shownSpeed (speed : UInt16) : UInt16 := if speed > SAEvl01_MAX_VALUE then 0 else speed

structure WheelBasedMachineSpeedData where
  wheelBasedMachineDistance : UInt32 := 0
  wheelBasedMachineSpeed : UInt16 := 0
  maximumTimeOfTractorPower : UInt8 := 0
  machineDirectionState : BitVec 2 := 3
  keySwitchState : BitVec 2 := 3
  implementStartStopOperationsState : BitVec 2 := 3
  operatorDirectionReversedState : BitVec 2 := 3
  deriving DecidableEq

structure MachineSelectedSpeedData where
  machineSelectedSpeedDistance : UInt32 := 0
  machineSelectedSpeed : UInt16 := 0
  exitReasonCode : UInt8 := 63
  source : BitVec 3 := 7
  limitStatus : BitVec 3 := 7
  machineDirectionState : BitVec 2 := 3
  deriving DecidableEq

structure GroundBasedSpeedData where
  groundBasedMachineDistance : UInt32 := 0
  groundBasedMachineSpeed : UInt16 := 0
  machineDirectionState : BitVec 2 := 3
  deriving DecidableEq

structure MachineSelectedSpeedCommandData where
  speedCommandedSetpoint : UInt16 := 0
  speedSetpointLimit : UInt16 := 0
  machineDirectionCommand : BitVec 2 := 3
  deriving DecidableEq

def wheelBasedSpeedBuffer (data : WheelBasedMachineSpeedData) : List UInt8 :=
  let speed := (shownSpeed data.wheelBasedMachineSpeed).toUInt32
  let distance := shownDistance data.wheelBasedMachineDistance
  [byteOf speed 0, byteOf speed 1,
    byteOf distance 0, byteOf distance 1, byteOf distance 2, byteOf distance 3,
    data.maximumTimeOfTractorPower,
    byteOfField data.machineDirectionState ||| (byteOfField data.keySwitchState <<< 2) |||
      (byteOfField data.implementStartStopOperationsState <<< 4) |||
      (byteOfField data.operatorDirectionReversedState <<< 6)]

def machineSelectedSpeedBuffer (data : MachineSelectedSpeedData) : List UInt8 :=
  let speed := (shownSpeed data.machineSelectedSpeed).toUInt32
  let distance := shownDistance data.machineSelectedSpeedDistance
  [byteOf speed 0, byteOf speed 1,
    byteOf distance 0, byteOf distance 1, byteOf distance 2, byteOf distance 3,
    (0xC0 : UInt8) ||| (data.exitReasonCode &&& 0x7F),
    byteOfField data.machineDirectionState ||| (byteOfField data.source <<< 2) |||
      (byteOfField data.limitStatus <<< 5)]

def groundBasedSpeedBuffer (data : GroundBasedSpeedData) : List UInt8 :=
  let speed := (shownSpeed data.groundBasedMachineSpeed).toUInt32
  let distance := shownDistance data.groundBasedMachineDistance
  [byteOf speed 0, byteOf speed 1,
    byteOf distance 0, byteOf distance 1, byteOf distance 2, byteOf distance 3,
    0xFF, (0xFC : UInt8) ||| byteOfField data.machineDirectionState]

def machineSelectedSpeedCommandBuffer (data : MachineSelectedSpeedCommandData) : List UInt8 :=
  let setpoint := (shownSpeed data.speedCommandedSetpoint).toUInt32
  let limit := (shownSpeed data.speedSetpointLimit).toUInt32
  [byteOf setpoint 0, byteOf setpoint 1, byteOf limit 0, byteOf limit 1, 0xFF, 0xFF, 0xFF,
    (0xFC : UInt8) ||| byteOfField data.machineDirectionCommand]

def decodedWheelBasedSpeed (message : CANMessage) : WheelBasedMachineSpeedData where
  wheelBasedMachineSpeed := message.getUint16At 0
  wheelBasedMachineDistance := message.getUint32At 2
  maximumTimeOfTractorPower := message.getUint8At 6
  machineDirectionState := fieldOfByte 2 (message.getUint8At 7 &&& 0x03)
  keySwitchState := fieldOfByte 2 ((message.getUint8At 7 >>> 2) &&& 0x03)
  implementStartStopOperationsState := fieldOfByte 2 ((message.getUint8At 7 >>> 4) &&& 0x03)
  operatorDirectionReversedState := fieldOfByte 2 ((message.getUint8At 7 >>> 6) &&& 0x03)

/-- The limit status is read without its highest bit. -/
def decodedMachineSelectedSpeed (message : CANMessage) : MachineSelectedSpeedData where
  machineSelectedSpeed := message.getUint16At 0
  machineSelectedSpeedDistance := message.getUint32At 2
  exitReasonCode := message.getUint8At 6 &&& 0x3F
  machineDirectionState := fieldOfByte 2 (message.getUint8At 7 &&& 0x03)
  source := fieldOfByte 3 ((message.getUint8At 7 >>> 2) &&& 0x07)
  limitStatus := fieldOfByte 3 ((message.getUint8At 7 >>> 5) &&& 0x03)

def decodedGroundBasedSpeed (message : CANMessage) : GroundBasedSpeedData where
  groundBasedMachineSpeed := message.getUint16At 0
  groundBasedMachineDistance := message.getUint32At 2
  machineDirectionState := fieldOfByte 2 (message.getUint8At 7 &&& 0x03)

def decodedMachineSelectedSpeedCommand (message : CANMessage) :
    MachineSelectedSpeedCommandData where
  speedCommandedSetpoint := message.getUint16At 0
  speedSetpointLimit := message.getUint16At 2
  machineDirectionCommand := fieldOfByte 2 (message.getUint8At 7 &&& 0x03)

/-- The messages, in the order of their flags. -/
inductive SpeedMessage
  | wheelBasedSpeed
  | machineSelectedSpeed
  | groundBasedSpeed
  | machineSelectedSpeedCommand
  deriving DecidableEq

namespace SpeedMessage

def transmitFlags : List SpeedMessage :=
  [wheelBasedSpeed, machineSelectedSpeed, groundBasedSpeed, machineSelectedSpeedCommand]

def parameterGroupNumber : SpeedMessage → UInt32
  | wheelBasedSpeed => 0xFE48
  | machineSelectedSpeed => 0xF022
  | groundBasedSpeed => 0xFE49
  | machineSelectedSpeedCommand => 0xFD43

abbrev Data : SpeedMessage → Type
  | wheelBasedSpeed => WheelBasedMachineSpeedData
  | machineSelectedSpeed => MachineSelectedSpeedData
  | groundBasedSpeed => GroundBasedSpeedData
  | machineSelectedSpeedCommand => MachineSelectedSpeedCommandData

instance decidableEqData : (kind : SpeedMessage) → DecidableEq kind.Data
  | wheelBasedSpeed => inferInstanceAs (DecidableEq WheelBasedMachineSpeedData)
  | machineSelectedSpeed => inferInstanceAs (DecidableEq MachineSelectedSpeedData)
  | groundBasedSpeed => inferInstanceAs (DecidableEq GroundBasedSpeedData)
  | machineSelectedSpeedCommand => inferInstanceAs (DecidableEq MachineSelectedSpeedCommandData)

def constructed : (kind : SpeedMessage) → kind.Data
  | wheelBasedSpeed => ({} : WheelBasedMachineSpeedData)
  | machineSelectedSpeed => ({} : MachineSelectedSpeedData)
  | groundBasedSpeed => ({} : GroundBasedSpeedData)
  | machineSelectedSpeedCommand => ({} : MachineSelectedSpeedCommandData)

def buffer : (kind : SpeedMessage) → kind.Data → List UInt8
  | wheelBasedSpeed => wheelBasedSpeedBuffer
  | machineSelectedSpeed => machineSelectedSpeedBuffer
  | groundBasedSpeed => groundBasedSpeedBuffer
  | machineSelectedSpeedCommand => machineSelectedSpeedCommandBuffer

def decoded : (kind : SpeedMessage) → CANMessage → kind.Data
  | wheelBasedSpeed => decodedWheelBasedSpeed
  | machineSelectedSpeed => decodedMachineSelectedSpeed
  | groundBasedSpeed => decodedGroundBasedSpeed
  | machineSelectedSpeedCommand => decodedMachineSelectedSpeedCommand

/-- Whether a setter tells that it changed a value; those of the command are not asked. -/
def changed (kind : SpeedMessage) (new old : kind.Data) : Bool :=
  kind ≠ machineSelectedSpeedCommand && new ≠ old

end SpeedMessage

/-- What the interface does to its surroundings. -/
inductive SpeedEvent
  /-- A message was handed to the network manager, which gave this answer. -/
  | frame (frame : TransmitFrame) (sent : Bool)
  | received (kind : SpeedMessage) (source : CFRef) (data : Received kind.Data) (changed : Bool)

/-- The senders are those that the interface was constructed with for each of the messages. -/
structure SpeedMessagesInterface where
  sender : SpeedMessage → Option CFRef
  transmitData : (kind : SpeedMessage) → kind.Data := SpeedMessage.constructed
  receivedMessages : (kind : SpeedMessage) → ReceivedMessages kind.Data := fun _ => .empty
  transmitFlag : SpeedMessage → Bool := fun _ => false
  transmitTimestamp : SpeedMessage → UInt32 := fun _ => 0
  initialized : Bool := false

def speedMessage? (parameterGroupNumber : UInt32) : Option SpeedMessage :=
  SpeedMessage.transmitFlags.find? (·.parameterGroupNumber = parameterGroupNumber)

namespace SpeedMessagesInterface

variable (env : Environment) (interface : SpeedMessagesInterface)

def frame (kind : SpeedMessage) : TransmitFrame where
  parameterGroupNumber := kind.parameterGroupNumber
  data := kind.buffer (interface.transmitData kind)
  source := interface.sender kind
  destination := none
  priority := Priority3

def send (kind : SpeedMessage) : Bool × List SpeedEvent :=
  if (interface.sender kind).isSome then
    (env.send (interface.frame kind),
      [.frame (interface.frame kind) (env.send (interface.frame kind))])
  else (false, [])

def processFlags : SpeedMessagesInterface × List SpeedEvent :=
  ({ interface with
      transmitFlag := fun kind => interface.transmitFlag kind && !(interface.send env kind).1 },
    (SpeedMessage.transmitFlags.filter interface.transmitFlag).flatMap fun kind =>
      (interface.send env kind).2)

def isTransmitDue (kind : SpeedMessage) : Bool :=
  env.timeExpired (interface.transmitTimestamp kind) SPEED_DISTANCE_MESSAGE_TX_INTERVAL_MS &&
    (interface.sender kind).isSome

def schedule : SpeedMessagesInterface :=
  { interface with
    transmitFlag := fun kind => interface.isTransmitDue env kind || interface.transmitFlag kind
    transmitTimestamp := fun kind =>
      if interface.isTransmitDue env kind then env.now else interface.transmitTimestamp kind }

def pruneReceived : SpeedMessagesInterface :=
  { interface with
    receivedMessages := fun kind =>
      (interface.receivedMessages kind).prune env SPEED_DISTANCE_MESSAGE_RX_TIMEOUT_MS }

def update : SpeedMessagesInterface × List SpeedEvent :=
  if interface.initialized then ((interface.pruneReceived env).schedule env).processFlags env
  else (interface, [])

def receive (kind : SpeedMessage) (source : CFRef) (message : CANMessage) :
    SpeedMessagesInterface × List SpeedEvent :=
  let messages := interface.receivedMessages kind
  let received : Received kind.Data := ⟨env.now, kind.decoded message⟩
  ({ interface with
      receivedMessages := Function.update interface.receivedMessages kind
        (messages.receive source kind.constructed fun _ => received) },
    [.received kind source received
      (kind.changed (kind.decoded message) (messages.entryOf source kind.constructed).data)])

def processRxMessage (message : CANMessage) : SpeedMessagesInterface × List SpeedEvent :=
  match speedMessage? message.identifier.getParameterGroupNumber with
  | some kind =>
    if message.data.length = CAN_DATA_LENGTH then
      match message.source with
      | some source => interface.receive env kind source message
      | none => (interface, [])
    else (interface, [])
  | none => (interface, [])

end SpeedMessagesInterface

end Isobus.SpeedDistance
