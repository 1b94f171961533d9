import Isobus.Can.ReceivedMessages
import Isobus.Lib.BitFields

/-!
# The maintain power interface

`isobus_maintain_power_interface.cpp`: what others request of the tractor, and our own request
to keep the power on for some time after the key was switched off.
-/

namespace Isobus.MaintainPower

open Isobus.Can Isobus.Lib

def MAINTAIN_POWER : UInt32 := 0xFE47
def WHEEL_BASED_SPEED_AND_DISTANCE : UInt32 := 0xFE48
def MAINTAIN_POWER_TIMEOUT_MS : UInt32 := 2000

/-- `WheelBasedMachineSpeedData::KeySwitchState`. -/
inductive KeySwitchState
  | off
  | notOff
  | error
  | notAvailable
  deriving DecidableEq

def KeySwitchState.ofByte (byte : UInt8) : KeySwitchState :=
  if byte = 0 then .off
  else if byte = 1 then .notOff
  else if byte = 2 then .error
  else .notAvailable

/-- What a message says. Each state is kept by its number, of which 3 is the one that is not
available. -/
structure MaintainPowerData where
  currentImplementInWorkState : BitVec 2 := 3
  currentImplementReadyToWorkState : BitVec 2 := 3
  currentImplementParkState : BitVec 2 := 3
  currentImplementTransportState : BitVec 2 := 3
  currentMaintainActuatorPowerState : BitVec 2 := 3
  currentMaintainECUPowerState : BitVec 2 := 3
  deriving DecidableEq

/-- What the interface does to its surroundings. -/
inductive MaintainPowerEvent
  /-- A message was handed to the network manager, which gave this answer. -/
  | frame (frame : TransmitFrame) (sent : Bool)
  | keySwitchTransitionOff
  | maintainPowerData (source : CFRef) (data : Received MaintainPowerData) (changed : Bool)
  deriving DecidableEq

structure MaintainPowerInterface where
  sender : Option CFRef
  maintainPowerTransmitData : MaintainPowerData := {}
  receivedMaintainPowerMessages : ReceivedMessages MaintainPowerData := .empty
  sendMaintainPowerFlag : Bool := false
  keyNotOffTimestamp : UInt32 := 0
  keyOffTimestamp : UInt32 := 0
  maintainPowerTransmitTimestamp : UInt32 := 0
  maintainPowerTime : UInt32 := 0
  initialized : Bool := false

namespace MaintainPowerInterface

variable (env : Environment) (interface : MaintainPowerInterface)

def setMaintainPowerTime (timeToMaintainPower : UInt32) : MaintainPowerInterface :=
  { interface with maintainPowerTime := timeToMaintainPower }

def maintainPowerFrame : TransmitFrame where
  parameterGroupNumber := MAINTAIN_POWER
  data :=
    let data := interface.maintainPowerTransmitData
    [(0x0F : UInt8) ||| (byteOfField data.currentMaintainActuatorPowerState <<< 4) |||
        (byteOfField data.currentMaintainECUPowerState <<< 6),
      byteOfField data.currentImplementInWorkState |||
        (byteOfField data.currentImplementReadyToWorkState <<< 2) |||
        (byteOfField data.currentImplementParkState <<< 4) |||
        (byteOfField data.currentImplementTransportState <<< 6),
      0xFF, 0xFF, 0xFF, 0xFF, 0xFF, 0xFF]
  source := interface.sender
  destination := none
  priority := PriorityDefault6

def processFlags : MaintainPowerInterface × List MaintainPowerEvent :=
  if interface.sendMaintainPowerFlag then
    ({ interface with sendMaintainPowerFlag := !env.send interface.maintainPowerFrame },
      [.frame interface.maintainPowerFrame (env.send interface.maintainPowerFrame)])
  else (interface, [])

def isTransmitDue : Bool :=
  env.timeExpired interface.maintainPowerTransmitTimestamp (MAINTAIN_POWER_TIMEOUT_MS / 2) &&
    interface.maintainPowerTransmitTimestamp ≠ 0 &&
    env.timeElapsed interface.keyOffTimestamp < interface.maintainPowerTime &&
    interface.sender.isSome

def schedule : MaintainPowerInterface :=
  if interface.isTransmitDue env then
    { interface with
      sendMaintainPowerFlag := true
      maintainPowerTransmitTimestamp := env.now }
  else interface

def pruneReceived : MaintainPowerInterface :=
  { interface with
    receivedMaintainPowerMessages :=
      interface.receivedMaintainPowerMessages.prune env MAINTAIN_POWER_TIMEOUT_MS }

def update : MaintainPowerInterface × List MaintainPowerEvent :=
  if interface.initialized then
    ((interface.pruneReceived env).schedule env).processFlags env
  else (interface, [])

def decodedKeySwitchState (message : CANMessage) : KeySwitchState :=
  .ofByte ((message.getUint8At 7 >>> 2) &&& 0x03)

/-- The timestamps double as switches: zero stands for a state that the key does not have. -/
def processKeySwitchState :
    KeySwitchState → MaintainPowerInterface × List MaintainPowerEvent
  | .off =>
    if interface.keyNotOffTimestamp ≠ 0 then
      ({ interface with
          keyNotOffTimestamp := 0
          keyOffTimestamp := env.now
          sendMaintainPowerFlag := true
          maintainPowerTransmitTimestamp := env.now },
        [.keySwitchTransitionOff])
    else if interface.keyOffTimestamp = 0 then
      ({ interface with keyOffTimestamp := env.now }, [])
    else (interface, [])
  | .notOff =>
    if interface.keyOffTimestamp ≠ 0 then
      ({ interface with
          keyOffTimestamp := 0
          keyNotOffTimestamp := env.now
          maintainPowerTransmitTimestamp := 0 }, [])
    else if interface.keyNotOffTimestamp = 0 then
      ({ interface with
          keyNotOffTimestamp := env.now
          maintainPowerTransmitTimestamp := 0 }, [])
    else ({ interface with maintainPowerTransmitTimestamp := 0 }, [])
  | .error =>
    ({ interface with
        keyOffTimestamp := 0
        keyNotOffTimestamp := 0
        maintainPowerTransmitTimestamp := 0 }, [])
  | .notAvailable => (interface, [])

def decodedStates (message : CANMessage) : MaintainPowerData where
  currentMaintainActuatorPowerState := fieldOfByte 2 ((message.getUint8At 0 >>> 4) &&& 0x03)
  currentMaintainECUPowerState := fieldOfByte 2 ((message.getUint8At 0 >>> 6) &&& 0x03)
  currentImplementInWorkState := fieldOfByte 2 (message.getUint8At 1 &&& 0x03)
  currentImplementReadyToWorkState := fieldOfByte 2 ((message.getUint8At 1 >>> 2) &&& 0x03)
  currentImplementParkState := fieldOfByte 2 ((message.getUint8At 1 >>> 4) &&& 0x03)
  currentImplementTransportState := fieldOfByte 2 ((message.getUint8At 1 >>> 6) &&& 0x03)

def processMaintainPower (source : CFRef) (message : CANMessage) :
    MaintainPowerInterface × List MaintainPowerEvent :=
  let messages := interface.receivedMaintainPowerMessages
  let received : Received MaintainPowerData := ⟨env.now, decodedStates message⟩
  ({ interface with
      receivedMaintainPowerMessages := messages.receive source {} fun _ => received },
    [.maintainPowerData source received
      (decodedStates message ≠ (messages.entryOf source {}).data)])

def processRxMessage (message : CANMessage) :
    MaintainPowerInterface × List MaintainPowerEvent :=
  let parameterGroupNumber := message.identifier.getParameterGroupNumber
  if parameterGroupNumber = WHEEL_BASED_SPEED_AND_DISTANCE then
    if message.data.length = CAN_DATA_LENGTH ∧ message.source.isSome then
      interface.processKeySwitchState env (decodedKeySwitchState message)
    else (interface, [])
  else if parameterGroupNumber = MAINTAIN_POWER then
    if message.data.length = CAN_DATA_LENGTH then
      match message.source with
      | some source => interface.processMaintainPower env source message
      | none => (interface, [])
    else (interface, [])
  else (interface, [])

end MaintainPowerInterface

end Isobus.MaintainPower
