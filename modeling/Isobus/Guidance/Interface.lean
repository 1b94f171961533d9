import Isobus.Can.ReceivedMessages
import Isobus.Lib.BitFields
import Mathlib.Data.Rat.Floor

/-!
# The guidance interface

`isobus_guidance_interface.cpp`: the curvature that is commanded and the one that is estimated.
-/

namespace Isobus.Guidance

open Isobus.Can Isobus.Lib

def AGRICULTURAL_GUIDANCE_MACHINE_INFO : UInt32 := 0xAC00
def AGRICULTURAL_GUIDANCE_SYSTEM_COMMAND : UInt32 := 0xAD00
def GUIDANCE_MESSAGE_TX_INTERVAL_MS : UInt32 := 100
def GUIDANCE_MESSAGE_TIMEOUT_MS : UInt32 := 150
def CURVATURE_COMMAND_OFFSET_INVERSE_KM : ℚ := 8032
def CURVATURE_COMMAND_MAX_INVERSE_KM : ℚ := 32127 / 4
def CURVATURE_COMMAND_RESOLUTION_PER_BIT : ℚ := 1 / 4
def ZERO_CURVATURE_INVERSE_KM : UInt16 := 32128

def Priority3 : UInt32 := 3

def floatEpsilon : ℚ := 1 / 2 ^ 23

def roundf (x : ℚ) : ℤ := if 0 ≤ x then ⌊x + 1 / 2⌋ else ⌈x - 1 / 2⌉

def scaledCurvature (curvature : ℚ) : ℚ :=
  roundf (4 * ((curvature + CURVATURE_COMMAND_OFFSET_INVERSE_KM) /
    CURVATURE_COMMAND_RESOLUTION_PER_BIT)) / 4

/-- The cast of a number that is not negative; it has no meaning for numbers that do not fit. -/
def castUInt16 (x : ℚ) : Option UInt16 :=
  if ⌊x⌋ < 2 ^ 16 then some (.ofNat ⌊x⌋.toNat) else none

/-- The two senders test the curvature they call `tested` against the maximum, and encode the
other one. -/
def encodedCurvature (tested curvature : ℚ) : Option UInt16 :=
  if tested > CURVATURE_COMMAND_MAX_INVERSE_KM then some (32127 + ZERO_CURVATURE_INVERSE_KM)
  else if scaledCurvature curvature < 0 then some 0
  else castUInt16 (scaledCurvature curvature)

def decodedCurvature (raw : UInt16) : ℚ :=
  raw.toNat * CURVATURE_COMMAND_RESOLUTION_PER_BIT - CURVATURE_COMMAND_OFFSET_INVERSE_KM

def setCurvature (old curvature : ℚ) : ℚ :=
  if |old - curvature| > floatEpsilon then curvature else old

structure GuidanceSystemCommand where
  commandedCurvature : ℚ := 0
  commandedStatus : BitVec 2 := 3
  deriving DecidableEq

/-- Each state is kept by its number, of which the highest is the one that is not available. -/
structure GuidanceMachineInfo where
  estimatedCurvature : ℚ := 0
  mechanicalSystemLockoutState : BitVec 2 := 3
  guidanceSteeringSystemReadinessState : BitVec 2 := 3
  guidanceSteeringInputPositionStatus : BitVec 2 := 3
  guidanceSystemRemoteEngageSwitchStatus : BitVec 2 := 3
  requestResetCommandStatus : BitVec 2 := 3
  guidanceLimitStatus : BitVec 3 := 7
  guidanceSystemCommandExitReasonCode : UInt8 := 63
  deriving DecidableEq

def GuidanceSystemCommand.setCurvature (command : GuidanceSystemCommand) (curvature : ℚ) :
    GuidanceSystemCommand :=
  { command with commandedCurvature := Guidance.setCurvature command.commandedCurvature curvature }

def GuidanceMachineInfo.setEstimatedCurvature (info : GuidanceMachineInfo) (curvature : ℚ) :
    GuidanceMachineInfo :=
  { info with estimatedCurvature := Guidance.setCurvature info.estimatedCurvature curvature }

/-- What the interface does to its surroundings. -/
inductive GuidanceEvent
  /-- A message was handed to the network manager, which gave this answer. -/
  | frame (frame : TransmitFrame) (sent : Bool)
  /-- A curvature was cast to a number that it does not fit in. -/
  | undefinedCast
  | guidanceSystemCommand (source : CFRef) (command : Received GuidanceSystemCommand)
      (changed : Bool)
  | guidanceMachineInfo (source : CFRef) (info : Received GuidanceMachineInfo) (changed : Bool)
  deriving DecidableEq

/-- The senders are those that the interface was constructed with for each of the two messages. -/
structure AgriculturalGuidanceInterface where
  commandSender : Option CFRef
  machineInfoSender : Option CFRef
  destinationControlFunction : Option CFRef
  guidanceMachineInfoTransmitData : GuidanceMachineInfo := {}
  guidanceSystemCommandTransmitData : GuidanceSystemCommand := {}
  sendGuidanceSystemCommandFlag : Bool := false
  sendGuidanceMachineInfoFlag : Bool := false
  receivedGuidanceMachineInfoMessages : ReceivedMessages GuidanceMachineInfo := .empty
  receivedGuidanceSystemCommandMessages : ReceivedMessages GuidanceSystemCommand := .empty
  guidanceSystemCommandTransmitTimestamp : UInt32 := 0
  guidanceMachineInfoTransmitTimestamp : UInt32 := 0
  initialized : Bool := false

def commandBuffer (raw : UInt16) (status : BitVec 2) : List UInt8 :=
  [byteOf raw.toUInt32 0, byteOf raw.toUInt32 1, byteOfField status ||| 0xFC,
    0xFF, 0xFF, 0xFF, 0xFF, 0xFF]

def machineInfoBuffer (raw : UInt16) (info : GuidanceMachineInfo) : List UInt8 :=
  [byteOf raw.toUInt32 0, byteOf raw.toUInt32 1,
    (byteOfField info.mechanicalSystemLockoutState &&& (0x03 : UInt8)) |||
      ((byteOfField info.guidanceSteeringSystemReadinessState &&& 0x03) <<< 2) |||
      ((byteOfField info.guidanceSteeringInputPositionStatus &&& 0x03) <<< 4) |||
      ((byteOfField info.requestResetCommandStatus &&& 0x03) <<< 6),
    byteOfField info.guidanceLimitStatus <<< 5,
    (info.guidanceSystemCommandExitReasonCode &&& (0x3F : UInt8)) |||
      (byteOfField info.guidanceSystemRemoteEngageSwitchStatus <<< 6),
    0xFF, 0xFF, 0xFF]

namespace AgriculturalGuidanceInterface

variable (env : Environment) (interface : AgriculturalGuidanceInterface)

def guidanceSystemCommandFrame : Option TransmitFrame :=
  (encodedCurvature interface.guidanceMachineInfoTransmitData.estimatedCurvature
      interface.guidanceSystemCommandTransmitData.commandedCurvature).map fun raw =>
    { parameterGroupNumber := AGRICULTURAL_GUIDANCE_SYSTEM_COMMAND
      data := commandBuffer raw interface.guidanceSystemCommandTransmitData.commandedStatus
      source := interface.commandSender
      destination := interface.destinationControlFunction
      priority := Priority3 }

def guidanceMachineInfoFrame : Option TransmitFrame :=
  (encodedCurvature interface.guidanceMachineInfoTransmitData.estimatedCurvature
      interface.guidanceMachineInfoTransmitData.estimatedCurvature).map fun raw =>
    { parameterGroupNumber := AGRICULTURAL_GUIDANCE_MACHINE_INFO
      data := machineInfoBuffer raw interface.guidanceMachineInfoTransmitData
      source := interface.machineInfoSender
      destination := interface.destinationControlFunction
      priority := Priority3 }

def offer (sender : Option CFRef) (frame : Option TransmitFrame) : Bool × List GuidanceEvent :=
  match sender, frame with
  | none, _ => (false, [])
  | some _, some frame => (env.send frame, [.frame frame (env.send frame)])
  | some _, none => (false, [.undefinedCast])

def sendGuidanceSystemCommand : Bool × List GuidanceEvent :=
  offer env interface.commandSender interface.guidanceSystemCommandFrame

def sendGuidanceMachineInfo : Bool × List GuidanceEvent :=
  offer env interface.machineInfoSender interface.guidanceMachineInfoFrame

def processSystemCommandFlag : AgriculturalGuidanceInterface × List GuidanceEvent :=
  if interface.sendGuidanceSystemCommandFlag then
    ({ interface with
        sendGuidanceSystemCommandFlag := !(interface.sendGuidanceSystemCommand env).1 },
      (interface.sendGuidanceSystemCommand env).2)
  else (interface, [])

def processMachineInfoFlag : AgriculturalGuidanceInterface × List GuidanceEvent :=
  if interface.sendGuidanceMachineInfoFlag then
    ({ interface with
        sendGuidanceMachineInfoFlag := !(interface.sendGuidanceMachineInfo env).1 },
      (interface.sendGuidanceMachineInfo env).2)
  else (interface, [])

def processFlags : AgriculturalGuidanceInterface × List GuidanceEvent :=
  let afterCommand := interface.processSystemCommandFlag env
  let afterInfo := afterCommand.1.processMachineInfoFlag env
  (afterInfo.1, afterCommand.2 ++ afterInfo.2)

def scheduleMachineInfo : AgriculturalGuidanceInterface :=
  if env.timeExpired interface.guidanceMachineInfoTransmitTimestamp
      GUIDANCE_MESSAGE_TX_INTERVAL_MS && interface.machineInfoSender.isSome then
    { interface with
      sendGuidanceMachineInfoFlag := true
      guidanceMachineInfoTransmitTimestamp := env.now }
  else interface

def scheduleSystemCommand : AgriculturalGuidanceInterface :=
  if env.timeExpired interface.guidanceSystemCommandTransmitTimestamp
      GUIDANCE_MESSAGE_TX_INTERVAL_MS && interface.commandSender.isSome then
    { interface with
      sendGuidanceSystemCommandFlag := true
      guidanceSystemCommandTransmitTimestamp := env.now }
  else interface

def pruneReceived : AgriculturalGuidanceInterface :=
  { interface with
    receivedGuidanceMachineInfoMessages :=
      interface.receivedGuidanceMachineInfoMessages.prune env GUIDANCE_MESSAGE_TIMEOUT_MS
    receivedGuidanceSystemCommandMessages :=
      interface.receivedGuidanceSystemCommandMessages.prune env GUIDANCE_MESSAGE_TIMEOUT_MS }

def update : AgriculturalGuidanceInterface × List GuidanceEvent :=
  if interface.initialized then
    (((interface.pruneReceived env).scheduleMachineInfo env).scheduleSystemCommand env).processFlags
      env
  else (interface, [])

def readCommand (message : CANMessage) (old : GuidanceSystemCommand) : GuidanceSystemCommand where
  commandedCurvature :=
    setCurvature old.commandedCurvature (decodedCurvature (message.getUint16At 0))
  commandedStatus := fieldOfByte 2 (message.getUint8At 2 &&& 0x03)

def readMachineInfo (message : CANMessage) (old : GuidanceMachineInfo) : GuidanceMachineInfo where
  estimatedCurvature :=
    setCurvature old.estimatedCurvature (decodedCurvature (message.getUint16At 0))
  mechanicalSystemLockoutState := fieldOfByte 2 (message.getUint8At 2 &&& 0x03)
  guidanceSteeringSystemReadinessState := fieldOfByte 2 ((message.getUint8At 2 >>> 2) &&& 0x03)
  guidanceSteeringInputPositionStatus := fieldOfByte 2 ((message.getUint8At 2 >>> 4) &&& 0x03)
  requestResetCommandStatus := fieldOfByte 2 ((message.getUint8At 2 >>> 6) &&& 0x03)
  guidanceLimitStatus := fieldOfByte 3 (message.getUint8At 3 >>> 5)
  guidanceSystemCommandExitReasonCode := message.getUint8At 4 &&& 0x3F
  guidanceSystemRemoteEngageSwitchStatus := fieldOfByte 2 ((message.getUint8At 4 >>> 6) &&& 0x03)

def processGuidanceSystemCommand (source : CFRef) (message : CANMessage) :
    AgriculturalGuidanceInterface × List GuidanceEvent :=
  let messages := interface.receivedGuidanceSystemCommandMessages
  let old := (messages.entryOf source {}).data
  let received : Received GuidanceSystemCommand := ⟨env.now, readCommand message old⟩
  ({ interface with
      receivedGuidanceSystemCommandMessages := messages.receive source {} fun _ => received },
    [.guidanceSystemCommand source received (readCommand message old ≠ old)])

def processGuidanceMachineInfo (source : CFRef) (message : CANMessage) :
    AgriculturalGuidanceInterface × List GuidanceEvent :=
  let messages := interface.receivedGuidanceMachineInfoMessages
  let old := (messages.entryOf source {}).data
  let received : Received GuidanceMachineInfo := ⟨env.now, readMachineInfo message old⟩
  ({ interface with
      receivedGuidanceMachineInfoMessages := messages.receive source {} fun _ => received },
    [.guidanceMachineInfo source received (readMachineInfo message old ≠ old)])

def processRxMessage (message : CANMessage) :
    AgriculturalGuidanceInterface × List GuidanceEvent :=
  let parameterGroupNumber := message.identifier.getParameterGroupNumber
  if parameterGroupNumber = AGRICULTURAL_GUIDANCE_SYSTEM_COMMAND then
    if message.data.length = CAN_DATA_LENGTH then
      match message.source with
      | some source => interface.processGuidanceSystemCommand env source message
      | none => (interface, [])
    else (interface, [])
  else if parameterGroupNumber = AGRICULTURAL_GUIDANCE_MACHINE_INFO then
    if message.data.length = CAN_DATA_LENGTH then
      match message.source with
      | some source => interface.processGuidanceMachineInfo env source message
      | none => (interface, [])
    else (interface, [])
  else (interface, [])

end AgriculturalGuidanceInterface

end Isobus.Guidance
