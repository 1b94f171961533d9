import Isobus.Can.Identifier
import Isobus.Lib.LittleEndian

/-!
# Control functions, messages and frames

Who talks (`can_control_function.cpp`), what arrives (`can_message.cpp`), what is sent and how the
stack is configured (`can_network_configuration.cpp`). Control functions are shared objects that
change behind the back of the protocols: a `World` says what a reference points to at the moment of
a step.
-/

namespace Isobus.Can

open Isobus.Lib

inductive ControlFunctionType
  | internal
  | external
  | partnered
  deriving DecidableEq

structure ControlFunction where
  controlFunctionType : ControlFunctionType
  controlFunctionNAME : UInt64
  address : UInt8
  canPortIndex : UInt8
  deriving DecidableEq

def ControlFunction.getAddressValid (controlFunction : ControlFunction) : Bool :=
  controlFunction.address ≠ BROADCAST_CAN_ADDRESS && controlFunction.address ≠ NULL_CAN_ADDRESS

abbrev CFRef := Nat

abbrev World := CFRef → ControlFunction

structure CANMessage where
  identifier : CANIdentifier
  data : List UInt8
  source : Option CFRef
  destination : Option CFRef
  canPortIndex : UInt8
  timestampUs : UInt64
  deriving DecidableEq

namespace CANMessage

def hasValidSourceControlFunction (world : World) (message : CANMessage) : Bool :=
  message.source.any fun c => (world c).getAddressValid

def hasValidDestinationControlFunction (world : World) (message : CANMessage) : Bool :=
  message.destination.any fun c => (world c).getAddressValid

/-- A destination object without a valid address counts as the global one. -/
def isBroadcast (world : World) (message : CANMessage) : Bool :=
  !message.hasValidDestinationControlFunction world ||
    message.destination.any fun c => (world c).address = BROADCAST_CAN_ADDRESS

def isDestinationOurDevice (world : World) (message : CANMessage) : Bool :=
  message.hasValidDestinationControlFunction world &&
    message.destination.any fun c => (world c).controlFunctionType = .internal

/-- The readers are called behind a length check, so `at` never throws. -/
def getUint8At (message : CANMessage) (index : Nat) : UInt8 :=
  message.data.getD index 0

def getUint16At (message : CANMessage) (index : Nat) : UInt16 :=
  decode16 (message.getUint8At index) (message.getUint8At (index + 1))

def getUint24At (message : CANMessage) (index : Nat) : UInt32 :=
  decode24 (message.getUint8At index) (message.getUint8At (index + 1))
    (message.getUint8At (index + 2))

def getUint32At (message : CANMessage) (index : Nat) : UInt32 :=
  decode32 (message.getUint8At index) (message.getUint8At (index + 1))
    (message.getUint8At (index + 2)) (message.getUint8At (index + 3))

theorem exists_destination_of_isBroadcast_eq_false {world : World} {message : CANMessage}
    (h : message.isBroadcast world = false) :
    ∃ c, message.destination = some c ∧ (world c).getAddressValid = true := by
  simp only [isBroadcast, hasValidDestinationControlFunction, Bool.or_eq_false_iff,
    Bool.not_eq_false', Option.any_eq_true] at h
  exact h.1

end CANMessage

def PriorityDefault6 : UInt32 := 6
def PriorityLowest7 : UInt32 := 7

/-- The arguments of one call of the frame callback. -/
structure TransmitFrame where
  parameterGroupNumber : UInt32
  data : List UInt8
  source : Option CFRef
  destination : Option CFRef
  priority : UInt32
  deriving DecidableEq

/-- The address that a reference stands for in an identifier; no reference is
the global address. -/
def addressOf (world : World) (controlFunction : Option CFRef) : UInt8 :=
  match controlFunction with
  | some c => (world c).address
  | none => BROADCAST_CAN_ADDRESS

def TransmitFrame.toMessage (world : World) (timestampUs : UInt64) (frame : TransmitFrame) :
    CANMessage where
  identifier := .ofFields .extended frame.parameterGroupNumber frame.priority
    (addressOf world frame.destination) (addressOf world frame.source)
  data := frame.data
  source := frame.source
  destination := frame.destination
  canPortIndex := 0
  timestampUs := timestampUs

theorem TransmitFrame.getParameterGroupNumber_toMessage (world : World) (timestampUs : UInt64)
    (frame : TransmitFrame) (hne : frame.parameterGroupNumber ≠ 0)
    (hgroup : frame.parameterGroupNumber &&& CANIdentifier.DESTINATION_SPECIFIC_PGN_MASK =
      frame.parameterGroupNumber)
    (hpdu1 : (frame.parameterGroupNumber <<< 8) &&& CANIdentifier.PDU2_FORMAT_MASK <
      CANIdentifier.PDU2_FORMAT_MASK) :
    (frame.toMessage world timestampUs).identifier.getParameterGroupNumber =
      frame.parameterGroupNumber :=
  CANIdentifier.getParameterGroupNumber_ofFields _ _ _ _ hne hgroup hpdu1

/-- The settings; the setter of the broadcast gap only takes 10 to 200 ms. -/
structure CANNetworkConfiguration where
  maxNumberTransportProtocolSessions : UInt32 := 4
  minimumTimeBetweenTransportProtocolBAMFrames : UInt32 := 50
  networkManagerMaxFramesToSendPerUpdate : UInt8 := 0xFF
  numberOfPacketsPerDPOMessage : UInt8 := 16
  numberOfPacketsPerCTSMessage : UInt8 := 16
  bam_gap_range : 10 ≤ minimumTimeBetweenTransportProtocolBAMFrames ∧
    minimumTimeBetweenTransportProtocolBAMFrames ≤ 200 := by decide

theorem defaultGap_range : (10 : UInt32) ≤ 50 ∧ (50 : UInt32) ≤ 200 := by decide

/-- What a manager reads from its surroundings in one call: the clock, the control functions, and
the answer of the send callback to each frame. -/
structure Environment where
  now : UInt32
  world : World
  send : TransmitFrame → Bool

def Environment.timeElapsed (env : Environment) (timestamp : UInt32) : UInt32 :=
  env.now - timestamp

abbrev CallbackRef := Nat
abbrev PointerRef := Nat

/-- One call of a transmit complete callback. -/
structure Completion where
  callback : CallbackRef
  parameterGroupNumber : UInt32
  dataLength : UInt32
  source : CFRef
  destination : Option CFRef
  successful : Bool
  parentPointer : PointerRef
  deriving DecidableEq

/-- What a manager does to its surroundings, in order. -/
inductive Event
  /-- The send callback was called with this frame and gave this answer. -/
  | frame (frame : TransmitFrame) (sent : Bool)
  | messageReceived (message : CANMessage)
  /-- A transmit session ended. -/
  | transmitComplete (completion : Completion)
  | transmitAnswered (accepted : Bool)
  /-- Memory outside a message buffer was accessed. -/
  | outOfBounds
  deriving DecidableEq

def Event.isQuiet : Event → Bool
  | .messageReceived _ => false
  | .outOfBounds => false
  | _ => true

def Environment.offer (env : Environment) (frame : TransmitFrame) : Event :=
  .frame frame (env.send frame)

structure TransmitRequest where
  parameterGroupNumber : UInt32
  data : List UInt8
  source : Option CFRef
  destination : Option CFRef
  sessionCompleteCallback : Option CallbackRef
  parentPointer : PointerRef
  deriving DecidableEq

/-- The calls that a protocol manager serves. -/
inductive Call
  | processMessage (message : CANMessage)
  | update
  | protocolTransmitMessage (request : TransmitRequest)
  deriving DecidableEq

/-- One call together with what the manager reads during it. -/
structure Input where
  env : Environment
  call : Call

/-- Reference 0 is another node, reference 1 is our own control function. -/
def twoNodes : World := fun controlFunction =>
  if controlFunction = 0 then ⟨.external, 0xA000, 0x28, 0⟩ else ⟨.internal, 0xA001, 0x10, 0⟩

def heard (now : UInt32) (frame : TransmitFrame) : Input where
  env := ⟨now, twoNodes, fun _ => true⟩
  call := .processMessage (frame.toMessage twoNodes 0)

end Isobus.Can
