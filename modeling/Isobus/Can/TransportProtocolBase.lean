import Isobus.Can.Message
import Isobus.Lib.KeyedTable
import Isobus.Lib.Reassembly

/-!
# The common part of the transport protocol sessions

`can_transport_protocol_base.cpp`. The source and destination of a session are the key under which a
manager keeps it.
-/

namespace Isobus.Can

open Isobus.Lib

inductive Direction
  | transmit
  | receive
  deriving DecidableEq

/-- What `matches` compares; no destination is the global one. -/
structure SessionKey where
  source : CFRef
  destination : Option CFRef
  deriving DecidableEq

structure TransportProtocolSessionBase where
  direction : Direction
  parameterGroupNumber : UInt32
  data : List UInt8
  timestamp : UInt32 := 0
  sessionCompleteCallback : Option CallbackRef := none
  parent : PointerRef := 0
  deriving DecidableEq

def TransportProtocolSessionBase.complete (session : TransportProtocolSessionBase)
    (key : SessionKey) (messageLength : UInt32) (success : Bool) : List Event :=
  match session.sessionCompleteCallback, session.direction with
  | some callback, .transmit =>
    [.transmitComplete
      { callback := callback
        parameterGroupNumber := session.parameterGroupNumber
        dataLength := messageLength
        source := key.source
        destination := key.destination
        successful := success
        parentPointer := session.parent }]
  | _, _ => []

theorem TransportProtocolSessionBase.complete_receive {session : TransportProtocolSessionBase}
    (key : SessionKey) (messageLength : UInt32) (success : Bool)
    (h : session.direction = .receive) : session.complete key messageLength success = [] := by
  rw [complete, h]
  cases session.sessionCompleteCallback <;> rfl

theorem TransportProtocolSessionBase.isQuiet_complete (session : TransportProtocolSessionBase)
    (key : SessionKey) (messageLength : UInt32) (success : Bool) :
    ∀ e ∈ session.complete key messageLength success, e.isQuiet := by
  intro e he
  unfold complete at he
  split at he
  · rw [List.mem_singleton.mp he]
    rfl
  · simp at he

/-- Where a message that is not global goes; `none` stands for the global
destination. -/
def CANMessage.specificDestination (world : World) (message : CANMessage) : Option CFRef :=
  if message.isBroadcast world then none else message.destination

namespace CANMessage

variable {world : World} {message : CANMessage}

theorem specificDestination_of_none (h : message.destination = none) :
    message.specificDestination world = none := by
  rw [specificDestination, h]
  split_ifs <;> rfl

theorem isBroadcast_of_none (h : message.destination = none) :
    message.isBroadcast world = true := by
  simp [isBroadcast, hasValidDestinationControlFunction, h]

theorem specificDestination_of_valid {d : CFRef} (h : message.destination = some d)
    (hvalid : (world d).getAddressValid = true) :
    message.specificDestination world = some d := by
  have haddress : (world d).address ≠ BROADCAST_CAN_ADDRESS := by
    simp only [ControlFunction.getAddressValid, Bool.and_eq_true, decide_eq_true_eq] at hvalid
    exact hvalid.1
  have hbroadcast : message.isBroadcast world = false := by
    simp [isBroadcast, hasValidDestinationControlFunction, h, hvalid, haddress]
  rw [specificDestination, hbroadcast, h]
  rfl

end CANMessage

/-- Which side of a session is the own control function, and which the partner, if there is such a
side. -/
def abortParties (key : SessionKey) (direction : Direction) : Option (CFRef × CFRef) :=
  match direction, key.destination with
  | .transmit, some destination => some (key.source, destination)
  | .receive, some destination => some (destination, key.source)
  | _, none => none

end Isobus.Can
