import Isobus.HardwareIntegration.CanMessageFrame
import Isobus.Lib.Machine
import Isobus.Lib.RingBuffer

/-!
# The hardware interface

`can_hardware_interface.cpp`. Each channel has two queues. A receive thread fills the one,
`transmit_can_frame` the other, and `update` empties both: between the look at the oldest frame and
its removal the callbacks run, which may call `transmit_can_frame` themselves. An access to a queue
is one step of a thread, and so is what `update` does between two callbacks.
-/

namespace Isobus.HardwareIntegration

open Isobus.Lib

def MAX_RX_FRAMES_PER_CHANNEL_PER_UPDATE : Nat := 24
def MAX_TX_FRAMES_PER_CHANNEL_PER_UPDATE : Nat := 24

abbrev LockFreeQueue := RingBuffer CANMessageFrame

def CANMessageFrame.blank : CANMessageFrame where
  timestampUs := 0
  identifier := 0
  channel := 0
  data := fun _ => 0
  dataLength := 0
  isExtendedFrame := false

/-- The constructor; its assertion stops the program for a size of zero. -/
def LockFreeQueue.ofSize (size : Nat) : Option LockFreeQueue :=
  if h : 0 < size then some (RingBuffer.ofCapacity .blank size h) else none

/-- One channel; `frameHandler` says whether a driver is assigned. -/
structure CANHardware where
  messagesToBeTransmittedQueue : LockFreeQueue
  receivedMessagesQueue : LockFreeQueue
  frameHandler : Bool

/-- Where a call of `update` stands: before the mutex, before the next frame of a channel (with its
frames so far), in the callbacks for a frame, or in the stack. -/
inductive UpdateStage
  | idle
  | lockingReceive
  | receiving (i receiveBatchCount : Nat)
  | dispatching (i receiveBatchCount : Nat)
  | updatingStack
  | lockingTransmit
  | transmitting (i transmitBatchCount : Nat)
  | reporting (i transmitBatchCount : Nat)
  deriving DecidableEq

/-- The interface with the calls of `update` of all threads. -/
structure CANHardwareInterface where
  started : Bool
  numberOfCanChannels : UInt8
  hardwareChannels : Nat → CANHardware
  hardwareChannelsMutex : Option Nat
  stages : Nat → UpdateStage

/-- What goes through the interface. -/
inductive HardwareEvent
  | read (channel : Nat) (frame : CANMessageFrame)
  | dispatched (frame : CANMessageFrame)
  /-- `transmit_can_frame` returned true. -/
  | accepted (frame : CANMessageFrame)
  /-- The driver of a channel wrote a frame. -/
  | written (channel : Nat) (frame : CANMessageFrame)
  /-- The callbacks for transmitted frames were called. -/
  | reported (frame : CANMessageFrame)
  deriving DecidableEq

/-- One step of some thread, with what the driver answers. -/
inductive HardwareStep
  | receiveCanFrame (channel : Nat) (isValid : Bool) (frame : Option CANMessageFrame)
  | transmitCanFrame (frame : CANMessageFrame) (isValid : Bool)
  | update (thread : Nat)
  | advance (thread : Nat) (isValid written : Bool)
  | stop

namespace CANHardwareInterface

/-- The interface after `set_number_of_can_channels`, the assignment of the drivers and `start`. -/
def start (numberOfCanChannels : UInt8) (queueCapacity : Nat) (assigned : Nat → Bool) :
    Option CANHardwareInterface :=
  (LockFreeQueue.ofSize queueCapacity).map fun queue =>
    { started := true
      numberOfCanChannels := numberOfCanChannels
      hardwareChannels := fun i => ⟨queue, queue, assigned i⟩
      hardwareChannelsMutex := none
      stages := fun _ => .idle }

def setChannel (interface : CANHardwareInterface) (i : Nat) (channel : CANHardware) :
    CANHardwareInterface :=
  { interface with hardwareChannels := Function.update interface.hardwareChannels i channel }

def setStage (interface : CANHardwareInterface) (thread : Nat) (stage : UpdateStage) :
    CANHardwareInterface :=
  { interface with stages := Function.update interface.stages thread stage }

def lock (interface : CANHardwareInterface) (thread : Nat) (stage : UpdateStage) :
    CANHardwareInterface :=
  if interface.hardwareChannelsMutex = none then
    { interface.setStage thread stage with hardwareChannelsMutex := some thread }
  else interface

def unlock (interface : CANHardwareInterface) (thread : Nat) (stage : UpdateStage) :
    CANHardwareInterface :=
  { interface.setStage thread stage with hardwareChannelsMutex := none }

def receiveCanFrame (interface : CANHardwareInterface) (i : Nat) (isValid : Bool)
    (frame : Option CANMessageFrame) : CANHardwareInterface × List HardwareEvent :=
  let channel := interface.hardwareChannels i
  if i < interface.numberOfCanChannels.toNat ∧ channel.frameHandler ∧ isValid ∧
      ¬ channel.receivedMessagesQueue.isFull then
    match frame with
    | none => (interface, [])
    | some frame =>
      let queue := (channel.receivedMessagesQueue.push frame).getD channel.receivedMessagesQueue
      (interface.setChannel i { channel with receivedMessagesQueue := queue }, [.read i frame])
  else (interface, [])

def transmitCanFrame (interface : CANHardwareInterface) (frame : CANMessageFrame)
    (isValid : Bool) : CANHardwareInterface × List HardwareEvent :=
  if ¬ interface.started then (interface, [])
  else if frame.channel ≥ interface.numberOfCanChannels then (interface, [])
  else
    let channel := interface.hardwareChannels frame.channel.toNat
    if ¬ channel.frameHandler then (interface, [])
    else if isValid then
      match channel.messagesToBeTransmittedQueue.push frame with
      | none => (interface, [])
      | some queue =>
        (interface.setChannel frame.channel.toNat
          { channel with messagesToBeTransmittedQueue := queue }, [.accepted frame])
    else (interface, [])

/-- The next step of a call of `update`. -/
def advance (interface : CANHardwareInterface) (thread : Nat) (isValid written : Bool) :
    CANHardwareInterface × List HardwareEvent :=
  match interface.stages thread with
  | .idle => (interface, [])
  | .lockingReceive => (interface.lock thread (.receiving 0 0), [])
  | .receiving i receiveBatchCount =>
    if i < interface.numberOfCanChannels.toNat then
      if receiveBatchCount < MAX_RX_FRAMES_PER_CHANNEL_PER_UPDATE then
        match (interface.hardwareChannels i).receivedMessagesQueue.peek with
        | some frame =>
          (interface.setStage thread (.dispatching i receiveBatchCount),
            [.dispatched { frame with channel := UInt8.ofNat i }])
        | none => (interface.setStage thread (.receiving (i + 1) 0), [])
      else (interface.setStage thread (.receiving (i + 1) 0), [])
    else (interface.unlock thread .updatingStack, [])
  | .dispatching i receiveBatchCount =>
    let channel := interface.hardwareChannels i
    ((interface.setChannel i
        { channel with receivedMessagesQueue := channel.receivedMessagesQueue.pop }).setStage
      thread (.receiving i (receiveBatchCount + 1)), [])
  | .updatingStack => (interface.setStage thread .lockingTransmit, [])
  | .lockingTransmit => (interface.lock thread (.transmitting 0 0), [])
  | .transmitting i transmitBatchCount =>
    if i < interface.numberOfCanChannels.toNat then
      if transmitBatchCount < MAX_TX_FRAMES_PER_CHANNEL_PER_UPDATE then
        match (interface.hardwareChannels i).messagesToBeTransmittedQueue.peek with
        | some frame =>
          if (interface.hardwareChannels i).frameHandler ∧ isValid ∧ written then
            (interface.setStage thread (.reporting i transmitBatchCount),
              [.written i frame, .reported frame])
          else (interface.setStage thread (.transmitting (i + 1) 0), [])
        | none => (interface.setStage thread (.transmitting (i + 1) 0), [])
      else (interface.setStage thread (.transmitting (i + 1) 0), [])
    else (interface.unlock thread .idle, [])
  | .reporting i transmitBatchCount =>
    let channel := interface.hardwareChannels i
    ((interface.setChannel i
        { channel with
          messagesToBeTransmittedQueue := channel.messagesToBeTransmittedQueue.pop }).setStage
      thread (.transmitting i (transmitBatchCount + 1)), [])

def stop (interface : CANHardwareInterface) : CANHardwareInterface :=
  { interface with
    started := false
    hardwareChannels := fun i =>
      let channel := interface.hardwareChannels i
      ⟨channel.messagesToBeTransmittedQueue.clear, channel.receivedMessagesQueue.clear, false⟩ }

def step (interface : CANHardwareInterface) :
    HardwareStep → CANHardwareInterface × List HardwareEvent
  | .receiveCanFrame channel isValid frame => interface.receiveCanFrame channel isValid frame
  | .transmitCanFrame frame isValid => interface.transmitCanFrame frame isValid
  | .update thread =>
    if interface.started ∧ interface.stages thread = .idle then
      (interface.setStage thread .lockingReceive, [])
    else (interface, [])
  | .advance thread isValid written => interface.advance thread isValid written
  | .stop => (interface.stop, [])

end CANHardwareInterface

end Isobus.HardwareIntegration
