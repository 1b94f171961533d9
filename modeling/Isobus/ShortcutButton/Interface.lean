import Isobus.Can.Message
import Isobus.Can.Name
import Isobus.Lib.KeyedTable

/-!
# The shortcut button interface

`isobus_shortcut_button_interface.cpp`: the servers whose stop button was heard of, the state
that is commanded here, and what both come to.
-/

namespace Isobus.ShortcutButton

open Isobus.Can Isobus.Lib

def AllImplementsStopOperationsSwitchState : UInt32 := 0xFD02
def CAN_DATA_LENGTH : Nat := 8
def Priority3 : UInt32 := 3
def TRANSMISSION_RATE_MS : UInt32 := 1000
def TRANSMISSION_TIMEOUT_MS : UInt32 := 3000

inductive StopAllImplementOperationsState
  | stopImplementOperations
  | permitAllImplementsToOperationOn
  | error
  | notAvailable
  deriving DecidableEq

namespace StopAllImplementOperationsState

def toByte : StopAllImplementOperationsState → UInt8
  | .stopImplementOperations => 0
  | .permitAllImplementsToOperationOn => 1
  | .error => 2
  | .notAvailable => 3

/-- The two lowest bits of a byte. -/
def ofByte (byte : UInt8) : StopAllImplementOperationsState :=
  if byte &&& 0x03 = 0 then .stopImplementOperations
  else if byte &&& 0x03 = 1 then .permitAllImplementsToOperationOn
  else if byte &&& 0x03 = 2 then .error
  else .notAvailable

end StopAllImplementOperationsState

open StopAllImplementOperationsState

/-- What is kept of a server under its NAME. -/
structure ISBServerData where
  commandedState : StopAllImplementOperationsState
  messageReceivedTimestampMs : UInt32
  stopAllImplementOperationsTransitionNumber : UInt8
  deriving DecidableEq

def ISBServerData.timedOut (env : Environment) (isb : ISBServerData) : Bool :=
  env.timeElapsed isb.messageReceivedTimestampMs ≥ TRANSMISSION_TIMEOUT_MS

structure ShortcutButtonInterface where
  isobusShortcutButtonList : KeyedTable NAME ISBServerData := .empty
  sourceControlFunction : CFRef
  sendFlag : Bool := false
  /-- No call changes this timestamp. -/
  allImplementsStopOperationsSwitchStateTimestampMs : UInt32 := 0
  stopAllImplementOperationsTransitionNumber : UInt8 := 0
  commandedState : StopAllImplementOperationsState := .notAvailable
  actAsISBServer : Bool
  initialized : Bool := false

inductive ButtonEvent
  /-- The frame callback was called and gave this answer. -/
  | frame (frame : TransmitFrame) (sent : Bool)
  /-- The listeners were told. -/
  | dispatched (state : StopAllImplementOperationsState)
  | missedTransition (server : NAME)
  deriving DecidableEq

namespace ShortcutButtonInterface

def construct (internalControlFunction : CFRef) (serverEnabled : Bool) :
    ShortcutButtonInterface where
  sourceControlFunction := internalControlFunction
  actAsISBServer := serverEnabled

variable (interface : ShortcutButtonInterface)

def initializeInterface : ShortcutButtonInterface := { interface with initialized := true }

def setStopAllImplementOperationsState (newState : StopAllImplementOperationsState) :
    ShortcutButtonInterface :=
  if interface.actAsISBServer ∧ newState ≠ interface.commandedState then
    { interface with commandedState := newState, sendFlag := true }
  else interface

def getState : StopAllImplementOperationsState :=
  if interface.commandedState = .stopImplementOperations then interface.commandedState
  else if interface.isobusShortcutButtonList.entries.any
      fun isb => isb.2.commandedState = .stopImplementOperations then .stopImplementOperations
  else .permitAllImplementsToOperationOn

def prune (env : Environment) : ShortcutButtonInterface :=
  { interface with
    isobusShortcutButtonList := interface.isobusShortcutButtonList.update fun _ isb =>
      if isb.timedOut env then none else some isb }

def prunes (env : Environment) : Bool :=
  env.timeElapsed interface.allImplementsStopOperationsSwitchStateTimestampMs ≥
    TRANSMISSION_RATE_MS

def switchStateFrame : TransmitFrame where
  parameterGroupNumber := AllImplementsStopOperationsSwitchState
  data := [0xFF, 0xFF, 0xFF, 0xFF, 0xFF, 0xFF,
    interface.stopAllImplementOperationsTransitionNumber, 0xFC ||| interface.commandedState.toByte]
  source := some interface.sourceControlFunction
  destination := none
  priority := Priority3

/-- The counter goes up with every message that is sent, be the interface a server or not. -/
def processFlags (env : Environment) : ShortcutButtonInterface × List ButtonEvent :=
  if interface.sendFlag then
    if env.send interface.switchStateFrame then
      ({ interface with
          sendFlag := false
          stopAllImplementOperationsTransitionNumber :=
            interface.stopAllImplementOperationsTransitionNumber + 1 },
        [.frame interface.switchStateFrame true])
    else (interface, [.frame interface.switchStateFrame false])
  else (interface, [])

def update (env : Environment) : ShortcutButtonInterface × List ButtonEvent :=
  if interface.prunes env then { interface.prune env with sendFlag := true }.processFlags env
  else interface.processFlags env

def missesTransition (kept received : UInt8) : Bool :=
  kept = 255 && received ≠ 0 || kept < 255 && received.toNat > kept.toNat + 1

def receive (env : Environment) (message : CANMessage) (kept : UInt8) : ISBServerData where
  commandedState :=
    if missesTransition kept (message.getUint8At 6) then .stopImplementOperations
    else ofByte (message.getUint8At 7)
  messageReceivedTimestampMs := env.now
  stopAllImplementOperationsTransitionNumber := message.getUint8At 6

def transitionNumberOf (server : NAME) : UInt8 :=
  ((interface.isobusShortcutButtonList.lookup server).map
    ISBServerData.stopAllImplementOperationsTransitionNumber).getD 0

def heardFrom (env : Environment) (message : CANMessage) (server : NAME) :
    ShortcutButtonInterface :=
  { interface with
    isobusShortcutButtonList := interface.isobusShortcutButtonList.set server
      (receive env message (interface.transitionNumberOf server)) }

def heardEvents (env : Environment) (message : CANMessage) (server : NAME) : List ButtonEvent :=
  (if missesTransition (interface.transitionNumberOf server) (message.getUint8At 6) then
    [.missedTransition server] else []) ++
  if interface.getState ≠ (interface.heardFrom env message server).getState then
    [.dispatched (interface.heardFrom env message server).getState] else []

def concerns (env : Environment) (message : CANMessage) : Bool :=
  message.canPortIndex = (env.world interface.sourceControlFunction).canPortIndex &&
    message.identifier.getParameterGroupNumber = AllImplementsStopOperationsSwitchState &&
    message.data.length = CAN_DATA_LENGTH

def processMessage (env : Environment) (message : CANMessage) :
    ShortcutButtonInterface × List ButtonEvent :=
  match message.source with
  | none => (interface, [])
  | some source =>
    if interface.concerns env message then
      let messageNAME := (env.world source).controlFunctionNAME
      (interface.heardFrom env message messageNAME,
        interface.heardEvents env message messageNAME)
    else (interface, [])

/-- What the interface does with a received message; before it is initialized there is no
callback. -/
def processRxMessage (env : Environment) (message : CANMessage) :
    ShortcutButtonInterface × List ButtonEvent :=
  if interface.initialized then interface.processMessage env message else (interface, [])

end ShortcutButtonInterface

end Isobus.ShortcutButton
