import Isobus.Can.Frame
import Isobus.Can.Name
import Isobus.TransportProtocol.Manager
import Isobus.ExtendedTransportProtocol.Manager

/-!
# The control functions of a network manager

What `CANNetworkManager` keeps about control functions.
-/

namespace Isobus.NetworkManager

open Isobus.Can Isobus.Lib

inductive State
  | none
  | waitForClaim
  | sendRequestForClaim
  | waitForRequestContentionPeriod
  | sendPreferredAddressClaim
  | contendForPreferredAddress
  | sendArbitraryAddressClaim
  | sendReclaimAddressOnRequest
  | unableToClaim
  | addressClaimingComplete
  deriving DecidableEq

structure InternalControlFunction where
  state : State := .none
  stateChangeTimestamp : UInt32 := 0
  preferredAddress : UInt8
  randomClaimDelay : UInt8
  deriving DecidableEq

structure ParameterGroupNumberCallbackData where
  parameterGroupNumber : UInt32
  callback : Option CallbackRef
  parent : PointerRef
  internalControlFunction : Option CFRef
  deriving DecidableEq

structure PartneredControlFunction where
  nameFilterList : List NAMEFilter
  parameterGroupNumberCallbacks : List ParameterGroupNumberCallbackData := []
  initialized : Bool := false
  deriving DecidableEq

inductive ControlFunctionState
  | offline
  | online
  deriving DecidableEq

/-- What a network manager does to its surroundings. -/
inductive Event
  /-- A frame was handed to the hardware layer, which gave this answer. -/
  | frame (frame : CANMessageFrame) (sent : Bool)
  | stateChanged (controlFunction : CFRef) (state : ControlFunctionState)
  | addressClaimed (controlFunction : CFRef) (address : UInt8)
  | addressViolation (controlFunction : CFRef)
  | callback (data : ParameterGroupNumberCallbackData) (message : CANMessage)
  /-- What a transport protocol of this channel did. -/
  | protocol (canPortIndex : UInt8) (event : Can.Event)
  /-- An entry behind the end of the address table was accessed. -/
  | outOfBounds
  deriving DecidableEq

/-- What a network manager reads from its surroundings during one call. -/
structure Environment where
  now : UInt32
  send : CANMessageFrame → Bool

def Environment.timeExpired (env : Environment) (timestamp timeout : UInt32) : Bool :=
  env.now - timestamp ≥ timeout

/-- The objects, the lists that refer to them, and what is kept for each channel. -/
structure CANNetworkManager where
  controlFunctions : World
  claimedAddressSinceLastAddressClaimRequest : CFRef → Bool
  internal : CFRef → InternalControlFunction
  partnered : CFRef → PartneredControlFunction
  nextControlFunction : CFRef
  controlFunctionTable : UInt8 → UInt8 → Option CFRef
  inactiveControlFunctions : List CFRef
  internalControlFunctions : List CFRef
  partneredControlFunctions : List CFRef
  lastAddressClaimRequestTimestamp : UInt8 → UInt32
  receivedMessageQueue : List CANMessage
  globalParameterGroupNumberCallbacks : List ParameterGroupNumberCallbackData
  anyControlFunctionParameterGroupNumberCallbacks : List ParameterGroupNumberCallbackData
  protocolPGNCallbacks : List ParameterGroupNumberCallbackData
  transportProtocols : UInt8 → TransportProtocol.ActiveSessions
  extendedTransportProtocols : UInt8 → ExtendedTransportProtocol.ActiveSessions
  initialized : Bool
  log : List Event

/-- The addresses that have an entry in the table, in the order of the entries. -/
def slots : List UInt8 := (List.range NULL_CAN_ADDRESS.toNat).map UInt8.ofNat

def ports : List UInt8 := (List.range CAN_PORT_MAXIMUM.toNat).map UInt8.ofNat

namespace CANNetworkManager

variable (nm : CANNetworkManager)

def address (c : CFRef) : UInt8 := (nm.controlFunctions c).address

def name (c : CFRef) : NAME := (nm.controlFunctions c).controlFunctionNAME

def port (c : CFRef) : UInt8 := (nm.controlFunctions c).canPortIndex

def type (c : CFRef) : ControlFunctionType := (nm.controlFunctions c).controlFunctionType

def currentState (c : CFRef) : State := (nm.internal c).state

def getControlFunction (channelIndex address : UInt8) : Option CFRef :=
  if address < NULL_CAN_ADDRESS ∧ channelIndex < CAN_PORT_MAXIMUM then
    nm.controlFunctionTable channelIndex address
  else none

def findActive (channelIndex : UInt8) (p : CFRef → Bool) : Option CFRef :=
  slots.findSome? fun address => (nm.controlFunctionTable channelIndex address).filter p

def emit (event : Event) : CANNetworkManager := { nm with log := nm.log ++ [event] }

def setAddress (c : CFRef) (address : UInt8) : CANNetworkManager :=
  { nm with
    controlFunctions := Function.update nm.controlFunctions c
      { nm.controlFunctions c with address := address } }

def setName (c : CFRef) (name : NAME) : CANNetworkManager :=
  { nm with
    controlFunctions := Function.update nm.controlFunctions c
      { nm.controlFunctions c with controlFunctionNAME := name } }

def setClaimed (c : CFRef) (claimed : Bool) : CANNetworkManager :=
  { nm with
    claimedAddressSinceLastAddressClaimRequest :=
      Function.update nm.claimedAddressSinceLastAddressClaimRequest c claimed }

def setCurrentState (env : Environment) (c : CFRef) (value : State) : CANNetworkManager :=
  { nm with
    internal := Function.update nm.internal c
      { nm.internal c with state := value, stateChangeTimestamp := env.now } }

def setPreferredAddress (c : CFRef) (address : UInt8) : CANNetworkManager :=
  { nm with
    internal := Function.update nm.internal c { nm.internal c with preferredAddress := address } }

def setInitialized (c : CFRef) : CANNetworkManager :=
  { nm with
    partnered := Function.update nm.partnered c { nm.partnered c with initialized := true } }

/-- An assignment to a table entry; behind the end of the table nothing is known of it. -/
def setSlot (channelIndex address : UInt8) (entry : Option CFRef) : CANNetworkManager :=
  if address < NULL_CAN_ADDRESS then
    { nm with
      controlFunctionTable := Function.update nm.controlFunctionTable channelIndex
        (Function.update (nm.controlFunctionTable channelIndex) address entry) }
  else nm.emit .outOfBounds

def pushInactive (c : CFRef) : CANNetworkManager :=
  { nm with inactiveControlFunctions := nm.inactiveControlFunctions ++ [c] }

def create (controlFunction : ControlFunction) : CFRef × CANNetworkManager :=
  (nm.nextControlFunction,
    { nm with
      controlFunctions := Function.update nm.controlFunctions nm.nextControlFunction controlFunction
      claimedAddressSinceLastAddressClaimRequest := Function.update
        nm.claimedAddressSinceLastAddressClaimRequest nm.nextControlFunction false
      nextControlFunction := nm.nextControlFunction + 1 })

def sendCanMessageRaw (env : Environment) (portIndex sourceAddress destAddress : UInt8)
    (parameterGroupNumber : UInt32) (priority : UInt8) (data : List UInt8) :
    Bool × CANNetworkManager :=
  match constructFrame portIndex sourceAddress destAddress parameterGroupNumber priority data with
  | none => (false, nm)
  | some frame =>
    if portIndex < CAN_PORT_MAXIMUM then (env.send frame, nm.emit (.frame frame (env.send frame)))
    else (false, nm)

end CANNetworkManager

end Isobus.NetworkManager
