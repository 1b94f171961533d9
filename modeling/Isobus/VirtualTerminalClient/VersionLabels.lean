import Isobus.VirtualTerminalClient.CommandQueue

/-!
# Version labels of a virtual terminal client

`isobus_virtual_terminal_client.cpp`: the label that a client stores its object pools under, and
what it does with the labels that the terminal has.
-/

namespace Isobus.VirtualTerminalClient

open Isobus.Can Isobus.Lib Isobus.VirtualTerminal

def StoreVersionCommand : UInt8 := 0xD0
def LoadVersionCommand : UInt8 := 0xD1
def DeleteVersionCommand : UInt8 := 0xD2
def GetVersionsResponse : UInt8 := 0xE0
def VT_STATUS_TIMEOUT_MS : UInt32 := 3000
def VERSION_LABEL_LENGTH : Nat := 7

inductive StateMachineState
  | disconnected
  | waitForPartnerVTStatusMessage
  | sendWorkingSetMasterMessage
  | readyForObjectPool
  | sendGetMemory
  | waitForGetMemoryResponse
  | sendGetNumberSoftkeys
  | waitForGetNumberSoftKeysResponse
  | sendGetTextFontData
  | waitForGetTextFontDataResponse
  | sendGetHardware
  | waitForGetHardwareResponse
  | sendGetVersions
  | waitForGetVersionsResponse
  | sendStoreVersion
  | waitForStoreVersionResponse
  | sendLoadVersion
  | waitForLoadVersionResponse
  | uploadObjectPool
  | sendEndOfObjectPool
  | waitForEndOfObjectPoolResponse
  | connected
  | failed
  deriving DecidableEq

inductive VersionEvent
  /-- A message was handed to the network manager, which gave this answer. -/
  | frame (frame : TransmitFrame) (sent : Bool)
  /-- A byte behind the end of a string was read. -/
  | outOfBounds
  deriving DecidableEq

/-- The label is that of the first object pool. -/
structure VersionClient where
  myControlFunction : CFRef
  partnerControlFunction : CFRef
  versionLabel : List UInt8
  state : StateMachineState
  stateMachineTimestamp : UInt32 := 0
  deriving DecidableEq

/-- The buffer of seven spaces, with the start of the label. -/
def tempVersionBuffer (versionLabel : List UInt8) : List UInt8 :=
  versionLabel.take VERSION_LABEL_LENGTH ++
    .replicate (VERSION_LABEL_LENGTH - versionLabel.length) 0x20

/-- The label is padded by spaces first and cut off then. -/
def tempActualLabel (versionLabel : List UInt8) : List UInt8 :=
  (versionLabel ++ .replicate (VERSION_LABEL_LENGTH - versionLabel.length) 0x20).take
    VERSION_LABEL_LENGTH

/-- A string that is made from a buffer ends before the first zero. -/
def labelDecoded (label : List UInt8) : List UInt8 := label.takeWhile (· ≠ 0)

/-- Seven bytes of a string, of which one may be that behind its end. -/
def deleteBuffer (labelDecoded : List UInt8) : Option (List UInt8) :=
  if VERSION_LABEL_LENGTH ≤ labelDecoded.length + 1 then
    some ((labelDecoded ++ [0]).take VERSION_LABEL_LENGTH)
  else none

def labelAt (message : CANMessage) (i : Nat) : List UInt8 :=
  (List.range VERSION_LABEL_LENGTH).map fun j =>
    message.getUint8At (2 + VERSION_LABEL_LENGTH * i + j)

namespace VersionClient

variable (env : Environment) (client : VersionClient)

def setState (state : StateMachineState) : VersionClient :=
  { client with state := state, stateMachineTimestamp := env.now }

def versionFrame (function : UInt8) (versionLabel : List UInt8) : TransmitFrame where
  parameterGroupNumber := ECUtoVirtualTerminal
  data := function :: versionLabel
  source := some client.myControlFunction
  destination := some client.partnerControlFunction
  priority := Priority5

def loadVersionFrame : TransmitFrame :=
  client.versionFrame LoadVersionCommand (tempVersionBuffer client.versionLabel)

def storeVersionFrame : TransmitFrame :=
  client.versionFrame StoreVersionCommand (tempVersionBuffer client.versionLabel)

def sendAndWait (frame : TransmitFrame) (waiting : StateMachineState) :
    VersionClient × List VersionEvent :=
  if env.timeExpired client.stateMachineTimestamp VT_STATUS_TIMEOUT_MS then
    (client.setState env .failed, [])
  else
    (if env.send frame then client.setState env waiting else client,
      [.frame frame (env.send frame)])

def failIfExpired : VersionClient :=
  if env.timeExpired client.stateMachineTimestamp VT_STATUS_TIMEOUT_MS then
    client.setState env .failed
  else client

def update : VersionClient × List VersionEvent :=
  match client.state with
  | .sendLoadVersion =>
    client.sendAndWait env client.loadVersionFrame .waitForLoadVersionResponse
  | .sendStoreVersion =>
    client.sendAndWait env client.storeVersionFrame .waitForStoreVersionResponse
  | .waitForGetVersionsResponse => (client.failIfExpired env, [])
  | .waitForLoadVersionResponse => (client.failIfExpired env, [])
  | .waitForStoreVersionResponse => (client.failIfExpired env, [])
  | _ => (client, [])

def deleteLabel (label : List UInt8) : VersionEvent :=
  match deleteBuffer (labelDecoded label) with
  | some buffer =>
    .frame (client.versionFrame DeleteVersionCommand buffer)
      (env.send (client.versionFrame DeleteVersionCommand buffer))
  | none => .outOfBounds

/-- The loop over the labels: whether one of them matched, and what was done before. -/
def searchLabels : List (List UInt8) → Bool × List VersionEvent
  | [] => (false, [])
  | label :: labels =>
    if tempActualLabel client.versionLabel = labelDecoded label then (true, [])
    else
      let searched := searchLabels labels
      (searched.1, client.deleteLabel env label :: searched.2)

variable (message : CANMessage)

def processGetVersionsResponse : VersionClient × List VersionEvent :=
  if client.state = .waitForGetVersionsResponse then
    let numberOfLabels := (message.getUint8At 1).toNat
    if numberOfLabels > 0 then
      if message.data.length ≥ 2 + VERSION_LABEL_LENGTH * numberOfLabels then
        let searched :=
          client.searchLabels env ((List.range numberOfLabels).map (labelAt message))
        (client.setState env (if searched.1 then .sendLoadVersion else .uploadObjectPool),
          searched.2)
      else (client, [])
    else (client.setState env .uploadObjectPool, [])
  else (client, [])

def processLoadVersionResponse : VersionClient :=
  if client.state = .waitForLoadVersionResponse then
    client.setState env (if message.getUint8At 5 = 0 then .connected else .uploadObjectPool)
  else client

def processStoreVersionResponse : VersionClient :=
  if client.state = .waitForStoreVersionResponse ∧ message.getUint8At 5 = 0 then
    client.setState env .connected
  else client

def processRxMessage : VersionClient × List VersionEvent :=
  let function := message.getUint8At 0
  if CAN_DATA_LENGTH ≤ message.data.length ∧
      (message.destination = none ∨ message.destination = some client.myControlFunction) ∧
      message.identifier.getParameterGroupNumber = VirtualTerminalToECU then
    if function = GetVersionsResponse then client.processGetVersionsResponse env message
    else if function = LoadVersionCommand then (client.processLoadVersionResponse env message, [])
    else if function = StoreVersionCommand then (client.processStoreVersionResponse env message, [])
    else (client, [])
  else (client, [])

end VersionClient

end Isobus.VirtualTerminalClient
