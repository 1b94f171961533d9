import Isobus.VirtualTerminal.Commands
import Isobus.Can.Message

/-!
# The state tracker of a virtual terminal client

`isobus_virtual_terminal_client_state_tracker.cpp`: what a working set shows, as far as the messages
tell.
-/

namespace Isobus.VirtualTerminalClient

open Isobus.Can Isobus.VirtualTerminal
open Isobus.VirtualTerminal.Server (uint8At uint16At uint32At)

def VirtualTerminalToECU : UInt32 := 0xE600
def ECUtoVirtualTerminal : UInt32 := 0xE700

def VTChangeNumericValueMessage : UInt8 := 0x05
def ChangeNumericValueCommand : UInt8 := 0xA8
def ChangeActiveMaskCommand : UInt8 := 0xAD
def ChangeSoftKeyMaskCommand : UInt8 := 0xAE
def ChangeAttributeCommand : UInt8 := 0xAF
def VTStatusMessage : UInt8 := 0xFE

structure ChangeAttribute where
  value : UInt32
  objectId : UInt16
  attributeID : UInt8
  deriving DecidableEq

/-- A tracked item is one that has a value here. -/
structure StateTracker where
  client : Option CFRef
  server : Option CFRef := none
  shownStates : UInt16 → Option Bool := fun _ => none
  numericValueStates : UInt16 → Option UInt32 := fun _ => none
  activeDataOrAlarmMask : UInt16 := NULL_OBJECT_ID
  dataAndAlarmMaskHistory : List UInt16 := []
  maxDataAndAlarmMaskHistorySize : Nat := 100
  activeWorkingSetAddress : UInt8 := NULL_CAN_ADDRESS
  softKeyMasks : UInt16 → Option UInt16 := fun _ => none
  attributeStates : UInt16 → UInt8 → Option UInt32 := fun _ _ => none
  pendingChangeAttributeCommands : CFRef → Option ChangeAttribute := fun _ => none

structure Handled where
  tracker : StateTracker
  thrown : Bool := false

namespace StateTracker

variable (tracker : StateTracker)

/-- A handler that reads a byte that its message has not throws, and leaves what it did so far. -/
def orThrow {α : Type} (read : Option α) (handle : α → Handled) : Handled :=
  match read with
  | some value => handle value
  | none => { tracker := tracker, thrown := true }

def isWorkingSetActive (world : World) : Bool :=
  tracker.client.any fun client =>
    (world client).getAddressValid && (world client).address = tracker.activeWorkingSetAddress

def setMaxMaskHistorySize (size : Nat) : StateTracker :=
  { tracker with maxDataAndAlarmMaskHistorySize := size }

def storeShown (objectId : UInt16) (shown : Bool) : StateTracker :=
  { tracker with shownStates := Function.update tracker.shownStates objectId (some shown) }

def storeNumericValue (objectId : UInt16) (value : UInt32) : StateTracker :=
  { tracker with
    numericValueStates := Function.update tracker.numericValueStates objectId (some value) }

def storeSoftKeyMask (maskId softKeyMaskId : UInt16) : StateTracker :=
  { tracker with softKeyMasks := Function.update tracker.softKeyMasks maskId (some softKeyMaskId) }

def storeAttribute (objectId : UInt16) (attributeID : UInt8) (value : UInt32) : StateTracker :=
  { tracker with
    attributeStates := Function.update tracker.attributeStates objectId
      (Function.update (tracker.attributeStates objectId) attributeID (some value)) }

def eraseChangeAttribute (client : CFRef) : StateTracker :=
  { tracker with
    pendingChangeAttributeCommands :=
      Function.update tracker.pendingChangeAttributeCommands client none }

def pushMask : StateTracker :=
  let pushed := tracker.activeDataOrAlarmMask :: tracker.dataAndAlarmMaskHistory
  { tracker with
    dataAndAlarmMaskHistory :=
      if pushed.length > tracker.maxDataAndAlarmMaskHistorySize then pushed.dropLast
      else pushed }

def cacheActiveMask (maskId : UInt16) : StateTracker :=
  if tracker.activeDataOrAlarmMask ≠ maskId then
    let remembered :=
      if tracker.activeDataOrAlarmMask ≠ NULL_OBJECT_ID then tracker.pushMask else tracker
    { remembered with activeDataOrAlarmMask := maskId }
  else tracker

def cacheSoftKeyMask (maskId softKeyMaskId : UInt16) : StateTracker :=
  if (tracker.softKeyMasks maskId).isSome then tracker.storeSoftKeyMask maskId softKeyMaskId
  else tracker

def cacheNumericValue (objectId : UInt16) (value : UInt32) : StateTracker :=
  if (tracker.numericValueStates objectId).isSome then tracker.storeNumericValue objectId value
  else tracker

variable (world : World) (message : CANMessage)

def processStatusMessage : StateTracker :=
  if message.data.length = CAN_DATA_LENGTH then
    let heard := { tracker with activeWorkingSetAddress := message.getUint8At 1 }
    if heard.isWorkingSetActive world then
      let cached := { heard with server := message.source }.cacheActiveMask (message.getUint16At 2)
      cached.cacheSoftKeyMask cached.activeDataOrAlarmMask (message.getUint16At 4)
    else heard
  else tracker

/-- The same status, sent to one. -/
def processConnectedStatus : Handled :=
  let known := { tracker with server := message.source }
  known.orThrow (uint8At message.data 1) fun address =>
    let heard := { known with activeWorkingSetAddress := address }
    if heard.isWorkingSetActive world then
      heard.orThrow (uint16At message.data 2) fun maskId =>
        let cached := heard.cacheActiveMask maskId
        if (cached.softKeyMasks cached.activeDataOrAlarmMask).isSome then
          cached.orThrow (uint16At message.data 4) fun softKeyMask =>
            { tracker := cached.storeSoftKeyMask cached.activeDataOrAlarmMask softKeyMask }
        else { tracker := cached }
    else { tracker := heard }

def processChangeActiveMaskResponse : Handled :=
  tracker.orThrow (uint8At message.data 3) fun errorCode =>
    { tracker :=
        if errorCode = 0 then tracker.cacheActiveMask (message.getUint16At 1) else tracker }

def processChangeSoftKeyMaskResponse : Handled :=
  tracker.orThrow (uint8At message.data 3) fun errorCode =>
    if errorCode = 0 then
      tracker.orThrow (uint16At message.data 4) fun softKeyMask =>
        { tracker := tracker.cacheSoftKeyMask (message.getUint16At 1) softKeyMask }
    else { tracker := tracker }

def processChangeNumericValueResponse : StateTracker :=
  if message.data.length = CAN_DATA_LENGTH ∧ message.getUint8At 3 = 0 then
    tracker.cacheNumericValue (message.getUint16At 1) (message.getUint32At 4)
  else tracker

def processNumericValueChange : StateTracker :=
  if message.data.length = CAN_DATA_LENGTH then
    tracker.cacheNumericValue (message.getUint16At 1) (message.getUint32At 4)
  else tracker

/-- The command that is looked for is that of the terminal, and the value is read from its last
three bytes on. -/
def processChangeAttributeResponse : Handled :=
  if message.data.length = CAN_DATA_LENGTH ∧ message.getUint8At 4 = 0 then
    match message.destination, message.destination.bind tracker.pendingChangeAttributeCommands with
    | some destination, some _ =>
      tracker.orThrow (message.source.bind tracker.pendingChangeAttributeCommands) fun pending =>
        if pending.objectId = message.getUint16At 1 ∧
            pending.attributeID = message.getUint8At 3 then
          tracker.orThrow (uint32At message.data 5) fun value =>
            { tracker :=
                (tracker.storeAttribute (message.getUint16At 1) (message.getUint8At 3)
                  value).eraseChangeAttribute destination }
        else { tracker := tracker.eraseChangeAttribute destination }
    | _, _ => { tracker := tracker }
  else { tracker := tracker }

def processMessageFromConnectedServer : Handled :=
  let function := message.getUint8At 0
  if function = VTStatusMessage then tracker.processConnectedStatus world message
  else if function = ChangeActiveMaskCommand then tracker.processChangeActiveMaskResponse message
  else if function = ChangeSoftKeyMaskCommand then
    tracker.processChangeSoftKeyMaskResponse message
  else if function = ChangeNumericValueCommand then
    { tracker := tracker.processChangeNumericValueResponse message }
  else if function = VTChangeNumericValueMessage then
    { tracker := tracker.processNumericValueChange message }
  else if function = ChangeAttributeCommand then tracker.processChangeAttributeResponse message
  else { tracker := tracker }

/-- Only changes of tracked attributes are remembered. -/
def processMessageToConnectedServer : StateTracker :=
  let objectId := message.getUint16At 1
  let attributeID := message.getUint8At 3
  if message.getUint8At 0 = ChangeAttributeCommand ∧ message.data.length = CAN_DATA_LENGTH ∧
      (tracker.attributeStates objectId attributeID).isSome then
    match message.source with
    | some source =>
      { tracker with
        pendingChangeAttributeCommands :=
          Function.update tracker.pendingChangeAttributeCommands source
            (some ⟨message.getUint32At 4, objectId, attributeID⟩) }
    | none => tracker
  else tracker

def processRxOrTxMessage : Handled :=
  if message.hasValidSourceControlFunction world ∧ message.data ≠ [] then
    let parameterGroupNumber := message.identifier.getParameterGroupNumber
    let told :=
      if message.isBroadcast world ∧ parameterGroupNumber = VirtualTerminalToECU ∧
          message.getUint8At 0 = VTStatusMessage then
        tracker.processStatusMessage world message
      else tracker
    if message.source = told.server ∧ !message.isBroadcast world ∧
        parameterGroupNumber = VirtualTerminalToECU then
      told.processMessageFromConnectedServer world message
    else if message.destination = told.server ∧ !message.isBroadcast world ∧
        parameterGroupNumber = ECUtoVirtualTerminal then
      { tracker := told.processMessageToConnectedServer message }
    else { tracker := told }
  else { tracker := tracker }

end StateTracker

end Isobus.VirtualTerminalClient
