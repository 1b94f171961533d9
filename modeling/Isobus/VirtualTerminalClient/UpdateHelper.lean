import Isobus.VirtualTerminalClient.StateTracker

/-!
# The update helper of a virtual terminal client

`isobus_virtual_terminal_client_update_helper.cpp`: a state tracker that hands commands to its
client, but not those that would change nothing.
-/

namespace Isobus.VirtualTerminalClient

open Isobus.Can Isobus.Lib Isobus.VirtualTerminal

inductive MaskType
  | dataMask
  | alarmMask
  deriving DecidableEq

def MaskType.toByte : MaskType → UInt8
  | dataMask => 1
  | alarmMask => 2

/-- The commands that the helper gives to the client. -/
inductive HelperCommand
  | hideShowObject (objectId : UInt16) (shown : Bool)
  | changeNumericValue (objectId : UInt16) (value : UInt32)
  | changeActiveMask (workingSetId newActiveMaskId : UInt16)
  | changeSoftkeyMask (maskType : MaskType) (maskId newSoftKeyMaskId : UInt16)
  | changeAttribute (objectId : UInt16) (attributeID : UInt8) (value : UInt32)
  deriving DecidableEq

def idBytes (id : UInt16) : List UInt8 := [byteOf id.toUInt32 0, byteOf id.toUInt32 1]

def valueBytes (value : UInt32) : List UInt8 :=
  [byteOf value 0, byteOf value 1, byteOf value 2, byteOf value 3]

/-- The buffers of `send_hide_show_object` and its like. -/
def HelperCommand.buffer : HelperCommand → List UInt8
  | hideShowObject objectId shown =>
    [0xA0] ++ idBytes objectId ++ [if shown then 1 else 0, 0xFF, 0xFF, 0xFF, 0xFF]
  | changeNumericValue objectId value =>
    [ChangeNumericValueCommand] ++ idBytes objectId ++ [0xFF] ++ valueBytes value
  | changeActiveMask workingSetId newActiveMaskId =>
    [ChangeActiveMaskCommand] ++ idBytes workingSetId ++ idBytes newActiveMaskId ++
      [0xFF, 0xFF, 0xFF]
  | changeSoftkeyMask maskType maskId newSoftKeyMaskId =>
    [ChangeSoftKeyMaskCommand, maskType.toByte] ++ idBytes maskId ++
      idBytes newSoftKeyMaskId ++ [0xFF, 0xFF]
  | changeAttribute objectId attributeID value =>
    [ChangeAttributeCommand] ++ idBytes objectId ++ [attributeID] ++ valueBytes value

/-- A tracker after a call, the returned value and the command that was given to the client. -/
structure Called where
  tracker : StateTracker
  retVal : Bool
  command : Option HelperCommand := none

namespace StateTracker

variable (tracker : StateTracker) (queue : HelperCommand → Bool)

/-- The pattern of the setters. The value is stored as soon as the client accepts the command. -/
def change {α : Type} [DecidableEq α] (held : Option α) (value : α) (command : HelperCommand)
    (stored : StateTracker) : Called :=
  if tracker.client = none then { tracker := tracker, retVal := false }
  else if held = none then { tracker := tracker, retVal := false }
  else if held = some value then { tracker := tracker, retVal := true }
  else
    { tracker := if queue command then stored else tracker
      retVal := queue command
      command := some command }

theorem tracker_change {α : Type} [DecidableEq α] (held : Option α) (value : α)
    (command : HelperCommand) (stored : StateTracker) :
    (tracker.change queue held value command stored).tracker =
      if tracker.client.isSome ∧ held.isSome ∧ held ≠ some value ∧ queue command then stored
      else tracker := by
  rw [change]
  cases tracker.client with
  | none => rfl
  | some client =>
    cases held with
    | none => rfl
    | some old =>
      by_cases hsame : old = value
      · simp [hsame]
      · simp [hsame]

def setContainerShown (objectId : UInt16) (shown : Bool) : Called :=
  tracker.change queue (tracker.shownStates objectId) shown (.hideShowObject objectId shown)
    (tracker.storeShown objectId shown)

def setNumericValue (objectId : UInt16) (value : UInt32) : Called :=
  tracker.change queue (tracker.numericValueStates objectId) value
    (.changeNumericValue objectId value) (tracker.storeNumericValue objectId value)

def getNumericValue (objectId : UInt16) : UInt32 :=
  (tracker.numericValueStates objectId).getD 0

def increaseNumericValue (objectId : UInt16) (step : UInt32) : Called :=
  tracker.setNumericValue queue objectId (tracker.getNumericValue objectId + step)

def decreaseNumericValue (objectId : UInt16) (step : UInt32) : Called :=
  tracker.setNumericValue queue objectId (tracker.getNumericValue objectId - step)

def setActiveDataOrAlarmMask (workingSetId dataOrAlarmMaskId : UInt16) : Called :=
  tracker.change queue (some tracker.activeDataOrAlarmMask) dataOrAlarmMaskId
    (.changeActiveMask workingSetId dataOrAlarmMaskId)
    { tracker with activeDataOrAlarmMask := dataOrAlarmMaskId }

def setActiveSoftKeyMask (maskType : MaskType) (maskId softKeyMaskId : UInt16) : Called :=
  tracker.change queue (tracker.softKeyMasks maskId) softKeyMaskId
    (.changeSoftkeyMask maskType maskId softKeyMaskId)
    (tracker.storeSoftKeyMask maskId softKeyMaskId)

def setAttribute (objectId : UInt16) (attributeID : UInt8) (value : UInt32) : Called :=
  tracker.change queue (tracker.attributeStates objectId attributeID) value
    (.changeAttribute objectId attributeID value)
    (tracker.storeAttribute objectId attributeID value)

/-- The value that the client is given for a changed one. The callback accepts a change by returning
`true`. -/
def processNumericValueChangeEvent (callback : Option (UInt16 → UInt32 → Bool))
    (objectID : UInt16) (value : UInt32) : Option HelperCommand :=
  match tracker.numericValueStates objectID with
  | none => none
  | some held =>
    if held = value then none
    else
      some (.changeNumericValue objectID
        (if callback.any fun validate => validate objectID value then held else value))

end StateTracker

end Isobus.VirtualTerminalClient
