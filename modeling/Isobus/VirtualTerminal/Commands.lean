import Isobus.Lib.Layout
import Isobus.VirtualTerminal.Attributes
import Isobus.VirtualTerminal.PoolParts

namespace Isobus.VirtualTerminal.Server

open Isobus.Lib

def uint8At (data : List UInt8) (index : Nat) : Option UInt8 := data[index]?

def uint16At (data : List UInt8) (index : Nat) : Option UInt16 := do
  return decode16 (← data[index]?) (← data[index + 1]?)

def uint32At (data : List UInt8) (index : Nat) : Option UInt32 := do
  return decode32 (← data[index]?) (← data[index + 1]?) (← data[index + 2]?)
    (← data[index + 3]?)

/-- The fields that the branch of a command reads. -/
inductive Command
  | changeNumericValue (objectID : UInt16) (value : UInt32)
  | hideShowObject (objectID : UInt16) (value : UInt8)
  | enableDisableObject (objectID : UInt16) (value : UInt8)
  | changeChildLocation (parentObjectID objectID : UInt16) (x y : UInt8)
  | changeActiveMask (workingSetObjectID newActiveMaskObjectID : UInt16)
  | changeStringValue (objectID : UInt16) (value : Option (List UInt8))
  | changeFillAttributes (objectID : UInt16) (type colour : UInt8) (fillPatternID : UInt16)
  /-- Nothing stands for a message of eight bytes, which has no room for the position. -/
  | changeChildPosition (parentObjectID objectID : UInt16) (position : Option (UInt16 × UInt16))
  | changeAttribute (objectID : UInt16) (attributeID : UInt8) (attributeData : UInt32)
  | changeSize (objectID newWidth newHeight : UInt16)
  | changeListItem (objectID : UInt16) (listIndex : UInt8) (newObjectID : UInt16)
  | changeFontAttributes (objectID : UInt16) (colour size type style : UInt8)
  | changeLineAttributes (objectID : UInt16) (colour width : UInt8) (lineArt : UInt16)
  | changeSoftKeyMask (dataOrAlarmMaskID newSoftKeyMaskID : UInt16)
  | changeBackgroundColour (objectID : UInt16) (colour : UInt8)
  | changePriority (objectID : UInt16) (priority : UInt8)
  | selectInputObject (objectID : UInt16) (option : UInt8)
  | changePolygonPoint (objectID : UInt16) (index : UInt8) (x y : UInt16)
  | executeMacro (objectID : UInt16)
  | executeExtendedMacro (objectID : UInt16)
  | controlAudioSignal
  | setAudioVolume
  deriving DecidableEq

/-- Nothing if a byte is read that the message has not; otherwise the command, if it is one of
these. -/
def Command.decode (data : List UInt8) : Option (Option Command) := do
  match ← uint8At data 0 with
  | 0xA8 => return some (.changeNumericValue (← uint16At data 1) (← uint32At data 4))
  | 0xA0 => return some (.hideShowObject (← uint16At data 1) (← uint8At data 3))
  | 0xA1 => return some (.enableDisableObject (← uint16At data 1) (← uint8At data 3))
  | 0xA5 =>
    return some (.changeChildLocation (← uint16At data 1) (← uint16At data 3)
      (← uint8At data 5) (← uint8At data 6))
  | 0xAD => return some (.changeActiveMask (← uint16At data 1) (← uint16At data 3))
  | 0xB3 =>
    let objectID ← uint16At data 1
    let numberOfBytesInString ← uint16At data 3
    if numberOfBytesInString.toNat + 5 ≤ data.length then
      return some (.changeStringValue objectID
        (some (← readBytes data 5 numberOfBytesInString.toNat)))
    else return some (.changeStringValue objectID none)
  | 0xAC =>
    return some (.changeFillAttributes (← uint16At data 1) (← uint8At data 3)
      (← uint8At data 4) (← uint16At data 5))
  | 0xB4 =>
    let parentObjectID ← uint16At data 1
    let objectID ← uint16At data 3
    if 8 < data.length then
      return some (.changeChildPosition parentObjectID objectID
        (some (← uint16At data 5, ← uint16At data 7)))
    else return some (.changeChildPosition parentObjectID objectID none)
  | 0xAF =>
    return some (.changeAttribute (← uint16At data 1) (← uint8At data 3) (← uint32At data 4))
  | 0xA6 =>
    return some (.changeSize (← uint16At data 1) (← uint16At data 3) (← uint16At data 5))
  | 0xB1 =>
    return some (.changeListItem (← uint16At data 1) (← uint8At data 3) (← uint16At data 4))
  | 0xAA =>
    return some (.changeFontAttributes (← uint16At data 1) (← uint8At data 3)
      (← uint8At data 4) (← uint8At data 5) (← uint8At data 6))
  | 0xAB =>
    return some (.changeLineAttributes (← uint16At data 1) (← uint8At data 3)
      (← uint8At data 4) (← uint16At data 5))
  | 0xAE => return some (.changeSoftKeyMask (← uint16At data 2) (← uint16At data 4))
  | 0xA7 => return some (.changeBackgroundColour (← uint16At data 1) (← uint8At data 3))
  | 0xB0 => return some (.changePriority (← uint16At data 1) (← uint8At data 3))
  | 0xA2 => return some (.selectInputObject (← uint16At data 1) (← uint8At data 3))
  | 0xB6 =>
    return some (.changePolygonPoint (← uint16At data 1) (← uint8At data 3)
      (← uint16At data 4) (← uint16At data 6))
  | 0xBE => return some (.executeMacro (← uint8At data 1).toUInt16)
  | 0xBC => return some (.executeExtendedMacro (← uint16At data 1))
  | 0xA3 => return some .controlAudioSignal
  | 0xA4 => return some .setAudioVolume
  | _ => return none

def objectResponse (function : UInt8) (objectID : UInt16) (rest : List UInt8) : List UInt8 :=
  function :: byteOf objectID.toUInt32 0 :: byteOf objectID.toUInt32 1 :: rest

def sendChangeNumericValueResponse (objectID : UInt16) (value : UInt32) (errorBitfield : UInt8) :
    List UInt8 :=
  objectResponse 0xA8 objectID
    [errorBitfield, byteOf value 0, byteOf value 1, byteOf value 2, byteOf value 3]

def sendHideShowObjectResponse (objectID : UInt16) (value : Bool) (errorBitfield : UInt8) :
    List UInt8 :=
  objectResponse 0xA0 objectID [value.toUInt8, errorBitfield, 0xFF, 0xFF, 0xFF]

def sendEnableDisableObjectResponse (objectID : UInt16) (value : Bool)
    (errorBitfield : UInt8) : List UInt8 :=
  objectResponse 0xA1 objectID [value.toUInt8, errorBitfield, 0xFF, 0xFF, 0xFF]

def sendChangeChildLocationResponse (parentObjectID objectID : UInt16)
    (errorBitfield : UInt8) : List UInt8 :=
  objectResponse 0xA5 parentObjectID
    [byteOf objectID.toUInt32 0, byteOf objectID.toUInt32 1, errorBitfield, 0xFF, 0xFF]

def sendChangeActiveMaskResponse (newMaskObjectID : UInt16) (errorBitfield : UInt8) :
    List UInt8 :=
  objectResponse 0xAD newMaskObjectID [errorBitfield, 0xFF, 0xFF, 0xFF, 0xFF]

def sendChangeStringValueResponse (objectID : UInt16) (errorBitfield : UInt8) : List UInt8 :=
  [0xB3, 0xFF, 0xFF, byteOf objectID.toUInt32 0, byteOf objectID.toUInt32 1, errorBitfield,
    0xFF, 0xFF]

def sendChangeFillAttributesResponse (objectID : UInt16) (errorBitfield : UInt8) :
    List UInt8 :=
  objectResponse 0xAC objectID [errorBitfield, 0xFF, 0xFF, 0xFF, 0xFF]

def sendChangeChildPositionResponse (parentObjectID objectID : UInt16)
    (errorBitfield : UInt8) : List UInt8 :=
  objectResponse 0xB4 parentObjectID
    [byteOf objectID.toUInt32 0, byteOf objectID.toUInt32 1, errorBitfield, 0xFF, 0xFF]

def sendChangeAttributeResponse (objectID : UInt16) (attributeID errorBitfield : UInt8) :
    List UInt8 :=
  objectResponse 0xAF objectID [attributeID, errorBitfield, 0xFF, 0xFF, 0xFF]

def sendChangeSizeResponse (objectID : UInt16) (errorBitfield : UInt8) : List UInt8 :=
  objectResponse 0xA6 objectID [errorBitfield, 0xFF, 0xFF, 0xFF, 0xFF]

def sendChangeListItemResponse (objectID newObjectID : UInt16) (listIndex errorBitfield : UInt8) :
    List UInt8 :=
  objectResponse 0xB1 objectID
    [listIndex, byteOf newObjectID.toUInt32 0, byteOf newObjectID.toUInt32 1, errorBitfield, 0xFF]

def sendChangeFontAttributesResponse (objectID : UInt16) (errorBitfield : UInt8) :
    List UInt8 :=
  objectResponse 0xAA objectID [errorBitfield, 0xFF, 0xFF, 0xFF, 0xFF]

def sendChangeLineAttributesResponse (objectID : UInt16) (errorBitfield : UInt8) :
    List UInt8 :=
  objectResponse 0xAB objectID [errorBitfield, 0xFF, 0xFF, 0xFF, 0xFF]

def sendChangeSoftKeyMaskResponse (objectID newObjectID : UInt16) (errorBitfield : UInt8) :
    List UInt8 :=
  objectResponse 0xAE objectID
    [byteOf newObjectID.toUInt32 0, byteOf newObjectID.toUInt32 1, errorBitfield, 0xFF, 0xFF]

def sendChangeBackgroundColourResponse (objectID : UInt16) (colour errorBitfield : UInt8) :
    List UInt8 :=
  objectResponse 0xA7 objectID [colour, errorBitfield, 0xFF, 0xFF, 0xFF]

def sendChangePriorityResponse (objectID : UInt16) (priority errorBitfield : UInt8) :
    List UInt8 :=
  objectResponse 0xB0 objectID [priority, errorBitfield, 0xFF, 0xFF, 0xFF]

inductive SelectInputObjectResponse
  | objectIsNotSelectedOrIsNullOrError | objectIsSelected | objectIsOpenedForEdit
  deriving DecidableEq

def SelectInputObjectResponse.toByte : SelectInputObjectResponse → UInt8
  | objectIsNotSelectedOrIsNullOrError => 0
  | objectIsSelected => 1
  | objectIsOpenedForEdit => 2

def sendSelectInputObjectResponse (objectID : UInt16) (response : SelectInputObjectResponse)
    (errorBitfield : UInt8) : List UInt8 :=
  objectResponse 0xA2 objectID [response.toByte, errorBitfield, 0xFF, 0xFF, 0xFF]

def sendChangePolygonPointResponse (objectID : UInt16) (errorBitfield : UInt8) : List UInt8 :=
  objectResponse 0xB6 objectID [errorBitfield, 0xFF, 0xFF, 0xFF, 0xFF]

def sendExecuteMacroResponse (objectID : UInt16) (errorBitfield : UInt8) : List UInt8 :=
  [0xBE, byteOf objectID.toUInt32 0, 0xFF, errorBitfield, 0xFF, 0xFF, 0xFF, 0xFF]

def sendExecuteExtendedMacroResponse (objectID : UInt16) (errorBitfield : UInt8) : List UInt8 :=
  objectResponse 0xBC objectID [errorBitfield, 0xFF, 0xFF, 0xFF, 0xFF]

def sendAudioSignalSuccessful : List UInt8 := [0xA3, 0, 0xFF, 0xFF, 0xFF, 0xFF, 0xFF, 0xFF]

def sendAudioVolumeResponse : List UInt8 := [0xA4, 0, 0xFF, 0xFF, 0xFF, 0xFF, 0xFF, 0xFF]

end Isobus.VirtualTerminal.Server
