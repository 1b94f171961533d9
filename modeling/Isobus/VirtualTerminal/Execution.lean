import Isobus.Lib.Agenda
import Isobus.VirtualTerminal.Commands

namespace Isobus.VirtualTerminal

open Isobus.Lib

namespace VTObject

def changeNumericValue (value : UInt32) (object : VTObject) : Except UInt8 VTObject :=
  match object.data with
  | .inputBoolean data =>
    .ok { object with data := .inputBoolean { data with value := value.toUInt8 } }
  | .inputNumber data => .ok { object with data := .inputNumber { data with value } }
  | .inputList data =>
    .ok { object with data := .inputList { data with value := value.toUInt8 } }
  | .outputNumber data => .ok { object with data := .outputNumber { data with value } }
  | .outputList data =>
    .ok { object with data := .outputList { data with value := value.toUInt8 } }
  | .outputMeter data =>
    .ok { object with data := .outputMeter { data with value := value.toUInt16 } }
  | .outputLinearBarGraph data =>
    .ok { object with data := .outputLinearBarGraph { data with value := value.toUInt16 } }
  | .outputArchedBarGraph data =>
    .ok { object with data := .outputArchedBarGraph { data with value := value.toUInt16 } }
  | .numberVariable _ => .ok { object with data := .numberVariable { value } }
  | .objectPointer _ =>
    .ok { object with data := .objectPointer { value := value.toUInt16 } }
  | .externalObjectPointer data =>
    .ok { object with
      data := .externalObjectPointer
        { data with
          externalReferenceNAMEID := value.toUInt16
          externalObjectID := (value >>> 16).toUInt16 } }
  | _ => .error 0x01

def hideShow (value : UInt8) (object : VTObject) : Except UInt8 VTObject :=
  match object.data with
  | .container data => .ok { object with data := .container { data with hidden := value = 0 } }
  | _ => .error 0x02

def setOption (bitfield bit : UInt8) (value : Bool) : UInt8 :=
  if value then bitfield ||| (1 <<< bit) else bitfield &&& ~~~(1 <<< bit)

def enableDisable (value : UInt8) (object : VTObject) : Except UInt8 VTObject :=
  if value ≤ 1 then
    match object.data with
    | .inputBoolean data =>
      .ok { object with data := .inputBoolean { data with enabled := value ≠ 0 } }
    | .inputList data =>
      .ok { object with
        data := .inputList
          { data with optionsBitfield := setOption data.optionsBitfield 0 (value ≠ 0) } }
    | .inputString data =>
      .ok { object with data := .inputString { data with enabled := value ≠ 0 } }
    | .inputNumber data =>
      .ok { object with
        data := .inputNumber { data with options2 := setOption data.options2 0 (value ≠ 0) } }
    | .button data =>
      .ok { object with
        data := .button
          { data with optionsBitfield := setOption data.optionsBitfield 4 (value = 0) } }
    | _ => .error 0x02
  else .error 0x04

/-- A byte of 127 stands for no move; the difference is kept in eight bits. -/
def relativeChange (byte : UInt8) : Int8 := Int8.ofInt (byte.toNat - 127)

/-- Every instance of the child is moved. -/
def offsetAllChildrenWithId (childObjectID : UInt16) (xOffset yOffset : Int8)
    (object : VTObject) : Except UInt8 VTObject :=
  if object.children.any fun child => child.id = childObjectID then
    .ok { object with
      children := object.children.map fun child =>
        if child.id = childObjectID then
          { child with
            xLocation := child.xLocation + xOffset.toInt16
            yLocation := child.yLocation + yOffset.toInt16 }
        else child }
  else .error 0x02

def getNumberChildren (object : VTObject) : Nat := object.children.length % 65536

def changeChildPosition (childObjectID newXPosition newYPosition : UInt16) (object : VTObject) :
    Except UInt8 VTObject :=
  match object.getObjectType with
  | .button | .container | .alarmMask | .dataMask | .key | .workingSet | .auxiliaryInputType2
  | .windowMask =>
    if (object.children.take object.getNumberChildren).any fun child =>
        child.id = childObjectID then
      .ok { object with
        children := (object.children.take object.getNumberChildren).map (fun child =>
          if child.id = childObjectID then
            { child with
              xLocation := newXPosition.toInt16, yLocation := newYPosition.toInt16 }
          else child) ++ object.children.drop object.getNumberChildren }
    else .error 0x02
  | _ => .error 0x10

/-- A string that is shorter than the old one is padded with spaces. -/
def padded (value old : List UInt8) : List UInt8 :=
  value ++ List.replicate (old.length - value.length) 0x20

def changeStringValue (value : List UInt8) (object : VTObject) : Except UInt8 VTObject :=
  match object.data with
  | .stringVariable data =>
    .ok { object with data := .stringVariable { value := padded value data.value } }
  | .outputString data =>
    .ok { object with
      data := .outputString { data with stringValue := padded value data.stringValue } }
  | .inputString data =>
    .ok { object with
      data := .inputString { data with stringValue := padded value data.stringValue } }
  | _ => .error 0x02

def changeSize (newWidth newHeight : UInt16) (object : VTObject) : Except UInt8 VTObject :=
  match object.getObjectType with
  | .outputMeter =>
    if newWidth = newHeight then .ok { object with width := newWidth, height := newHeight }
    else .error 0x10
  | .animation | .button | .container | .inputBoolean | .inputList | .inputString | .inputNumber
  | .outputArchedBarGraph | .outputEllipse | .outputLine | .outputLinearBarGraph | .outputList
  | .outputNumber | .outputPolygon | .outputRectangle | .outputString =>
    .ok { object with width := newWidth, height := newHeight }
  | _ => .error 0x10

def isListItem : VirtualTerminalObjectType → Bool
  | .workingSet | .container | .outputString | .outputNumber | .outputList | .outputLine
  | .outputRectangle | .outputEllipse | .outputPolygon | .outputMeter | .outputLinearBarGraph
  | .outputArchedBarGraph | .graphicsContext | .pictureGraphic | .scaledGraphic | .objectPointer
  | .externalObjectPointer => true
  | _ => false

def setListItem (index : UInt8) (newListItem : UInt16) (tree : ObjectTree)
    (fits : VirtualTerminalObjectType → Bool) (object : VTObject) : Except UInt8 VTObject :=
  if index.toNat < object.children.length ∧ (newListItem = NULL_OBJECT_ID ∨
      (tree.getObjectById newListItem).any fun item => fits item.getObjectType) then
    .ok { object with
      children := object.children.modify index.toNat fun child => { child with id := newListItem } }
  else .error 0x10

def changeListItem (index : UInt8) (newListItem : UInt16) (tree : ObjectTree)
    (object : VTObject) : Except UInt8 VTObject :=
  match object.getObjectType with
  | .inputList => object.setListItem index newListItem tree isListItem
  | .outputList => object.setListItem index newListItem tree fun type => type = .numberVariable
  | _ => .error 0x10

def changeFontAttributes (colour size type style : UInt8) (object : VTObject) :
    Except UInt8 VTObject :=
  match object.data with
  | .fontAttributes _ =>
    if size ≤ FontAttributes.size128x192 then
      .ok { object with data := .fontAttributes { colour, size, type, style } }
    else .error 0x04
  | _ => .error 0x01

def changeLineAttributes (colour width : UInt8) (lineArt : UInt16) (object : VTObject) :
    Except UInt8 VTObject :=
  match object.data with
  | .lineAttributes _ =>
    .ok { object with
      backgroundColor := colour
      width := width.toUInt16
      data := .lineAttributes { lineArtBitpattern := lineArt } }
  | _ => .error 0x01

def changeFillAttributes (type colour : UInt8) (fillPatternID : UInt16)
    (fillPattern : Option VTObject) (object : VTObject) : Except UInt8 VTObject :=
  match object.data with
  | .fillAttributes _ =>
    if (fillPattern.any fun object => object.getObjectType = .pictureGraphic) ∨
        fillPatternID = NULL_OBJECT_ID then
      if type ≤ FillAttributes.fillWithPatternGivenByFillPatternAttribute then
        .ok { object with
          backgroundColor := colour
          data := .fillAttributes { fillPattern := fillPatternID, type } }
      else .error 0x02
    else .error 0x08
  | _ => .error 0x01

def changeBackgroundColour (colour : UInt8) (object : VTObject) : Except UInt8 VTObject :=
  match object.getObjectType with
  | .auxiliaryInputType2 | .workingSet | .dataMask | .alarmMask | .softKeyMask | .key | .button
  | .inputNumber | .inputBoolean | .inputString | .outputString | .outputNumber
  | .graphicsContext | .windowMask => .ok { object with backgroundColor := colour }
  | _ => .error 0x10

/-- The priority is looked at but not set. -/
def changePriority (priority : UInt8) (object : VTObject) : Except UInt8 VTObject :=
  match object.data with
  | .alarmMask _ => if priority ≤ AlarmMask.lowPriority then .ok object else .error 0x02
  | _ => .error 0x10

def changePolygonPoint (index : UInt8) (x y : UInt16) (object : VTObject) :
    Except UInt8 VTObject :=
  match object.data with
  | .outputPolygon data =>
    if index.toNat < data.pointList.length then
      .ok { object with
        data := .outputPolygon
          { data with pointList := data.pointList.set index.toNat { xValue := x, yValue := y } } }
    else .error 0x02
  | _ => .error 0x04

end VTObject

namespace Server

/-- What is left to be done, in order. -/
inductive Task
  | executeMacro (macroID : UInt16)
  | receive (commandPacket : List UInt8)
  | respond (response : List UInt8)
  deriving DecidableEq

structure ClientObjects where
  vtObjectTree : ObjectTree := .empty
  focusedObject : UInt16 := NULL_OBJECT_ID

namespace ClientObjects

def touch (objects : ClientObjects) (objectID : UInt16) : ClientObjects :=
  { objects with vtObjectTree := objects.vtObjectTree.touch objectID }

def getObjectById (objects : ClientObjects) (objectID : UInt16) : Option VTObject :=
  objects.vtObjectTree.get objectID

def setObject (objects : ClientObjects) (objectID : UInt16) (object : VTObject) : ClientObjects :=
  { objects with vtObjectTree := objects.vtObjectTree.set objectID (some object) }

end ClientObjects

def processMacro (object : VTObject) (event : EventID) : List Task :=
  ((object.macros.take object.getNumberMacros.toNat).filter fun reference =>
    reference.event = event).map fun reference => .executeMacro reference.macroID

/-- The course of most commands: the object is changed, the response says which error there was, and
a success starts macros. -/
def changeObject (objects : ClientObjects) (objectID : UInt16) (missing : UInt8)
    (response : UInt8 → List UInt8) (change : VTObject → Except UInt8 VTObject)
    (event : Option EventID) : ClientObjects × List Task :=
  match objects.getObjectById objectID with
  | none => (objects.touch objectID, [.respond (response missing)])
  | some object =>
    match change object with
    | .error errorBitfield => (objects.touch objectID, [.respond (response errorBitfield)])
    | .ok object =>
      ((objects.touch objectID).setObject objectID object,
        .respond (response 0) :: (event.map (processMacro object)).getD [])

/-- The commands are counted in eight bits, and only those of eight bytes are executed. -/
def executedPackets (macroObject : Macro) : List (List UInt8) :=
  (macroObject.commandPackets.take (UInt8.ofNat macroObject.commandPackets.length).toNat).filter
    fun commandPacket => commandPacket.length = 8

/-- What is to be done for a macro, if there is one and its commands are allowed. -/
def startMacro (objects : ClientObjects) (macroID : UInt16) : Option (List Task) :=
  match objects.getObjectById macroID with
  | some { data := .macroObject data, .. } =>
    if Macro.getAreCommandPacketsValid data.commandPackets then
      some ((executedPackets data).map .receive)
    else none
  | _ => none

def changeChild (objects : ClientObjects) (parentObjectID objectID : UInt16)
    (response : UInt8 → List UInt8) (change : VTObject → Except UInt8 VTObject)
    (event : EventID) : ClientObjects × List Task :=
  match objects.getObjectById parentObjectID, objects.getObjectById objectID with
  | none, _ => (objects, [.respond (response 0x01)])
  | some _, none => (objects, [.respond (response 0x02)])
  | some _, some _ => changeObject objects parentObjectID 0x01 response change (some event)

def changeActiveMask (objects : ClientObjects) (workingSetObjectID newActiveMaskObjectID : UInt16) :
    Option (ClientObjects × List Task) :=
  let response (errorBitfield : UInt8) : List Task :=
    [.respond (sendChangeActiveMaskResponse newActiveMaskObjectID errorBitfield)]
  match objects.getObjectById workingSetObjectID with
  | none => some (objects.touch workingSetObjectID, response 0x01)
  | some object =>
    let objects := (objects.touch workingSetObjectID).touch newActiveMaskObjectID
    match objects.getObjectById newActiveMaskObjectID with
    | none => some (objects, response 0x02)
    | some _ =>
      -- Any object is taken for a working set object.
      match object.data with
      | .workingSet data =>
        some (objects.setObject workingSetObjectID
          { object with data :=
              .workingSet { data with activeMask := newActiveMaskObjectID } },
          response 0)
      | _ => none

def changeAttribute (objects : ClientObjects) (objectID : UInt16) (attributeID : UInt8)
    (attributeData : UInt32) : Option (ClientObjects × List Task) :=
  let response (errorBitfield : UInt8) : Task :=
    .respond (sendChangeAttributeResponse objectID attributeID errorBitfield)
  let touched := objects.touch objectID
  match objects.getObjectById objectID with
  | none => some (touched, [response AttributeError.invalidObjectID.bit])
  | some object =>
    if objectID = NULL_OBJECT_ID then
      some (touched, [response AttributeError.invalidObjectID.bit])
    else
      match object.setAttribute attributeID attributeData touched.vtObjectTree with
      | none => none
      | some (.error error) => some (touched, [response error.bit])
      | some (.ok object) =>
        some (touched.setObject objectID object,
          response 0 :: processMacro object .onChangeAttribute)

def changeSoftKeyMask (objects : ClientObjects) (dataOrAlarmMaskID newSoftKeyMaskID : UInt16) :
    Option (ClientObjects × List Task) :=
  let response (errorBitfield : UInt8) : Task :=
    .respond (sendChangeSoftKeyMaskResponse dataOrAlarmMaskID newSoftKeyMaskID errorBitfield)
  let touched := (objects.touch dataOrAlarmMaskID).touch newSoftKeyMaskID
  let success (targetMask : VTObject) : ClientObjects × List Task :=
    (touched.setObject dataOrAlarmMaskID targetMask,
      response 0 :: processMacro targetMask .onChangeSoftKeyMask)
  match objects.getObjectById dataOrAlarmMaskID with
  | none => some (touched, [response 0x01])
  | some targetMask =>
    if newSoftKeyMaskID = NULL_OBJECT_ID ∨ (objects.getObjectById newSoftKeyMaskID).isSome then
      match targetMask.data with
      | .alarmMask data =>
        match data.changeSoftKeyMask newSoftKeyMaskID touched.vtObjectTree with
        | none => none
        | some none => some (touched, [response 0x10])
        | some (some data) => some (success { targetMask with data := .alarmMask data })
      | .dataMask data =>
        match data.changeSoftKeyMask newSoftKeyMaskID touched.vtObjectTree with
        | none => some (touched, [response 0x10])
        | some data => some (success { targetMask with data := .dataMask data })
      | _ => some (touched, [response 0x10])
    else some (touched, [response 0x02])

def isSelectable (version : UInt8) : VirtualTerminalObjectType → Bool
  | .button | .key => 3 < version
  | .inputNumber | .inputString | .inputList => true
  | _ => false

def selectionEvent (objectID : UInt16) : EventID :=
  if objectID = NULL_OBJECT_ID then .onInputFieldDeselection else .onInputFieldSelection

def selectInputObject (version : UInt8) (objects : ClientObjects) (objectID : UInt16)
    (option : UInt8) : ClientObjects × List Task :=
  let response (response : SelectInputObjectResponse) (errorBitfield : UInt8) : Task :=
    .respond (sendSelectInputObjectResponse objectID response errorBitfield)
  let touched := objects.touch objectID
  let select (object : VTObject) (selected : SelectInputObjectResponse) :
      ClientObjects × List Task :=
    ({ touched with focusedObject := objectID },
      response (if objectID = NULL_OBJECT_ID then .objectIsNotSelectedOrIsNullOrError
        else selected) 0 :: processMacro object (selectionEvent objectID))
  match objects.getObjectById objectID with
  | none => (touched, [response .objectIsNotSelectedOrIsNullOrError 0x02])
  | some object =>
    if isSelectable version object.getObjectType then
      if option = 0 then select object .objectIsOpenedForEdit
      else if option = 0xFF then select object .objectIsSelected
      else (touched, [response .objectIsNotSelectedOrIsNullOrError 0x20])
    else (touched, [response .objectIsNotSelectedOrIsNullOrError 0x10])

/-- The response follows whatever the macro does, but is decided by the macro itself. -/
def executeMacro (objects : ClientObjects) (objectID : UInt16) (response : UInt8 → List UInt8) :
    ClientObjects × List Task :=
  let touched := objects.touch objectID
  match objects.getObjectById objectID with
  | none => (touched, [.respond (response 0x01)])
  | some object =>
    if object.getObjectType = .macroObject then
      let errorBitfield := if (startMacro objects objectID).isSome then 0 else 0x04
      (touched, [.executeMacro objectID, .respond (response errorBitfield)])
    else (touched, [.respond (response 0x02)])

/-- Nothing if an object is taken for what it is not or an absent ID is looked up. -/
def execute (version : UInt8) (objects : ClientObjects) :
    Command → Option (ClientObjects × List Task)
  | .changeNumericValue objectID value =>
    some (changeObject objects objectID 0x01 (sendChangeNumericValueResponse objectID value)
      (VTObject.changeNumericValue value) (some .onChangeValue))
  | .hideShowObject objectID value =>
    some (changeObject objects objectID 0x02 (sendHideShowObjectResponse objectID (value ≠ 0))
      (VTObject.hideShow value) (some (if value = 0 then .onHide else .onShow)))
  | .enableDisableObject objectID value =>
    some (changeObject objects objectID 0x02
      (sendEnableDisableObjectResponse objectID (value ≠ 0))
      (VTObject.enableDisable value) none)
  | .changeChildLocation parentObjectID objectID x y =>
    -- The child is looked up only if the parent is there.
    let touched := if (objects.getObjectById parentObjectID).isSome then
      (objects.touch parentObjectID).touch objectID else objects.touch parentObjectID
    some (changeChild touched parentObjectID objectID
      (sendChangeChildLocationResponse parentObjectID objectID)
      (VTObject.offsetAllChildrenWithId objectID (VTObject.relativeChange x)
        (VTObject.relativeChange y)) .changeChildLocation)
  | .changeActiveMask workingSetObjectID newActiveMaskObjectID =>
    changeActiveMask objects workingSetObjectID newActiveMaskObjectID
  | .changeStringValue objectID none =>
    some (objects.touch objectID, [.respond (sendChangeStringValueResponse objectID 0x08)])
  | .changeStringValue objectID (some value) =>
    some (changeObject objects objectID 0x02 (sendChangeStringValueResponse objectID)
      (VTObject.changeStringValue value) none)
  | .changeFillAttributes objectID type colour fillPatternID =>
    some (changeObject ((objects.touch objectID).touch fillPatternID) objectID 0x01
      (sendChangeFillAttributesResponse objectID)
      (VTObject.changeFillAttributes type colour fillPatternID
        (objects.getObjectById fillPatternID)) none)
  | .changeChildPosition parentObjectID objectID none =>
    some (objects, [.respond (sendChangeChildPositionResponse parentObjectID objectID 0x10)])
  | .changeChildPosition parentObjectID objectID (some (newXPosition, newYPosition)) =>
    some (changeChild ((objects.touch parentObjectID).touch objectID) parentObjectID objectID
      (sendChangeChildPositionResponse parentObjectID objectID)
      (VTObject.changeChildPosition objectID newXPosition newYPosition) .onChangeChildPosition)
  | .changeAttribute objectID attributeID attributeData =>
    changeAttribute objects objectID attributeID attributeData
  | .changeSize objectID newWidth newHeight =>
    some (changeObject objects objectID 0x01 (sendChangeSizeResponse objectID)
      (VTObject.changeSize newWidth newHeight) (some .onChangeSize))
  | .changeListItem objectID listIndex newObjectID =>
    let touched := (objects.touch objectID).touch newObjectID
    let isMissing : Bool := newObjectID ≠ NULL_OBJECT_ID ∧
        (objects.getObjectById newObjectID).isNone
    some (changeObject touched objectID 0x01
      (fun errorBitfield =>
        sendChangeListItemResponse objectID newObjectID listIndex errorBitfield)
      (fun object => if isMissing then .error 0x04
        else object.changeListItem listIndex newObjectID touched.vtObjectTree) none)
  | .changeFontAttributes objectID colour size type style =>
    some (changeObject objects objectID 0x01 (sendChangeFontAttributesResponse objectID)
      (VTObject.changeFontAttributes colour size type style) none)
  | .changeLineAttributes objectID colour width lineArt =>
    some (changeObject objects objectID 0x01 (sendChangeLineAttributesResponse objectID)
      (VTObject.changeLineAttributes colour width lineArt) none)
  | .changeSoftKeyMask dataOrAlarmMaskID newSoftKeyMaskID =>
    changeSoftKeyMask objects dataOrAlarmMaskID newSoftKeyMaskID
  | .changeBackgroundColour objectID colour =>
    some (changeObject objects objectID 0x01 (sendChangeBackgroundColourResponse objectID colour)
      (VTObject.changeBackgroundColour colour) (some .onChangeBackgroundColour))
  | .changePriority objectID priority =>
    some (changeObject objects objectID 0x01 (sendChangePriorityResponse objectID priority)
      (VTObject.changePriority priority) (some .onChangePriority))
  | .selectInputObject objectID option => some (selectInputObject version objects objectID option)
  | .changePolygonPoint objectID index x y =>
    some (changeObject objects objectID 0x01 (sendChangePolygonPointResponse objectID)
      (VTObject.changePolygonPoint index x y) none)
  | .executeMacro objectID =>
    some (executeMacro objects objectID (sendExecuteMacroResponse objectID))
  | .executeExtendedMacro objectID =>
    some (executeMacro objects objectID (sendExecuteExtendedMacroResponse objectID))
  | .controlAudioSignal => some (objects, [.respond sendAudioSignalSuccessful])
  | .setAudioVolume => some (objects, [.respond sendAudioVolumeResponse])

/-- What a message makes of the objects if it holds one of these commands. -/
def processCommand (version : UInt8) (objects : ClientObjects) (data : List UInt8) :
    Option (ClientObjects × List Task) := do
  match ← Command.decode data with
  | some command => execute version objects command
  | none => return (objects, [])

def terminal (version : UInt8) : Worker ClientObjects Task where
  perform objects
    | .executeMacro macroID =>
      some (objects.touch macroID, (startMacro objects macroID).getD [])
    | .receive commandPacket => processCommand version objects commandPacket
    | .respond _ => some (objects, [])

end Server

end Isobus.VirtualTerminal
