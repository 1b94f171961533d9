import Isobus.VirtualTerminal.Objects

namespace Isobus.VirtualTerminal

inductive AttributeError
  | invalidObjectID | invalidAttributeID | invalidValue | anyOtherError
  deriving DecidableEq

/-- The bit that stands for the error in a response. -/
def AttributeError.bit : AttributeError → UInt8
  | invalidObjectID => 0x01
  | invalidAttributeID => 0x02
  | invalidValue => 0x04
  | anyOtherError => 0x10

namespace ObjectTree

/-- The NULL object ID names no object, even if there is one under it. -/
def getObjectById (tree : ObjectTree) (objectID : UInt16) : Option VTObject :=
  if objectID = NULL_OBJECT_ID then none else tree.get objectID

def holds (tree : ObjectTree) (objectID : UInt16) (type : VirtualTerminalObjectType) : Bool :=
  (tree.getObjectById objectID).any fun object => object.getObjectType = type

end ObjectTree

/-- A new value of what every object has or of the data of the class, a refusal, or an ID that the
tree has not. -/
inductive Assignment (α : Type)
  | width (value : UInt16)
  | height (value : UInt16)
  | backgroundColor (value : UInt8)
  | data (data : α)
  | refused (error : AttributeError)
  | outside

namespace Assignment

def reference {α : Type} (raw : UInt32) (tree : ObjectTree) (type : VirtualTerminalObjectType)
    (set : UInt16 → α) : Assignment α :=
  if raw = NULL_OBJECT_ID.toUInt32 ∨ tree.holds raw.toUInt16 type then .data (set raw.toUInt16)
  else .refused .invalidValue

def bounded {α : Type} (raw : UInt32) (last : UInt8) (set : UInt8 → α) : Assignment α :=
  if raw ≤ last.toUInt32 then .data (set raw.toUInt8) else .refused .anyOtherError

end Assignment

namespace WorkingSet

def setAttribute (workingSet : WorkingSet) (raw : UInt32) : UInt8 → Assignment WorkingSet
  | 1 => .backgroundColor raw.toUInt8
  | 2 => .data { workingSet with selectable := raw ≠ 0 }
  | 3 => .data { workingSet with activeMask := raw.toUInt16 }
  | _ => .refused .invalidAttributeID

end WorkingSet

namespace DataMask

def setSoftKeyMask (mask : DataMask) (newMaskID : UInt16) : DataMask :=
  { mask with softKeyMaskObjectID := newMaskID }

def changeSoftKeyMask (mask : DataMask) (newMaskID : UInt16) (tree : ObjectTree) :
    Option DataMask :=
  if newMaskID = NULL_OBJECT_ID then some (mask.setSoftKeyMask newMaskID)
  else if (tree.get newMaskID).any fun object => object.getObjectType = .softKeyMask then
    some (mask.setSoftKeyMask newMaskID)
  else none

def setAttribute (mask : DataMask) (raw : UInt32) (tree : ObjectTree) :
    UInt8 → Assignment DataMask
  | 1 => .backgroundColor raw.toUInt8
  | 2 =>
    match mask.changeSoftKeyMask raw.toUInt16 tree with
    | some mask => .data mask
    | none => .refused .invalidAttributeID
  | _ => .refused .invalidAttributeID

end DataMask

namespace AlarmMask

def setSoftKeyMask (mask : AlarmMask) (newMaskID : UInt16) : AlarmMask :=
  { mask with softKeyMask := newMaskID }

/-- The tree is asked for the new mask without a look whether it is there: nothing if not. -/
def changeSoftKeyMask (mask : AlarmMask) (newMaskID : UInt16) (tree : ObjectTree) :
    Option (Option AlarmMask) :=
  if newMaskID = NULL_OBJECT_ID then some (some (mask.setSoftKeyMask newMaskID))
  else do
    let newMask ← tree newMaskID
    if newMask.any fun object => object.getObjectType = .softKeyMask then
      return some (mask.setSoftKeyMask newMaskID)
    else return none

def setAttribute (mask : AlarmMask) (raw : UInt32) (tree : ObjectTree) :
    UInt8 → Assignment AlarmMask
  | 1 => .backgroundColor raw.toUInt8
  | 2 =>
    match mask.changeSoftKeyMask raw.toUInt16 tree with
    | some (some mask) => .data mask
    | some none => .refused .anyOtherError
    | none => .outside
  | 3 => .bounded raw lowPriority fun maskPriority => { mask with maskPriority }
  | 4 => .bounded raw noAcousticSignal fun signalPriority => { mask with signalPriority }
  | _ => .refused .invalidAttributeID

end AlarmMask

def SoftKeyMask.setAttribute (raw : UInt32) : UInt8 → Assignment Unit
  | 1 => .backgroundColor raw.toUInt8
  | _ => .refused .invalidAttributeID

def Key.setAttribute (key : Key) (raw : UInt32) : UInt8 → Assignment Key
  | 1 => .backgroundColor raw.toUInt8
  | 2 => .data { key with keyCode := raw.toUInt8 }
  | _ => .refused .invalidAttributeID

namespace KeyGroup

/-- The name is an output string, or a pointer with such a child; nothing if an ID is absent. -/
def validateName (nameIDToValidate : UInt16) (tree : ObjectTree) : Option Bool := do
  let newNameObject ← tree nameIDToValidate
  if nameIDToValidate = NULL_OBJECT_ID then return false
  else
    match newNameObject with
    | none => return false
    | some newNameObject =>
      if newNameObject.getObjectType = .objectPointer then
        match newNameObject.children.head? with
        | none => return false
        | some child =>
          let label ← tree child.id
          return label.any fun object => object.getObjectType = .outputString
      else return newNameObject.getObjectType = .outputString

/-- Whether the key group itself is in the tree is asked before the new name is looked up. -/
def setAttribute (keyGroup : KeyGroup) (objectID : UInt16) (raw : UInt32) (tree : ObjectTree) :
    UInt8 → Assignment KeyGroup
  | 1 => .data { keyGroup with optionsBitfield := raw.toUInt8 }
  | 2 =>
    if (tree objectID).isSome then
      match validateName raw.toUInt16 tree with
      | some true => .data { keyGroup with nameID := raw.toUInt16 }
      | some false => .refused .invalidValue
      | none => .outside
    else .refused .invalidValue
  | _ => .refused .invalidAttributeID

end KeyGroup

def Button.setAttribute (button : Button) (raw : UInt32) : UInt8 → Assignment Button
  | 1 => .width raw.toUInt16
  | 2 => .height raw.toUInt16
  | 3 => .backgroundColor raw.toUInt8
  | 4 => .data { button with borderColour := raw.toUInt8 }
  | 5 => .data { button with keyCode := raw.toUInt8 }
  | 6 => .data { button with optionsBitfield := raw.toUInt8 }
  | _ => .refused .invalidAttributeID

namespace InputBoolean

/-- An ID that is not in the tree is another error than an object that does not fit. -/
def reference (raw : UInt32) (tree : ObjectTree) (type : VirtualTerminalObjectType)
    (set : UInt16 → InputBoolean) : Assignment InputBoolean :=
  if raw = NULL_OBJECT_ID.toUInt32 then .data (set raw.toUInt16)
  else
    match tree raw.toUInt16 with
    | none => .refused .invalidValue
    | some object =>
      if object.any fun object => object.getObjectType = type then .data (set raw.toUInt16)
      else .refused .anyOtherError

def setAttribute (inputBoolean : InputBoolean) (raw : UInt32) (tree : ObjectTree) :
    UInt8 → Assignment InputBoolean
  | 1 => .backgroundColor raw.toUInt8
  | 2 => .width raw.toUInt16
  | 3 => reference raw tree .fontAttributes fun foregroundColourObjectID =>
    { inputBoolean with foregroundColourObjectID }
  | 4 => reference raw tree .numberVariable fun variableReference =>
    { inputBoolean with variableReference }
  | 5 => .data { inputBoolean with value := raw.toUInt8 }
  | 6 => .data { inputBoolean with enabled := raw ≠ 0 }
  | _ => .refused .invalidAttributeID

end InputBoolean

def InputString.setAttribute (inputString : InputString) (raw : UInt32) (tree : ObjectTree) :
    UInt8 → Assignment InputString
  | 1 => .width raw.toUInt16
  | 2 => .height raw.toUInt16
  | 3 => .backgroundColor raw.toUInt8
  | 4 => .reference raw tree .fontAttributes fun fontAttributes =>
    { inputString with fontAttributes }
  | 5 => .reference raw tree .inputAttributes fun inputAttributes =>
    { inputString with inputAttributes }
  | 6 => .data { inputString with optionsBitfield := raw.toUInt8 }
  | 7 => .reference raw tree .stringVariable fun variableReference =>
    { inputString with variableReference }
  | 8 => .data { inputString with justificationBitfield := raw.toUInt8 }
  | 9 => .data { inputString with enabled := raw ≠ 0 }
  | _ => .refused .invalidAttributeID

/-- The value and the second options are not set here. -/
def InputNumber.setAttribute (inputNumber : InputNumber) (raw : UInt32) (tree : ObjectTree) :
    UInt8 → Assignment InputNumber
  | 1 => .width raw.toUInt16
  | 2 => .height raw.toUInt16
  | 3 => .backgroundColor raw.toUInt8
  | 4 => .reference raw tree .fontAttributes fun fontAttributes =>
    { inputNumber with fontAttributes }
  | 5 => .data { inputNumber with optionsBitfield := raw.toUInt8 }
  | 6 => .reference raw tree .numberVariable fun variableReference =>
    { inputNumber with variableReference }
  | 7 => .data { inputNumber with minimumValue := raw }
  | 8 => .data { inputNumber with maximumValue := raw }
  | 9 => .data { inputNumber with offset := raw.toInt32 }
  | 10 => .data { inputNumber with scale := raw }
  | 11 => .data { inputNumber with numberOfDecimals := raw.toUInt8 }
  | 12 => .data { inputNumber with format := raw ≠ 0 }
  | 13 => .data { inputNumber with justificationBitfield := raw.toUInt8 }
  | _ => .refused .invalidAttributeID

def InputList.setAttribute (inputList : InputList) (raw : UInt32) (tree : ObjectTree) :
    UInt8 → Assignment InputList
  | 1 => .width raw.toUInt16
  | 2 => .height raw.toUInt16
  | 3 => .reference raw tree .numberVariable fun variableReference =>
    { inputList with variableReference }
  | 4 => .data { inputList with value := raw.toUInt8 }
  | 5 => .data { inputList with optionsBitfield := raw.toUInt8 }
  | _ => .refused .invalidAttributeID

def StringVTObject.setAttribute (outputString : StringVTObject) (raw : UInt32)
    (tree : ObjectTree) : UInt8 → Assignment StringVTObject
  | 1 => .width raw.toUInt16
  | 2 => .height raw.toUInt16
  | 3 => .backgroundColor raw.toUInt8
  | 4 => .reference raw tree .fontAttributes fun fontAttributes =>
    { outputString with fontAttributes }
  | 5 => .data { outputString with optionsBitfield := raw.toUInt8 }
  | 6 => .reference raw tree .stringVariable fun variableReference =>
    { outputString with variableReference }
  | 7 => .data { outputString with justificationBitfield := raw.toUInt8 }
  | _ => .refused .invalidAttributeID

def NumberVTObject.setAttribute (outputNumber : NumberVTObject) (raw : UInt32)
    (tree : ObjectTree) : UInt8 → Assignment NumberVTObject
  | 1 => .width raw.toUInt16
  | 2 => .height raw.toUInt16
  | 3 => .backgroundColor raw.toUInt8
  | 4 => .reference raw tree .fontAttributes fun fontAttributes =>
    { outputNumber with fontAttributes }
  | 5 => .data { outputNumber with optionsBitfield := raw.toUInt8 }
  | 6 => .reference raw tree .numberVariable fun variableReference =>
    { outputNumber with variableReference }
  | 7 => .data { outputNumber with offset := raw.toInt32 }
  | 8 => .data { outputNumber with scale := raw }
  | 9 => .data { outputNumber with numberOfDecimals := raw.toUInt8 }
  | 10 => .data { outputNumber with format := raw ≠ 0 }
  | 11 => .data { outputNumber with justificationBitfield := raw.toUInt8 }
  | _ => .refused .invalidAttributeID

def ListVTObject.setAttribute (outputList : ListVTObject) (raw : UInt32) (tree : ObjectTree) :
    UInt8 → Assignment ListVTObject
  | 1 => .width raw.toUInt16
  | 2 => .height raw.toUInt16
  | 3 => .reference raw tree .numberVariable fun variableReference =>
    { outputList with variableReference }
  | 4 => .data { outputList with value := raw.toUInt8 }
  | _ => .refused .invalidAttributeID

namespace OutputLine

def bottomLeftToTopRight : UInt8 := 1

def setAttribute (line : OutputLine) (raw : UInt32) (tree : ObjectTree) :
    UInt8 → Assignment OutputLine
  | 1 => .reference raw tree .lineAttributes fun lineAttributes => { line with lineAttributes }
  | 2 => .width raw.toUInt16
  | 3 => .height raw.toUInt16
  | 4 => .bounded raw bottomLeftToTopRight fun lineDirection => { line with lineDirection }
  | _ => .refused .invalidAttributeID

end OutputLine

def OutputRectangle.setAttribute (rectangle : OutputRectangle) (raw : UInt32)
    (tree : ObjectTree) : UInt8 → Assignment OutputRectangle
  | 1 => .reference raw tree .lineAttributes fun lineAttributes =>
    { rectangle with lineAttributes }
  | 2 => .width raw.toUInt16
  | 3 => .height raw.toUInt16
  | 4 => .data { rectangle with lineSuppressionBitfield := raw.toUInt8 }
  | 5 => .reference raw tree .fillAttributes fun fillAttributes =>
    { rectangle with fillAttributes }
  | _ => .refused .invalidAttributeID

def OutputEllipse.setAttribute (ellipse : OutputEllipse) (raw : UInt32) (tree : ObjectTree) :
    UInt8 → Assignment OutputEllipse
  | 1 => .reference raw tree .lineAttributes fun lineAttributes =>
    { ellipse with lineAttributes }
  | 2 => .width raw.toUInt16
  | 3 => .height raw.toUInt16
  | 4 => .bounded raw closedEllipseSection fun ellipseType => { ellipse with ellipseType }
  | 5 => .data { ellipse with startAngle := raw.toUInt8 }
  | 6 => .data { ellipse with endAngle := raw.toUInt8 }
  | 7 => .reference raw tree .fillAttributes fun fillAttributes =>
    { ellipse with fillAttributes }
  | _ => .refused .invalidAttributeID

namespace OutputPolygon

def openPolygon : UInt8 := 3

def setAttribute (polygon : OutputPolygon) (raw : UInt32) (tree : ObjectTree) :
    UInt8 → Assignment OutputPolygon
  | 1 => .width raw.toUInt16
  | 2 => .height raw.toUInt16
  | 3 => .reference raw tree .lineAttributes fun lineAttributes =>
    { polygon with lineAttributes }
  | 4 => .reference raw tree .fillAttributes fun fillAttributes =>
    { polygon with fillAttributes }
  | 5 => .bounded raw openPolygon fun polygonType => { polygon with polygonType }
  | _ => .refused .invalidAttributeID

end OutputPolygon

/-- A meter is square: its height is not set. -/
def OutputMeter.setAttribute (meter : OutputMeter) (raw : UInt32) (tree : ObjectTree) :
    UInt8 → Assignment OutputMeter
  | 1 => .width raw.toUInt16
  | 2 => .data { meter with needleColour := raw.toUInt8 }
  | 3 => .data { meter with borderColour := raw.toUInt8 }
  | 4 => .data { meter with arcAndTickColour := raw.toUInt8 }
  | 5 => .data { meter with optionsBitfield := raw.toUInt8 }
  | 6 => .data { meter with numberOfTicks := raw.toUInt8 }
  | 7 => .data { meter with startAngle := raw.toUInt8 }
  | 8 => .data { meter with endAngle := raw.toUInt8 }
  | 9 => .data { meter with minValue := raw.toUInt16 }
  | 10 => .data { meter with maxValue := raw.toUInt16 }
  | 11 => .reference raw tree .numberVariable fun variableReference =>
    { meter with variableReference }
  | 12 => .data { meter with value := raw.toUInt16 }
  | _ => .refused .invalidAttributeID

/-- The reference of the target value is not checked. -/
def OutputLinearBarGraph.setAttribute (graph : OutputLinearBarGraph) (raw : UInt32)
    (tree : ObjectTree) : UInt8 → Assignment OutputLinearBarGraph
  | 1 => .width raw.toUInt16
  | 2 => .height raw.toUInt16
  | 3 => .data { graph with colour := raw.toUInt8 }
  | 4 => .data { graph with targetLineColour := raw.toUInt8 }
  | 5 => .data { graph with optionsBitfield := raw.toUInt8 }
  | 6 => .data { graph with numberOfTicks := raw.toUInt8 }
  | 7 => .data { graph with minValue := raw.toUInt16 }
  | 8 => .data { graph with maxValue := raw.toUInt16 }
  | 9 => .reference raw tree .numberVariable fun variableReference =>
    { graph with variableReference }
  | 10 => .data { graph with targetValueReference := raw.toUInt16 }
  | 11 => .data { graph with targetValue := raw.toUInt16 }
  | 12 => .data { graph with value := raw.toUInt16 }
  | _ => .refused .invalidAttributeID

def OutputArchedBarGraph.setAttribute (graph : OutputArchedBarGraph) (raw : UInt32)
    (tree : ObjectTree) : UInt8 → Assignment OutputArchedBarGraph
  | 1 => .width raw.toUInt16
  | 2 => .height raw.toUInt16
  | 3 => .data { graph with colour := raw.toUInt8 }
  | 4 => .data { graph with targetLineColour := raw.toUInt8 }
  | 5 => .data { graph with optionsBitfield := raw.toUInt8 }
  | 6 => .data { graph with startAngle := raw.toUInt8 }
  | 7 => .data { graph with endAngle := raw.toUInt8 }
  | 8 => .data { graph with barGraphWidth := raw.toUInt16 }
  | 9 => .data { graph with minValue := raw.toUInt16 }
  | 10 => .data { graph with maxValue := raw.toUInt16 }
  | 11 => .reference raw tree .numberVariable fun variableReference =>
    { graph with variableReference }
  | 12 => .data { graph with targetValueReference := raw.toUInt16 }
  | 13 => .data { graph with targetValue := raw.toUInt16 }
  | _ => .refused .invalidAttributeID

def PictureGraphic.setAttribute (picture : PictureGraphic) (raw : UInt32) :
    UInt8 → Assignment PictureGraphic
  | 1 => .width raw.toUInt16
  | 2 => .data { picture with optionsBitfield := raw.toUInt8 }
  | 3 => .data { picture with transparencyColour := raw.toUInt8 }
  | _ => .refused .invalidAttributeID

namespace FontAttributes

def size128x192 : UInt8 := 14

def setAttribute (font : FontAttributes) (raw : UInt32) : UInt8 → Assignment FontAttributes
  | 1 => .data { font with colour := raw.toUInt8 }
  | 2 => .bounded raw size128x192 fun size => { font with size }
  | 3 => .data { font with type := raw.toUInt8 }
  | 4 => .data { font with style := raw.toUInt8 }
  | _ => .refused .invalidAttributeID

end FontAttributes

/-- The colour and the width of a line are those that every object has. -/
def LineAttributes.setAttribute (line : LineAttributes) (raw : UInt32) :
    UInt8 → Assignment LineAttributes
  | 1 => .backgroundColor raw.toUInt8
  | 2 => .width (raw &&& 0xFF).toUInt16
  | 3 => .data { line with lineArtBitpattern := raw.toUInt16 }
  | _ => .refused .invalidAttributeID

def FillAttributes.setAttribute (fill : FillAttributes) (raw : UInt32) (tree : ObjectTree) :
    UInt8 → Assignment FillAttributes
  | 1 => .bounded raw fillWithPatternGivenByFillPatternAttribute fun type => { fill with type }
  | 2 => .backgroundColor raw.toUInt8
  | 3 => .reference raw tree .pictureGraphic fun fillPattern => { fill with fillPattern }
  | _ => .refused .invalidAttributeID

namespace ExternalObjectPointer

def reference (raw : UInt32) (tree : ObjectTree) (set : UInt16 → ExternalObjectPointer) :
    Assignment ExternalObjectPointer :=
  if raw = NULL_OBJECT_ID.toUInt32 ∨ (tree.getObjectById raw.toUInt16).isSome then
    .data (set raw.toUInt16)
  else .refused .invalidValue

def setAttribute (pointer : ExternalObjectPointer) (raw : UInt32) (tree : ObjectTree) :
    UInt8 → Assignment ExternalObjectPointer
  | 1 => reference raw tree fun defaultObjectID => { pointer with defaultObjectID }
  | 2 => reference raw tree fun externalReferenceNAMEID =>
    { pointer with externalReferenceNAMEID }
  | 3 => .data { pointer with externalObjectID := raw.toUInt16 }
  | _ => .refused .invalidAttributeID

end ExternalObjectPointer

def WindowMask.setAttribute (mask : WindowMask) (raw : UInt32) : UInt8 → Assignment WindowMask
  | 1 => .backgroundColor raw.toUInt8
  | 2 => .data { mask with optionsBitfield := raw.toUInt8 }
  | 3 => .data { mask with name := raw.toUInt16 }
  | _ => .refused .invalidAttributeID

def AuxiliaryFunctionType2.setAttribute (raw : UInt32) :
    UInt8 → Assignment AuxiliaryFunctionType2
  | 1 => .backgroundColor raw.toUInt8
  | _ => .refused .invalidAttributeID

def AuxiliaryInputType2.setAttribute (raw : UInt32) : UInt8 → Assignment AuxiliaryInputType2
  | 1 => .backgroundColor raw.toUInt8
  | 2 => .data { functionAttributesBitfield := raw.toUInt8 }
  | _ => .refused .invalidAttributeID

def AuxiliaryControlDesignatorType2.setAttribute (designator : AuxiliaryControlDesignatorType2)
    (raw : UInt32) (tree : ObjectTree) : UInt8 → Assignment AuxiliaryControlDesignatorType2
  | 2 =>
    if raw = NULL_OBJECT_ID.toUInt32 ∨ tree.holds raw.toUInt16 .auxiliaryFunctionType2 ∨
        tree.holds raw.toUInt16 .auxiliaryInputType2 then
      .data { designator with auxiliaryObjectID := raw.toUInt16 }
    else .refused .invalidValue
  | _ => .refused .invalidAttributeID

/-- What an assignment makes of an object, whose class is told by where its data go. -/
def Assignment.applyTo {α : Type} (object : VTObject) (wrap : α → ObjectData) :
    Assignment α → Option (Except AttributeError VTObject)
  | width value => some (.ok { object with width := value })
  | height value => some (.ok { object with height := value })
  | backgroundColor value => some (.ok { object with backgroundColor := value })
  | data value => some (.ok { object with data := wrap value })
  | refused error => some (.error error)
  | outside => none

namespace VTObject

def setAttribute (object : VTObject) (attributeID : UInt8) (raw : UInt32) (tree : ObjectTree) :
    Option (Except AttributeError VTObject) :=
  match object.data with
  | .workingSet data => (data.setAttribute raw attributeID).applyTo object .workingSet
  | .dataMask data => (data.setAttribute raw tree attributeID).applyTo object .dataMask
  | .alarmMask data => (data.setAttribute raw tree attributeID).applyTo object .alarmMask
  | .windowMask data => (data.setAttribute raw attributeID).applyTo object .windowMask
  | .softKeyMask =>
    (SoftKeyMask.setAttribute raw attributeID).applyTo object fun _ => .softKeyMask
  | .key data => (data.setAttribute raw attributeID).applyTo object .key
  | .keyGroup data =>
    (data.setAttribute object.objectID raw tree attributeID).applyTo object .keyGroup
  | .button data => (data.setAttribute raw attributeID).applyTo object .button
  | .inputBoolean data => (data.setAttribute raw tree attributeID).applyTo object .inputBoolean
  | .inputString data => (data.setAttribute raw tree attributeID).applyTo object .inputString
  | .inputNumber data => (data.setAttribute raw tree attributeID).applyTo object .inputNumber
  | .inputList data => (data.setAttribute raw tree attributeID).applyTo object .inputList
  | .outputString data => (data.setAttribute raw tree attributeID).applyTo object .outputString
  | .outputNumber data => (data.setAttribute raw tree attributeID).applyTo object .outputNumber
  | .outputList data => (data.setAttribute raw tree attributeID).applyTo object .outputList
  | .outputLine data => (data.setAttribute raw tree attributeID).applyTo object .outputLine
  | .outputRectangle data =>
    (data.setAttribute raw tree attributeID).applyTo object .outputRectangle
  | .outputEllipse data =>
    (data.setAttribute raw tree attributeID).applyTo object .outputEllipse
  | .outputPolygon data =>
    (data.setAttribute raw tree attributeID).applyTo object .outputPolygon
  | .outputMeter data => (data.setAttribute raw tree attributeID).applyTo object .outputMeter
  | .outputLinearBarGraph data =>
    (data.setAttribute raw tree attributeID).applyTo object .outputLinearBarGraph
  | .outputArchedBarGraph data =>
    (data.setAttribute raw tree attributeID).applyTo object .outputArchedBarGraph
  | .pictureGraphic data =>
    (data.setAttribute raw attributeID).applyTo object .pictureGraphic
  | .fontAttributes data =>
    (data.setAttribute raw attributeID).applyTo object .fontAttributes
  | .lineAttributes data =>
    (data.setAttribute raw attributeID).applyTo object .lineAttributes
  | .fillAttributes data =>
    (data.setAttribute raw tree attributeID).applyTo object .fillAttributes
  | .externalObjectPointer data =>
    (data.setAttribute raw tree attributeID).applyTo object .externalObjectPointer
  | .auxiliaryFunctionType2 _ =>
    (AuxiliaryFunctionType2.setAttribute raw attributeID).applyTo object
      .auxiliaryFunctionType2
  | .auxiliaryInputType2 _ =>
    (AuxiliaryInputType2.setAttribute raw attributeID).applyTo object .auxiliaryInputType2
  | .auxiliaryControlDesignatorType2 data =>
    (data.setAttribute raw tree attributeID).applyTo object .auxiliaryControlDesignatorType2
  | .container _ | .numberVariable _ | .stringVariable _ | .inputAttributes _
  | .extendedInputAttributes _ | .objectPointer _ | .macroObject _ | .colourMap _
  | .auxiliaryFunctionType1 _ | .auxiliaryInputType1 _ =>
    some (.error .invalidAttributeID)

end VTObject

end Isobus.VirtualTerminal
