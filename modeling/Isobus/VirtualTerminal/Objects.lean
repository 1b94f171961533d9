import Mathlib.Data.UInt

namespace Isobus.VirtualTerminal

def NULL_OBJECT_ID : UInt16 := 65535

inductive VirtualTerminalObjectType
  | workingSet | dataMask | alarmMask | container | softKeyMask | key | button | inputBoolean
  | inputString | inputNumber | inputList | outputString | outputNumber | outputLine
  | outputRectangle | outputEllipse | outputPolygon | outputMeter | outputLinearBarGraph
  | outputArchedBarGraph | pictureGraphic | numberVariable | stringVariable | fontAttributes
  | lineAttributes | fillAttributes | inputAttributes | objectPointer | macroObject
  | auxiliaryFunctionType1 | auxiliaryInputType1 | auxiliaryFunctionType2 | auxiliaryInputType2
  | auxiliaryControlDesignatorType2 | windowMask | keyGroup | graphicsContext | outputList
  | extendedInputAttributes | colourMap | objectLabelRefrenceList | externalObjectDefinition
  | externalReferenceNAME | externalObjectPointer | animation | graphicData | scaledGraphic
  deriving DecidableEq

namespace VirtualTerminalObjectType

def toByte : VirtualTerminalObjectType → UInt8
  | workingSet => 0
  | dataMask => 1
  | alarmMask => 2
  | container => 3
  | softKeyMask => 4
  | key => 5
  | button => 6
  | inputBoolean => 7
  | inputString => 8
  | inputNumber => 9
  | inputList => 10
  | outputString => 11
  | outputNumber => 12
  | outputLine => 13
  | outputRectangle => 14
  | outputEllipse => 15
  | outputPolygon => 16
  | outputMeter => 17
  | outputLinearBarGraph => 18
  | outputArchedBarGraph => 19
  | pictureGraphic => 20
  | numberVariable => 21
  | stringVariable => 22
  | fontAttributes => 23
  | lineAttributes => 24
  | fillAttributes => 25
  | inputAttributes => 26
  | objectPointer => 27
  | macroObject => 28
  | auxiliaryFunctionType1 => 29
  | auxiliaryInputType1 => 30
  | auxiliaryFunctionType2 => 31
  | auxiliaryInputType2 => 32
  | auxiliaryControlDesignatorType2 => 33
  | windowMask => 34
  | keyGroup => 35
  | graphicsContext => 36
  | outputList => 37
  | extendedInputAttributes => 38
  | colourMap => 39
  | objectLabelRefrenceList => 40
  | externalObjectDefinition => 41
  | externalReferenceNAME => 42
  | externalObjectPointer => 43
  | animation => 44
  | graphicData => 46
  | scaledGraphic => 48

def all : List VirtualTerminalObjectType :=
  [workingSet, dataMask, alarmMask, container, softKeyMask, key, button, inputBoolean,
    inputString, inputNumber, inputList, outputString, outputNumber, outputLine,
    outputRectangle, outputEllipse, outputPolygon, outputMeter, outputLinearBarGraph,
    outputArchedBarGraph, pictureGraphic, numberVariable, stringVariable, fontAttributes,
    lineAttributes, fillAttributes, inputAttributes, objectPointer, macroObject,
    auxiliaryFunctionType1, auxiliaryInputType1, auxiliaryFunctionType2, auxiliaryInputType2,
    auxiliaryControlDesignatorType2, windowMask, keyGroup, graphicsContext, outputList,
    extendedInputAttributes, colourMap, objectLabelRefrenceList, externalObjectDefinition,
    externalReferenceNAME, externalObjectPointer, animation, graphicData, scaledGraphic]

/-- The type that a byte stands for; the bytes of manufacturers and reserved ones stand for none. -/
def ofByte (byte : UInt8) : Option VirtualTerminalObjectType :=
  all.find? fun type => type.toByte = byte

theorem ofByte_toByte (type : VirtualTerminalObjectType) : ofByte type.toByte = some type := by
  cases type <;> rfl

end VirtualTerminalObjectType

inductive EventID
  | reserved | onActivate | onDeactivate | onShow | onHide | onEnable | onDisable
  | onChangeActiveMask | onChangeSoftKeyMask | onChangeAttribute | onChangeBackgroundColour
  | changeFontAttributes | changeLineAttributes | changeFillAttributes | changeChildLocation
  | onChangeSize | onChangeValue | onChangePriority | onChangeEndpoint | onInputFieldSelection
  | onInputFieldDeselection | onESC | onEntryOfAValue | onEntryOfANewValue | onKeyPress
  | onKeyRelease | onChangeChildPosition | onPointingEventPress | onPointingEventRelease
  deriving DecidableEq

def events : List EventID :=
  [.onActivate, .onDeactivate, .onShow, .onHide, .onEnable, .onDisable, .onChangeActiveMask,
    .onChangeSoftKeyMask, .onChangeAttribute, .onChangeBackgroundColour, .changeFontAttributes,
    .changeLineAttributes, .changeFillAttributes, .changeChildLocation, .onChangeSize,
    .onChangeValue, .onChangePriority, .onChangeEndpoint, .onInputFieldSelection,
    .onInputFieldDeselection, .onESC, .onEntryOfAValue, .onEntryOfANewValue, .onKeyPress,
    .onKeyRelease, .onChangeChildPosition, .onPointingEventPress, .onPointingEventRelease]

def getEventFromByte (eventByte : UInt8) : EventID :=
  if eventByte = 0 then .reserved else events.getD (eventByte.toNat - 1) .reserved

def useExtendedMacroReference : UInt8 := 255

structure MacroMetadata where
  event : EventID
  macroID : UInt16
  deriving DecidableEq

structure WorkingSet where
  activeMask : UInt16
  selectable : Bool
  deriving DecidableEq

structure DataMask where
  softKeyMaskObjectID : UInt16
  deriving DecidableEq

structure AlarmMask where
  softKeyMask : UInt16
  maskPriority : UInt8
  signalPriority : UInt8
  deriving DecidableEq

def AlarmMask.lowPriority : UInt8 := 2

def AlarmMask.noAcousticSignal : UInt8 := 4

structure Container where
  hidden : Bool
  deriving DecidableEq

structure WindowMask where
  name : UInt16
  title : UInt16
  icon : UInt16
  optionsBitfield : UInt8
  windowType : UInt8
  deriving DecidableEq

def WindowMask.doubleButton2x1 : UInt8 := 18

structure Key where
  keyCode : UInt8
  deriving DecidableEq

structure KeyGroup where
  keyGroupIcon : UInt16
  nameID : UInt16
  optionsBitfield : UInt8
  deriving DecidableEq

def KeyGroup.MAX_CHILD_KEYS : UInt8 := 4

structure Button where
  borderColour : UInt8
  keyCode : UInt8
  optionsBitfield : UInt8
  deriving DecidableEq

structure InputBoolean where
  variableReference : UInt16
  foregroundColourObjectID : UInt16
  value : UInt8
  enabled : Bool
  deriving DecidableEq

structure TextualVTObject where
  variableReference : UInt16
  fontAttributes : UInt16
  optionsBitfield : UInt8
  justificationBitfield : UInt8
  deriving DecidableEq

structure StringVTObject extends TextualVTObject where
  stringValue : List UInt8
  deriving DecidableEq

structure InputString extends StringVTObject where
  inputAttributes : UInt16
  enabled : Bool
  deriving DecidableEq

/-- The scale is kept as the 32 bits of the number. -/
structure NumberVTObject extends TextualVTObject where
  value : UInt32
  scale : UInt32
  offset : Int32
  numberOfDecimals : UInt8
  format : Bool
  deriving DecidableEq

structure InputNumber extends NumberVTObject where
  maximumValue : UInt32
  minimumValue : UInt32
  options2 : UInt8
  deriving DecidableEq

structure ListVTObject where
  variableReference : UInt16
  value : UInt8
  deriving DecidableEq

structure InputList extends ListVTObject where
  optionsBitfield : UInt8
  deriving DecidableEq

structure OutputLine where
  lineAttributes : UInt16
  lineDirection : UInt8
  deriving DecidableEq

structure OutputRectangle where
  lineAttributes : UInt16
  fillAttributes : UInt16
  lineSuppressionBitfield : UInt8
  deriving DecidableEq

structure OutputEllipse where
  lineAttributes : UInt16
  fillAttributes : UInt16
  ellipseType : UInt8
  startAngle : UInt8
  endAngle : UInt8
  deriving DecidableEq

def OutputEllipse.closedEllipseSection : UInt8 := 3

structure PolygonPoint where
  xValue : UInt16
  yValue : UInt16
  deriving DecidableEq

structure OutputPolygon where
  pointList : List PolygonPoint
  fillAttributes : UInt16
  lineAttributes : UInt16
  polygonType : UInt8
  deriving DecidableEq

structure OutputMeter where
  variableReference : UInt16
  minValue : UInt16
  maxValue : UInt16
  value : UInt16
  needleColour : UInt8
  borderColour : UInt8
  arcAndTickColour : UInt8
  optionsBitfield : UInt8
  numberOfTicks : UInt8
  startAngle : UInt8
  endAngle : UInt8
  deriving DecidableEq

structure OutputLinearBarGraph where
  variableReference : UInt16
  minValue : UInt16
  maxValue : UInt16
  targetValue : UInt16
  targetValueReference : UInt16
  value : UInt16
  numberOfTicks : UInt8
  colour : UInt8
  targetLineColour : UInt8
  optionsBitfield : UInt8
  deriving DecidableEq

structure OutputArchedBarGraph where
  variableReference : UInt16
  barGraphWidth : UInt16
  minValue : UInt16
  maxValue : UInt16
  value : UInt16
  targetValue : UInt16
  targetValueReference : UInt16
  targetLineColour : UInt8
  colour : UInt8
  optionsBitfield : UInt8
  startAngle : UInt8
  endAngle : UInt8
  deriving DecidableEq

structure PictureGraphic where
  rawData : List UInt8
  numberOfBytesInRawData : UInt32
  actualWidth : UInt16
  actualHeight : UInt16
  formatByte : UInt8
  optionsBitfield : UInt8
  transparencyColour : UInt8
  deriving DecidableEq

namespace PictureGraphic

def monochrome : UInt8 := 0
def fourBitColour : UInt8 := 1
def eightBitColour : UInt8 := 2

def runLengthEncoded (optionsBitfield : UInt8) : Bool := optionsBitfield &&& 4 ≠ 0

end PictureGraphic

structure NumberVariable where
  value : UInt32
  deriving DecidableEq

structure StringVariable where
  value : List UInt8
  deriving DecidableEq

structure FontAttributes where
  colour : UInt8
  size : UInt8
  type : UInt8
  style : UInt8
  deriving DecidableEq

namespace FontAttributes

def reserved1 : UInt8 := 3
def reserved2 : UInt8 := 6
def iso8859_7 : UInt8 := 7

end FontAttributes

structure LineAttributes where
  lineArtBitpattern : UInt16
  deriving DecidableEq

structure FillAttributes where
  fillPattern : UInt16
  type : UInt8
  deriving DecidableEq

def FillAttributes.fillWithPatternGivenByFillPatternAttribute : UInt8 := 3

structure InputAttributes where
  validationString : List UInt8
  validationType : UInt8
  deriving DecidableEq

structure ExtendedInputAttributes where
  validationType : UInt8
  numberOfCodePlanes : UInt8
  deriving DecidableEq

structure ObjectPointer where
  value : UInt16
  deriving DecidableEq

structure ExternalObjectPointer where
  defaultObjectID : UInt16
  externalReferenceNAMEID : UInt16
  externalObjectID : UInt16
  deriving DecidableEq

structure Macro where
  commandPackets : List (List UInt8)
  deriving DecidableEq

structure ColourMap where
  colourMapData : List UInt8
  deriving DecidableEq

/-- Also of an auxiliary input of type 1, which has an input ID besides. -/
structure AuxiliaryFunctionType1 where
  functionType : UInt8
  deriving DecidableEq

structure AuxiliaryInputType1 where
  functionType : UInt8
  inputID : UInt8
  deriving DecidableEq

structure AuxiliaryFunctionType2 where
  functionAttributesBitfield : UInt8
  deriving DecidableEq

def AuxiliaryFunctionType2.reservedRangeStart : UInt8 := 15

structure AuxiliaryInputType2 where
  functionAttributesBitfield : UInt8
  deriving DecidableEq

structure AuxiliaryControlDesignatorType2 where
  auxiliaryObjectID : UInt16
  pointerType : UInt8
  deriving DecidableEq

inductive ObjectData
  | workingSet (data : WorkingSet)
  | dataMask (data : DataMask)
  | alarmMask (data : AlarmMask)
  | container (data : Container)
  | windowMask (data : WindowMask)
  | softKeyMask
  | key (data : Key)
  | keyGroup (data : KeyGroup)
  | button (data : Button)
  | inputBoolean (data : InputBoolean)
  | inputString (data : InputString)
  | inputNumber (data : InputNumber)
  | inputList (data : InputList)
  | outputString (data : StringVTObject)
  | outputNumber (data : NumberVTObject)
  | outputList (data : ListVTObject)
  | outputLine (data : OutputLine)
  | outputRectangle (data : OutputRectangle)
  | outputEllipse (data : OutputEllipse)
  | outputPolygon (data : OutputPolygon)
  | outputMeter (data : OutputMeter)
  | outputLinearBarGraph (data : OutputLinearBarGraph)
  | outputArchedBarGraph (data : OutputArchedBarGraph)
  | pictureGraphic (data : PictureGraphic)
  | numberVariable (data : NumberVariable)
  | stringVariable (data : StringVariable)
  | fontAttributes (data : FontAttributes)
  | lineAttributes (data : LineAttributes)
  | fillAttributes (data : FillAttributes)
  | inputAttributes (data : InputAttributes)
  | extendedInputAttributes (data : ExtendedInputAttributes)
  | objectPointer (data : ObjectPointer)
  | externalObjectPointer (data : ExternalObjectPointer)
  | macroObject (data : Macro)
  | colourMap (data : ColourMap)
  | auxiliaryFunctionType1 (data : AuxiliaryFunctionType1)
  | auxiliaryInputType1 (data : AuxiliaryInputType1)
  | auxiliaryFunctionType2 (data : AuxiliaryFunctionType2)
  | auxiliaryInputType2 (data : AuxiliaryInputType2)
  | auxiliaryControlDesignatorType2 (data : AuxiliaryControlDesignatorType2)
  deriving DecidableEq

def ObjectData.getObjectType : ObjectData → VirtualTerminalObjectType
  | workingSet _ => .workingSet
  | dataMask _ => .dataMask
  | alarmMask _ => .alarmMask
  | container _ => .container
  | windowMask _ => .windowMask
  | softKeyMask => .softKeyMask
  | key _ => .key
  | keyGroup _ => .keyGroup
  | button _ => .button
  | inputBoolean _ => .inputBoolean
  | inputString _ => .inputString
  | inputNumber _ => .inputNumber
  | inputList _ => .inputList
  | outputString _ => .outputString
  | outputNumber _ => .outputNumber
  | outputList _ => .outputList
  | outputLine _ => .outputLine
  | outputRectangle _ => .outputRectangle
  | outputEllipse _ => .outputEllipse
  | outputPolygon _ => .outputPolygon
  | outputMeter _ => .outputMeter
  | outputLinearBarGraph _ => .outputLinearBarGraph
  | outputArchedBarGraph _ => .outputArchedBarGraph
  | pictureGraphic _ => .pictureGraphic
  | numberVariable _ => .numberVariable
  | stringVariable _ => .stringVariable
  | fontAttributes _ => .fontAttributes
  | lineAttributes _ => .lineAttributes
  | fillAttributes _ => .fillAttributes
  | inputAttributes _ => .inputAttributes
  | extendedInputAttributes _ => .extendedInputAttributes
  | objectPointer _ => .objectPointer
  | externalObjectPointer _ => .externalObjectPointer
  | macroObject _ => .macroObject
  | colourMap _ => .colourMap
  | auxiliaryFunctionType1 _ => .auxiliaryFunctionType1
  | auxiliaryInputType1 _ => .auxiliaryInputType1
  | auxiliaryFunctionType2 _ => .auxiliaryFunctionType2
  | auxiliaryInputType2 _ => .auxiliaryInputType2
  | auxiliaryControlDesignatorType2 _ => .auxiliaryControlDesignatorType2

structure ChildObjectData where
  id : UInt16
  xLocation : Int16
  yLocation : Int16
  deriving DecidableEq

structure VTObject where
  objectID : UInt16
  width : UInt16 := 0
  height : UInt16 := 0
  backgroundColor : UInt8 := 0
  children : List ChildObjectData := []
  macros : List MacroMetadata := []
  data : ObjectData
  deriving DecidableEq

namespace VTObject

def getObjectType (object : VTObject) : VirtualTerminalObjectType := object.data.getObjectType

def getNumberMacros (object : VTObject) : UInt8 := UInt8.ofNat object.macros.length

end VTObject

def ObjectTree : Type := UInt16 → Option (Option VTObject)

namespace ObjectTree

def empty : ObjectTree := fun _ => none

def set (tree : ObjectTree) (id : UInt16) (entry : Option VTObject) : ObjectTree :=
  fun id' => if id' = id then some entry else tree id'

/-- What the look-up of an ID gives; an absent one is there without an object from then on. -/
def get (tree : ObjectTree) (id : UInt16) : Option VTObject := (tree id).join

def touch (tree : ObjectTree) (id : UInt16) : ObjectTree := tree.set id (tree.get id)

@[simp] theorem get_set (tree : ObjectTree) (id id' : UInt16) (entry : Option VTObject) :
    (tree.set id entry).get id' = if id' = id then entry else tree.get id' := by
  rw [get, set]
  split_ifs <;> rfl

@[simp] theorem get_touch (tree : ObjectTree) (id id' : UInt16) :
    (tree.touch id).get id' = tree.get id' := by
  rw [touch, get_set]
  split_ifs with h
  · rw [h]
  · rfl

end ObjectTree

end Isobus.VirtualTerminal
