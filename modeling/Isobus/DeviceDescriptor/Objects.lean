import Isobus.Lib.LittleEndian
import Isobus.Lib.Layout
import Isobus.Can.Name

/-!
# Objects of a device descriptor

The five kinds of objects of a device descriptor object pool and their binary form
(`isobus_task_controller_client_objects.cpp`).  Texts are their UTF-8 bytes.
-/

namespace Isobus.DeviceDescriptor

open Isobus.Lib

abbrev NAME := Isobus.Can.NAME

def NULL_OBJECT_ID : UInt16 := 0xFFFF
def MAX_DESIGNATOR_LENGTH : Nat := 128
def MAX_DESIGNATOR_LEGACY_LENGTH : Nat := 32
def MAX_STRUCTURE_AND_LOCALIZATION_LABEL_LENGTH : Nat := 7
def MAX_EXTENDED_STRUCTURE_LABEL_LENGTH : Nat := 32

inductive ObjectTypes
  | device
  | deviceElement
  | deviceProcessData
  | deviceProperty
  | deviceValuePresentation
  deriving DecidableEq

/-- The tables that the binary form of an object names first: "DVC" and so on. -/
def ObjectTypes.tableID : ObjectTypes → List UInt8
  | .device => [0x44, 0x56, 0x43]
  | .deviceElement => [0x44, 0x45, 0x54]
  | .deviceProcessData => [0x44, 0x50, 0x44]
  | .deviceProperty => [0x44, 0x50, 0x54]
  | .deviceValuePresentation => [0x44, 0x56, 0x50]

abbrev LocalizationLabel :=
  { label : List UInt8 // label.length = MAX_STRUCTURE_AND_LOCALIZATION_LABEL_LENGTH }

def LocalizationLabel.zeros : LocalizationLabel := ⟨List.replicate 7 0, rfl⟩

structure DeviceObject where
  designator : List UInt8
  softwareVersion : List UInt8
  serialNumber : List UInt8
  structureLabel : List UInt8
  localizationLabel : LocalizationLabel
  extendedStructureLabel : List UInt8
  isoName : NAME
  useExtendedStructureLabel : Bool
  deriving DecidableEq

/-- The types of an element; a binary pool may leave it open. -/
inductive DeviceElementType
  | unset
  | device
  | function
  | bin
  | section_
  | unit
  | connector
  | navigationReference
  deriving DecidableEq

namespace DeviceElementType

def toByte : DeviceElementType → UInt8
  | .unset => 0
  | .device => 1
  | .function => 2
  | .bin => 3
  | .section_ => 4
  | .unit => 5
  | .connector => 6
  | .navigationReference => 7

/-- Anything behind the navigation reference is refused before it is read so. -/
def ofByte (byte : UInt8) : DeviceElementType :=
  match byte.toNat with
  | 0 => .unset
  | 1 => .device
  | 2 => .function
  | 3 => .bin
  | 4 => .section_
  | 5 => .unit
  | 6 => .connector
  | _ => .navigationReference

@[simp] theorem ofByte_toByte (type : DeviceElementType) : ofByte type.toByte = type := by
  cases type <;> rfl

theorem toByte_le (type : DeviceElementType) : type.toByte ≤ navigationReference.toByte := by
  cases type <;> decide

end DeviceElementType

structure DeviceElementObject where
  designator : List UInt8
  objectID : UInt16
  referenceList : List UInt16 := []
  elementNumber : UInt16
  parentObject : UInt16
  elementType : DeviceElementType
  deriving DecidableEq

structure DeviceProcessDataObject where
  designator : List UInt8
  objectID : UInt16
  ddi : UInt16
  deviceValuePresentationObject : UInt16
  propertiesBitfield : UInt8
  triggerMethodsBitfield : UInt8
  deriving DecidableEq

structure DevicePropertyObject where
  designator : List UInt8
  objectID : UInt16
  value : Int32
  ddi : UInt16
  deviceValuePresentationObject : UInt16
  deriving DecidableEq

/-- The scale is known by its 32 bits, which are all that is copied. -/
structure DeviceValuePresentationObject where
  designator : List UInt8
  objectID : UInt16
  offset : Int32
  scale : UInt32
  numberOfDecimals : UInt8
  deriving DecidableEq

inductive Object
  | device (object : DeviceObject)
  | deviceElement (object : DeviceElementObject)
  | deviceProcessData (object : DeviceProcessDataObject)
  | deviceProperty (object : DevicePropertyObject)
  | deviceValuePresentation (object : DeviceValuePresentationObject)
  deriving DecidableEq

namespace Object

def getObjectType : Object → ObjectTypes
  | .device _ => .device
  | .deviceElement _ => .deviceElement
  | .deviceProcessData _ => .deviceProcessData
  | .deviceProperty _ => .deviceProperty
  | .deviceValuePresentation _ => .deviceValuePresentation

def getObjectId : Object → UInt16
  | .device _ => 0
  | .deviceElement object => object.objectID
  | .deviceProcessData object => object.objectID
  | .deviceProperty object => object.objectID
  | .deviceValuePresentation object => object.objectID

def getDesignator : Object → List UInt8
  | .device object => object.designator
  | .deviceElement object => object.designator
  | .deviceProcessData object => object.designator
  | .deviceProperty object => object.designator
  | .deviceValuePresentation object => object.designator

end Object

def bytes16 (value : UInt16) : List UInt8 :=
  [byteOf value.toUInt32 0, byteOf value.toUInt32 1]

def bytes32 (value : UInt32) : List UInt8 :=
  [byteOf value 0, byteOf value 1, byteOf value 2, byteOf value 3]

def bytes64 (value : UInt64) : List UInt8 :=
  [value.toUInt8, (value >>> 8).toUInt8, (value >>> 16).toUInt8, (value >>> 24).toUInt8,
    (value >>> 32).toUInt8, (value >>> 40).toUInt8, (value >>> 48).toUInt8, (value >>> 56).toUInt8]

/-- A text behind a byte for its length, of which only the low eight bits are kept. -/
def sizedText (text : List UInt8) : List UInt8 := UInt8.ofNat text.length :: text

/-- A label of seven bytes: the first ones of the text, with spaces behind a shorter one. -/
def paddedLabel (label : List UInt8) : List UInt8 :=
  (List.range MAX_STRUCTURE_AND_LOCALIZATION_LABEL_LENGTH).map fun i => label.getD i 0x20

def DeviceObject.getBinaryObject (object : DeviceObject) : List UInt8 :=
  ObjectTypes.device.tableID ++ bytes16 0 ++ sizedText object.designator ++
    sizedText object.softwareVersion ++ bytes64 object.isoName ++ sizedText object.serialNumber ++
    paddedLabel object.structureLabel ++ paddedLabel object.localizationLabel.val ++
    if object.useExtendedStructureLabel then sizedText object.extendedStructureLabel else []

/-- The number of children is kept in sixteen bits, and so many of them follow. -/
def DeviceElementObject.getBinaryObject (object : DeviceElementObject) : List UInt8 :=
  let tempSize := UInt16.ofNat object.referenceList.length
  ObjectTypes.deviceElement.tableID ++ bytes16 object.objectID ++ [object.elementType.toByte] ++
    sizedText object.designator ++ bytes16 object.elementNumber ++ bytes16 object.parentObject ++
    bytes16 tempSize ++ (object.referenceList.take tempSize.toNat).flatMap bytes16

def DeviceProcessDataObject.getBinaryObject (object : DeviceProcessDataObject) : List UInt8 :=
  ObjectTypes.deviceProcessData.tableID ++ bytes16 object.objectID ++ bytes16 object.ddi ++
    [object.propertiesBitfield, object.triggerMethodsBitfield] ++ sizedText object.designator ++
    bytes16 object.deviceValuePresentationObject

def DevicePropertyObject.getBinaryObject (object : DevicePropertyObject) : List UInt8 :=
  ObjectTypes.deviceProperty.tableID ++ bytes16 object.objectID ++ bytes16 object.ddi ++
    bytes32 object.value.toUInt32 ++ sizedText object.designator ++
    bytes16 object.deviceValuePresentationObject

def DeviceValuePresentationObject.getBinaryObject (object : DeviceValuePresentationObject) :
    List UInt8 :=
  ObjectTypes.deviceValuePresentation.tableID ++ bytes16 object.objectID ++
    bytes32 object.offset.toUInt32 ++ bytes32 object.scale ++ [object.numberOfDecimals] ++
    sizedText object.designator

def Object.getBinaryObject : Object → List UInt8
  | .device object => object.getBinaryObject
  | .deviceElement object => object.getBinaryObject
  | .deviceProcessData object => object.getBinaryObject
  | .deviceProperty object => object.getBinaryObject
  | .deviceValuePresentation object => object.getBinaryObject

/-- The fields of a binary object; a device has an extended label from version 4 on. -/
def ObjectTypes.layout (extended : Bool) : ObjectTypes → List Field
  | .device => [.fixed 5, .counted 1 1, .counted 1 1, .fixed 8, .counted 1 1, .fixed 14] ++
      if extended then [.counted 1 1] else []
  | .deviceElement => [.fixed 6, .counted 1 1, .fixed 4, .counted 2 2]
  | .deviceProcessData => [.fixed 9, .counted 1 1, .fixed 2]
  | .deviceProperty => [.fixed 11, .counted 1 1, .fixed 2]
  | .deviceValuePresentation => [.fixed 14, .counted 1 1]

end Isobus.DeviceDescriptor
