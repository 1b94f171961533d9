import Isobus.DeviceDescriptor.Building
import Isobus.Lib.Xml

/-!
# The XML form of a pool

`generate_task_data_iso_xml`, and what the document has to say about the pool: its tags with the
values that their attributes stand for.  How a scale is printed is left open.
-/

namespace Isobus.DeviceDescriptor

open Isobus.Lib

namespace IsoXml

def endl : Text := [0x0A]

def int (n : Int) : Text := Numerals.writeInt n

def hex (width n : Nat) : Text := Numerals.write 16 width n

/-- The bytes of a label, the last one first.  A label that is too short has no such byte. -/
def labelText (label : List UInt8) : Option Text := do
  let bytes ← (List.range MAX_STRUCTURE_AND_LOCALIZATION_LABEL_LENGTH).mapM fun j => label[6 - j]?
  return bytes.flatMap fun byte => hex 2 byte.toNat

def deviceTag (numberOfDevices : Nat) (rootDevice : DeviceObject) : Option Text := do
  let structureLabel ← labelText rootDevice.structureLabel
  let localizationLabel ← labelText rootDevice.localizationLabel.val
  return ascii "<DVC A=\"DVC-" ++ int numberOfDevices ++
    ascii "\" B=\"" ++ rootDevice.designator ++
    ascii "\" C=\"" ++ rootDevice.softwareVersion ++
    ascii "\" D=\"" ++ hex 16 rootDevice.isoName.toNat ++
    ascii "\" E=\"" ++ rootDevice.serialNumber ++
    ascii "\" F=\"" ++ structureLabel ++
    ascii "\" G=\"" ++ localizationLabel ++ ascii "\">" ++ endl

def childObjects (deviceElement : DeviceElementObject) : List UInt16 :=
  deviceElement.referenceList.take (UInt16.ofNat deviceElement.referenceList.length).toNat

def elementTag (numberOfElements : Nat) (deviceElement : DeviceElementObject) : Text :=
  ascii "\t<DET A=\"DET-" ++ int numberOfElements ++
    ascii "\" B=\"" ++ int deviceElement.objectID.toNat ++
    ascii "\" C=\"" ++ int deviceElement.elementType.toByte.toNat ++
    ascii "\" D=\"" ++ deviceElement.designator ++
    ascii "\" E=\"" ++ int deviceElement.elementNumber.toNat ++
    ascii "\" F=\"" ++ int deviceElement.parentObject.toNat ++
    if 0 < (UInt16.ofNat deviceElement.referenceList.length) then
      ascii "\">" ++ endl ++
        ((childObjects deviceElement).flatMap fun childID =>
          ascii "\t\t<DOR A=\"" ++ int childID.toNat ++ ascii "\"/>" ++ endl) ++
        ascii "\t</DET>" ++ endl
    else ascii "\"/>" ++ endl

def processDataTag (deviceProcessData : DeviceProcessDataObject) : Text :=
  ascii "\t<DPD A=\"" ++ int deviceProcessData.objectID.toNat ++
    ascii "\" B=\"" ++ hex 4 deviceProcessData.ddi.toNat ++
    ascii "\" C=\"" ++ int deviceProcessData.propertiesBitfield.toNat ++
    ascii "\" D=\"" ++ int deviceProcessData.triggerMethodsBitfield.toNat ++
    ascii "\" E=\"" ++ deviceProcessData.designator ++
    (if deviceProcessData.deviceValuePresentationObject ≠ 0xFFFF then
      ascii "\" F=\"" ++ int deviceProcessData.deviceValuePresentationObject.toNat
    else []) ++ ascii "\"/>" ++ endl

def propertyTag (deviceProperty : DevicePropertyObject) : Text :=
  ascii "\t<DPT A=\"" ++ int deviceProperty.objectID.toNat ++
    ascii "\" B=\"" ++ hex 4 deviceProperty.ddi.toNat ++
    ascii "\" C=\"" ++ int deviceProperty.value.toInt ++
    ascii "\" D=\"" ++ deviceProperty.designator ++
    (if deviceProperty.deviceValuePresentationObject ≠ 0xFFFF then
      ascii "\" E=\"" ++ int deviceProperty.deviceValuePresentationObject.toNat
    else []) ++ ascii "\"/>" ++ endl

def valuePresentationTag (scaleText : UInt32 → Text)
    (deviceValuePresentation : DeviceValuePresentationObject) : Text :=
  ascii "\t<DVP A=\"" ++ int deviceValuePresentation.objectID.toNat ++
    ascii "\" B=\"" ++ int deviceValuePresentation.offset.toInt ++
    ascii "\" C=\"" ++ scaleText deviceValuePresentation.scale ++
    ascii "\" D=\"" ++ int deviceValuePresentation.numberOfDecimals.toNat ++
    ascii "\" E=\"" ++ deviceValuePresentation.designator ++ ascii "\"/>" ++ endl

def deviceOf : Object → Option DeviceObject
  | .device object => some object
  | _ => none

def elementOf : Object → Option DeviceElementObject
  | .deviceElement object => some object
  | _ => none

def processDataOf : Object → Option DeviceProcessDataObject
  | .deviceProcessData object => some object
  | _ => none

def propertyOf : Object → Option DevicePropertyObject
  | .deviceProperty object => some object
  | _ => none

def valuePresentationOf : Object → Option DeviceValuePresentationObject
  | .deviceValuePresentation object => some object
  | _ => none

end IsoXml

namespace DeviceDescriptorObjectPool

open IsoXml

variable (pool : DeviceDescriptorObjectPool)

def size : UInt16 := UInt16.ofNat pool.objectList.length

def getObjectByIndex (index : UInt16) : Option Object := pool.objectList[index.toNat]?

def objectsByIndex : List Object :=
  (List.range pool.size.toNat).filterMap fun i => pool.getObjectByIndex (UInt16.ofNat i)

/-- The document is written for the first device, and for none if a label is too short. -/
def generateTaskDataIsoXml (scaleText : UInt32 → Text) : Option (Bool × Text) :=
  if pool.resolveParentIdsToObjects then
    match (pool.objectsByIndex.filterMap deviceOf).head? with
    | some rootDevice => do
        let device ← deviceTag 1 rootDevice
        return (true,
          ascii "<?xml version=\"1.0\" encoding=\"UTF-8\"?>" ++ endl ++
            ascii "<ISO11783_TaskData VersionMajor=\"3\" VersionMinor=\"0\" " ++
            ascii "DataTransferOrigin=\"1\">" ++ endl ++
            device ++
            ((pool.objectsByIndex.filterMap elementOf).zipIdx 1).flatMap
              (fun (deviceElement, number) => elementTag number deviceElement) ++
            (pool.objectsByIndex.filterMap processDataOf).flatMap processDataTag ++
            (pool.objectsByIndex.filterMap propertyOf).flatMap propertyTag ++
            (pool.objectsByIndex.filterMap valuePresentationOf).flatMap
              (valuePresentationTag scaleText) ++
            ascii "</DVC>" ++ endl ++ ascii "</ISO11783_TaskData>" ++ endl)
    | none => some (true, [])
  else some (false, [])

end DeviceDescriptorObjectPool

namespace IsoXml

/-- What the value of an attribute stands for. -/
inductive Value
  | text (text : Text)
  | decimal (n : Int)
  | hexadecimal (width n : Nat)
  | label (bytes : List UInt8)
  deriving DecidableEq

inductive Kind
  | text
  | decimal
  | hexadecimal
  | label
  deriving DecidableEq

def Value.kind : Value → Kind
  | .text _ => .text
  | .decimal _ => .decimal
  | .hexadecimal _ _ => .hexadecimal
  | .label _ => .label

def kinds : List ((Text × Text) × Kind) :=
  [((ascii "DVC", ascii "D"), .hexadecimal), ((ascii "DVC", ascii "F"), .label),
    ((ascii "DVC", ascii "G"), .label),
    ((ascii "DET", ascii "B"), .decimal), ((ascii "DET", ascii "C"), .decimal),
    ((ascii "DET", ascii "E"), .decimal), ((ascii "DET", ascii "F"), .decimal),
    ((ascii "DOR", ascii "A"), .decimal),
    ((ascii "DPD", ascii "A"), .decimal), ((ascii "DPD", ascii "B"), .hexadecimal),
    ((ascii "DPD", ascii "C"), .decimal), ((ascii "DPD", ascii "D"), .decimal),
    ((ascii "DPD", ascii "F"), .decimal),
    ((ascii "DPT", ascii "A"), .decimal), ((ascii "DPT", ascii "B"), .hexadecimal),
    ((ascii "DPT", ascii "C"), .decimal), ((ascii "DPT", ascii "E"), .decimal),
    ((ascii "DVP", ascii "A"), .decimal), ((ascii "DVP", ascii "B"), .decimal),
    ((ascii "DVP", ascii "D"), .decimal)]

def kindOf (tag name : Text) : Kind := (kinds.lookup (tag, name)).getD .text

def readValue : Kind → Text → Option Value
  | .text, value => some (.text value)
  | .decimal, value => (Numerals.readInt value).map .decimal
  | .hexadecimal, value => (Numerals.read 16 value).map (.hexadecimal value.length)
  | .label, value => (Numerals.readBytePairs value).map fun bytes => .label bytes.reverse

def readEntry (tag : Text) (entry : Text × Text) : Option (Text × Value) :=
  (readValue (kindOf tag entry.1) entry.2).map fun value => (entry.1, value)

def meaning : Xml.Tag Text → Option (Xml.Tag Value)
  | .opening name entries => (entries.mapM (readEntry name)).map (.opening name)
  | .empty name entries => (entries.mapM (readEntry name)).map (.empty name)
  | .closing name => some (.closing name)

def rootTag : Xml.Tag Value :=
  .opening (ascii "ISO11783_TaskData")
    [(ascii "VersionMajor", .text (ascii "3")), (ascii "VersionMinor", .text (ascii "0")),
      (ascii "DataTransferOrigin", .text (ascii "1"))]

def deviceContent (device : DeviceObject) : Xml.Tag Value :=
  .opening (ascii "DVC")
    [(ascii "A", .text (ascii "DVC-" ++ int 1)), (ascii "B", .text device.designator),
      (ascii "C", .text device.softwareVersion), (ascii "D", .hexadecimal 16 device.isoName.toNat),
      (ascii "E", .text device.serialNumber), (ascii "F", .label device.structureLabel),
      (ascii "G", .label device.localizationLabel.val)]

def elementEntries (number : Nat) (element : DeviceElementObject) : List (Text × Value) :=
  [(ascii "A", .text (ascii "DET-" ++ int number)), (ascii "B", .decimal element.objectID.toNat),
    (ascii "C", .decimal element.elementType.toByte.toNat),
    (ascii "D", .text element.designator), (ascii "E", .decimal element.elementNumber.toNat),
    (ascii "F", .decimal element.parentObject.toNat)]

def referenceContent (childID : UInt16) : Xml.Tag Value :=
  .empty (ascii "DOR") [(ascii "A", .decimal childID.toNat)]

def presentationEntry (name : Text) (objectID : UInt16) : List (Text × Value) :=
  if objectID ≠ NULL_OBJECT_ID then [(name, .decimal objectID.toNat)] else []

def processDataContent (processData : DeviceProcessDataObject) : Xml.Tag Value :=
  .empty (ascii "DPD") ([(ascii "A", .decimal processData.objectID.toNat),
    (ascii "B", .hexadecimal 4 processData.ddi.toNat),
    (ascii "C", .decimal processData.propertiesBitfield.toNat),
    (ascii "D", .decimal processData.triggerMethodsBitfield.toNat),
    (ascii "E", .text processData.designator)] ++
    presentationEntry (ascii "F") processData.deviceValuePresentationObject)

def propertyContent (property : DevicePropertyObject) : Xml.Tag Value :=
  .empty (ascii "DPT") ([(ascii "A", .decimal property.objectID.toNat),
    (ascii "B", .hexadecimal 4 property.ddi.toNat), (ascii "C", .decimal property.value.toInt),
    (ascii "D", .text property.designator)] ++
    presentationEntry (ascii "E") property.deviceValuePresentationObject)

def valuePresentationContent (scaleText : UInt32 → Text)
    (presentation : DeviceValuePresentationObject) : Xml.Tag Value :=
  .empty (ascii "DVP") [(ascii "A", .decimal presentation.objectID.toNat),
    (ascii "B", .decimal presentation.offset.toInt),
    (ascii "C", .text (scaleText presentation.scale)),
    (ascii "D", .decimal presentation.numberOfDecimals.toNat),
    (ascii "E", .text presentation.designator)]

/-- An element around its children, each tag behind its white space. -/
def elementLines (children : List UInt16) (number : Nat) (element : DeviceElementObject) :
    List (Text × Xml.Tag Value) :=
  if children = [] then [(ascii "\t", .empty (ascii "DET") (elementEntries number element))]
  else [(ascii "\t", .opening (ascii "DET") (elementEntries number element))] ++
    children.map (fun childID => (ascii "\t\t", referenceContent childID)) ++
    [(ascii "\t", .closing (ascii "DET"))]

def lines (scaleText : UInt32 → Text) (children : DeviceElementObject → List UInt16)
    (device : DeviceObject) (objects : List Object) : List (Text × Xml.Tag Value) :=
  [([], rootTag), ([], deviceContent device)] ++
    ((objects.filterMap elementOf).zipIdx 1).flatMap
      (fun (element, number) => elementLines (children element) number element) ++
    (objects.filterMap processDataOf).map (fun object => (ascii "\t", processDataContent object)) ++
    (objects.filterMap propertyOf).map (fun object => (ascii "\t", propertyContent object)) ++
    (objects.filterMap valuePresentationOf).map
      (fun object => (ascii "\t", valuePresentationContent scaleText object)) ++
    [([], .closing (ascii "DVC")), ([], .closing (ascii "ISO11783_TaskData"))]

/-- The device, its elements with all their children, and the other objects, each kind in the order
of the pool. -/
def content (scaleText : UInt32 → Text) (device : DeviceObject) (objects : List Object) :
    List (Xml.Tag Value) :=
  (lines scaleText DeviceElementObject.referenceList device objects).map Prod.snd

/-- The document is there, is well formed and says what is in the pool. -/
def Exports (scaleText : UInt32 → Text) (pool : DeviceDescriptorObjectPool)
    (device : DeviceObject) : Prop :=
  ∃ xml tags, pool.generateTaskDataIsoXml scaleText = some (true, xml) ∧
    Xml.parse xml = some tags ∧
    tags.mapM meaning = some (content scaleText device pool.objectList)

def texts : Object → List Text
  | .device object => [object.designator, object.softwareVersion, object.serialNumber]
  | other => [other.getDesignator]

/-- A label of seven characters, texts that need no escapes, and not too many children. -/
def Exportable (pool : DeviceDescriptorObjectPool) (device : DeviceObject) : Prop :=
  device.structureLabel.length = MAX_STRUCTURE_AND_LOCALIZATION_LABEL_LENGTH ∧
    (∀ object ∈ pool.objectList, ∀ text ∈ texts object, Xml.IsPlain text) ∧
    ∀ element, .deviceElement element ∈ pool.objectList → element.referenceList.length < 65536

end IsoXml

end Isobus.DeviceDescriptor
