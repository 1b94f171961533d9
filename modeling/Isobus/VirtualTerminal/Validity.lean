import Isobus.VirtualTerminal.AttributeValues
import Isobus.VirtualTerminal.Execution
import Isobus.VirtualTerminal.PoolParser

namespace Isobus.VirtualTerminal

namespace ObjectTree

def refers (tree : ObjectTree) (objectID : UInt16) (type : VirtualTerminalObjectType) : Bool :=
  objectID = NULL_OBJECT_ID || tree.holds objectID type

def allows (tree : ObjectTree) (types : List VirtualTerminalObjectType) (objectID : UInt16) :
    Bool :=
  (tree.getObjectById objectID).all fun object => object.getObjectType ∈ types

def finds (tree : ObjectTree) (types : List VirtualTerminalObjectType) (objectID : UInt16) :
    Bool :=
  (tree.getObjectById objectID).any fun object => object.getObjectType ∈ types

end ObjectTree

namespace VTObject

def childrenAllowed (object : VTObject) (tree : ObjectTree)
    (types : List VirtualTerminalObjectType) : Bool :=
  object.children.all fun child => tree.allows types child.id

def childrenFound (object : VTObject) (tree : ObjectTree)
    (types : List VirtualTerminalObjectType) : Bool :=
  object.children.all fun child => tree.finds types child.id

def getChildId (object : VTObject) (index : Nat) : UInt16 :=
  (object.children[index]?.map ChildObjectData.id).getD NULL_OBJECT_ID

def childrenAre (object : VTObject) (tree : ObjectTree)
    (types : List VirtualTerminalObjectType) : Bool :=
  object.getNumberChildren = types.length &&
    types.zipIdx.all fun (type, index) => tree.holds (object.getChildId index) type

end VTObject

def WorkingSet.getIsValid (object : VTObject) (tree : ObjectTree) : Bool :=
  object.childrenAllowed tree
    [.outputList, .container, .outputString, .outputNumber, .outputLine, .outputRectangle,
      .outputEllipse, .outputPolygon, .outputMeter, .outputLinearBarGraph, .outputArchedBarGraph,
      .graphicsContext, .pictureGraphic, .objectPointer] &&
    object.objectID ≠ NULL_OBJECT_ID

def DataMask.getIsValid (object : VTObject) (tree : ObjectTree) : Bool :=
  object.childrenAllowed tree
    [.workingSet, .button, .inputBoolean, .inputString, .inputNumber, .outputString, .inputList,
      .outputNumber, .outputList, .outputLine, .outputRectangle, .outputEllipse, .outputPolygon,
      .outputMeter, .outputLinearBarGraph, .outputArchedBarGraph, .graphicsContext, .animation,
      .pictureGraphic, .objectPointer, .externalObjectPointer, .auxiliaryFunctionType2,
      .auxiliaryInputType2, .auxiliaryControlDesignatorType2, .macroObject, .softKeyMask] &&
    (object.children.filter fun child => tree.holds child.id .softKeyMask).length ≤ 1 &&
    object.objectID ≠ NULL_OBJECT_ID

def AlarmMask.getIsValid (object : VTObject) (tree : ObjectTree) : Bool :=
  object.childrenAllowed tree
    [.workingSet, .button, .inputBoolean, .inputString, .inputNumber, .outputString, .inputList,
      .outputNumber, .outputList, .outputLine, .outputRectangle, .outputEllipse, .outputPolygon,
      .outputMeter, .outputLinearBarGraph, .outputArchedBarGraph, .graphicsContext, .animation,
      .pictureGraphic, .objectPointer, .externalObjectPointer, .auxiliaryFunctionType2,
      .auxiliaryInputType2, .auxiliaryControlDesignatorType2, .macroObject, .softKeyMask] &&
    object.objectID ≠ NULL_OBJECT_ID

def Container.getIsValid (object : VTObject) (tree : ObjectTree) : Bool :=
  object.childrenAllowed tree
    [.workingSet, .container, .button, .inputBoolean, .inputString, .inputNumber, .inputList,
      .outputString, .outputNumber, .outputList, .outputLine, .outputRectangle, .outputEllipse,
      .outputPolygon, .outputMeter, .graphicsContext, .outputArchedBarGraph,
      .outputLinearBarGraph, .animation, .pictureGraphic, .objectPointer, .externalObjectPointer,
      .auxiliaryFunctionType2, .auxiliaryInputType2, .auxiliaryControlDesignatorType2,
      .macroObject] &&
    object.objectID ≠ NULL_OBJECT_ID

def SoftKeyMask.getIsValid (object : VTObject) (tree : ObjectTree) : Bool :=
  object.childrenAllowed tree [.objectPointer, .externalObjectPointer, .key, .macroObject] &&
    object.objectID ≠ NULL_OBJECT_ID

def Key.getIsValid (object : VTObject) (tree : ObjectTree) : Bool :=
  object.childrenAllowed tree
    [.workingSet, .container, .outputString, .outputNumber, .outputList, .outputLine,
      .outputRectangle, .outputEllipse, .outputPolygon, .outputMeter, .graphicsContext,
      .outputArchedBarGraph, .outputLinearBarGraph, .animation, .pictureGraphic, .objectPointer,
      .externalObjectPointer, .macroObject] &&
    object.objectID ≠ NULL_OBJECT_ID

def KeyGroup.isKey (tree : ObjectTree) (childID : UInt16) : Bool :=
  match tree.getObjectById childID with
  | none => true
  | some child =>
    match child.data with
    | .key _ | .macroObject _ => true
    | .objectPointer pointer => tree.refers pointer.value .key
    | _ => false

def KeyGroup.getIsValid (keyGroup : KeyGroup) (object : VTObject) (tree : ObjectTree) :
    Option Bool :=
  if keyGroup.nameID = NULL_OBJECT_ID then some false
  else
    (KeyGroup.validateName keyGroup.nameID tree).map fun isName =>
      object.children.all (fun child => KeyGroup.isKey tree child.id) && isName &&
        object.objectID ≠ NULL_OBJECT_ID

def Button.getIsValid (object : VTObject) (tree : ObjectTree) : Bool :=
  object.childrenAllowed tree
    [.workingSet, .outputList, .container, .outputString, .outputNumber, .outputLine,
      .outputRectangle, .outputEllipse, .outputPolygon, .outputMeter, .outputLinearBarGraph,
      .outputArchedBarGraph, .graphicsContext, .pictureGraphic, .objectPointer, .animation,
      .macroObject] &&
    object.objectID ≠ NULL_OBJECT_ID

def InputBoolean.getIsValid (input : InputBoolean) (object : VTObject) (tree : ObjectTree) :
    Bool :=
  tree.refers input.variableReference .numberVariable &&
    tree.refers input.foregroundColourObjectID .fontAttributes &&
    object.childrenFound tree [.macroObject]

def InputString.getIsValid (input : InputString) (object : VTObject) (tree : ObjectTree) :
    Bool :=
  tree.refers input.variableReference .stringVariable &&
    tree.refers input.inputAttributes .inputAttributes &&
    tree.refers input.fontAttributes .fontAttributes &&
    object.childrenFound tree [.macroObject]

def NumberVTObject.getIsValid (number : NumberVTObject) (object : VTObject) (tree : ObjectTree) :
    Bool :=
  tree.refers number.variableReference .numberVariable &&
    tree.refers number.fontAttributes .fontAttributes &&
    object.childrenFound tree [.macroObject]

def InputNumber.getIsValid (input : InputNumber) (object : VTObject) (tree : ObjectTree) :
    Bool :=
  input.toNumberVTObject.getIsValid object tree

def InputList.itemTypes : List VirtualTerminalObjectType :=
  [.workingSet, .container, .outputString, .outputNumber, .outputList, .outputLine,
    .outputRectangle, .outputEllipse, .outputPolygon, .outputMeter, .outputLinearBarGraph,
    .outputArchedBarGraph, .graphicsContext, .pictureGraphic, .scaledGraphic, .objectPointer,
    .externalObjectPointer]

def InputList.getIsValid (object : VTObject) (tree : ObjectTree) : Bool :=
  object.childrenAllowed tree itemTypes && object.objectID ≠ NULL_OBJECT_ID

def OutputString.getIsValid (output : StringVTObject) (object : VTObject) (tree : ObjectTree) :
    Bool :=
  tree.refers output.variableReference .stringVariable &&
    tree.refers output.fontAttributes .fontAttributes &&
    object.childrenFound tree [.macroObject]

def OutputNumber.getIsValid (output : NumberVTObject) (object : VTObject) (tree : ObjectTree) :
    Bool :=
  output.getIsValid object tree

def OutputList.itemTypes : List VirtualTerminalObjectType :=
  [.outputString, .macroObject, .workingSet, .container, .button, .keyGroup, .inputBoolean,
    .inputString, .inputNumber, .inputList, .outputLine, .outputRectangle, .outputEllipse,
    .outputPolygon, .outputMeter, .outputLinearBarGraph, .outputArchedBarGraph, .animation,
    .pictureGraphic, .scaledGraphic, .objectPointer, .externalObjectPointer,
    .auxiliaryFunctionType2, .auxiliaryInputType2, .auxiliaryControlDesignatorType2]

def OutputList.getIsValid (output : ListVTObject) (object : VTObject) (tree : ObjectTree) :
    Bool :=
  tree.refers output.variableReference .numberVariable &&
    object.childrenAllowed tree itemTypes && object.objectID ≠ NULL_OBJECT_ID

def OutputLine.getIsValid (output : OutputLine) (object : VTObject) (tree : ObjectTree) : Bool :=
  tree.refers output.lineAttributes .lineAttributes && object.childrenFound tree [.macroObject]

def shapeIsValid (lineAttributes fillAttributes : UInt16) (object : VTObject)
    (tree : ObjectTree) : Bool :=
  tree.refers lineAttributes .lineAttributes && tree.refers fillAttributes .fillAttributes &&
    object.childrenFound tree [.macroObject]

def OutputRectangle.getIsValid (output : OutputRectangle) (object : VTObject)
    (tree : ObjectTree) : Bool :=
  shapeIsValid output.lineAttributes output.fillAttributes object tree

def OutputEllipse.getIsValid (output : OutputEllipse) (object : VTObject) (tree : ObjectTree) :
    Bool :=
  shapeIsValid output.lineAttributes output.fillAttributes object tree

def OutputPolygon.getIsValid (output : OutputPolygon) (object : VTObject) (tree : ObjectTree) :
    Bool :=
  shapeIsValid output.lineAttributes output.fillAttributes object tree

def OutputMeter.getIsValid (output : OutputMeter) (object : VTObject) (tree : ObjectTree) :
    Bool :=
  tree.refers output.variableReference .numberVariable &&
    object.childrenFound tree [.macroObject]

def OutputLinearBarGraph.getIsValid (output : OutputLinearBarGraph) (object : VTObject)
    (tree : ObjectTree) : Bool :=
  tree.refers output.variableReference .numberVariable &&
    tree.refers output.targetValueReference .numberVariable &&
    object.childrenFound tree [.macroObject]

def OutputArchedBarGraph.getIsValid (output : OutputArchedBarGraph) (object : VTObject)
    (tree : ObjectTree) : Bool :=
  tree.refers output.variableReference .numberVariable &&
    tree.refers output.targetValueReference .numberVariable &&
    object.childrenFound tree [.macroObject]

def FillAttributes.getIsValid (attributes : FillAttributes) (tree : ObjectTree) : Bool :=
  tree.refers attributes.fillPattern .pictureGraphic

def ObjectPointer.getIsValid (pointer : ObjectPointer) (tree : ObjectTree) : Bool :=
  pointer.value = NULL_OBJECT_ID || (tree.getObjectById pointer.value).isSome

/-- Whether there is an object under the ID; nothing if the ID is absent. -/
def ExternalObjectPointer.isObject (objectID : UInt16) (tree : ObjectTree) : Option Bool :=
  if objectID = NULL_OBJECT_ID then some true else (tree objectID).map Option.isSome

def ExternalObjectPointer.getIsValid (pointer : ExternalObjectPointer) (tree : ObjectTree) :
    Option Bool := do
  let isDefaultObjectValid ← isObject pointer.defaultObjectID tree
  let isExternalNAMEIDValid ← isObject pointer.externalReferenceNAMEID tree
  return isDefaultObjectValid && isExternalNAMEIDValid

/-- The title and the name of a window: an output string, or an object pointer whose first child
is one. -/
def WindowMask.isLabel (tree : ObjectTree) (labelID : UInt16) : Bool :=
  match tree.getObjectById labelID with
  | none => false
  | some label =>
    if label.getObjectType = .objectPointer then
      label.getNumberChildren ≠ 0 && tree.holds (label.getChildId 0) .outputString
    else label.getObjectType = .outputString

def WindowMask.iconTypes : List VirtualTerminalObjectType :=
  [.outputString, .container, .outputNumber, .outputList, .outputLine, .outputRectangle,
    .outputEllipse, .outputPolygon, .outputMeter, .outputLinearBarGraph, .outputArchedBarGraph,
    .graphicsContext, .pictureGraphic, .objectPointer, .scaledGraphic]

def WindowMask.childTypes (windowType : UInt8) : Option (List VirtualTerminalObjectType) :=
  match windowType with
  | 1 | 10 => some [.outputNumber, .outputString]
  | 2 | 11 => some [.outputNumber]
  | 3 | 12 => some [.outputString]
  | 4 | 13 => some [.inputNumber, .outputString]
  | 5 | 14 => some [.inputNumber]
  | 6 | 15 => some [.inputString]
  | 7 | 16 => some [.outputLinearBarGraph]
  | 8 | 17 => some [.button]
  | 9 | 18 => some [.button, .button]
  | _ => none

def WindowMask.freeform : UInt8 := 0

def WindowMask.getIsValid (mask : WindowMask) (object : VTObject) (tree : ObjectTree) : Bool :=
  if mask.windowType = freeform then mask.title = NULL_OBJECT_ID
  else
    isLabel tree mask.title && isLabel tree mask.name && tree.finds iconTypes mask.icon &&
      (childTypes mask.windowType).any fun types => object.childrenAre tree types

def AuxiliaryFunctionType1.getIsValid (object : VTObject) (tree : ObjectTree) : Bool :=
  object.childrenFound tree
    [.outputString, .outputNumber, .outputLine, .outputRectangle, .outputEllipse, .outputPolygon,
      .pictureGraphic]

def AuxiliaryInputType1.getIsValid (object : VTObject) (tree : ObjectTree) : Bool :=
  AuxiliaryFunctionType1.getIsValid object tree

def AuxiliaryFunctionType2.getIsValid (object : VTObject) (tree : ObjectTree) : Bool :=
  object.childrenFound tree
    [.outputString, .outputNumber, .outputLine, .outputList, .outputRectangle, .outputEllipse,
      .outputPolygon, .outputMeter, .outputLinearBarGraph, .outputArchedBarGraph,
      .pictureGraphic, .objectPointer, .scaledGraphic]

def AuxiliaryInputType2.getIsValid (object : VTObject) (tree : ObjectTree) : Bool :=
  AuxiliaryFunctionType2.getIsValid object tree

/-- The type of the object is asked for although a NULL reference has no object. -/
def AuxiliaryControlDesignatorType2.getIsValid (designator : AuxiliaryControlDesignatorType2)
    (tree : ObjectTree) : Option Bool :=
  let object := tree.getObjectById designator.auxiliaryObjectID
  if (designator.auxiliaryObjectID = NULL_OBJECT_ID ∨ object.isSome) ∧
      designator.pointerType ≤ 3 then
    object.map fun object =>
      object.getObjectType = .auxiliaryFunctionType2 || object.getObjectType = .auxiliaryInputType2
  else some false

/-- Nothing if an absent ID is looked up or an object is asked for that there is not. -/
def VTObject.getIsValid (object : VTObject) (tree : ObjectTree) : Option Bool :=
  match object.data with
  | .workingSet _ => some (WorkingSet.getIsValid object tree)
  | .dataMask _ => some (DataMask.getIsValid object tree)
  | .alarmMask _ => some (AlarmMask.getIsValid object tree)
  | .container _ => some (Container.getIsValid object tree)
  | .windowMask data => some (data.getIsValid object tree)
  | .softKeyMask => some (SoftKeyMask.getIsValid object tree)
  | .key _ => some (Key.getIsValid object tree)
  | .keyGroup data => data.getIsValid object tree
  | .button _ => some (Button.getIsValid object tree)
  | .inputBoolean data => some (data.getIsValid object tree)
  | .inputString data => some (data.getIsValid object tree)
  | .inputNumber data => some (data.getIsValid object tree)
  | .inputList _ => some (InputList.getIsValid object tree)
  | .outputString data => some (OutputString.getIsValid data object tree)
  | .outputNumber data => some (OutputNumber.getIsValid data object tree)
  | .outputList data => some (OutputList.getIsValid data object tree)
  | .outputLine data => some (data.getIsValid object tree)
  | .outputRectangle data => some (data.getIsValid object tree)
  | .outputEllipse data => some (data.getIsValid object tree)
  | .outputPolygon data => some (data.getIsValid object tree)
  | .outputMeter data => some (data.getIsValid object tree)
  | .outputLinearBarGraph data => some (data.getIsValid object tree)
  | .outputArchedBarGraph data => some (data.getIsValid object tree)
  | .fillAttributes data => some (data.getIsValid tree)
  | .objectPointer data => some (data.getIsValid tree)
  | .externalObjectPointer data => data.getIsValid tree
  | .macroObject data => some (Macro.getAreCommandPacketsValid data.commandPackets)
  | .auxiliaryFunctionType1 _ => some (AuxiliaryFunctionType1.getIsValid object tree)
  | .auxiliaryInputType1 _ => some (AuxiliaryInputType1.getIsValid object tree)
  | .auxiliaryFunctionType2 _ => some (AuxiliaryFunctionType2.getIsValid object tree)
  | .auxiliaryInputType2 _ => some (AuxiliaryInputType2.getIsValid object tree)
  | .auxiliaryControlDesignatorType2 data => data.getIsValid tree
  | .pictureGraphic _ | .numberVariable _ | .stringVariable _ | .fontAttributes _
  | .lineAttributes _ | .inputAttributes _ | .extendedInputAttributes _ | .colourMap _ =>
    some true

def VTObject.FollowsUnchecked (object : VTObject) (tree : ObjectTree) : Prop :=
  match object.data with
  | .keyGroup data => data.nameID ≠ NULL_OBJECT_ID ∧ KeyGroup.NamesAbsent data.nameID tree
  | .externalObjectPointer data =>
    data.defaultObjectID ≠ NULL_OBJECT_ID ∧ tree data.defaultObjectID = none ∨
      data.externalReferenceNAMEID ≠ NULL_OBJECT_ID ∧ tree data.externalReferenceNAMEID = none
  | .auxiliaryControlDesignatorType2 data =>
    data.auxiliaryObjectID = NULL_OBJECT_ID ∧ data.pointerType ≤ 3
  | _ => False

variable {object : VTObject} {tree : ObjectTree}

theorem KeyGroup.getIsValid_eq_none_iff {keyGroup : KeyGroup} :
    keyGroup.getIsValid object tree = none ↔
      keyGroup.nameID ≠ NULL_OBJECT_ID ∧ KeyGroup.NamesAbsent keyGroup.nameID tree := by
  unfold KeyGroup.getIsValid
  split_ifs with hnull
  · exact iff_of_false (by simp) fun h => h.1 hnull
  · rw [Option.map_eq_none_iff, KeyGroup.validateName_eq_none_iff, and_iff_right hnull]

theorem ExternalObjectPointer.isObject_eq_none_iff {objectID : UInt16} :
    ExternalObjectPointer.isObject objectID tree = none ↔
      objectID ≠ NULL_OBJECT_ID ∧ tree objectID = none := by
  unfold ExternalObjectPointer.isObject
  split_ifs with hnull
  · exact iff_of_false (by simp) fun h => h.1 hnull
  · rw [Option.map_eq_none_iff, and_iff_right hnull]

theorem ExternalObjectPointer.getIsValid_eq_none_iff {pointer : ExternalObjectPointer} :
    pointer.getIsValid tree = none ↔
      pointer.defaultObjectID ≠ NULL_OBJECT_ID ∧ tree pointer.defaultObjectID = none ∨
        pointer.externalReferenceNAMEID ≠ NULL_OBJECT_ID ∧
          tree pointer.externalReferenceNAMEID = none := by
  rw [← isObject_eq_none_iff, ← isObject_eq_none_iff, ExternalObjectPointer.getIsValid]
  cases isObject pointer.defaultObjectID tree with
  | none => simp
  | some isDefaultObjectValid =>
    cases isObject pointer.externalReferenceNAMEID tree <;> simp

theorem ObjectTree.getObjectById_NULL (tree : ObjectTree) :
    tree.getObjectById NULL_OBJECT_ID = none :=
  if_pos rfl

theorem AuxiliaryControlDesignatorType2.getIsValid_eq_none_iff
    {designator : AuxiliaryControlDesignatorType2} :
    designator.getIsValid tree = none ↔
      designator.auxiliaryObjectID = NULL_OBJECT_ID ∧ designator.pointerType ≤ 3 := by
  unfold AuxiliaryControlDesignatorType2.getIsValid
  by_cases hnull : designator.auxiliaryObjectID = NULL_OBJECT_ID
  · by_cases htype : designator.pointerType ≤ 3 <;>
      simp [hnull, htype, ObjectTree.getObjectById_NULL]
  · refine iff_of_false ?_ fun h => hnull h.1
    cases hobject : tree.getObjectById designator.auxiliaryObjectID with
    | none => simp [hnull]
    | some object =>
      dsimp only
      split_ifs <;> simp

theorem VTObject.getIsValid_eq_none_iff :
    object.getIsValid tree = none ↔ object.FollowsUnchecked tree := by
  obtain ⟨objectID, width, height, backgroundColor, children, macros, data⟩ := object
  cases data with
  | keyGroup data => exact KeyGroup.getIsValid_eq_none_iff
  | externalObjectPointer data => exact ExternalObjectPointer.getIsValid_eq_none_iff
  | auxiliaryControlDesignatorType2 data =>
    exact AuxiliaryControlDesignatorType2.getIsValid_eq_none_iff
  | _ => exact iff_of_false (Option.some_ne_none _) id

/-- An object pointer under the ID is taken just if its value names an object of the type. -/
def TakesPointer (takes : Prop) (pointerID : UInt16) (type : VirtualTerminalObjectType)
    (tree : ObjectTree) : Prop :=
  ∀ pointer data, tree.getObjectById pointerID = some pointer →
    pointer.data = .objectPointer data → (takes ↔ tree.holds data.value type = true)

def TakesKey (takes : Prop) (pointerID : UInt16) (tree : ObjectTree) : Prop :=
  ∀ pointer data, tree.getObjectById pointerID = some pointer →
    pointer.data = .objectPointer data →
      (takes ↔ data.value = NULL_OBJECT_ID ∨ tree.holds data.value .key = true)

/-- Wherever an object pointer may stand for another object it is judged by that one. -/
def VTObject.FollowsPointers (object : VTObject) (tree : ObjectTree) : Prop :=
  match object.data with
  | .keyGroup data =>
    (∀ child ∈ object.children, TakesKey (KeyGroup.isKey tree child.id = true) child.id tree) ∧
    TakesPointer (KeyGroup.validateName data.nameID tree = some true) data.nameID .outputString
      tree
  | .windowMask data => data.windowType ≠ WindowMask.freeform →
      TakesPointer (WindowMask.isLabel tree data.title = true) data.title .outputString tree ∧
      TakesPointer (WindowMask.isLabel tree data.name = true) data.name .outputString tree
  | _ => True

/-- An object pointer whose first child and whose value differ in whether they are an output string.
-/
def Misleads (firstIsString : VTObject → Prop) (pointerID : UInt16) (tree : ObjectTree) : Prop :=
  ∃ pointer data, tree.getObjectById pointerID = some pointer ∧
    pointer.data = .objectPointer data ∧
      ¬(firstIsString pointer ↔ tree.holds data.value .outputString = true)

/-- The first child of the object is looked up even if it is NULL. -/
def KeyGroup.FirstIsString (tree : ObjectTree) (pointer : VTObject) : Prop :=
  ∃ child label, pointer.children.head? = some child ∧ tree child.id = some (some label) ∧
    label.getObjectType = .outputString

def WindowMask.FirstIsString (tree : ObjectTree) (pointer : VTObject) : Prop :=
  pointer.getNumberChildren ≠ 0 ∧ tree.holds (pointer.getChildId 0) .outputString = true

/-- The object has a label that is judged by another object than the one it points to. -/
def VTObject.IsMisled (object : VTObject) (tree : ObjectTree) : Prop :=
  match object.data with
  | .keyGroup data => Misleads (KeyGroup.FirstIsString tree) data.nameID tree
  | .windowMask data => data.windowType ≠ WindowMask.freeform ∧
      (Misleads (WindowMask.FirstIsString tree) data.title tree ∨
        Misleads (WindowMask.FirstIsString tree) data.name tree)
  | _ => False

theorem ObjectTree.getObjectById_eq_some_iff {objectID : UInt16} :
    tree.getObjectById objectID = some object ↔
      objectID ≠ NULL_OBJECT_ID ∧ tree objectID = some (some object) := by
  unfold ObjectTree.getObjectById ObjectTree.get
  split_ifs with hnull
  · exact iff_of_false (by simp) fun h => h.1 hnull
  · rw [and_iff_right hnull, Option.join_eq_some_iff]

theorem takesPointer_iff {takes : Prop} {firstIsString : VTObject → Prop} {pointerID : UInt16}
    (htakes : ∀ pointer data, tree.getObjectById pointerID = some pointer →
      pointer.data = .objectPointer data → (takes ↔ firstIsString pointer)) :
    TakesPointer takes pointerID .outputString tree ↔ ¬Misleads firstIsString pointerID tree := by
  constructor
  · rintro hpointer ⟨pointer, data, hfound, hdata, hdiffer⟩
    rw [← htakes pointer data hfound hdata] at hdiffer
    exact hdiffer (hpointer pointer data hfound hdata)
  · intro hmisled pointer data hfound hdata
    by_contra hdiffer
    rw [htakes pointer data hfound hdata] at hdiffer
    exact hmisled ⟨pointer, data, hfound, hdata, hdiffer⟩

variable {pointer : VTObject} {data : ObjectPointer}

theorem getObjectType_of_objectPointer (hdata : pointer.data = .objectPointer data) :
    pointer.getObjectType = .objectPointer := by
  rw [VTObject.getObjectType, hdata]
  rfl

theorem KeyGroup.validateName_objectPointer {nameID : UInt16}
    (hfound : tree.getObjectById nameID = some pointer)
    (hdata : pointer.data = .objectPointer data) :
    KeyGroup.validateName nameID tree = some true ↔ KeyGroup.FirstIsString tree pointer := by
  obtain ⟨hnull, htree⟩ := ObjectTree.getObjectById_eq_some_iff.mp hfound
  have htype := getObjectType_of_objectPointer hdata
  unfold KeyGroup.validateName KeyGroup.FirstIsString
  cases hchild : pointer.children.head? with
  | none => simp [htree, hnull, htype, hchild]
  | some child =>
    rcases hlabel : tree child.id with _ | _ | label <;>
      simp [htree, hnull, htype, hchild, hlabel]

theorem WindowMask.isLabel_objectPointer {labelID : UInt16}
    (hfound : tree.getObjectById labelID = some pointer)
    (hdata : pointer.data = .objectPointer data) :
    WindowMask.isLabel tree labelID = true ↔ WindowMask.FirstIsString tree pointer := by
  have htype := getObjectType_of_objectPointer hdata
  simp [WindowMask.isLabel, WindowMask.FirstIsString, hfound, htype]

theorem KeyGroup.takesPointer_iff (nameID : UInt16) (tree : ObjectTree) :
    TakesPointer (KeyGroup.validateName nameID tree = some true) nameID .outputString tree ↔
      ¬Misleads (KeyGroup.FirstIsString tree) nameID tree :=
  VirtualTerminal.takesPointer_iff fun _ _ => KeyGroup.validateName_objectPointer

theorem WindowMask.takesPointer_iff (labelID : UInt16) (tree : ObjectTree) :
    TakesPointer (WindowMask.isLabel tree labelID = true) labelID .outputString tree ↔
      ¬Misleads (WindowMask.FirstIsString tree) labelID tree :=
  VirtualTerminal.takesPointer_iff fun _ _ => WindowMask.isLabel_objectPointer

theorem KeyGroup.takesKey (tree : ObjectTree) (childID : UInt16) :
    TakesKey (KeyGroup.isKey tree childID = true) childID tree := by
  intro pointer data hfound hdata
  simp [KeyGroup.isKey, hfound, hdata, ObjectTree.refers]

theorem VTObject.followsPointers_iff :
    object.FollowsPointers tree ↔ ¬object.IsMisled tree := by
  obtain ⟨objectID, width, height, backgroundColor, children, macros, data⟩ := object
  cases data with
  | keyGroup data =>
    have hkeys : ∀ child ∈ children,
        TakesKey (KeyGroup.isKey tree child.id = true) child.id tree :=
      fun child _ => KeyGroup.takesKey tree child.id
    exact (and_iff_right hkeys).trans (KeyGroup.takesPointer_iff data.nameID tree)
  | windowMask data =>
    simp only [VTObject.FollowsPointers, VTObject.IsMisled, WindowMask.takesPointer_iff,
      not_and, not_or]
  | _ => exact iff_of_true trivial id

/-- Judging the object comes to an end and follows pointers by their values. -/
def VTObject.IsJudged (object : VTObject) (tree : ObjectTree) : Prop :=
  (∃ isValid, object.getIsValid tree = some isValid) ∧ object.FollowsPointers tree

/-- No reference is followed unchecked, and no pointer's first child is taken for its value. -/
theorem VTObject.isJudged_iff (object : VTObject) (tree : ObjectTree) :
    object.IsJudged tree ↔ ¬object.FollowsUnchecked tree ∧ ¬object.IsMisled tree := by
  rw [IsJudged, followsPointers_iff, ← getIsValid_eq_none_iff, ← Option.ne_none_iff_exists']

def designatorOfNull : VTObject :=
  { objectID := 1
    data := .auxiliaryControlDesignatorType2
      { auxiliaryObjectID := NULL_OBJECT_ID, pointerType := 0 } }

theorem designatorOfNull_accepted :
    WorkingSetBase.parseIopIntoObjects {} [1, 0, 33, 0, 255, 255] =
      .accepted (({} : WorkingSetBase).addOrReplaceObject designatorOfNull) [] := by
  have hnext : ({} : WorkingSetBase).parseNextObject [1, 0, 33, 0, 255, 255] =
      .accepted (({} : WorkingSetBase).addOrReplaceObject designatorOfNull) [] := rfl
  rw [WorkingSetBase.parseIopIntoObjects, if_neg (by decide),
    WorkingSetBase.parseObjects_of_accepted (by decide) hnext, WorkingSetBase.parseObjects_nil]

theorem designatorOfNull_not_judged :
    ¬∀ iopData ws rest, WorkingSetBase.parseIopIntoObjects {} iopData = .accepted ws rest →
      ∀ objectID object, ws.vtObjectTree objectID = some (some object) →
        object.IsJudged ws.vtObjectTree := by
  intro h
  have hjudged := h _ _ _ designatorOfNull_accepted 1 designatorOfNull rfl
  exact ((VTObject.isJudged_iff _ _).mp hjudged).1 ⟨rfl, by decide⟩

end Isobus.VirtualTerminal
