import Isobus.VirtualTerminal.Attributes

namespace Isobus.VirtualTerminal

namespace VTObject

/-- The attributes that follow the type. -/
def attributes (object : VTObject) : List UInt32 :=
  match object.data with
  | .workingSet data =>
    [object.backgroundColor.toUInt32, data.selectable.toUInt32, data.activeMask.toUInt32]
  | .dataMask data => [object.backgroundColor.toUInt32, data.softKeyMaskObjectID.toUInt32]
  | .alarmMask data =>
    [object.backgroundColor.toUInt32, data.softKeyMask.toUInt32, data.maskPriority.toUInt32,
      data.signalPriority.toUInt32]
  | .container data => [object.width.toUInt32, object.height.toUInt32, data.hidden.toUInt32]
  | .windowMask data =>
    [object.backgroundColor.toUInt32, data.optionsBitfield.toUInt32, data.name.toUInt32]
  | .softKeyMask => [object.backgroundColor.toUInt32]
  | .key data => [object.backgroundColor.toUInt32, data.keyCode.toUInt32]
  | .keyGroup data => [data.optionsBitfield.toUInt32, data.nameID.toUInt32]
  | .button data =>
    [object.width.toUInt32, object.height.toUInt32, object.backgroundColor.toUInt32,
      data.borderColour.toUInt32, data.keyCode.toUInt32, data.optionsBitfield.toUInt32]
  | .inputBoolean data =>
    [object.backgroundColor.toUInt32, object.width.toUInt32,
      data.foregroundColourObjectID.toUInt32, data.variableReference.toUInt32,
      data.value.toUInt32, data.enabled.toUInt32]
  | .inputString data =>
    [object.width.toUInt32, object.height.toUInt32, object.backgroundColor.toUInt32,
      data.fontAttributes.toUInt32, data.inputAttributes.toUInt32,
      data.optionsBitfield.toUInt32, data.variableReference.toUInt32,
      data.justificationBitfield.toUInt32, data.enabled.toUInt32]
  | .inputNumber data =>
    [object.width.toUInt32, object.height.toUInt32, object.backgroundColor.toUInt32,
      data.fontAttributes.toUInt32, data.optionsBitfield.toUInt32,
      data.variableReference.toUInt32, data.minimumValue, data.maximumValue,
      data.offset.toUInt32, data.scale, data.numberOfDecimals.toUInt32, data.format.toUInt32,
      data.justificationBitfield.toUInt32, data.value, data.options2.toUInt32]
  | .inputList data =>
    [object.width.toUInt32, object.height.toUInt32, data.variableReference.toUInt32,
      data.value.toUInt32, data.optionsBitfield.toUInt32]
  | .outputString data =>
    [object.width.toUInt32, object.height.toUInt32, object.backgroundColor.toUInt32,
      data.fontAttributes.toUInt32, data.optionsBitfield.toUInt32,
      data.variableReference.toUInt32, data.justificationBitfield.toUInt32]
  | .outputNumber data =>
    [object.width.toUInt32, object.height.toUInt32, object.backgroundColor.toUInt32,
      data.fontAttributes.toUInt32, data.optionsBitfield.toUInt32,
      data.variableReference.toUInt32, data.offset.toUInt32, data.scale,
      data.numberOfDecimals.toUInt32, data.format.toUInt32,
      data.justificationBitfield.toUInt32]
  | .outputList data =>
    [object.width.toUInt32, object.height.toUInt32, data.variableReference.toUInt32,
      data.value.toUInt32]
  | .outputLine data =>
    [data.lineAttributes.toUInt32, object.width.toUInt32, object.height.toUInt32,
      data.lineDirection.toUInt32]
  | .outputRectangle data =>
    [data.lineAttributes.toUInt32, object.width.toUInt32, object.height.toUInt32,
      data.lineSuppressionBitfield.toUInt32, data.fillAttributes.toUInt32]
  | .outputEllipse data =>
    [data.lineAttributes.toUInt32, object.width.toUInt32, object.height.toUInt32,
      data.ellipseType.toUInt32, data.startAngle.toUInt32, data.endAngle.toUInt32,
      data.fillAttributes.toUInt32]
  | .outputPolygon data =>
    [object.width.toUInt32, object.height.toUInt32, data.lineAttributes.toUInt32,
      data.fillAttributes.toUInt32, data.polygonType.toUInt32]
  | .outputMeter data =>
    [object.width.toUInt32, data.needleColour.toUInt32, data.borderColour.toUInt32,
      data.arcAndTickColour.toUInt32, data.optionsBitfield.toUInt32,
      data.numberOfTicks.toUInt32, data.startAngle.toUInt32, data.endAngle.toUInt32,
      data.minValue.toUInt32, data.maxValue.toUInt32, data.variableReference.toUInt32,
      data.value.toUInt32]
  | .outputLinearBarGraph data =>
    [object.width.toUInt32, object.height.toUInt32, data.colour.toUInt32,
      data.targetLineColour.toUInt32, data.optionsBitfield.toUInt32,
      data.numberOfTicks.toUInt32, data.minValue.toUInt32, data.maxValue.toUInt32,
      data.variableReference.toUInt32, data.targetValueReference.toUInt32,
      data.targetValue.toUInt32, data.value.toUInt32]
  | .outputArchedBarGraph data =>
    [object.width.toUInt32, object.height.toUInt32, data.colour.toUInt32,
      data.targetLineColour.toUInt32, data.optionsBitfield.toUInt32, data.startAngle.toUInt32,
      data.endAngle.toUInt32, data.barGraphWidth.toUInt32, data.minValue.toUInt32,
      data.maxValue.toUInt32, data.variableReference.toUInt32,
      data.targetValueReference.toUInt32, data.targetValue.toUInt32]
  | .pictureGraphic data =>
    [object.width.toUInt32, data.optionsBitfield.toUInt32, data.transparencyColour.toUInt32,
      data.actualWidth.toUInt32, data.actualHeight.toUInt32, data.formatByte.toUInt32]
  | .numberVariable data => [data.value]
  | .fontAttributes data =>
    [data.colour.toUInt32, data.size.toUInt32, data.type.toUInt32, data.style.toUInt32]
  | .lineAttributes data =>
    [object.backgroundColor.toUInt32, object.width.toUInt32, data.lineArtBitpattern.toUInt32]
  | .fillAttributes data =>
    [data.type.toUInt32, object.backgroundColor.toUInt32, data.fillPattern.toUInt32]
  | .inputAttributes data => [data.validationType.toUInt32]
  | .extendedInputAttributes data => [data.validationType.toUInt32]
  -- An object pointer is asked for its first child, not for its value.
  | .objectPointer _ =>
    [((object.children.head?.map ChildObjectData.id).getD NULL_OBJECT_ID).toUInt32]
  | .externalObjectPointer data =>
    [data.defaultObjectID.toUInt32, data.externalReferenceNAMEID.toUInt32,
      data.externalObjectID.toUInt32]
  | .auxiliaryFunctionType2 data =>
    [object.backgroundColor.toUInt32, data.functionAttributesBitfield.toUInt32]
  | .auxiliaryInputType2 data =>
    [object.backgroundColor.toUInt32, data.functionAttributesBitfield.toUInt32]
  | .auxiliaryControlDesignatorType2 data =>
    [data.pointerType.toUInt32, data.auxiliaryObjectID.toUInt32]
  | .stringVariable _ | .macroObject _ | .colourMap _ | .auxiliaryFunctionType1 _
  | .auxiliaryInputType1 _ => []

def getAttribute (object : VTObject) (attributeID : UInt8) : Option UInt32 :=
  if attributeID = 0 then some object.getObjectType.toByte.toUInt32
  else object.attributes[attributeID.toNat - 1]?

end VTObject

inductive AttributeWidth
  | flag | byte | word | long
  deriving DecidableEq

def AttributeWidth.reduce : AttributeWidth → UInt32 → UInt32
  | flag, raw => (decide (raw ≠ 0)).toUInt32
  | byte, raw => raw.toUInt8.toUInt32
  | word, raw => raw.toUInt16.toUInt32
  | long, raw => raw

def VirtualTerminalObjectType.attributeWidths : VirtualTerminalObjectType → List AttributeWidth
  | workingSet => [.byte, .flag, .word]
  | dataMask => [.byte, .word]
  | alarmMask => [.byte, .word, .byte, .byte]
  | container => [.word, .word, .flag]
  | windowMask => [.byte, .byte, .word]
  | softKeyMask => [.byte]
  | key => [.byte, .byte]
  | keyGroup => [.byte, .word]
  | button => [.word, .word, .byte, .byte, .byte, .byte]
  | inputBoolean => [.byte, .word, .word, .word, .byte, .flag]
  | inputString => [.word, .word, .byte, .word, .word, .byte, .word, .byte, .flag]
  | inputNumber =>
    [.word, .word, .byte, .word, .byte, .word, .long, .long, .long, .long, .byte, .flag, .byte,
      .long, .byte]
  | inputList => [.word, .word, .word, .byte, .byte]
  | outputString => [.word, .word, .byte, .word, .byte, .word, .byte]
  | outputNumber =>
    [.word, .word, .byte, .word, .byte, .word, .long, .long, .byte, .flag, .byte]
  | outputList => [.word, .word, .word, .byte]
  | outputLine => [.word, .word, .word, .byte]
  | outputRectangle => [.word, .word, .word, .byte, .word]
  | outputEllipse => [.word, .word, .word, .byte, .byte, .byte, .word]
  | outputPolygon => [.word, .word, .word, .word, .byte]
  | outputMeter =>
    [.word, .byte, .byte, .byte, .byte, .byte, .byte, .byte, .word, .word, .word, .word]
  | outputLinearBarGraph =>
    [.word, .word, .byte, .byte, .byte, .byte, .word, .word, .word, .word, .word, .word]
  | outputArchedBarGraph =>
    [.word, .word, .byte, .byte, .byte, .byte, .byte, .word, .word, .word, .word, .word, .word]
  | pictureGraphic => [.word, .byte, .byte, .word, .word, .byte]
  | numberVariable => [.long]
  | fontAttributes => [.byte, .byte, .byte, .byte]
  | lineAttributes => [.byte, .byte, .word]
  | fillAttributes => [.byte, .byte, .word]
  | inputAttributes | extendedInputAttributes => [.byte]
  | objectPointer => [.word]
  | externalObjectPointer => [.word, .word, .word]
  | auxiliaryFunctionType2 | auxiliaryInputType2 => [.byte, .byte]
  | auxiliaryControlDesignatorType2 => [.byte, .word]
  | _ => []

def VTObject.withoutAttributes (object : VTObject) : VTObject :=
  match object.data with
  | .workingSet _ => { object with backgroundColor := 0, data := .workingSet ⟨0, false⟩ }
  | .dataMask _ => { object with backgroundColor := 0, data := .dataMask ⟨0⟩ }
  | .alarmMask _ => { object with backgroundColor := 0, data := .alarmMask ⟨0, 0, 0⟩ }
  | .container _ => { object with width := 0, height := 0, data := .container ⟨false⟩ }
  | .windowMask data =>
    { object with
      backgroundColor := 0
      data := .windowMask { data with optionsBitfield := 0, name := 0 } }
  | .softKeyMask => { object with backgroundColor := 0 }
  | .key _ => { object with backgroundColor := 0, data := .key ⟨0⟩ }
  | .keyGroup data =>
    { object with data := .keyGroup { data with optionsBitfield := 0, nameID := 0 } }
  | .button _ =>
    { object with width := 0, height := 0, backgroundColor := 0, data := .button ⟨0, 0, 0⟩ }
  | .inputBoolean _ =>
    { object with width := 0, backgroundColor := 0, data := .inputBoolean ⟨0, 0, 0, false⟩ }
  | .inputString data =>
    { object with
      width := 0, height := 0, backgroundColor := 0
      data := .inputString
        { data with
          fontAttributes := 0, inputAttributes := 0, optionsBitfield := 0
          variableReference := 0, justificationBitfield := 0, enabled := false } }
  | .inputNumber _ =>
    { object with
      width := 0, height := 0, backgroundColor := 0
      data := .inputNumber
        { variableReference := 0, fontAttributes := 0, optionsBitfield := 0
          justificationBitfield := 0, value := 0, scale := 0, offset := 0
          numberOfDecimals := 0, format := false, maximumValue := 0, minimumValue := 0
          options2 := 0 } }
  | .inputList _ =>
    { object with
      width := 0, height := 0
      data := .inputList { variableReference := 0, value := 0, optionsBitfield := 0 } }
  | .outputString data =>
    { object with
      width := 0, height := 0, backgroundColor := 0
      data := .outputString
        { data with
          fontAttributes := 0, optionsBitfield := 0, variableReference := 0
          justificationBitfield := 0 } }
  | .outputNumber data =>
    { object with
      width := 0, height := 0, backgroundColor := 0
      data := .outputNumber
        { data with
          fontAttributes := 0, optionsBitfield := 0, variableReference := 0, offset := 0
          scale := 0, numberOfDecimals := 0, format := false, justificationBitfield := 0 } }
  | .outputList _ => { object with width := 0, height := 0, data := .outputList ⟨0, 0⟩ }
  | .outputLine _ => { object with width := 0, height := 0, data := .outputLine ⟨0, 0⟩ }
  | .outputRectangle _ =>
    { object with width := 0, height := 0, data := .outputRectangle ⟨0, 0, 0⟩ }
  | .outputEllipse _ =>
    { object with width := 0, height := 0, data := .outputEllipse ⟨0, 0, 0, 0, 0⟩ }
  | .outputPolygon data =>
    { object with
      width := 0, height := 0
      data := .outputPolygon
        { data with lineAttributes := 0, fillAttributes := 0, polygonType := 0 } }
  | .outputMeter _ =>
    { object with width := 0, data := .outputMeter ⟨0, 0, 0, 0, 0, 0, 0, 0, 0, 0, 0⟩ }
  | .outputLinearBarGraph _ =>
    { object with
      width := 0, height := 0, data := .outputLinearBarGraph ⟨0, 0, 0, 0, 0, 0, 0, 0, 0, 0⟩ }
  | .outputArchedBarGraph data =>
    { object with
      width := 0, height := 0
      data := .outputArchedBarGraph
        { data with
          colour := 0, targetLineColour := 0, optionsBitfield := 0, startAngle := 0
          endAngle := 0, barGraphWidth := 0, minValue := 0, maxValue := 0
          variableReference := 0, targetValueReference := 0, targetValue := 0 } }
  | .pictureGraphic data =>
    { object with
      width := 0
      data := .pictureGraphic
        { data with
          optionsBitfield := 0, transparencyColour := 0, actualWidth := 0, actualHeight := 0
          formatByte := 0 } }
  | .numberVariable _ => { object with data := .numberVariable ⟨0⟩ }
  | .fontAttributes _ => { object with data := .fontAttributes ⟨0, 0, 0, 0⟩ }
  | .lineAttributes _ =>
    { object with width := 0, backgroundColor := 0, data := .lineAttributes ⟨0⟩ }
  | .fillAttributes _ => { object with backgroundColor := 0, data := .fillAttributes ⟨0, 0⟩ }
  | .inputAttributes data =>
    { object with data := .inputAttributes { data with validationType := 0 } }
  | .extendedInputAttributes data =>
    { object with data := .extendedInputAttributes { data with validationType := 0 } }
  | .externalObjectPointer _ => { object with data := .externalObjectPointer ⟨0, 0, 0⟩ }
  | .auxiliaryFunctionType2 _ =>
    { object with backgroundColor := 0, data := .auxiliaryFunctionType2 ⟨0⟩ }
  | .auxiliaryInputType2 _ =>
    { object with backgroundColor := 0, data := .auxiliaryInputType2 ⟨0⟩ }
  | .auxiliaryControlDesignatorType2 _ =>
    { object with data := .auxiliaryControlDesignatorType2 ⟨0, 0⟩ }
  | .objectPointer _ | .stringVariable _ | .macroObject _ | .colourMap _
  | .auxiliaryFunctionType1 _ | .auxiliaryInputType1 _ => object

/-- The attribute becomes what its width keeps of the value; the rest of the object stays. -/
structure SetsAttribute (attributeID : UInt8) (raw : UInt32) (object object' : VTObject) :
    Prop where
  behindType : attributeID ≠ 0
  attributes : ∃ width,
    object.getObjectType.attributeWidths[attributeID.toNat - 1]? = some width ∧
      object'.attributes = object.attributes.set (attributeID.toNat - 1) (width.reduce raw)
  type : object'.getObjectType = object.getObjectType
  rest : object'.withoutAttributes = object.withoutAttributes

theorem and_0xFF_toUInt16 (raw : UInt32) :
    (raw &&& 0xFF).toUInt16.toUInt32 = raw.toUInt8.toUInt32 := by
  have hand : raw.toNat &&& (2 ^ 8 - 1) = raw.toNat % 2 ^ 8 := Nat.and_two_pow_sub_one_eq_mod ..
  apply UInt32.toNat_inj.mp
  simp only [UInt16.toNat_toUInt32, UInt32.toNat_toUInt16, UInt32.toNat_and, UInt8.toNat_toUInt32,
    UInt32.toNat_toUInt8]
  change (raw.toNat &&& (2 ^ 8 - 1)) % 2 ^ 16 = _
  rw [hand]
  omega

/-- The label that a pointer is asked for, or the name itself, is not in the tree. -/
def KeyGroup.NamesAbsent (nameID : UInt16) (tree : ObjectTree) : Prop :=
  tree nameID = none ∨ nameID ≠ NULL_OBJECT_ID ∧ ∃ name child,
    tree nameID = some (some name) ∧ name.getObjectType = .objectPointer ∧
      name.children.head? = some child ∧ tree child.id = none

/-- An alarm mask or a key group is given an ID that it looks up without asking whether the tree
has it. -/
def VTObject.NamesAbsent (object : VTObject) (attributeID : UInt8) (raw : UInt32)
    (tree : ObjectTree) : Prop :=
  match object.data with
  | .alarmMask _ =>
    attributeID = 2 ∧ raw.toUInt16 ≠ NULL_OBJECT_ID ∧ tree raw.toUInt16 = none
  | .keyGroup _ =>
    attributeID = 2 ∧ tree object.objectID ≠ none ∧ KeyGroup.NamesAbsent raw.toUInt16 tree
  | _ => False

def Outcome (object : VTObject) (attributeID : UInt8) (raw : UInt32) (tree : ObjectTree) :
    Option (Except AttributeError VTObject) → Prop
  | none => object.NamesAbsent attributeID raw tree
  | some (.error _) => True
  | some (.ok object') => SetsAttribute attributeID raw object object'

theorem AlarmMask.changeSoftKeyMask_eq_none_iff {mask : AlarmMask} {newMaskID : UInt16}
    {tree : ObjectTree} :
    mask.changeSoftKeyMask newMaskID tree = none ↔
      newMaskID ≠ NULL_OBJECT_ID ∧ tree newMaskID = none := by
  unfold AlarmMask.changeSoftKeyMask
  split_ifs with hnull
  · exact iff_of_false (by simp) fun h => h.1 hnull
  · cases htree : tree newMaskID with
    | none => simp [hnull]
    | some newMask =>
      refine iff_of_false (fun h => ?_) (by simp)
      rw [Option.bind_eq_bind, Option.bind_some] at h
      split_ifs at h

theorem AlarmMask.changeSoftKeyMask_eq {mask mask' : AlarmMask} {newMaskID : UInt16}
    {tree : ObjectTree} (h : mask.changeSoftKeyMask newMaskID tree = some (some mask')) :
    mask' = mask.setSoftKeyMask newMaskID := by
  unfold AlarmMask.changeSoftKeyMask at h
  split_ifs at h
  · exact (Option.some.inj (Option.some.inj h)).symm
  · obtain ⟨newMask, -, h⟩ := Option.bind_eq_some_iff.mp h
    split_ifs at h
    · exact (Option.some.inj (Option.some.inj h)).symm
    · cases Option.some.inj h

theorem outcome_alarmMask {object : VTObject} {data : AlarmMask} {raw : UInt32}
    {tree : ObjectTree} (hdata : object.data = .alarmMask data) :
    Outcome object 2 raw tree ((data.setAttribute raw tree 2).applyTo object .alarmMask) := by
  obtain ⟨objectID, width, height, backgroundColor, children, macros, _⟩ := object
  obtain rfl : _ = ObjectData.alarmMask data := hdata
  simp only [AlarmMask.setAttribute]
  split
  next mask hmask =>
    rw [AlarmMask.changeSoftKeyMask_eq hmask]
    exact ⟨by decide, ⟨_, rfl, rfl⟩, rfl, rfl⟩
  · trivial
  next habsent =>
    exact ⟨rfl, AlarmMask.changeSoftKeyMask_eq_none_iff.mp habsent⟩

theorem KeyGroup.validateName_eq_none_iff {nameID : UInt16} {tree : ObjectTree} :
    KeyGroup.validateName nameID tree = none ↔ KeyGroup.NamesAbsent nameID tree := by
  unfold KeyGroup.validateName KeyGroup.NamesAbsent
  cases htree : tree nameID with
  | none => simp
  | some name =>
    by_cases hnull : nameID = NULL_OBJECT_ID
    · simp [hnull]
    · cases name with
      | none => simp [hnull]
      | some name =>
        by_cases htype : name.getObjectType = .objectPointer
        · cases hchild : name.children.head? with
          | none => simp [hnull, htype, hchild]
          | some child =>
            cases hlabel : tree child.id <;> simp [hnull, htype, hchild, hlabel]
        · simp [hnull, htype]

theorem outcome_keyGroup {object : VTObject} {data : KeyGroup} {raw : UInt32}
    {tree : ObjectTree} (hdata : object.data = .keyGroup data) :
    Outcome object 2 raw tree
      ((data.setAttribute object.objectID raw tree 2).applyTo object .keyGroup) := by
  obtain ⟨objectID, width, height, backgroundColor, children, macros, _⟩ := object
  obtain rfl : _ = ObjectData.keyGroup data := hdata
  simp only [KeyGroup.setAttribute]
  split_ifs with hthere
  · split
    · exact ⟨by decide, ⟨_, rfl, rfl⟩, rfl, rfl⟩
    · trivial
    next habsent =>
      exact ⟨rfl, Option.isSome_iff_ne_none.mp hthere,
        KeyGroup.validateName_eq_none_iff.mp habsent⟩
  · trivial

theorem outcome_lineAttributes {object : VTObject} {data : LineAttributes}
    {attributeID : UInt8} {raw : UInt32} {tree : ObjectTree}
    (hdata : object.data = .lineAttributes data) :
    Outcome object attributeID raw tree
      ((data.setAttribute raw attributeID).applyTo object .lineAttributes) := by
  obtain ⟨objectID, width, height, backgroundColor, children, macros, _⟩ := object
  obtain rfl : _ = ObjectData.lineAttributes data := hdata
  unfold LineAttributes.setAttribute
  split
  · exact ⟨by decide, ⟨_, rfl, rfl⟩, rfl, rfl⟩
  · refine ⟨by decide, ⟨_, rfl, ?_⟩, rfl, rfl⟩
    exact congrArg (fun width => [_, width, _]) (and_0xFF_toUInt16 raw)
  · exact ⟨by decide, ⟨_, rfl, rfl⟩, rfl, rfl⟩
  · trivial

theorem outcome_reference {object : VTObject} {attributeID : UInt8} {raw : UInt32}
    {tree : ObjectTree} {type : VirtualTerminalObjectType} {set : UInt16 → InputBoolean}
    (h : SetsAttribute attributeID raw object
      { object with data := .inputBoolean (set raw.toUInt16) }) :
    Outcome object attributeID raw tree
      ((InputBoolean.reference raw tree type set).applyTo object .inputBoolean) := by
  unfold InputBoolean.reference
  split_ifs
  · exact h
  · split
    · trivial
    · split_ifs
      · exact h
      · trivial

theorem outcome_inputBoolean {object : VTObject} {data : InputBoolean} {attributeID : UInt8}
    {raw : UInt32} {tree : ObjectTree} (hdata : object.data = .inputBoolean data) :
    Outcome object attributeID raw tree
      ((data.setAttribute raw tree attributeID).applyTo object .inputBoolean) := by
  obtain ⟨objectID, width, height, backgroundColor, children, macros, _⟩ := object
  obtain rfl : _ = ObjectData.inputBoolean data := hdata
  unfold InputBoolean.setAttribute
  split
  case h_3 | h_4 => exact outcome_reference ⟨by decide, ⟨_, rfl, rfl⟩, rfl, rfl⟩
  all_goals first
    | exact ⟨by decide, ⟨_, rfl, rfl⟩, rfl, rfl⟩
    | trivial

theorem outcome_setAttribute (object : VTObject) (attributeID : UInt8) (raw : UInt32)
    (tree : ObjectTree) :
    Outcome object attributeID raw tree (object.setAttribute attributeID raw tree) := by
  obtain ⟨objectID, width, height, backgroundColor, children, macros, data⟩ := object
  cases data
  all_goals simp only [VTObject.setAttribute]
  -- The attributes of each class, one after the other.
  all_goals first
    | trivial
    | unfold WorkingSet.setAttribute
    | unfold WindowMask.setAttribute
    | unfold SoftKeyMask.setAttribute
    | unfold Key.setAttribute
    | unfold Button.setAttribute
    | unfold PictureGraphic.setAttribute
    | unfold AuxiliaryFunctionType2.setAttribute
    | unfold AuxiliaryInputType2.setAttribute
    | unfold DataMask.setAttribute DataMask.changeSoftKeyMask
    | unfold AlarmMask.setAttribute Assignment.bounded
    | unfold KeyGroup.setAttribute
    | exact outcome_inputBoolean rfl
    | exact outcome_lineAttributes rfl
    | unfold InputString.setAttribute Assignment.reference
    | unfold InputNumber.setAttribute Assignment.reference
    | unfold InputList.setAttribute Assignment.reference
    | unfold StringVTObject.setAttribute Assignment.reference
    | unfold NumberVTObject.setAttribute Assignment.reference
    | unfold ListVTObject.setAttribute Assignment.reference
    | unfold OutputLine.setAttribute Assignment.reference Assignment.bounded
    | unfold OutputRectangle.setAttribute Assignment.reference
    | unfold OutputEllipse.setAttribute Assignment.reference Assignment.bounded
    | unfold OutputPolygon.setAttribute Assignment.reference Assignment.bounded
    | unfold OutputMeter.setAttribute Assignment.reference
    | unfold OutputLinearBarGraph.setAttribute Assignment.reference
    | unfold OutputArchedBarGraph.setAttribute Assignment.reference
    | unfold FontAttributes.setAttribute Assignment.bounded
    | unfold FillAttributes.setAttribute Assignment.reference Assignment.bounded
    | unfold ExternalObjectPointer.setAttribute ExternalObjectPointer.reference
    | unfold AuxiliaryControlDesignatorType2.setAttribute
  all_goals split
  all_goals first
    | trivial
    | exact ⟨by decide, ⟨_, rfl, rfl⟩, rfl, rfl⟩
    | exact outcome_alarmMask rfl
    | exact outcome_keyGroup rfl
    | split_ifs <;> first | trivial | exact ⟨by decide, ⟨_, rfl, rfl⟩, rfl, rfl⟩

theorem VTObject.NamesAbsent.setAttribute_eq_none {object : VTObject} {attributeID : UInt8}
    {raw : UInt32} {tree : ObjectTree} (h : object.NamesAbsent attributeID raw tree) :
    object.setAttribute attributeID raw tree = none := by
  obtain ⟨objectID, width, height, backgroundColor, children, macros, data⟩ := object
  cases data with
  | alarmMask data =>
    obtain ⟨rfl, hID⟩ := h
    have hmask := (@AlarmMask.changeSoftKeyMask_eq_none_iff data _ _).mpr hID
    simp only [VTObject.setAttribute, AlarmMask.setAttribute, hmask]
    rfl
  | keyGroup data =>
    obtain ⟨rfl, hthere, hname⟩ := h
    have hvalid := KeyGroup.validateName_eq_none_iff.mpr hname
    simp only [VTObject.setAttribute, KeyGroup.setAttribute, hvalid,
      if_pos (Option.isSome_iff_ne_none.mpr hthere)]
    rfl
  | _ => exact h.elim

theorem VTObject.length_attributes (object : VTObject) :
    object.attributes.length = object.getObjectType.attributeWidths.length := by
  obtain ⟨objectID, width, height, backgroundColor, children, macros, data⟩ := object
  cases data <;> rfl

section Reading

variable {attributeID : UInt8} {raw : UInt32} {object object' : VTObject}

theorem SetsAttribute.getAttribute_self (h : SetsAttribute attributeID raw object object') :
    ∃ width, object.getObjectType.attributeWidths[attributeID.toNat - 1]? = some width ∧
      object'.getAttribute attributeID = some (width.reduce raw) := by
  obtain ⟨width, hwidth, hattributes⟩ := h.attributes
  have hlt : attributeID.toNat - 1 < object.attributes.length := by
    rw [VTObject.length_attributes]
    exact (List.getElem?_eq_some_iff.mp hwidth).1
  refine ⟨width, hwidth, ?_⟩
  rw [VTObject.getAttribute, if_neg h.behindType, hattributes, List.getElem?_set_self hlt]

theorem SetsAttribute.getAttribute_other (h : SetsAttribute attributeID raw object object')
    {other : UInt8} (hother : other ≠ attributeID) :
    object'.getAttribute other = object.getAttribute other := by
  obtain ⟨width, -, hattributes⟩ := h.attributes
  unfold VTObject.getAttribute
  split_ifs with hzero
  · rw [h.type]
  · have hne : attributeID.toNat - 1 ≠ other.toNat - 1 := by
      have := UInt8.toNat_inj.not.mpr hother
      have := UInt8.toNat_inj.not.mpr hzero
      have := UInt8.toNat_inj.not.mpr h.behindType
      simp only [UInt8.toNat_zero] at *
      omega
    rw [hattributes, List.getElem?_set_ne hne]

end Reading

/-- Whether setting the attribute is said to have succeeded, and the object as it is then. -/
def VTObject.trySetAttribute (object : VTObject) (attributeID : UInt8) (raw : UInt32)
    (tree : ObjectTree) : Option (Bool × VTObject) :=
  (object.setAttribute attributeID raw tree).map fun
    | .ok object' => (true, object')
    | .error _ => (false, object)

/-- Setting the attribute finds all it looks up. If it succeeds the attribute reads as its width
keeps the value and all others as before; if not, all do. -/
def WritesAttribute (object : VTObject) (attributeID : UInt8) (raw : UInt32)
    (tree : ObjectTree) : Prop :=
  ∃ succeeds object', object.trySetAttribute attributeID raw tree = some (succeeds, object') ∧
    (succeeds = true →
      (∃ width, object.getObjectType.attributeWidths[attributeID.toNat - 1]? = some width ∧
        object'.getAttribute attributeID = some (width.reduce raw)) ∧
      ∀ other, other ≠ attributeID → object'.getAttribute other = object.getAttribute other) ∧
    (succeeds = false → ∀ other, object'.getAttribute other = object.getAttribute other)

/-- An attribute is written unless an alarm mask or a key group looks up an absent ID. -/
theorem writesAttribute_iff (object : VTObject) (attributeID : UInt8) (raw : UInt32)
    (tree : ObjectTree) :
    WritesAttribute object attributeID raw tree ↔
      ¬ object.NamesAbsent attributeID raw tree := by
  constructor
  · rintro ⟨succeeds, object', hset, -⟩ habsent
    rw [VTObject.trySetAttribute, habsent.setAttribute_eq_none] at hset
    cases hset
  · intro hpresent
    have houtcome := outcome_setAttribute object attributeID raw tree
    unfold WritesAttribute VTObject.trySetAttribute
    cases hset : object.setAttribute attributeID raw tree with
    | none =>
      rw [hset] at houtcome
      exact absurd houtcome hpresent
    | some outcome =>
      rw [hset] at houtcome
      cases outcome with
      | error error => exact ⟨false, object, rfl, by simp, fun _ _ => rfl⟩
      | ok object' =>
        have hsets : SetsAttribute attributeID raw object object' := houtcome
        exact ⟨true, object', rfl,
          fun _ => ⟨hsets.getAttribute_self, fun _ => hsets.getAttribute_other⟩, by simp⟩

/-- An alarm mask that is given the soft key mask 7, which the tree has not. -/
theorem absentSoftKeyMask_not_written :
    ¬ ∀ object attributeID raw tree, WritesAttribute object attributeID raw tree := by
  intro h
  let mask : VTObject :=
    { objectID := 1, width := 0, height := 0, backgroundColor := 0, children := [], macros := []
      data := .alarmMask ⟨NULL_OBJECT_ID, 0, 0⟩ }
  have habsent : mask.NamesAbsent 2 7 (ObjectTree.empty.set 1 (some mask)) :=
    ⟨rfl, by decide, rfl⟩
  obtain ⟨succeeds, object', hset, -⟩ := h mask 2 7 (ObjectTree.empty.set 1 (some mask))
  rw [VTObject.trySetAttribute, habsent.setAttribute_eq_none] at hset
  cases hset

end Isobus.VirtualTerminal
