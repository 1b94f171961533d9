import Isobus.VirtualTerminal.PoolParts

namespace Isobus.VirtualTerminal

open Isobus.Lib Isobus.Lib.Reader

structure Record where
  minimumObjectLength : Nat
  headerLength : Nat
  valid : List UInt8 → Bool := fun _ => true
  parts : List UInt8 → List Part
  accepted : List UInt8 → Contents → Bool := fun _ _ => true
  object : UInt16 → List UInt8 → Contents → VTObject

def Record.read (record : Record) (decodedID : UInt16) : Reader VTObject := do
  atLeast record.minimumObjectLength
  let header ← take record.headerLength
  demand (record.valid header = true)
  let contents ← readParts {} (record.parts header)
  demand (record.accepted header contents = true)
  return record.object decodedID header contents

def WorkingSet.record : Record where
  minimumObjectLength := 16
  headerLength := 10
  parts h := [.children (byte h 7), .macros (byte h 8), .languages (byte h 9)]
  object objectID h c :=
    { objectID, backgroundColor := byte h 3, children := c.children, macros := c.macros
      data := .workingSet { activeMask := uint16 h 5, selectable := byte h 4 ≠ 0 } }

def DataMask.record : Record where
  minimumObjectLength := 12
  headerLength := 8
  parts h := [.children (byte h 6), .macros (byte h 7)]
  object objectID h c :=
    { objectID, backgroundColor := byte h 3, children := c.children, macros := c.macros
      data := .dataMask { softKeyMaskObjectID := uint16 h 4 } }

def AlarmMask.record : Record where
  minimumObjectLength := 10
  headerLength := 10
  valid h := byte h 6 ≤ AlarmMask.lowPriority && byte h 7 ≤ AlarmMask.noAcousticSignal
  parts h := [.children (byte h 8), .macros (byte h 9)]
  object objectID h c :=
    { objectID, backgroundColor := byte h 3, children := c.children, macros := c.macros
      data := .alarmMask
        { softKeyMask := uint16 h 4, maskPriority := byte h 6, signalPriority := 0 } }

def Container.record : Record where
  minimumObjectLength := 9
  headerLength := 10
  parts h := [.children (byte h 8), .macros (byte h 9)]
  object objectID h c :=
    { objectID, width := uint16 h 3, height := uint16 h 5, children := c.children
      macros := c.macros
      data := .container { hidden := byte h 7 ≠ 0 } }

def WindowMask.record : Record where
  minimumObjectLength := 17
  headerLength := 17
  valid h := byte h 5 ≤ WindowMask.doubleButton2x1
  parts h := [.references (byte h 14), .children (byte h 15), .macros (byte h 16)]
  object objectID h c :=
    { objectID, width := (byte h 3).toUInt16, height := (byte h 4).toUInt16
      backgroundColor := byte h 6, children := c.children, macros := c.macros
      data := .windowMask
        { name := uint16 h 8, title := uint16 h 10, icon := uint16 h 12
          optionsBitfield := byte h 7, windowType := byte h 5 } }

def SoftKeyMask.record : Record where
  minimumObjectLength := 6
  headerLength := 6
  parts h := [.references (byte h 4), .macros (byte h 5)]
  object objectID h c :=
    { objectID, backgroundColor := byte h 3, children := c.children, macros := c.macros
      data := .softKeyMask }

def Key.record : Record where
  minimumObjectLength := 7
  headerLength := 7
  parts h := [.children (byte h 5), .macros (byte h 6)]
  object objectID h c :=
    { objectID, backgroundColor := byte h 3, children := c.children, macros := c.macros
      data := .key { keyCode := byte h 4 } }

def Button.record : Record where
  minimumObjectLength := 13
  headerLength := 13
  parts h := [.children (byte h 11), .macros (byte h 12)]
  object objectID h c :=
    { objectID, width := uint16 h 3, height := uint16 h 5, backgroundColor := byte h 7
      children := c.children, macros := c.macros
      data := .button
        { borderColour := byte h 8, keyCode := byte h 9, optionsBitfield := byte h 10 } }

def KeyGroup.record : Record where
  minimumObjectLength := 10
  headerLength := 9
  parts h := [.childKeys (byte h 8), .countedMacros]
  object objectID h c :=
    { objectID, children := c.children, macros := c.macros
      data := .keyGroup
        { keyGroupIcon := uint16 h 6, nameID := uint16 h 4, optionsBitfield := byte h 3 } }

def InputBoolean.record : Record where
  minimumObjectLength := 13
  headerLength := 13
  parts h := [.macros (byte h 12)]
  object objectID h c :=
    { objectID, width := uint16 h 4, height := uint16 h 4, backgroundColor := byte h 3
      macros := c.macros
      data := .inputBoolean
        { variableReference := uint16 h 8, foregroundColourObjectID := uint16 h 6
          value := byte h 10, enabled := byte h 11 ≠ 0 } }

def InputString.record : Record where
  minimumObjectLength := 19
  headerLength := 17
  parts h := [.value (byte h 16), .countedMacros]
  object objectID h c :=
    { objectID, width := uint16 h 3, height := uint16 h 5, backgroundColor := byte h 7
      macros := c.macros
      data := .inputString
        { variableReference := uint16 h 13, fontAttributes := uint16 h 8
          optionsBitfield := byte h 12, justificationBitfield := byte h 15
          stringValue := c.text, inputAttributes := uint16 h 10, enabled := c.enabled } }

def InputNumber.record : Record where
  minimumObjectLength := 38
  headerLength := 38
  parts h := [.macros (byte h 37)]
  object objectID h c :=
    { objectID, width := uint16 h 3, height := uint16 h 5, backgroundColor := byte h 7
      macros := c.macros
      data := .inputNumber
        { variableReference := uint16 h 11, fontAttributes := uint16 h 8
          optionsBitfield := byte h 10, justificationBitfield := byte h 35
          value := uint32 h 13, scale := uint32 h 29, offset := (uint32 h 25).toInt32
          numberOfDecimals := byte h 33, format := byte h 34 ≠ 0
          maximumValue := uint32 h 21, minimumValue := uint32 h 17, options2 := byte h 36 } }

def InputList.record : Record where
  minimumObjectLength := 13
  headerLength := 13
  parts h := [.references (byte h 10), .macros (byte h 12)]
  object objectID h c :=
    { objectID, width := uint16 h 3, height := uint16 h 5, children := c.children
      macros := c.macros
      data := .inputList
        { variableReference := uint16 h 7, value := byte h 9, optionsBitfield := byte h 11 } }

def OutputString.record : Record where
  minimumObjectLength := 16
  headerLength := 16
  parts h := [.text (uint16 h 14).toNat, .countedMacros]
  object objectID h c :=
    { objectID, width := uint16 h 3, height := uint16 h 5, backgroundColor := byte h 7
      macros := c.macros
      data := .outputString
        { variableReference := uint16 h 11, fontAttributes := uint16 h 8
          optionsBitfield := byte h 10, justificationBitfield := byte h 13
          stringValue := c.text } }

def OutputNumber.record : Record where
  minimumObjectLength := 29
  headerLength := 29
  parts h := [.macros (byte h 28)]
  object objectID h c :=
    { objectID, width := uint16 h 3, height := uint16 h 5, backgroundColor := byte h 7
      macros := c.macros
      data := .outputNumber
        { variableReference := uint16 h 11, fontAttributes := uint16 h 8
          optionsBitfield := byte h 10, justificationBitfield := byte h 27
          value := uint32 h 13, scale := uint32 h 21, offset := (uint32 h 17).toInt32
          numberOfDecimals := byte h 25, format := byte h 26 ≠ 0 } }

def OutputList.record : Record where
  minimumObjectLength := 12
  headerLength := 12
  parts h := [.references (byte h 10), .macros (byte h 11)]
  object objectID h c :=
    { objectID, width := uint16 h 3, height := uint16 h 5, children := c.children
      macros := c.macros
      data := .outputList { variableReference := uint16 h 7, value := byte h 9 } }

/-- An unknown direction is not refused; the line keeps the direction of a new one. -/
def OutputLine.record : Record where
  minimumObjectLength := 11
  headerLength := 11
  parts h := [.macros (byte h 10)]
  object objectID h c :=
    { objectID, width := uint16 h 5, height := uint16 h 7, macros := c.macros
      data := .outputLine
        { lineAttributes := uint16 h 3
          lineDirection := if byte h 9 ≤ 1 then byte h 9 else 0 } }

def OutputRectangle.record : Record where
  minimumObjectLength := 13
  headerLength := 13
  parts h := [.macros (byte h 12)]
  object objectID h c :=
    { objectID, width := uint16 h 5, height := uint16 h 7, macros := c.macros
      data := .outputRectangle
        { lineAttributes := uint16 h 3, fillAttributes := uint16 h 10
          lineSuppressionBitfield := byte h 9 } }

def OutputEllipse.record : Record where
  minimumObjectLength := 15
  headerLength := 15
  valid h := byte h 9 ≤ OutputEllipse.closedEllipseSection
  parts h := [.macros (byte h 14)]
  object objectID h c :=
    { objectID, width := uint16 h 5, height := uint16 h 7, macros := c.macros
      data := .outputEllipse
        { lineAttributes := uint16 h 3, fillAttributes := uint16 h 12, ellipseType := byte h 9
          startAngle := byte h 10, endAngle := byte h 11 } }

def OutputPolygon.record : Record where
  minimumObjectLength := 14
  headerLength := 14
  valid h := byte h 11 ≤ 3
  parts h := [.points (byte h 12), .macros (byte h 13)]
  object objectID h c :=
    { objectID, width := uint16 h 3, height := uint16 h 5, macros := c.macros
      data := .outputPolygon
        { pointList := c.points, fillAttributes := uint16 h 9, lineAttributes := uint16 h 7
          polygonType := byte h 11 } }

def OutputMeter.record : Record where
  minimumObjectLength := 21
  headerLength := 21
  parts h := [.macros (byte h 20)]
  object objectID h c :=
    { objectID, width := uint16 h 3, height := uint16 h 3, macros := c.macros
      data := .outputMeter
        { variableReference := uint16 h 16, minValue := uint16 h 12, maxValue := uint16 h 14
          value := uint16 h 18, needleColour := byte h 5, borderColour := byte h 6
          arcAndTickColour := byte h 7, optionsBitfield := byte h 8, numberOfTicks := byte h 9
          startAngle := byte h 10, endAngle := byte h 11 } }

def OutputLinearBarGraph.record : Record where
  minimumObjectLength := 24
  headerLength := 24
  parts h := [.macros (byte h 23)]
  object objectID h c :=
    { objectID, width := uint16 h 3, height := uint16 h 5, macros := c.macros
      data := .outputLinearBarGraph
        { variableReference := uint16 h 15, minValue := uint16 h 11, maxValue := uint16 h 13
          targetValue := uint16 h 21, targetValueReference := uint16 h 19, value := uint16 h 17
          numberOfTicks := byte h 10, colour := byte h 7, targetLineColour := byte h 8
          optionsBitfield := byte h 9 } }

def OutputArchedBarGraph.record : Record where
  minimumObjectLength := 27
  headerLength := 27
  parts h := [.macros (byte h 26)]
  object objectID h c :=
    { objectID, width := uint16 h 3, height := uint16 h 5, macros := c.macros
      data := .outputArchedBarGraph
        { variableReference := uint16 h 18, barGraphWidth := uint16 h 12, minValue := uint16 h 14
          maxValue := uint16 h 16, value := uint16 h 20, targetValue := uint16 h 24
          targetValueReference := uint16 h 22, targetLineColour := byte h 8, colour := byte h 7
          optionsBitfield := byte h 9, startAngle := byte h 10, endAngle := byte h 11 } }

/-- Data of the right size is accepted, whatever became of the macro references. -/
def PictureGraphic.record : Record where
  minimumObjectLength := 17
  headerLength := 17
  valid h := byte h 9 ≤ PictureGraphic.eightBitColour
  parts h := [.picture (byte h 9) (byte h 10) (uint16 h 5) (uint16 h 7) (uint32 h 12),
    .pictureMacros (byte h 16)]
  accepted h c := c.rawData.length = PictureGraphic.area (uint16 h 5) (uint16 h 7) ||
    c.macrosComplete
  object objectID h c :=
    { objectID, width := uint16 h 3
      height := PictureGraphic.scaledHeight (uint16 h 3) (uint16 h 5) (uint16 h 7)
      macros := c.macros
      data := .pictureGraphic
        { rawData := c.rawData, numberOfBytesInRawData := uint32 h 12, actualWidth := uint16 h 5
          actualHeight := uint16 h 7, formatByte := byte h 9, optionsBitfield := byte h 10
          transparencyColour := byte h 11 } }

def NumberVariable.record : Record where
  minimumObjectLength := 7
  headerLength := 7
  parts _ := []
  object objectID h _ := { objectID, data := .numberVariable { value := uint32 h 3 } }

def StringVariable.record : Record where
  minimumObjectLength := 5
  headerLength := 5
  parts h := [.text (uint16 h 3).toNat]
  object objectID _ c := { objectID, data := .stringVariable { value := c.text } }

def FontAttributes.record : Record where
  minimumObjectLength := 8
  headerLength := 8
  valid h := byte h 5 ≤ FontAttributes.iso8859_7 && byte h 5 ≠ FontAttributes.reserved1 &&
    byte h 5 ≠ FontAttributes.reserved2
  parts h := [.macros (byte h 7)]
  object objectID h c :=
    { objectID, macros := c.macros
      data := .fontAttributes
        { colour := byte h 3, size := byte h 4, type := byte h 5, style := byte h 6 } }

def LineAttributes.record : Record where
  minimumObjectLength := 8
  headerLength := 8
  parts h := [.macros (byte h 7)]
  object objectID h c :=
    { objectID, width := (byte h 4).toUInt16, backgroundColor := byte h 3, macros := c.macros
      data := .lineAttributes { lineArtBitpattern := uint16 h 5 } }

def FillAttributes.record : Record where
  minimumObjectLength := 8
  headerLength := 8
  valid h := byte h 3 ≤ FillAttributes.fillWithPatternGivenByFillPatternAttribute
  parts h := [.macros (byte h 7)]
  object objectID h c :=
    { objectID, backgroundColor := byte h 4, macros := c.macros
      data := .fillAttributes { fillPattern := uint16 h 5, type := byte h 3 } }

def InputAttributes.record : Record where
  minimumObjectLength := 7
  headerLength := 5
  parts h := [.text (byte h 4).toNat, .countedMacros]
  object objectID h c :=
    { objectID, macros := c.macros
      data := .inputAttributes { validationString := c.text, validationType := byte h 3 &&& 1 } }

/-- Its parsing ends with no result, so that it is never accepted. -/
def ExtendedInputAttributes.record : Record where
  minimumObjectLength := 5
  headerLength := 5
  parts _ := []
  accepted _ _ := false
  object objectID h _ :=
    { objectID
      data := .extendedInputAttributes
        { validationType := byte h 3 &&& 1, numberOfCodePlanes := byte h 4 } }

def ColourMap.record : Record where
  minimumObjectLength := 5
  headerLength := 5
  valid h := uint16 h 3 = 2 || uint16 h 3 = 16 || uint16 h 3 = 256
  parts h := [.colours (uint16 h 3)]
  object objectID _ c := { objectID, data := .colourMap { colourMapData := c.colours } }

def ObjectPointer.record : Record where
  minimumObjectLength := 5
  headerLength := 5
  parts _ := []
  object objectID h _ := { objectID, data := .objectPointer { value := uint16 h 3 } }

def Macro.record : Record where
  minimumObjectLength := 5
  headerLength := 5
  parts h := [.commands (uint16 h 3)]
  object objectID _ c :=
    { objectID, data := .macroObject { commandPackets := c.commandPackets } }

def AuxiliaryFunctionType1.record : Record where
  minimumObjectLength := 6
  headerLength := 6
  valid h := byte h 4 ≤ 2
  parts h := [.auxiliaryChildren (byte h 5)]
  object objectID h c :=
    { objectID, backgroundColor := byte h 3, children := c.children
      data := .auxiliaryFunctionType1 { functionType := byte h 4 } }

def AuxiliaryInputType1.record : Record where
  minimumObjectLength := 7
  headerLength := 7
  valid h := byte h 4 ≤ 2 && byte h 5 ≤ 250
  parts h := [.auxiliaryChildren (byte h 6)]
  object objectID h c :=
    { objectID, backgroundColor := byte h 3, children := c.children
      data := .auxiliaryInputType1 { functionType := byte h 4, inputID := byte h 5 } }

def AuxiliaryFunctionType2.record : Record where
  minimumObjectLength := 6
  headerLength := 6
  valid h := byte h 4 &&& 0x1F < AuxiliaryFunctionType2.reservedRangeStart
  parts h := [.auxiliaryChildren (byte h 5)]
  object objectID h c :=
    { objectID, backgroundColor := byte h 3, children := c.children
      data := .auxiliaryFunctionType2
        { functionAttributesBitfield := (byte h 4 &&& 0x1F) ||| (byte h 4 &&& 0x20) |||
            (byte h 4 &&& 0x40) ||| (byte h 4 &&& 0x80) } }

/-- The restriction of the assignment is left at zero. -/
def AuxiliaryInputType2.record : Record where
  minimumObjectLength := 6
  headerLength := 6
  valid h := byte h 4 &&& 0x1F < AuxiliaryFunctionType2.reservedRangeStart
  parts h := [.auxiliaryChildren (byte h 5)]
  object objectID h c :=
    { objectID, backgroundColor := byte h 3, children := c.children
      data := .auxiliaryInputType2
        { functionAttributesBitfield := (byte h 4 &&& 0x1F) ||| (byte h 4 &&& 0x20) |||
            (byte h 4 &&& 0x80) } }

def AuxiliaryControlDesignatorType2.record : Record where
  minimumObjectLength := 6
  headerLength := 6
  valid h := byte h 3 ≤ 3
  parts _ := []
  object objectID h _ :=
    { objectID
      data := .auxiliaryControlDesignatorType2
        { auxiliaryObjectID := uint16 h 4, pointerType := byte h 3 } }

/-- The record of a type, of which some are not supported. -/
def VirtualTerminalObjectType.record : VirtualTerminalObjectType → Option Record
  | workingSet => some WorkingSet.record
  | dataMask => some DataMask.record
  | alarmMask => some AlarmMask.record
  | container => some Container.record
  | windowMask => some WindowMask.record
  | softKeyMask => some SoftKeyMask.record
  | key => some Key.record
  | button => some Button.record
  | keyGroup => some KeyGroup.record
  | inputBoolean => some InputBoolean.record
  | inputString => some InputString.record
  | inputNumber => some InputNumber.record
  | inputList => some InputList.record
  | outputString => some OutputString.record
  | outputNumber => some OutputNumber.record
  | outputList => some OutputList.record
  | outputLine => some OutputLine.record
  | outputRectangle => some OutputRectangle.record
  | outputEllipse => some OutputEllipse.record
  | outputPolygon => some OutputPolygon.record
  | outputMeter => some OutputMeter.record
  | outputLinearBarGraph => some OutputLinearBarGraph.record
  | outputArchedBarGraph => some OutputArchedBarGraph.record
  | pictureGraphic => some PictureGraphic.record
  | numberVariable => some NumberVariable.record
  | stringVariable => some StringVariable.record
  | fontAttributes => some FontAttributes.record
  | lineAttributes => some LineAttributes.record
  | fillAttributes => some FillAttributes.record
  | inputAttributes => some InputAttributes.record
  | extendedInputAttributes => some ExtendedInputAttributes.record
  | colourMap => some ColourMap.record
  | objectPointer => some ObjectPointer.record
  | macroObject => some Macro.record
  | auxiliaryFunctionType1 => some AuxiliaryFunctionType1.record
  | auxiliaryInputType1 => some AuxiliaryInputType1.record
  | auxiliaryFunctionType2 => some AuxiliaryFunctionType2.record
  | auxiliaryInputType2 => some AuxiliaryInputType2.record
  | auxiliaryControlDesignatorType2 => some AuxiliaryControlDesignatorType2.record
  | graphicsContext | objectLabelRefrenceList | externalObjectDefinition | externalReferenceNAME
  | externalObjectPointer | animation | graphicData | scaledGraphic => none

structure WorkingSetBase where
  vtObjectTree : ObjectTree := .empty
  workingSetID : UInt16 := NULL_OBJECT_ID
  faultingObjectID : UInt16 := NULL_OBJECT_ID

namespace WorkingSetBase

def getObjectById (ws : WorkingSetBase) (objectID : UInt16) : Option VTObject :=
  ws.vtObjectTree.get objectID

def addOrReplaceObject (ws : WorkingSetBase) (object : VTObject) : WorkingSetBase :=
  { ws with vtObjectTree := ws.vtObjectTree.set object.objectID (some object) }

def lookUpWorkingSet (ws : WorkingSetBase) : WorkingSetBase :=
  if ws.workingSetID = NULL_OBJECT_ID then ws
  else { ws with vtObjectTree := ws.vtObjectTree.touch ws.workingSetID }

def admitsWorkingSet (ws : WorkingSetBase) (decodedID : UInt16) : Bool :=
  ws.workingSetID = NULL_OBJECT_ID ||
    match ws.getObjectById ws.workingSetID with
    | some object => object.objectID = decodedID
    | none => false

def enter (ws : WorkingSetBase) (type : VirtualTerminalObjectType) (decodedID : UInt16) :
    WorkingSetBase :=
  if type = .workingSet then
    if ws.admitsWorkingSet decodedID then
      { ws.lookUpWorkingSet with workingSetID := decodedID }
    else ws.lookUpWorkingSet
  else ws

end WorkingSetBase

/-- What the parsing of an object or a pool comes to. -/
inductive Parsing
  | accepted (ws : WorkingSetBase) (rest : List UInt8)
  | refused (ws : WorkingSetBase)
  | outside

namespace WorkingSetBase

def objectReader (ws : WorkingSetBase) (type : VirtualTerminalObjectType) (decodedID : UInt16) :
    Reader VTObject :=
  match type.record with
  | none => fun _ => .refused
  | some record => do
      demand (type = .workingSet → ws.admitsWorkingSet decodedID = true)
      record.read decodedID

def parseNextObject (ws : WorkingSetBase) (bytes : List UInt8) : Parsing :=
  if bytes.length > 3 then
    let decodedID := uint16 bytes 0
    match VirtualTerminalObjectType.ofByte (byte bytes 2) with
    | none => .refused { ws with faultingObjectID := decodedID }
    | some type =>
      let entered := ws.enter type decodedID
      match ws.objectReader type decodedID bytes with
      | .done object rest => .accepted (entered.addOrReplaceObject object) rest
      | .refused => .refused { entered with faultingObjectID := decodedID }
      | .outside => .outside
  else .refused ws

end WorkingSetBase

variable {record : Record}

theorem Record.read_done {decodedID : UInt16} {bytes rest : List UInt8} {object : VTObject}
    (h : record.read decodedID bytes = .done object rest) :
    ∃ header middle contents,
      record.minimumObjectLength ≤ bytes.length ∧ header.length = record.headerLength ∧
      bytes = header ++ middle ∧ record.valid header = true ∧
      readParts {} (record.parts header) middle = .done contents rest ∧
      record.accepted header contents = true ∧
      object = record.object decodedID header contents := by
  obtain ⟨_, _, hatLeast, h₁⟩ := bind_eq_done.mp h
  obtain ⟨hminimum, rfl⟩ := atLeast_eq_done.mp hatLeast
  obtain ⟨header, middle, hheader, h₂⟩ := bind_eq_done.mp h₁
  obtain ⟨hlength, hbytes⟩ := take_eq_done.mp hheader
  obtain ⟨_, _, hdemand, h₃⟩ := bind_eq_done.mp h₂
  obtain ⟨hvalid, rfl⟩ := demand_eq_done.mp hdemand
  obtain ⟨contents, _, hparts, h₄⟩ := bind_eq_done.mp h₃
  obtain ⟨_, _, hdemand', h₅⟩ := bind_eq_done.mp h₄
  obtain ⟨haccepted, rfl⟩ := demand_eq_done.mp hdemand'
  obtain ⟨rfl, rfl⟩ := Reading.done.inj h₅
  exact ⟨header, _, contents, hminimum, hlength, hbytes, hvalid, hparts, haccepted, rfl⟩

theorem VirtualTerminalObjectType.headerLength_pos {type : VirtualTerminalObjectType}
    (h : type.record = some record) : 4 < record.headerLength := by
  cases type <;> cases h <;> decide

theorem Record.read_shorter {decodedID : UInt16} {bytes rest : List UInt8} {object : VTObject}
    (hpos : 0 < record.headerLength) (h : record.read decodedID bytes = .done object rest) :
        rest.length < bytes.length := by
  obtain ⟨header, middle, contents, -, hlength, rfl, -, hparts, -⟩ := Record.read_done h
  obtain ⟨taken, rfl⟩ := consumes_readParts _ _ hparts
  simp only [List.length_append]
  omega

namespace WorkingSetBase

variable {ws ws' : WorkingSetBase} {bytes rest : List UInt8}

theorem objectReader_done {type : VirtualTerminalObjectType} {decodedID : UInt16}
    {object : VTObject} (h : ws.objectReader type decodedID bytes = .done object rest) :
    ∃ record, type.record = some record ∧
      (type = .workingSet → ws.admitsWorkingSet decodedID = true) ∧
      record.read decodedID bytes = .done object rest := by
  cases hrecord : type.record with
  | none =>
    rw [objectReader, hrecord] at h
    cases h
  | some record =>
    rw [objectReader, hrecord] at h
    obtain ⟨_, _, hdemand, h₁⟩ := bind_eq_done.mp h
    obtain ⟨hadmits, rfl⟩ := demand_eq_done.mp hdemand
    exact ⟨record, rfl, hadmits, h₁⟩

theorem parseNextObject_accepted (h : ws.parseNextObject bytes = .accepted ws' rest) :
    3 < bytes.length ∧ ∃ type object,
      VirtualTerminalObjectType.ofByte (byte bytes 2) = some type ∧
      ws.objectReader type (uint16 bytes 0) bytes = .done object rest ∧
      ws' = (ws.enter type (uint16 bytes 0)).addOrReplaceObject object := by
  unfold parseNextObject at h
  split_ifs at h with hlength
  dsimp only at h
  split at h
  · cases h
  · next type htype =>
    split at h
    · next object rest' hread =>
      obtain ⟨rfl, rfl⟩ := Parsing.accepted.inj h
      exact ⟨hlength, type, object, htype, hread, rfl⟩
    · cases h
    · cases h

theorem parseNextObject_shorter (h : ws.parseNextObject bytes = .accepted ws' rest) :
    rest.length < bytes.length := by
  obtain ⟨-, type, object, -, hread, -⟩ := parseNextObject_accepted h
  obtain ⟨record, hrecord, -, hread⟩ := objectReader_done hread
  exact Record.read_shorter (by
    have := VirtualTerminalObjectType.headerLength_pos hrecord
    omega) hread

def parseObjects (ws : WorkingSetBase) (bytes : List UInt8) : Parsing :=
  if bytes = [] then .accepted ws []
  else
    match _h : ws.parseNextObject bytes with
    | .accepted ws rest => parseObjects ws rest
    | .refused ws => .refused ws
    | .outside => .outside
termination_by bytes.length
decreasing_by exact parseNextObject_shorter _h

def parseIopIntoObjects (ws : WorkingSetBase) (iopData : List UInt8) : Parsing :=
  if iopData = [] then .refused ws else ws.parseObjects iopData

theorem parseObjects_nil : ws.parseObjects [] = .accepted ws [] := by
  rw [parseObjects, if_pos rfl]

theorem parseObjects_of_accepted (hne : bytes ≠ [])
    (h : ws.parseNextObject bytes = .accepted ws' rest) :
    ws.parseObjects bytes = ws'.parseObjects rest := by
  rw [parseObjects, if_neg hne]
  split
  · next h' => rw [h] at h'; obtain ⟨rfl, rfl⟩ := Parsing.accepted.inj h'; rfl
  · next h' => rw [h] at h'; cases h'
  · next h' => rw [h] at h'; cases h'

theorem parseObjects_of_refused (hne : bytes ≠ []) (h : ws.parseNextObject bytes = .refused ws') :
    ws.parseObjects bytes = .refused ws' := by
  rw [parseObjects, if_neg hne]
  split
  · next h' => rw [h] at h'; cases h'
  · next h' => rw [h] at h'; rw [Parsing.refused.inj h']
  · next h' => rw [h] at h'; cases h'

theorem parseObjects_of_outside (hne : bytes ≠ []) (h : ws.parseNextObject bytes = .outside) :
    ws.parseObjects bytes = .outside := by
  rw [parseObjects, if_neg hne]
  split
  · next h' => rw [h] at h'; cases h'
  · next h' => rw [h] at h'; cases h'
  · rfl

end WorkingSetBase

end Isobus.VirtualTerminal
