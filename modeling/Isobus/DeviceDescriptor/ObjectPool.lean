import Isobus.DeviceDescriptor.Objects

/-!
# The device descriptor object pool

`isobus_device_descriptor_object_pool.cpp`: how a pool is built, written to its binary form and read
back.
-/

namespace Isobus.DeviceDescriptor

open Isobus.Lib

def MAX_TC_VERSION_SUPPORTED : UInt8 := 4

structure DeviceDescriptorObjectPool where
  objectList : List Object := []
  taskControllerCompatibilityLevel : UInt8
  taskControllerCompatibilityLevel_le : taskControllerCompatibilityLevel ≤ MAX_TC_VERSION_SUPPORTED

namespace DeviceDescriptorObjectPool

variable (pool : DeviceDescriptorObjectPool)

def limitDesignator (designator : List UInt8) : List UInt8 :=
  if pool.taskControllerCompatibilityLevel < MAX_TC_VERSION_SUPPORTED ∧
      designator.length > MAX_DESIGNATOR_LEGACY_LENGTH then
    designator.take MAX_DESIGNATOR_LEGACY_LENGTH
  else if pool.taskControllerCompatibilityLevel = MAX_TC_VERSION_SUPPORTED ∧
      designator.length > MAX_DESIGNATOR_LENGTH then
    designator.take MAX_DESIGNATOR_LENGTH
  else designator

def checkObjectIdUnique (uniqueID : UInt16) : Bool :=
  uniqueID ≠ 0 ∧ uniqueID ≠ NULL_OBJECT_ID ∧
    ∀ currentObject ∈ pool.objectList, uniqueID ≠ currentObject.getObjectId

def append (object : Object) : DeviceDescriptorObjectPool :=
  { pool with objectList := pool.objectList ++ [object] }

/-- Each of these gives the larger pool, or none if the object cannot be added. -/
def addDevice (deviceDesignator deviceSoftwareVersion deviceSerialNumber
    deviceStructureLabel : List UInt8) (deviceLocalizationLabel : LocalizationLabel)
    (deviceExtendedStructureLabel : List UInt8) (clientIsoNAME : NAME) :
    Option DeviceDescriptorObjectPool :=
  if ∃ currentObject ∈ pool.objectList, currentObject.getObjectType = .device then none
  else some (pool.append (.device
    { designator := pool.limitDesignator deviceDesignator
      softwareVersion := deviceSoftwareVersion
      serialNumber := pool.limitDesignator deviceSerialNumber
      structureLabel := deviceStructureLabel.take MAX_STRUCTURE_AND_LOCALIZATION_LABEL_LENGTH
      localizationLabel := deviceLocalizationLabel
      extendedStructureLabel :=
        deviceExtendedStructureLabel.take MAX_EXTENDED_STRUCTURE_LABEL_LENGTH
      isoName := clientIsoNAME
      useExtendedStructureLabel := pool.taskControllerCompatibilityLevel ≥ 4 }))

def addDeviceElement (deviceElementDesignator : List UInt8)
    (deviceElementNumber parentObjectID : UInt16) (deviceElementType : DeviceElementType)
    (uniqueID : UInt16) : Option DeviceDescriptorObjectPool :=
  if pool.checkObjectIdUnique uniqueID then
    some (pool.append (.deviceElement
      { designator := pool.limitDesignator deviceElementDesignator
        objectID := uniqueID
        elementNumber := deviceElementNumber
        parentObject := parentObjectID
        elementType := deviceElementType }))
  else none

def addDeviceProcessData (processDataDesignator : List UInt8)
    (processDataDDI deviceValuePresentationObjectID : UInt16)
    (processDataProperties processDataTriggerMethods : UInt8) (uniqueID : UInt16) :
    Option DeviceDescriptorObjectPool :=
  if pool.checkObjectIdUnique uniqueID then
    some (pool.append (.deviceProcessData
      { designator := pool.limitDesignator processDataDesignator
        objectID := uniqueID
        ddi := processDataDDI
        deviceValuePresentationObject := deviceValuePresentationObjectID
        propertiesBitfield := processDataProperties
        triggerMethodsBitfield := processDataTriggerMethods }))
  else none

def addDeviceProperty (propertyDesignator : List UInt8) (propertyValue : Int32)
    (propertyDDI valuePresentationObject uniqueID : UInt16) : Option DeviceDescriptorObjectPool :=
  if pool.checkObjectIdUnique uniqueID then
    some (pool.append (.deviceProperty
      { designator := pool.limitDesignator propertyDesignator
        objectID := uniqueID
        value := propertyValue
        ddi := propertyDDI
        deviceValuePresentationObject := valuePresentationObject }))
  else none

def addDeviceValuePresentation (unitDesignator : List UInt8) (offsetValue : Int32)
    (scaleFactor : UInt32) (numberDecimals : UInt8) (uniqueID : UInt16) :
    Option DeviceDescriptorObjectPool :=
  if pool.checkObjectIdUnique uniqueID then
    some (pool.append (.deviceValuePresentation
      { designator := pool.limitDesignator unitDesignator
        objectID := uniqueID
        offset := offsetValue
        scale := scaleFactor
        numberOfDecimals := numberDecimals }))
  else none

def getObjectById (objectID : UInt16) : Option Object :=
  pool.objectList.find? fun currentObject => currentObject.getObjectId = objectID

def referToChild (objectID childID : UInt16) (currentObject : Object) : Option Object :=
  if currentObject.getObjectId = objectID then
    match currentObject with
    | .deviceElement object =>
      some (.deviceElement { object with referenceList := object.referenceList ++ [childID] })
    | other => some other
  else none

def addReferenceToChildObject (objectID childID : UInt16) : DeviceDescriptorObjectPool :=
  { pool with objectList := pool.objectList.replaceF (referToChild objectID childID) }

def removeObjectsWithType (objectType : ObjectTypes) : DeviceDescriptorObjectPool :=
  { pool with
    objectList := pool.objectList.filter fun object => object.getObjectType ≠ objectType }

def removeObjectWithId (objectID : UInt16) : DeviceDescriptorObjectPool :=
  { pool with objectList := pool.objectList.filter fun object => object.getObjectId ≠ objectID }

def setTaskControllerCompatibilityLevel (tcVersion : UInt8)
    (hversion : tcVersion ≤ MAX_TC_VERSION_SUPPORTED) : DeviceDescriptorObjectPool where
  objectList := pool.objectList.replaceF fun object =>
    if object.getObjectId = 0 then
      match object with
      | .device deviceObject =>
        some (.device { deviceObject with useExtendedStructureLabel := tcVersion ≥ 4 })
      | other => some other
    else none
  taskControllerCompatibilityLevel := tcVersion
  taskControllerCompatibilityLevel_le := hversion

def resolvesPresentation (objectID : UInt16) : Bool :=
  objectID = NULL_OBJECT_ID ||
    (pool.getObjectById objectID).any fun child => child.getObjectType = .deviceValuePresentation

def resolvesObject : Object → Bool
  | .deviceElement object =>
    (object.parentObject ≠ NULL_OBJECT_ID &&
      (pool.getObjectById object.parentObject).any fun parent =>
        parent.getObjectType = .deviceElement || parent.getObjectType = .device) &&
    (object.referenceList.take (UInt16.ofNat object.referenceList.length).toNat).all
        fun childID =>
      (pool.getObjectById childID).any fun child =>
        child.getObjectType = .deviceProcessData || child.getObjectType = .deviceProperty
  | .deviceProcessData object => pool.resolvesPresentation object.deviceValuePresentationObject
  | .deviceProperty object => pool.resolvesPresentation object.deviceValuePresentationObject
  | .device _ | .deviceValuePresentation _ => true

def resolveParentIdsToObjects : Bool := pool.objectList.all pool.resolvesObject

def generateBinaryObjectPool : Option (List UInt8) :=
  if pool.resolveParentIdsToObjects then
    pool.objectList.foldlM (fun resultantPool currentObject =>
      if currentObject.getBinaryObject ≠ [] then
        some (resultantPool ++ currentObject.getBinaryObject)
      else none) []
  else none

end DeviceDescriptorObjectPool

/-- A pool that is being read: what is left of the bytes, the NAME that the device must
have, and the objects so far. -/
structure Deserializer where
  binaryPool : List UInt8
  clientNAME : NAME
  pool : DeviceDescriptorObjectPool

/-- What the reading of one object leads to: how many bytes it took, and whether to go on. -/
structure ObjectRead where
  expectedSize : Nat
  retVal : Bool
  clientNAME : NAME
  pool : DeviceDescriptorObjectPool

/-- A byte for a length, accepted up to a limit if there are as many bytes as needed; else the
length is 0 and the object is invalid. -/
def lengthByte (binaryPool : List UInt8) (needed index : Nat) (accepted : UInt8 → Bool) :
    Option (Nat × Bool) :=
  if needed ≤ binaryPool.length then do
    let length ← binaryPool[index]?
    return if accepted length then (length.toNat, true) else (0, false)
  else return (0, false)

def uint16At (binaryPool : List UInt8) (index : Nat) : Option UInt16 := do
  return decode16 (← binaryPool[index]?) (← binaryPool[index + 1]?)

def uint32At (binaryPool : List UInt8) (index : Nat) : Option UInt32 := do
  return decode32 (← binaryPool[index]?) (← binaryPool[index + 1]?) (← binaryPool[index + 2]?)
    (← binaryPool[index + 3]?)

def nameOfBytes (bytes : List UInt8) : NAME :=
  (List.range 8).foldl (fun name i => name ||| (bytes.getD i 0).toUInt64 <<< UInt64.ofNat (8 * i)) 0

def readLabel (binaryPool : List UInt8) (start : Nat) : Option LocalizationLabel := do
  let label ← readBytes binaryPool start MAX_STRUCTURE_AND_LOCALIZATION_LABEL_LENGTH
  if h : label.length = MAX_STRUCTURE_AND_LOCALIZATION_LABEL_LENGTH then return ⟨label, h⟩
  else none

namespace Deserializer

variable (state : Deserializer)

def refuse : ObjectRead := ⟨0, false, state.clientNAME, state.pool⟩

def conclude (expectedSize : Nat) (cleared : DeviceDescriptorObjectPool) :
    Option DeviceDescriptorObjectPool → ObjectRead
  | some pool => ⟨expectedSize, true, state.clientNAME, pool⟩
  | none => ⟨0, false, state.clientNAME, cleared⟩

/-- The length of the extended structure label, for which there is a byte from version 4 on. -/
def extendedLabelByte (index : Nat) : Option (Nat × Bool) :=
  if state.pool.taskControllerCompatibilityLevel ≥ 4 then
    lengthByte state.binaryPool (index + 1) index (· ≤ 32)
  else some (0, true)

/-- The fields of a device whose four texts have these lengths. -/
def readDeviceFields (n m o e expectedSize : Nat) : Option ObjectRead := do
  let bytes := state.binaryPool
  let deviceDesignator ← readBytes bytes 6 n
  let deviceSoftwareVersion ← readBytes bytes (7 + n) m
  let ddopClientNAME := nameOfBytes (← readBytes bytes (7 + n + m) 8)
  let deviceSerialNumber ← readBytes bytes (16 + n + m) o
  let deviceStructureLabel ← readBytes bytes (16 + o + n + m) 7
  let localizationLabel ← readLabel bytes (23 + o + n + m)
  let extendedStructureLabel ← readBytes bytes (31 + o + n + m) e
  -- A NAME that was not known is taken over, a different one makes the reading fail.
  let matched : Bool := state.clientNAME = 0 || ddopClientNAME = state.clientNAME
  let clientNAME := if state.clientNAME = 0 then ddopClientNAME else state.clientNAME
  let cleared := state.pool.removeObjectsWithType .device
  match cleared.addDevice deviceDesignator deviceSoftwareVersion deviceSerialNumber
      deviceStructureLabel localizationLabel extendedStructureLabel clientNAME with
  | some pool => return ⟨expectedSize, matched, clientNAME, pool⟩
  | none => return ⟨0, false, clientNAME, cleared⟩

def readDevice : Option ObjectRead := do
  let bytes := state.binaryPool
  let (n, validDesignator) ← lengthByte bytes 6 5 (· < 128)
  let (m, validSoftwareVersion) ← lengthByte bytes (7 + n) (6 + n) (· < 128)
  let (o, validSerialNumber) ← lengthByte bytes (16 + n + m) (15 + n + m) (· < 128)
  let (e, validExtendedLabel) ← state.extendedLabelByte (30 + o + n + m)
  let expectedSize := if state.pool.taskControllerCompatibilityLevel < 4 then 31 + o + n + m + e - 1
    else 31 + o + n + m + e
  if expectedSize ≤ bytes.length ∧
      (validDesignator && validSoftwareVersion && validSerialNumber && validExtendedLabel) then
    state.readDeviceFields n m o e expectedSize
  else return state.refuse

def readDeviceElement : Option ObjectRead := do
  let bytes := state.binaryPool
  let (n, validDesignator) ← lengthByte bytes 7 6 fun _ => true
  let (numberOfObjectIDs, validReferences) ← lengthByte bytes (12 + n) (11 + n) fun _ => true
  -- The element type is looked at however short the pool is.
  let elementType ← bytes[5]?
  let expectedSize := 13 + 2 * numberOfObjectIDs + n
  if expectedSize ≤ bytes.length ∧ (validDesignator && validReferences &&
      elementType ≤ DeviceElementType.navigationReference.toByte) then
    let parentObject ← uint16At bytes (9 + n)
    let uniqueID ← uint16At bytes 3
    let elementNumber ← uint16At bytes (7 + n)
    let deviceElementDesignator ← readBytes bytes 7 n
    let childIDs ← (List.range numberOfObjectIDs).mapM fun i => uint16At bytes (13 + 2 * i + n)
    let cleared := state.pool.removeObjectWithId uniqueID
    return state.conclude expectedSize cleared ((cleared.addDeviceElement deviceElementDesignator
      elementNumber parentObject (.ofByte elementType) uniqueID).map fun pool =>
        childIDs.foldl (fun pool childID => pool.addReferenceToChildObject uniqueID childID) pool)
  else return state.refuse

/-- An object whose only text is its designator, of the given length; the rest is added to the pool
under the ID. -/
def readNamed (index size : Nat)
    (fields : Nat → Option (UInt16 × (DeviceDescriptorObjectPool →
      Option DeviceDescriptorObjectPool))) : Option ObjectRead := do
  let (n, validDesignator) ← lengthByte state.binaryPool (index + 1) index (· < 128)
  let expectedSize := size + n
  if expectedSize ≤ state.binaryPool.length ∧ validDesignator then
    let (uniqueID, add) ← fields n
    let cleared := state.pool.removeObjectWithId uniqueID
    return state.conclude expectedSize cleared (add cleared)
  else return state.refuse

def readDeviceProcessData : Option ObjectRead :=
  state.readNamed 9 12 fun n => do
    let bytes := state.binaryPool
    let ddi ← uint16At bytes 5
    let uniqueID ← uint16At bytes 3
    let presentationObjectID ← uint16At bytes (10 + n)
    let processDataDesignator ← readBytes bytes 10 n
    let properties ← bytes[7]?
    let triggerMethods ← bytes[8]?
    return (uniqueID, fun pool => pool.addDeviceProcessData processDataDesignator ddi
      presentationObjectID properties triggerMethods uniqueID)

def readDeviceProperty : Option ObjectRead :=
  state.readNamed 11 14 fun n => do
    let bytes := state.binaryPool
    let propertyValue ← uint32At bytes 7
    let ddi ← uint16At bytes 5
    let uniqueID ← uint16At bytes 3
    let presentationObjectID ← uint16At bytes (12 + n)
    let designator ← readBytes bytes 12 n
    return (uniqueID, fun pool => pool.addDeviceProperty designator propertyValue.toInt32 ddi
      presentationObjectID uniqueID)

def readDeviceValuePresentation : Option ObjectRead :=
  state.readNamed 14 15 fun n => do
    let bytes := state.binaryPool
    let offset ← uint32At bytes 5
    let scale ← uint32At bytes 9
    let uniqueID ← uint16At bytes 3
    let designator ← readBytes bytes 15 n
    let numberOfDecimals ← bytes[13]?
    return (uniqueID, fun pool => pool.addDeviceValuePresentation designator offset.toInt32 scale
      numberOfDecimals uniqueID)

def readAs : ObjectTypes → Option ObjectRead
  | .device => state.readDevice
  | .deviceElement => state.readDeviceElement
  | .deviceProcessData => state.readDeviceProcessData
  | .deviceProperty => state.readDeviceProperty
  | .deviceValuePresentation => state.readDeviceValuePresentation

def readObject : Option ObjectRead :=
  if state.binaryPool.length > 3 then do
    let xmlNameSpace ← readBytes state.binaryPool 0 3
    if xmlNameSpace = ObjectTypes.device.tableID then state.readAs .device
    else if xmlNameSpace = ObjectTypes.deviceElement.tableID then state.readAs .deviceElement
    else if xmlNameSpace = ObjectTypes.deviceProcessData.tableID then
      state.readAs .deviceProcessData
    else if xmlNameSpace = ObjectTypes.deviceProperty.tableID then state.readAs .deviceProperty
    else if xmlNameSpace = ObjectTypes.deviceValuePresentation.tableID then
      state.readAs .deviceValuePresentation
    else return state.refuse
  else return state.refuse

variable {index size : Nat}

theorem lengthByte_eq {bytes : List UInt8} {needed n : Nat} {accepted : UInt8 → Bool}
    (h : lengthByte bytes needed index accepted = some (n, true)) :
    needed ≤ bytes.length ∧
      ∃ b, bytes[index]? = some b ∧ accepted b = true ∧ n = b.toNat := by
  unfold lengthByte at h
  split_ifs at h with hneeded
  · obtain ⟨b, hb, h⟩ := Option.bind_eq_some_iff.mp h
    by_cases haccepted : accepted b = true
    · rw [if_pos haccepted] at h
      exact ⟨hneeded, b, hb, haccepted, (congrArg Prod.fst (Option.some.inj h)).symm⟩
    · rw [if_neg haccepted] at h
      exact absurd (congrArg Prod.snd (Option.some.inj h)) (by simp)
  · exact absurd (congrArg Prod.snd (Option.some.inj h)) (by simp)

theorem conclude_expectedSize {cleared : DeviceDescriptorObjectPool}
    {added : Option DeviceDescriptorObjectPool}
    (h : (state.conclude size cleared added).retVal = true) :
    (state.conclude size cleared added).expectedSize = size := by
  cases added with
  | none => exact absurd h (by simp [conclude])
  | some pool => rfl

variable {state} {r : ObjectRead}

theorem readDeviceFields_expectedSize {n m o e : Nat}
    (h : state.readDeviceFields n m o e size = some r) (haccepted : r.retVal = true) :
    r.expectedSize = size := by
  obtain ⟨_, -, h⟩ := Option.bind_eq_some_iff.mp h
  obtain ⟨_, -, h⟩ := Option.bind_eq_some_iff.mp h
  obtain ⟨_, -, h⟩ := Option.bind_eq_some_iff.mp h
  obtain ⟨_, -, h⟩ := Option.bind_eq_some_iff.mp h
  obtain ⟨_, -, h⟩ := Option.bind_eq_some_iff.mp h
  obtain ⟨_, -, h⟩ := Option.bind_eq_some_iff.mp h
  obtain ⟨_, -, h⟩ := Option.bind_eq_some_iff.mp h
  dsimp only at h
  split at h
  · rw [← Option.some.inj h]
  · rw [← Option.some.inj h] at haccepted
    exact absurd haccepted Bool.false_ne_true

theorem extendedLabelByte_eq {e : Nat} (h : state.extendedLabelByte index = some (e, true)) :
    recordEnd state.binaryPool (if state.pool.taskControllerCompatibilityLevel ≥ 4 then
        [.counted 1 1] else []) index =
      some (if state.pool.taskControllerCompatibilityLevel < 4 then index + 1 + e - 1
        else index + 1 + e) := by
  unfold extendedLabelByte at h
  by_cases hlevel : state.pool.taskControllerCompatibilityLevel ≥ 4
  · rw [if_pos hlevel] at h
    obtain ⟨-, b, hb, -, he⟩ := lengthByte_eq h
    rw [if_pos hlevel, if_neg (UInt8.not_lt.mpr hlevel), recordEnd_counted (readCount_one hb),
      recordEnd, he, Nat.one_mul]
  · rw [if_neg hlevel] at h
    obtain rfl : 0 = e := congrArg Prod.fst (Option.some.inj h)
    rw [if_neg hlevel, if_pos (UInt8.not_le.mp hlevel)]
    rfl

theorem readDevice_accepted (h : state.readDevice = some r) (haccepted : r.retVal = true) :
    recordEnd state.binaryPool (ObjectTypes.device.layout
      (state.pool.taskControllerCompatibilityLevel ≥ 4)) 0 = some r.expectedSize ∧
    r.expectedSize ≤ state.binaryPool.length := by
  simp only [readDevice, Option.bind_eq_bind, Option.bind_eq_some_iff] at h
  obtain ⟨⟨n, validDesignator⟩, hn, ⟨m, validSoftwareVersion⟩, hm, ⟨o, validSerialNumber⟩, ho,
    ⟨e, validExtendedLabel⟩, he, h₄⟩ := h
  obtain ⟨size, hsize⟩ : ∃ size, (if state.pool.taskControllerCompatibilityLevel < 4 then
    31 + o + n + m + e - 1 else 31 + o + n + m + e) = size := ⟨_, rfl⟩
  rw [hsize] at h₄
  split_ifs at h₄ with hvalid
  · obtain ⟨hfits, hvalid⟩ := hvalid
    simp only [Bool.and_eq_true] at hvalid
    obtain ⟨⟨⟨rfl, rfl⟩, rfl⟩, rfl⟩ := hvalid
    obtain ⟨-, a, hdesignator, -, ha⟩ := lengthByte_eq hn
    obtain ⟨-, b, hversion, -, hb⟩ := lengthByte_eq hm
    obtain ⟨-, c, hserial, -, hc⟩ := lengthByte_eq ho
    rw [readDeviceFields_expectedSize h₄ haccepted]
    refine ⟨?_, hfits⟩
    rw [ObjectTypes.layout]
    simp only [List.cons_append, List.nil_append, decide_eq_true_eq]
    rw [recordEnd_fixed 5 rfl, recordEnd_text (6 + n) hdesignator (by omega),
      recordEnd_text (7 + n + m) hversion (by omega), recordEnd_fixed (15 + n + m) (by omega),
      recordEnd_text (16 + n + m + o) hserial (by omega),
      recordEnd_fixed (30 + o + n + m) (by omega), extendedLabelByte_eq he, ← hsize]
    simp only [show 30 + o + n + m + 1 = 31 + o + n + m by omega]
  · cases h₄
    cases haccepted

/-- Of the number of children only the low byte counts. -/
structure AcceptsElement (bytes : List UInt8) (n count : UInt8) : Prop where
  elementType : ∃ type, bytes[5]? = some type ∧ type ≤ DeviceElementType.navigationReference.toByte
  designator : bytes[6]? = some n
  references : bytes[11 + n.toNat]? = some count
  fits : 13 + 2 * count.toNat + n.toNat ≤ bytes.length
  uniqueID : ∃ id, uint16At bytes 3 = some id ∧ id ≠ 0 ∧ id ≠ NULL_OBJECT_ID

theorem readDeviceElement_accepted (h : state.readDeviceElement = some r)
    (haccepted : r.retVal = true) :
    ∃ n count : UInt8, AcceptsElement state.binaryPool n count ∧
      r.expectedSize = 13 + 2 * count.toNat + n.toNat := by
  simp only [readDeviceElement, Option.bind_eq_bind, Option.bind_eq_some_iff] at h
  obtain ⟨⟨n, validDesignator⟩, hn, ⟨count, validReferences⟩, hcount, elementType, htype, h₃⟩ := h
  split_ifs at h₃ with hvalid
  · obtain ⟨hfits, hvalid⟩ := hvalid
    simp only [Bool.and_eq_true, decide_eq_true_eq] at hvalid
    obtain ⟨⟨rfl, rfl⟩, hknown⟩ := hvalid
    obtain ⟨-, a, hdesignator, -, ha⟩ := lengthByte_eq hn
    obtain ⟨-, b, hreferences, -, hb⟩ := lengthByte_eq hcount
    simp only [Option.bind_eq_bind, Option.bind_eq_some_iff] at h₃
    obtain ⟨_, -, id, hid, _, -, _, -, _, -, h₈⟩ := h₃
    rw [← Option.some.inj h₈] at haccepted ⊢
    rw [conclude_expectedSize state haccepted, ha, hb]
    rw [ha] at hreferences hfits
    rw [hb] at hfits
    refine ⟨a, b, ⟨⟨elementType, htype, hknown⟩, hdesignator, hreferences, hfits, id, hid, ?_⟩, rfl⟩
    by_contra hid
    have hunique : (state.pool.removeObjectWithId id).checkObjectIdUnique id = false := by
      rw [DeviceDescriptorObjectPool.checkObjectIdUnique, decide_eq_false_iff_not]
      exact fun h => hid ⟨h.1, h.2.1⟩
    rw [DeviceDescriptorObjectPool.addDeviceElement, hunique] at haccepted
    cases haccepted
  · cases h₃
    cases haccepted

theorem readNamed_accepted
    {fields : Nat → Option (UInt16 × (DeviceDescriptorObjectPool →
      Option DeviceDescriptorObjectPool))} (h : state.readNamed index size fields = some r)
    (haccepted : r.retVal = true) :
    ∃ n, recordEnd state.binaryPool [.fixed index, .counted 1 1] 0 = some (index + 1 + n) ∧
      r.expectedSize = size + n ∧ r.expectedSize ≤ state.binaryPool.length := by
  obtain ⟨⟨n, validDesignator⟩, hn, h₁⟩ := Option.bind_eq_some_iff.mp h
  dsimp only at hn h₁
  split_ifs at h₁ with hvalid
  · obtain ⟨hfits, rfl⟩ := hvalid
    obtain ⟨-, a, hdesignator, -, ha⟩ := lengthByte_eq hn
    obtain ⟨_, -, h₂⟩ := Option.bind_eq_some_iff.mp h₁
    rw [← Option.some.inj h₂] at haccepted ⊢
    rw [conclude_expectedSize state haccepted]
    refine ⟨n, ?_, rfl, hfits⟩
    rw [recordEnd_fixed index (by omega), recordEnd_text (index + 1 + n) hdesignator (by omega),
      recordEnd]
  · cases h₁
    cases haccepted

theorem readObject_eq (hlength : state.binaryPool.length > 3) (type : ObjectTypes)
    (htype : type.tableID = state.binaryPool.take 3) :
    state.readObject = state.readAs type := by
  rw [readObject, if_pos hlength, readBytes_eq_some (by omega), List.drop_zero, ← htype]
  cases type <;> rfl

theorem readObject_refused (hunknown : state.binaryPool.length > 3 →
    ∀ type : ObjectTypes, type.tableID ≠ state.binaryPool.take 3) :
    state.readObject = some state.refuse := by
  by_cases hlength : state.binaryPool.length > 3
  · rw [readObject, if_pos hlength, readBytes_eq_some (by omega), List.drop_zero]
    have hne (type : ObjectTypes) := (hunknown hlength type).symm
    change (if _ then _ else _) = _
    rw [if_neg (hne _), if_neg (hne _), if_neg (hne _), if_neg (hne _), if_neg (hne _)]
    rfl
  · rw [readObject, if_neg hlength]
    rfl

theorem readObject_accepted (h : state.readObject = some r) (haccepted : r.retVal = true) :
    state.binaryPool.length > 3 ∧
      ∃ type : ObjectTypes, type.tableID = state.binaryPool.take 3 ∧ state.readAs type =
          some r := by
  by_contra hnone
  have hrefused : state.readObject = some state.refuse := by
    refine readObject_refused fun hlength type htype => hnone ⟨hlength, type, htype, ?_⟩
    rw [← readObject_eq hlength type htype, h]
  rw [h] at hrefused
  rw [Option.some.inj hrefused] at haccepted
  cases haccepted

theorem readAs_accepted {type : ObjectTypes} (hne : type ≠ .deviceElement)
    (h : state.readAs type = some r) (haccepted : r.retVal = true) :
    recordEnd state.binaryPool (type.layout
      (state.pool.taskControllerCompatibilityLevel ≥ 4)) 0 = some r.expectedSize ∧
    r.expectedSize ≤ state.binaryPool.length := by
  cases type with
  | device => exact readDevice_accepted h haccepted
  | deviceElement => exact absurd rfl hne
  | deviceProcessData =>
    rw [readAs, readDeviceProcessData] at h
    obtain ⟨n, hend, hsize, hfits⟩ := readNamed_accepted h haccepted
    refine ⟨?_, hfits⟩
    change recordEnd _ ([.fixed 9, .counted 1 1] ++ [.fixed 2]) 0 = _
    rw [recordEnd_append, hend, hsize]
    exact congrArg some (by omega)
  | deviceProperty =>
    rw [readAs, readDeviceProperty] at h
    obtain ⟨n, hend, hsize, hfits⟩ := readNamed_accepted h haccepted
    refine ⟨?_, hfits⟩
    change recordEnd _ ([.fixed 11, .counted 1 1] ++ [.fixed 2]) 0 = _
    rw [recordEnd_append, hend, hsize]
    exact congrArg some (by omega)
  | deviceValuePresentation =>
    rw [readAs, readDeviceValuePresentation] at h
    obtain ⟨n, hend, hsize, hfits⟩ := readNamed_accepted h haccepted
    exact ⟨hend.trans (congrArg some hsize.symm), hfits⟩

theorem expectedSize_range (h : state.readObject = some r) (haccepted : r.retVal = true) :
    0 < r.expectedSize ∧ r.expectedSize ≤ state.binaryPool.length := by
  obtain ⟨-, type, -, h⟩ := readObject_accepted h haccepted
  by_cases helement : type = .deviceElement
  · rw [helement] at h
    obtain ⟨n, count, haccepts, hsize⟩ := readDeviceElement_accepted h haccepted
    have hfits := haccepts.fits
    exact ⟨by omega, by omega⟩
  · obtain ⟨hend, hfits⟩ := readAs_accepted helement h haccepted
    refine ⟨?_, hfits⟩
    cases type with
    | deviceElement => exact absurd rfl helement
    | device | deviceProcessData | deviceProperty | deviceValuePresentation =>
      have hle := le_of_recordEnd ((recordEnd_fixed _ rfl).symm.trans hend)
      omega

def advance (state : Deserializer) (r : ObjectRead) : Deserializer :=
  ⟨state.binaryPool.drop r.expectedSize, r.clientNAME, r.pool⟩

theorem length_advance (h : state.readObject = some r) (haccepted : r.retVal = true) :
    (state.advance r).binaryPool.length < state.binaryPool.length := by
  have hrange := expectedSize_range h haccepted
  rw [advance, List.length_drop]
  omega

def deserializeObjects (state : Deserializer) : Option (Bool × DeviceDescriptorObjectPool) :=
  if state.binaryPool = [] then some (true, state.pool)
  else
    match _h : state.readObject with
    | none => none
    | some r =>
      if _haccepted : r.retVal = true then deserializeObjects (state.advance r)
      else some (false, r.pool)
termination_by state.binaryPool.length
decreasing_by exact length_advance _h _haccepted

theorem deserializeObjects_nil (hempty : state.binaryPool = []) :
    state.deserializeObjects = some (true, state.pool) := by
  rw [deserializeObjects, if_pos hempty]

theorem deserializeObjects_none (hne : state.binaryPool ≠ []) (h : state.readObject = none) :
    state.deserializeObjects = none := by
  rw [deserializeObjects, if_neg hne]
  split
  · rfl
  · next r hr => simp [h] at hr

theorem deserializeObjects_some (hne : state.binaryPool ≠ []) (h : state.readObject = some r) :
    state.deserializeObjects =
      if r.retVal = true then (state.advance r).deserializeObjects else some (false, r.pool) := by
  rw [deserializeObjects, if_neg hne]
  split
  · next hr => simp [h] at hr
  · next r' hr =>
    rw [h] at hr
    rw [Option.some.inj hr]
    split_ifs <;> rfl

end Deserializer

def DeviceDescriptorObjectPool.deserializeBinaryObjectPool (binaryPool : List UInt8)
    (clientNAME : NAME) (pool : DeviceDescriptorObjectPool) :
    Option (Bool × DeviceDescriptorObjectPool) :=
  let binaryPool := binaryPool.take (binaryPool.length % 2 ^ 32)
  if binaryPool = [] then some (false, pool)
  else Deserializer.deserializeObjects ⟨binaryPool, clientNAME, pool⟩

end Isobus.DeviceDescriptor
