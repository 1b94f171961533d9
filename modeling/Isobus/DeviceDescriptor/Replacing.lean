import Isobus.DeviceDescriptor.RoundTrip

namespace Isobus.DeviceDescriptor

open Isobus.Lib

namespace DeviceDescriptorObjectPool

variable (pool : DeviceDescriptorObjectPool)

def removeWhere (predicate : Object → Bool) : DeviceDescriptorObjectPool :=
  pool.withObjects (pool.objectList.filter fun object => !predicate object)

def removeObjectById (objectID : UInt16) : DeviceDescriptorObjectPool :=
  pool.withObjects (pool.objectList.eraseP fun object => object.getObjectId = objectID)

def clear : DeviceDescriptorObjectPool := pool.withObjects []

theorem removeObjectsWithType_eq (objectType : ObjectTypes) :
    pool.removeObjectsWithType objectType =
      pool.removeWhere fun object => object.getObjectType = objectType := by
  simp [removeObjectsWithType, removeWhere, withObjects]

theorem removeObjectWithId_eq (objectID : UInt16) :
    pool.removeObjectWithId objectID =
      pool.removeWhere fun object => object.getObjectId = objectID := by
  simp [removeObjectWithId, removeWhere, withObjects]

/-- IDs that differ, and of which only the device has 0. -/
structure WellIdentified (pool : DeviceDescriptorObjectPool) : Prop where
  ids : (pool.objectList.map Object.getObjectId).Nodup
  proper : ∀ object ∈ pool.objectList, ProperID object

namespace WellIdentified

variable {pool : DeviceDescriptorObjectPool} {object : Object}

theorem of_objects {pool' : DeviceDescriptorObjectPool} (h : WellIdentified pool)
    (hobjects : pool'.objectList = pool.objectList) : WellIdentified pool' where
  ids := hobjects ▸ h.ids
  proper := hobjects ▸ h.proper

theorem of_sublist (h : WellIdentified pool) {objects : List Object}
    (hsublist : objects.Sublist pool.objectList) : WellIdentified (pool.withObjects objects) where
  ids := h.ids.sublist (hsublist.map Object.getObjectId)
  proper object hobject := h.proper object (hsublist.subset hobject)

theorem removeWhere (h : WellIdentified pool) (predicate : Object → Bool) :
    WellIdentified (pool.removeWhere predicate) :=
  h.of_sublist List.filter_sublist

theorem removeObjectsWithType (h : WellIdentified pool) (objectType : ObjectTypes) :
    WellIdentified (pool.removeObjectsWithType objectType) := by
  rw [removeObjectsWithType_eq]
  exact h.removeWhere _

theorem removeObjectWithId (h : WellIdentified pool) (objectID : UInt16) :
    WellIdentified (pool.removeObjectWithId objectID) := by
  rw [removeObjectWithId_eq]
  exact h.removeWhere _

theorem append (h : WellIdentified pool)
    (hnew : ∀ other ∈ pool.objectList, other.getObjectId ≠ object.getObjectId)
    (hproper : ProperID object) : WellIdentified (pool.append object) where
  ids := by
    rw [DeviceDescriptorObjectPool.append, List.map_append, List.nodup_append]
    refine ⟨h.ids, List.nodup_singleton _, ?_⟩
    intro id hid id' hid'
    obtain ⟨other, hother, rfl⟩ := List.mem_map.mp hid
    rw [List.map_singleton, List.mem_singleton] at hid'
    rw [hid']
    exact hnew other hother
  proper other hother := by
    rcases List.mem_append.mp hother with hother | hother
    · exact h.proper other hother
    · rw [List.mem_singleton.mp hother]
      exact hproper

theorem added {uniqueID : UInt16} (h : WellIdentified pool)
    (hid : object.getObjectId = uniqueID) :
    WellIdentified ((if pool.checkObjectIdUnique uniqueID = true then some (pool.append object)
      else none).getD pool) := by
  split_ifs with hunique
  · obtain ⟨hzero, hnull, hnew⟩ := of_decide_eq_true hunique
    refine h.append (fun other hother => ?_) fun _ => hid ▸ ⟨hzero, hnull⟩
    rw [hid]
    exact (hnew other hother).symm
  · exact h

theorem addDevice (h : WellIdentified pool) (designator softwareVersion serialNumber
    structureLabel : List UInt8) (localizationLabel : LocalizationLabel)
    (extendedStructureLabel : List UInt8) (isoName : NAME) :
    WellIdentified ((pool.addDevice designator softwareVersion serialNumber structureLabel
      localizationLabel extendedStructureLabel isoName).getD pool) := by
  rw [DeviceDescriptorObjectPool.addDevice]
  split_ifs with hdevice
  · exact h
  · refine h.append (fun other hother => ?_) fun hne => absurd rfl hne
    exact (h.proper other hother fun htype => hdevice ⟨other, hother, htype⟩).1

theorem replaceF (h : WellIdentified pool) {f : Object → Option Object}
    (hsame : ∀ object other, f object = some other →
      other.getObjectId = object.getObjectId ∧ other.getObjectType = object.getObjectType) :
    WellIdentified (pool.withObjects (pool.objectList.replaceF f)) where
  ids := by
    rw [withObjects, map_replaceF fun object other hf => (hsame object other hf).1]
    exact h.ids
  proper object hobject := by
    rcases mem_replaceF hobject with hobject | ⟨other, hother, hf⟩
    · exact h.proper object hobject
    · obtain ⟨hid, htype⟩ := hsame other object hf
      rw [ProperID, hid, htype]
      exact h.proper other hother

theorem addReferenceToChildObject (h : WellIdentified pool) (objectID childID : UInt16) :
    WellIdentified (pool.addReferenceToChildObject objectID childID) :=
  h.replaceF referToChild_same

theorem addReferences (h : WellIdentified pool) (objectID : UInt16) (childIDs : List UInt16) :
    WellIdentified (childIDs.foldl (fun pool childID =>
      pool.addReferenceToChildObject objectID childID) pool) :=
  foldl_invariant (fun _ childID _ h => h.addReferenceToChildObject objectID childID) h

theorem setTaskControllerCompatibilityLevel (h : WellIdentified pool) {tcVersion : UInt8}
    (hversion : tcVersion ≤ MAX_TC_VERSION_SUPPORTED) :
    WellIdentified (pool.setTaskControllerCompatibilityLevel tcVersion hversion) := by
  refine of_objects (h.replaceF ?_) rfl
  intro object other hf
  split_ifs at hf with hzero
  cases object with
  | device object =>
    cases hf
    exact ⟨rfl, rfl⟩
  | deviceElement | deviceProcessData | deviceProperty | deviceValuePresentation =>
    cases hf
    exact ⟨rfl, rfl⟩

theorem call (h : WellIdentified pool) (call : BuildCall) : WellIdentified (pool.call call) := by
  cases call with
  | addDevice => exact h.addDevice _ _ _ _ _ _ _
  | addDeviceElement | addDeviceProcessData | addDeviceProperty | addDeviceValuePresentation =>
    exact h.added rfl
  | addReferenceToChildObject => exact h.addReferenceToChildObject _ _

end WellIdentified

def lengthAt (bytes : List UInt8) (index : Nat) : Option Nat := bytes[index]?.map UInt8.toNat

def extendedLengthAt (bytes : List UInt8) (index : Nat) : Option Nat :=
  if pool.taskControllerCompatibilityLevel ≥ 4 then lengthAt bytes index else some 0

/-- The object of a record as a pool of this level takes it in, and the length of the record. -/
def recordDevice (bytes : List UInt8) : Option (Object × Nat) := do
  let n ← lengthAt bytes 5
  let m ← lengthAt bytes (6 + n)
  let o ← lengthAt bytes (15 + n + m)
  let e ← pool.extendedLengthAt bytes (30 + o + n + m)
  let designator ← readBytes bytes 6 n
  let softwareVersion ← readBytes bytes (7 + n) m
  let isoName ← readBytes bytes (7 + n + m) 8
  let serialNumber ← readBytes bytes (16 + n + m) o
  let structureLabel ← readBytes bytes (16 + o + n + m) 7
  let localizationLabel ← readLabel bytes (23 + o + n + m)
  let extendedStructureLabel ← readBytes bytes (31 + o + n + m) e
  return (.device
    { designator := pool.limitDesignator designator
      softwareVersion
      serialNumber := pool.limitDesignator serialNumber
      structureLabel := structureLabel.take MAX_STRUCTURE_AND_LOCALIZATION_LABEL_LENGTH
      localizationLabel
      extendedStructureLabel := extendedStructureLabel.take MAX_EXTENDED_STRUCTURE_LABEL_LENGTH
      isoName := nameOfBytes isoName
      useExtendedStructureLabel := pool.taskControllerCompatibilityLevel ≥ 4 },
    if pool.taskControllerCompatibilityLevel < 4 then 31 + o + n + m + e - 1
    else 31 + o + n + m + e)

/-- Of the number of children the low byte. -/
def recordDeviceElement (bytes : List UInt8) : Option (Object × Nat) := do
  let n ← lengthAt bytes 6
  let numberOfObjectIDs ← lengthAt bytes (11 + n)
  let elementType ← bytes[5]?
  let parentObject ← uint16At bytes (9 + n)
  let objectID ← uint16At bytes 3
  let elementNumber ← uint16At bytes (7 + n)
  let designator ← readBytes bytes 7 n
  let referenceList ← (List.range numberOfObjectIDs).mapM fun i => uint16At bytes (13 + 2 * i + n)
  return (.deviceElement
    { designator := pool.limitDesignator designator
      objectID
      referenceList
      elementNumber
      parentObject
      elementType := .ofByte elementType }, 13 + 2 * numberOfObjectIDs + n)

def recordDeviceProcessData (bytes : List UInt8) : Option (Object × Nat) := do
  let n ← lengthAt bytes 9
  let ddi ← uint16At bytes 5
  let objectID ← uint16At bytes 3
  let deviceValuePresentationObject ← uint16At bytes (10 + n)
  let designator ← readBytes bytes 10 n
  let propertiesBitfield ← bytes[7]?
  let triggerMethodsBitfield ← bytes[8]?
  return (.deviceProcessData
    { designator := pool.limitDesignator designator
      objectID
      ddi
      deviceValuePresentationObject
      propertiesBitfield
      triggerMethodsBitfield }, 12 + n)

def recordDeviceProperty (bytes : List UInt8) : Option (Object × Nat) := do
  let n ← lengthAt bytes 11
  let value ← uint32At bytes 7
  let ddi ← uint16At bytes 5
  let objectID ← uint16At bytes 3
  let deviceValuePresentationObject ← uint16At bytes (12 + n)
  let designator ← readBytes bytes 12 n
  return (.deviceProperty
    { designator := pool.limitDesignator designator
      objectID
      value := value.toInt32
      ddi
      deviceValuePresentationObject }, 14 + n)

def recordDeviceValuePresentation (bytes : List UInt8) : Option (Object × Nat) := do
  let n ← lengthAt bytes 14
  let offset ← uint32At bytes 5
  let scale ← uint32At bytes 9
  let objectID ← uint16At bytes 3
  let designator ← readBytes bytes 15 n
  let numberOfDecimals ← bytes[13]?
  return (.deviceValuePresentation
    { designator := pool.limitDesignator designator
      objectID
      offset := offset.toInt32
      scale
      numberOfDecimals }, 15 + n)

def recordAs : ObjectTypes → List UInt8 → Option (Object × Nat)
  | .device => pool.recordDevice
  | .deviceElement => pool.recordDeviceElement
  | .deviceProcessData => pool.recordDeviceProcessData
  | .deviceProperty => pool.recordDeviceProperty
  | .deviceValuePresentation => pool.recordDeviceValuePresentation

structure IsRecord (bytes : List UInt8) (object : Object) (size : Nat) : Prop where
  table : object.getObjectType.tableID = bytes.take 3
  fields : pool.recordAs object.getObjectType bytes = some (object, size)
  inside : size ≤ bytes.length

inductive Records : List UInt8 → List Object → Prop
  | nil : Records [] []
  | cons {bytes : List UInt8} {object : Object} {size : Nat} {objects : List Object}
      (record : pool.IsRecord bytes object size) (others : Records (bytes.drop size) objects) :
      Records bytes (object :: objects)

theorem records_congr {pool pool' : DeviceDescriptorObjectPool}
    (hlevel : pool'.taskControllerCompatibilityLevel = pool.taskControllerCompatibilityLevel)
    {bytes : List UInt8} {objects : List Object} (h : pool'.Records bytes objects) :
    pool.Records bytes objects := by
  obtain ⟨list, level, hle⟩ := pool
  obtain ⟨list', level', hle'⟩ := pool'
  obtain rfl : level' = level := hlevel
  induction h with
  | nil => exact .nil
  | cons record _ ih =>
    refine .cons ⟨record.table, ?_, record.inside⟩ ih
    rw [← record.fields]
    cases h : Object.getObjectType _ <;> rfl

def replace (object : Object) : DeviceDescriptorObjectPool :=
  if object.getObjectType = .device then (pool.removeObjectsWithType .device).append object
  else (pool.removeObjectWithId object.getObjectId).append object

theorem replace_of_ne {pool : DeviceDescriptorObjectPool} {object : Object}
    (hne : object.getObjectType ≠ .device) :
    pool.replace object = (pool.removeObjectWithId object.getObjectId).append object := if_neg hne

theorem replace_level (object : Object) :
    (pool.replace object).taskControllerCompatibilityLevel =
      pool.taskControllerCompatibilityLevel := by
  unfold replace
  split_ifs <;> rfl

end DeviceDescriptorObjectPool

namespace Deserializer

open DeviceDescriptorObjectPool

variable {state : Deserializer} {r : ObjectRead}

variable {index size : Nat}

variable {n e : Nat} {retVal : Bool}

theorem lengthAt_of_lengthByte {bytes : List UInt8} {needed : Nat} {accepted : UInt8 → Bool}
    (h : lengthByte bytes needed index accepted = some (n, true)) :
    lengthAt bytes index = some n := by
  obtain ⟨-, b, hb, -, rfl⟩ := lengthByte_eq h
  rw [lengthAt, hb, Option.map_some]

def Replaces (state : Deserializer) (type : ObjectTypes) (r : ObjectRead) : Prop :=
  ∃ object : Object, object.getObjectType = type ∧
    state.pool.recordAs type state.binaryPool = some (object, r.expectedSize) ∧
    r.pool = state.pool.replace object

theorem readNamed_replaces {type : ObjectTypes}
    {fields : Nat → Option (UInt16 × (DeviceDescriptorObjectPool →
      Option DeviceDescriptorObjectPool))} (hdevice : type ≠ .device)
    (hfields : ∀ n id add pool, lengthAt state.binaryPool index = some n →
      fields n = some (id, add) → add (state.pool.removeObjectWithId id) = some pool →
        ∃ object : Object, object.getObjectType = type ∧ object.getObjectId = id ∧
          state.pool.recordAs type state.binaryPool = some (object, size + n) ∧
          pool = (state.pool.removeObjectWithId id).append object)
    (h : state.readNamed index size fields = some r)
    (haccepted : r.retVal = true) :
    state.Replaces type r := by
  obtain ⟨⟨n, validDesignator⟩, hn, h₁⟩ := Option.bind_eq_some_iff.mp h
  dsimp only at hn h₁
  split_ifs at h₁ with hvalid
  · obtain ⟨-, rfl⟩ := hvalid
    obtain ⟨⟨id, add⟩, hread, h₂⟩ := Option.bind_eq_some_iff.mp h₁
    cases h₂
    obtain ⟨object, htype, hid, hrecord, hpool⟩ :=
      hfields n id add _ (lengthAt_of_lengthByte hn) hread (conclude_added haccepted)
    refine ⟨object, htype, ?_, ?_⟩
    · rw [state.conclude_expectedSize haccepted, hrecord]
    · rw [hpool, replace_of_ne (htype ▸ hdevice), hid]
  · cases h₁
    cases haccepted

theorem readDeviceProcessData_replaces (h : state.readDeviceProcessData = some r)
    (haccepted : r.retVal = true) : state.Replaces .deviceProcessData r := by
  refine readNamed_replaces (by decide) (fun n id add pool hn hread hadd => ?_) h haccepted
  simp only [Option.bind_eq_bind, Option.bind_eq_some_iff] at hread
  obtain ⟨ddi, hddi, uniqueID, hid, presentation, hpresentation, designator, hdesignator,
    properties, hproperties, triggerMethods, htriggers, h₆⟩ := hread
  cases h₆
  refine ⟨_, rfl, rfl, ?_, (added_eq hadd).2⟩
  simp only [recordAs, recordDeviceProcessData, hn, hddi, hid, hpresentation, hdesignator,
    hproperties, htriggers, Option.bind_eq_bind, Option.bind_some]
  rfl

theorem readDeviceProperty_replaces (h : state.readDeviceProperty = some r)
    (haccepted : r.retVal = true) : state.Replaces .deviceProperty r := by
  refine readNamed_replaces (by decide) (fun n id add pool hn hread hadd => ?_) h haccepted
  simp only [Option.bind_eq_bind, Option.bind_eq_some_iff] at hread
  obtain ⟨value, hvalue, ddi, hddi, uniqueID, hid, presentation, hpresentation,
    designator, hdesignator, h₅⟩ := hread
  cases h₅
  refine ⟨_, rfl, rfl, ?_, (added_eq hadd).2⟩
  simp only [recordAs, recordDeviceProperty, hn, hvalue, hddi, hid, hpresentation, hdesignator,
    Option.bind_eq_bind, Option.bind_some]
  rfl

theorem readDeviceValuePresentation_replaces (h : state.readDeviceValuePresentation = some r)
    (haccepted : r.retVal = true) : state.Replaces .deviceValuePresentation r := by
  refine readNamed_replaces (by decide) (fun n id add pool hn hread hadd => ?_) h haccepted
  simp only [Option.bind_eq_bind, Option.bind_eq_some_iff] at hread
  obtain ⟨offset, hoffset, scale, hscale, uniqueID, hid, designator, hdesignator,
    numberOfDecimals, hdecimals, h₅⟩ := hread
  cases h₅
  refine ⟨_, rfl, rfl, ?_, (added_eq hadd).2⟩
  simp only [recordAs, recordDeviceValuePresentation, hn, hoffset, hscale, hid, hdesignator,
    hdecimals, Option.bind_eq_bind, Option.bind_some]
  rfl

theorem readDeviceElement_replaces (h : state.readDeviceElement = some r)
    (haccepted : r.retVal = true) : state.Replaces .deviceElement r := by
  simp only [readDeviceElement, Option.bind_eq_bind, Option.bind_eq_some_iff] at h
  obtain ⟨⟨n, validDesignator⟩, hn, ⟨count, validReferences⟩, hcount, elementType, htype, h₃⟩ := h
  split_ifs at h₃ with hvalid
  · obtain ⟨-, hvalid⟩ := hvalid
    simp only [Bool.and_eq_true, decide_eq_true_eq] at hvalid
    obtain ⟨⟨rfl, rfl⟩, -⟩ := hvalid
    simp only [Option.bind_eq_bind, Option.bind_eq_some_iff] at h₃
    obtain ⟨parentObject, hparent, uniqueID, hid, elementNumber, hnumber, designator, hdesignator,
      childIDs, hchildren, h₈⟩ := h₃
    cases h₈
    obtain ⟨pool, hadd, hpool⟩ := Option.map_eq_some_iff.mp (conclude_added haccepted)
    obtain ⟨hunique, rfl⟩ := added_eq hadd
    have hfree := (of_decide_eq_true hunique).2.2
    have hfold := foldl_addReferenceToChildObject
      { designator := (state.pool.removeObjectWithId uniqueID).limitDesignator designator
        objectID := uniqueID, elementNumber, parentObject
        elementType := DeviceElementType.ofByte elementType }
      (fun other hother => (hfree other hother).symm) childIDs
    refine ⟨.deviceElement
      { designator := state.pool.limitDesignator designator
        objectID := uniqueID, referenceList := [] ++ childIDs, elementNumber, parentObject
        elementType := DeviceElementType.ofByte elementType }, rfl, ?_, ?_⟩
    · rw [state.conclude_expectedSize haccepted]
      simp only [recordAs, recordDeviceElement, lengthAt_of_lengthByte hn,
        lengthAt_of_lengthByte hcount, htype, hparent, hid, hnumber, hdesignator, hchildren,
        Option.bind_eq_bind, Option.bind_some]
      rfl
    · rw [replace_of_ne (by simp [Object.getObjectType])]
      exact hpool.symm.trans hfold
  · cases h₃
    cases haccepted

theorem addDevice_removeObjectsWithType (pool : DeviceDescriptorObjectPool)
    (designator softwareVersion serialNumber structureLabel : List UInt8)
    (localizationLabel : LocalizationLabel) (extendedStructureLabel : List UInt8)
    (isoName : NAME) :
    (pool.removeObjectsWithType .device).addDevice designator softwareVersion serialNumber
        structureLabel localizationLabel extendedStructureLabel isoName =
      some ((pool.removeObjectsWithType .device).append (.device
        { designator := pool.limitDesignator designator
          softwareVersion
          serialNumber := pool.limitDesignator serialNumber
          structureLabel := structureLabel.take MAX_STRUCTURE_AND_LOCALIZATION_LABEL_LENGTH
          localizationLabel
          extendedStructureLabel :=
            extendedStructureLabel.take MAX_EXTENDED_STRUCTURE_LABEL_LENGTH
          isoName
          useExtendedStructureLabel := pool.taskControllerCompatibilityLevel ≥ 4 })) := by
  refine if_neg ?_
  rintro ⟨other, hother, htype⟩
  exact of_decide_eq_true (List.mem_filter.mp hother).2 htype

theorem isoName_of_matched {clientNAME isoName : NAME}
    (h : (clientNAME = 0 || isoName = clientNAME : Bool) = true) :
    (if clientNAME = 0 then isoName else clientNAME) = isoName := by
  split_ifs with hzero
  · rfl
  · simpa [hzero, eq_comm] using h

theorem readDeviceFields_replaces {m o : Nat} (hn : lengthAt state.binaryPool 5 = some n)
    (hm : lengthAt state.binaryPool (6 + n) = some m)
    (ho : lengthAt state.binaryPool (15 + n + m) = some o)
    (he : state.pool.extendedLengthAt state.binaryPool (30 + o + n + m) = some e)
    (hsize : size = if state.pool.taskControllerCompatibilityLevel < 4 then 31 + o + n + m + e - 1
      else 31 + o + n + m + e) (h : state.readDeviceFields n m o e size = some r)
    (haccepted : r.retVal = true) :
    state.Replaces .device r := by
  obtain ⟨designator, hdesignator, h₁⟩ := Option.bind_eq_some_iff.mp h
  obtain ⟨softwareVersion, hversion, h₂⟩ := Option.bind_eq_some_iff.mp h₁
  obtain ⟨name, hname, h₃⟩ := Option.bind_eq_some_iff.mp h₂
  obtain ⟨serialNumber, hserial, h₄⟩ := Option.bind_eq_some_iff.mp h₃
  obtain ⟨structureLabel, hstructure, h₅⟩ := Option.bind_eq_some_iff.mp h₄
  obtain ⟨localizationLabel, hlocalization, h₆⟩ := Option.bind_eq_some_iff.mp h₅
  obtain ⟨extended, hextended, h₇⟩ := Option.bind_eq_some_iff.mp h₆
  dsimp only at h₇
  rw [addDevice_removeObjectsWithType] at h₇
  cases h₇
  refine ⟨.device _, rfl, ?_, (if_pos rfl).symm⟩
  rw [isoName_of_matched haccepted, hsize]
  simp only [recordAs, recordDevice, hn, hm, ho, he, hdesignator, hversion, hname, hserial,
    hstructure, hlocalization, hextended, Option.bind_eq_bind, Option.bind_some]
  rfl

theorem extendedLengthAt_of_byte (h : state.extendedLabelByte index = some (e, true)) :
    state.pool.extendedLengthAt state.binaryPool index = some e := by
  unfold extendedLabelByte at h
  unfold extendedLengthAt
  split_ifs at h ⊢ with hlevel
  · exact lengthAt_of_lengthByte h
  · exact congrArg some (congrArg Prod.fst (Option.some.inj h))

theorem readDevice_replaces (h : state.readDevice = some r) (haccepted : r.retVal = true) :
    state.Replaces .device r := by
  simp only [readDevice, Option.bind_eq_bind, Option.bind_eq_some_iff] at h
  obtain ⟨⟨n, validDesignator⟩, hn, ⟨m, validSoftwareVersion⟩, hm, ⟨o, validSerialNumber⟩, ho,
    ⟨e, validExtendedLabel⟩, he, h₄⟩ := h
  generalize hsize : (if state.pool.taskControllerCompatibilityLevel < 4 then
    31 + o + n + m + e - 1 else 31 + o + n + m + e) = size at h₄
  split_ifs at h₄ with hvalid
  · obtain ⟨-, hvalid⟩ := hvalid
    simp only [Bool.and_eq_true] at hvalid
    obtain ⟨⟨⟨rfl, rfl⟩, rfl⟩, rfl⟩ := hvalid
    exact readDeviceFields_replaces (lengthAt_of_lengthByte hn) (lengthAt_of_lengthByte hm)
      (lengthAt_of_lengthByte ho) (extendedLengthAt_of_byte he) hsize.symm h₄ haccepted
  · cases h₄
    cases haccepted

theorem readObject_replaces (h : state.readObject = some r) (haccepted : r.retVal = true) :
    ∃ object, state.pool.IsRecord state.binaryPool object r.expectedSize ∧
      r.pool = state.pool.replace object := by
  obtain ⟨-, type, htable, hread⟩ := readObject_accepted h haccepted
  have hreplaces : state.Replaces type r := by
    cases type with
    | device => exact readDevice_replaces hread haccepted
    | deviceElement => exact readDeviceElement_replaces hread haccepted
    | deviceProcessData => exact readDeviceProcessData_replaces hread haccepted
    | deviceProperty => exact readDeviceProperty_replaces hread haccepted
    | deviceValuePresentation => exact readDeviceValuePresentation_replaces hread haccepted
  obtain ⟨object, rfl, hrecord, hpool⟩ := hreplaces
  exact ⟨object, ⟨htable, hrecord, (expectedSize_range h haccepted).2⟩, hpool⟩

theorem conclude_pool {cleared : DeviceDescriptorObjectPool}
    (added : Option DeviceDescriptorObjectPool) :
    (state.conclude size cleared added).pool = added.getD cleared := by
  cases added <;> rfl

theorem readNamed_wellIdentified
    {fields : Nat → Option (UInt16 × (DeviceDescriptorObjectPool →
      Option DeviceDescriptorObjectPool))} (hpool : WellIdentified state.pool)
    (hfields : ∀ n id add, fields n = some (id, add) →
      ∀ pool, WellIdentified pool → WellIdentified ((add pool).getD pool))
    (h : state.readNamed index size fields = some r) :
          WellIdentified r.pool := by
  obtain ⟨⟨n, validDesignator⟩, -, h₁⟩ := Option.bind_eq_some_iff.mp h
  dsimp only at h₁
  split_ifs at h₁ with hvalid
  · obtain ⟨⟨id, add⟩, hread, h₂⟩ := Option.bind_eq_some_iff.mp h₁
    rw [← Option.some.inj h₂, conclude_pool]
    exact hfields n id add hread _ (hpool.removeObjectWithId id)
  · cases h₁
    exact hpool

theorem readDeviceElement_wellIdentified (hpool : WellIdentified state.pool)
    (h : state.readDeviceElement = some r) : WellIdentified r.pool := by
  simp only [readDeviceElement, Option.bind_eq_bind, Option.bind_eq_some_iff] at h
  obtain ⟨⟨n, validDesignator⟩, -, ⟨count, validReferences⟩, -, elementType, -, h₃⟩ := h
  split_ifs at h₃ with hvalid
  · simp only [Option.bind_eq_bind, Option.bind_eq_some_iff] at h₃
    obtain ⟨parentObject, -, uniqueID, -, elementNumber, -, designator, -, childIDs, -, h₈⟩ := h₃
    have hadded := @WellIdentified.added _ (.deviceElement
      { designator := (state.pool.removeObjectWithId uniqueID).limitDesignator designator
        objectID := uniqueID, elementNumber, parentObject
        elementType := DeviceElementType.ofByte elementType }) uniqueID
      (hpool.removeObjectWithId uniqueID) rfl
    rw [← Option.some.inj h₈, conclude_pool]
    rw [addDeviceElement]
    split_ifs at hadded ⊢ with hunique
    · exact hadded.addReferences uniqueID childIDs
    · exact hadded
  · cases h₃
    exact hpool

theorem readDeviceFields_wellIdentified {m o : Nat} (hpool : WellIdentified state.pool)
    (h : state.readDeviceFields n m o e size = some r) : WellIdentified r.pool := by
  obtain ⟨designator, -, h₁⟩ := Option.bind_eq_some_iff.mp h
  obtain ⟨softwareVersion, -, h₂⟩ := Option.bind_eq_some_iff.mp h₁
  obtain ⟨name, -, h₃⟩ := Option.bind_eq_some_iff.mp h₂
  obtain ⟨serialNumber, -, h₄⟩ := Option.bind_eq_some_iff.mp h₃
  obtain ⟨structureLabel, -, h₅⟩ := Option.bind_eq_some_iff.mp h₄
  obtain ⟨localizationLabel, -, h₆⟩ := Option.bind_eq_some_iff.mp h₅
  obtain ⟨extended, -, h₇⟩ := Option.bind_eq_some_iff.mp h₆
  have hadded := (hpool.removeObjectsWithType .device).addDevice designator softwareVersion
    serialNumber structureLabel localizationLabel extended
    (if state.clientNAME = 0 then nameOfBytes name else state.clientNAME)
  dsimp only at h₇
  rw [addDevice_removeObjectsWithType] at h₇ hadded
  cases h₇
  exact hadded

theorem readDevice_wellIdentified (hpool : WellIdentified state.pool)
    (h : state.readDevice = some r) : WellIdentified r.pool := by
  simp only [readDevice, Option.bind_eq_bind, Option.bind_eq_some_iff] at h
  obtain ⟨⟨n, validDesignator⟩, -, ⟨m, validSoftwareVersion⟩, -, ⟨o, validSerialNumber⟩, -,
    ⟨e, validExtendedLabel⟩, -, h₄⟩ := h
  split_ifs at h₄ with hlevel hvalid hvalid
  · exact readDeviceFields_wellIdentified hpool h₄
  · cases h₄
    exact hpool
  · exact readDeviceFields_wellIdentified hpool h₄
  · cases h₄
    exact hpool

theorem readAs_wellIdentified {type : ObjectTypes} (hpool : WellIdentified state.pool)
    (h : state.readAs type = some r) : WellIdentified r.pool := by
  cases type with
  | device => exact readDevice_wellIdentified hpool h
  | deviceElement => exact readDeviceElement_wellIdentified hpool h
  | deviceProcessData =>
    rw [readAs, readDeviceProcessData] at h
    refine readNamed_wellIdentified hpool (fun n id add hread pool hpool => ?_) h
    simp only [Option.bind_eq_bind, Option.bind_eq_some_iff] at hread
    obtain ⟨_, -, _, -, _, -, _, -, _, -, _, -, h₆⟩ := hread
    cases h₆
    exact hpool.added rfl
  | deviceProperty =>
    rw [readAs, readDeviceProperty] at h
    refine readNamed_wellIdentified hpool (fun n id add hread pool hpool => ?_) h
    simp only [Option.bind_eq_bind, Option.bind_eq_some_iff] at hread
    obtain ⟨_, -, _, -, _, -, _, -, _, -, h₅⟩ := hread
    cases h₅
    exact hpool.added rfl
  | deviceValuePresentation =>
    rw [readAs, readDeviceValuePresentation] at h
    refine readNamed_wellIdentified hpool (fun n id add hread pool hpool => ?_) h
    simp only [Option.bind_eq_bind, Option.bind_eq_some_iff] at hread
    obtain ⟨_, -, _, -, _, -, _, -, _, -, h₅⟩ := hread
    cases h₅
    exact hpool.added rfl

theorem readObject_wellIdentified (hpool : WellIdentified state.pool)
    (h : state.readObject = some r) : WellIdentified r.pool := by
  by_cases hknown : state.binaryPool.length > 3 ∧
      ∃ type : ObjectTypes, type.tableID = state.binaryPool.take 3
  · obtain ⟨hlength, type, htable⟩ := hknown
    rw [readObject_eq hlength type htable] at h
    exact readAs_wellIdentified hpool h
  · rw [readObject_refused fun hlength type htable => hknown ⟨hlength, type, htable⟩] at h
    cases h
    exact hpool

/-- What a pool is left as, accepted or not. The type of an element behind the end does not matter.
-/
inductive Deserializes : Deserializer → Bool → DeviceDescriptorObjectPool → Prop
  | done {state : Deserializer} (hempty : state.binaryPool = []) :
      Deserializes state true state.pool
  | next {state : Deserializer} {r : ObjectRead} {retVal : Bool}
      {pool : DeviceDescriptorObjectPool} (hne : state.binaryPool ≠ [])
      (hread : state.readObject = some r) (haccepted : r.retVal = true)
      (hnext : Deserializes (state.advance r) retVal pool) : Deserializes state retVal pool
  | refused {state : Deserializer} {r : ObjectRead} (hne : state.binaryPool ≠ [])
      (hread : state.readObject = some r) (hrefused : r.retVal = false) :
      Deserializes state false r.pool
  | outside {state : Deserializer} (hne : state.binaryPool ≠ [])
      (hread : state.readObject = none) : Deserializes state false state.pool

theorem Deserializes.wellIdentified {pool : DeviceDescriptorObjectPool}
    (h : Deserializes state retVal pool) (hpool : WellIdentified state.pool) :
    WellIdentified pool := by
  induction h with
  | done | outside => exact hpool
  | next _ hread _ _ ih => exact ih (readObject_wellIdentified hpool hread)
  | refused _ hread => exact readObject_wellIdentified hpool hread

theorem Deserializes.replaces {pool : DeviceDescriptorObjectPool}
    (h : Deserializes state retVal pool) (haccepted : retVal = true) :
    ∃ objects, state.pool.Records state.binaryPool objects ∧
      pool = objects.foldl replace state.pool := by
  induction h with
  | done hempty => exact ⟨[], hempty ▸ .nil, rfl⟩
  | @next state r _ _ _ hread hr _ ih =>
    obtain ⟨object, hrecord, hpool⟩ := readObject_replaces hread hr
    obtain ⟨objects, hrecords, hresult⟩ := ih haccepted
    have hlevel : (state.advance r).pool = state.pool.replace object := hpool
    refine ⟨object :: objects, .cons hrecord ?_, ?_⟩
    · exact records_congr (by rw [hlevel, replace_level]) hrecords
    · rw [hresult, hlevel, List.foldl_cons]
  | refused | outside => cases haccepted

theorem deserializes_of_deserializeObjects {pool : DeviceDescriptorObjectPool}
    (h : state.deserializeObjects = some (retVal, pool)) : Deserializes state retVal pool := by
  induction hlength : state.binaryPool.length using Nat.strong_induction_on generalizing state with
  | _ n ih =>
    by_cases hempty : state.binaryPool = []
    · rw [deserializeObjects_nil hempty] at h
      cases h
      exact .done hempty
    · cases hread : state.readObject with
      | none => simp [deserializeObjects_none hempty hread] at h
      | some r =>
        rw [deserializeObjects_some hempty hread] at h
        split_ifs at h with haccepted
        · exact .next hempty hread haccepted
            (ih _ (hlength ▸ length_advance hread haccepted) h rfl)
        · cases h
          exact .refused hempty hread (Bool.eq_false_iff.mpr haccepted)

end Deserializer

namespace DeviceDescriptorObjectPool

open Deserializer

/-- What a step makes of a pool. -/
inductive Changes : DeviceDescriptorObjectPool → DeviceDescriptorObjectPool → Prop
  | call (pool : DeviceDescriptorObjectPool) (call : BuildCall) : Changes pool (pool.call call)
  | removeObjectsWithType (pool : DeviceDescriptorObjectPool) (objectType : ObjectTypes) :
      Changes pool (pool.removeObjectsWithType objectType)
  | removeObjectWithId (pool : DeviceDescriptorObjectPool) (objectID : UInt16) :
      Changes pool (pool.removeObjectWithId objectID)
  | removeWhere (pool : DeviceDescriptorObjectPool) (predicate : Object → Bool) :
      Changes pool (pool.removeWhere predicate)
  | removeObjectById (pool : DeviceDescriptorObjectPool) (objectID : UInt16) :
      Changes pool (pool.removeObjectById objectID)
  | clear (pool : DeviceDescriptorObjectPool) : Changes pool pool.clear
  | setTaskControllerCompatibilityLevel (pool : DeviceDescriptorObjectPool) {tcVersion : UInt8}
      (hversion : tcVersion ≤ MAX_TC_VERSION_SUPPORTED) :
      Changes pool (pool.setTaskControllerCompatibilityLevel tcVersion hversion)
  | deserialize {pool pool' : DeviceDescriptorObjectPool} {retVal : Bool} (binaryPool : List UInt8)
      (clientNAME : NAME) (h : Deserializes ⟨binaryPool, clientNAME, pool⟩ retVal pool') :
      Changes pool pool'

/-- The pools that operations make of an empty one. -/
inductive Reached : DeviceDescriptorObjectPool → Prop
  | empty {pool : DeviceDescriptorObjectPool} (hempty : pool.objectList = []) : Reached pool
  | step {pool pool' : DeviceDescriptorObjectPool} (h : Reached pool) (hstep : Changes pool pool') :
      Reached pool'

variable {pool pool' : DeviceDescriptorObjectPool}

theorem wellIdentified_changes (h : WellIdentified pool) (hstep : Changes pool pool') :
    WellIdentified pool' := by
  cases hstep with
  | call call => exact h.call call
  | removeObjectsWithType objectType => exact h.removeObjectsWithType objectType
  | removeObjectWithId objectID => exact h.removeObjectWithId objectID
  | removeWhere predicate => exact h.removeWhere predicate
  | removeObjectById objectID => exact h.of_sublist List.eraseP_sublist
  | clear => exact h.of_sublist (List.nil_sublist _)
  | setTaskControllerCompatibilityLevel hversion =>
    exact h.setTaskControllerCompatibilityLevel hversion
  | deserialize binaryPool clientNAME hread => exact hread.wellIdentified h

theorem wellIdentified_reached (h : Reached pool) : WellIdentified pool := by
  induction h with
  | empty hempty => exact ⟨by simp [hempty], by simp [hempty]⟩
  | step _ hstep ih => exact wellIdentified_changes ih hstep

theorem WellIdentified.getObjectId_eq_zero_iff (h : WellIdentified pool) {object : Object}
    (hobject : object ∈ pool.objectList) :
    object.getObjectId = 0 ↔ object.getObjectType = .device := by
  constructor
  · intro hzero
    by_contra hne
    exact (h.proper object hobject hne).1 hzero
  · exact Object.getObjectId_of_device

theorem WellIdentified.ne_null (h : WellIdentified pool) {object : Object}
    (hobject : object ∈ pool.objectList) : object.getObjectId ≠ NULL_OBJECT_ID := by
  by_cases hdevice : object.getObjectType = .device
  · rw [Object.getObjectId_of_device hdevice]
    decide
  · exact (h.proper object hobject hdevice).2

theorem WellIdentified.device_unique (h : WellIdentified pool) {object other : Object}
    (hobject : object ∈ pool.objectList) (hother : other ∈ pool.objectList)
    (hdevice : object.getObjectType = .device) (hdevice' : other.getObjectType = .device) :
    object = other :=
  List.inj_on_of_nodup_map h.ids hobject hother
    ((Object.getObjectId_of_device hdevice).trans (Object.getObjectId_of_device hdevice').symm)

theorem replaces_of_accepted {binaryPool : List UInt8} {clientNAME : NAME}
    (h : deserializeBinaryObjectPool binaryPool clientNAME pool = some (true, pool')) :
    ∃ objects, pool.Records (binaryPool.take (binaryPool.length % 2 ^ 32)) objects ∧
      pool' = objects.foldl replace pool := by
  rw [deserializeBinaryObjectPool] at h
  split_ifs at h with hempty
  · exact absurd (Prod.mk.inj (Option.some.inj h)).1 Bool.false_ne_true
  · exact (deserializes_of_deserializeObjects h).replaces rfl

/-- In every pool the IDs differ, 0 is that of the device alone, and 65535 is none; a binary pool
that is accepted replaces the objects by ID, record by record. -/
theorem reached_replaces (h : Reached pool) :
    ((pool.objectList.map Object.getObjectId).Nodup ∧
      (∀ object ∈ pool.objectList, ∀ other ∈ pool.objectList,
        object.getObjectType = .device → other.getObjectType = .device → object = other) ∧
      ∀ object ∈ pool.objectList,
        (object.getObjectId = 0 ↔ object.getObjectType = .device) ∧
          object.getObjectId ≠ NULL_OBJECT_ID) ∧
      ∀ binaryPool clientNAME pool',
        deserializeBinaryObjectPool binaryPool clientNAME pool = some (true, pool') →
          ∃ objects, pool.Records (binaryPool.take (binaryPool.length % 2 ^ 32)) objects ∧
            pool' = objects.foldl replace pool := by
  have hpool := wellIdentified_reached h
  refine ⟨⟨hpool.ids, fun object hobject other hother => hpool.device_unique hobject hother,
    fun object hobject => ⟨hpool.getObjectId_eq_zero_iff hobject, hpool.ne_null hobject⟩⟩,
    fun binaryPool clientNAME pool' haccepted => replaces_of_accepted haccepted⟩

/-- A property that a record of process data takes the place of. -/
def onePropertyPool : DeviceDescriptorObjectPool :=
  DeviceDescriptorObjectPool.call ⟨[], MAX_TC_VERSION_SUPPORTED, UInt8.le_refl _⟩
      (.addDeviceProperty [0x41] 5 0 0xFFFF 1)

def processDataRecord : List UInt8 := [0x44, 0x50, 0x44, 1, 0, 2, 0, 0, 0, 0, 0xFF, 0xFF]

def processData : DeviceProcessDataObject :=
  { designator := [], objectID := 1, ddi := 2, deviceValuePresentationObject := 0xFFFF
    propertiesBitfield := 0, triggerMethodsBitfield := 0 }

theorem processData_replaces_property :
    ∃ objects, onePropertyPool.Records processDataRecord objects ∧
      onePropertyPool.withObjects [.deviceProcessData processData] =
        objects.foldl replace onePropertyPool := by
  have hobject : readObject ⟨processDataRecord, 0, onePropertyPool⟩ =
      some ⟨12, true, 0, onePropertyPool.withObjects [.deviceProcessData processData]⟩ := rfl
  have hread : deserializeBinaryObjectPool processDataRecord 0 onePropertyPool =
      some (true, onePropertyPool.withObjects [.deviceProcessData processData]) := by
    rw [deserializeBinaryObjectPool, if_neg (by decide)]
    refine (deserializeObjects_some (by decide) hobject).trans ?_
    rw [if_pos rfl, deserializeObjects_nil rfl]
    rfl
  exact (reached_replaces (.step (.empty rfl) (.call ⟨[], _, UInt8.le_refl _⟩ _))).2 _ 0 _ hread

end DeviceDescriptorObjectPool

end Isobus.DeviceDescriptor
