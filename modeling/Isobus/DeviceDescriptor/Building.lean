import Isobus.DeviceDescriptor.ObjectPool
import Isobus.Lib.Fold

/-!
# Pools that are built

What holds of every pool that was built by the calls that add objects: IDs that differ,
texts within their limits, and an extended label in use from version 4 on.
-/

namespace Isobus.DeviceDescriptor

open Isobus.Lib

inductive BuildCall
  | addDevice (deviceDesignator deviceSoftwareVersion deviceSerialNumber
      deviceStructureLabel : List UInt8) (deviceLocalizationLabel : LocalizationLabel)
      (deviceExtendedStructureLabel : List UInt8) (clientIsoNAME : NAME)
  | addDeviceElement (deviceElementDesignator : List UInt8)
      (deviceElementNumber parentObjectID : UInt16) (deviceElementType : DeviceElementType)
      (uniqueID : UInt16)
  | addDeviceProcessData (processDataDesignator : List UInt8)
      (processDataDDI deviceValuePresentationObjectID : UInt16)
      (processDataProperties processDataTriggerMethods : UInt8) (uniqueID : UInt16)
  | addDeviceProperty (propertyDesignator : List UInt8) (propertyValue : Int32)
      (propertyDDI valuePresentationObject uniqueID : UInt16)
  | addDeviceValuePresentation (unitDesignator : List UInt8) (offsetValue : Int32)
      (scaleFactor : UInt32) (numberDecimals : UInt8) (uniqueID : UInt16)
  | addReferenceToChildObject (objectID childID : UInt16)

namespace DeviceDescriptorObjectPool

/-- A call that is refused leaves the pool as it is. -/
def call (pool : DeviceDescriptorObjectPool) : BuildCall → DeviceDescriptorObjectPool
  | .addDevice designator softwareVersion serialNumber structureLabel localizationLabel
      extendedStructureLabel isoName =>
      (pool.addDevice designator softwareVersion serialNumber structureLabel localizationLabel
        extendedStructureLabel isoName).getD pool
  | .addDeviceElement designator elementNumber parentObject elementType uniqueID =>
    (pool.addDeviceElement designator elementNumber parentObject elementType uniqueID).getD pool
  | .addDeviceProcessData designator ddi presentation properties triggerMethods uniqueID =>
    (pool.addDeviceProcessData designator ddi presentation properties triggerMethods
      uniqueID).getD pool
  | .addDeviceProperty designator value ddi presentation uniqueID =>
    (pool.addDeviceProperty designator value ddi presentation uniqueID).getD pool
  | .addDeviceValuePresentation designator offset scale numberOfDecimals uniqueID =>
    (pool.addDeviceValuePresentation designator offset scale numberOfDecimals uniqueID).getD pool
  | .addReferenceToChildObject objectID childID => pool.addReferenceToChildObject objectID childID

def build (pool : DeviceDescriptorObjectPool) (calls : List BuildCall) :
    DeviceDescriptorObjectPool := calls.foldl call pool

variable {pool : DeviceDescriptorObjectPool} {object : Object}

theorem limitDesignator_of_le {designator : List UInt8}
    (hlegacy : pool.taskControllerCompatibilityLevel < MAX_TC_VERSION_SUPPORTED →
      designator.length ≤ MAX_DESIGNATOR_LEGACY_LENGTH)
    (hmax : designator.length ≤ MAX_DESIGNATOR_LENGTH) :
    pool.limitDesignator designator = designator := by
  rw [limitDesignator, if_neg, if_neg]
  · exact fun h => absurd h.2 (Nat.not_lt.mpr hmax)
  · exact fun h => absurd h.2 (Nat.not_lt.mpr (hlegacy h.1))

theorem length_limitDesignator (pool : DeviceDescriptorObjectPool) (designator : List UInt8) :
    (pool.taskControllerCompatibilityLevel < MAX_TC_VERSION_SUPPORTED →
      (pool.limitDesignator designator).length ≤ MAX_DESIGNATOR_LEGACY_LENGTH) ∧
    (pool.limitDesignator designator).length ≤ MAX_DESIGNATOR_LENGTH := by
  unfold limitDesignator
  split_ifs with hlegacy hmax
  · have hlength := List.length_take_le MAX_DESIGNATOR_LEGACY_LENGTH designator
    exact ⟨fun _ => hlength, hlength.trans (by decide)⟩
  · exact ⟨fun hlt => absurd (hmax.1 ▸ hlt) (UInt8.lt_irrefl _), List.length_take_le _ _⟩
  · refine ⟨fun hlt => Nat.not_lt.mp fun hlong => hlegacy ⟨hlt, hlong⟩, ?_⟩
    by_cases hlt : pool.taskControllerCompatibilityLevel < MAX_TC_VERSION_SUPPORTED
    · have hlength := Nat.not_lt.mp fun hlong => hlegacy ⟨hlt, hlong⟩
      exact hlength.trans (by decide)
    · have heq : pool.taskControllerCompatibilityLevel = MAX_TC_VERSION_SUPPORTED :=
        UInt8.le_antisymm pool.taskControllerCompatibilityLevel_le (UInt8.not_lt.mp hlt)
      exact Nat.not_lt.mp fun hlong => hmax ⟨heq, hlong⟩

@[simp] theorem limitDesignator_limitDesignator (designator : List UInt8) :
    pool.limitDesignator (pool.limitDesignator designator) = pool.limitDesignator designator :=
  limitDesignator_of_le (pool.length_limitDesignator designator).1
    (pool.length_limitDesignator designator).2

def Limited (pool : DeviceDescriptorObjectPool) : Object → Prop
  | .device object => pool.limitDesignator object.designator = object.designator ∧
      pool.limitDesignator object.serialNumber = object.serialNumber ∧
      object.structureLabel.length ≤ MAX_STRUCTURE_AND_LOCALIZATION_LABEL_LENGTH ∧
      object.extendedStructureLabel.length ≤ MAX_EXTENDED_STRUCTURE_LABEL_LENGTH ∧
      object.useExtendedStructureLabel = decide (pool.taskControllerCompatibilityLevel ≥ 4)
  | .deviceElement object => pool.limitDesignator object.designator = object.designator
  | .deviceProcessData object => pool.limitDesignator object.designator = object.designator
  | .deviceProperty object => pool.limitDesignator object.designator = object.designator
  | .deviceValuePresentation object => pool.limitDesignator object.designator = object.designator

def ProperID (object : Object) : Prop :=
  object.getObjectType ≠ .device → object.getObjectId ≠ 0 ∧ object.getObjectId ≠ NULL_OBJECT_ID

structure WellBuilt (pool : DeviceDescriptorObjectPool) : Prop where
  ids : (pool.objectList.map Object.getObjectId).Nodup
  proper : ∀ object ∈ pool.objectList, ProperID object
  limited : ∀ object ∈ pool.objectList, pool.Limited object

theorem WellBuilt.append (h : WellBuilt pool) (hnew : ∀ other ∈ pool.objectList,
    other.getObjectId ≠ object.getObjectId) (hproper : ProperID object)
    (hlimited : pool.Limited object) : WellBuilt (pool.append object) where
  ids := by
    rw [DeviceDescriptorObjectPool.append, List.map_append, List.nodup_append]
    refine ⟨h.ids, by simp, ?_⟩
    intro id hid id' hid'
    obtain ⟨other, hother, rfl⟩ := List.mem_map.mp hid
    rw [List.map_singleton, List.mem_singleton] at hid'
    rw [hid']
    exact hnew other hother
  proper other hother := by
    rcases List.mem_append.mp hother with hother | hother
    · exact h.proper other hother
    · rw [List.mem_singleton.mp hother]
      exact hproper
  limited other hother := by
    rcases List.mem_append.mp hother with hother | hother
    · exact h.limited other hother
    · rw [List.mem_singleton.mp hother]
      exact hlimited

theorem wellBuilt_added {uniqueID : UInt16} (h : WellBuilt pool)
    (hid : object.getObjectId = uniqueID)
    (hlimited : pool.Limited object) :
    WellBuilt ((if pool.checkObjectIdUnique uniqueID = true then some (pool.append object)
      else none).getD pool) := by
  split_ifs with hunique
  · obtain ⟨hzero, hnull, hnew⟩ := of_decide_eq_true hunique
    refine h.append (fun other hother => ?_) (fun _ => hid ▸ ⟨hzero, hnull⟩) hlimited
    rw [hid]
    exact (hnew other hother).symm
  · exact h

theorem wellBuilt_addDevice (h : WellBuilt pool) (designator softwareVersion serialNumber
    structureLabel : List UInt8) (localizationLabel : LocalizationLabel)
    (extendedStructureLabel : List UInt8) (isoName : NAME) :
    WellBuilt ((pool.addDevice designator softwareVersion serialNumber structureLabel
      localizationLabel extendedStructureLabel isoName).getD pool) := by
  rw [addDevice]
  split_ifs with hdevice
  · exact h
  · refine h.append (fun other hother => ?_) (fun hne => absurd rfl hne) ?_
    · exact (h.proper other hother fun htype => hdevice ⟨other, hother, htype⟩).1
    · exact ⟨limitDesignator_limitDesignator _, limitDesignator_limitDesignator _,
        List.length_take_le _ _, List.length_take_le _ _, rfl⟩

theorem referToChild_same {objectID childID : UInt16} (object other : Object)
    (h : referToChild objectID childID object = some other) :
    other.getObjectId = object.getObjectId ∧ other.getObjectType = object.getObjectType := by
  unfold referToChild at h
  split_ifs at h with hid
  cases object with
  | deviceElement object =>
    cases h
    exact ⟨rfl, rfl⟩
  | device object | deviceProcessData object | deviceProperty object
  | deviceValuePresentation object =>
    cases h
    exact ⟨rfl, rfl⟩

theorem limited_referToChild {objectID childID : UInt16} {other : Object}
    (h : referToChild objectID childID object = some other) (hlimited : pool.Limited object) :
    pool.Limited other := by
  unfold referToChild at h
  split_ifs at h with hid
  cases object with
  | deviceElement object =>
    cases h
    exact hlimited
  | device object | deviceProcessData object | deviceProperty object
  | deviceValuePresentation object =>
    cases h
    exact hlimited

theorem wellBuilt_addReferenceToChildObject (h : WellBuilt pool) (objectID childID : UInt16) :
    WellBuilt (pool.addReferenceToChildObject objectID childID) where
  ids := by
    have hids : (pool.addReferenceToChildObject objectID childID).objectList.map
        Object.getObjectId = pool.objectList.map Object.getObjectId :=
      map_replaceF (fun object other hrefer => (referToChild_same object other hrefer).1) _
    rw [hids]
    exact h.ids
  proper object hobject := by
    rcases mem_replaceF hobject with hobject | ⟨other, hother, hrefer⟩
    · exact h.proper object hobject
    · obtain ⟨hid, htype⟩ := referToChild_same other object hrefer
      rw [ProperID, hid, htype]
      exact h.proper other hother
  limited object hobject := by
    rcases mem_replaceF hobject with hobject | ⟨other, hother, hrefer⟩
    · exact h.limited object hobject
    · exact limited_referToChild hrefer (h.limited other hother)

theorem wellBuilt_call (h : WellBuilt pool) (call : BuildCall) : WellBuilt (pool.call call) := by
  cases call with
  | addDevice => exact wellBuilt_addDevice h _ _ _ _ _ _ _
  | addDeviceElement => exact wellBuilt_added h rfl (limitDesignator_limitDesignator _)
  | addDeviceProcessData => exact wellBuilt_added h rfl (limitDesignator_limitDesignator _)
  | addDeviceProperty => exact wellBuilt_added h rfl (limitDesignator_limitDesignator _)
  | addDeviceValuePresentation => exact wellBuilt_added h rfl (limitDesignator_limitDesignator _)
  | addReferenceToChildObject => exact wellBuilt_addReferenceToChildObject h _ _

theorem wellBuilt_empty (hempty : pool.objectList = []) : WellBuilt pool where
  ids := by rw [hempty]; exact List.nodup_nil
  proper object hobject := by simp [hempty] at hobject
  limited object hobject := by simp [hempty] at hobject

theorem wellBuilt_build (hempty : pool.objectList = []) (calls : List BuildCall) :
    WellBuilt (pool.build calls) :=
  foldl_invariant (fun _ call _ h => wellBuilt_call h call) (wellBuilt_empty hempty)

end DeviceDescriptorObjectPool

end Isobus.DeviceDescriptor
