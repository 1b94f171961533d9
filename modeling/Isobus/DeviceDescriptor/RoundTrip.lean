import Isobus.DeviceDescriptor.Building
import Isobus.DeviceDescriptor.ParserBounds

/-!
# Writing a pool and reading it back

A pool that is read from its own binary form has the same objects again, exactly if their
texts and their children fit the length fields that the reader accepts.
-/

namespace Isobus.DeviceDescriptor

open Isobus.Lib

@[simp] theorem length_tableID (type : ObjectTypes) : type.tableID.length = 3 := by
  cases type <;> rfl

@[simp] theorem length_bytes16 (value : UInt16) : (bytes16 value).length = 2 := rfl

@[simp] theorem length_bytes32 (value : UInt32) : (bytes32 value).length = 4 := rfl

@[simp] theorem length_bytes64 (value : UInt64) : (bytes64 value).length = 8 := rfl

@[simp] theorem length_sizedText (text : List UInt8) :
    (sizedText text).length = 1 + text.length := by
  rw [sizedText, List.length_cons, Nat.add_comm]

@[simp] theorem length_paddedLabel (label : List UInt8) : (paddedLabel label).length = 7 := by
  rw [paddedLabel, List.length_map, List.length_range]
  rfl

theorem length_flatMap_bytes16 (ids : List UInt16) :
    (ids.flatMap bytes16).length = 2 * ids.length := by
  induction ids with
  | nil => rfl
  | cons id ids ih =>
    rw [List.flatMap_cons, List.length_append, ih, length_bytes16, List.length_cons]
    omega

section Fields

variable {bytes : List UInt8} {start index : Nat}

theorem uint16At_of_standsAt {value : UInt16} (h : StandsAt bytes start (bytes16 value))
    (hindex : index = start) : uint16At bytes index = some value := by
  obtain ⟨hlow, h⟩ := standsAt_cons.mp h
  obtain ⟨hhigh, -⟩ := standsAt_cons.mp h
  rw [hindex, uint16At, hlow, hhigh]
  exact congrArg some (decode16_byteOf value)

theorem uint32At_of_standsAt {value : UInt32} (h : StandsAt bytes start (bytes32 value))
    (hindex : index = start) : uint32At bytes index = some value := by
  obtain ⟨h₀, h⟩ := standsAt_cons.mp h
  obtain ⟨h₁, h⟩ := standsAt_cons.mp h
  obtain ⟨h₂, h⟩ := standsAt_cons.mp h
  obtain ⟨h₃, -⟩ := standsAt_cons.mp h
  rw [hindex, uint32At, h₀, h₁, h₂, h₃]
  exact congrArg some (decode32_byteOf value)

theorem nameOfBytes_bytes64 (name : NAME) : nameOfBytes (bytes64 name) = name := by
  rw [← UInt64.toBitVec_inj]
  apply BitVec.eq_of_getLsbD_eq
  intro i hi
  simp only [nameOfBytes, bytes64, List.range, List.range.loop, List.foldl, List.getD]
  simp [-UInt64.toUInt64_toUInt8]
  interval_cases i <;> simp

theorem lengthByte_of_standsAt {text : List UInt8} {needed : Nat} {accepted : UInt8 → Bool}
    (h : StandsAt bytes start (sizedText text)) (hindex : index = start)
    (hneeded : needed ≤ bytes.length) (hlength : text.length < 256)
    (haccepted : accepted (UInt8.ofNat text.length) = true) :
    lengthByte bytes needed index accepted = some (text.length, true) := by
  rw [Deserializer.lengthByte_of hneeded (hindex ▸ (standsAt_cons.mp h).1) haccepted,
    UInt8.toNat_ofNat_of_lt' hlength]

theorem ofNat_lt_128 {n : Nat} (h : n < 128) : decide (UInt8.ofNat n < 128) = true := by
  rw [decide_eq_true_eq, UInt8.lt_iff_toNat_lt, UInt8.toNat_ofNat_of_lt' (h.trans (by decide))]
  exact h

theorem readBytes_of_standsAt {text : List UInt8} (h : StandsAt bytes start (sizedText text))
    (hindex : index = start + 1) : readBytes bytes index text.length = some text :=
  (standsAt_cons.mp h).2.readBytes hindex rfl

theorem paddedLabel_of_length {label : List UInt8}
    (h : label.length = MAX_STRUCTURE_AND_LOCALIZATION_LABEL_LENGTH) :
    paddedLabel label = label := by
  apply List.ext_getElem ((length_paddedLabel label).trans h.symm)
  intro i hi hi'
  simp only [paddedLabel, List.getElem_map, List.getElem_range]
  rw [List.getD_eq_getElem?_getD, List.getElem?_eq_getElem hi', Option.getD_some]

@[simp] theorem paddedLabel_paddedLabel (label : List UInt8) :
    paddedLabel (paddedLabel label) = paddedLabel label :=
  paddedLabel_of_length (length_paddedLabel label)

theorem readLabel_of_standsAt {label : LocalizationLabel}
    (h : StandsAt bytes start (paddedLabel label.val)) (hindex : index = start) :
    readLabel bytes index = some label := by
  rw [paddedLabel_of_length label.2] at h
  rw [readLabel, h.readBytes hindex label.2.symm]
  exact dif_pos label.2

theorem mapM_uint16At {ids : List UInt16} (h : StandsAt bytes start (ids.flatMap bytes16)) :
    (List.range ids.length).mapM (fun i => uint16At bytes (start + 2 * i)) = some ids := by
  induction ids generalizing start with
  | nil => rfl
  | cons id ids ih =>
    rw [List.flatMap_cons] at h
    obtain ⟨hid, hids⟩ := standsAt_append.mp h
    change StandsAt bytes (start + 2) _ at hids
    have hshift : (fun i => uint16At bytes (start + 2 * i)) ∘ Nat.succ =
        fun i => uint16At bytes (start + 2 + 2 * i) := by
      funext i
      exact congrArg (uint16At bytes) (by rw [Nat.succ_eq_add_one]; omega)
    rw [List.length_cons, List.range_succ_eq_map, List.mapM_cons, List.mapM_map, hshift, ih hids,
      uint16At_of_standsAt hid (by omega)]
    rfl

end Fields

namespace Object

/-- The texts and the children of an object that the length fields can carry at a level. -/
def Fits (level : UInt8) : Object → Prop
  | .device object => object.designator.length < 128 ∧ object.softwareVersion.length < 128 ∧
      object.serialNumber.length < 128 ∧ (level < 4 → object.extendedStructureLabel = [])
  | .deviceElement object => object.referenceList.length < 256
  | .deviceProcessData object => object.designator.length < 128
  | .deviceProperty object => object.designator.length < 128
  | .deviceValuePresentation object => object.designator.length < 128

def padded : Object → Object
  | .device object => .device { object with structureLabel := paddedLabel object.structureLabel }
  | other => other

variable (object : Object)

@[simp] theorem padded_padded : object.padded.padded = object.padded := by
  cases object <;> simp [padded]

@[simp] theorem getObjectId_padded : object.padded.getObjectId = object.getObjectId := by
  cases object <;> rfl

@[simp] theorem getObjectType_padded : object.padded.getObjectType = object.getObjectType := by
  cases object <;> rfl

@[simp] theorem getBinaryObject_padded :
    object.padded.getBinaryObject = object.getBinaryObject := by
  cases object with
  | device object =>
    simp only [padded, getBinaryObject, DeviceObject.getBinaryObject, paddedLabel_paddedLabel]
  | deviceElement object | deviceProcessData object | deviceProperty object
  | deviceValuePresentation object => rfl

@[simp] theorem fits_padded (level : UInt8) : object.padded.Fits level ↔ object.Fits level := by
  cases object <;> exact Iff.rfl

theorem getObjectId_of_device {object : Object} (h : object.getObjectType = .device) :
    object.getObjectId = 0 := by
  cases object with
  | device object => rfl
  | deviceElement | deviceProcessData | deviceProperty | deviceValuePresentation =>
    cases h

def knownNAME (clientNAME : NAME) : Object → NAME
  | .device object => if clientNAME = 0 then object.isoName else clientNAME
  | _ => clientNAME

end Object

def DeviceDescriptorObjectPool.withObjects (pool : DeviceDescriptorObjectPool)
    (objectList : List Object) : DeviceDescriptorObjectPool :=
  { pool with objectList := objectList }

namespace Deserializer

variable {state : Deserializer} {rest : List UInt8}

def reads (state : Deserializer) (object : Object) : ObjectRead :=
  ⟨object.getBinaryObject.length, true, object.knownNAME state.clientNAME,
    state.pool.append object.padded⟩

/-- An object that fits, in a place where it may be read. -/
structure Readable (state : Deserializer) (object : Object) : Prop where
  fits : object.Fits state.pool.taskControllerCompatibilityLevel
  limited : state.pool.Limited object
  proper : DeviceDescriptorObjectPool.ProperID object
  free : ∀ other ∈ state.pool.objectList, other.getObjectId ≠ object.getObjectId
  unnamed : object.getObjectType = .device → state.clientNAME = 0

theorem Readable.removeObjectWithId {object : Object} (h : Readable state object) :
    state.pool.removeObjectWithId object.getObjectId = state.pool := by
  rw [DeviceDescriptorObjectPool.removeObjectWithId, List.filter_eq_self.mpr]
  simpa using h.free

theorem Readable.checkObjectIdUnique {object : Object} (h : Readable state object)
    (hne : object.getObjectType ≠ .device) :
    state.pool.checkObjectIdUnique object.getObjectId = true :=
  decide_eq_true ⟨(h.proper hne).1, (h.proper hne).2,
    fun other hother => (h.free other hother).symm⟩

variable {size n : Nat} {r : ObjectRead}

theorem readNamed_eq {index : Nat} {object : Object}
    {fields : Nat → Option (UInt16 × (DeviceDescriptorObjectPool →
      Option DeviceDescriptorObjectPool))}
    (add : DeviceDescriptorObjectPool → Option DeviceDescriptorObjectPool)
    (h : Readable state object)
    (hn : lengthByte state.binaryPool (index + 1) index (· < 128) = some (n, true))
    (hfits : size + n ≤ state.binaryPool.length)
    (hfields : fields n = some (object.getObjectId, add))
    (hadd : add state.pool = some (state.pool.append object)) :
    state.readNamed index size fields =
      some ⟨size + n, true, state.clientNAME, state.pool.append object⟩ := by
  rw [readNamed, hn]
  simp only [Option.bind_eq_bind, Option.bind_some]
  rw [if_pos ⟨hfits, trivial⟩, hfields]
  simp only [Option.bind_some]
  rw [h.removeObjectWithId, hadd]
  rfl

/-! How long the binary objects are. -/

theorem length_binaryProcessData (object : DeviceProcessDataObject) :
    object.getBinaryObject.length = 12 + object.designator.length := by
  simp only [DeviceProcessDataObject.getBinaryObject, List.length_append, length_tableID,
    length_bytes16, length_sizedText, List.length_cons, List.length_nil]
  omega

theorem length_binaryProperty (object : DevicePropertyObject) :
    object.getBinaryObject.length = 14 + object.designator.length := by
  simp only [DevicePropertyObject.getBinaryObject, List.length_append, length_tableID,
    length_bytes16, length_bytes32, length_sizedText]
  omega

theorem length_binaryPresentation (object : DeviceValuePresentationObject) :
    object.getBinaryObject.length = 15 + object.designator.length := by
  simp only [DeviceValuePresentationObject.getBinaryObject, List.length_append, length_tableID,
    length_bytes16, length_bytes32, length_sizedText, List.length_cons, List.length_nil]
  omega

theorem length_binaryDevice (object : DeviceObject) :
    object.getBinaryObject.length = 30 + object.serialNumber.length + object.designator.length +
      object.softwareVersion.length +
      if object.useExtendedStructureLabel then 1 + object.extendedStructureLabel.length else 0 := by
  simp only [DeviceObject.getBinaryObject, List.length_append, length_tableID, length_bytes16,
    length_bytes64, length_sizedText, length_paddedLabel]
  split_ifs
  · rw [length_sizedText]
    omega
  · rw [List.length_nil]
    omega

theorem toNat_countOf {object : DeviceElementObject} (h : object.referenceList.length < 256) :
    (UInt16.ofNat object.referenceList.length).toNat = object.referenceList.length :=
  UInt16.toNat_ofNat_of_lt' (h.trans (by decide))

theorem length_binaryElement {object : DeviceElementObject}
    (h : object.referenceList.length < 256) :
    object.getBinaryObject.length =
      13 + 2 * object.referenceList.length + object.designator.length := by
  simp only [DeviceElementObject.getBinaryObject, toNat_countOf h, List.take_length,
    List.length_append, length_tableID, length_bytes16, length_sizedText, List.length_cons,
    List.length_nil, length_flatMap_bytes16]
  omega

theorem readDeviceProcessData_binary {object : DeviceProcessDataObject}
    (hbytes : state.binaryPool = object.getBinaryObject ++ rest)
    (h : Readable state (.deviceProcessData object)) :
    state.readDeviceProcessData = some (state.reads (.deviceProcessData object)) := by
  have hfits : object.designator.length < 128 := h.fits
  have hstands : StandsAt state.binaryPool 0 object.getBinaryObject := hbytes ▸ standsAt_zero _ _
  have hlength := length_binaryProcessData object
  have hlong : 12 + object.designator.length ≤ state.binaryPool.length := by
    rw [hbytes, List.length_append, hlength]
    omega
  simp only [DeviceProcessDataObject.getBinaryObject, standsAt_append, standsAt_cons,
    List.length_append, length_tableID, length_bytes16, length_sizedText, List.length_cons,
    List.length_nil, Nat.zero_add, Nat.reduceAdd] at hstands
  obtain ⟨⟨⟨⟨⟨-, hid⟩, hddi⟩, hproperties, htriggers, -⟩, hdesignator⟩, hpresentation⟩ := hstands
  rw [readDeviceProcessData, reads, Object.getBinaryObject, hlength]
  refine readNamed_eq (fun pool => pool.addDeviceProcessData object.designator object.ddi
    object.deviceValuePresentationObject object.propertiesBitfield object.triggerMethodsBitfield
    object.objectID) h (lengthByte_of_standsAt hdesignator rfl (by omega) (by omega)
    (ofNat_lt_128 hfits)) hlong ?_ ?_
  · dsimp only
    rw [uint16At_of_standsAt hddi rfl, uint16At_of_standsAt hid rfl,
      uint16At_of_standsAt hpresentation (by omega), readBytes_of_standsAt hdesignator rfl]
    simp only [Option.bind_eq_bind, Option.bind_some]
    rw [hproperties, htriggers]
    rfl
  · exact (if_pos (h.checkObjectIdUnique (by simp [Object.getObjectType]))).trans (by rw [show
      state.pool.limitDesignator object.designator = object.designator from h.limited]; rfl)

theorem readDeviceProperty_binary {object : DevicePropertyObject}
    (hbytes : state.binaryPool = object.getBinaryObject ++ rest)
    (h : Readable state (.deviceProperty object)) :
    state.readDeviceProperty = some (state.reads (.deviceProperty object)) := by
  have hfits : object.designator.length < 128 := h.fits
  have hstands : StandsAt state.binaryPool 0 object.getBinaryObject := hbytes ▸ standsAt_zero _ _
  have hlength := length_binaryProperty object
  have hlong : 14 + object.designator.length ≤ state.binaryPool.length := by
    rw [hbytes, List.length_append, hlength]
    omega
  simp only [DevicePropertyObject.getBinaryObject, standsAt_append, List.length_append,
    length_tableID, length_bytes16, length_bytes32, length_sizedText, Nat.zero_add,
    Nat.reduceAdd] at hstands
  obtain ⟨⟨⟨⟨⟨-, hid⟩, hddi⟩, hvalue⟩, hdesignator⟩, hpresentation⟩ := hstands
  rw [readDeviceProperty, reads, Object.getBinaryObject, hlength]
  refine readNamed_eq (fun pool => pool.addDeviceProperty object.designator object.value object.ddi
    object.deviceValuePresentationObject object.objectID) h (lengthByte_of_standsAt hdesignator rfl
    (by omega) (by omega) (ofNat_lt_128 hfits)) hlong ?_ ?_
  · dsimp only
    rw [uint32At_of_standsAt hvalue rfl, uint16At_of_standsAt hddi rfl,
      uint16At_of_standsAt hid rfl, uint16At_of_standsAt hpresentation (by omega),
      readBytes_of_standsAt hdesignator rfl]
    rfl
  · exact (if_pos (h.checkObjectIdUnique (by simp [Object.getObjectType]))).trans (by rw [show
      state.pool.limitDesignator object.designator = object.designator from h.limited]; rfl)

theorem readDeviceValuePresentation_binary {object : DeviceValuePresentationObject}
    (hbytes : state.binaryPool = object.getBinaryObject ++ rest)
    (h : Readable state (.deviceValuePresentation object)) :
    state.readDeviceValuePresentation = some (state.reads (.deviceValuePresentation object)) := by
  have hfits : object.designator.length < 128 := h.fits
  have hstands : StandsAt state.binaryPool 0 object.getBinaryObject := hbytes ▸ standsAt_zero _ _
  have hlength := length_binaryPresentation object
  have hlong : 15 + object.designator.length ≤ state.binaryPool.length := by
    rw [hbytes, List.length_append, hlength]
    omega
  simp only [DeviceValuePresentationObject.getBinaryObject, standsAt_append, standsAt_cons,
    List.length_append, length_tableID, length_bytes16, length_bytes32, List.length_cons,
    List.length_nil, Nat.zero_add, Nat.reduceAdd] at hstands
  obtain ⟨⟨⟨⟨⟨-, hid⟩, hoffset⟩, hscale⟩, hdecimals, -⟩, hdesignator⟩ := hstands
  rw [readDeviceValuePresentation, reads, Object.getBinaryObject, hlength]
  refine readNamed_eq (fun pool => pool.addDeviceValuePresentation object.designator object.offset
    object.scale object.numberOfDecimals object.objectID) h (lengthByte_of_standsAt hdesignator rfl
    (by omega) (by omega) (ofNat_lt_128 hfits)) hlong ?_ ?_
  · dsimp only
    rw [uint32At_of_standsAt hoffset rfl, uint32At_of_standsAt hscale rfl,
      uint16At_of_standsAt hid rfl, readBytes_of_standsAt hdesignator rfl]
    simp only [Option.bind_eq_bind, Option.bind_some]
    rw [hdecimals]
    rfl
  · exact (if_pos (h.checkObjectIdUnique (by simp [Object.getObjectType]))).trans (by rw [show
      state.pool.limitDesignator object.designator = object.designator from h.limited]; rfl)

/-! The children of an element come after it, one by one. -/

theorem replaceF_concat {α : Type} {f : α → Option α} {l : List α} {a b : α}
    (hl : ∀ c ∈ l, f c = none) (ha : f a = some b) : (l ++ [a]).replaceF f = l ++ [b] := by
  induction l with
  | nil =>
    rw [List.nil_append, List.replaceF_cons, ha]
    rfl
  | cons c l ih =>
    rw [List.cons_append, List.replaceF_cons, hl c List.mem_cons_self]
    exact congrArg (c :: ·) (ih fun d hd => hl d (List.mem_cons_of_mem c hd))

theorem foldl_addReferenceToChildObject {pool : DeviceDescriptorObjectPool}
    (object : DeviceElementObject)
    (hfree : ∀ other ∈ pool.objectList, other.getObjectId ≠ object.objectID)
    (childIDs : List UInt16) :
    childIDs.foldl (fun pool childID => pool.addReferenceToChildObject object.objectID childID)
        (pool.append (.deviceElement object)) =
      pool.append (.deviceElement
        { object with referenceList := object.referenceList ++ childIDs }) := by
  induction childIDs generalizing object with
  | nil => rw [List.foldl_nil, List.append_nil]
  | cons childID childIDs ih =>
    have hone : (pool.append (.deviceElement object)).addReferenceToChildObject object.objectID
        childID = pool.append (.deviceElement
          { object with referenceList := object.referenceList ++ [childID] }) := by
      have hnone : ∀ other ∈ pool.objectList,
          DeviceDescriptorObjectPool.referToChild object.objectID childID other = none :=
        fun other hother => if_neg (hfree other hother)
      have hhit : DeviceDescriptorObjectPool.referToChild object.objectID childID
          (.deviceElement object) = some (.deviceElement
            { object with referenceList := object.referenceList ++ [childID] }) := if_pos rfl
      rw [DeviceDescriptorObjectPool.addReferenceToChildObject, DeviceDescriptorObjectPool.append]
      rw [replaceF_concat hnone hhit]
      rfl
    rw [List.foldl_cons, hone]
    rw [ih { object with referenceList := object.referenceList ++ [childID] } hfree]
    simp

theorem toNat_byteOf_zero (h : n < 256) :
    (byteOf (UInt16.ofNat n).toUInt32 0).toNat = n := by
  rw [byteOf_eq]
  simp only [UInt32.mul_zero, UInt32.shiftRight_zero, UInt32.toNat_toUInt8, UInt16.toNat_toUInt32]
  rw [UInt16.toNat_ofNat_of_lt' (h.trans (by decide)), Nat.mod_eq_of_lt h]

theorem readDeviceElement_binary {object : DeviceElementObject}
    (hbytes : state.binaryPool = object.getBinaryObject ++ rest)
    (h : Readable state (.deviceElement object)) :
    state.readDeviceElement = some (state.reads (.deviceElement object)) := by
  have hchildren : object.referenceList.length < 256 := h.fits
  have hlimited : state.pool.limitDesignator object.designator = object.designator := h.limited
  have hdesignator : object.designator.length < 256 := by
    rw [← hlimited]
    exact (state.pool.length_limitDesignator _).2.trans_lt (by decide)
  have hcount := toNat_countOf hchildren
  have hstands : StandsAt state.binaryPool 0 object.getBinaryObject := hbytes ▸ standsAt_zero _ _
  have hlength := length_binaryElement hchildren
  have hlong : object.getBinaryObject.length ≤ state.binaryPool.length := by
    rw [hbytes, List.length_append]
    omega
  simp only [DeviceElementObject.getBinaryObject, hcount, List.take_length, standsAt_append,
    standsAt_cons, List.length_append, length_tableID, length_bytes16, length_sizedText,
    List.length_cons, List.length_nil, Nat.zero_add, Nat.reduceAdd] at hstands
  obtain ⟨⟨⟨⟨⟨⟨⟨-, hid⟩, htype, -⟩, htext⟩, hnumber⟩, hparent⟩, hsize⟩, hids⟩ := hstands
  obtain ⟨htext₀, htext₁⟩ := standsAt_cons.mp htext
  obtain ⟨hsize, -⟩ := standsAt_cons.mp hsize
  have hn := UInt8.toNat_ofNat_of_lt' hdesignator
  have hc := toNat_byteOf_zero hchildren
  generalize UInt8.ofNat object.designator.length = n at htext₀ hn
  generalize byteOf (UInt16.ofNat object.referenceList.length).toUInt32 0 = count at hsize hc
  have hsize' : state.binaryPool[11 + n.toNat]? = some count := by
    rw [← hsize]
    congr 1
    omega
  have hids' : (List.range count.toNat).mapM (fun i =>
      uint16At state.binaryPool (13 + 2 * i + n.toNat)) = some object.referenceList := by
    rw [hc, ← mapM_uint16At hids]
    congr 1
    funext i
    congr 1
    omega
  have hremove : state.pool.removeObjectWithId object.objectID = state.pool :=
    h.removeObjectWithId
  have hunique : state.pool.checkObjectIdUnique object.objectID = true :=
    h.checkObjectIdUnique (by simp [Object.getObjectType])
  rw [readDeviceElement_eq htype (DeviceElementType.toByte_le _) htext₀ hsize' (by omega)
    (uint16At_of_standsAt hparent (by omega)) (uint16At_of_standsAt hid rfl)
    (uint16At_of_standsAt hnumber (by omega)) (htext₁.readBytes rfl hn) hids', hremove,
    DeviceDescriptorObjectPool.addDeviceElement, if_pos hunique, hlimited,
    DeviceElementType.ofByte_toByte]
  rw [Option.map_some, foldl_addReferenceToChildObject
    { object with referenceList := [] } h.free object.referenceList]
  rw [reads, Object.getBinaryObject, hlength, hc, hn]
  rfl

/-! A device is the only one of its kind. -/

theorem Readable.removeObjectsWithType {object : DeviceObject}
    (h : Readable state (.device object)) :
    state.pool.removeObjectsWithType .device = state.pool := by
  rw [DeviceDescriptorObjectPool.removeObjectsWithType, List.filter_eq_self.mpr]
  intro other hother
  rw [decide_eq_true_eq]
  exact fun htype => h.free other hother (Object.getObjectId_of_device htype)

theorem Readable.addDevice {object : DeviceObject} (h : Readable state (.device object)) :
    state.pool.addDevice object.designator object.softwareVersion object.serialNumber
      (paddedLabel object.structureLabel) object.localizationLabel object.extendedStructureLabel
      object.isoName = some (state.pool.append (Object.device object).padded) := by
  obtain ⟨hdesignator, hserial, -, hextended, huse⟩ := h.limited
  have hnone : ¬∃ other ∈ state.pool.objectList, other.getObjectType = .device := by
    rintro ⟨other, hother, htype⟩
    exact h.free other hother (Object.getObjectId_of_device htype)
  have hpadded : (paddedLabel object.structureLabel).length ≤
      MAX_STRUCTURE_AND_LOCALIZATION_LABEL_LENGTH := (length_paddedLabel _).le
  rw [DeviceDescriptorObjectPool.addDevice, if_neg hnone, hdesignator, hserial,
    List.take_of_length_le hpadded, List.take_of_length_le hextended, ← huse]
  rfl

theorem readDevice_binary {object : DeviceObject}
    (hbytes : state.binaryPool = object.getBinaryObject ++ rest)
    (h : Readable state (.device object)) :
    state.readDevice = some (state.reads (.device object)) := by
  obtain ⟨hn, hm, ho, hlegacy⟩ := h.fits
  obtain ⟨-, -, -, hextended, huse⟩ := h.limited
  have hunnamed : state.clientNAME = 0 := h.unnamed rfl
  have hstands : StandsAt state.binaryPool 0 object.getBinaryObject := hbytes ▸ standsAt_zero _ _
  have hlength := length_binaryDevice object
  have hlong : object.getBinaryObject.length ≤ state.binaryPool.length := by
    rw [hbytes, List.length_append]
    omega
  simp only [DeviceObject.getBinaryObject, standsAt_append, List.length_append, length_tableID,
    length_bytes16, length_bytes64, length_sizedText, length_paddedLabel, Nat.zero_add,
    Nat.reduceAdd] at hstands
  obtain ⟨⟨⟨⟨⟨⟨⟨-, hdesignator⟩, hversion⟩, hname⟩, hserial⟩, hstructure⟩, hlabel⟩, hext⟩ := hstands
  have hfields (size : Nat) (hread : readBytes state.binaryPool (31 + object.serialNumber.length +
      object.designator.length + object.softwareVersion.length)
        object.extendedStructureLabel.length = some object.extendedStructureLabel) :
      state.readDeviceFields object.designator.length object.softwareVersion.length
        object.serialNumber.length object.extendedStructureLabel.length size =
      some ⟨size, true, object.isoName, state.pool.append (Object.device object).padded⟩ := by
    have hname' : readBytes state.binaryPool (7 + object.designator.length +
        object.softwareVersion.length) 8 = some (bytes64 object.isoName) :=
      hname.readBytes (by omega) rfl
    have hstructure' : readBytes state.binaryPool (16 + object.serialNumber.length +
        object.designator.length + object.softwareVersion.length) 7 =
          some (paddedLabel object.structureLabel) :=
      hstructure.readBytes (by omega) (length_paddedLabel _).symm
    rw [readDeviceFields]
    rw [readBytes_of_standsAt hdesignator rfl, readBytes_of_standsAt hversion (by omega), hname',
      readBytes_of_standsAt hserial (by omega), hstructure',
      readLabel_of_standsAt hlabel (by omega), hread]
    simp only [Option.bind_eq_bind, Option.bind_some, nameOfBytes_bytes64, hunnamed, if_true,
      decide_true, Bool.true_or]
    rw [h.removeObjectsWithType, h.addDevice]
    rfl
  rw [readDevice]
  rw [lengthByte_of_standsAt hdesignator rfl (by omega) (by omega) (ofNat_lt_128 hn)]
  simp only [Option.bind_eq_bind, Option.bind_some]
  rw [lengthByte_of_standsAt hversion (by omega) (by omega) (by omega) (ofNat_lt_128 hm)]
  simp only [Option.bind_some]
  rw [lengthByte_of_standsAt hserial (by omega) (by omega) (by omega) (ofNat_lt_128 ho)]
  simp only [Option.bind_some]
  by_cases hlevel : state.pool.taskControllerCompatibilityLevel ≥ 4
  · have huse' : object.useExtendedStructureLabel = true := huse.trans (decide_eq_true hlevel)
    rw [if_pos huse'] at hext hlength
    have he : decide (UInt8.ofNat object.extendedStructureLabel.length ≤ 32) = true := by
      rw [decide_eq_true_eq, UInt8.le_iff_toNat_le, UInt8.toNat_ofNat_of_lt'
        (hextended.trans_lt (by decide))]
      exact hextended
    have hsmall : object.extendedStructureLabel.length < 256 := hextended.trans_lt (by decide)
    rw [Deserializer.extendedLabelByte, if_pos hlevel,
      lengthByte_of_standsAt hext (by omega) (by omega) hsmall he]
    simp only [Option.bind_some, if_neg (UInt8.not_lt.mpr hlevel), Bool.and_true]
    rw [if_pos ⟨by omega, trivial⟩, hfields _ (readBytes_of_standsAt hext (by omega)), reads,
      Object.getBinaryObject, hlength, Object.knownNAME, if_pos hunnamed]
    congr 2
    omega
  · have hlow := UInt8.not_le.mp hlevel
    have huse' : object.useExtendedStructureLabel = false := huse.trans (decide_eq_false hlevel)
    have hempty : object.extendedStructureLabel = [] := hlegacy hlow
    rw [huse', if_neg Bool.false_ne_true] at hlength
    rw [hempty, List.length_nil] at hfields
    rw [Deserializer.extendedLabelByte, if_neg hlevel]
    simp only [Option.bind_some, if_pos hlow, Bool.and_true]
    rw [if_pos ⟨by omega, trivial⟩, hfields _ rfl, reads, Object.getBinaryObject, hlength,
      Object.knownNAME, if_pos hunnamed]
    congr 2
    omega

theorem getBinaryObject_eq (object : Object) : ∃ text, object.getBinaryObject =
    object.getObjectType.tableID ++ (bytes16 object.getObjectId ++ text) := by
  cases object with
  | device object | deviceElement object | deviceProcessData object | deviceProperty object
  | deviceValuePresentation object =>
    simp only [Object.getBinaryObject, DeviceObject.getBinaryObject,
      DeviceElementObject.getBinaryObject, DeviceProcessDataObject.getBinaryObject,
      DevicePropertyObject.getBinaryObject, DeviceValuePresentationObject.getBinaryObject,
      List.append_assoc]
    exact ⟨_, rfl⟩

theorem getBinaryObject_ne_nil (object : Object) : object.getBinaryObject ≠ [] := by
  obtain ⟨text, htext⟩ := getBinaryObject_eq object
  rw [htext]
  cases object <;> exact List.cons_ne_nil _ _

theorem readObject_binary {object : Object}
    (hbytes : state.binaryPool = object.getBinaryObject ++ rest) (h : Readable state object) :
    state.readObject = some (state.reads object) := by
  have hread : state.readAs object.getObjectType = some (state.reads object) := by
    cases object with
    | device object => exact readDevice_binary hbytes h
    | deviceElement object => exact readDeviceElement_binary hbytes h
    | deviceProcessData object => exact readDeviceProcessData_binary hbytes h
    | deviceProperty object => exact readDeviceProperty_binary hbytes h
    | deviceValuePresentation object => exact readDeviceValuePresentation_binary hbytes h
  obtain ⟨text, htext⟩ := getBinaryObject_eq object
  rw [readObject_eq ?_ object.getObjectType ?_, hread]
  · rw [hbytes, htext, List.length_append, List.length_append, List.length_append, length_tableID,
      length_bytes16]
    omega
  · rw [hbytes, htext, List.append_assoc, ← length_tableID object.getObjectType, List.take_left]

theorem deserializeObjects_binary {objects : List Object}
    (hbytes : state.binaryPool = objects.flatMap Object.getBinaryObject)
    (hids : ((state.pool.objectList ++ objects).map Object.getObjectId).Nodup)
    (hproper : ∀ object ∈ objects, DeviceDescriptorObjectPool.ProperID object)
    (hlimited : ∀ object ∈ objects, state.pool.Limited object)
    (hfits : ∀ object ∈ objects, object.Fits state.pool.taskControllerCompatibilityLevel)
    (hunnamed : (∃ object ∈ objects, object.getObjectType = .device) → state.clientNAME = 0) :
    state.deserializeObjects =
      some (true, state.pool.withObjects
        (state.pool.objectList ++ objects.map Object.padded)) := by
  induction objects generalizing state with
  | nil =>
    rw [deserializeObjects_nil hbytes, List.map_nil, List.append_nil]
    rfl
  | cons object objects ih =>
    rw [List.flatMap_cons] at hbytes
    have hne : state.binaryPool ≠ [] := by
      rw [hbytes]
      exact List.append_ne_nil_of_left_ne_nil (getBinaryObject_ne_nil object) _
    have hread := readObject_binary hbytes
      { fits := hfits object List.mem_cons_self
        limited := hlimited object List.mem_cons_self
        proper := hproper object List.mem_cons_self
        free := by
          intro other hother hid
          rw [List.map_append, List.nodup_append] at hids
          exact hids.2.2 _ (List.mem_map_of_mem hother) _
            (List.mem_map_of_mem List.mem_cons_self) hid
        unnamed := fun htype => hunnamed ⟨object, List.mem_cons_self, htype⟩ }
    refine (deserializeObjects_some hne hread).trans ((if_pos rfl).trans ?_)
    have hpool : (state.advance (state.reads object)).pool =
        state.pool.append object.padded := rfl
    rw [ih]
    · rw [hpool, DeviceDescriptorObjectPool.append, List.append_assoc]
      rfl
    · rw [advance, reads, hbytes, List.drop_left]
    · rw [hpool, DeviceDescriptorObjectPool.append, List.append_assoc]
      simpa using hids
    · exact fun other hother => hproper other (List.mem_cons_of_mem object hother)
    · exact fun other hother => hlimited other (List.mem_cons_of_mem object hother)
    · exact fun other hother => hfits other (List.mem_cons_of_mem object hother)
    · rintro ⟨other, hother, htype⟩
      have hzero := hunnamed ⟨other, List.mem_cons_of_mem object hother, htype⟩
      rw [List.map_append, List.nodup_append] at hids
      have hfirst := (List.nodup_cons.mp hids.2.1).1
      change object.knownNAME state.clientNAME = 0
      cases object with
      | device object =>
        exact absurd (List.mem_map.mpr ⟨other, hother, Object.getObjectId_of_device htype⟩)
          hfirst
      | deviceElement | deviceProcessData | deviceProperty | deviceValuePresentation =>
        exact hzero

theorem length_limitDesignator_le (pool : DeviceDescriptorObjectPool) (designator : List UInt8) :
    (pool.limitDesignator designator).length ≤ designator.length := by
  unfold DeviceDescriptorObjectPool.limitDesignator
  split_ifs
  · exact List.length_take_le' _ _
  · exact List.length_take_le' _ _
  · exact Nat.le_refl _

theorem lt_of_lengthByte {bytes : List UInt8} {needed index : Nat}
    (h : lengthByte bytes needed index (· < 128) = some (n, true)) : n < 128 := by
  obtain ⟨-, b, -, hb, rfl⟩ := lengthByte_eq h
  exact UInt8.lt_iff_toNat_lt.mp (of_decide_eq_true hb)

def AddsFitting (pool pool' : DeviceDescriptorObjectPool) : Prop :=
  pool'.taskControllerCompatibilityLevel = pool.taskControllerCompatibilityLevel ∧
    ∀ object ∈ pool'.objectList, object ∈ pool.objectList ∨
      object.Fits pool.taskControllerCompatibilityLevel

theorem addsFitting_append {pool : DeviceDescriptorObjectPool} {object : Object}
    (p : Object → Bool) (hfits : object.Fits pool.taskControllerCompatibilityLevel) :
    AddsFitting pool ((pool.withObjects (pool.objectList.filter p)).append object) := by
  refine ⟨rfl, fun other hother => ?_⟩
  rcases List.mem_append.mp hother with hother | hother
  · exact .inl (List.mem_of_mem_filter hother)
  · rw [List.mem_singleton.mp hother]
    exact .inr hfits

theorem conclude_added {cleared : DeviceDescriptorObjectPool}
    {added : Option DeviceDescriptorObjectPool}
    (h : (state.conclude size cleared added).retVal = true) :
    added = some (state.conclude size cleared added).pool := by
  cases added with
  | none => cases h
  | some pool => rfl

theorem added_eq {pool pool' : DeviceDescriptorObjectPool} {id : UInt16} {object : Object}
    (h : (if pool.checkObjectIdUnique id = true then some (pool.append object) else none) =
      some pool') : pool.checkObjectIdUnique id = true ∧ pool' = pool.append object := by
  split_ifs at h with hunique
  exact ⟨hunique, (Option.some.inj h).symm⟩

theorem readNamed_adds {index : Nat}
    {fields : Nat → Option (UInt16 × (DeviceDescriptorObjectPool →
      Option DeviceDescriptorObjectPool))}
    (hfields : ∀ n id add pool pool', fields n = some (id, add) → add pool = some pool' →
      n < 128 → ∃ object, pool' = pool.append object ∧
        object.Fits pool.taskControllerCompatibilityLevel)
    (h : state.readNamed index size fields = some r) (haccepted : r.retVal = true) :
    AddsFitting state.pool r.pool := by
  obtain ⟨⟨n, validDesignator⟩, hn, h₁⟩ := Option.bind_eq_some_iff.mp h
  dsimp only at hn h₁
  split_ifs at h₁ with hvalid
  · obtain ⟨-, rfl⟩ := hvalid
    obtain ⟨⟨id, add⟩, hread, h₂⟩ := Option.bind_eq_some_iff.mp h₁
    rw [← Option.some.inj h₂] at haccepted ⊢
    obtain ⟨object, hobject, hfits⟩ :=
      hfields n id add _ _ hread (conclude_added haccepted) (lt_of_lengthByte hn)
    rw [hobject]
    exact addsFitting_append _ hfits
  · cases h₁
    cases haccepted

theorem length_limited {pool : DeviceDescriptorObjectPool} {bytes text : List UInt8}
    {start : Nat} (h : readBytes bytes start n = some text) (hn : n < 128) :
    (pool.limitDesignator text).length < 128 := by
  have hlength := length_limitDesignator_le pool text
  rw [length_of_readBytes h] at hlength
  omega

theorem readDeviceProcessData_adds (h : state.readDeviceProcessData = some r)
    (haccepted : r.retVal = true) : AddsFitting state.pool r.pool := by
  refine readNamed_adds (fun n id add pool pool' hread hadd hn => ?_) h haccepted
  simp only [Option.bind_eq_bind, Option.bind_eq_some_iff] at hread
  obtain ⟨ddi, -, uniqueID, -, presentation, -, designator, hdesignator, properties, -,
    triggerMethods, -, h₆⟩ := hread
  cases h₆
  exact ⟨_, (added_eq hadd).2, length_limited hdesignator hn⟩

theorem readDeviceProperty_adds (h : state.readDeviceProperty = some r)
    (haccepted : r.retVal = true) : AddsFitting state.pool r.pool := by
  refine readNamed_adds (fun n id add pool pool' hread hadd hn => ?_) h haccepted
  simp only [Option.bind_eq_bind, Option.bind_eq_some_iff] at hread
  obtain ⟨value, -, ddi, -, uniqueID, -, presentation, -, designator, hdesignator, h₅⟩ := hread
  cases h₅
  exact ⟨_, (added_eq hadd).2, length_limited hdesignator hn⟩

theorem readDeviceValuePresentation_adds (h : state.readDeviceValuePresentation = some r)
    (haccepted : r.retVal = true) :
    AddsFitting state.pool r.pool := by
  refine readNamed_adds (fun n id add pool pool' hread hadd hn => ?_) h haccepted
  simp only [Option.bind_eq_bind, Option.bind_eq_some_iff] at hread
  obtain ⟨offset, -, scale, -, uniqueID, -, designator, hdesignator, numberOfDecimals, -,
    h₅⟩ := hread
  cases h₅
  exact ⟨_, (added_eq hadd).2, length_limited hdesignator hn⟩

theorem readDeviceElement_adds (h : state.readDeviceElement = some r)
    (haccepted : r.retVal = true) : AddsFitting state.pool r.pool := by
  simp only [readDeviceElement, Option.bind_eq_bind, Option.bind_eq_some_iff] at h
  obtain ⟨⟨n, validDesignator⟩, hn, ⟨count, validReferences⟩, hcount, elementType, htype, h₃⟩ := h
  split_ifs at h₃ with hvalid
  · obtain ⟨-, hvalid⟩ := hvalid
    simp only [Bool.and_eq_true, decide_eq_true_eq] at hvalid
    obtain ⟨⟨rfl, rfl⟩, -⟩ := hvalid
    obtain ⟨-, b, -, -, rfl⟩ := lengthByte_eq hcount
    simp only [Option.bind_eq_bind, Option.bind_eq_some_iff] at h₃
    obtain ⟨parentObject, -, uniqueID, -, elementNumber, -, designator, -, childIDs, hchildren,
      h₈⟩ := h₃
    rw [← Option.some.inj h₈] at haccepted ⊢
    obtain ⟨pool, hadd, hpool⟩ := Option.map_eq_some_iff.mp (conclude_added haccepted)
    obtain ⟨hunique, rfl⟩ := added_eq hadd
    have hfree := (of_decide_eq_true hunique).2.2
    have hfold := foldl_addReferenceToChildObject
      { designator := (state.pool.removeObjectWithId uniqueID).limitDesignator designator
        objectID := uniqueID, elementNumber, parentObject
        elementType := DeviceElementType.ofByte elementType }
      (fun other hother => (hfree other hother).symm) childIDs
    rw [← hpool, hfold]
    refine addsFitting_append _ ?_
    change ([] ++ childIDs).length < 256
    rw [List.nil_append, length_of_mapM hchildren, List.length_range]
    exact b.toNat_lt
  · cases h₃
    cases haccepted

theorem readDeviceFields_adds {m o e : Nat} (hn : n < 128) (hm : m < 128) (ho : o < 128)
    (he : state.pool.taskControllerCompatibilityLevel < 4 → e = 0)
    (h : state.readDeviceFields n m o e size = some r) (haccepted : r.retVal = true) :
    AddsFitting state.pool r.pool := by
  obtain ⟨designator, hdesignator, h₁⟩ := Option.bind_eq_some_iff.mp h
  obtain ⟨softwareVersion, hversion, h₂⟩ := Option.bind_eq_some_iff.mp h₁
  obtain ⟨name, -, h₃⟩ := Option.bind_eq_some_iff.mp h₂
  obtain ⟨serialNumber, hserial, h₄⟩ := Option.bind_eq_some_iff.mp h₃
  obtain ⟨structureLabel, -, h₅⟩ := Option.bind_eq_some_iff.mp h₄
  obtain ⟨localizationLabel, -, h₆⟩ := Option.bind_eq_some_iff.mp h₅
  obtain ⟨extended, hextended, h₇⟩ := Option.bind_eq_some_iff.mp h₆
  dsimp only at h₇
  split at h₇
  · next pool hadd =>
    cases h₇
    have hnone : ¬∃ other ∈ (state.pool.removeObjectsWithType .device).objectList,
        other.getObjectType = .device := by
      rintro ⟨other, hother, htype⟩
      exact of_decide_eq_true (List.mem_filter.mp hother).2 htype
    rw [DeviceDescriptorObjectPool.addDevice, if_neg hnone] at hadd
    cases hadd
    refine addsFitting_append _ ⟨length_limited hdesignator hn, ?_, length_limited hserial ho, ?_⟩
    · rw [length_of_readBytes hversion]
      exact hm
    · intro hlow
      have hempty : extended = [] := by
        rw [← List.length_eq_zero_iff, length_of_readBytes hextended, he hlow]
      rw [hempty, List.take_nil]
  · cases h₇
    cases haccepted

theorem readDevice_adds (h : state.readDevice = some r) (haccepted : r.retVal = true) :
    AddsFitting state.pool r.pool := by
  simp only [readDevice, Option.bind_eq_bind, Option.bind_eq_some_iff] at h
  obtain ⟨⟨n, validDesignator⟩, hn, ⟨m, validSoftwareVersion⟩, hm, ⟨o, validSerialNumber⟩, ho,
    ⟨e, validExtendedLabel⟩, he, h₄⟩ := h
  obtain ⟨size, hsize⟩ : ∃ size, (if state.pool.taskControllerCompatibilityLevel < 4 then
    31 + o + n + m + e - 1 else 31 + o + n + m + e) = size := ⟨_, rfl⟩
  rw [hsize] at h₄
  split_ifs at h₄ with hvalid
  · obtain ⟨-, hvalid⟩ := hvalid
    simp only [Bool.and_eq_true] at hvalid
    obtain ⟨⟨⟨rfl, rfl⟩, rfl⟩, rfl⟩ := hvalid
    refine readDeviceFields_adds (lt_of_lengthByte hn) (lt_of_lengthByte hm)
      (lt_of_lengthByte ho) (fun hlow => ?_) h₄ haccepted
    rw [extendedLabelByte, if_neg (UInt8.not_le.mpr hlow)] at he
    exact (congrArg Prod.fst (Option.some.inj he)).symm
  · cases h₄
    cases haccepted

theorem readObject_adds (h : state.readObject = some r) (haccepted : r.retVal = true) :
    AddsFitting state.pool r.pool := by
  obtain ⟨-, type, -, h⟩ := readObject_accepted h haccepted
  cases type with
  | device => exact readDevice_adds h haccepted
  | deviceElement => exact readDeviceElement_adds h haccepted
  | deviceProcessData => exact readDeviceProcessData_adds h haccepted
  | deviceProperty => exact readDeviceProperty_adds h haccepted
  | deviceValuePresentation => exact readDeviceValuePresentation_adds h haccepted

theorem deserializeObjects_fits {level : UInt8} {pool : DeviceDescriptorObjectPool}
    (state : Deserializer) (hlevel : state.pool.taskControllerCompatibilityLevel = level)
    (hfits : ∀ object ∈ state.pool.objectList, object.Fits level)
    (h : state.deserializeObjects = some (true, pool)) :
    ∀ object ∈ pool.objectList, object.Fits level := by
  by_cases hne : state.binaryPool = []
  · rw [deserializeObjects_nil hne] at h
    cases h
    exact hfits
  · cases hread : state.readObject with
    | none =>
      rw [deserializeObjects_none hne hread] at h
      cases h
    | some r =>
      rw [deserializeObjects_some hne hread] at h
      split_ifs at h with haccepted
      · obtain ⟨hsame, hadds⟩ := readObject_adds hread haccepted
        refine deserializeObjects_fits (state.advance r) (hsame.trans hlevel) ?_ h
        intro object hobject
        rcases hadds object hobject with hold | hnew
        · exact hfits object hold
        · exact hlevel ▸ hnew
      · exact absurd (congrArg Prod.fst (Option.some.inj h)) Bool.false_ne_true
termination_by state.binaryPool.length
decreasing_by exact length_advance hread haccepted

end Deserializer

namespace DeviceDescriptorObjectPool

variable {pool : DeviceDescriptorObjectPool}

theorem generateBinaryObjectPool_eq (hresolves : pool.resolveParentIdsToObjects = true) :
    pool.generateBinaryObjectPool = some (pool.objectList.flatMap Object.getBinaryObject) := by
  have hfold (objects : List Object) (before : List UInt8) :
      objects.foldlM (fun resultantPool currentObject =>
        if currentObject.getBinaryObject ≠ [] then
          some (resultantPool ++ currentObject.getBinaryObject)
        else none) before = some (before ++ objects.flatMap Object.getBinaryObject) := by
    induction objects generalizing before with
    | nil => rw [List.flatMap_nil, List.append_nil]; rfl
    | cons object objects ih =>
      have hne : object.getBinaryObject ≠ [] := Deserializer.getBinaryObject_ne_nil object
      rw [List.foldlM_cons, if_pos hne, List.flatMap_cons, ← List.append_assoc, ← ih]
      rfl
  rw [generateBinaryObjectPool, if_pos hresolves, hfold, List.nil_append]

theorem length_getBinaryObject_le {object : Object} (hlimited : pool.Limited object)
    (hfits : object.Fits pool.taskControllerCompatibilityLevel) :
    object.getBinaryObject.length ≤ 1024 := by
  cases object with
  | device object =>
    obtain ⟨hn, hm, ho, -⟩ := hfits
    obtain ⟨-, -, -, hextended, -⟩ := hlimited
    change object.extendedStructureLabel.length ≤ 32 at hextended
    rw [Object.getBinaryObject, Deserializer.length_binaryDevice]
    split_ifs <;> omega
  | deviceElement object =>
    have hdesignator : object.designator.length ≤ 128 := by
      rw [← show pool.limitDesignator object.designator = object.designator from hlimited]
      exact (pool.length_limitDesignator _).2
    have hchildren : object.referenceList.length < 256 := hfits
    rw [Object.getBinaryObject, Deserializer.length_binaryElement hchildren]
    omega
  | deviceProcessData object =>
    have hn : object.designator.length < 128 := hfits
    rw [Object.getBinaryObject, Deserializer.length_binaryProcessData]
    omega
  | deviceProperty object =>
    have hn : object.designator.length < 128 := hfits
    rw [Object.getBinaryObject, Deserializer.length_binaryProperty]
    omega
  | deviceValuePresentation object =>
    have hn : object.designator.length < 128 := hfits
    rw [Object.getBinaryObject, Deserializer.length_binaryPresentation]
    omega

theorem length_flatMap_le {objects : List Object}
    (h : ∀ object ∈ objects, object.getBinaryObject.length ≤ 1024) :
    (objects.flatMap Object.getBinaryObject).length ≤ 1024 * objects.length := by
  induction objects with
  | nil => exact Nat.le_refl 0
  | cons object objects ih =>
    have hfirst := h object List.mem_cons_self
    have hrest := ih fun other hother => h other (List.mem_cons_of_mem object hother)
    rw [List.flatMap_cons, List.length_append, List.length_cons]
    omega

theorem length_le_of_nodup {ids : List UInt16} (h : ids.Nodup) : ids.length ≤ 65536 := by
  have hnodup : (ids.map UInt16.toNat).Nodup := h.map fun _ _ => UInt16.toNat_inj.mp
  have hsubset : ids.map UInt16.toNat ⊆ List.range 65536 := by
    intro n hn
    obtain ⟨id, -, rfl⟩ := List.mem_map.mp hn
    exact List.mem_range.mpr id.toNat_lt
  have hle := (List.subperm_of_subset hnodup hsubset).length_le
  rwa [List.length_map, List.length_range] at hle

/-! What a pool resolves does not depend on its structure labels. -/

theorem getObjectById_padded (objectID : UInt16) :
    (pool.withObjects (pool.objectList.map Object.padded)).getObjectById objectID =
      (pool.getObjectById objectID).map Object.padded := by
  rw [getObjectById, withObjects, List.find?_map]
  congr 2
  funext object
  rw [Function.comp_apply, Object.getObjectId_padded]

theorem resolveParentIdsToObjects_padded :
    (pool.withObjects (pool.objectList.map Object.padded)).resolveParentIdsToObjects =
      pool.resolveParentIdsToObjects := by
  have hpresentation (objectID : UInt16) :
      (pool.withObjects (pool.objectList.map Object.padded)).resolvesPresentation objectID =
        pool.resolvesPresentation objectID := by
    simp only [resolvesPresentation, getObjectById_padded, Option.any_map,
      Object.getObjectType_padded]
  have hobject (object : Object) :
      (pool.withObjects (pool.objectList.map Object.padded)).resolvesObject object.padded =
        pool.resolvesObject object := by
    cases object with
    | device object | deviceValuePresentation object => rfl
    | deviceElement object =>
      change resolvesObject _ (.deviceElement object) = _
      simp only [resolvesObject, getObjectById_padded, Option.any_map,
        Object.getObjectType_padded]
    | deviceProcessData object => exact hpresentation _
    | deviceProperty object => exact hpresentation _
  rw [resolveParentIdsToObjects, withObjects, List.all_map]
  exact congrArg pool.objectList.all (funext hobject)

def RoundTrips (pool : DeviceDescriptorObjectPool) (binary : List UInt8) : Prop :=
  ∃ readPool, (pool.withObjects []).deserializeBinaryObjectPool binary 0 = some (true, readPool) ∧
    readPool.objectList.map Object.padded = pool.objectList.map Object.padded ∧
    readPool.generateBinaryObjectPool = some binary

variable {binary : List UInt8}

theorem resolves_of_generate (h : pool.generateBinaryObjectPool = some binary) :
    pool.resolveParentIdsToObjects = true ∧
      binary = pool.objectList.flatMap Object.getBinaryObject := by
  by_cases hresolves : pool.resolveParentIdsToObjects = true
  · rw [generateBinaryObjectPool_eq hresolves] at h
    exact ⟨hresolves, (Option.some.inj h).symm⟩
  · rw [generateBinaryObjectPool, if_neg hresolves] at h
    cases h

theorem roundTrips_of_fits (hbuilt : WellBuilt pool) (hne : pool.objectList ≠ [])
    (hgenerate : pool.generateBinaryObjectPool = some binary)
    (hfits : ∀ object ∈ pool.objectList, object.Fits pool.taskControllerCompatibilityLevel) :
    RoundTrips pool binary := by
  obtain ⟨hresolves, rfl⟩ := resolves_of_generate hgenerate
  have hsize : (pool.objectList.flatMap Object.getBinaryObject).length < 2 ^ 32 := by
    have hobjects := length_flatMap_le fun object hobject =>
      length_getBinaryObject_le (hbuilt.limited object hobject) (hfits object hobject)
    have hcount := length_le_of_nodup hbuilt.ids
    rw [List.length_map] at hcount
    omega
  have hnonempty : pool.objectList.flatMap Object.getBinaryObject ≠ [] := by
    obtain ⟨object, objects, hobjects⟩ := List.exists_cons_of_ne_nil hne
    rw [hobjects, List.flatMap_cons]
    exact List.append_ne_nil_of_left_ne_nil (Deserializer.getBinaryObject_ne_nil object) _
  refine ⟨pool.withObjects (pool.objectList.map Object.padded), ?_, ?_, ?_⟩
  · rw [deserializeBinaryObjectPool]
    rw [Nat.mod_eq_of_lt hsize, List.take_length, if_neg hnonempty]
    exact Deserializer.deserializeObjects_binary rfl hbuilt.ids hbuilt.proper hbuilt.limited
      hfits fun _ => rfl
  · rw [withObjects, List.map_map]
    exact List.map_congr_left fun object _ => object.padded_padded
  · rw [generateBinaryObjectPool_eq (resolveParentIdsToObjects_padded.trans hresolves)]
    rw [withObjects, List.flatMap_map]
    simp only [Object.getBinaryObject_padded]

theorem fits_of_roundTrips (h : RoundTrips pool binary) :
    ∀ object ∈ pool.objectList, object.Fits pool.taskControllerCompatibilityLevel := by
  obtain ⟨readPool, hread, hsame, -⟩ := h
  rw [deserializeBinaryObjectPool] at hread
  split_ifs at hread
  · exact absurd (congrArg Prod.fst (Option.some.inj hread)) Bool.false_ne_true
  · have hfits := Deserializer.deserializeObjects_fits _ rfl
      (fun object hobject => absurd hobject List.not_mem_nil) hread
    intro object hobject
    have hpadded : object.padded ∈ readPool.objectList.map Object.padded := by
      rw [hsame]
      exact List.mem_map_of_mem hobject
    obtain ⟨other, hother, heq⟩ := List.mem_map.mp hpadded
    rw [← Object.fits_padded, ← heq, Object.fits_padded]
    exact hfits other hother

/-- A pool with a device is read back as it was written exactly if its objects fit. -/
theorem roundTrips_iff {pool : DeviceDescriptorObjectPool} {calls : List BuildCall}
    {device : DeviceObject} {binary : List UInt8} (hempty : pool.objectList = [])
    (hdevice : .device device ∈ (pool.build calls).objectList)
    (hgenerate : (pool.build calls).generateBinaryObjectPool = some binary) :
    RoundTrips (pool.build calls) binary ↔ ∀ object ∈ (pool.build calls).objectList,
      object.Fits (pool.build calls).taskControllerCompatibilityLevel :=
  ⟨fits_of_roundTrips, roundTrips_of_fits (wellBuilt_build hempty calls)
    (List.ne_nil_of_mem hdevice) hgenerate⟩

/-! Devices of version 4, one of them with the longest designator that a pool keeps. -/

def emptyVersion4 : DeviceDescriptorObjectPool := ⟨[], 4, by decide⟩

def designatedDevice (designator : List UInt8) : BuildCall :=
  .addDevice designator [0x31] [0x32] [0x53] ⟨List.replicate 7 0x20, rfl⟩ [] 1

theorem length_of_roundTrips {designator : List UInt8}
    (h : RoundTrips (emptyVersion4.build [designatedDevice designator]) binary) :
    (emptyVersion4.limitDesignator designator).length < 128 :=
  (fits_of_roundTrips h _ (List.mem_singleton.mpr rfl)).1

/-- The designator is written with its length of 128, which the reader refuses. -/
theorem longDesignator_not_roundTrips :
    ∃ device binary, let pool := emptyVersion4.build [designatedDevice (.replicate 128 0x41)]
      .device device ∈ pool.objectList ∧ device.isoName ≠ 0 ∧
        pool.generateBinaryObjectPool = some binary ∧ ¬RoundTrips pool binary := by
  refine ⟨_, _, List.mem_singleton.mpr rfl, by decide, generateBinaryObjectPool_eq rfl,
    fun hround => ?_⟩
  have hlength := length_of_roundTrips hround
  have hkept : emptyVersion4.limitDesignator (.replicate 128 0x41) = .replicate 128 0x41 :=
    limitDesignator_of_le (fun hlow => absurd hlow (by decide))
      (by rw [List.length_replicate]; decide)
  rw [hkept, List.length_replicate] at hlength
  exact Nat.lt_irrefl 128 hlength

theorem shortDesignator_roundTrips :
    ∃ binary, (emptyVersion4.build [designatedDevice [0x41]]).generateBinaryObjectPool =
      some binary ∧ RoundTrips (emptyVersion4.build [designatedDevice [0x41]]) binary := by
  have hgenerate : (emptyVersion4.build [designatedDevice [0x41]]).generateBinaryObjectPool =
      some _ := generateBinaryObjectPool_eq rfl
  refine ⟨_, hgenerate, (roundTrips_iff rfl (List.mem_singleton.mpr rfl) hgenerate).mpr ?_⟩
  intro object hobject
  rw [List.mem_singleton.mp hobject]
  exact ⟨by decide, by decide, by decide, fun _ => rfl⟩

end DeviceDescriptorObjectPool

end Isobus.DeviceDescriptor
