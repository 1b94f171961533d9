import Isobus.DeviceDescriptor.ObjectPool

/-!
# Reading stays inside the pool

Every length is checked before it is used, except that the type of an element is looked at
in however short a rest; and of the number of children only the low byte is read.
-/

namespace Isobus.DeviceDescriptor

open Isobus.Lib

namespace Deserializer

variable {state : Deserializer} {bytes : List UInt8}

/-- A rest that begins like an element reaches as far as the element type. -/
def ShowsType (bytes : List UInt8) : Prop :=
  bytes.length > 3 → bytes.take 3 = ObjectTypes.deviceElement.tableID → 6 ≤ bytes.length

def CountsInByte (bytes : List UInt8) : Prop :=
  bytes.take 3 = ObjectTypes.deviceElement.tableID → ∀ n count : UInt8,
    AcceptsElement bytes n count → bytes[12 + n.toNat]? = some 0

variable {index : Nat}

theorem lengthByte_isSome {needed : Nat} {accepted : UInt8 → Bool} (h : index < needed) :
    (lengthByte bytes needed index accepted).isSome := by
  unfold lengthByte
  split_ifs with hneeded
  · exact isSome_bind (getElem?_isSome (by omega)) fun _ _ => rfl
  · rfl

theorem uint16At_isSome (h : index + 1 < bytes.length) :
    (uint16At bytes index).isSome :=
  isSome_bind (getElem?_isSome (by omega)) fun _ _ =>
    isSome_bind (getElem?_isSome h) fun _ _ => rfl

theorem uint32At_isSome (h : index + 3 < bytes.length) :
    (uint32At bytes index).isSome :=
  isSome_bind (getElem?_isSome (by omega)) fun _ _ =>
    isSome_bind (getElem?_isSome (by omega)) fun _ _ =>
      isSome_bind (getElem?_isSome (by omega)) fun _ _ =>
        isSome_bind (getElem?_isSome h) fun _ _ => rfl

theorem readLabel_isSome {start : Nat}
    (h : start + MAX_STRUCTURE_AND_LOCALIZATION_LABEL_LENGTH ≤ bytes.length) :
    (readLabel bytes start).isSome := by
  refine isSome_bind (readBytes_isSome h) fun label hlabel => ?_
  rw [readBytes_eq_some h] at hlabel
  have hlength : label.length = MAX_STRUCTURE_AND_LOCALIZATION_LABEL_LENGTH := by
    rw [← Option.some.inj hlabel, List.length_take, List.length_drop]
    omega
  rw [dif_pos hlength]
  rfl

theorem readDeviceFields_isSome {n m o e size : Nat}
    (hlabels : 30 + o + n + m ≤ state.binaryPool.length)
    (hextended : e = 0 ∨ 31 + o + n + m + e ≤ state.binaryPool.length) :
    (state.readDeviceFields n m o e size).isSome := by
  have hlabel : 23 + o + n + m + MAX_STRUCTURE_AND_LOCALIZATION_LABEL_LENGTH ≤
      state.binaryPool.length := by
    change 23 + o + n + m + 7 ≤ _
    omega
  refine isSome_bind (readBytes_isSome (by omega)) fun _ _ =>
    isSome_bind (readBytes_isSome (by omega)) fun _ _ =>
    isSome_bind (readBytes_isSome (by omega)) fun _ _ =>
    isSome_bind (readBytes_isSome (by omega)) fun _ _ =>
    isSome_bind (readBytes_isSome (by omega)) fun _ _ =>
    isSome_bind (readLabel_isSome hlabel) fun _ _ => isSome_bind ?_ fun _ _ => ?_
  · rcases hextended with rfl | hextended
    · rfl
    · exact readBytes_isSome hextended
  · dsimp only
    split <;> rfl

theorem extendedLabelByte_isSome (index : Nat) : (state.extendedLabelByte index).isSome := by
  unfold extendedLabelByte
  split_ifs
  · exact lengthByte_isSome (Nat.lt_succ_self index)
  · rfl

theorem readDevice_isSome : state.readDevice.isSome := by
  refine isSome_bind (lengthByte_isSome (by omega)) fun ⟨n, validDesignator⟩ _ =>
    isSome_bind (lengthByte_isSome (by omega)) fun ⟨m, validSoftwareVersion⟩ _ =>
    isSome_bind (lengthByte_isSome (by omega)) fun ⟨o, validSerialNumber⟩ _ =>
    isSome_bind (extendedLabelByte_isSome _) fun ⟨e, validExtendedLabel⟩ he => ?_
  dsimp only
  by_cases hlevel : state.pool.taskControllerCompatibilityLevel < 4
  · have hzero : e = 0 := by
      rw [extendedLabelByte, if_neg (UInt8.not_le.mpr hlevel)] at he
      exact (congrArg Prod.fst (Option.some.inj he)).symm
    rw [if_pos hlevel]
    split_ifs with hvalid
    · exact readDeviceFields_isSome (by omega) (.inl hzero)
    · rfl
  · rw [if_neg hlevel]
    split_ifs with hvalid
    · exact readDeviceFields_isSome (by omega) (.inr hvalid.1)
    · rfl

theorem readDeviceElement_isSome :
    state.readDeviceElement.isSome ↔ 6 ≤ state.binaryPool.length := by
  constructor
  · intro h
    obtain ⟨r, h⟩ := Option.isSome_iff_exists.mp h
    obtain ⟨_, -, h₁⟩ := Option.bind_eq_some_iff.mp h
    obtain ⟨_, -, h₂⟩ := Option.bind_eq_some_iff.mp h₁
    obtain ⟨_, htype, -⟩ := Option.bind_eq_some_iff.mp h₂
    exact (List.getElem?_eq_some_iff.mp htype).1
  · intro hlength
    refine isSome_bind (lengthByte_isSome (by omega)) fun ⟨n, validDesignator⟩ _ =>
      isSome_bind (lengthByte_isSome (by omega)) fun ⟨count, validReferences⟩ _ =>
      isSome_bind (getElem?_isSome (by omega)) fun elementType _ => ?_
    dsimp only
    split_ifs with hvalid
    · have hfits := hvalid.1
      refine isSome_bind (uint16At_isSome (by omega)) fun _ _ =>
        isSome_bind (uint16At_isSome (by omega)) fun _ _ =>
        isSome_bind (uint16At_isSome (by omega)) fun _ _ =>
        isSome_bind (readBytes_isSome (by omega)) fun _ _ =>
        isSome_bind (mapM_isSome _ fun i hi => ?_) fun _ _ => rfl
      have hlt := List.mem_range.mp hi
      exact uint16At_isSome (by omega)
    · rfl

theorem readNamed_isSome {size : Nat}
    {fields : Nat → Option (UInt16 × (DeviceDescriptorObjectPool →
      Option DeviceDescriptorObjectPool))}
    (hfields : ∀ n, size + n ≤ state.binaryPool.length → (fields n).isSome) :
    (state.readNamed index size fields).isSome := by
  refine isSome_bind (lengthByte_isSome (Nat.lt_succ_self index)) fun ⟨n, validDesignator⟩ _ => ?_
  dsimp only
  split_ifs with hvalid
  · exact isSome_bind (hfields n hvalid.1) fun _ _ => rfl
  · rfl

theorem readAs_isSome (type : ObjectTypes) :
    (state.readAs type).isSome ↔ (type = .deviceElement → 6 ≤ state.binaryPool.length) := by
  cases type with
  | device => exact iff_of_true readDevice_isSome (by simp)
  | deviceElement => rw [readAs, readDeviceElement_isSome, forall_prop_of_true rfl]
  | deviceProcessData =>
    rw [readAs, readDeviceProcessData]
    refine iff_of_true (readNamed_isSome fun n hfits => ?_) (by simp)
    exact isSome_bind (uint16At_isSome (by omega)) fun _ _ =>
      isSome_bind (uint16At_isSome (by omega)) fun _ _ =>
      isSome_bind (uint16At_isSome (by omega)) fun _ _ =>
      isSome_bind (readBytes_isSome (by omega)) fun _ _ =>
      isSome_bind (getElem?_isSome (by omega)) fun _ _ =>
      isSome_bind (getElem?_isSome (by omega)) fun _ _ => rfl
  | deviceProperty =>
    rw [readAs, readDeviceProperty]
    refine iff_of_true (readNamed_isSome fun n hfits => ?_) (by simp)
    exact isSome_bind (uint32At_isSome (by omega)) fun _ _ =>
      isSome_bind (uint16At_isSome (by omega)) fun _ _ =>
      isSome_bind (uint16At_isSome (by omega)) fun _ _ =>
      isSome_bind (uint16At_isSome (by omega)) fun _ _ =>
      isSome_bind (readBytes_isSome (by omega)) fun _ _ => rfl
  | deviceValuePresentation =>
    rw [readAs, readDeviceValuePresentation]
    refine iff_of_true (readNamed_isSome fun n hfits => ?_) (by simp)
    exact isSome_bind (uint32At_isSome (by omega)) fun _ _ =>
      isSome_bind (uint32At_isSome (by omega)) fun _ _ =>
      isSome_bind (uint16At_isSome (by omega)) fun _ _ =>
      isSome_bind (readBytes_isSome (by omega)) fun _ _ =>
      isSome_bind (getElem?_isSome (by omega)) fun _ _ => rfl

theorem tableID_injective {type type' : ObjectTypes} (h : type.tableID = type'.tableID) :
    type = type' := by
  revert h
  cases type <;> cases type' <;> decide

theorem readObject_isSome : state.readObject.isSome ↔ ShowsType state.binaryPool := by
  by_cases hknown : state.binaryPool.length > 3 ∧
      ∃ type : ObjectTypes, type.tableID = state.binaryPool.take 3
  · obtain ⟨hlength, type, htype⟩ := hknown
    rw [readObject_eq hlength type htype, readAs_isSome]
    constructor
    · exact fun h _ helement => h (tableID_injective (htype.trans helement))
    · exact fun h helement => h hlength (by rw [← htype, helement])
  · have hrefused : state.readObject = some state.refuse :=
      readObject_refused fun hlength type htype => hknown ⟨hlength, type, htype⟩
    rw [hrefused]
    exact iff_of_true rfl fun hlength helement =>
        absurd ⟨hlength, .deviceElement, helement.symm⟩ hknown

theorem lengthByte_of {needed : Nat} {accepted : UInt8 → Bool} {b : UInt8}
    (hneeded : needed ≤ bytes.length) (hb : bytes[index]? = some b)
    (haccepted : accepted b = true) :
    lengthByte bytes needed index accepted = some (b.toNat, true) := by
  rw [lengthByte, if_pos hneeded, hb]
  change some (if accepted b = true then _ else _) = _
  rw [if_pos haccepted]

theorem checkObjectIdUnique_removeObjectWithId (pool : DeviceDescriptorObjectPool) (id : UInt16) :
    (pool.removeObjectWithId id).checkObjectIdUnique id = decide
        (id ≠ 0 ∧ id ≠ NULL_OBJECT_ID) := by
  rw [DeviceDescriptorObjectPool.checkObjectIdUnique, decide_eq_decide]
  refine and_congr_right fun _ => and_iff_left fun object hobject => ?_
  have hne := (List.mem_filter.mp hobject).2
  simpa using Ne.symm (by simpa using hne)

variable {n count : UInt8}

theorem readDeviceElement_eq {elementType : UInt8} {parentObject uniqueID elementNumber : UInt16}
    {designator : List UInt8} {childIDs : List UInt16}
    (htype : state.binaryPool[5]? = some elementType)
    (hknown : elementType ≤ DeviceElementType.navigationReference.toByte)
    (hn : state.binaryPool[6]? = some n) (hcount : state.binaryPool[11 + n.toNat]? = some count)
    (hfits : 13 + 2 * count.toNat + n.toNat ≤ state.binaryPool.length)
    (hparent : uint16At state.binaryPool (9 + n.toNat) = some parentObject)
    (hid : uint16At state.binaryPool 3 = some uniqueID)
    (hnumber : uint16At state.binaryPool (7 + n.toNat) = some elementNumber)
    (hdesignator : readBytes state.binaryPool 7 n.toNat = some designator)
    (hchildren : (List.range count.toNat).mapM (fun i =>
      uint16At state.binaryPool (13 + 2 * i + n.toNat)) = some childIDs) :
    state.readDeviceElement = some (state.conclude (13 + 2 * count.toNat + n.toNat)
      (state.pool.removeObjectWithId uniqueID)
      (((state.pool.removeObjectWithId uniqueID).addDeviceElement designator elementNumber
        parentObject (.ofByte elementType) uniqueID).map fun pool =>
          childIDs.foldl (fun pool childID => pool.addReferenceToChildObject uniqueID childID)
            pool)) := by
  have hvalid : 13 + 2 * count.toNat + n.toNat ≤ state.binaryPool.length ∧
      (true && true && decide (elementType ≤ DeviceElementType.navigationReference.toByte)) =
        true := ⟨hfits, by simpa using hknown⟩
  rw [readDeviceElement, lengthByte_of (by omega) hn rfl]
  simp only [Option.bind_eq_bind, Option.bind_some]
  rw [lengthByte_of (by omega) hcount rfl, htype]
  simp only [Option.bind_some]
  rw [if_pos hvalid, hparent, hid, hnumber, hdesignator, hchildren]
  rfl

theorem recordEnd_element {high : UInt8} (extended : Bool) (hn : bytes[6]? = some n)
    (hcount : bytes[11 + n.toNat]? = some count) (hhigh : bytes[12 + n.toNat]? = some high) :
    recordEnd bytes (ObjectTypes.deviceElement.layout extended) 0 =
      some (13 + n.toNat + 2 * (count.toNat + 256 * high.toNat)) := by
  have hhigh' : bytes[11 + n.toNat + 1]? = some high := by
    rw [show 11 + n.toNat + 1 = 12 + n.toNat by omega]
    exact hhigh
  rw [ObjectTypes.layout, recordEnd_fixed 6 rfl, recordEnd_text (7 + n.toNat) hn (by omega),
    recordEnd_fixed (11 + n.toNat) (by omega), recordEnd_counted (readCount_two hcount hhigh'),
    recordEnd]
  exact congrArg some (by omega)

theorem AcceptsElement.accepted (h : AcceptsElement state.binaryPool n count) :
    ∃ r, state.readDeviceElement = some r ∧ r.retVal = true ∧
      r.expectedSize = 13 + 2 * count.toNat + n.toNat := by
  obtain ⟨⟨type, htype, hknown⟩, hn, hcount, hfits, id, hid, hproper⟩ := h
  obtain ⟨parentObject, hparent⟩ := Option.isSome_iff_exists.mp
    (uint16At_isSome (show 9 + n.toNat + 1 < state.binaryPool.length by omega))
  obtain ⟨elementNumber, hnumber⟩ := Option.isSome_iff_exists.mp
    (uint16At_isSome (show 7 + n.toNat + 1 < state.binaryPool.length by omega))
  obtain ⟨designator, hdesignator⟩ := Option.isSome_iff_exists.mp
    (readBytes_isSome (show 7 + n.toNat ≤ state.binaryPool.length by omega))
  obtain ⟨childIDs, hchildren⟩ := Option.isSome_iff_exists.mp
    (mapM_isSome (f := fun i => uint16At state.binaryPool (13 + 2 * i + n.toNat))
      (List.range count.toNat) fun i hi => by
        have hlt := List.mem_range.mp hi
        exact uint16At_isSome (by omega))
  have hunique : (state.pool.removeObjectWithId id).checkObjectIdUnique id = true := by
    rw [checkObjectIdUnique_removeObjectWithId]
    exact decide_eq_true hproper
  refine ⟨_, readDeviceElement_eq htype hknown hn hcount hfits hparent hid hnumber hdesignator
    hchildren, ?_⟩
  rw [DeviceDescriptorObjectPool.addDeviceElement, if_pos hunique]
  exact ⟨rfl, rfl⟩

inductive Reads : Deserializer → Deserializer → Prop
  | here {state : Deserializer} (hne : state.binaryPool ≠ []) : Reads state state
  | later {start state : Deserializer} {r : ObjectRead} (hne : start.binaryPool ≠ [])
      (hread : start.readObject = some r) (haccepted : r.retVal = true)
      (hreads : Reads (start.advance r) state) : Reads start state

/-- What an accepted object consumes is what its length fields describe, and is there. -/
def ConsumesRecord (state : Deserializer) : Prop :=
  ∀ r, state.readObject = some r → r.retVal = true →
    ∃ type : ObjectTypes, type.tableID = state.binaryPool.take 3 ∧
      recordEnd state.binaryPool (type.layout (state.pool.taskControllerCompatibilityLevel ≥ 4)) 0 =
        some r.expectedSize ∧ r.expectedSize ≤ state.binaryPool.length

theorem consumesRecord_iff : ConsumesRecord state ↔ CountsInByte state.binaryPool := by
  constructor
  · intro h helement n count haccepts
    have hfits := haccepts.fits
    obtain ⟨high, hhigh⟩ : ∃ high, state.binaryPool[12 + n.toNat]? = some high :=
      ⟨_, List.getElem?_eq_getElem (by omega)⟩
    obtain ⟨r, hread, haccepted, hsize⟩ := haccepts.accepted
    have hobject : state.readObject = some r := by
      rw [readObject_eq (by omega) .deviceElement helement.symm]
      exact hread
    obtain ⟨type, htype, hend, -⟩ := h r hobject haccepted
    obtain rfl := tableID_injective (htype.trans helement)
    rw [recordEnd_element _ haccepts.designator haccepts.references hhigh, hsize] at hend
    have hzero : high.toNat = 0 := by
      have := Option.some.inj hend
      omega
    rw [hhigh, UInt8.toNat_inj.mp (hzero.trans UInt8.toNat_zero.symm)]
  · intro h r hread haccepted
    obtain ⟨hlength, type, htype, hread⟩ := readObject_accepted hread haccepted
    refine ⟨type, htype, ?_⟩
    by_cases helement : type = .deviceElement
    · subst helement
      obtain ⟨n, count, haccepts, hsize⟩ := readDeviceElement_accepted hread haccepted
      have hfits := haccepts.fits
      have hhigh := h htype.symm n count haccepts
      rw [recordEnd_element _ haccepts.designator haccepts.references hhigh, hsize]
      exact ⟨congrArg some (by rw [UInt8.toNat_zero]; omega), by omega⟩
    · exact readAs_accepted helement hread haccepted

theorem deserializeObjects_isSome (start : Deserializer) :
    start.deserializeObjects.isSome ↔ ∀ state, Reads start state → state.readObject.isSome := by
  by_cases hne : start.binaryPool = []
  · rw [deserializeObjects_nil hne]
    refine iff_of_true rfl fun state hreads => ?_
    cases hreads with
    | here hne' => exact absurd hne hne'
    | later hne' => exact absurd hne hne'
  · cases hread : start.readObject with
    | none =>
      rw [deserializeObjects_none hne hread]
      exact iff_of_false Bool.false_ne_true fun h => by simpa [hread] using h start (.here hne)
    | some r =>
      rw [deserializeObjects_some hne hread]
      by_cases haccepted : r.retVal = true
      · rw [if_pos haccepted, deserializeObjects_isSome (start.advance r)]
        constructor
        · intro h state hreads
          cases hreads with
          | here _ => rw [hread]; rfl
          | later _ hread' _ hreads =>
            rw [hread] at hread'
            rw [← Option.some.inj hread'] at hreads
            exact h state hreads
        · exact fun h state hreads => h state (.later hne hread haccepted hreads)
      · rw [if_neg haccepted]
        refine iff_of_true rfl fun state hreads => ?_
        cases hreads with
        | here _ => rw [hread]; rfl
        | later _ hread' haccepted' _ =>
          rw [hread] at hread'
          exact absurd (Option.some.inj hread' ▸ haccepted') haccepted
termination_by start.binaryPool.length
decreasing_by exact length_advance hread haccepted

def startOf (binaryPool : List UInt8) (clientNAME : NAME) (pool : DeviceDescriptorObjectPool) :
    Deserializer :=
  ⟨binaryPool.take (binaryPool.length % 2 ^ 32), clientNAME, pool⟩

theorem deserializeBinaryObjectPool_isSome (binaryPool : List UInt8) (clientNAME : NAME)
    (pool : DeviceDescriptorObjectPool) :
    (pool.deserializeBinaryObjectPool binaryPool clientNAME).isSome ↔
      ∀ state, Reads (startOf binaryPool clientNAME pool) state → state.readObject.isSome := by
  rw [DeviceDescriptorObjectPool.deserializeBinaryObjectPool, ← deserializeObjects_isSome]
  split_ifs with hempty
  · exact iff_of_true rfl (by rw [deserializeObjects_nil hempty]; rfl)
  · rfl

/-- Nothing behind the pool is read, and every object is consumed as its length fields say, exactly
if what begins like an element shows its type and counts in one byte. -/
theorem staysInside_iff (binaryPool : List UInt8) (clientNAME : NAME)
    (pool : DeviceDescriptorObjectPool) :
    ((pool.deserializeBinaryObjectPool binaryPool clientNAME).isSome ∧
      ∀ state, Reads (startOf binaryPool clientNAME pool) state → ConsumesRecord state) ↔
    ∀ state, Reads (startOf binaryPool clientNAME pool) state →
      ShowsType state.binaryPool ∧ CountsInByte state.binaryPool := by
  rw [deserializeBinaryObjectPool_isSome, ← forall₂_and]
  exact forall₂_congr fun state _ => and_congr readObject_isSome consumesRecord_iff

/-- Four bytes that begin like an element. -/
theorem shortElement_not_inside :
    (DeviceDescriptorObjectPool.deserializeBinaryObjectPool [0x44, 0x45, 0x54, 0x01] 0
      ⟨[], 4, by decide⟩).isSome = false := by
  rw [← Bool.not_eq_true, deserializeBinaryObjectPool_isSome]
  intro h
  have hread := h _ (.here (by decide))
  revert hread
  decide

end Deserializer

end Isobus.DeviceDescriptor
