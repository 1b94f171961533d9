import Isobus.DeviceDescriptor.RoundTrip
import Isobus.TaskClient.Update

/-!
# Labels of a binary descriptor

`process_labels_from_ddop` read by read, with its assertions compiled in or not: when the search
for the device ends, and when it finds what the pool itself says.
-/

namespace Isobus.TaskClient.LabelSearch

open Isobus.Lib Isobus.DeviceDescriptor

/-- An assertion that fails, and a byte behind the end. -/
inductive Fault
  | assertion
  | outside
  deriving DecidableEq

abbrev Labels := List UInt8 × List UInt8

section Search

variable (asserts : Bool) (bytes : List UInt8)

def getDDOPSize : Nat := bytes.length % 2 ^ 32

def getDDOPByteAt (index : Nat) : Except Fault UInt8 :=
  match bytes[index]? with
  | some byte => .ok byte
  | none => .error .outside

def assertion (condition : Bool) : Except Fault Unit :=
  if asserts && !condition then .error .assertion else .ok ()

def getDDOPBytes (start : Nat) : Nat → Except Fault (List UInt8)
  | 0 => .ok []
  | count + 1 => do
      let byte ← getDDOPByteAt bytes start
      let others ← getDDOPBytes (start + 1) count
      return byte :: others

def matchesAt : List UInt8 → Nat → Except Fault Bool
  | [], _ => .ok true
  | character :: tableID, index => do
      let byte ← getDDOPByteAt bytes index
      if character = byte then matchesAt tableID (index + 1) else .ok false

/-- The labels of the device that begins at a position. -/
def labelsAt (currentByteIndex : Nat) : Except Fault Labels := do
  assertion asserts (currentByteIndex + 5 < getDDOPSize bytes)
  let designator := currentByteIndex + 5
  let designatorLength ← getDDOPByteAt bytes designator
  assertion asserts (designator + designatorLength.toNat < getDDOPSize bytes)
  let softwareVersion := designator + designatorLength.toNat + 1
  let softwareVersionLength ← getDDOPByteAt bytes softwareVersion
  assertion asserts (softwareVersion + softwareVersionLength.toNat + 8 < getDDOPSize bytes)
  let serialNumber := softwareVersion + softwareVersionLength.toNat + 9
  let serialNumberLength ← getDDOPByteAt bytes serialNumber
  assertion asserts (serialNumber + serialNumberLength.toNat < getDDOPSize bytes)
  let structureLabel := serialNumber + serialNumberLength.toNat + 1
  assertion asserts (structureLabel + 7 < getDDOPSize bytes)
  let ddopStructureLabel ← getDDOPBytes bytes structureLabel 7
  let localizationLabel := structureLabel + 7
  assertion asserts (localizationLabel + 7 < getDDOPSize bytes)
  let ddopLocalizationLabel ← getDDOPBytes bytes localizationLabel 7
  return (ddopStructureLabel, ddopLocalizationLabel)

/-- The size of the table ID is taken from the size of the pool in 64 bits. -/
def searchEnd : UInt64 := UInt64.ofNat (getDDOPSize bytes) - 3

/-- So many turns of the loop, and none as long as it goes on. -/
def search : Nat → Nat → Option (Except Fault (Option Labels))
  | 0, _ => none
  | fuel + 1, currentByteIndex =>
    if UInt64.ofNat currentByteIndex < searchEnd bytes then
      match matchesAt bytes ObjectTypes.device.tableID currentByteIndex with
      | .error fault => some (.error fault)
      | .ok true => some ((labelsAt asserts bytes currentByteIndex).map some)
      | .ok false => search fuel currentByteIndex
    else some (.ok none)

/-- The loop is left, all bytes were there, and no assertion failed. -/
def Ends : Prop := ∃ fuel labels, search asserts bytes fuel 0 = some (.ok labels)

def Finds (labels : Labels) : Prop := ∃ fuel, search asserts bytes fuel 0 = some (.ok (some labels))

/-- Three lengths lead to labels that are there; with assertions one more byte has to follow. -/
def LabelsStand (labels : Labels) : Prop :=
  ∃ n m o : UInt8, bytes[5]? = some n ∧ bytes[6 + n.toNat]? = some m ∧
    bytes[15 + n.toNat + m.toNat]? = some o ∧
    StandsAt bytes (16 + n.toNat + m.toNat + o.toNat) (labels.1 ++ labels.2) ∧
    labels.1.length = 7 ∧ labels.2.length = 7 ∧
    (asserts = true → 30 + n.toNat + m.toNat + o.toNat < getDDOPSize bytes)

def Searchable : Prop :=
  getDDOPSize bytes = 3 ∨
    bytes.take 3 = ObjectTypes.device.tableID ∧ ∃ labels, LabelsStand asserts bytes labels

end Search

variable {asserts : Bool} {bytes : List UInt8}

theorem bind_eq_ok {α β : Type} {x : Except Fault α} {f : α → Except Fault β} {b : β} :
    (x >>= f) = .ok b ↔ ∃ a, x = .ok a ∧ f a = .ok b := by
  cases x with
  | error fault => exact iff_of_false (fun h => by cases h) fun ⟨_, h, _⟩ => by cases h
  | ok a => exact ⟨fun h => ⟨a, rfl, h⟩, fun ⟨_, ha, h⟩ => Except.ok.inj ha ▸ h⟩

variable {index : Nat}

theorem getDDOPByteAt_eq_ok {byte : UInt8} :
    getDDOPByteAt bytes index = .ok byte ↔ bytes[index]? = some byte := by
  unfold getDDOPByteAt
  cases bytes[index]? with
  | none => simp
  | some other => simp

theorem assertion_eq_ok {condition : Bool} {u : Unit} :
    assertion asserts condition = .ok u ↔ (asserts = true → condition = true) := by
  unfold assertion
  cases asserts <;> cases condition <;> simp

theorem getDDOPBytes_eq_ok {start count : Nat} {text : List UInt8} :
    getDDOPBytes bytes start count = .ok text ↔ text.length = count ∧
        StandsAt bytes start text := by
  induction count generalizing start text with
  | zero =>
    rw [getDDOPBytes, List.length_eq_zero_iff]
    constructor
    · intro h
      obtain rfl := Except.ok.inj h
      exact ⟨rfl, List.nil_prefix⟩
    · rintro ⟨rfl, -⟩
      rfl
  | succ count ih =>
    rw [getDDOPBytes, bind_eq_ok]
    constructor
    · rintro ⟨byte, hbyte, h⟩
      obtain ⟨others, hothers, h⟩ := bind_eq_ok.mp h
      obtain rfl := Except.ok.inj h
      obtain ⟨hlength, hstands⟩ := ih.mp hothers
      exact ⟨congrArg Nat.succ hlength, standsAt_cons.mpr ⟨getDDOPByteAt_eq_ok.mp hbyte, hstands⟩⟩
    · rintro ⟨hlength, hstands⟩
      cases text with
      | nil => cases hlength
      | cons byte others =>
        obtain ⟨hbyte, hothers⟩ := standsAt_cons.mp hstands
        exact ⟨byte, getDDOPByteAt_eq_ok.mpr hbyte, bind_eq_ok.mpr
          ⟨others, ih.mpr ⟨Nat.succ.inj hlength, hothers⟩, rfl⟩⟩

theorem matchesAt_eq_true {tableID : List UInt8} :
    matchesAt bytes tableID index = .ok true ↔ StandsAt bytes index tableID := by
  induction tableID generalizing index with
  | nil => exact iff_of_true rfl List.nil_prefix
  | cons character tableID ih =>
    rw [matchesAt, bind_eq_ok, standsAt_cons]
    constructor
    · rintro ⟨byte, hbyte, h⟩
      split_ifs at h with hsame
      · exact ⟨hsame ▸ getDDOPByteAt_eq_ok.mp hbyte, ih.mp h⟩
      · exact absurd (Except.ok.inj h) Bool.false_ne_true
    · rintro ⟨hbyte, h⟩
      exact ⟨character, getDDOPByteAt_eq_ok.mpr hbyte, (if_pos rfl).trans (ih.mpr h)⟩

theorem standsAt_of_eq {text : List UInt8} {start : Nat} (h : StandsAt bytes start text)
    (hindex : index = start) : StandsAt bytes index text := hindex ▸ h

theorem labelsAt_eq_ok {labels : Labels} :
    labelsAt asserts bytes 0 = .ok labels ↔ LabelsStand asserts bytes labels := by
  constructor
  · intro h
    obtain ⟨_, -, h⟩ := bind_eq_ok.mp h
    obtain ⟨n, hn, h⟩ := bind_eq_ok.mp h
    obtain ⟨_, -, h⟩ := bind_eq_ok.mp h
    obtain ⟨m, hm, h⟩ := bind_eq_ok.mp h
    obtain ⟨_, -, h⟩ := bind_eq_ok.mp h
    obtain ⟨o, ho, h⟩ := bind_eq_ok.mp h
    obtain ⟨_, -, h⟩ := bind_eq_ok.mp h
    obtain ⟨_, -, h⟩ := bind_eq_ok.mp h
    obtain ⟨structureLabel, hstructure, h⟩ := bind_eq_ok.mp h
    obtain ⟨_, hlast, h⟩ := bind_eq_ok.mp h
    obtain ⟨localizationLabel, hlocalization, h⟩ := bind_eq_ok.mp h
    obtain rfl := Except.ok.inj h
    rw [getDDOPByteAt_eq_ok] at hn hm ho
    obtain ⟨hlength, hstructure⟩ := getDDOPBytes_eq_ok.mp hstructure
    obtain ⟨hlength', hlocalization⟩ := getDDOPBytes_eq_ok.mp hlocalization
    rw [show 0 + 5 + n.toNat + 1 = 6 + n.toNat by omega] at hm
    rw [show 0 + 5 + n.toNat + 1 + m.toNat + 9 = 15 + n.toNat + m.toNat by omega] at ho
    refine ⟨n, m, o, hn, hm, ho, standsAt_append.mpr ⟨?_, ?_⟩, hlength, hlength',
        fun hasserts => ?_⟩
    · exact standsAt_of_eq hstructure (by omega)
    · exact standsAt_of_eq hlocalization (by rw [hlength]; omega)
    · have hlt := of_decide_eq_true (assertion_eq_ok.mp hlast hasserts)
      omega
  · rintro ⟨n, m, o, hn, hm, ho, hstands, hlength, hlength', hlast⟩
    obtain ⟨hstructure, hlocalization⟩ := standsAt_append.mp hstands
    have hassert {condition : Prop} [Decidable condition]
        (h : 30 + n.toNat + m.toNat + o.toNat < getDDOPSize bytes → condition) :
        assertion asserts (decide condition) = .ok () :=
      assertion_eq_ok.mpr fun hasserts => decide_eq_true (h (hlast hasserts))
    refine bind_eq_ok.mpr ⟨(), hassert (by omega), ?_⟩
    refine bind_eq_ok.mpr ⟨n, getDDOPByteAt_eq_ok.mpr hn, ?_⟩
    refine bind_eq_ok.mpr ⟨(), hassert (by omega), ?_⟩
    refine bind_eq_ok.mpr ⟨m, getDDOPByteAt_eq_ok.mpr ?_, ?_⟩
    · rw [← hm]
      congr 1
      omega
    refine bind_eq_ok.mpr ⟨(), hassert (by omega), ?_⟩
    refine bind_eq_ok.mpr ⟨o, getDDOPByteAt_eq_ok.mpr ?_, ?_⟩
    · rw [← ho]
      congr 1
      omega
    refine bind_eq_ok.mpr ⟨(), hassert (by omega), ?_⟩
    refine bind_eq_ok.mpr ⟨(), hassert (by omega), ?_⟩
    refine bind_eq_ok.mpr ⟨labels.1, getDDOPBytes_eq_ok.mpr ⟨hlength, ?_⟩, ?_⟩
    · exact standsAt_of_eq hstructure (by omega)
    refine bind_eq_ok.mpr ⟨(), hassert (by omega), ?_⟩
    refine bind_eq_ok.mpr ⟨labels.2, getDDOPBytes_eq_ok.mpr ⟨hlength', ?_⟩, rfl⟩
    exact standsAt_of_eq hlocalization (by omega)

theorem searchEnd_eq_zero_iff : searchEnd bytes = 0 ↔ getDDOPSize bytes = 3 := by
  have hsize : getDDOPSize bytes < 2 ^ 32 := Nat.mod_lt _ (by decide)
  rw [searchEnd, sub_eq_zero, ← UInt64.toNat_inj,
      UInt64.toNat_ofNat_of_lt' (hsize.trans (by decide))]
  exact Iff.rfl

theorem search_of_not_matches (hopen : UInt64.ofNat 0 < searchEnd bytes)
    (hmatches : matchesAt bytes ObjectTypes.device.tableID 0 = .ok false) (fuel : Nat) :
    search asserts bytes fuel 0 = none := by
  induction fuel with
  | zero => rfl
  | succ fuel ih =>
    rw [search, if_pos hopen, hmatches]
    exact ih

theorem search_eq_some_iff {fuel : Nat} {labels : Option Labels} :
    search asserts bytes (fuel + 1) 0 = some (.ok labels) ↔
      getDDOPSize bytes = 3 ∧ labels = none ∨
        getDDOPSize bytes ≠ 3 ∧ bytes.take 3 = ObjectTypes.device.tableID ∧
          ∃ found, labels = some found ∧ LabelsStand asserts bytes found := by
  have hzero : UInt64.ofNat 0 < searchEnd bytes ↔ getDDOPSize bytes ≠ 3 := by
    rw [Ne, ← searchEnd_eq_zero_iff, ← UInt64.toNat_inj, UInt64.lt_iff_toNat_lt]
    exact Nat.pos_iff_ne_zero
  have htake : StandsAt bytes 0 ObjectTypes.device.tableID ↔
      bytes.take 3 = ObjectTypes.device.tableID := by
    rw [StandsAt, List.drop_zero, List.prefix_iff_eq_take, eq_comm]
    rfl
  by_cases hopen : UInt64.ofNat 0 < searchEnd bytes
  · have hsize := hzero.mp hopen
    rw [or_iff_right fun h => hsize h.1, and_iff_right hsize, ← htake, ← matchesAt_eq_true]
    rw [search, if_pos hopen]
    cases hmatches : matchesAt bytes ObjectTypes.device.tableID 0 with
    | error fault => simp
    | ok found =>
      cases found with
      | false => simp [search_of_not_matches hopen hmatches]
      | true =>
        simp only [Option.some.injEq, true_and, ← labelsAt_eq_ok]
        cases labelsAt asserts bytes 0 with
        | error fault => simp [Except.map]
        | ok found => simp [Except.map, eq_comm]
  · have hsize := not_not.mp (mt hzero.mpr hopen)
    rw [search, if_neg hopen]
    simp [hsize, eq_comm]

theorem ends_iff : Ends asserts bytes ↔ Searchable asserts bytes := by
  constructor
  · rintro ⟨fuel, labels, h⟩
    cases fuel with
    | zero => cases h
    | succ fuel =>
      rcases search_eq_some_iff.mp h with ⟨hsize, -⟩ | ⟨-, htake, found, -, hstand⟩
      · exact .inl hsize
      · exact .inr ⟨htake, found, hstand⟩
  · intro h
    by_cases hsize : getDDOPSize bytes = 3
    · exact ⟨1, none, search_eq_some_iff.mpr (.inl ⟨hsize, rfl⟩)⟩
    · obtain ⟨htake, found, hstand⟩ := h.resolve_left hsize
      exact ⟨1, some found, search_eq_some_iff.mpr (.inr ⟨hsize, htake, found, rfl, hstand⟩)⟩

theorem finds_iff {labels : Labels} : Finds asserts bytes labels ↔
    getDDOPSize bytes ≠ 3 ∧ bytes.take 3 = ObjectTypes.device.tableID ∧
      LabelsStand asserts bytes labels := by
  constructor
  · rintro ⟨fuel, h⟩
    cases fuel with
    | zero => cases h
    | succ fuel =>
      rcases search_eq_some_iff.mp h with ⟨-, hnone⟩ | ⟨hsize, htake, found, hfound, hstand⟩
      · cases hnone
      · cases hfound
        exact ⟨hsize, htake, hstand⟩
  · rintro ⟨hsize, htake, hstand⟩
    exact ⟨1, search_eq_some_iff.mpr (.inr ⟨hsize, htake, labels, rfl, hstand⟩)⟩

/-- The labels that the pool itself gives, found in its binary form. -/
def LabelsAgree (asserts : Bool) (pool : DeviceDescriptorObjectPool) (binary : List UInt8) : Prop :=
  ∃ labelled, (SuppliedDDOP.supply {} (.object pool)).processLabelsFromDdop = some labelled ∧
    Finds asserts binary (labelled.ddopStructureLabel, labelled.ddopLocalizationLabel.val)

def FitsBytes (device : DeviceObject) : Prop :=
  device.designator.length < 256 ∧ device.softwareVersion.length < 256 ∧
    device.serialNumber.length < 256

def labelsOf (device : DeviceObject) : Labels :=
  (paddedLabel device.structureLabel, device.localizationLabel.val)

/-- The device comes first, and the lengths of its texts are written whole, so that with assertions
something has to follow; or by chance the labels stand where the low bytes lead. -/
def WritesLabels (asserts : Bool) (pool : DeviceDescriptorObjectPool) (device : DeviceObject)
    (binary : List UInt8) : Prop :=
  (∃ others, pool.objectList = .device device :: others) ∧ getDDOPSize binary ≠ 3 ∧
    device.structureLabel.length ≤ MAX_STRUCTURE_AND_LOCALIZATION_LABEL_LENGTH ∧
    (FitsBytes device ∧ (asserts = true → 30 + device.designator.length +
        device.softwareVersion.length + device.serialNumber.length < getDDOPSize binary) ∨
      ¬FitsBytes device ∧ LabelsStand asserts binary (labelsOf device))

section Pools

variable {pool : DeviceDescriptorObjectPool} {device : DeviceObject} {binary after : List UInt8}

theorem paddedLabel_eq {label : List UInt8}
    (h : label.length ≤ MAX_STRUCTURE_AND_LOCALIZATION_LABEL_LENGTH) :
    label ++ List.replicate (MAX_STRUCTURE_AND_LOCALIZATION_LABEL_LENGTH - label.length) 0x20 =
      paddedLabel label := by
  have h : label.length ≤ 7 := h
  apply List.ext_getElem
  · rw [length_paddedLabel, List.length_append, List.length_replicate]
    change label.length + (7 - label.length) = 7
    omega
  · intro i hi hi'
    rw [length_paddedLabel] at hi'
    simp only [paddedLabel, List.getElem_map, List.getElem_range, List.getD_eq_getElem?_getD]
    rw [List.getElem_append]
    split_ifs with hlt
    · rw [List.getElem?_eq_getElem hlt, Option.getD_some]
    · rw [List.getElem?_eq_none (Nat.le_of_not_lt hlt), Option.getD_none, List.getElem_replicate]

theorem processLabelsFromDdop_object (hdevice : pool.getObjectById 0 = some (.device device)) :
    ∃ labelled, (SuppliedDDOP.supply {} (.object pool)).processLabelsFromDdop = some labelled ∧
      labelled.ddopStructureLabel = device.structureLabel ++ List.replicate
        (MAX_STRUCTURE_AND_LOCALIZATION_LABEL_LENGTH - device.structureLabel.length) 0x20 ∧
      labelled.ddopLocalizationLabel = device.localizationLabel := by
  refine ⟨{ SuppliedDDOP.supply {} (.object pool) with
    ddopStructureLabel := device.structureLabel ++ List.replicate
      (MAX_STRUCTURE_AND_LOCALIZATION_LABEL_LENGTH - device.structureLabel.length) 0x20
    ddopLocalizationLabel := device.localizationLabel }, ?_, rfl, rfl⟩
  rw [SuppliedDDOP.processLabelsFromDdop]
  simp only [SuppliedDDOP.supply, Option.bind_eq_bind, Option.bind_some, hdevice]
  rfl

theorem take_flatMap_eq_iff {objects : List Object} (hne : objects ≠ []) :
    (objects.flatMap Object.getBinaryObject).take 3 = ObjectTypes.device.tableID ↔
      ∃ device others, objects = .device device :: others := by
  obtain ⟨object, others, rfl⟩ := List.exists_cons_of_ne_nil hne
  obtain ⟨text, htext⟩ := Deserializer.getBinaryObject_eq object
  have htake : ((object :: others).flatMap Object.getBinaryObject).take 3 =
      object.getObjectType.tableID := by
    rw [List.flatMap_cons, htext, List.append_assoc, List.append_assoc,
      List.take_left' (length_tableID _)]
  rw [htake]
  constructor
  · intro htable
    have htype := Deserializer.tableID_injective htable
    cases object with
    | device device => exact ⟨device, others, rfl⟩
    | deviceElement | deviceProcessData | deviceProperty | deviceValuePresentation =>
      cases htype
  · rintro ⟨device, others', h⟩
    cases h
    rfl

theorem labelsStand_iff (hfits : FitsBytes device) (asserts : Bool) :
    LabelsStand asserts (device.getBinaryObject ++ after) (labelsOf device) ↔
      (asserts = true → 30 + device.designator.length + device.softwareVersion.length +
        device.serialNumber.length < getDDOPSize (device.getBinaryObject ++ after)) := by
  obtain ⟨hn, hm, ho⟩ := hfits
  have hstands := standsAt_zero device.getBinaryObject after
  generalize device.getBinaryObject ++ after = binary at hstands ⊢
  simp only [DeviceObject.getBinaryObject, standsAt_append, List.length_append, length_tableID,
    length_bytes16, length_bytes64, length_sizedText, length_paddedLabel, Nat.zero_add,
    Nat.reduceAdd] at hstands
  obtain ⟨⟨⟨⟨⟨⟨⟨-, hdesignator⟩, hversion⟩, -⟩, hserial⟩, hstructure⟩, hlocal⟩, -⟩ := hstands
  have hbyte {text : List UInt8} (h : text.length < 256) :
      (UInt8.ofNat text.length).toNat = text.length := UInt8.toNat_ofNat_of_lt' h
  rw [paddedLabel_of_length device.localizationLabel.2] at hlocal
  constructor
  · rintro ⟨n, m, o, hn', hm', ho', -, -, -, hlast⟩ hasserts
    obtain rfl := Option.some.inj ((standsAt_cons.mp hdesignator).1.symm.trans hn')
    rw [hbyte hn] at hm' ho' hlast
    have hversion' := (standsAt_cons.mp hversion).1
    rw [show 5 + (1 + device.designator.length) = 6 + device.designator.length by omega]
      at hversion'
    obtain rfl := Option.some.inj (hversion'.symm.trans hm')
    rw [hbyte hm] at ho' hlast
    have hserial' := (standsAt_cons.mp hserial).1
    rw [show 5 + (1 + device.designator.length) + (1 + device.softwareVersion.length) + 8 =
      15 + device.designator.length + device.softwareVersion.length by omega] at hserial'
    obtain rfl := Option.some.inj (hserial'.symm.trans ho')
    rw [hbyte ho] at hlast
    exact hlast hasserts
  · intro hlast
    refine ⟨.ofNat device.designator.length, .ofNat device.softwareVersion.length,
      .ofNat device.serialNumber.length, (standsAt_cons.mp hdesignator).1, ?_, ?_,
      standsAt_append.mpr ⟨?_, ?_⟩, length_paddedLabel _, device.localizationLabel.2, ?_⟩
    · rw [hbyte hn, ← (standsAt_cons.mp hversion).1]
      congr 1
      omega
    · rw [hbyte hn, hbyte hm, ← (standsAt_cons.mp hserial).1]
      congr 1
      omega
    · rw [hbyte hn, hbyte hm, hbyte ho]
      exact standsAt_of_eq hstructure (by omega)
    · rw [hbyte hn, hbyte hm, hbyte ho]
      exact standsAt_of_eq hlocal (by rw [labelsOf, length_paddedLabel]; omega)
    · rw [hbyte hn, hbyte hm, hbyte ho]
      exact hlast

theorem labelsAgree_iff_stand (hdevice : pool.getObjectById 0 = some (.device device)) :
    LabelsAgree asserts pool binary ↔
      device.structureLabel.length ≤ MAX_STRUCTURE_AND_LOCALIZATION_LABEL_LENGTH ∧
        Finds asserts binary (labelsOf device) := by
  obtain ⟨labelled, hlabelled, hstructure, hlocal⟩ := processLabelsFromDdop_object hdevice
  constructor
  · rintro ⟨other, hother, hfinds⟩
    obtain rfl := Option.some.inj (hlabelled.symm.trans hother)
    rw [hstructure, hlocal] at hfinds
    obtain ⟨-, -, _, _, _, -, -, -, -, hlength, -⟩ := finds_iff.mp hfinds
    have hlabel : device.structureLabel.length ≤ MAX_STRUCTURE_AND_LOCALIZATION_LABEL_LENGTH := by
      rw [List.length_append] at hlength
      change device.structureLabel.length ≤ 7
      omega
    rw [paddedLabel_eq hlabel] at hfinds
    exact ⟨hlabel, hfinds⟩
  · rintro ⟨hlabel, hfinds⟩
    refine ⟨labelled, hlabelled, ?_⟩
    rw [hstructure, hlocal, paddedLabel_eq hlabel]
    exact hfinds

theorem labelsAgree_iff_writes (hdevice : pool.getObjectById 0 = some (.device device))
    (hbinary : pool.generateBinaryObjectPool = some binary) :
    LabelsAgree asserts pool binary ↔ WritesLabels asserts pool device binary := by
  have hresolves : pool.resolveParentIdsToObjects = true := by
    by_contra hnot
    rw [DeviceDescriptorObjectPool.generateBinaryObjectPool, if_neg hnot] at hbinary
    cases hbinary
  rw [DeviceDescriptorObjectPool.generateBinaryObjectPool_eq hresolves] at hbinary
  cases hbinary
  have hne : pool.objectList ≠ [] := List.ne_nil_of_mem (List.mem_of_find?_eq_some hdevice)
  rw [labelsAgree_iff_stand hdevice, finds_iff, take_flatMap_eq_iff hne]
  -- A device that comes first is the one that is found by its ID.
  have hfirst : (∃ device others, pool.objectList = .device device :: others) ↔
      ∃ others, pool.objectList = .device device :: others := by
    refine ⟨?_, fun h => ⟨device, h⟩⟩
    rintro ⟨first, others, h⟩
    have hfound : pool.getObjectById 0 = some (.device first) := by
      rw [DeviceDescriptorObjectPool.getObjectById, h]
      rfl
    obtain rfl := Object.device.inj (Option.some.inj (hfound.symm.trans hdevice))
    exact ⟨others, h⟩
  rw [hfirst]
  constructor
  · rintro ⟨hlabel, hsize, ⟨others, hothers⟩, hstand⟩
    refine ⟨⟨others, hothers⟩, hsize, hlabel, ?_⟩
    by_cases hfits : FitsBytes device
    · rw [hothers, List.flatMap_cons] at hstand ⊢
      exact .inl ⟨hfits, (labelsStand_iff hfits asserts).mp hstand⟩
    · exact .inr ⟨hfits, hstand⟩
  · rintro ⟨⟨others, hothers⟩, hsize, hlabel, hcase⟩
    refine ⟨hlabel, hsize, ⟨others, hothers⟩, ?_⟩
    rcases hcase with ⟨hfits, hlast⟩ | ⟨-, hstand⟩
    · rw [hothers, List.flatMap_cons] at hlast ⊢
      exact (labelsStand_iff hfits asserts).mpr hlast
    · exact hstand

/-- When the search ends, and when it finds the labels that the pool itself gives. -/
theorem labelsAgree_iff (hdevice : pool.getObjectById 0 = some (.device device))
    (hbinary : pool.generateBinaryObjectPool = some binary) (asserts : Bool)
    (bytes : List UInt8) :
    (Ends asserts bytes ↔ Searchable asserts bytes) ∧
      (LabelsAgree asserts pool binary ↔ WritesLabels asserts pool device binary) :=
  ⟨ends_iff, labelsAgree_iff_writes hdevice hbinary⟩

end Pools

/-! A device and an element of it, in one order and the other. -/

def device : DeviceObject :=
  { designator := [0x41], softwareVersion := [0x31], serialNumber := [0x32]
    structureLabel := [0x53], localizationLabel := .zeros, extendedStructureLabel := []
    isoName := 1, useExtendedStructureLabel := true }

def element : DeviceElementObject :=
  { designator := [0x42], objectID := 1, elementNumber := 0, parentObject := 0
    elementType := .device }

def poolOf (objectList : List Object) : DeviceDescriptorObjectPool :=
  ⟨objectList, MAX_TC_VERSION_SUPPORTED, UInt8.le_refl _⟩

theorem deviceFirst_agrees :
    ∃ binary, (poolOf [.device device, .deviceElement element]).generateBinaryObjectPool =
        some binary ∧ Ends true binary ∧
      LabelsAgree true (poolOf [.device device, .deviceElement element]) binary := by
  have hgenerate : (poolOf [.device device, .deviceElement element]).generateBinaryObjectPool =
      some _ := DeviceDescriptorObjectPool.generateBinaryObjectPool_eq rfl
  have hwrites : WritesLabels true (poolOf [.device device, .deviceElement element]) device
      ([.device device, .deviceElement element].flatMap Object.getBinaryObject) :=
    ⟨⟨_, rfl⟩, by decide, by decide, .inl ⟨⟨by decide, by decide, by decide⟩, fun _ => by decide⟩⟩
  obtain ⟨-, hagree⟩ := @labelsAgree_iff _ device _ rfl hgenerate true []
  obtain ⟨labelled, hlabelled, fuel, hfinds⟩ := hagree.mpr hwrites
  exact ⟨_, hgenerate, ⟨fuel, _, hfinds⟩, labelled, hlabelled, fuel, hfinds⟩

/-- The search stays at the element for ever. -/
theorem elementFirst_not_found :
    ∃ binary, (poolOf [.deviceElement element, .device device]).generateBinaryObjectPool =
        some binary ∧
      (poolOf [.deviceElement element, .device device]).getObjectById 0 = some (.device device) ∧
      ∀ asserts, ¬Ends asserts binary ∧
        ¬LabelsAgree asserts (poolOf [.deviceElement element, .device device]) binary := by
  have hgenerate : (poolOf [.deviceElement element, .device device]).generateBinaryObjectPool =
      some _ := DeviceDescriptorObjectPool.generateBinaryObjectPool_eq rfl
  have hends (asserts : Bool) : ¬Ends asserts
      ([.deviceElement element, .device device].flatMap Object.getBinaryObject) := by
    rw [ends_iff]
    rintro (hsize | ⟨htake, -⟩)
    · cases hsize
    · cases htake
  refine ⟨_, hgenerate, rfl, fun asserts => ⟨hends asserts, ?_⟩⟩
  rintro ⟨labelled, -, fuel, hfinds⟩
  exact hends asserts ⟨fuel, _, hfinds⟩

end Isobus.TaskClient.LabelSearch
