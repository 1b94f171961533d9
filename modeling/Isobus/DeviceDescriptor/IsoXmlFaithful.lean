import Isobus.DeviceDescriptor.IsoXmlExport

namespace Isobus.DeviceDescriptor.IsoXml

open Isobus.Lib DeviceDescriptorObjectPool

theorem labelText_eq {label : List UInt8}
    (h : label.length = MAX_STRUCTURE_AND_LOCALIZATION_LABEL_LENGTH) :
    labelText label = some (Numerals.writeBytes label.reverse) := by
  have hread : (List.range MAX_STRUCTURE_AND_LOCALIZATION_LABEL_LENGTH).mapM
      (fun j => label[6 - j]?) = readBytes label.reverse 0 7 := by
    refine mapM_congr_left fun j hj => ?_
    have hlt : j < 7 := List.mem_range.mp hj
    rw [Nat.zero_add, List.getElem?_reverse (by rw [h]; exact hlt), h]
    congr 1
  have hall : readBytes label.reverse 0 7 = some label.reverse := by
    rw [readBytes_eq_some (by rw [List.length_reverse, h]; decide), List.drop_zero,
      List.take_of_length_le (by rw [List.length_reverse, h]; decide)]
  rw [labelText, hread, hall]
  rfl

theorem labelText_of_lt {label : List UInt8}
    (h : label.length < MAX_STRUCTURE_AND_LOCALIZATION_LABEL_LENGTH) : labelText label = none := by
  have hlast : label[6 - 0]? = none := List.getElem?_eq_none (Nat.le_of_lt_succ h)
  rw [labelText]
  change ((0 :: [1, 2, 3, 4, 5, 6]).mapM fun j => label[6 - j]?).bind _ = none
  rw [List.mapM_cons, hlast]
  rfl

theorem filterMap_range_getElem? {α : Type} {l : List α} {f : Nat → Option α} {n : Nat}
    (hn : n ≤ l.length) (hf : ∀ i < n, f i = l[i]?) : (List.range n).filterMap f = l.take n := by
  induction n with
  | zero => rfl
  | succ n ih =>
    have hlast : l[n]? = some l[n] := List.getElem?_eq_getElem hn
    rw [List.range_succ, List.filterMap_append,
      ih (Nat.le_of_succ_le hn) fun i hi => hf i (Nat.lt_succ_of_lt hi), List.take_add_one,
      List.filterMap_cons, hf n (Nat.lt_succ_self n), hlast]
    rfl

variable {pool : DeviceDescriptorObjectPool}

theorem objectsByIndex_eq (h : pool.objectList.length < 65536) :
    pool.objectsByIndex = pool.objectList := by
  have hsize : pool.size.toNat = pool.objectList.length := Nat.mod_eq_of_lt h
  rw [objectsByIndex, hsize, filterMap_range_getElem? (Nat.le_refl _), List.take_length]
  intro i hi
  have hindex : (UInt16.ofNat i).toNat = i := Nat.mod_eq_of_lt (hi.trans h)
  rw [getObjectByIndex, hindex]

theorem length_objectList (h : WellIdentified pool) : pool.objectList.length < 65536 := by
  have hnodup : (pool.objectList.map fun object => object.getObjectId.toNat).Nodup := by
    have hids := h.ids.map (f := UInt16.toNat) fun _ _ heq => UInt16.toNat_inj.mp heq
    rwa [List.map_map] at hids
  have hsub : (pool.objectList.map fun object => object.getObjectId.toNat) ⊆ List.range 65535 := by
    refine fun id hid => List.mem_range.mpr ?_
    obtain ⟨object, hobject, rfl⟩ := List.mem_map.mp hid
    have hne := h.ne_null hobject
    have hlt := object.getObjectId.toNat_lt
    have hne' : object.getObjectId.toNat ≠ 65535 := fun heq => hne (UInt16.toNat_inj.mp heq)
    omega
  have hlength := (hnodup.subperm hsub).length_le
  rw [List.length_map, List.length_range] at hlength
  omega

section Generated

variable {scaleText : UInt32 → Text}

theorem deviceTag_eq {device : DeviceObject}
    (h : device.structureLabel.length = MAX_STRUCTURE_AND_LOCALIZATION_LABEL_LENGTH) :
    deviceTag 1 device = some (Xml.writeLines [writeLine ([], deviceContent device)]) := by
  rw [deviceTag, labelText_eq h, labelText_eq device.localizationLabel.property]
  refine congrArg some ?_
  simp only [Xml.writeLines, writeLine, writeTag, Xml.Tag.map, deviceContent, Xml.Tag.write,
    Xml.writeAttribute, List.flatMap_cons, List.flatMap_nil, List.map_cons, List.map_nil,
    List.append_assoc, List.append_nil, Value.write]
  rfl

theorem referenceTag_eq (childID : UInt16) :
    ascii "\t\t<DOR A=\"" ++ int childID.toNat ++ ascii "\"/>" ++ endl =
      Xml.writeLines [writeLine (ascii "\t\t", referenceContent childID)] := by
  simp only [Xml.writeLines, writeLine, writeTag, Xml.Tag.map, referenceContent, Xml.Tag.write,
    Xml.writeAttribute, List.flatMap_cons, List.flatMap_nil, List.map_cons, List.map_nil,
    List.append_assoc, List.append_nil, Value.write]
  rfl

theorem elementTag_eq (number : Nat) (element : DeviceElementObject) :
    elementTag number element =
      Xml.writeLines ((elementLines (childObjects element) number element).map writeLine) := by
  have hpositive : 0 < UInt16.ofNat element.referenceList.length ↔ childObjects element ≠ [] := by
    rw [UInt16.lt_iff_toNat_lt, ← List.length_pos_iff, childObjects, List.length_take]
    have hle : (UInt16.ofNat element.referenceList.length).toNat ≤ element.referenceList.length :=
      Nat.mod_le _ _
    rw [Nat.min_eq_left hle]
    rfl
  rw [elementTag, elementLines]
  by_cases hnone : childObjects element = []
  · rw [if_neg fun h => hpositive.mp h hnone, if_pos hnone]
    simp only [Xml.writeLines, writeLine, writeTag, Xml.Tag.map, elementEntries, Xml.Tag.write,
      Xml.writeAttribute, List.flatMap_cons, List.flatMap_nil, List.map_cons, List.map_nil,
      List.append_assoc, List.append_nil, Value.write]
    rfl
  · have hreferences : Xml.writeLines ((childObjects element).map
        (writeLine ∘ fun childID => (ascii "\t\t", referenceContent childID))) =
        (childObjects element).flatMap fun childID =>
          Xml.writeLines [writeLine (ascii "\t\t", referenceContent childID)] :=
      Xml.writeLines_map _ _
    rw [if_pos (hpositive.mpr hnone), if_neg hnone, List.map_append, List.map_append,
      Xml.writeLines_append, Xml.writeLines_append, List.map_map, hreferences]
    simp only [referenceTag_eq]
    generalize (childObjects element).flatMap (fun childID =>
      Xml.writeLines [writeLine (ascii "\t\t", referenceContent childID)]) = references
    simp only [Xml.writeLines, writeLine, writeTag, Xml.Tag.map, elementEntries, Xml.Tag.write,
      Xml.writeAttribute, List.flatMap_cons, List.flatMap_nil, List.map_cons,
      List.map_nil, List.append_assoc, List.append_nil, Value.write]
    rfl

theorem processDataTag_eq (processData : DeviceProcessDataObject) :
    processDataTag processData =
      Xml.writeLines [writeLine (ascii "\t", processDataContent processData)] := by
  rw [processDataTag, processDataContent, presentationEntry]
  by_cases hnull : processData.deviceValuePresentationObject ≠ 0xFFFF
  · have hnamed : processData.deviceValuePresentationObject ≠ NULL_OBJECT_ID := hnull
    rw [if_pos hnull, if_pos hnamed]
    simp only [Xml.writeLines, writeLine, writeTag, Xml.Tag.map, Xml.Tag.write, Xml.writeAttribute,
      List.flatMap_cons, List.flatMap_nil, List.map_cons, List.map_nil, List.map_append,
      List.flatMap_append, List.append_assoc, List.append_nil, Value.write]
    rfl
  · have hunnamed : ¬processData.deviceValuePresentationObject ≠ NULL_OBJECT_ID := hnull
    rw [if_neg hnull, if_neg hunnamed]
    simp only [Xml.writeLines, writeLine, writeTag, Xml.Tag.map, Xml.Tag.write, Xml.writeAttribute,
      List.flatMap_cons, List.flatMap_nil, List.map_cons, List.map_nil, List.append_assoc,
      List.append_nil, Value.write]
    rfl

theorem propertyTag_eq (property : DevicePropertyObject) :
    propertyTag property =
      Xml.writeLines [writeLine (ascii "\t", propertyContent property)] := by
  rw [propertyTag, propertyContent, presentationEntry]
  by_cases hnull : property.deviceValuePresentationObject ≠ 0xFFFF
  · have hnamed : property.deviceValuePresentationObject ≠ NULL_OBJECT_ID := hnull
    rw [if_pos hnull, if_pos hnamed]
    simp only [Xml.writeLines, writeLine, writeTag, Xml.Tag.map, Xml.Tag.write, Xml.writeAttribute,
      List.flatMap_cons, List.flatMap_nil, List.map_cons, List.map_nil, List.map_append,
      List.flatMap_append, List.append_assoc, List.append_nil, Value.write]
    rfl
  · have hunnamed : ¬property.deviceValuePresentationObject ≠ NULL_OBJECT_ID := hnull
    rw [if_neg hnull, if_neg hunnamed]
    simp only [Xml.writeLines, writeLine, writeTag, Xml.Tag.map, Xml.Tag.write, Xml.writeAttribute,
      List.flatMap_cons, List.flatMap_nil, List.map_cons, List.map_nil, List.append_assoc,
      List.append_nil, Value.write]
    rfl

theorem valuePresentationTag_eq (presentation : DeviceValuePresentationObject) :
    valuePresentationTag scaleText presentation =
      Xml.writeLines [writeLine (ascii "\t", valuePresentationContent scaleText presentation)] := by
  simp only [valuePresentationTag, valuePresentationContent, Xml.writeLines, writeLine, writeTag,
    Xml.Tag.map, Xml.Tag.write, Xml.writeAttribute, List.flatMap_cons, List.flatMap_nil,
    List.map_cons, List.map_nil, List.append_assoc, List.append_nil, Value.write]
  rfl

def declaration : List (Text × Text) :=
  [(ascii "version", ascii "1.0"), (ascii "encoding", ascii "UTF-8")]

theorem generate_eq {device : DeviceObject} (hresolve : pool.resolveParentIdsToObjects = true)
    (hindex : pool.objectsByIndex = pool.objectList)
    (hdevice : (pool.objectList.filterMap deviceOf).head? = some device)
    (hlabel : device.structureLabel.length = MAX_STRUCTURE_AND_LOCALIZATION_LABEL_LENGTH) :
    pool.generateTaskDataIsoXml scaleText = some (true, Xml.writeDocument declaration
      ((lines scaleText childObjects device pool.objectList).map writeLine)) := by
  rw [generateTaskDataIsoXml, if_pos hresolve, hindex, hdevice]
  simp only [deviceTag_eq hlabel, elementTag_eq, funext processDataTag_eq, funext propertyTag_eq,
    funext (@valuePresentationTag_eq scaleText), Option.bind_eq_bind, Option.bind_some,
    Option.pure_def]
  refine congrArg (fun xml => some (true, xml)) ?_
  rw [lines]
  simp only [List.map_append, Xml.writeLines_append, List.map_map, List.map_flatMap,
    Xml.writeDocument, Xml.writeLines_flatMap, Xml.writeLines_map, Function.comp_apply,
    List.flatMap_cons, List.flatMap_nil, List.append_nil, List.append_assoc]
  rfl

theorem generate_none {device : DeviceObject} (hresolve : pool.resolveParentIdsToObjects = true)
    (hindex : pool.objectsByIndex = pool.objectList)
    (hdevice : (pool.objectList.filterMap deviceOf).head? = some device)
    (hlabel : device.structureLabel.length < MAX_STRUCTURE_AND_LOCALIZATION_LABEL_LENGTH) :
    pool.generateTaskDataIsoXml scaleText = none := by
  rw [generateTaskDataIsoXml, if_pos hresolve, hindex, hdevice]
  simp only [deviceTag, labelText_of_lt hlabel]
  rfl

end Generated

def Value.asText : Value → Option Text
  | .text characters => some characters
  | _ => none

def textsOf (tag : Xml.Tag Value) : List Text :=
  tag.attributes.filterMap fun entry => entry.2.asText

theorem plain_writeTag_iff (tag : Xml.Tag Value) :
    (writeTag tag).Plain ↔ ∀ text ∈ textsOf tag, Xml.IsPlain text := by
  rw [Xml.Tag.Plain, attributes_writeTag, List.forall_mem_map]
  constructor
  · intro h text htext
    obtain ⟨⟨name, value⟩, hentry, hvalue⟩ := List.mem_filterMap.mp htext
    cases value with
    | text characters => exact Option.some.inj hvalue ▸ h _ hentry
    | decimal n => cases hvalue
    | hexadecimal width n => cases hvalue
    | label bytes => cases hvalue
  · rintro h ⟨name, value⟩ hentry
    by_cases hkind : value.kind = .text
    · cases value with
      | text characters => exact h characters (List.mem_filterMap.mpr ⟨_, hentry, rfl⟩)
      | decimal n => cases hkind
      | hexadecimal width n => cases hkind
      | label bytes => cases hkind
    · exact Value.isPlain_write hkind

theorem isPlain_numbered {word : Text} (hword : ∀ byte ∈ word, Xml.IsPlainByte byte) (n : Int) :
    Xml.IsPlain (word ++ int n) := by
  refine Xml.isPlain_of_bytes (List.forall_mem_append.mpr ⟨hword, fun byte hbyte => ?_⟩)
  exact Value.isPlainByte_of_digit (Numerals.mem_writeInt hbyte)

theorem textsOf_presentation (name : Text) (objectID : UInt16) :
    (presentationEntry name objectID).filterMap (fun entry => entry.2.asText) = [] := by
  unfold presentationEntry
  split_ifs
  · rfl
  · rfl

theorem textsOf_processDataContent (processData : DeviceProcessDataObject) :
    textsOf (processDataContent processData) = [processData.designator] := by
  rw [textsOf, processDataContent, Xml.Tag.attributes, List.filterMap_append, textsOf_presentation]
  rfl

theorem textsOf_propertyContent (property : DevicePropertyObject) :
    textsOf (propertyContent property) = [property.designator] := by
  rw [textsOf, propertyContent, Xml.Tag.attributes, List.filterMap_append, textsOf_presentation]
  rfl

section Texts

variable {scaleText : UInt32 → Text} {device : DeviceObject} {objects : List Object}

theorem mem_filterMap_kind {α : Type} {f : Object → Option α} {g : α → Object}
    (hf : ∀ object a, f object = some a ↔ object = g a) {a : α} :
    a ∈ objects.filterMap f ↔ g a ∈ objects := by
  simp only [List.mem_filterMap, hf, exists_eq_right]

theorem deviceOf_eq_some (object : Object) (a : DeviceObject) :
    deviceOf object = some a ↔ object = .device a := by
  cases object <;> simp [deviceOf]

theorem elementOf_eq_some (object : Object) (a : DeviceElementObject) :
    elementOf object = some a ↔ object = .deviceElement a := by
  cases object <;> simp [elementOf]

theorem processDataOf_eq_some (object : Object) (a : DeviceProcessDataObject) :
    processDataOf object = some a ↔ object = .deviceProcessData a := by
  cases object <;> simp [processDataOf]

theorem propertyOf_eq_some (object : Object) (a : DevicePropertyObject) :
    propertyOf object = some a ↔ object = .deviceProperty a := by
  cases object <;> simp [propertyOf]

theorem valuePresentationOf_eq_some (object : Object) (a : DeviceValuePresentationObject) :
    valuePresentationOf object = some a ↔ object = .deviceValuePresentation a := by
  cases object <;> simp [valuePresentationOf]

theorem plain_rootTag : (writeTag rootTag).Plain := by
  have hbytes : ∀ entry ∈ (writeTag rootTag).attributes,
      entry.2.all (fun byte => decide (Xml.IsPlainByte byte)) := by decide
  exact fun entry hentry =>
    Xml.isPlain_of_bytes (Xml.isPlainByte_of_all (hbytes entry hentry))

theorem plain_deviceContent_iff :
    (writeTag (deviceContent device)).Plain ↔
      ∀ text ∈ texts (.device device), Xml.IsPlain text := by
  have hnumber : Xml.IsPlain (ascii "DVC-" ++ int 1) :=
      isPlain_numbered (Xml.isPlainByte_of_all (by decide)) 1
  rw [plain_writeTag_iff]
  change (∀ text ∈ (ascii "DVC-" ++ int 1) :: texts (.device device), Xml.IsPlain text) ↔ _
  rw [List.forall_mem_cons, and_iff_right hnumber]

theorem plain_elementLines_iff {childIDs : List UInt16} {number : Nat}
    {element : DeviceElementObject} :
    (∀ line ∈ elementLines childIDs number element, (writeTag line.2).Plain) ↔
      Xml.IsPlain element.designator := by
  have hentries : (∀ text ∈ textsOf (.empty (ascii "DET") (elementEntries number element)),
      Xml.IsPlain text) ↔ Xml.IsPlain element.designator := by
    have hnumber : Xml.IsPlain (ascii "DET-" ++ int number) :=
      isPlain_numbered (Xml.isPlainByte_of_all (by decide)) number
    change (∀ text ∈ [ascii "DET-" ++ int number, element.designator], Xml.IsPlain text) ↔ _
    rw [List.forall_mem_cons, and_iff_right hnumber, List.forall_mem_singleton]
  unfold elementLines
  split_ifs with hnone
  · rw [List.forall_mem_singleton, plain_writeTag_iff]
    exact hentries
  · have hreference : ∀ childID, (writeTag (referenceContent childID)).Plain := by
      intro childID
      rw [plain_writeTag_iff]
      exact fun _ hmem => absurd hmem List.not_mem_nil
    have hclosing : (writeTag (.closing (ascii "DET"))).Plain :=
      fun _ hmem => absurd hmem List.not_mem_nil
    simp only [List.forall_mem_append, List.forall_mem_map, List.forall_mem_singleton, hreference,
      hclosing, implies_true, and_true]
    rw [plain_writeTag_iff]
    exact hentries

theorem plain_lines_iff (hscale : ∀ bits, Xml.IsPlain (scaleText bits))
    (hdevice : .device device ∈ objects)
    (hunique : ∀ other, .device other ∈ objects → other = device) :
    (∀ tag ∈ (lines scaleText childObjects device objects).map Prod.snd, (writeTag tag).Plain) ↔
      ∀ object ∈ objects, ∀ text ∈ texts object, Xml.IsPlain text := by
  have hclosing : ∀ name, (writeTag (.closing name)).Plain :=
    fun _ _ hmem => absurd hmem List.not_mem_nil
  have hpresentation : ∀ presentation, textsOf (valuePresentationContent scaleText presentation) =
      [scaleText presentation.scale, presentation.designator] := fun _ => rfl
  rw [map_snd_lines, List.forall_mem_cons, List.forall_mem_cons, and_iff_right plain_rootTag,
    plain_deviceContent_iff]
  simp only [List.forall_mem_append, otherTags, elementTags, List.forall_mem_map,
    List.forall_mem_flatMap, List.forall_mem_cons, List.not_mem_nil, false_implies, implies_true,
    hclosing, and_true, plain_elementLines_iff]
  simp only [plain_writeTag_iff, textsOf_processDataContent, textsOf_propertyContent,
    hpresentation, List.forall_mem_cons, List.not_mem_nil, false_implies, implies_true, hscale,
    true_and, and_true, mem_filterMap_kind processDataOf_eq_some,
    mem_filterMap_kind propertyOf_eq_some, mem_filterMap_kind valuePresentationOf_eq_some]
  constructor
  · rintro ⟨hroot, helements, hprocessData, hproperty, hvaluePresentation⟩ object hobject
    cases object with
    | device other =>
      rw [hunique other hobject]
      exact hroot
    | deviceElement element =>
      have hmem := (mem_filterMap_kind elementOf_eq_some).mpr hobject
      rw [← List.zipIdx_map_fst 1 (objects.filterMap elementOf)] at hmem
      obtain ⟨numbered, hnumbered, rfl⟩ := List.mem_map.mp hmem
      exact List.forall_mem_singleton.mpr (helements numbered hnumbered)
    | deviceProcessData processData =>
      exact List.forall_mem_singleton.mpr (hprocessData processData hobject)
    | deviceProperty property => exact List.forall_mem_singleton.mpr (hproperty property hobject)
    | deviceValuePresentation presentation =>
      exact List.forall_mem_singleton.mpr (hvaluePresentation presentation hobject)
  · intro h
    refine ⟨h _ hdevice, fun numbered hnumbered => ?_, fun _ hmem => ?_, fun _ hmem => ?_,
      fun _ hmem => ?_⟩
    · have hmem := (mem_filterMap_kind elementOf_eq_some).mp (List.fst_mem_of_mem_zipIdx hnumbered)
      exact h _ hmem _ List.mem_cons_self
    · exact h _ hmem _ List.mem_cons_self
    · exact h _ hmem _ List.mem_cons_self
    · exact h _ hmem _ List.mem_cons_self

end Texts

theorem childObjects_eq_iff (element : DeviceElementObject) :
    childObjects element = element.referenceList ↔ element.referenceList.length < 65536 := by
  have hmod : (UInt16.ofNat element.referenceList.length).toNat =
      element.referenceList.length % 65536 := rfl
  rw [childObjects, List.take_eq_self_iff, hmod]
  constructor
  · intro h
    exact h.trans_lt (Nat.mod_lt _ (by decide))
  · intro h
    exact Nat.le_of_eq (Nat.mod_eq_of_lt h).symm

section Faithful

variable {scaleText : UInt32 → Text} {device : DeviceObject}

theorem lines_congr {objects : List Object}
    (h : ∀ element ∈ objects.filterMap elementOf, childObjects element = element.referenceList) :
    lines scaleText childObjects device objects =
      lines scaleText DeviceElementObject.referenceList device objects := by
  simp only [lines, List.append_cancel_right_eq, List.append_cancel_left_eq]
  exact List.flatMap_congr fun numbered hnumbered =>
    congrArg (fun childIDs => elementLines childIDs numbered.2 numbered.1)
      (h numbered.1 (List.fst_mem_of_mem_zipIdx hnumbered))

theorem indented_lines {objects : List Object} :
    ∀ line ∈ (lines scaleText childObjects device objects).map writeLine, Xml.Indented line :=
  List.forall_mem_map.mpr fun line hline => indented_writeLine (soundLine_lines line hline)

theorem map_snd_writeLine (lines : List (Text × Xml.Tag Value)) :
    (lines.map writeLine).map Prod.snd = (lines.map Prod.snd).map writeTag := by
  rw [List.map_map, List.map_map]
  rfl

theorem named_declaration : ∀ entry ∈ declaration, Xml.IsName entry.1 := by decide

theorem plain_declaration : ∀ entry ∈ declaration, Xml.IsPlain entry.2 := by
  have hbytes : ∀ entry ∈ declaration,
      entry.2.all (fun byte => decide (Xml.IsPlainByte byte)) := by decide
  exact fun entry hentry =>
    Xml.isPlain_of_bytes (Xml.isPlainByte_of_all (hbytes entry hentry))

/-- The document is read as it should exactly if all its lines are plain and no child is left out.
-/
theorem parse_document_iff {objects : List Object} :
    (∃ tags, Xml.parse (Xml.writeDocument declaration
        ((lines scaleText childObjects device objects).map writeLine)) = some tags ∧
        tags.mapM meaning = some (content scaleText device objects)) ↔
      (∀ tag ∈ (lines scaleText childObjects device objects).map Prod.snd, (writeTag tag).Plain) ∧
        ∀ element ∈ objects.filterMap elementOf,
          childObjects element = element.referenceList := by
  have hplainLines : (∀ line ∈ (lines scaleText childObjects device objects).map writeLine,
      line.2.Plain) ↔
      ∀ tag ∈ (lines scaleText childObjects device objects).map Prod.snd,
        (writeTag tag).Plain := by
    rw [List.forall_mem_map, List.forall_mem_map]
    rfl
  constructor
  · rintro ⟨tags, hparse, hmeaning⟩
    have haligned : Xml.Aligned meaning
        (((lines scaleText childObjects device objects).map writeLine).map Prod.snd)
        (content scaleText device objects) := by
      rw [map_snd_writeLine]
      rcases @diverge_lines scaleText device objects with hall | hdiverge
      · rw [content, ← lines_congr hall]
        exact aligned_self sound_lines
      · exact aligned_of_diverge sound_lines hdiverge
    obtain ⟨hplain, rfl⟩ := Xml.plain_of_parse named_declaration plain_declaration indented_lines
      haligned hparse hmeaning
    rw [map_snd_writeLine, mapM_meaning sound_lines] at hmeaning
    refine ⟨hplainLines.mp hplain, ?_⟩
    rcases @diverge_lines scaleText device objects with hall | hdiverge
    · exact hall
    · rw [Option.some.inj hmeaning] at hdiverge
      exact absurd hdiverge not_diverge_self
  · rintro ⟨hplain, hall⟩
    refine ⟨_, Xml.parse_of_plain named_declaration plain_declaration indented_lines
      (hplainLines.mpr hplain) wellFormed_lines, ?_⟩
    rw [map_snd_writeLine, mapM_meaning sound_lines, content, lines_congr hall]

theorem exports_iff_of_wellIdentified (hids : WellIdentified pool)
    (hdevice : .device device ∈ pool.objectList)
    (hlabel : device.structureLabel.length ≤ MAX_STRUCTURE_AND_LOCALIZATION_LABEL_LENGTH)
    (hresolve : pool.resolveParentIdsToObjects = true)
    (hscale : ∀ bits, Xml.IsPlain (scaleText bits)) :
    Exports scaleText pool device ↔ Exportable pool device := by
  have hunique : ∀ other, .device other ∈ pool.objectList → other = device :=
    fun other hother => Object.device.inj (hids.device_unique hother hdevice rfl rfl)
  have hindex := objectsByIndex_eq (length_objectList hids)
  have hhead : (pool.objectList.filterMap deviceOf).head? = some device := by
    have hmem := (mem_filterMap_kind deviceOf_eq_some).mpr hdevice
    obtain ⟨first, others, hcons⟩ := List.exists_cons_of_ne_nil (List.ne_nil_of_mem hmem)
    have hfirst : .device first ∈ pool.objectList :=
      (mem_filterMap_kind deviceOf_eq_some).mp (hcons ▸ List.mem_cons_self)
    rw [hcons, List.head?_cons, hunique first hfirst]
  rcases Nat.lt_or_eq_of_le hlabel with hshort | hlength
  · have hnone := @generate_none pool scaleText device hresolve hindex hhead hshort
    constructor
    · rintro ⟨xml, tags, hgenerate, -⟩
      rw [hnone] at hgenerate
      cases hgenerate
    · intro hexportable
      exact absurd hexportable.1 (Nat.ne_of_lt hshort)
  · have hdocument : Exports scaleText pool device ↔
        ∃ tags, Xml.parse (Xml.writeDocument declaration
          ((lines scaleText childObjects device pool.objectList).map writeLine)) = some tags ∧
          tags.mapM meaning = some (content scaleText device pool.objectList) := by
      rw [Exports, generate_eq hresolve hindex hhead hlength]
      simp only [Option.some.injEq, Prod.mk.injEq, true_and, exists_and_left, exists_eq_left']
    rw [hdocument, parse_document_iff, plain_lines_iff hscale hdevice hunique, Exportable,
      and_iff_right hlength]
    refine and_congr_right fun _ => ?_
    simp only [mem_filterMap_kind elementOf_eq_some, childObjects_eq_iff]

/-- The document of a pool whose references resolve gives the pool back exactly if no text needs an
escape, the structure label is as long as it can be, and no element has more children than its count
can say. -/
theorem documentOfBuiltPool_iff {calls : List BuildCall} (hempty : pool.objectList = [])
    (hdevice : .device device ∈ (pool.build calls).objectList)
    (hresolve : (pool.build calls).resolveParentIdsToObjects = true)
    (hscale : ∀ bits, Xml.IsPlain (scaleText bits)) :
    Exports scaleText (pool.build calls) device ↔ Exportable (pool.build calls) device := by
  have hbuilt := wellBuilt_build hempty calls
  have hlimited : (pool.build calls).Limited (.device device) := hbuilt.limited _ hdevice
  exact exports_iff_of_wellIdentified ⟨hbuilt.ids, hbuilt.proper⟩ hdevice hlimited.2.2.1 hresolve
    hscale

end Faithful

def emptyPool : DeviceDescriptorObjectPool := ⟨[], MAX_TC_VERSION_SUPPORTED, UInt8.le_refl _⟩

def deviceCalls (designator structureLabel : Text) : List BuildCall :=
  [.addDevice designator (ascii "1.0") (ascii "7") structureLabel LocalizationLabel.zeros [] 1,
    .addDeviceElement (ascii "Boom") 0 0 .device 1,
    .addDeviceProcessData (ascii "Width") 67 3 1 8 2,
    .addDeviceValuePresentation (ascii "m") 0 0x3A83126F 3 3,
    .addReferenceToChildObject 1 2]

def deviceWith (designator structureLabel : Text) : DeviceObject :=
  { designator, softwareVersion := ascii "1.0", serialNumber := ascii "7", structureLabel
    localizationLabel := LocalizationLabel.zeros, extendedStructureLabel := [], isoName := 1
    useExtendedStructureLabel := true }

theorem isPlain_six (_ : UInt32) : Xml.IsPlain (ascii "0.001000") :=
  Xml.isPlain_of_bytes (Xml.isPlainByte_of_all (by decide))

theorem documentOfBuiltPool_iff_sprayer :
    Exports (fun _ => ascii "0.001000") (emptyPool.build (deviceCalls (ascii "Sprayer")
      (ascii "ABCDEFG"))) (deviceWith (ascii "Sprayer") (ascii "ABCDEFG")) := by
  refine (documentOfBuiltPool_iff rfl List.mem_cons_self (by decide) isPlain_six).mpr
    ⟨rfl, ?_, ?_⟩
  · have hbytes : ∀ object ∈ (emptyPool.build (deviceCalls (ascii "Sprayer")
        (ascii "ABCDEFG"))).objectList, ∀ text ∈ texts object,
        text.all (fun byte => decide (Xml.IsPlainByte byte)) := by decide
    exact fun object hobject text htext =>
      Xml.isPlain_of_bytes (Xml.isPlainByte_of_all (hbytes object hobject text htext))
  · have hchildren : ∀ element ∈ (emptyPool.build (deviceCalls (ascii "Sprayer")
        (ascii "ABCDEFG"))).objectList.filterMap elementOf,
        element.referenceList.length < 65536 := by decide
    exact fun element helement =>
      hchildren element ((mem_filterMap_kind elementOf_eq_some).mpr helement)

/-- A label that is too short ends the export, and an ampersand is not escaped. -/
theorem shortLabel_ampersand_not_exported :
    ¬Exports (fun _ => ascii "0.001000") (emptyPool.build (deviceCalls (ascii "Sprayer")
      (ascii "AB"))) (deviceWith (ascii "Sprayer") (ascii "AB")) ∧
    ¬Exports (fun _ => ascii "0.001000") (emptyPool.build (deviceCalls (ascii "A&B")
      (ascii "ABCDEFG"))) (deviceWith (ascii "A&B") (ascii "ABCDEFG")) := by
  have hids : ∀ calls, WellIdentified (emptyPool.build calls) := fun calls =>
    ⟨(wellBuilt_build rfl calls).ids, (wellBuilt_build rfl calls).proper⟩
  constructor
  · rw [exports_iff_of_wellIdentified (hids _) List.mem_cons_self (by decide) (by decide)
      isPlain_six]
    rintro ⟨hlength, -⟩
    cases hlength
  · rw [exports_iff_of_wellIdentified (hids _) List.mem_cons_self (by decide) (by decide)
      isPlain_six]
    rintro ⟨-, htexts, -⟩
    have hplain := htexts _ List.mem_cons_self (ascii "A&B") List.mem_cons_self
    exact (hplain.1 0x26 (by decide)).2.2.1 rfl

end Isobus.DeviceDescriptor.IsoXml
