import Isobus.DeviceDescriptor.IsoXml
import Isobus.DeviceDescriptor.Replacing

/-!
# The XML form says what is in the pool

A document is written whose values mean what they should, exactly if no text needs an escape, the
structure label has seven characters, and the children can be counted.
-/

namespace Isobus.DeviceDescriptor.IsoXml

open Isobus.Lib DeviceDescriptorObjectPool

namespace Value

def write : Value → Text
  | .text characters => characters
  | .decimal n => int n
  | .hexadecimal width n => hex width n
  | .label bytes => Numerals.writeBytes bytes.reverse

def InRange : Value → Prop
  | .hexadecimal width n => 0 < width ∧ n < 16 ^ width
  | _ => True

theorem readValue_write {value : Value} (h : value.InRange) :
    readValue value.kind value.write = some value := by
  cases value with
  | text characters => rfl
  | decimal n => rw [kind, readValue, write, int, Numerals.readInt_writeInt, Option.map_some]
  | hexadecimal width n =>
    rw [kind, readValue, write, hex, Numerals.read_write (by decide) (by decide) h.1,
      Option.map_some, Numerals.length_write (by decide) h.2]
  | label bytes =>
    rw [kind, readValue, write, Numerals.readBytePairs_writeBytes, Option.map_some,
      List.reverse_reverse]

theorem isPlainByte_of_digit {byte : UInt8} (h : byte = 0x2D ∨ Numerals.IsDigit byte) :
    Xml.IsPlainByte byte := by
  simp only [Numerals.IsDigit, Xml.IsPlainByte, UInt8.le_iff_toNat_le, UInt8.lt_iff_toNat_lt, ne_eq,
    ← UInt8.toNat_inj] at h ⊢
  simp at h ⊢
  omega

theorem isPlain_write {value : Value} (h : value.kind ≠ .text) : Xml.IsPlain value.write := by
  refine Xml.isPlain_of_bytes fun byte hbyte => isPlainByte_of_digit ?_
  cases value with
  | text characters => exact absurd rfl h
  | decimal n => exact Numerals.mem_writeInt hbyte
  | hexadecimal width n => exact .inr (Numerals.isDigit_of_mem_write (by decide) (by decide) hbyte)
  | label bytes => exact .inr (Numerals.isDigit_of_mem_writeBytes hbyte)

end Value

def writeEntry (entry : Text × Value) : Text × Text := (entry.1, entry.2.write)

def writeTag (tag : Xml.Tag Value) : Xml.Tag Text := tag.map Value.write

@[simp] theorem name_writeTag (tag : Xml.Tag Value) : (writeTag tag).name = tag.name :=
  tag.name_map Value.write

@[simp] theorem attributes_writeTag (tag : Xml.Tag Value) :
    (writeTag tag).attributes = tag.attributes.map writeEntry := tag.attributes_map Value.write

structure Sound (tag : Xml.Tag Value) : Prop where
  name : Xml.IsName tag.name
  names : ∀ entry ∈ tag.attributes, Xml.IsName entry.1
  kinds : ∀ entry ∈ tag.attributes, kindOf tag.name entry.1 = entry.2.kind
  ranges : ∀ entry ∈ tag.attributes, entry.2.InRange
  distinct : (tag.attributes.map Prod.fst).Nodup

variable {name : Text} {entries : List (Text × Value)} {tag : Xml.Tag Value}

theorem mapM_readEntry (hkinds : ∀ entry ∈ entries, kindOf name entry.1 = entry.2.kind)
    (hranges : ∀ entry ∈ entries, entry.2.InRange) :
    (entries.map writeEntry).mapM (readEntry name) = some entries := by
  induction entries with
  | nil => rfl
  | cons entry entries ih =>
    obtain ⟨hkind, hkinds⟩ := List.forall_mem_cons.mp hkinds
    obtain ⟨hrange, hranges⟩ := List.forall_mem_cons.mp hranges
    have hentry : readEntry name (writeEntry entry) = some entry := by
      rw [readEntry, writeEntry, hkind, Value.readValue_write hrange]
      rfl
    rw [List.map_cons, List.mapM_cons, hentry, ih hkinds hranges]
    rfl

theorem meaning_writeTag (h : Sound tag) :
    meaning (writeTag tag) = some tag := by
  cases tag with
  | opening name entries =>
    have hentries := mapM_readEntry h.kinds h.ranges
    exact congrArg (Option.map _) hentries
  | empty name entries =>
    have hentries := mapM_readEntry h.kinds h.ranges
    exact congrArg (Option.map _) hentries
  | closing name => rfl

theorem mapM_meaning {tags : List (Xml.Tag Value)} (h : ∀ tag ∈ tags, Sound tag) :
    (tags.map writeTag).mapM meaning = some tags := by
  induction tags with
  | nil => rfl
  | cons tag tags ih =>
    obtain ⟨htag, htags⟩ := List.forall_mem_cons.mp h
    rw [List.map_cons, List.mapM_cons, meaning_writeTag htag, ih htags]
    rfl

theorem readAs_of_readEntries {entries' : List (Text × Text)}
    (hkinds : ∀ entry ∈ entries, kindOf name entry.1 = entry.2.kind)
    (h : entries'.mapM (readEntry name) = some entries) :
    Xml.ReadAs (entries.map writeEntry) entries' := by
  induction entries' generalizing entries with
  | nil =>
    cases h
    exact .nil
  | cons entry' entries' ih =>
    rw [List.mapM_cons] at h
    simp only [Option.bind_eq_bind, Option.bind_eq_some_iff] at h
    obtain ⟨entry, hentry, others, hothers, h₂⟩ := h
    cases h₂
    obtain ⟨value, hvalue, rfl⟩ := Option.map_eq_some_iff.mp hentry
    obtain ⟨hkind, htail⟩ := List.forall_mem_cons.mp hkinds
    refine .cons ?_ (ih htail hothers)
    by_cases htext : value.kind = .text
    · rw [hkind] at hvalue
      change readValue value.kind entry'.2 = some value at hvalue
      rw [htext] at hvalue
      cases hvalue
      exact .inr rfl
    · exact .inl (Value.isPlain_write htext)

theorem readAs_of_meaning {expected : Xml.Tag Value} {tag' : Xml.Tag Text} (h : Sound tag)
    (hname : expected.name = tag.name) (hattributes : expected.attributes = tag.attributes)
    (hmeaning : meaning tag' = some expected) :
    Xml.ReadAs (writeTag tag).attributes tag'.attributes := by
  have hentries : tag'.attributes.mapM (readEntry tag.name) = some tag.attributes := by
    rw [← hname, ← hattributes]
    cases tag' with
    | opening name entries =>
      obtain ⟨values, hvalues, rfl⟩ := Option.map_eq_some_iff.mp hmeaning
      exact hvalues
    | empty name entries =>
      obtain ⟨values, hvalues, rfl⟩ := Option.map_eq_some_iff.mp hmeaning
      exact hvalues
    | closing name =>
      cases hmeaning
      rfl
  rw [attributes_writeTag]
  exact readAs_of_readEntries h.kinds hentries

theorem kinds_presentation {tag : Text} (h : kindOf tag name = .decimal) (objectID : UInt16) :
    ∀ entry ∈ presentationEntry name objectID,
      kindOf tag entry.1 = entry.2.kind ∧ entry.2.InRange := by
  unfold presentationEntry
  split_ifs
  · exact List.forall_mem_singleton.mpr ⟨h, trivial⟩
  · exact fun _ hmem => absurd hmem List.not_mem_nil

theorem sound_of_entries {last : Text} {objectID : UInt16} (hname : Xml.IsName tag.name)
    (hattributes : tag.attributes = entries ++ presentationEntry last objectID)
    (hlast : kindOf tag.name last = .decimal)
    (hnames : ∀ name ∈ last :: entries.map Prod.fst, Xml.IsName name)
    (hdistinct : (entries.map Prod.fst ++ [last]).Nodup)
    (hentries : ∀ entry ∈ entries, kindOf tag.name entry.1 = entry.2.kind ∧ entry.2.InRange) :
    Sound tag := by
  have hpresentation : ∀ entry ∈ presentationEntry last objectID, entry.1 = last := by
    unfold presentationEntry
    split_ifs
    · exact List.forall_mem_singleton.mpr rfl
    · exact fun _ hmem => absurd hmem List.not_mem_nil
  have hall : ∀ entry ∈ tag.attributes,
      kindOf tag.name entry.1 = entry.2.kind ∧ entry.2.InRange := by
    rw [hattributes]
    intro entry hentry
    rcases List.mem_append.mp hentry with hentry | hentry
    · exact hentries entry hentry
    · exact kinds_presentation hlast objectID entry hentry
  refine ⟨hname, ?_, fun entry hentry => (hall entry hentry).1,
    fun entry hentry => (hall entry hentry).2, ?_⟩
  · rw [hattributes]
    intro entry hentry
    rcases List.mem_append.mp hentry with hentry | hentry
    · exact hnames _ (List.mem_cons_of_mem _ (List.mem_map_of_mem hentry))
    · rw [hpresentation entry hentry]
      exact hnames _ List.mem_cons_self
  · rw [hattributes, List.map_append]
    refine hdistinct.sublist ((List.append_sublist_append_left _).mpr ?_)
    unfold presentationEntry
    split_ifs
    · exact List.Sublist.refl _
    · exact List.nil_sublist _

theorem sound_rootTag : Sound rootTag := by
  refine ⟨by decide, by decide, ?_, ?_, by decide⟩
  · simp only [rootTag, Xml.Tag.attributes, List.forall_mem_cons]
    decide
  · simp only [rootTag, Xml.Tag.attributes, List.forall_mem_cons]
    exact ⟨trivial, trivial, trivial, fun _ hmem => absurd hmem List.not_mem_nil⟩

theorem sound_deviceContent (device : DeviceObject) : Sound (deviceContent device) := by
  have hname : Xml.IsName (ascii "DVC") := by decide
  have hdistinct : [ascii "A", ascii "B", ascii "C", ascii "D", ascii "E", ascii "F",
      ascii "G"].Nodup := by decide
  refine ⟨hname, ?_, ?_, ?_, hdistinct⟩
  · simp only [deviceContent, Xml.Tag.attributes, List.forall_mem_cons]
    exact ⟨by decide, by decide, by decide, by decide, by decide, by decide, by decide,
      fun _ hmem => absurd hmem List.not_mem_nil⟩
  · simp only [deviceContent, Xml.Tag.attributes, List.forall_mem_cons]
    exact ⟨rfl, rfl, rfl, rfl, rfl, rfl, rfl, fun _ hmem => absurd hmem List.not_mem_nil⟩
  · simp only [deviceContent, Xml.Tag.attributes, List.forall_mem_cons]
    exact ⟨trivial, trivial, trivial, ⟨by decide, device.isoName.toNat_lt⟩, trivial, trivial,
      trivial, fun _ hmem => absurd hmem List.not_mem_nil⟩

theorem sound_elementEntries (number : Nat) (element : DeviceElementObject) :
    Sound (.opening (ascii "DET") (elementEntries number element)) ∧
      Sound (.empty (ascii "DET") (elementEntries number element)) := by
  have hnames : ∀ entry ∈ elementEntries number element, Xml.IsName entry.1 := by
    simp only [elementEntries, List.forall_mem_cons]
    exact ⟨by decide, by decide, by decide, by decide, by decide, by decide,
      fun _ hmem => absurd hmem List.not_mem_nil⟩
  have hkinds : ∀ entry ∈ elementEntries number element,
      kindOf (ascii "DET") entry.1 = entry.2.kind := by
    simp only [elementEntries, List.forall_mem_cons]
    exact ⟨rfl, rfl, rfl, rfl, rfl, rfl, fun _ hmem => absurd hmem List.not_mem_nil⟩
  have hranges : ∀ entry ∈ elementEntries number element, entry.2.InRange := by
    simp only [elementEntries, List.forall_mem_cons]
    exact ⟨trivial, trivial, trivial, trivial, trivial, trivial,
      fun _ hmem => absurd hmem List.not_mem_nil⟩
  have hdistinct : ((elementEntries number element).map Prod.fst).Nodup := by
    change [ascii "A", ascii "B", ascii "C", ascii "D", ascii "E", ascii "F"].Nodup
    decide
  have hname : Xml.IsName (ascii "DET") := by decide
  exact ⟨⟨hname, hnames, hkinds, hranges, hdistinct⟩,
    ⟨hname, hnames, hkinds, hranges, hdistinct⟩⟩

theorem sound_closing (h : Xml.IsName name) : Sound (.closing name) :=
  ⟨h, fun _ hmem => absurd hmem List.not_mem_nil, fun _ hmem => absurd hmem List.not_mem_nil,
    fun _ hmem => absurd hmem List.not_mem_nil, List.nodup_nil⟩

theorem sound_referenceContent (childID : UInt16) : Sound (referenceContent childID) := by
  have hname : Xml.IsName (ascii "DOR") := by decide
  have hentry : Xml.IsName (ascii "A") := by decide
  refine ⟨hname, ?_, ?_, ?_, List.nodup_singleton _⟩
  · exact List.forall_mem_singleton.mpr hentry
  · exact List.forall_mem_singleton.mpr rfl
  · exact List.forall_mem_singleton.mpr trivial

theorem sound_processDataContent (processData : DeviceProcessDataObject) :
    Sound (processDataContent processData) := by
  have hname : Xml.IsName (ascii "DPD") := by decide
  refine sound_of_entries hname rfl rfl ?_ ?_ ?_
  · change ∀ name ∈ [ascii "F", ascii "A", ascii "B", ascii "C", ascii "D", ascii "E"], _
    decide
  · change [ascii "A", ascii "B", ascii "C", ascii "D", ascii "E", ascii "F"].Nodup
    decide
  · simp only [List.forall_mem_cons]
    exact ⟨⟨rfl, trivial⟩, ⟨rfl, by decide, processData.ddi.toNat_lt⟩, ⟨rfl, trivial⟩,
      ⟨rfl, trivial⟩, ⟨rfl, trivial⟩, fun _ hmem => absurd hmem List.not_mem_nil⟩

theorem sound_propertyContent (property : DevicePropertyObject) :
    Sound (propertyContent property) := by
  have hname : Xml.IsName (ascii "DPT") := by decide
  refine sound_of_entries hname rfl rfl ?_ ?_ ?_
  · change ∀ name ∈ [ascii "E", ascii "A", ascii "B", ascii "C", ascii "D"], _
    decide
  · change [ascii "A", ascii "B", ascii "C", ascii "D", ascii "E"].Nodup
    decide
  · simp only [List.forall_mem_cons]
    exact ⟨⟨rfl, trivial⟩, ⟨rfl, by decide, property.ddi.toNat_lt⟩, ⟨rfl, trivial⟩,
      ⟨rfl, trivial⟩, fun _ hmem => absurd hmem List.not_mem_nil⟩

theorem sound_valuePresentationContent (scaleText : UInt32 → Text)
    (presentation : DeviceValuePresentationObject) :
    Sound (valuePresentationContent scaleText presentation) := by
  have hname : Xml.IsName (ascii "DVP") := by decide
  have hdistinct : [ascii "A", ascii "B", ascii "C", ascii "D", ascii "E"].Nodup := by decide
  refine ⟨hname, ?_, ?_, ?_, hdistinct⟩
  · simp only [valuePresentationContent, Xml.Tag.attributes, List.forall_mem_cons]
    exact ⟨by decide, by decide, by decide, by decide, by decide,
      fun _ hmem => absurd hmem List.not_mem_nil⟩
  · simp only [valuePresentationContent, Xml.Tag.attributes, List.forall_mem_cons]
    exact ⟨rfl, rfl, rfl, rfl, rfl, fun _ hmem => absurd hmem List.not_mem_nil⟩
  · simp only [valuePresentationContent, Xml.Tag.attributes, List.forall_mem_cons]
    exact ⟨trivial, trivial, trivial, trivial, trivial,
      fun _ hmem => absurd hmem List.not_mem_nil⟩

def writeLine (line : Text × Xml.Tag Value) : Text × Xml.Tag Text := (line.1, writeTag line.2)

section Lines

variable {scaleText : UInt32 → Text} {children : DeviceElementObject → List UInt16}
  {device : DeviceObject} {objects : List Object} {number : Nat} {element : DeviceElementObject}

/-- White space before a tag with the kinds of values that are expected. -/
def SoundLine (line : Text × Xml.Tag Value) : Prop :=
  (∀ byte ∈ line.1, Xml.isSpace byte = true) ∧ Sound line.2

theorem isSpace_tabs : ∀ byte ∈ ascii "\t\t", Xml.isSpace byte = true :=
  List.all_eq_true.mp (by decide)

theorem soundLine_tab {tag : Xml.Tag Value} (h : Sound tag) : SoundLine (ascii "\t", tag) :=
  ⟨List.forall_mem_singleton.mpr rfl, h⟩

theorem soundLine_elementLines {childIDs : List UInt16} :
    ∀ line ∈ elementLines childIDs number element, SoundLine line := by
  obtain ⟨hopening, hempty⟩ := sound_elementEntries number element
  have hclosing : Xml.IsName (ascii "DET") := by decide
  unfold elementLines
  split_ifs with hchildren
  · exact List.forall_mem_singleton.mpr (soundLine_tab hempty)
  · intro line hline
    simp only [List.mem_append, List.mem_singleton, List.mem_map] at hline
    rcases hline with (rfl | ⟨childID, -, rfl⟩) | rfl
    · exact soundLine_tab hopening
    · exact ⟨isSpace_tabs, sound_referenceContent childID⟩
    · exact soundLine_tab (sound_closing hclosing)

theorem soundLine_lines :
    ∀ line ∈ lines scaleText children device objects, SoundLine line := by
  intro line hline
  simp only [lines, List.mem_append, List.mem_cons, List.not_mem_nil, or_false, List.mem_map,
    List.mem_flatMap] at hline
  rcases hline with ((((hline | ⟨⟨element, number⟩, -, hline⟩) | ⟨object, -, rfl⟩) |
    ⟨object, -, rfl⟩) | ⟨object, -, rfl⟩) | hline
  · rcases hline with rfl | rfl
    · exact ⟨fun _ hmem => absurd hmem List.not_mem_nil, sound_rootTag⟩
    · exact ⟨fun _ hmem => absurd hmem List.not_mem_nil, sound_deviceContent device⟩
  · exact soundLine_elementLines line hline
  · exact soundLine_tab (sound_processDataContent object)
  · exact soundLine_tab (sound_propertyContent object)
  · exact soundLine_tab (sound_valuePresentationContent scaleText object)
  · rcases hline with rfl | rfl
    · exact ⟨fun _ hmem => absurd hmem List.not_mem_nil, sound_closing (by decide)⟩
    · exact ⟨fun _ hmem => absurd hmem List.not_mem_nil, sound_closing (by decide)⟩

theorem indented_writeLine {line : Text × Xml.Tag Value} (h : SoundLine line) :
    Xml.Indented (writeLine line) := by
  refine ⟨h.1, ?_, ?_⟩
  · rw [writeLine, name_writeTag]
    exact h.2.name
  · rw [writeLine, attributes_writeTag]
    exact List.forall_mem_map.mpr h.2.names

theorem closes_elementLines {first : Text} {open_ : List Text} (childIDs : List UInt16)
    (tags : List (Xml.Tag Value)) :
    Xml.closes (first :: open_) ((elementLines childIDs number element).map Prod.snd ++ tags) =
      Xml.closes (first :: open_) tags := by
  unfold elementLines
  split_ifs with hchildren
  · rfl
  · rw [List.map_append, List.map_append, List.map_map, List.append_assoc, List.append_assoc]
    change Xml.closes (ascii "DET" :: first :: open_) (childIDs.map referenceContent ++
      ([Xml.Tag.closing (ascii "DET")] ++ tags)) = _
    rw [Xml.closes_map_empty referenceContent fun _ => ⟨_, _, rfl⟩]
    exact (congrArg (· && _) (decide_eq_true rfl)).trans (Bool.true_and _)

def elementTags (children : DeviceElementObject → List UInt16)
    (elements : List (DeviceElementObject × Nat)) : List (Xml.Tag Value) :=
  elements.flatMap fun element =>
    (elementLines (children element.1) element.2 element.1).map Prod.snd

def otherTags (scaleText : UInt32 → Text) (objects : List Object) : List (Xml.Tag Value) :=
  (objects.filterMap processDataOf).map processDataContent ++
    ((objects.filterMap propertyOf).map propertyContent ++
      ((objects.filterMap valuePresentationOf).map (valuePresentationContent scaleText) ++
        [.closing (ascii "DVC"), .closing (ascii "ISO11783_TaskData")]))

theorem map_snd_lines :
    (lines scaleText children device objects).map Prod.snd =
      rootTag :: deviceContent device ::
        (elementTags children ((objects.filterMap elementOf).zipIdx 1) ++
          otherTags scaleText objects) := by
  simp only [lines, List.map_append, List.map_map, List.map_flatMap, List.append_assoc]
  rfl

theorem isElement_lines :
    Xml.isElement ((lines scaleText children device objects).map Prod.snd) = true := by
  rw [map_snd_lines]
  change Xml.closes [ascii "DVC", ascii "ISO11783_TaskData"] _ = true
  rw [elementTags, Xml.closes_flatMap (fun _ _ => closes_elementLines _ _), otherTags,
    Xml.closes_map_empty processDataContent fun _ => ⟨_, _, rfl⟩,
    Xml.closes_map_empty propertyContent fun _ => ⟨_, _, rfl⟩,
    Xml.closes_map_empty (valuePresentationContent scaleText) fun _ => ⟨_, _, rfl⟩]
  decide

theorem wellFormed_lines :
    Xml.WellFormed (((lines scaleText children device objects).map writeLine).map Prod.snd) := by
  have hformed : Xml.WellFormed ((lines scaleText children device objects).map Prod.snd) :=
    ⟨isElement_lines,
      List.forall_mem_map.mpr fun line hline => (soundLine_lines line hline).2.distinct⟩
  have hwritten := @Xml.wellFormed_map _ _ Value.write _ hformed
  rw [List.map_map] at hwritten ⊢
  exact hwritten

end Lines

section Diverging

variable {scaleText : UInt32 → Text} {device : DeviceObject} {objects : List Object}

/-- Two lists of tags that begin alike go on with tags that differ, with the same attributes or with
none in the first. -/
def Diverge (tags expected : List (Xml.Tag Value)) : Prop :=
  ∃ common tag others expectedTag expectedOthers, tags = common ++ tag :: others ∧
    expected = common ++ expectedTag :: expectedOthers ∧ tag ≠ expectedTag ∧
    (tag.attributes = [] ∨
      expectedTag.name = tag.name ∧ expectedTag.attributes = tag.attributes)

theorem childObjects_prefix (element : DeviceElementObject) :
    childObjects element <+: element.referenceList := List.take_prefix _ _

theorem diverge_elementLines (number : Nat) (element : DeviceElementObject)
    (h : childObjects element ≠ element.referenceList) :
    Diverge ((elementLines (childObjects element) number element).map Prod.snd)
      ((elementLines element.referenceList number element).map Prod.snd) := by
  obtain ⟨missing, hmissing⟩ := childObjects_prefix element
  have hne : missing ≠ [] := by
    rintro rfl
    exact h ((List.append_nil _).symm.trans hmissing)
  obtain ⟨child, missing, rfl⟩ := List.exists_cons_of_ne_nil hne
  have hall : element.referenceList ≠ [] := by
    rw [← hmissing]
    exact List.append_ne_nil_of_right_ne_nil _ (List.cons_ne_nil _ _)
  by_cases hnone : childObjects element = []
  · rw [elementLines, elementLines, if_pos hnone, if_neg hall]
    exact ⟨[], _, _, _, _, rfl, rfl, (fun heq => by cases heq), .inr ⟨rfl, rfl⟩⟩
  · refine ⟨.opening (ascii "DET") (elementEntries number element) ::
      (childObjects element).map referenceContent, .closing (ascii "DET"), [],
      referenceContent child, missing.map referenceContent ++ [.closing (ascii "DET")], ?_, ?_,
      (fun heq => by cases heq), .inl rfl⟩
    · rw [elementLines, if_neg hnone, List.map_append, List.map_append, List.map_map]
      rfl
    · rw [elementLines, if_neg hall, List.map_append, List.map_append, List.map_map, ← hmissing,
        List.map_append, List.map_cons]
      simp only [List.map_cons, List.map_nil, List.append_assoc, List.cons_append,
        List.nil_append]
      rfl

variable {tags expected : List (Xml.Tag Value)}

theorem diverge_append (h : Diverge tags expected) (before after after' : List (Xml.Tag Value)) :
    Diverge (before ++ (tags ++ after)) (before ++ (expected ++ after')) := by
  obtain ⟨common, tag, others, expectedTag, expectedOthers, rfl, rfl, hne, hattributes⟩ := h
  exact ⟨before ++ common, tag, others ++ after, expectedTag, expectedOthers ++ after',
    by simp, by simp, hne, hattributes⟩

theorem diverge_elementTags (elements : List (DeviceElementObject × Nat))
    (after : List (Xml.Tag Value)) :
    (∀ element ∈ elements, childObjects element.1 = element.1.referenceList) ∨
      Diverge (elementTags childObjects elements ++ after)
        (elementTags DeviceElementObject.referenceList elements ++ after) := by
  induction elements with
  | nil => exact .inl fun _ hmem => absurd hmem List.not_mem_nil
  | cons element elements ih =>
    rw [elementTags, elementTags, List.flatMap_cons, List.flatMap_cons, List.append_assoc,
      List.append_assoc]
    by_cases hfirst : childObjects element.1 = element.1.referenceList
    · rcases ih with hall | hdiverge
      · exact .inl (List.forall_mem_cons.mpr ⟨hfirst, hall⟩)
      · rw [hfirst]
        have happend := diverge_append hdiverge
          ((elementLines element.1.referenceList element.2 element.1).map Prod.snd) [] []
        rw [List.append_nil, List.append_nil] at happend
        exact .inr happend
    · exact .inr (diverge_append (diverge_elementLines element.2 element.1 hfirst) [] _ _)

theorem diverge_lines :
    (∀ element ∈ objects.filterMap elementOf, childObjects element = element.referenceList) ∨
      Diverge ((lines scaleText childObjects device objects).map Prod.snd)
        (content scaleText device objects) := by
  rw [content, map_snd_lines, map_snd_lines]
  rcases diverge_elementTags ((objects.filterMap elementOf).zipIdx 1) (otherTags scaleText objects)
    with hall | hdiverge
  · refine .inl fun element helement => ?_
    rw [← List.zipIdx_map_fst 1 (objects.filterMap elementOf)] at helement
    obtain ⟨numbered, hnumbered, rfl⟩ := List.mem_map.mp helement
    exact hall numbered hnumbered
  · have happend := diverge_append hdiverge [rootTag, deviceContent device] [] []
    rw [List.append_nil, List.append_nil] at happend
    exact .inr happend

theorem not_diverge_self : ¬Diverge tags tags := by
  rintro ⟨common, tag, others, expectedTag, expectedOthers, rfl, heq, hne, -⟩
  exact hne (List.cons.inj (List.append_cancel_left heq)).1

theorem aligned_append {common : List (Xml.Tag Value)} (hcommon : ∀ tag ∈ common, Sound tag)
    (h : Xml.Aligned meaning (tags.map writeTag) expected) :
    Xml.Aligned meaning ((common ++ tags).map writeTag) (common ++ expected) := by
  induction common with
  | nil => exact h
  | cons tag common ih =>
    obtain ⟨htag, hcommon⟩ := List.forall_mem_cons.mp hcommon
    exact ⟨fun tag' hmeaning => .inr (readAs_of_meaning htag rfl rfl hmeaning),
      fun _ => ih hcommon⟩

theorem aligned_self (h : ∀ tag ∈ tags, Sound tag) :
    Xml.Aligned meaning (tags.map writeTag) tags := by
  have haligned := @aligned_append [] [] tags h trivial
  rwa [List.append_nil] at haligned

theorem aligned_of_diverge (h : ∀ tag ∈ tags, Sound tag) (hdiverge : Diverge tags expected) :
    Xml.Aligned meaning (tags.map writeTag) expected := by
  obtain ⟨common, tag, others, expectedTag, expectedOthers, rfl, rfl, hne, hattributes⟩ := hdiverge
  obtain ⟨hcommon, hothers⟩ := List.forall_mem_append.mp h
  have htag := (List.forall_mem_cons.mp hothers).1
  refine aligned_append hcommon ⟨fun tag' hmeaning => ?_, fun hmeaning => ?_⟩
  · rcases hattributes with hnone | ⟨hname, hsame⟩
    · refine .inl fun entry hentry => ?_
      rw [attributes_writeTag, hnone] at hentry
      exact absurd hentry List.not_mem_nil
    · exact .inr (readAs_of_meaning htag hname hsame hmeaning)
  · rw [meaning_writeTag htag] at hmeaning
    exact absurd (Option.some.inj hmeaning) hne

theorem sound_lines {children : DeviceElementObject → List UInt16} :
    ∀ tag ∈ (lines scaleText children device objects).map Prod.snd, Sound tag :=
  List.forall_mem_map.mpr fun line hline => (soundLine_lines line hline).2

end Diverging

end Isobus.DeviceDescriptor.IsoXml
