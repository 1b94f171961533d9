import Isobus.VirtualTerminal.PoolParser

namespace Isobus.VirtualTerminal

open Isobus.Lib Isobus.Lib.Reader

theorem byte_append {bytes more : List UInt8} {index : Nat} (h : index < bytes.length) :
    byte (bytes ++ more) index = byte bytes index := by
  rw [byte, byte, List.getD_eq_getElem?_getD, List.getElem?_append_left h,
    List.getD_eq_getElem?_getD]

def IsReference (reference : List UInt8) : Prop :=
  (reference.length = 2 ∧ byte reference 0 ≠ useExtendedMacroReference) ∨
    (reference.length = 4 ∧ byte reference 0 = useExtendedMacroReference)

def IsKnown (reference : List UInt8) : Prop := ∃ found, KnownReference reference found

theorem KnownReference.isReference {reference : List UInt8} {found : MacroMetadata}
    (h : KnownReference reference found) : IsReference reference := by
  cases h with
  | short hfirst hevent => exact .inl ⟨rfl, hfirst⟩
  | extended hevent => exact .inr ⟨rfl, rfl⟩

theorem two_le_of_isReference {reference : List UInt8} (h : IsReference reference) :
    2 ≤ reference.length := by
  rcases h with ⟨h, -⟩ | ⟨h, -⟩ <;> omega

theorem macroReference_unknown {reference more : List UInt8} (h : IsReference reference)
    (hunknown : ¬IsKnown reference) : macroReference (reference ++ more) = none := by
  cases hnext : macroReference (reference ++ more) with
  | none => rfl
  | some next =>
    obtain ⟨found, behind⟩ := next
    obtain ⟨taken, hknown, heq⟩ := macroReference_eq_some.mp hnext
    have hfirst : byte reference 0 = byte taken 0 := by
      have htwo := two_le_of_isReference h
      have htwo' := two_le_of_isReference hknown.isReference
      have hzero := congrArg (fun bytes => byte bytes 0) heq
      rwa [byte_append (by omega), byte_append (by omega)] at hzero
    have hlength : reference.length = taken.length := by
      rcases h with ⟨hl, hf⟩ | ⟨hl, hf⟩ <;>
        rcases hknown.isReference with ⟨hl', hf'⟩ | ⟨hl', hf'⟩
      · rw [hl, hl']
      · exact absurd (hfirst.trans hf') hf
      · exact absurd (hfirst.symm.trans hf) hf'
      · rw [hl, hl']
    obtain ⟨rfl, -⟩ := List.append_inj heq hlength
    exact absurd ⟨found, hknown⟩ hunknown

theorem macroReferences_known {references : List (List UInt8)}
    (h : ∀ reference ∈ references, IsKnown reference) :
    ∃ macros, ∀ more, macroReferences references.length (references.flatten ++ more) =
      .done (macros, true) more := by
  induction references with
  | nil => exact ⟨[], fun _ => rfl⟩
  | cons reference references ih =>
    obtain ⟨⟨found, hfound⟩, hrest⟩ := List.forall_mem_cons.mp h
    obtain ⟨macros, hmacros⟩ := ih hrest
    refine ⟨found :: macros, fun more => ?_⟩
    have htwo := two_le_of_isReference hfound.isReference
    have hnext : macroReference ((reference :: references).flatten ++ more) =
        some (found, references.flatten ++ more) :=
      macroReference_eq_some.mpr ⟨reference, hfound, by rw [List.flatten_cons, List.append_assoc]⟩
    have hne : (reference :: references).flatten ++ more ≠ [] := by
      intro hnil
      rw [hnil] at hnext
      cases hnext
    rw [List.length_cons, macroReferences, if_neg hne, hnext]
    dsimp only
    rw [bind_of_done (hmacros more)]
    rfl

theorem macroReferences_unknown {references : List (List UInt8)}
    (h : ∀ reference ∈ references, IsReference reference)
    (hunknown : ¬∀ reference ∈ references, IsKnown reference) :
    ∃ macros left, left ≠ [] ∧ ∀ more,
      macroReferences references.length (references.flatten ++ more) =
        .done (macros, false) (left ++ more) := by
  induction references with
  | nil => exact absurd (by simp) hunknown
  | cons reference references ih =>
    obtain ⟨hreference, hrest⟩ := List.forall_mem_cons.mp h
    have htwo := two_le_of_isReference hreference
    have hne (more : List UInt8) : (reference :: references).flatten ++ more ≠ [] := by
      intro hnil
      have hlength := congrArg List.length hnil
      simp only [List.flatten_cons, List.length_append, List.length_nil] at hlength
      omega
    by_cases hknown : IsKnown reference
    · obtain ⟨found, hfound⟩ := hknown
      obtain ⟨macros, left, hleft, hmacros⟩ := ih hrest fun hall =>
        hunknown (List.forall_mem_cons.mpr ⟨⟨found, hfound⟩, hall⟩)
      refine ⟨found :: macros, left, hleft, fun more => ?_⟩
      have hnext : macroReference ((reference :: references).flatten ++ more) =
          some (found, references.flatten ++ more) :=
        macroReference_eq_some.mpr
          ⟨reference, hfound, by rw [List.flatten_cons, List.append_assoc]⟩
      rw [List.length_cons, macroReferences, if_neg (hne more), hnext]
      dsimp only
      rw [bind_of_done (hmacros more)]
      rfl
    · refine ⟨[], (reference :: references).flatten, by simpa using hne [], fun more => ?_⟩
      have hnext : macroReference ((reference :: references).flatten ++ more) = none := by
        rw [List.flatten_cons, List.append_assoc]
        exact macroReference_unknown hreference hknown
      rw [List.length_cons, macroReferences, if_neg (hne more), hnext]

theorem two_mul_le_length_flatten {references : List (List UInt8)}
    (h : ∀ reference ∈ references, IsReference reference) :
    2 * references.length ≤ references.flatten.length := by
  induction references with
  | nil => exact Nat.zero_le _
  | cons reference references ih =>
    obtain ⟨hreference, hrest⟩ := List.forall_mem_cons.mp h
    have htwo := two_le_of_isReference hreference
    have hle := ih hrest
    simp only [List.length_cons, List.flatten_cons, List.length_append]
    omega

def References (count : UInt8) (bytes : List UInt8) (all : List UInt8 → Prop) : Prop :=
  ∃ references : List (List UInt8), references.length = count.toNat ∧
    bytes = references.flatten ∧ ∀ reference ∈ references, all reference

theorem parseObjectMacroReference_eq {references : List (List UInt8)} {count : UInt8}
    (hcount : references.length = count.toNat)
    (h : ∀ reference ∈ references, IsReference reference) (more : List UInt8) :
    parseObjectMacroReference count (references.flatten ++ more) =
      macroReferences references.length (references.flatten ++ more) := by
  have hle := two_mul_le_length_flatten h
  rw [parseObjectMacroReference, if_neg (by rw [List.length_append]; omega), hcount]

theorem parseObjectMacroReference_known {count : UInt8} {bytes : List UInt8}
    (h : References count bytes IsKnown) :
    ∃ macros, ∀ more, parseObjectMacroReference count (bytes ++ more) =
      .done (macros, true) more := by
  obtain ⟨references, hcount, rfl, hknown⟩ := h
  obtain ⟨macros, hmacros⟩ := macroReferences_known hknown
  refine ⟨macros, fun more => ?_⟩
  rw [parseObjectMacroReference_eq hcount fun reference hmem =>
    (hknown reference hmem).choose_spec.isReference, hmacros]

theorem parseObjectMacroReference_unknown {count : UInt8} {bytes : List UInt8}
    (h : References count bytes IsReference) (hunknown : ¬References count bytes IsKnown) :
    ∃ macros left, left ≠ [] ∧ ∀ more, parseObjectMacroReference count (bytes ++ more) =
      .done (macros, false) (left ++ more) := by
  obtain ⟨references, hcount, rfl, hall⟩ := h
  obtain ⟨macros, left, hleft, hmacros⟩ := macroReferences_unknown hall fun hknown =>
    hunknown ⟨references, hcount, rfl, hknown⟩
  exact ⟨macros, left, hleft, fun more => by
    rw [parseObjectMacroReference_eq hcount hall, hmacros]⟩

namespace Macro

def Commands (numberBytesToFollow : UInt16) (bytes : List UInt8) (commands : List (List UInt8)) :
    Prop :=
  bytes.length = numberBytesToFollow.toNat ∧ bytes = commands.flatten ∧
    ∀ command ∈ commands, commandLength command = some command.length

theorem five_le_of_commandLength {bytes : List UInt8} {length : Nat}
    (h : commandLength bytes = some length) : 5 ≤ length := by
  unfold commandLength at h
  split at h
  · cases h
  · split_ifs at h
    · cases h
      omega
    · split at h
      · cases h
        omega
      · cases h
    · cases h
      omega

theorem commandLength_append {command more : List UInt8}
    (h : commandLength command = some command.length) :
    commandLength (command ++ more) = some command.length := by
  have hfive := five_le_of_commandLength h
  rcases command with _ | ⟨a, _ | ⟨b, _ | ⟨c, _ | ⟨d, _ | ⟨e, rest⟩⟩⟩⟩⟩
  all_goals first | exact h | simp at hfive

def stored (commands : List (List UInt8)) : List (List UInt8) :=
  commands.filter fun command => byte command 0 ≠ graphicsContextCommand

theorem addCommandPacket_eq {packets : List (List UInt8)} {command : List UInt8}
    (h : packets.length ≤ 65534) :
    addCommandPacket packets command = some (packets ++ stored [command]) := by
  rw [addCommandPacket, stored]
  by_cases hgraphics : byte command 0 = graphicsContextCommand
  · rw [if_pos hgraphics, List.filter_cons_of_neg (by simpa using hgraphics), List.filter_nil,
      List.append_nil]
  · rw [if_neg hgraphics, if_pos h, List.filter_cons_of_pos (by simpa using hgraphics),
      List.filter_nil]

theorem readCommands_whole {numberBytesToFollow processed : UInt16}
    {packets commands : List (List UInt8)}
    (h : ∀ command ∈ commands, commandLength command = some command.length)
    (hlength : processed.toNat + commands.flatten.length = numberBytesToFollow.toNat)
    (hpackets : 5 * packets.length ≤ processed.toNat) (more : List UInt8) :
    readCommands numberBytesToFollow processed packets (commands.flatten ++ more) =
      .done (packets ++ stored commands) more := by
  have hbound := numberBytesToFollow.toNat_lt
  induction commands generalizing processed packets with
  | nil =>
    have hdone : ¬processed < numberBytesToFollow := by
      rw [UInt16.lt_iff_toNat_lt]
      simp only [List.flatten_nil, List.length_nil] at hlength
      omega
    rw [readCommands, if_neg hdone, stored, List.filter_nil, List.append_nil]
    rfl
  | cons command commands ih =>
    obtain ⟨hcommand, hrest⟩ := List.forall_mem_cons.mp h
    have hfive := five_le_of_commandLength hcommand
    rw [List.flatten_cons, List.length_append] at hlength
    have hmore : processed < numberBytesToFollow := by
      rw [UInt16.lt_iff_toNat_lt]
      omega
    have hnext : commandLength ((command :: commands).flatten ++ more) = some command.length := by
      rw [List.flatten_cons, List.append_assoc]
      exact commandLength_append hcommand
    have htake : ((command :: commands).flatten ++ more).take command.length = command := by
      rw [List.flatten_cons, List.append_assoc, List.take_left]
    have hdrop : ((command :: commands).flatten ++ more).drop command.length =
        commands.flatten ++ more := by
      rw [List.flatten_cons, List.append_assoc, List.drop_left]
    have hprocessed : (processed + UInt16.ofNat command.length).toNat =
        processed.toNat + command.length := by
      have hsize : UInt16.size = 65536 := rfl
      rw [UInt16.toNat_add, UInt16.toNat_ofNat_of_lt' (by omega), Nat.mod_eq_of_lt (by omega)]
    rw [readCommands, if_pos hmore]
    split
    · next hnone => rw [hnext] at hnone; cases hnone
    · next length hlength' =>
      rw [hnext] at hlength'
      obtain rfl := Option.some.inj hlength'
      rw [dif_pos (by
        rw [List.flatten_cons, List.length_append, List.length_append]
        omega), htake, hdrop, addCommandPacket_eq (by omega)]
      dsimp only
      have hstored : (stored [command]).length ≤ 1 := List.length_filter_le _ _
      rw [ih hrest (by omega) (by rw [hprocessed, List.length_append]; omega), List.append_assoc]
      rw [stored, stored, stored, ← List.filter_append, List.singleton_append]

theorem Commands.readCommands {numberBytesToFollow : UInt16} {bytes : List UInt8}
    {commands : List (List UInt8)} (h : Commands numberBytesToFollow bytes commands)
    (more : List UInt8) :
    readCommands numberBytesToFollow 0 [] (bytes ++ more) = .done (stored commands) more := by
  obtain ⟨hlength, rfl, hall⟩ := h
  rw [readCommands_whole hall (by simpa using hlength) (by simp), List.nil_append]

end Macro

namespace Part

/-- All the items that the part announces, and nothing else. -/
def Whole (bytes : List UInt8) : Part → Prop
  | children count => bytes.length = count.toNat * 6
  | auxiliaryChildren count => bytes.length = count.toNat * 6
  | references count => bytes.length = count.toNat * 2
  | childKeys count => bytes.length = count.toNat * 2
  | points count => bytes.length = count.toNat * 4
  | languages count => bytes.length = count.toNat * 2
  | text length => bytes.length = length
  | value length => bytes.length = length.toNat + 1
  | colours count => bytes.length = count.toNat
  | commands numberBytesToFollow => ∃ commands, Macro.Commands numberBytesToFollow bytes commands
  | picture _ options _ _ numberOfBytesInRawData =>
    bytes.length = numberOfBytesInRawData.toNat ∧
      (PictureGraphic.runLengthEncoded options = true → numberOfBytesInRawData % 2 = 0)
  | macros count => References count bytes IsReference
  | countedMacros => ∃ count rest, bytes = count :: rest ∧ References count rest IsReference
  | pictureMacros count => References count bytes IsReference

def Supported (bytes : List UInt8) : Part → Prop
  | childKeys count => count ≤ KeyGroup.MAX_CHILD_KEYS
  | commands numberBytesToFollow => ∃ commands, Macro.Commands numberBytesToFollow bytes commands ∧
      Macro.getAreCommandPacketsValid (Macro.stored commands) = true
  | macros count => References count bytes IsKnown
  | countedMacros => ∃ count rest, bytes = count :: rest ∧ References count rest IsKnown
  | _ => True

def room : Part → Nat
  | value _ => 2
  | _ => 0

def plain : Part → Bool
  | value _ | pictureMacros _ => false
  | _ => true

theorem room_of_plain {part : Part} (h : part.plain = true) : part.room = 0 := by
  cases part with
  | value length => cases h
  | _ => rfl

theorem ne_pictureMacros_of_plain {part : Part} (h : part.plain = true) (count : UInt8) :
    part ≠ pictureMacros count := by
  rintro rfl
  exact Bool.false_ne_true h

variable {contents : Contents} {bytes : List UInt8}

theorem checked_append {α : Type} {r : Reader α} {size checked : Nat} (h : Takes r size)
    (hle : checked ≤ size) (hbytes : bytes.length = size) :
    ∃ a, ∀ more, (atLeast checked >>= fun _ => r) (bytes ++ more) = .done a more := by
  obtain ⟨a, ha⟩ := h.append hbytes
  refine ⟨a, fun more => ?_⟩
  rw [bind_of_done (atLeast_of (by rw [List.length_append]; omega)), ha]

theorem readMacros_known {count : UInt8} (h : References count bytes IsKnown) :
    ∃ a, ∀ more, readMacros contents count (bytes ++ more) = .done a more := by
  obtain ⟨macros, hmacros⟩ := parseObjectMacroReference_known h
  refine ⟨{ contents with macros }, fun more => ?_⟩
  rw [readMacros, bind_of_done (hmacros more), bind_of_done (demand_of rfl)]
  rfl

theorem readMacros_unknown {count : UInt8} (h : References count bytes IsReference)
    (hunknown : ¬References count bytes IsKnown) (more : List UInt8) :
    readMacros contents count (bytes ++ more) = .refused := by
  obtain ⟨macros, left, -, hmacros⟩ := parseObjectMacroReference_unknown h hunknown
  rw [readMacros, bind_of_done (hmacros more), bind_of_refused (demand_of_not (by simp))]

def decoded (format options : UInt8) (actualWidth actualHeight : UInt16) (bytes : List UInt8) :
    List UInt8 :=
  if PictureGraphic.runLengthEncoded options then
    PictureGraphic.decodeRunLength format actualWidth actualHeight bytes
  else PictureGraphic.decodeRaw format actualWidth actualHeight bytes

theorem readPicture_whole {format options : UInt8} {actualWidth actualHeight : UInt16}
    {size : UInt32} (h : (picture format options actualWidth actualHeight size).Whole bytes)
    (more : List UInt8) :
    readPicture format options actualWidth actualHeight size (bytes ++ more) =
      .done (decoded format options actualWidth actualHeight bytes) more := by
  obtain ⟨hlength, heven⟩ := h
  have htake : take size.toNat (bytes ++ more) = .done bytes more := take_append hlength
  unfold readPicture decoded
  dsimp only
  by_cases hrle : PictureGraphic.runLengthEncoded options = true
  · rw [if_pos hrle, if_pos hrle, if_neg (not_not.mpr (heven hrle)), bind_of_done htake]
    rfl
  · rw [if_neg hrle, if_neg hrle, if_pos (by rw [List.length_append]; omega), bind_of_done htake]
    rfl

theorem read_picture {format options : UInt8} {actualWidth actualHeight : UInt16}
    {size : UInt32} (h : (picture format options actualWidth actualHeight size).Whole bytes)
    (contents : Contents) (more : List UInt8) :
    (picture format options actualWidth actualHeight size).read contents (bytes ++ more) =
      .done { contents with rawData := decoded format options actualWidth actualHeight bytes }
        more := by
  rw [Part.read, bind_of_done (readPicture_whole h more)]
  rfl

theorem read_supported {part : Part} (hplain : ∀ count, part ≠ pictureMacros count)
    (hwhole : part.Whole bytes) (hsupported : part.Supported bytes) (contents : Contents) :
    ∃ a, ∀ more : List UInt8, part.room ≤ more.length →
      part.read contents (bytes ++ more) = .done a more := by
  cases part with
  | children count =>
    obtain ⟨a, ha⟩ := checked_append ((takes_readChild.times count.toNat).bind fun children =>
      takes_pure { contents with children := contents.children ++ children }) le_rfl hwhole
    exact ⟨a, fun more _ => ha more⟩
  | auxiliaryChildren count =>
    obtain ⟨a, ha⟩ := checked_append ((takes_readChild.times count.toNat).bind fun children =>
      takes_pure { contents with children := contents.children ++ children })
      (show (count * 6).toNat ≤ _ from Nat.mod_le _ _) hwhole
    exact ⟨a, fun more _ => ha more⟩
  | references count =>
    obtain ⟨a, ha⟩ := checked_append ((takes_readReference.times count.toNat).bind
      fun children => takes_pure { contents with children := contents.children ++ children })
      le_rfl hwhole
    exact ⟨a, fun more _ => ha more⟩
  | childKeys count =>
    obtain ⟨a, ha⟩ := ((takes_readReference.times count.toNat).bind fun children =>
      takes_pure { contents with children := contents.children ++ children }).append hwhole
    refine ⟨a, fun more _ => ?_⟩
    have hmax : count ≤ KeyGroup.MAX_CHILD_KEYS := hsupported
    change (atLeast _ >>= _) _ = _
    rw [bind_of_done (atLeast_of (by rw [List.length_append, hwhole]; omega)),
      bind_of_done (demand_of hmax)]
    exact ha more
  | points count =>
    obtain ⟨a, ha⟩ := checked_append ((takes_readPoint.times count.toNat).bind fun points =>
      takes_pure { contents with points }) le_rfl hwhole
    exact ⟨a, fun more _ => ha more⟩
  | languages count =>
    obtain ⟨a, ha⟩ := checked_append ((takes_take (count.toNat * 2)).bind fun _ =>
      takes_pure contents) le_rfl hwhole
    exact ⟨a, fun more _ => ha more⟩
  | text length =>
    obtain ⟨a, ha⟩ := checked_append ((takes_take length).bind fun text =>
      takes_pure { contents with text }) le_rfl hwhole
    exact ⟨a, fun more _ => ha more⟩
  | value length =>
    obtain ⟨a, ha⟩ := ((takes_take length.toNat).bind fun text => (takes_take 1).bind
      fun enabled => takes_pure { contents with text, enabled := byte enabled 0 ≠ 0 }).append
      hwhole
    refine ⟨a, fun more hroom => ?_⟩
    have hroom : 2 ≤ more.length := hroom
    have hwhole : bytes.length = length.toNat + 1 := hwhole
    change (atLeast _ >>= _) _ = _
    rw [bind_of_done (atLeast_of (by rw [List.length_append]; omega))]
    exact ha more
  | colours count =>
    obtain ⟨a, ha⟩ := ((takes_take count.toNat).bind fun colours =>
      takes_pure { contents with colours }).append hwhole
    exact ⟨a, fun more _ => ha more⟩
  | commands numberBytesToFollow =>
    obtain ⟨commands, hcommands, hvalid⟩ := hsupported
    refine ⟨{ contents with commandPackets := Macro.stored commands }, fun more _ => ?_⟩
    change (atLeast _ >>= _) _ = _
    rw [bind_of_done (atLeast_of (by rw [List.length_append, hcommands.1]; omega)),
      bind_of_done (hcommands.readCommands more), bind_of_done (demand_of hvalid)]
    rfl
  | picture format options actualWidth actualHeight size =>
    exact ⟨_, fun more _ => read_picture hwhole contents more⟩
  | macros count =>
    obtain ⟨a, ha⟩ := readMacros_known hsupported
    exact ⟨a, fun more _ => ha more⟩
  | countedMacros =>
    obtain ⟨count, rest, rfl, hknown⟩ := hsupported
    obtain ⟨a, ha⟩ := readMacros_known hknown
    exact ⟨a, fun more _ => ha more⟩
  | pictureMacros count => exact absurd rfl (hplain count)

theorem read_unsupported {part : Part} (hwhole : part.Whole bytes)
    (hunsupported : ¬part.Supported bytes) (contents : Contents) (more : List UInt8) :
    part.read contents (bytes ++ more) = .refused := by
  cases part with
  | childKeys count =>
    have hmax : ¬count ≤ KeyGroup.MAX_CHILD_KEYS := hunsupported
    change (atLeast _ >>= _) _ = _
    rw [bind_of_done (atLeast_of (by rw [List.length_append, hwhole]; omega)),
      bind_of_refused (demand_of_not hmax)]
  | commands numberBytesToFollow =>
    obtain ⟨commands, hcommands⟩ := hwhole
    change (atLeast _ >>= _) _ = _
    rw [bind_of_done (atLeast_of (by rw [List.length_append, hcommands.1]; omega)),
      bind_of_done (hcommands.readCommands more),
      bind_of_refused (demand_of_not fun hvalid => hunsupported ⟨commands, hcommands, hvalid⟩)]
  | macros count => exact readMacros_unknown hwhole hunsupported more
  | countedMacros =>
    obtain ⟨count, rest, rfl, hall⟩ := hwhole
    exact readMacros_unknown hall (fun hknown => hunsupported ⟨count, rest, rfl, hknown⟩) more
  | _ => exact absurd trivial hunsupported

theorem read_of_lt_room {part : Part} (hwhole : part.Whole bytes) (contents : Contents)
    {more : List UInt8} (hroom : more.length < part.room) :
    part.read contents (bytes ++ more) = .refused := by
  cases part with
  | value length =>
    have hroom : more.length < 2 := hroom
    have hwhole : bytes.length = length.toNat + 1 := hwhole
    change (atLeast _ >>= _) _ = _
    rw [bind_of_refused (atLeast_of_lt (by rw [List.length_append]; omega))]
  | _ => exact absurd hroom (Nat.not_lt_zero _)

end Part

def WholeParts : List Part → List UInt8 → Prop
  | [], bytes => bytes = []
  | part :: parts, bytes =>
    ∃ own rest, bytes = own ++ rest ∧ part.Whole own ∧ WholeParts parts rest

def SupportedParts : List Part → List UInt8 → Prop
  | [], bytes => bytes = []
  | part :: parts, bytes =>
    ∃ own rest, bytes = own ++ rest ∧ (part.Whole own ∧ part.Supported own) ∧
      SupportedParts parts rest

section

variable {parts : List Part} {bytes : List UInt8}

theorem readParts_supported (hplain : ∀ part ∈ parts, part.plain = true)
    (h : SupportedParts parts bytes) (contents : Contents) :
    ∃ a, ∀ more, readParts contents parts (bytes ++ more) = .done a more := by
  induction parts generalizing bytes contents with
  | nil =>
    obtain rfl : bytes = [] := h
    exact ⟨contents, fun _ => rfl⟩
  | cons part parts ih =>
    obtain ⟨own, rest, rfl, ⟨hwhole, hsupported⟩, hrest⟩ := h
    obtain ⟨hpart, hplain⟩ := List.forall_mem_cons.mp hplain
    have hroom := Part.room_of_plain hpart
    obtain ⟨contents, hcontents⟩ := Part.read_supported
      (Part.ne_pictureMacros_of_plain hpart) hwhole hsupported contents
    obtain ⟨a, ha⟩ := ih hplain hrest contents
    refine ⟨a, fun more => ?_⟩
    rw [readParts, List.append_assoc,
      bind_of_done (hcontents (rest ++ more) (hroom ▸ Nat.zero_le _)), ha]

theorem readParts_unsupported (hplain : ∀ part ∈ parts, part.plain = true)
    (hwhole : WholeParts parts bytes) (h : ¬SupportedParts parts bytes) (contents : Contents)
    (more : List UInt8) : readParts contents parts (bytes ++ more) = .refused := by
  induction parts generalizing bytes contents with
  | nil => exact absurd hwhole h
  | cons part parts ih =>
    obtain ⟨own, rest, rfl, hown, hrest⟩ := hwhole
    obtain ⟨hpart, hplain⟩ := List.forall_mem_cons.mp hplain
    have hroom := Part.room_of_plain hpart
    rw [readParts, List.append_assoc]
    by_cases hsupported : part.Supported own
    · obtain ⟨contents, hcontents⟩ := Part.read_supported
        (Part.ne_pictureMacros_of_plain hpart) hown hsupported contents
      rw [bind_of_done (hcontents (rest ++ more) (hroom ▸ Nat.zero_le _))]
      exact ih hplain hrest
        (fun hrest => h ⟨own, rest, rfl, ⟨hown, hsupported⟩, hrest⟩) contents
    · rw [bind_of_refused (Part.read_unsupported hown hsupported contents (rest ++ more))]

end

/-- A record of a type that is read, with all that its counts announce. -/
structure CompleteRecord where
  type : VirtualTerminalObjectType
  record : Record
  header : List UInt8
  behind : List UInt8
  record_eq : type.record = some record
  type_eq : VirtualTerminalObjectType.ofByte (byte header 2) = some type
  header_length : header.length = record.headerLength
  whole : WholeParts (record.parts header) behind

namespace CompleteRecord

def bytes (r : CompleteRecord) : List UInt8 := r.header ++ r.behind

def Picture (r : CompleteRecord) (data references : List UInt8) : Prop :=
  r.type = .pictureGraphic ∧ r.behind = data ++ references ∧
    data.length = (uint32 r.header 12).toNat

def FillsPicture (r : CompleteRecord) (data : List UInt8) : Prop :=
  (Part.decoded (byte r.header 9) (byte r.header 10) (uint16 r.header 5) (uint16 r.header 7)
    data).length = PictureGraphic.area (uint16 r.header 5) (uint16 r.header 7)

/-- No value of the record is refused. -/
structure Supported (r : CompleteRecord) : Prop where
  valid : r.record.valid r.header = true
  parts : SupportedParts (r.record.parts r.header) r.behind
  notExtended : r.type ≠ .extendedInputAttributes
  picture : ∀ data references, r.Picture data references →
    r.FillsPicture data ∨ References (byte r.header 16) references IsKnown

/-- A picture whose data is right although a macro reference is unknown. -/
def Misread (r : CompleteRecord) : Prop :=
  ∃ data references, r.Picture data references ∧ r.FillsPicture data ∧
    ¬References (byte r.header 16) references IsKnown

/-- How many bytes the parser wants to find, of this record and what follows. -/
def wanted (r : CompleteRecord) : Nat :=
  if r.type = .inputString then 20 + (byte r.header 16).toNat else r.record.minimumObjectLength

end CompleteRecord

theorem readParts_macro {numberBytesToFollow : UInt16} {commands : List (List UInt8)}
    (h : Macro.Commands numberBytesToFollow commands.flatten commands)
    (hvalid : Macro.getAreCommandPacketsValid (Macro.stored commands) = true)
    (more : List UInt8) :
    readParts {} [.commands numberBytesToFollow] (commands.flatten ++ more) =
      .done { commandPackets := Macro.stored commands } more := by
  have hroom : numberBytesToFollow.toNat ≤ (commands.flatten ++ more).length := by
    rw [List.length_append, h.1]
    omega
  have hpart : Part.read {} (.commands numberBytesToFollow) (commands.flatten ++ more) =
      .done { commandPackets := Macro.stored commands } more := by
    change (atLeast _ >>= _) _ = _
    rw [bind_of_done (atLeast_of hroom), bind_of_done (h.readCommands more),
      bind_of_done (demand_of hvalid)]
    rfl
  rw [readParts, bind_of_done hpart]
  rfl

theorem parseNextObject_macro (ws : WorkingSetBase) (id₀ id₁ : UInt8) {size₀ size₁ : UInt8}
    (commands : List (List UInt8))
    (h : Macro.Commands (decode16 size₀ size₁) commands.flatten commands)
    (hvalid : Macro.getAreCommandPacketsValid (Macro.stored commands) = true)
    (more : List UInt8) :
    ws.parseNextObject ([id₀, id₁, 28, size₀, size₁] ++ (commands.flatten ++ more)) =
      .accepted (ws.addOrReplaceObject
        { objectID := decode16 id₀ id₁
          data := .macroObject { commandPackets := Macro.stored commands } }) more := by
  have hread : Macro.record.read (decode16 id₀ id₁)
      ([id₀, id₁, 28, size₀, size₁] ++ (commands.flatten ++ more)) =
        .done { objectID := decode16 id₀ id₁
                data := .macroObject { commandPackets := Macro.stored commands } } more := by
    have htake : take Macro.record.headerLength
        ([id₀, id₁, 28, size₀, size₁] ++ (commands.flatten ++ more)) =
          .done [id₀, id₁, 28, size₀, size₁] (commands.flatten ++ more) := take_append rfl
    change (atLeast _ >>= _) _ = _
    rw [bind_of_done (atLeast_of (by simp [Macro.record])), bind_of_done htake,
      bind_of_done (demand_of (by simp [Macro.record]))]
    have hparts : readParts {} (Macro.record.parts [id₀, id₁, 28, size₀, size₁])
        (commands.flatten ++ more) = _ := readParts_macro h hvalid more
    rw [bind_of_done hparts, bind_of_done (demand_of (by simp [Macro.record]))]
    rfl
  have hreader : ws.objectReader .macroObject (decode16 id₀ id₁)
      ([id₀, id₁, 28, size₀, size₁] ++ (commands.flatten ++ more)) = _ :=
    (bind_of_done (demand_of (by simp))).trans hread
  rw [WorkingSetBase.parseNextObject, if_pos (by simp)]
  have htype : VirtualTerminalObjectType.ofByte
      (byte ([id₀, id₁, 28, size₀, size₁] ++ (commands.flatten ++ more)) 2) =
        some .macroObject := rfl
  have hid : uint16 ([id₀, id₁, 28, size₀, size₁] ++ (commands.flatten ++ more)) 0 =
      decode16 id₀ id₁ := rfl
  simp only [htype, hid, hreader]
  rfl

end Isobus.VirtualTerminal
