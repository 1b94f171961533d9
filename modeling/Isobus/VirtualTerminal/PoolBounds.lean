import Isobus.VirtualTerminal.PoolParser

namespace Isobus.VirtualTerminal

open Isobus.Lib Isobus.Lib.Reader

/-- The bytes are known macro references, but fewer than announced. -/
def EndsAmongReferences (count : Nat) (bytes : List UInt8) : Prop :=
  ∃ taken : List (List UInt8), taken.length < count ∧ bytes = taken.flatten ∧
    ∀ reference ∈ taken, ∃ found, KnownReference reference found

theorem KnownReference.ne_nil {reference : List UInt8} {found : MacroMetadata}
    (h : KnownReference reference found) : reference ≠ [] := by
  cases h <;> simp

theorem KnownReference.append_inj {reference reference' rest rest' : List UInt8}
    {found found' : MacroMetadata} (h : KnownReference reference found)
    (h' : KnownReference reference' found') (heq : reference ++ rest = reference' ++ rest') :
    reference = reference' ∧ rest = rest' := by
  have hfirst : macroReference (reference ++ rest) = some (found, rest) :=
    macroReference_eq_some.mpr ⟨reference, h, rfl⟩
  have hsecond : macroReference (reference' ++ rest') = some (found', rest') :=
    macroReference_eq_some.mpr ⟨reference', h', rfl⟩
  rw [heq, hsecond, Option.some.injEq, Prod.mk.injEq] at hfirst
  obtain ⟨-, rfl⟩ := hfirst
  exact ⟨List.append_cancel_right heq, rfl⟩

theorem macroReferences_eq_outside {count : Nat} {bytes : List UInt8} :
    macroReferences count bytes = .outside ↔ EndsAmongReferences count bytes := by
  induction count generalizing bytes with
  | zero =>
    refine iff_of_false (fun h => by cases h) ?_
    rintro ⟨taken, hlt, -⟩
    exact absurd hlt (Nat.not_lt_zero _)
  | succ count ih =>
    rw [macroReferences]
    by_cases hempty : bytes = []
    · rw [if_pos hempty]
      exact iff_of_true rfl ⟨[], Nat.succ_pos _, hempty, by simp⟩
    · rw [if_neg hempty]
      cases hnext : macroReference bytes with
      | none =>
        refine iff_of_false (by simp) ?_
        rintro ⟨taken, -, rfl, hknown⟩
        cases taken with
        | nil => exact hempty rfl
        | cons reference taken =>
          obtain ⟨found, hfound⟩ := hknown reference List.mem_cons_self
          rw [List.flatten_cons, macroReference_eq_some.mpr ⟨reference, hfound, rfl⟩] at hnext
          cases hnext
      | some next =>
        obtain ⟨found, behind⟩ := next
        obtain ⟨reference, hreference, rfl⟩ := macroReference_eq_some.mp hnext
        dsimp only
        rw [bind_eq_outside]
        constructor
        · rintro (h | ⟨_, _, -, h⟩)
          · obtain ⟨taken, hlt, rfl, hknown⟩ := ih.mp h
            refine ⟨reference :: taken, Nat.succ_lt_succ hlt, rfl, ?_⟩
            exact List.forall_mem_cons.mpr ⟨⟨found, hreference⟩, hknown⟩
          · cases h
        · rintro ⟨taken, hlt, heq, hknown⟩
          refine .inl (ih.mpr ?_)
          cases taken with
          | nil => exact absurd heq (by simp [hreference.ne_nil])
          | cons reference' taken =>
            obtain ⟨⟨found', hreference'⟩, hrest⟩ := List.forall_mem_cons.mp hknown
            obtain ⟨-, rfl⟩ := hreference.append_inj hreference' heq
            exact ⟨taken, Nat.lt_of_succ_lt_succ hlt, rfl, hrest⟩

/-- Two bytes were checked for each reference, but one can take four. -/
def ReferencesFit (count : UInt8) (bytes : List UInt8) : Prop :=
  2 * count.toNat ≤ bytes.length → ¬EndsAmongReferences count.toNat bytes

theorem parseObjectMacroReference_eq_outside {count : UInt8} {bytes : List UInt8} :
    parseObjectMacroReference count bytes = .outside ↔ ¬ReferencesFit count bytes := by
  rw [parseObjectMacroReference, ReferencesFit, Classical.not_imp, not_not]
  split_ifs with hshort
  · exact iff_of_false (by simp) fun h => absurd h.1 (by omega)
  · rw [macroReferences_eq_outside]
    exact ⟨fun h => ⟨by omega, h⟩, fun h => h.2⟩

theorem readMacros_eq_outside {contents : Contents} {count : UInt8} {bytes : List UInt8} :
    readMacros contents count bytes = .outside ↔ ¬ReferencesFit count bytes := by
  rw [readMacros, bind_eq_outside, parseObjectMacroReference_eq_outside, or_iff_left]
  rintro ⟨found, middle, -, h⟩
  rcases bind_eq_outside.mp h with h | ⟨_, _, -, h⟩
  · exact demand_ne_outside h
  · cases h

namespace Macro

/-- The bytes that a command of the macro is read from. -/
inductive Begins (numberBytesToFollow : UInt16) :
    UInt16 → List (List UInt8) → List UInt8 → List UInt8 → Prop
  | here {processed : UInt16} {packets : List (List UInt8)} {bytes : List UInt8}
      (hmore : processed < numberBytesToFollow) :
      Begins numberBytesToFollow processed packets bytes bytes
  | later {processed : UInt16} {packets packets' : List (List UInt8)} {bytes begun : List UInt8}
      {length : Nat} (hmore : processed < numberBytesToFollow)
      (hlength : commandLength bytes = some length) (hfits : length ≤ bytes.length)
      (hadd : addCommandPacket packets (bytes.take length) = some packets')
      (hrest : Begins numberBytesToFollow (processed + UInt16.ofNat length) packets'
        (bytes.drop length) begun) :
      Begins numberBytesToFollow processed packets bytes begun

def CommandFits (bytes : List UInt8) : Prop :=
  ∃ length, commandLength bytes = some length ∧ length ≤ bytes.length

theorem readCommands_eq_outside {numberBytesToFollow processed : UInt16}
    {packets : List (List UInt8)} {bytes : List UInt8} :
    readCommands numberBytesToFollow processed packets bytes = .outside ↔
      ∃ begun, Begins numberBytesToFollow processed packets bytes begun ∧ ¬CommandFits begun := by
  induction hn : bytes.length using Nat.strong_induction_on
    generalizing bytes processed packets with
  | _ n ih =>
    rw [readCommands]
    by_cases hmore : processed < numberBytesToFollow
    · rw [if_pos hmore]
      split
      · next hnone =>
        refine iff_of_true rfl ⟨bytes, .here hmore, ?_⟩
        rintro ⟨length, hlength, -⟩
        rw [hlength] at hnone
        cases hnone
      · next length hlength =>
        by_cases hfits : length ≤ bytes.length
        · rw [dif_pos hfits]
          have hhere : CommandFits bytes := ⟨length, hlength, hfits⟩
          have hpos := commandLength_pos hlength
          split
          · next hadd =>
            refine iff_of_false (by simp) ?_
            rintro ⟨begun, hbegins, hnot⟩
            cases hbegins with
            | here _ => exact hnot hhere
            | later _ hlength' _ hadd' _ =>
              rw [hlength] at hlength'
              rw [← Option.some.inj hlength', hadd] at hadd'
              cases hadd'
          · next packets' hadd =>
            rw [ih (n - length) (by omega) (by rw [List.length_drop, hn])]
            constructor
            · rintro ⟨begun, hbegins, hnot⟩
              exact ⟨begun, .later hmore hlength hfits hadd hbegins, hnot⟩
            · rintro ⟨begun, hbegins, hnot⟩
              cases hbegins with
              | here _ => exact absurd hhere hnot
              | later _ hlength' _ hadd' hrest =>
                rw [hlength] at hlength'
                rw [← Option.some.inj hlength'] at hadd' hrest
                rw [hadd] at hadd'
                rw [← Option.some.inj hadd'] at hrest
                exact ⟨begun, hrest, hnot⟩
        · rw [dif_neg hfits]
          refine iff_of_true rfl ⟨bytes, .here hmore, ?_⟩
          rintro ⟨length', hlength', hfits'⟩
          rw [hlength] at hlength'
          exact hfits (Option.some.inj hlength' ▸ hfits')
    · rw [if_neg hmore]
      refine iff_of_false (by simp) ?_
      rintro ⟨begun, hbegins, -⟩
      cases hbegins with
      | here h => exact hmore h
      | later h => exact hmore h

end Macro

/-- The bytes of the part are there whenever the checks that are made let it be read. -/
def Part.Fits (bytes : List UInt8) : Part → Prop
  | auxiliaryChildren count =>
    (count * 6).toNat ≤ bytes.length → count.toNat * 6 ≤ bytes.length
  | colours count => count.toNat ≤ bytes.length
  | commands numberBytesToFollow =>
    numberBytesToFollow.toNat ≤ bytes.length → ∀ begun,
      Macro.Begins numberBytesToFollow 0 [] bytes begun → Macro.CommandFits begun
  | picture _ options _ _ numberOfBytesInRawData =>
    PictureGraphic.runLengthEncoded options = true → numberOfBytesInRawData % 2 = 0 →
      numberOfBytesInRawData.toNat ≤ bytes.length
  | macros count => ReferencesFit count bytes
  | countedMacros => ∃ count rest, bytes = count :: rest ∧ ReferencesFit count rest
  | pictureMacros count => ReferencesFit count bytes
  | _ => True

variable {contents : Contents} {bytes : List UInt8}

theorem checked_ne_outside {α : Type} {r : Reader α} {size checked : Nat} (h : Takes r size)
    (hle : size ≤ checked) : (atLeast checked >>= fun _ => r) bytes ≠ .outside := by
  intro houtside
  rcases bind_eq_outside.mp houtside with h' | ⟨_, _, hchecked, h'⟩
  · exact atLeast_ne_outside h'
  · obtain ⟨hchecked, rfl⟩ := atLeast_eq_done.mp hchecked
    rw [h.eq_outside] at h'
    omega

theorem auxiliaryChildren_eq_outside {count : UInt8} :
    (Part.auxiliaryChildren count).read contents bytes = .outside ↔
      ¬(Part.auxiliaryChildren count).Fits bytes := by
  change (atLeast (count * 6).toNat >>= _) bytes = _ ↔
    ¬((count * 6).toNat ≤ bytes.length → count.toNat * 6 ≤ bytes.length)
  rw [Classical.not_imp, not_le]
  by_cases hchecked : (count * 6).toNat ≤ bytes.length
  · rw [bind_of_done (atLeast_of hchecked), bind_eq_outside,
      (takes_readChild.times count.toNat).eq_outside, or_iff_left (by simp)]
    exact ⟨fun h => ⟨hchecked, h⟩, fun h => h.2⟩
  · rw [bind_of_refused (atLeast_of_lt (by omega))]
    exact iff_of_false (by simp) fun h => hchecked h.1

theorem childKeys_ne_outside {count : UInt8} :
    (Part.childKeys count).read contents bytes ≠ .outside := by
  intro houtside
  rcases bind_eq_outside.mp houtside with h | ⟨_, _, hchecked, h⟩
  · exact atLeast_ne_outside h
  · obtain ⟨hchecked, rfl⟩ := atLeast_eq_done.mp hchecked
    rcases bind_eq_outside.mp h with h₁ | ⟨_, _, hcount, h₁⟩
    · exact demand_ne_outside h₁
    · obtain ⟨-, rfl⟩ := demand_eq_done.mp hcount
      rcases bind_eq_outside.mp h₁ with h₂ | ⟨_, _, -, h₂⟩
      · rw [(takes_readReference.times _).eq_outside] at h₂
        omega
      · cases h₂

theorem commands_eq_outside {numberBytesToFollow : UInt16} :
    (Part.commands numberBytesToFollow).read contents bytes = .outside ↔
      ¬(Part.commands numberBytesToFollow).Fits bytes := by
  change (atLeast numberBytesToFollow.toNat >>= _) bytes = _ ↔
    ¬(numberBytesToFollow.toNat ≤ bytes.length → ∀ begun,
      Macro.Begins numberBytesToFollow 0 [] bytes begun → Macro.CommandFits begun)
  rw [Classical.not_imp]
  push Not
  by_cases hchecked : numberBytesToFollow.toNat ≤ bytes.length
  · rw [bind_of_done (atLeast_of hchecked), bind_eq_outside, Macro.readCommands_eq_outside,
      or_iff_left, and_iff_right hchecked]
    rintro ⟨packets, middle, -, h⟩
    rcases bind_eq_outside.mp h with h₁ | ⟨_, _, -, h₁⟩
    · exact demand_ne_outside h₁
    · cases h₁
  · rw [bind_of_refused (atLeast_of_lt (by omega))]
    exact iff_of_false (by simp) fun h => hchecked h.1

theorem picture_eq_outside {format options : UInt8} {actualWidth actualHeight : UInt16}
    {size : UInt32} :
    (Part.picture format options actualWidth actualHeight size).read contents bytes = .outside ↔
      ¬(Part.picture format options actualWidth actualHeight size).Fits bytes := by
  have hdecoded (decode : UInt8 → UInt16 → UInt16 → List UInt8 → List UInt8) :
      (do
        let data ← take size.toNat
        return decode format actualWidth actualHeight data : Reader (List UInt8)) bytes =
          .outside ↔ ¬size.toNat ≤ bytes.length := by
    rw [((takes_take size.toNat).bind fun data => takes_pure _).eq_outside, not_le, Nat.add_zero]
  change (readPicture format options actualWidth actualHeight size >>= _) bytes = _ ↔
    ¬(PictureGraphic.runLengthEncoded options = true → size % 2 = 0 → size.toNat ≤ bytes.length)
  rw [bind_eq_outside, or_iff_left (by simp)]
  unfold readPicture
  dsimp only
  by_cases hrle : PictureGraphic.runLengthEncoded options = true
  · rw [if_pos hrle]
    by_cases hodd : size % 2 = 0
    · rw [if_neg (not_not.mpr hodd), hdecoded, Classical.not_imp, Classical.not_imp]
      exact ⟨fun h => ⟨hrle, hodd, h⟩, fun h => h.2.2⟩
    · rw [if_pos hodd]
      exact iff_of_false (by simp) fun h => h fun _ h' => absurd h' hodd
  · rw [if_neg hrle]
    refine iff_of_false ?_ fun h => h fun h' => absurd h' hrle
    split_ifs with hsize
    · rw [hdecoded, not_not]
      exact hsize
    · simp

theorem countedMacros_eq_outside :
    Part.countedMacros.read contents bytes = .outside ↔ ¬Part.countedMacros.Fits bytes := by
  change (take 1 >>= _) bytes = _ ↔
    ¬∃ count rest, bytes = count :: rest ∧ ReferencesFit count rest
  cases bytes with
  | nil =>
    rw [bind_of_outside rfl]
    exact iff_of_true rfl (by simp)
  | cons count rest =>
    rw [bind_of_done (rfl : take 1 (count :: rest) = .done [count] rest), readMacros_eq_outside]
    refine not_congr ⟨fun h => ⟨count, rest, rfl, h⟩, ?_⟩
    rintro ⟨_, _, heq, h⟩
    cases heq
    exact h

theorem Part.read_eq_outside {part : Part} :
    part.read contents bytes = .outside ↔ ¬part.Fits bytes := by
  cases part with
  | children count =>
    exact iff_of_false (checked_ne_outside ((takes_readChild.times _).bind fun _ =>
      takes_pure _) le_rfl) (not_not.mpr trivial)
  | auxiliaryChildren count => exact auxiliaryChildren_eq_outside
  | references count =>
    exact iff_of_false (checked_ne_outside ((takes_readReference.times _).bind fun _ =>
      takes_pure _) le_rfl) (not_not.mpr trivial)
  | childKeys count => exact iff_of_false childKeys_ne_outside (not_not.mpr trivial)
  | points count =>
    exact iff_of_false (checked_ne_outside ((takes_readPoint.times _).bind fun _ =>
      takes_pure _) le_rfl) (not_not.mpr trivial)
  | languages count =>
    exact iff_of_false (checked_ne_outside ((takes_take _).bind fun _ => takes_pure _) le_rfl)
      (not_not.mpr trivial)
  | text length =>
    exact iff_of_false (checked_ne_outside ((takes_take _).bind fun _ => takes_pure _) le_rfl)
      (not_not.mpr trivial)
  | value length =>
    exact iff_of_false (checked_ne_outside ((takes_take _).bind fun _ =>
      (takes_take 1).bind fun _ => takes_pure _) (by omega)) (not_not.mpr trivial)
  | colours count =>
    change (take count.toNat >>= _) bytes = _ ↔ ¬count.toNat ≤ bytes.length
    rw [bind_eq_outside, take_eq_outside, or_iff_left (by simp), not_le]
  | commands numberBytesToFollow => exact commands_eq_outside
  | picture => exact picture_eq_outside
  | macros count => exact readMacros_eq_outside
  | countedMacros => exact countedMacros_eq_outside
  | pictureMacros count =>
    change (parseObjectMacroReference count >>= _) bytes = _ ↔ ¬ReferencesFit count bytes
    rw [bind_eq_outside, parseObjectMacroReference_eq_outside, or_iff_left (by simp)]

/-- The parts of an object that are come to, and the bytes they are read from. -/
inductive PartReached : Contents → List Part → List UInt8 → Part → List UInt8 → Prop
  | here {contents : Contents} {part : Part} {parts : List Part} {bytes : List UInt8} :
      PartReached contents (part :: parts) bytes part bytes
  | later {contents contents' : Contents} {part reached : Part} {parts : List Part}
      {bytes middle rest : List UInt8} (hread : part.read contents bytes = .done contents' middle)
      (hreached : PartReached contents' parts middle reached rest) :
      PartReached contents (part :: parts) bytes reached rest

theorem readParts_eq_outside {parts : List Part} :
    readParts contents parts bytes = .outside ↔
      ∃ part rest, PartReached contents parts bytes part rest ∧ ¬part.Fits rest := by
  induction parts generalizing contents bytes with
  | nil =>
    refine iff_of_false (fun h => by cases h) ?_
    rintro ⟨part, rest, hreached, -⟩
    cases hreached
  | cons part parts ih =>
    change (part.read contents >>= fun contents => readParts contents parts) bytes = _ ↔ _
    rw [bind_eq_outside, Part.read_eq_outside]
    constructor
    · rintro (h | ⟨contents', middle, hread, h⟩)
      · exact ⟨part, bytes, .here, h⟩
      · obtain ⟨reached, rest, hreached, hnot⟩ := ih.mp h
        exact ⟨reached, rest, .later hread hreached, hnot⟩
    · rintro ⟨reached, rest, hreached, hnot⟩
      cases hreached with
      | here => exact .inl hnot
      | later hread hreached => exact .inr ⟨_, _, hread, ih.mpr ⟨reached, rest, hreached, hnot⟩⟩

def Record.Fits (record : Record) (bytes : List UInt8) : Prop :=
  record.minimumObjectLength ≤ bytes.length → record.headerLength ≤ bytes.length ∧
    (record.valid (bytes.take record.headerLength) = true → ∀ part rest,
      PartReached {} (record.parts (bytes.take record.headerLength))
        (bytes.drop record.headerLength) part rest → part.Fits rest)

theorem Record.read_eq_outside {record : Record} {decodedID : UInt16} :
    record.read decodedID bytes = .outside ↔ ¬record.Fits bytes := by
  rw [Record.Fits, Classical.not_imp]
  change (atLeast _ >>= _) bytes = _ ↔ _
  by_cases hminimum : record.minimumObjectLength ≤ bytes.length
  · rw [bind_of_done (atLeast_of hminimum), and_iff_right hminimum]
    by_cases hheader : record.headerLength ≤ bytes.length
    · have htake : take record.headerLength bytes =
          .done (bytes.take record.headerLength) (bytes.drop record.headerLength) := if_pos hheader
      rw [bind_of_done htake]
      by_cases hvalid : record.valid (bytes.take record.headerLength) = true
      · rw [bind_of_done (demand_of hvalid), bind_eq_outside, readParts_eq_outside, or_iff_left,
          and_iff_right hheader, forall_prop_of_true hvalid]
        · push Not
          rfl
        · rintro ⟨contents, middle, -, h⟩
          rcases bind_eq_outside.mp h with h₁ | ⟨_, _, -, h₁⟩
          · exact demand_ne_outside h₁
          · cases h₁
      · rw [bind_of_refused (demand_of_not hvalid)]
        exact iff_of_false (by simp) fun h => h ⟨hheader, fun hvalid' => absurd hvalid' hvalid⟩
    · rw [bind_of_outside (take_eq_outside.mpr (by omega))]
      exact iff_of_true rfl fun h => hheader h.1
  · rw [bind_of_refused (atLeast_of_lt (by omega))]
    exact iff_of_false (by simp) fun h => hminimum h.1

namespace WorkingSetBase

inductive Begins : WorkingSetBase → List UInt8 → WorkingSetBase → List UInt8 → Prop
  | here {ws : WorkingSetBase} {bytes : List UInt8} (hne : bytes ≠ []) : Begins ws bytes ws bytes
  | later {ws ws' begun : WorkingSetBase} {bytes middle rest : List UInt8} (hne : bytes ≠ [])
      (hnext : ws.parseNextObject bytes = .accepted ws' middle)
      (hbegins : Begins ws' middle begun rest) : Begins ws bytes begun rest

end WorkingSetBase

end Isobus.VirtualTerminal
