import Isobus.Lib.LittleEndian
import Isobus.Lib.Reader
import Isobus.VirtualTerminal.Objects

namespace Isobus.VirtualTerminal

open Isobus.Lib Isobus.Lib.Reader

def byte (header : List UInt8) (index : Nat) : UInt8 := header.getD index 0

def uint16 (header : List UInt8) (index : Nat) : UInt16 :=
  decode16 (byte header index) (byte header (index + 1))

def uint32 (header : List UInt8) (index : Nat) : UInt32 :=
  decode32 (byte header index) (byte header (index + 1)) (byte header (index + 2))
    (byte header (index + 3))

/-- The reference in front and what is behind it, unless it is faulty. -/
def macroReference : List UInt8 → Option (MacroMetadata × List UInt8)
  | [] => none
  | first :: rest =>
    if first = useExtendedMacroReference then
      match rest with
      | low :: event :: high :: behind =>
        if getEventFromByte event ≠ .reserved then
          some (⟨getEventFromByte event, decode16 low high⟩, behind)
        else none
      | _ => none
    else
      match rest with
      | macroID :: behind =>
        if getEventFromByte first ≠ .reserved then
          some (⟨getEventFromByte first, macroID.toUInt16⟩, behind)
        else none
      | [] => none

/-- The references in front of the first faulty one, and whether none is faulty. -/
def macroReferences : Nat → Reader (List MacroMetadata × Bool)
  | 0, bytes => .done ([], true) bytes
  | count + 1, bytes =>
    if bytes = [] then .outside
    else
      match macroReference bytes with
      | none => .done ([], false) bytes
      | some (reference, behind) =>
        (do
          let found ← macroReferences count
          return (reference :: found.1, found.2) : Reader (List MacroMetadata × Bool)) behind

def parseObjectMacroReference (numberOfMacrosToFollow : UInt8) :
    Reader (List MacroMetadata × Bool) := fun bytes =>
  if bytes.length < 2 * numberOfMacrosToFollow.toNat then .done ([], false) bytes
  else macroReferences numberOfMacrosToFollow.toNat bytes

namespace Macro

def changeChildPosition : UInt8 := 0xB4
def graphicsContextCommand : UInt8 := 0xB8
def changeStringValue : UInt8 := 0xB3

def ALLOWED_COMMANDS_LOOKUP_TABLE : List UInt8 :=
  [0xA0, 0xA1, 0xA2, 0xA3, 0xA4, 0xA5, 0xA6, 0xA7, 0xA8, 0xA9, 0xAA, 0xAB, 0xAC, 0xAD, 0xAE,
    0xAF, 0xB0, 0xB1, 0xB3, 0xB4, 0xB5, 0xB6, 0xBD, 0xBE, 0xB7, 0xB8, 0xBA, 0xBC]

def getAreCommandPacketsValid (commandPackets : List (List UInt8)) : Bool :=
  commandPackets.all fun command =>
    match command with
    | [] => false
    | function :: _ => ALLOWED_COMMANDS_LOOKUP_TABLE.contains function

/-- How long the command is that the bytes begin with, if they show it. -/
def commandLength : List UInt8 → Option Nat
  | [] => none
  | function :: rest =>
    if function = changeChildPosition then some 9
    else if function = changeStringValue then
      match rest with
      | _ :: _ :: low :: high :: _ => some (5 + (decode16 low high).toNat)
      | _ => none
    else some 8

theorem commandLength_pos {bytes : List UInt8} {length : Nat}
    (h : commandLength bytes = some length) : 0 < length := by
  unfold commandLength at h
  split at h
  · exact absurd h nofun
  · split_ifs at h
    · cases h
      omega
    · split at h
      · cases h
        omega
      · exact absurd h nofun
    · cases h
      omega

/-- A graphics context command is passed over without being stored. -/
def addCommandPacket (commandPackets : List (List UInt8)) (command : List UInt8) :
    Option (List (List UInt8)) :=
  if byte command 0 = graphicsContextCommand then some commandPackets
  else if commandPackets.length ≤ 65534 then some (commandPackets ++ [command])
  else none

/-- The number of processed bytes is kept in 16 bits. -/
def readCommands (numberBytesToFollow numberBytesProcessed : UInt16)
    (commandPackets : List (List UInt8)) : Reader (List (List UInt8)) := fun bytes =>
  if numberBytesProcessed < numberBytesToFollow then
    match _h : commandLength bytes with
    | none => .outside
    | some length =>
      if _hlength : length ≤ bytes.length then
        match addCommandPacket commandPackets (bytes.take length) with
        | none => .refused
        | some commandPackets =>
          readCommands numberBytesToFollow (numberBytesProcessed + UInt16.ofNat length)
            commandPackets (bytes.drop length)
      else .outside
  else .done commandPackets bytes
termination_by bytes => bytes.length
decreasing_by
  have hpos := commandLength_pos _h
  rw [List.length_drop]
  omega

end Macro

namespace PictureGraphic

/-- The product of two 16 bit numbers as a signed 32 bit one, compared with a size. -/
def area (actualWidth actualHeight : UInt16) : Nat :=
  let product := actualWidth.toNat * actualHeight.toNat
  if product < 2 ^ 31 then product else product + 2 ^ 64 - 2 ^ 32

def addRawData (limit : Nat) (rawData : List UInt8) (dataByte : UInt8) : List UInt8 :=
  if rawData.length < limit then rawData ++ [dataByte] else rawData

def addBits (limit : Nat) : List UInt8 → List UInt8 × UInt64 → List UInt8 × UInt64
  | [], state => state
  | bit :: bits, (rawData, lineAmountLeft) =>
    let lineAmountLeft := lineAmountLeft - 1
    if lineAmountLeft = 0 then (addRawData limit rawData bit, lineAmountLeft)
    else addBits limit bits (addRawData limit rawData bit, lineAmountLeft)

/-- The pixels of one byte, of which those behind the end of a line are left out. -/
def addPixels (format : UInt8) (actualWidth : UInt16) (limit : Nat)
    (state : List UInt8 × UInt64) (value : UInt8) : List UInt8 × UInt64 :=
  let (rawData, lineAmountLeft) := state
  if format = eightBitColour then (addRawData limit rawData value, lineAmountLeft)
  else if format = fourBitColour then
    let rawData := addRawData limit rawData (value >>> 4)
    let lineAmountLeft := lineAmountLeft - 1
    if lineAmountLeft > 0 then
      let rawData := addRawData limit rawData (value &&& 0x0F)
      let lineAmountLeft := lineAmountLeft - 1
      (rawData, if lineAmountLeft = 0 then actualWidth.toUInt64 else lineAmountLeft)
    else (rawData, actualWidth.toUInt64)
  else
    let bits := [(value >>> 7) &&& 1, (value >>> 6) &&& 1, (value >>> 5) &&& 1, (value >>> 4) &&& 1,
      (value >>> 3) &&& 1, (value >>> 2) &&& 1, (value >>> 1) &&& 1, value &&& 1]
    let (rawData, lineAmountLeft) := addBits limit bits (rawData, lineAmountLeft)
    (rawData, if lineAmountLeft = 0 then actualWidth.toUInt64 else lineAmountLeft)

def addRuns (format : UInt8) (actualWidth : UInt16) (limit : Nat) :
    List UInt8 → List UInt8 × UInt64 → List UInt8 × UInt64
  | count :: value :: runs, state =>
    addRuns format actualWidth limit runs
      ((List.replicate count.toNat value).foldl (addPixels format actualWidth limit) state)
  | _, state => state

def decodeRunLength (format : UInt8) (actualWidth actualHeight : UInt16) (runs : List UInt8) :
    List UInt8 :=
  (addRuns format actualWidth (area actualWidth actualHeight) runs ([], actualWidth.toUInt64)).1

def decodeRaw (format : UInt8) (actualWidth actualHeight : UInt16) (bytes : List UInt8) :
    List UInt8 :=
  if format = eightBitColour then bytes
  else (bytes.foldl (addPixels format actualWidth (area actualWidth actualHeight))
    ([], actualWidth.toUInt64)).1

def scaledHeight (width actualWidth actualHeight : UInt16) : UInt16 :=
  (actualHeight.toFloat32 * (width.toFloat32 / actualWidth.toFloat32)).toUInt16

end PictureGraphic

inductive Part
  /-- Objects with an ID and a position. -/
  | children (count : UInt8)
  /-- The same of the auxiliary objects, whose size is kept in 8 bits. -/
  | auxiliaryChildren (count : UInt8)
  | references (count : UInt8)
  | childKeys (count : UInt8)
  | points (count : UInt8)
  | languages (count : UInt8)
  | text (length : Nat)
  /-- The value of an input string and whether it is enabled. -/
  | value (length : UInt8)
  | colours (count : UInt16)
  | commands (numberBytesToFollow : UInt16)
  | picture (format options : UInt8) (actualWidth actualHeight : UInt16)
      (numberOfBytesInRawData : UInt32)
  | macros (count : UInt8)
  /-- The number of macros stands right in front of them. -/
  | countedMacros
  /-- References of a picture graphic, which a faulty one does not refuse. -/
  | pictureMacros (count : UInt8)
  deriving DecidableEq

structure Contents where
  children : List ChildObjectData := []
  text : List UInt8 := []
  enabled : Bool := false
  points : List PolygonPoint := []
  colours : List UInt8 := []
  commandPackets : List (List UInt8) := []
  rawData : List UInt8 := []
  macros : List MacroMetadata := []
  macrosComplete : Bool := true
  deriving DecidableEq

def readChild : Reader ChildObjectData := do
  let bytes ← take 6
  return ⟨uint16 bytes 0, (uint16 bytes 2).toInt16, (uint16 bytes 4).toInt16⟩

def readReference : Reader ChildObjectData := do
  let bytes ← take 2
  return ⟨uint16 bytes 0, 0, 0⟩

def readPoint : Reader PolygonPoint := do
  let bytes ← take 4
  return ⟨uint16 bytes 0, uint16 bytes 2⟩

def readMacros (contents : Contents) (count : UInt8) : Reader Contents := do
  let found ← parseObjectMacroReference count
  demand (found.2 = true)
  return { contents with macros := found.1 }

def readPicture (format options : UInt8) (actualWidth actualHeight : UInt16)
    (numberOfBytesInRawData : UInt32) : Reader (List UInt8) := fun bytes =>
  let decoded (decode : UInt8 → UInt16 → UInt16 → List UInt8 → List UInt8) :=
    (do
      let data ← take numberOfBytesInRawData.toNat
      return decode format actualWidth actualHeight data : Reader (List UInt8)) bytes
  if PictureGraphic.runLengthEncoded options then
    if numberOfBytesInRawData % 2 ≠ 0 then .done [] bytes
    else decoded PictureGraphic.decodeRunLength
  else if numberOfBytesInRawData.toNat ≤ bytes.length then decoded PictureGraphic.decodeRaw
  else .done [] bytes

def Part.read (contents : Contents) : Part → Reader Contents
  | children count => do
      atLeast (count.toNat * 6)
      let children ← times count.toNat readChild
      return { contents with children := contents.children ++ children }
  | auxiliaryChildren count => do
      atLeast (count * 6).toNat
      let children ← times count.toNat readChild
      return { contents with children := contents.children ++ children }
  | references count => do
      atLeast (count.toNat * 2)
      let children ← times count.toNat readReference
      return { contents with children := contents.children ++ children }
  | childKeys count => do
      atLeast (count.toNat * 2)
      demand (count ≤ KeyGroup.MAX_CHILD_KEYS)
      let children ← times count.toNat readReference
      return { contents with children := contents.children ++ children }
  | points count => do
      atLeast (count.toNat * 4)
      let points ← times count.toNat readPoint
      return { contents with points }
  | languages count => do
      atLeast (count.toNat * 2)
      let _ ← take (count.toNat * 2)
      return contents
  | text length => do
      atLeast length
      let text ← take length
      return { contents with text }
  | value length => do
      atLeast (length.toNat + 3)
      let text ← take length.toNat
      let enabled ← take 1
      return { contents with text, enabled := byte enabled 0 ≠ 0 }
  | colours count => do
      let colours ← take count.toNat
      return { contents with colours }
  | commands numberBytesToFollow => do
      atLeast numberBytesToFollow.toNat
      let commandPackets ← Macro.readCommands numberBytesToFollow 0 []
      demand (Macro.getAreCommandPacketsValid commandPackets = true)
      return { contents with commandPackets }
  | picture format options actualWidth actualHeight numberOfBytesInRawData => do
      let rawData ← readPicture format options actualWidth actualHeight numberOfBytesInRawData
      return { contents with rawData }
  | macros count => readMacros contents count
  | countedMacros => do
      let numberOfMacrosToFollow ← take 1
      readMacros contents (byte numberOfMacrosToFollow 0)
  | pictureMacros count => do
      let found ← parseObjectMacroReference count
      return { contents with macros := found.1, macrosComplete := found.2 }

def readParts (contents : Contents) : List Part → Reader Contents
  | [] => pure contents
  | part :: parts => do
      let contents ← part.read contents
      readParts contents parts

inductive KnownReference : List UInt8 → MacroMetadata → Prop
  | short {first macroID : UInt8} (hfirst : first ≠ useExtendedMacroReference)
      (hevent : getEventFromByte first ≠ .reserved) :
      KnownReference [first, macroID] ⟨getEventFromByte first, macroID.toUInt16⟩
  | extended {low event high : UInt8} (hevent : getEventFromByte event ≠ .reserved) :
      KnownReference [useExtendedMacroReference, low, event, high]
        ⟨getEventFromByte event, decode16 low high⟩

theorem macroReference_eq_some {bytes behind : List UInt8} {reference : MacroMetadata} :
    macroReference bytes = some (reference, behind) ↔
      ∃ taken, KnownReference taken reference ∧ bytes = taken ++ behind := by
  constructor
  · intro h
    cases bytes with
    | nil => exact absurd h nofun
    | cons first rest =>
      by_cases hfirst : first = useExtendedMacroReference
      · simp only [macroReference, if_pos hfirst] at h
        split at h
        · split_ifs at h with hevent
          cases h
          exact ⟨_, .extended hevent, by rw [hfirst]; rfl⟩
        · exact absurd h nofun
      · simp only [macroReference, if_neg hfirst] at h
        split at h
        · split_ifs at h with hevent
          cases h
          exact ⟨_, .short hfirst hevent, rfl⟩
        · exact absurd h nofun
  · rintro ⟨taken, hknown, rfl⟩
    cases hknown with
    | short hfirst hevent => simp [macroReference, hfirst, hevent]
    | extended hevent => simp [macroReference, hevent]

theorem macroReferences_done {count : Nat} {bytes rest : List UInt8}
    {found : List MacroMetadata × Bool} (h : macroReferences count bytes = .done found rest) :
    ∃ taken : List (List UInt8), bytes = taken.flatten ++ rest ∧
      List.Forall₂ KnownReference taken found.1 ∧ (found.2 = true ↔ found.1.length = count) ∧
      found.1.length ≤ count := by
  induction count generalizing bytes found with
  | zero =>
    obtain ⟨rfl, rfl⟩ := Reading.done.inj h
    exact ⟨[], rfl, .nil, by simp, le_rfl⟩
  | succ count ih =>
    rw [macroReferences] at h
    split_ifs at h with hempty
    split at h
    · obtain ⟨rfl, rfl⟩ := Reading.done.inj h
      exact ⟨[], rfl, .nil, by simp, Nat.zero_le _⟩
    · next reference behind href =>
      obtain ⟨taken, hknown, rfl⟩ := macroReference_eq_some.mp href
      obtain ⟨found', middle, hrest, hfound⟩ := bind_eq_done.mp h
      obtain ⟨rfl, rfl⟩ := Reading.done.inj hfound
      obtain ⟨taken', rfl, hall, hcomplete, hle⟩ := ih hrest
      refine ⟨taken :: taken', by simp, .cons hknown hall, ?_, ?_⟩
      · rw [hcomplete, List.length_cons, Nat.succ_inj]
      · rw [List.length_cons]
        omega

theorem consumes_parseObjectMacroReference (count : UInt8) :
    Consumes (parseObjectMacroReference count) := by
  intro bytes found rest h
  rw [parseObjectMacroReference] at h
  split_ifs at h
  · obtain ⟨-, rfl⟩ := Reading.done.inj h
    exact ⟨[], rfl⟩
  · obtain ⟨taken, hbytes, -⟩ := macroReferences_done h
    exact ⟨taken.flatten, hbytes⟩

theorem takes_readChild : Takes readChild 6 :=
  (takes_take 6).bind fun bytes =>
    takes_pure (⟨uint16 bytes 0, (uint16 bytes 2).toInt16, (uint16 bytes 4).toInt16⟩ :
      ChildObjectData)

theorem takes_readReference : Takes readReference 2 :=
  (takes_take 2).bind fun bytes => takes_pure (⟨uint16 bytes 0, 0, 0⟩ : ChildObjectData)

theorem takes_readPoint : Takes readPoint 4 :=
  (takes_take 4).bind fun bytes => takes_pure (⟨uint16 bytes 0, uint16 bytes 2⟩ : PolygonPoint)

theorem Macro.consumes_readCommands (numberBytesToFollow numberBytesProcessed : UInt16)
    (commandPackets : List (List UInt8)) :
    Consumes (Macro.readCommands numberBytesToFollow numberBytesProcessed commandPackets) := by
  intro bytes packets rest h
  induction hlength : bytes.length using Nat.strong_induction_on
    generalizing bytes numberBytesProcessed commandPackets with
  | _ n ih =>
    rw [Macro.readCommands] at h
    split_ifs at h with hmore
    · split at h
      · exact absurd h nofun
      · next length hcommand =>
        split_ifs at h with hfits
        split at h
        · exact absurd h nofun
        · have hpos := Macro.commandLength_pos hcommand
          obtain ⟨taken, htaken⟩ := ih (n - length) (by omega) _ _ h (by
            rw [List.length_drop, hlength])
          exact ⟨bytes.take length ++ taken, by
            rw [List.append_assoc, ← htaken, List.take_append_drop]⟩
    · obtain ⟨-, rfl⟩ := Reading.done.inj h
      exact ⟨[], rfl⟩

theorem consumes_readPicture (format options : UInt8) (actualWidth actualHeight : UInt16)
    (size : UInt32) : Consumes (readPicture format options actualWidth actualHeight size) := by
  have hdecoded (decode : UInt8 → UInt16 → UInt16 → List UInt8 → List UInt8) :
      Consumes (do
        let data ← take size.toNat
        return decode format actualWidth actualHeight data) :=
    (takes_take _).consumes.bind fun _ => consumes_pure _
  intro bytes rawData rest h
  unfold readPicture at h
  dsimp only at h
  split_ifs at h
  · obtain ⟨-, rfl⟩ := Reading.done.inj h
    exact ⟨[], rfl⟩
  · exact hdecoded _ h
  · exact hdecoded _ h
  · obtain ⟨-, rfl⟩ := Reading.done.inj h
    exact ⟨[], rfl⟩

theorem consumes_readMacros (contents : Contents) (count : UInt8) :
    Consumes (readMacros contents count) :=
  (consumes_parseObjectMacroReference count).bind fun _ =>
    (consumes_demand _).bind fun _ => consumes_pure _

theorem Part.consumes_read (contents : Contents) (part : Part) :
    Consumes (part.read contents) := by
  cases part with
  | children count =>
    exact (consumes_atLeast _).bind fun _ =>
      (takes_readChild.times _).consumes.bind fun _ => consumes_pure _
  | auxiliaryChildren count =>
    exact (consumes_atLeast _).bind fun _ =>
      (takes_readChild.times _).consumes.bind fun _ => consumes_pure _
  | references count =>
    exact (consumes_atLeast _).bind fun _ =>
      (takes_readReference.times _).consumes.bind fun _ => consumes_pure _
  | childKeys count =>
    exact (consumes_atLeast _).bind fun _ => (consumes_demand _).bind fun _ =>
      (takes_readReference.times _).consumes.bind fun _ => consumes_pure _
  | points count =>
    exact (consumes_atLeast _).bind fun _ =>
      (takes_readPoint.times _).consumes.bind fun _ => consumes_pure _
  | languages count =>
    exact (consumes_atLeast _).bind fun _ =>
      (takes_take _).consumes.bind fun _ => consumes_pure _
  | text length =>
    exact (consumes_atLeast _).bind fun _ =>
      (takes_take _).consumes.bind fun _ => consumes_pure _
  | value length =>
    exact (consumes_atLeast _).bind fun _ => (takes_take _).consumes.bind fun _ =>
      (takes_take _).consumes.bind fun _ => consumes_pure _
  | colours count => exact (takes_take _).consumes.bind fun _ => consumes_pure _
  | commands numberBytesToFollow =>
    exact (consumes_atLeast _).bind fun _ => (Macro.consumes_readCommands _ _ _).bind fun _ =>
      (consumes_demand _).bind fun _ => consumes_pure _
  | picture => exact (consumes_readPicture _ _ _ _ _).bind fun _ => consumes_pure _
  | macros count => exact consumes_readMacros _ _
  | countedMacros => exact (takes_take _).consumes.bind fun _ => consumes_readMacros _ _
  | pictureMacros count =>
    exact (consumes_parseObjectMacroReference _).bind fun _ => consumes_pure _

theorem consumes_readParts (contents : Contents) (parts : List Part) :
    Consumes (readParts contents parts) := by
  induction parts generalizing contents with
  | nil => exact consumes_pure contents
  | cons part parts ih => exact (part.consumes_read contents).bind fun contents => ih contents

end Isobus.VirtualTerminal
