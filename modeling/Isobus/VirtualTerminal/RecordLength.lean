import Isobus.VirtualTerminal.ObjectScaling
import Isobus.VirtualTerminal.PoolRecords

namespace Isobus.VirtualTerminal

open Isobus.Lib Isobus.Lib.Reader

def KnownReferences (references : List (List UInt8)) : Prop :=
  ∀ reference ∈ references, IsKnown reference

def IsShort (reference : List UInt8) : Prop :=
  IsKnown reference ∧ byte reference 0 ≠ useExtendedMacroReference

namespace Part

/-- What a part takes of the bytes when it is read; `rest` is what it leaves. -/
def Took (own rest : List UInt8) : Part → Prop
  | picture _ options _ _ numberOfBytesInRawData =>
    (picture 0 options 0 0 numberOfBytesInRawData).Whole own ∨
      own = [] ∧ if PictureGraphic.runLengthEncoded options = true
        then numberOfBytesInRawData % 2 ≠ 0
        else rest.length < numberOfBytesInRawData.toNat
  | commands numberBytesToFollow => ∃ commands : List (List UInt8),
      own = commands.flatten ∧ numberBytesToFollow.toNat ≤ own.length ∧
        ∀ command ∈ commands, Macro.commandLength command = some command.length
  | macros count => References count own IsKnown
  | countedMacros => ∃ count rest, own = count :: rest ∧ References count rest IsKnown
  | pictureMacros count => ∃ references : List (List UInt8), own = references.flatten ∧
      KnownReferences references ∧ references.length ≤ count.toNat
  | part => part.Whole own

def Plain (own : List UInt8) : Part → Prop
  | macros count => References count own IsShort
  | countedMacros => ∃ count rest, own = count :: rest ∧ References count rest IsShort
  | part => part.Whole own

/-- How many bytes the counts announce. -/
def announced (own : List UInt8) : Part → Nat
  | children count | auxiliaryChildren count => count.toNat * 6
  | references count | childKeys count | languages count => count.toNat * 2
  | points count => count.toNat * 4
  | text length => length
  | value length => length.toNat + 1
  | colours count => count.toNat
  | commands numberBytesToFollow => numberBytesToFollow.toNat
  | picture _ _ _ _ numberOfBytesInRawData => numberOfBytesInRawData.toNat
  | macros count | pictureMacros count => count.toNat * 2
  | countedMacros => 1 + (byte own 0).toNat * 2

variable {contents contents' : Contents} {bytes rest : List UInt8}

end Part

namespace Macro

end Macro

namespace Part

variable {contents contents' : Contents} {bytes rest : List UInt8}

end Part

def TookParts : List Part → List UInt8 → List UInt8 → Prop
  | [], own, _ => own = []
  | part :: parts, own, rest => ∃ first others, own = first ++ others ∧
      part.Took first (others ++ rest) ∧ TookParts parts others rest

namespace Part

/-- The length is known from the header, apart from extended references. -/
def fixed : Part → Bool
  | picture .. | pictureMacros _ | countedMacros => false
  | _ => true

end Part

variable {parts : List Part} {own : List UInt8}

open Client

/-- The types all of whose counts stand in the header, where the client looks for them. -/
def VirtualTerminalObjectType.fixed : VirtualTerminalObjectType → Bool
  | inputString | outputString | pictureGraphic | inputAttributes | colourMap | keyGroup
  | auxiliaryInputType2 | auxiliaryControlDesignatorType2 | extendedInputAttributes => false
  | _ => true

section

variable {type : VirtualTerminalObjectType} {record : Record} {header more : List UInt8}

end

section

open Part

variable {header behind rest : List UInt8}

end

end Isobus.VirtualTerminal
