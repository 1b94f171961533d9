import Mathlib.Data.UInt

/-!
# Bit fields

Numbers of a few bits that share a byte: how a field is put into a byte and read out again.
-/

namespace Isobus.Lib

variable {w : Nat}

def byteOfField (field : BitVec w) : UInt8 := ⟨field.setWidth 8⟩

def fieldOfByte (w : Nat) (byte : UInt8) : BitVec w := byte.toBitVec.setWidth w

end Isobus.Lib
