import Isobus.VirtualTerminal.RecordLength

namespace Isobus.VirtualTerminal

open Isobus.Lib Isobus.Lib.Reader Client

structure Parsed (own rest : List UInt8) where
  type : VirtualTerminalObjectType
  record : Record
  header : List UInt8
  behind : List UInt8
  own_eq : own = header ++ behind
  record_eq : type.record = some record
  type_eq : VirtualTerminalObjectType.ofByte (byte header 2) = some type
  header_length : header.length = record.headerLength
  notExtended : type ≠ .extendedInputAttributes
  took : TookParts (record.parts header) behind rest

theorem Parsed.ne_nil {own rest : List UInt8} (p : Parsed own rest) : own ≠ [] := by
  rintro rfl
  have hfour := VirtualTerminalObjectType.headerLength_pos p.record_eq
  have hlength := congrArg List.length p.own_eq
  rw [List.length_append, p.header_length, List.length_nil] at hlength
  omega

variable {items : PlacedItems} {type : VirtualTerminalObjectType} {record : Record} {sizes :
  FontSizes} {font : UInt8} {header : List UInt8}

variable {field : Nat × Rescale} {original : UInt8} {index : Nat}

def Stops (sizes : FontSizes) (font : UInt8) : Prop :=
  getFontSizeSupported sizes font = true ∨ font = FontSize.size6x8.toByte

section

variable {own rest : List UInt8}

theorem Parsed.headerLength_pos (p : Parsed own rest) : 4 < p.record.headerLength :=
  VirtualTerminalObjectType.headerLength_pos p.record_eq

end

def starts (position : Nat) : List (List UInt8) → List Nat
  | [] => []
  | own :: records => position :: starts (position + own.length) records

structure Splits (own : List UInt8) (type : VirtualTerminalObjectType) (record : Record)
    (header behind : List UInt8) : Prop where
  own_eq : own = header ++ behind
  record_eq : type.record = some record
  type_eq : VirtualTerminalObjectType.ofByte (byte header 2) = some type
  header_length : header.length = record.headerLength

theorem Splits.unique {own header header' behind behind' : List UInt8}
    {type type' : VirtualTerminalObjectType} {record record' : Record}
    (h : Splits own type record header behind) (h' : Splits own type' record' header' behind') :
    type = type' ∧ record = record' ∧ header = header' ∧ behind = behind' := by
  have hbyte : byte header 2 = byte header' 2 := by
    have hfour := VirtualTerminalObjectType.headerLength_pos h.record_eq
    have hfour' := VirtualTerminalObjectType.headerLength_pos h'.record_eq
    have hlength := h.header_length
    have hlength' := h'.header_length
    calc byte header 2 = byte own 2 := by rw [h.own_eq, byte_append (by omega)]
      _ = byte header' 2 := by rw [h'.own_eq, byte_append (by omega)]
  have htype : type = type' := by
    have heq := h.type_eq.symm.trans (hbyte ▸ h'.type_eq)
    exact Option.some.inj heq
  subst htype
  have hrecord : record = record' := Option.some.inj (h.record_eq.symm.trans h'.record_eq)
  subst hrecord
  have happend := List.append_inj (h.own_eq.symm.trans h'.own_eq)
    (h.header_length.trans h'.header_length.symm)
  exact ⟨rfl, rfl, happend.1, happend.2⟩

variable {records : List (List UInt8)} {fuel : Nat}

variable {scales : Scales}

end Isobus.VirtualTerminal
