import Isobus.VirtualTerminal.PoolParts

namespace Isobus.VirtualTerminal.Client

open Isobus.Lib

inductive FontSize
  | size6x8 | size8x8 | size8x12 | size12x16 | size16x16 | size16x24 | size24x32 | size32x32
  | size32x48 | size48x64 | size64x64 | size64x96 | size96x128 | size128x128 | size128x192
  deriving DecidableEq

namespace FontSize

def all : List FontSize :=
  [size6x8, size8x8, size8x12, size12x16, size16x16, size16x24, size24x32, size32x32, size32x48,
    size48x64, size64x64, size64x96, size96x128, size128x128, size128x192]

def toByte (size : FontSize) : UInt8 := UInt8.ofNat (all.idxOf size)

def ofByte (byte : UInt8) : Option FontSize := all[byte.toNat]?

end FontSize

/-- What the terminal reported: one bit for each size. -/
structure FontSizes where
  smallFontSizesBitfield : UInt8
  largeFontSizesBitfield : UInt8

def getFontSizeSupported (sizes : FontSizes) (value : UInt8) : Bool :=
  match FontSize.ofByte value with
  | none => false
  | some _ =>
    if value < 8 then sizes.smallFontSizesBitfield &&& (1 <<< value) ≠ 0
    else sizes.largeFontSizesBitfield &&& (1 <<< (value - 8)) ≠ 0

/-- A number as it is written back: scaled as unsigned or signed, or as it was. -/
inductive Rescale
  | unsigned | signed | kept
  deriving DecidableEq

def Rescale.apply (scaleFactor : Float32) (value : UInt16) : Rescale → UInt16
  | unsigned => (value.toFloat32 * scaleFactor).toUInt16
  | signed => (value.toFloat32 * scaleFactor).toInt16.toUInt16
  | kept => value

/-- Items with a position: where they are counted, where the first position stands, and how a
position is scaled. -/
structure PlacedItems where
  countIndex : Nat
  firstIndex : Nat
  itemSize : Nat
  rescale : Rescale

def PlacedItems.fields (items : PlacedItems) (count : Nat) : List (Nat × Rescale) :=
  (List.range count).flatMap fun i =>
    [(items.firstIndex + items.itemSize * i, items.rescale),
      (items.firstIndex + 2 + items.itemSize * i, items.rescale)]

/-- The fonts of the terminal and the two factors of a pool. -/
structure Scales where
  fontSizes : FontSizes
  softKeyScale : Float32
  dataMaskScale : Float32

def Scales.scaleFactor (scales : Scales) (type : VirtualTerminalObjectType) : Float32 :=
  if type = .key then scales.softKeyScale else scales.dataMaskScale

end Isobus.VirtualTerminal.Client
