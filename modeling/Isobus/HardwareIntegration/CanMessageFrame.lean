import Mathlib.Data.Fintype.Basic

/-!
# The frame of the hardware layer

What the drivers and the hardware interface hand to each other (`can_message_frame.hpp`).
-/

namespace Isobus.HardwareIntegration

/-- A frame with all its members; `data` is the array of eight bytes. -/
structure CANMessageFrame where
  timestampUs : UInt64
  identifier : UInt32
  channel : UInt8
  data : Fin 8 → UInt8
  dataLength : UInt8
  isExtendedFrame : Bool
  deriving DecidableEq

end Isobus.HardwareIntegration
