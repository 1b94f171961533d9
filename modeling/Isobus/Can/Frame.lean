import Isobus.Can.Message

/-!
# Frames on a channel

The frame that is exchanged with the hardware layer (`can_message_frame.hpp`) and how the
network manager builds one (`CANNetworkManager::construct_frame`).
-/

namespace Isobus.Can

def CAN_PORT_MAXIMUM : UInt8 := 4

/-- The length of the data is the `dataLength` of the source. -/
structure CANMessageFrame where
  identifier : UInt32
  channel : UInt8
  data : List UInt8
  timestampUs : UInt64
  deriving DecidableEq

/-- `none` is the frame whose identifier stays the default one. -/
def constructFrame (portIndex sourceAddress destAddress : UInt8) (parameterGroupNumber : UInt32)
    (priority : UInt8) (data : List UInt8) : Option CANMessageFrame :=
  if NULL_CAN_ADDRESS ≠ destAddress ∧ priority ≤ 7 ∧ data.length ≤ CAN_DATA_LENGTH then
    let identifier : UInt32 := ((priority &&& 0x07).toUInt32 <<< 26) ||| sourceAddress.toUInt32
    let identifier : Option UInt32 :=
      if BROADCAST_CAN_ADDRESS = destAddress then
        if parameterGroupNumber &&& 0xF000 ≥ 0xF000 then
          some (identifier ||| ((parameterGroupNumber &&& 0x3FFFF) <<< 8))
        else
          some (identifier ||| (destAddress.toUInt32 <<< 8) |||
            ((parameterGroupNumber &&& 0x3FF00) <<< 8))
      else if parameterGroupNumber &&& 0xF000 < 0xF000 then
        some (identifier ||| (destAddress.toUInt32 <<< 8) |||
          ((parameterGroupNumber &&& 0x3FF00) <<< 8))
      else none
    identifier.map fun identifier =>
      { identifier := identifier &&& 0x1FFFFFFF
        channel := portIndex
        data := data
        timestampUs := 0 }
  else none

end Isobus.Can
