import Isobus.HardwareIntegration.FrameConservation

namespace Isobus.HardwareIntegration

open Isobus.Lib

/-- The two loops of `update` over the channels. -/
inductive Direction
  | receive
  | transmit
  deriving DecidableEq

namespace UpdateStage

def turn : Direction → Nat → UpdateStage
  | .receive, channel => receiving channel 0
  | .transmit, channel => transmitting channel 0

variable {channel : Nat}

variable {used steps : Nat}

end UpdateStage

namespace HardwareStep

end HardwareStep

namespace CANHardwareInterface

variable {interface : CANHardwareInterface} {thread : Nat}

variable {i n : Nat}

end CANHardwareInterface

namespace UpdateStage

def channel : UpdateStage → Option Nat
  | receiving i _ | dispatching i _ | transmitting i _ | reporting i _ => some i
  | _ => none

end UpdateStage

namespace CANHardwareInterface

variable {interface : CANHardwareInterface}

end CANHardwareInterface

end Isobus.HardwareIntegration
