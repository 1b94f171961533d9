import Isobus.NetworkManager.Manager
import Isobus.NetworkManager.RequestProtocol

namespace Isobus.NetworkManager

open Isobus.Can Isobus.Lib

namespace ParameterGroupNumberRequestProtocol

section Loop

variable {message : CANMessage} {requestedPGN : UInt32}

variable {world : World} {protocol : ParameterGroupNumberRequestProtocol}

variable {type : AcknowledgementType}

end Loop

section Answers

variable (world : World) (protocol : ParameterGroupNumberRequestProtocol) {message : CANMessage}
  (elsewhere : Prop)

end Answers

def answering (answer : Answer) : PGNRequestCallbackInfo :=
  ⟨fun _ _ _ _ => answer, CANLibParameterGroupNumber.any⟩

end ParameterGroupNumberRequestProtocol

end Isobus.NetworkManager
