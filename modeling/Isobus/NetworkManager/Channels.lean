import Isobus.NetworkManager.Effects
import Isobus.TransportProtocol.ReceiveIntegrity
import Isobus.ExtendedTransportProtocol.ReceiveIntegrity

namespace Isobus.NetworkManager

open Isobus.Can Isobus.Lib

def onChannel (channel : UInt8) (message : CANMessage) : CANMessage :=
  { message with canPortIndex := channel }

namespace CANNetworkManager

variable (nm : CANNetworkManager) (message : CANMessage)

def taking (callbacks : List ParameterGroupNumberCallbackData)
    (takes : ParameterGroupNumberCallbackData → Bool) : List ParameterGroupNumberCallbackData :=
  callbacks.filter fun data =>
    data.parameterGroupNumber = message.identifier.getParameterGroupNumber && takes data

def partnerCallbacks (partner : CFRef) : List ParameterGroupNumberCallbackData :=
  if nm.port partner = message.canPortIndex ∧ message.source = some partner then
    taking message (nm.partnered partner).parameterGroupNumberCallbacks fun data =>
      data.callback.isSome && data.internalControlFunction.all fun c =>
        nm.address c = message.identifier.getDestinationAddress
  else []

def globalAndPartnerCallbacks : List ParameterGroupNumberCallbackData :=
  match message.destination with
  | none =>
    if message.source ≠ none ∨
        message.identifier.getParameterGroupNumber = parameterGroupNumberRequest ∧
          message.identifier.getSourceAddress = NULL_CAN_ADDRESS then
      taking message nm.globalParameterGroupNumberCallbacks (·.callback.isSome)
    else []
  | some destination =>
    if nm.type destination = .internal then
      nm.partneredControlFunctions.flatMap (nm.partnerCallbacks message)
    else []

def anyControlFunctionCallbacks : List ParameterGroupNumberCallbackData :=
  taking message nm.anyControlFunctionParameterGroupNumberCallbacks fun _ =>
    message.destination.all fun d => nm.type d = .internal

def Concerns (c : CFRef) : Prop :=
  message.canPortIndex = nm.port c ∧
    (message.identifier.getParameterGroupNumber = parameterGroupNumberRequest ∧
        message.getUint24At 0 = addressClaim ∧
        (BROADCAST_CAN_ADDRESS = message.identifier.getDestinationAddress ∨
          (nm.controlFunctions c).getAddressValid ∧
            nm.address c = message.identifier.getDestinationAddress) ∨
      message.identifier.getParameterGroupNumber = commandedAddress ∧
        message.destination = none ∧ message.data.length = COMMANDED_ADDRESS_LENGTH ∧
        decodeName message.data = nm.name c)

instance : DecidablePred (nm.Concerns message) := fun c => by
  unfold Concerns
  infer_instance

/-- Those of our control functions whose claim the message is about. -/
def concernedControlFunctions : List CFRef :=
  nm.internalControlFunctions.filter fun c => nm.Concerns message c

def Heard : Prop :=
  nm.globalAndPartnerCallbacks message ≠ [] ∨ nm.anyControlFunctionCallbacks message ≠ [] ∨
    nm.concernedControlFunctions message ≠ []

def called (callbacks : List ParameterGroupNumberCallbackData) : CANNetworkManager :=
  { nm with log := nm.log ++ callbacks.map (.callback · message) }

variable {nm message}

def listener : ParameterGroupNumberCallbackData := ⟨0xFECA, some 0, 0, none⟩

end CANNetworkManager

end Isobus.NetworkManager
