import Isobus.NetworkManager.ControlFunctions

/-!
# The address claim of an internal control function

`can_internal_control_function.cpp`: the claim machine, the frames it sends, and the
messages that push it on from outside.
-/

namespace Isobus.NetworkManager

open Isobus.Can Isobus.Lib

def ADDRESS_CONTENTION_TIME_MS : UInt32 := 250
def ARBITRATION_STARTING_ADDRESS : UInt8 := 128
def COMMANDED_ADDRESS_LENGTH : Nat := 9

def getEndArbitrationAddressForIndustryGroup (industryGroup : UInt8) : UInt8 :=
  if industryGroup = 0 then 247
  else if industryGroup = 1 then 158
  else if industryGroup = 2 then 235
  else if industryGroup = 3 ∨ industryGroup = 4 ∨ industryGroup = 5 then 207
  else ARBITRATION_STARTING_ADDRESS

def arbitrationRange (name : NAME) : List UInt8 :=
  (List.range' ARBITRATION_STARTING_ADDRESS.toNat
    ((getEndArbitrationAddressForIndustryGroup name.getIndustryGroup).toNat + 1 -
      ARBITRATION_STARTING_ADDRESS.toNat)).map UInt8.ofNat

def nameBytes (name : NAME) : List UInt8 :=
  (List.range 8).map fun i => (name >>> UInt64.ofNat (8 * i)).toUInt8

def decodeName (data : List UInt8) : NAME :=
  (List.range 8).foldl
    (fun name i => name ||| ((data.getD i 0).toUInt64 <<< UInt64.ofNat (8 * i))) 0

def addressClaimRequestBytes : List UInt8 :=
  [byteOf addressClaim 0, byteOf addressClaim 1, byteOf addressClaim 2]

namespace CANNetworkManager

variable (env : Environment)

def sendRequestToClaim (c : CFRef) (nm : CANNetworkManager) : Bool × CANNetworkManager :=
  nm.sendCanMessageRaw env (nm.port c) NULL_CAN_ADDRESS BROADCAST_CAN_ADDRESS
    parameterGroupNumberRequest 6 addressClaimRequestBytes

def sendAddressClaim (c : CFRef) (addressToClaim : UInt8) (nm : CANNetworkManager) :
    Bool × CANNetworkManager :=
  let sent := nm.sendCanMessageRaw env (nm.port c) addressToClaim BROADCAST_CAN_ADDRESS
    addressClaim 6 (nameBytes (nm.name c))
  if sent.1 then (true, sent.2.setAddress c addressToClaim) else (false, sent.2)

def sendCannotClaimSourceAddress (c : CFRef) (nm : CANNetworkManager) : CANNetworkManager :=
  (nm.sendAddressClaim env c NULL_CAN_ADDRESS).2

/-- The end of the wait: is the preferred address free, is it held by a higher NAME, or
is there another address to claim? -/
def decideClaim (c : CFRef) (nm : CANNetworkManager) : CANNetworkManager :=
  let preferredAddress := (nm.internal c).preferredAddress
  let device :=
    if NULL_CAN_ADDRESS ≠ preferredAddress then nm.getControlFunction (nm.port c) preferredAddress
    else none
  if device = none ∧ NULL_CAN_ADDRESS ≠ preferredAddress then
    nm.setCurrentState env c .sendPreferredAddressClaim
  else if device.any fun d => nm.name d > nm.name c then
    nm.setCurrentState env c .contendForPreferredAddress
  else if (nm.name c).getArbitraryAddressCapable then
    nm.setCurrentState env c .sendArbitraryAddressClaim
  else (nm.setCurrentState env c .unableToClaim).sendCannotClaimSourceAddress env c

def claimFirstFree (c : CFRef) : List UInt8 → CANNetworkManager → Bool × CANNetworkManager
  | [], nm => (false, nm)
  | i :: rest, nm =>
    if nm.getControlFunction (nm.port c) i = none then
      let claimed := nm.sendAddressClaim env c i
      if claimed.1 then
        let nm := claimed.2
        (true, if NULL_CAN_ADDRESS = (nm.internal c).preferredAddress then
          nm.setPreferredAddress c i else nm)
      else claimFirstFree c rest claimed.2
    else claimFirstFree c rest nm

def claimAddress (c : CFRef) (addressToClaim : UInt8) (otherwise : Option State)
    (nm : CANNetworkManager) : Bool × CANNetworkManager :=
  let claimed := nm.sendAddressClaim env c addressToClaim
  if claimed.1 then (true, claimed.2.setCurrentState env c .addressClaimingComplete)
  else
    (false, match otherwise with
      | some state => claimed.2.setCurrentState env c state
      | none => claimed.2)

def updateAddressClaiming (c : CFRef) (nm : CANNetworkManager) : Bool × CANNetworkManager :=
  match nm.currentState c with
  | .none => (false, nm.setCurrentState env c .waitForClaim)
  | .waitForClaim =>
    if env.timeExpired (nm.internal c).stateChangeTimestamp
        (nm.internal c).randomClaimDelay.toUInt32 then
      (false, nm.setCurrentState env c .sendRequestForClaim)
    else (false, nm)
  | .sendRequestForClaim =>
    let sent := nm.sendRequestToClaim env c
    (false, if sent.1 then sent.2.setCurrentState env c .waitForRequestContentionPeriod
      else sent.2)
  | .waitForRequestContentionPeriod =>
    if env.timeExpired (nm.internal c).stateChangeTimestamp ADDRESS_CONTENTION_TIME_MS then
      (false, nm.decideClaim env c)
    else (false, nm)
  | .sendPreferredAddressClaim =>
    nm.claimAddress env c (nm.internal c).preferredAddress (some .none)
  | .sendArbitraryAddressClaim =>
    let claimed := nm.claimFirstFree env c (arbitrationRange (nm.name c))
    if claimed.1 then (true, claimed.2.setCurrentState env c .addressClaimingComplete)
    else (false, (claimed.2.setCurrentState env c .unableToClaim).sendCannotClaimSourceAddress
      env c)
  | .sendReclaimAddressOnRequest => nm.claimAddress env c (nm.address c) none
  | .contendForPreferredAddress =>
    nm.claimAddress env c (nm.internal c).preferredAddress (some .none)
  | .unableToClaim => (false, nm)
  | .addressClaimingComplete => (false, nm)

def processCommandedAddress (c : CFRef) (commandedAddress : UInt8) (nm : CANNetworkManager) :
    CANNetworkManager :=
  if nm.currentState c = .addressClaimingComplete then
    if (nm.name c).getArbitraryAddressCapable then
      let device := nm.getControlFunction (nm.port c) commandedAddress
      let nm := nm.setPreferredAddress c commandedAddress
      match device with
      | none => nm.setCurrentState env c .sendPreferredAddressClaim
      | some d =>
        if nm.name d < nm.name c then nm.setCurrentState env c .sendArbitraryAddressClaim
        else nm
    else nm
  else nm

def processRxMessageForAddressClaiming (message : CANMessage) (c : CFRef)
    (nm : CANNetworkManager) : CANNetworkManager :=
  if message.canPortIndex ≠ nm.port c then nm
  else if message.identifier.getParameterGroupNumber = parameterGroupNumberRequest then
    if message.getUint24At 0 = addressClaim ∧
        (BROADCAST_CAN_ADDRESS = message.identifier.getDestinationAddress ∨
          (nm.controlFunctions c).getAddressValid ∧
            nm.address c = message.identifier.getDestinationAddress) ∧
        nm.currentState c = .addressClaimingComplete then
      nm.setCurrentState env c .sendReclaimAddressOnRequest
    else nm
  else if message.identifier.getParameterGroupNumber = commandedAddress then
    if message.destination = none ∧ message.data.length = COMMANDED_ADDRESS_LENGTH ∧
        decodeName message.data = nm.name c then
      nm.processCommandedAddress env c (message.getUint8At 8)
    else nm
  else nm

def processRxMessageForAddressViolation (message : CANMessage) (c : CFRef)
    (nm : CANNetworkManager) : CANNetworkManager :=
  let sourceAddress := message.identifier.getSourceAddress
  if BROADCAST_CAN_ADDRESS ≠ sourceAddress ∧ NULL_CAN_ADDRESS ≠ sourceAddress ∧
      nm.address c = sourceAddress ∧ message.canPortIndex = nm.port c ∧
      nm.currentState c = .addressClaimingComplete then
    (nm.setCurrentState env c .sendReclaimAddressOnRequest).emit (.addressViolation c)
  else nm

end CANNetworkManager

end Isobus.NetworkManager
