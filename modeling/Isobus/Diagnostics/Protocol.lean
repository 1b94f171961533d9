import Isobus.Can.Message
import Isobus.Lib.Machine

/-!
# The diagnostic protocol

What `isobus_diagnostic_protocol.cpp` keeps about trouble codes, waiting messages and the suspension
of broadcasts.
-/

namespace Isobus.Diagnostics

open Isobus.Can Isobus.Lib

def DIAGNOSTIC_MESSAGE_22 : UInt32 := 0xC300
def DIAGNOSTIC_MESSAGE_13 : UInt32 := 0xDF00
def PRODUCT_IDENTIFICATION : UInt32 := 0xFC8D
def DIAGNOSTIC_PROTOCOL_IDENTIFICATION : UInt32 := 0xFD32
def ECU_IDENTIFICATION_INFORMATION : UInt32 := 0xFDC5
def DIAGNOSTIC_MESSAGE_1 : UInt32 := 0xFECA
def DIAGNOSTIC_MESSAGE_2 : UInt32 := 0xFECB
def DIAGNOSTIC_MESSAGE_3 : UInt32 := 0xFECC
def DIAGNOSTIC_MESSAGE_11 : UInt32 := 0xFED3
def SOFTWARE_IDENTIFICATION : UInt32 := 0xFEDA

def DM_MAX_FREQUENCY_MS : UInt32 := 1000
def DM13_TIMEOUT_MS : UInt32 := 6000
def MAX_PAYLOAD_SIZE_BYTES : UInt16 := 1785
def MAX_DM13_CUSTOM_SUSPEND_TIME_MS : UInt16 := 64255
def DM_PAYLOAD_BYTES_PER_DTC : Nat := 4
def PRODUCT_IDENTIFICATION_MAX_STRING_LENGTH : Nat := 50
def DM13_NETWORK_BITMASK : Nat := 3
def DM13_BITS_PER_NETWORK : Nat := 2
def ADDRESS_VIOLATION_SPN_BASE : UInt32 := 2000

inductive LampStatus
  | none
  | malfunctionIndicatorLampSolid
  | malfunctionIndicatorLampSlowFlash
  | malfunctionIndicatorLampFastFlash
  | redStopLampSolid
  | redStopLampSlowFlash
  | redStopLampFastFlash
  | amberWarningLampSolid
  | amberWarningLampSlowFlash
  | amberWarningLampFastFlash
  | engineProtectLampSolid
  | engineProtectLampSlowFlash
  | engineProtectLampFastFlash
  deriving DecidableEq

inductive Lamps
  | malfunctionIndicatorLamp
  | redStopLamp
  | amberWarningLamp
  | protectLamp
  deriving DecidableEq

inductive FlashState
  | solid
  | slow
  | fast
  deriving DecidableEq

def LampStatus.command : LampStatus → Option (Lamps × FlashState)
  | none => Option.none
  | malfunctionIndicatorLampSolid => some (.malfunctionIndicatorLamp, .solid)
  | malfunctionIndicatorLampSlowFlash => some (.malfunctionIndicatorLamp, .slow)
  | malfunctionIndicatorLampFastFlash => some (.malfunctionIndicatorLamp, .fast)
  | redStopLampSolid => some (.redStopLamp, .solid)
  | redStopLampSlowFlash => some (.redStopLamp, .slow)
  | redStopLampFastFlash => some (.redStopLamp, .fast)
  | amberWarningLampSolid => some (.amberWarningLamp, .solid)
  | amberWarningLampSlowFlash => some (.amberWarningLamp, .slow)
  | amberWarningLampFastFlash => some (.amberWarningLamp, .fast)
  | engineProtectLampSolid => some (.protectLamp, .solid)
  | engineProtectLampSlowFlash => some (.protectLamp, .slow)
  | engineProtectLampFastFlash => some (.protectLamp, .fast)

abbrev FailureModeIdentifier := UInt8

def CONDITION_EXISTS : FailureModeIdentifier := 31

structure DiagnosticTroubleCode where
  suspectParameterNumber : UInt32 := 0xFFFFFFFF
  failureModeIdentifier : FailureModeIdentifier := CONDITION_EXISTS
  lampState : LampStatus := .none
  occurrenceCount : UInt8 := 0
  deriving DecidableEq

namespace DiagnosticTroubleCode

def sameCode (dtc other : DiagnosticTroubleCode) : Bool :=
  dtc.suspectParameterNumber = other.suspectParameterNumber &&
    dtc.failureModeIdentifier = other.failureModeIdentifier && dtc.lampState = other.lampState

/-- The comparison with what a DM22 names, which leaves the lamp out as well. -/
def isNamed (suspectParameterNumber : UInt32) (failureModeIdentifier : UInt8)
    (dtc : DiagnosticTroubleCode) : Bool :=
  suspectParameterNumber = dtc.suspectParameterNumber &&
    failureModeIdentifier = dtc.failureModeIdentifier

/-- The four bytes of a code in a DM1 or DM2. -/
def bytes (dtc : DiagnosticTroubleCode) : List UInt8 :=
  [(dtc.suspectParameterNumber &&& 0xFF).toUInt8,
    ((dtc.suspectParameterNumber >>> 8) &&& 0xFF).toUInt8,
    (((dtc.suspectParameterNumber >>> 16) &&& 0xFF).toUInt8 <<< 5) |||
      (dtc.failureModeIdentifier &&& 0x1F),
    dtc.occurrenceCount &&& 0x7F]

end DiagnosticTroubleCode

theorem exists_eraseP {dtcs : List DiagnosticTroubleCode} {dtc : DiagnosticTroubleCode}
    {named : DiagnosticTroubleCode → Bool} (h : dtcs.find? named = some dtc) :
    named dtc = true ∧ ∃ front behind, dtcs = front ++ dtc :: behind ∧
      dtcs.eraseP named = front ++ behind := by
  obtain ⟨hnamed, front, behind, hsplit, hfront⟩ := List.find?_eq_some_iff_append.mp h
  have hnone : ∀ other ∈ front, ¬named other = true := by
    intro other hother
    have hunnamed := hfront other hother
    rwa [Bool.not_eq_true', ← Bool.not_eq_true] at hunnamed
  refine ⟨hnamed, front, behind, hsplit, ?_⟩
  rw [hsplit, List.eraseP_append_right _ hnone, List.eraseP_cons_of_pos hnamed]

inductive TransmitFlags
  | dm1
  | dm2
  | diagnosticProtocolID
  | productIdentification
  | dm22
  | ecuIdentification
  | softwareIdentification
  deriving DecidableEq

def TransmitFlags.all : List TransmitFlags :=
  [dm1, dm2, diagnosticProtocolID, productIdentification, dm22, ecuIdentification,
    softwareIdentification]

abbrev ProcessingFlags := TransmitFlags → Bool

namespace ProcessingFlags

def setFlag (flag : TransmitFlags) (flags : ProcessingFlags) : ProcessingFlags :=
  fun other => if other = flag then true else flags other

def clearFlag (flag : TransmitFlags) (flags : ProcessingFlags) : ProcessingFlags :=
  fun other => if other = flag then false else flags other

@[simp] theorem setFlag_self (flag : TransmitFlags) (flags : ProcessingFlags) :
    flags.setFlag flag flag = true := if_pos rfl

@[simp] theorem clearFlag_self (flag : TransmitFlags) (flags : ProcessingFlags) :
    flags.clearFlag flag flag = false := if_pos rfl

theorem setFlag_of_ne {flag other : TransmitFlags} (h : other ≠ flag) (flags : ProcessingFlags) :
    flags.setFlag flag other = flags other := if_neg h

theorem clearFlag_of_ne {flag other : TransmitFlags} (h : other ≠ flag)
    (flags : ProcessingFlags) : flags.clearFlag flag other = flags other := if_neg h

end ProcessingFlags

/-- The networks of a DM13, with their numbers. -/
inductive NetworkType
  | saeJ1939Network1PrimaryVehicleNetwork
  | saeJ1922Network
  | saeJ1587Network
  | currentDataLink
  | otherManufacturerSpecifiedPort
  | saeJ1850Network
  | iso9141Network
  | saeJ1939Network2
  | saeJ1939Network4
  | proprietaryNetwork2
  | proprietaryNetwork1
  | saeJ1939Network3
  | saeJ1939Network5
  | saeJ1939Network6
  | saeJ1939Network7
  | saeJ1939Network8
  | saeJ1939Network11
  | saeJ1939Network10
  | saeJ1939Network9
  | reserved
  deriving DecidableEq

def NetworkType.number : NetworkType → Nat
  | saeJ1939Network1PrimaryVehicleNetwork => 0
  | saeJ1922Network => 1
  | saeJ1587Network => 2
  | currentDataLink => 3
  | otherManufacturerSpecifiedPort => 4
  | saeJ1850Network => 5
  | iso9141Network => 6
  | saeJ1939Network2 => 7
  | saeJ1939Network4 => 8
  | proprietaryNetwork2 => 9
  | proprietaryNetwork1 => 10
  | saeJ1939Network3 => 11
  | saeJ1939Network5 => 25
  | saeJ1939Network6 => 26
  | saeJ1939Network7 => 27
  | saeJ1939Network8 => 28
  | saeJ1939Network11 => 29
  | saeJ1939Network10 => 30
  | saeJ1939Network9 => 31
  | reserved => 32

structure DM22Data where
  destination : Option CFRef
  suspectParameterNumber : UInt32
  failureModeIdentifier : UInt8
  nackIndicator : UInt8 := 0
  clearActive : Bool := false
  nack : Bool
  deriving DecidableEq

/-- The control function is never null: `initialize` would follow the pointer. -/
structure DiagnosticProtocol where
  myControlFunction : CFRef
  networkType : NetworkType := .proprietaryNetwork1
  pendingRequests : UInt32 → Option CFRef := fun _ => none
  activeDTCList : List DiagnosticTroubleCode := []
  inactiveDTCList : List DiagnosticTroubleCode := []
  dm22ResponseQueue : List DM22Data := []
  ecuIdentificationFields : List (List UInt8) := List.replicate 6 [0x2A]
  softwareIdentificationFields : List (List UInt8) := []
  txFlags : ProcessingFlags := fun _ => false
  productIdentificationCode : List UInt8 := []
  productIdentificationBrand : List UInt8 := []
  productIdentificationModel : List UInt8 := []
  lastDM1SentTimestamp : UInt32 := 0
  lastDM13ReceivedTimestamp : UInt32 := 0
  customDM13SuspensionTime : UInt16 := 0
  broadcastState : Bool := true
  j1939Mode : Bool := false

/-- What one call reads from its surroundings; what the network manager takes depends on how much
was noted before. -/
structure Environment where
  now : UInt32
  accepts : Nat → Bool

def Environment.timeElapsed (env : Environment) (timestamp : UInt32) : UInt32 :=
  env.now - timestamp

def Environment.timeExpired (env : Environment) (timestamp timeout : UInt32) : Bool :=
  env.timeElapsed timestamp ≥ timeout

inductive Event
  /-- A message was handed to the network manager, which gave this answer. -/
  | message (frame : TransmitFrame) (sent : Bool)
  | outOfBounds
  deriving DecidableEq

/-- A protocol in the middle of a call. -/
structure Turn where
  protocol : DiagnosticProtocol
  events : List Event := []

namespace DiagnosticProtocol

def setFlag (flag : TransmitFlags) (protocol : DiagnosticProtocol) : DiagnosticProtocol :=
  { protocol with txFlags := protocol.txFlags.setFlag flag }

def clearFlag (flag : TransmitFlags) (protocol : DiagnosticProtocol) : DiagnosticProtocol :=
  { protocol with txFlags := protocol.txFlags.clearFlag flag }

def clearActiveDiagnosticTroubleCodes (protocol : DiagnosticProtocol) : DiagnosticProtocol :=
  let cleared := { protocol with
    inactiveDTCList := protocol.inactiveDTCList ++ protocol.activeDTCList
    activeDTCList := [] }
  if protocol.broadcastState then cleared.setFlag .dm1 else cleared

def clearInactiveDiagnosticTroubleCodes (protocol : DiagnosticProtocol) : DiagnosticProtocol :=
  { protocol with inactiveDTCList := [] }

def announceNewCode (env : Environment) (protocol : DiagnosticProtocol) : DiagnosticProtocol :=
  if env.timeElapsed protocol.lastDM1SentTimestamp > DM_MAX_FREQUENCY_MS ∧ protocol.broadcastState
  then { protocol.setFlag .dm1 with lastDM1SentTimestamp := env.now }
  else protocol

def activate (env : Environment) (dtc : DiagnosticTroubleCode) (protocol : DiagnosticProtocol) :
    DiagnosticProtocol :=
  if protocol.activeDTCList.any (·.sameCode dtc) then protocol
  else
    match protocol.inactiveDTCList.find? (·.sameCode dtc) with
    | some known =>
      { protocol with
        activeDTCList := protocol.activeDTCList ++
          [{ known with occurrenceCount := known.occurrenceCount + 1 }]
        inactiveDTCList := protocol.inactiveDTCList.eraseP (·.sameCode dtc) }
    | none =>
      let extended := { protocol with
        activeDTCList := protocol.activeDTCList ++ [{ dtc with occurrenceCount := 1 }] }
      extended.announceNewCode env

def deactivate (dtc : DiagnosticTroubleCode) (protocol : DiagnosticProtocol) :
    DiagnosticProtocol :=
  if protocol.inactiveDTCList.any (·.sameCode dtc) then protocol
  else
    match protocol.activeDTCList.find? (·.sameCode dtc) with
    | some known =>
      { protocol with
        inactiveDTCList := protocol.inactiveDTCList ++ [known]
        activeDTCList := protocol.activeDTCList.eraseP (·.sameCode dtc) }
    | none => protocol

def setDiagnosticTroubleCodeActive (env : Environment) (dtc : DiagnosticTroubleCode)
    (active : Bool) (protocol : DiagnosticProtocol) : DiagnosticProtocol :=
  if active then protocol.activate env dtc else protocol.deactivate dtc

/-- An address violation is a trouble code of its own in ISO 11783 mode. -/
def onAddressViolation (env : Environment) (address : UInt8) (protocol : DiagnosticProtocol) :
    DiagnosticProtocol :=
  if !protocol.j1939Mode ∧ address ≠ BROADCAST_CAN_ADDRESS ∧ address ≠ NULL_CAN_ADDRESS then
    protocol.setDiagnosticTroubleCodeActive env
      { suspectParameterNumber := ADDRESS_VIOLATION_SPN_BASE + address.toUInt32
        failureModeIdentifier := CONDITION_EXISTS
        lampState := .none } true
  else protocol

end DiagnosticProtocol

end Isobus.Diagnostics
