import Isobus.Diagnostics.Protocol

namespace Isobus.Diagnostics

open Isobus.Can Isobus.Lib

namespace Turn

variable (env : Environment) (turn : Turn)

def emit (event : Event) : Turn := { turn with events := turn.events ++ [event] }

def map (f : DiagnosticProtocol → DiagnosticProtocol) : Turn :=
  { turn with protocol := f turn.protocol }

def sent : Bool := env.accepts turn.events.length

def offer (frame : TransmitFrame) : Turn := turn.emit (.message frame (turn.sent env))

end Turn

def DiagnosticProtocol.frame (protocol : DiagnosticProtocol) (parameterGroupNumber : UInt32)
    (data : List UInt8) (destination : Option CFRef) : TransmitFrame where
  parameterGroupNumber := parameterGroupNumber
  data := data
  source := some protocol.myControlFunction
  destination := destination
  priority := PriorityDefault6

structure Buffer where
  bytes : List UInt8
  inside : Bool := true
  deriving DecidableEq

namespace Buffer

def ofSize (size : Nat) : Buffer := { bytes := List.replicate size 0 }

def write (index : Nat) (value : UInt8) (buffer : Buffer) : Buffer where
  bytes := buffer.bytes.set index value
  inside := buffer.inside && decide (index < buffer.bytes.length)

def writeAll : Nat → List UInt8 → Buffer → Buffer
  | _, [], buffer => buffer
  | start, value :: values, buffer => writeAll (start + 1) values (buffer.write start value)

end Buffer

/-- `get_active_list_lamp_state_and_flash_state` and its twin for the inactive list. -/
def lampStateAndFlashState (targetLamp : Lamps) (dtcs : List DiagnosticTroubleCode) :
    FlashState × Bool :=
  dtcs.foldl (fun state dtc =>
    match dtc.lampState.command with
    | some (lamp, flash) =>
      if lamp = targetLamp then
        (match flash with
          | .solid => state.1
          | .slow => if state.1 ≠ .fast then .slow else state.1
          | .fast => .fast, true)
      else state
    | none => state) (.solid, false)

def convertFlashStateToByte : FlashState → UInt8
  | .slow => 0x00
  | .fast => 0x01
  | .solid => 0x03

def lampBytes (dtcs : List DiagnosticTroubleCode) : List UInt8 :=
  let lamp (targetLamp : Lamps) := lampStateAndFlashState targetLamp dtcs
  let on (targetLamp : Lamps) : UInt8 := if (lamp targetLamp).2 then 1 else 0
  let flash (targetLamp : Lamps) := convertFlashStateToByte (lamp targetLamp).1
  [on .protectLamp ||| on .amberWarningLamp <<< 2 ||| on .redStopLamp <<< 4 |||
      on .malfunctionIndicatorLamp <<< 6,
    flash .protectLamp ||| flash .amberWarningLamp <<< 2 ||| flash .redStopLamp <<< 4 |||
      flash .malfunctionIndicatorLamp <<< 6]

def writeCodes : Nat → List DiagnosticTroubleCode → Buffer → Buffer
  | _, [], buffer => buffer
  | i, dtc :: dtcs, buffer =>
    writeCodes (i + 1) dtcs (buffer.writeAll (2 + DM_PAYLOAD_BYTES_PER_DTC * i) dtc.bytes)

def codesBuffer (j1939Mode : Bool) (payloadSize : UInt16) (dtcs : List DiagnosticTroubleCode) :
    Buffer :=
  let lamps := if j1939Mode then lampBytes dtcs else [0xFF, 0xFF]
  let buffer := (Buffer.ofSize (max CAN_DATA_LENGTH payloadSize.toNat)).writeAll 0 lamps
  if dtcs = [] then buffer.writeAll 2 [0x00, 0x00, 0x00, 0x00, 0xFF, 0xFF]
  else
    let coded := writeCodes 0 dtcs buffer
    if payloadSize.toNat < CAN_DATA_LENGTH then coded.writeAll 6 [0xFF, 0xFF] else coded

namespace Turn

variable (env : Environment) (turn : Turn)

/-- A list of codes, unless its payload is believed to be too long. -/
def sendTroubleCodes (parameterGroupNumber : UInt32) (payloadSize : UInt16)
    (dtcs : List DiagnosticTroubleCode) : Turn × Bool :=
  if payloadSize ≤ MAX_PAYLOAD_SIZE_BYTES then
    let buffer := codesBuffer turn.protocol.j1939Mode payloadSize dtcs
    let written := if buffer.inside then turn else turn.emit .outOfBounds
    let frame := turn.protocol.frame parameterGroupNumber
      (buffer.bytes.take (max CAN_DATA_LENGTH payloadSize.toNat)) none
    (written.offer env frame, written.sent env)
  else (turn, false)

def sendDiagnosticMessage1 : Turn × Bool :=
  turn.sendTroubleCodes env DIAGNOSTIC_MESSAGE_1
    (UInt16.ofNat (turn.protocol.activeDTCList.length * DM_PAYLOAD_BYTES_PER_DTC) + 2)
    turn.protocol.activeDTCList

def sendDiagnosticMessage2 : Turn × Bool :=
  turn.sendTroubleCodes env DIAGNOSTIC_MESSAGE_2
    ((UInt8.ofNat (turn.protocol.inactiveDTCList.length * DM_PAYLOAD_BYTES_PER_DTC)).toUInt16 + 2)
    turn.protocol.inactiveDTCList

def sendDiagnosticProtocolIdentification : Turn × Bool :=
  (turn.offer env (turn.protocol.frame DIAGNOSTIC_PROTOCOL_IDENTIFICATION
    (0x01 :: List.replicate 7 0xFF) none), turn.sent env)

end Turn

/-- The field separator. -/
def ASTERISK : UInt8 := 0x2A

namespace DiagnosticProtocol

variable (protocol : DiagnosticProtocol)

def ecuIdentification : List UInt8 :=
  (protocol.ecuIdentificationFields.take (if protocol.j1939Mode then 5 else 6)).flatten

def productIdentification : List UInt8 :=
  protocol.productIdentificationCode ++ [ASTERISK] ++ protocol.productIdentificationBrand ++
    [ASTERISK] ++ protocol.productIdentificationModel ++ [ASTERISK]

def softwareIdentification : List UInt8 :=
  protocol.softwareIdentificationFields.flatMap (· ++ [ASTERISK])

/-- Who asked for the group number, as far as the message is too long for one frame. -/
def requester (parameterGroupNumber : UInt32) (data : List UInt8) : Option CFRef :=
  if data.length > CAN_DATA_LENGTH then protocol.pendingRequests parameterGroupNumber else none

def eraseRequest (parameterGroupNumber : UInt32) : DiagnosticProtocol :=
  { protocol with
    pendingRequests := fun other =>
      if other = parameterGroupNumber then none else protocol.pendingRequests other }

def insertRequest (parameterGroupNumber : UInt32) (requestingControlFunction : CFRef) :
    DiagnosticProtocol :=
  { protocol with
    pendingRequests := fun other =>
      if other = parameterGroupNumber ∧ protocol.pendingRequests other = none then
        some requestingControlFunction
      else protocol.pendingRequests other }

end DiagnosticProtocol

namespace Turn

variable (env : Environment) (turn : Turn)

def sendIdentification (parameterGroupNumber : UInt32) (data : List UInt8) : Turn × Bool :=
  let offered := turn.offer env (turn.protocol.frame parameterGroupNumber data
    (turn.protocol.requester parameterGroupNumber data))
  (offered.map (·.eraseRequest parameterGroupNumber), turn.sent env)

def sendEcuIdentification : Turn × Bool :=
  turn.sendIdentification env ECU_IDENTIFICATION_INFORMATION turn.protocol.ecuIdentification

def sendProductIdentification : Turn × Bool :=
  turn.sendIdentification env PRODUCT_IDENTIFICATION turn.protocol.productIdentification

def sendSoftwareIdentification : Turn × Bool :=
  if turn.protocol.softwareIdentificationFields ≠ [] then
    turn.sendIdentification env SOFTWARE_IDENTIFICATION turn.protocol.softwareIdentification
  else (turn, false)

end Turn

namespace DM22Data

def controlByte (response : DM22Data) : UInt8 :=
  if response.nack then if response.clearActive then 0x13 else 0x03
  else if response.clearActive then 0x12 else 0x02

def bytes (response : DM22Data) : List UInt8 :=
  [response.controlByte, if response.nack then response.nackIndicator else 0xFF, 0xFF, 0xFF, 0xFF,
    (response.suspectParameterNumber &&& 0xFF).toUInt8,
    ((response.suspectParameterNumber >>> 8) &&& 0xFF).toUInt8,
    (((response.suspectParameterNumber >>> 16) <<< 5) &&& 0xE0).toUInt8 |||
      (response.failureModeIdentifier &&& 0x1F)]

end DM22Data

def DiagnosticProtocol.dm22Frame (protocol : DiagnosticProtocol) (response : DM22Data) :
    TransmitFrame :=
  protocol.frame DIAGNOSTIC_MESSAGE_22 response.bytes response.destination

namespace Turn

variable (env : Environment) (turn : Turn)

/-- So many attempts, each with the last response of the queue, which stays there if it is not
taken. Only the last answer is remembered. -/
def sendDm22Responses (retVal : Bool) (turn : Turn) : Nat → Turn × Bool
  | 0 => (turn, retVal)
  | attempts + 1 =>
    match turn.protocol.dm22ResponseQueue.getLast? with
    | none => (turn, retVal)
    | some response =>
      let offered := turn.offer env (turn.protocol.dm22Frame response)
      if turn.sent env then
        sendDm22Responses true (offered.map fun protocol =>
          { protocol with dm22ResponseQueue := protocol.dm22ResponseQueue.dropLast }) attempts
      else sendDm22Responses false offered attempts

def processAllDm22Responses : Turn × Bool :=
  turn.sendDm22Responses env false turn.protocol.dm22ResponseQueue.length

def transmit : TransmitFlags → Turn × Bool
  | .dm1 =>
    let result := turn.sendDiagnosticMessage1 env
    (if result.2 then
      result.1.map fun protocol => { protocol with lastDM1SentTimestamp := env.now }
    else result.1, result.2)
  | .dm2 => turn.sendDiagnosticMessage2 env
  | .diagnosticProtocolID => turn.sendDiagnosticProtocolIdentification env
  | .productIdentification => turn.sendProductIdentification env
  | .dm22 => turn.processAllDm22Responses env
  | .ecuIdentification => turn.sendEcuIdentification env
  | .softwareIdentification => turn.sendSoftwareIdentification env

def processFlags (flag : TransmitFlags) : Turn :=
  let result := turn.transmit env flag
  if result.2 then result.1 else result.1.map (·.setFlag flag)

def processFlag (flag : TransmitFlags) : Turn :=
  if turn.protocol.txFlags flag then (turn.map (·.clearFlag flag)).processFlags env flag else turn

def processAllFlags : Turn := TransmitFlags.all.foldl (processFlag env) turn

end Turn

def DiagnosticProtocol.SendsOnly (protocol protocol' : DiagnosticProtocol) : Prop :=
  ∃ pendingRequests dm22ResponseQueue txFlags lastDM1SentTimestamp, protocol' =
    { protocol with
      pendingRequests := pendingRequests
      dm22ResponseQueue := dm22ResponseQueue
      txFlags := txFlags
      lastDM1SentTimestamp := lastDM1SentTimestamp }

namespace DiagnosticProtocol.SendsOnly

theorem refl (protocol : DiagnosticProtocol) : protocol.SendsOnly protocol := ⟨_, _, _, _, rfl⟩

theorem trans {protocol protocol' protocol'' : DiagnosticProtocol}
    (h : protocol.SendsOnly protocol') (h' : protocol'.SendsOnly protocol'') :
    protocol.SendsOnly protocol'' := by
  obtain ⟨_, _, _, _, rfl⟩ := h
  obtain ⟨_, _, _, _, rfl⟩ := h'
  exact ⟨_, _, _, _, rfl⟩

end DiagnosticProtocol.SendsOnly

namespace Turn

variable (env : Environment) (turn : Turn)

theorem sendTroubleCodes_protocol (parameterGroupNumber : UInt32) (payloadSize : UInt16)
    (dtcs : List DiagnosticTroubleCode) :
    (turn.sendTroubleCodes env parameterGroupNumber payloadSize dtcs).1.protocol =
      turn.protocol := by
  rw [sendTroubleCodes]
  dsimp only
  split_ifs <;> rfl

theorem sendDm22Responses_sendsOnly (retVal : Bool) (attempts : Nat) :
    turn.protocol.SendsOnly (turn.sendDm22Responses env retVal attempts).1.protocol := by
  induction attempts generalizing retVal turn with
  | zero => exact .refl _
  | succ attempts ih =>
    rw [sendDm22Responses]
    cases turn.protocol.dm22ResponseQueue.getLast? with
    | none => exact .refl _
    | some response =>
      split_ifs
      · exact .trans ⟨_, _, _, _, rfl⟩ (ih _ _)
      · exact .trans (.refl _) (ih _ _)

theorem transmit_sendsOnly (flag : TransmitFlags) :
    turn.protocol.SendsOnly (turn.transmit env flag).1.protocol := by
  cases flag with
  | dm1 =>
    rw [transmit]
    have hsend : (turn.sendDiagnosticMessage1 env).1.protocol = turn.protocol :=
      turn.sendTroubleCodes_protocol env _ _ _
    split_ifs
    · rw [map, hsend]
      exact ⟨_, _, _, _, rfl⟩
    · rw [hsend]
      exact .refl _
  | dm2 =>
    have hsend : (turn.sendDiagnosticMessage2 env).1.protocol = turn.protocol :=
      turn.sendTroubleCodes_protocol env _ _ _
    rw [transmit, hsend]
    exact .refl _
  | diagnosticProtocolID => exact .refl _
  | productIdentification => exact ⟨_, _, _, _, rfl⟩
  | dm22 => exact turn.sendDm22Responses_sendsOnly env _ _
  | ecuIdentification => exact ⟨_, _, _, _, rfl⟩
  | softwareIdentification =>
    rw [transmit, sendSoftwareIdentification]
    split_ifs
    · exact ⟨_, _, _, _, rfl⟩
    · exact .refl _

theorem processFlag_sendsOnly (flag : TransmitFlags) :
    turn.protocol.SendsOnly (turn.processFlag env flag).protocol := by
  rw [processFlag]
  split_ifs with hset
  · have hsend := (turn.map (·.clearFlag flag)).transmit_sendsOnly env flag
    have hclear : turn.protocol.SendsOnly (turn.map (·.clearFlag flag)).protocol :=
      ⟨_, _, _, _, rfl⟩
    rw [processFlags]
    split_ifs
    · exact hclear.trans hsend
    · exact (hclear.trans hsend).trans ⟨_, _, _, _, rfl⟩
  · exact .refl _

theorem foldl_processFlag_sendsOnly (flags : List TransmitFlags) :
    turn.protocol.SendsOnly (flags.foldl (processFlag env) turn).protocol := by
  induction flags generalizing turn with
  | nil => exact .refl _
  | cons flag flags ih => exact (turn.processFlag_sendsOnly env flag).trans (ih _)

theorem processAllFlags_sendsOnly : turn.protocol.SendsOnly (turn.processAllFlags env).protocol :=
  turn.foldl_processFlag_sendsOnly env TransmitFlags.all

end Turn

end Isobus.Diagnostics
