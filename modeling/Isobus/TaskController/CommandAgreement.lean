import Isobus.TaskController.ClientTimeout
import Isobus.TaskClient.Messages

namespace Isobus.TaskController

open Isobus.Can Isobus.Lib

section

variable (config : ServerConfiguration) (env : ServerEnvironment)

/-- The first four bytes of every process data message. -/
def processDataHeader (commandValue : UInt8) (dataDescriptionIndex elementNumber : UInt16) :
    List UInt8 :=
  [(commandValue &&& 0x0F) ||| ((elementNumber &&& 0x0F).toUInt8 <<< (4 : UInt8)),
    (elementNumber >>> 4).toUInt8, byteOf dataDescriptionIndex.toUInt32 0,
    byteOf dataDescriptionIndex.toUInt32 1]

def sendRequestValue (client : Option CFRef) (dataDescriptionIndex elementNumber : UInt16) :
    List ServerEvent :=
  sendProcessDataToClient config env client
    (processDataHeader 0x02 dataDescriptionIndex elementNumber ++ List.replicate 4 0xFF) PRIORITY_5

def sendMeasurementCommand (client : Option CFRef) (commandValue : UInt8)
    (dataDescriptionIndex elementNumber : UInt16) (processDataValue : UInt32) :
    List ServerEvent :=
  respond config env client
    (processDataHeader commandValue dataDescriptionIndex elementNumber ++
      [byteOf processDataValue 0, byteOf processDataValue 1, byteOf processDataValue 2,
        byteOf processDataValue 3])
    (if commandValue = 0x0A then PRIORITY_3 else PRIORITY_5)

/-! The following log the address of the client first, which is therefore never null. -/

variable (client : CFRef) (dataDescriptionIndex elementNumber : UInt16)

def sendTimeIntervalMeasurementCommand (timeInterval : UInt32) : List ServerEvent :=
  sendMeasurementCommand config env (some client) 0x04 dataDescriptionIndex elementNumber
    timeInterval

def sendDistanceIntervalMeasurementCommand (distanceInterval : UInt32) : List ServerEvent :=
  sendMeasurementCommand config env (some client) 0x05 dataDescriptionIndex elementNumber
    distanceInterval

def sendMinimumThresholdMeasurementCommand (minimum : UInt32) : List ServerEvent :=
  sendMeasurementCommand config env (some client) 0x06 dataDescriptionIndex elementNumber
    minimum

def sendMaximumThresholdMeasurementCommand (maximum : UInt32) : List ServerEvent :=
  sendMeasurementCommand config env (some client) 0x07 dataDescriptionIndex elementNumber
    maximum

def sendChangeThresholdMeasurementCommand (threshold : UInt32) : List ServerEvent :=
  sendMeasurementCommand config env (some client) 0x08 dataDescriptionIndex elementNumber
    threshold

def sendSetValueAndAcknowledge (processDataValue : UInt32) : List ServerEvent :=
  sendMeasurementCommand config env (some client) 0x0A dataDescriptionIndex elementNumber
    processDataValue

def sendSetValue (processDataValue : UInt32) : List ServerEvent :=
  sendMeasurementCommand config env (some client) 0x03 dataDescriptionIndex elementNumber
    processDataValue

end

theorem elementNumber_header {elementNumber : UInt16} (commandValue : UInt8)
    (h : elementNumber < 4096) :
    (((commandValue &&& 0x0F) |||
        ((elementNumber &&& 0x0F).toUInt8 <<< (4 : UInt8))) >>> 4).toUInt16 |||
      (elementNumber >>> 4).toUInt8.toUInt16 <<< 4 = elementNumber := by
  have hhigh (k : Nat) (hk : 12 ≤ k) (hlt : k < 16) : elementNumber.toBitVec[k] = false :=
    Nat.testBit_lt_two_pow (lt_of_lt_of_le (UInt16.lt_iff_toNat_lt.mp h)
      (Nat.pow_le_pow_right Nat.zero_lt_two hk))
  rw [← UInt16.toBitVec_inj]
  apply BitVec.eq_of_getLsbD_eq
  intro i hi
  simp only [UInt16.toBitVec_or, UInt16.toBitVec_and, UInt16.toBitVec_shiftLeft,
    UInt16.toBitVec_shiftRight, UInt16.toBitVec_toUInt8, UInt8.toBitVec_toUInt16,
    UInt8.toBitVec_or, UInt8.toBitVec_and, UInt8.toBitVec_shiftLeft, UInt8.toBitVec_shiftRight]
  interval_cases i <;> simp
  all_goals
    apply hhigh
    decide

theorem command_header (commandValue : UInt8) (elementNumber : UInt16) :
    ((commandValue &&& 0x0F) ||| ((elementNumber &&& 0x0F).toUInt8 <<< (4 : UInt8))) &&& 0x0F =
      commandValue &&& 0x0F := by
  rw [← UInt8.toBitVec_inj]
  apply BitVec.eq_of_getLsbD_eq
  intro i hi
  simp
  interval_cases i <;> simp

theorem low_byte (dataDescriptionIndex : UInt16) :
    (dataDescriptionIndex &&& 0xFF).toUInt8 = byteOf dataDescriptionIndex.toUInt32 0 := by
  rw [byteOf_eq, ← UInt8.toBitVec_inj]
  apply BitVec.eq_of_getLsbD_eq
  intro i hi
  simp
  interval_cases i <;> simp

theorem high_byte (dataDescriptionIndex : UInt16) :
    (dataDescriptionIndex >>> 8).toUInt8 = byteOf dataDescriptionIndex.toUInt32 1 := by
  rw [byteOf_eq, ← UInt8.toBitVec_inj]
  apply BitVec.eq_of_getLsbD_eq
  intro i hi
  simp
  interval_cases i <;> simp

variable {config : ServerConfiguration} {env : ServerEnvironment} {client : CFRef}
variable {dataDescriptionIndex elementNumber : UInt16} {commandValue b₀ b₁ b₂ b₃ : UInt8}

def Carries (message : CANMessage) (commandValue : UInt8)
    (dataDescriptionIndex elementNumber : UInt16) (b₀ b₁ b₂ b₃ : UInt8) : Prop :=
  message.data =
    processDataHeader commandValue dataDescriptionIndex elementNumber ++ [b₀, b₁, b₂, b₃]

theorem Carries.processDataInfo {message : CANMessage}
    (h : Carries message commandValue dataDescriptionIndex elementNumber b₀ b₁ b₂ b₃)
    (helement : elementNumber < 4096) :
    TaskClient.processDataInfo message =
      { processDataValue := (decode32 b₀ b₁ b₂ b₃).toInt32, elementNumber := elementNumber,
        ddi := dataDescriptionIndex } := by
  have helementNumber := elementNumber_header commandValue helement
  have hindex := decode16_byteOf dataDescriptionIndex
  simp only [Carries, processDataHeader] at h
  simp only [TaskClient.processDataInfo, CANMessage.getUint8At, CANMessage.getUint16At,
    CANMessage.getUint32At, h]
  exact congrArg₂ (TaskClient.ProcessDataCallbackInfo.mk _ 0 · · false false) helementNumber hindex

theorem Carries.command {message : CANMessage}
    (h : Carries message commandValue dataDescriptionIndex elementNumber b₀ b₁ b₂ b₃) :
    message.getUint8At 0 &&& 0x0F = commandValue &&& 0x0F := by
  have hcommand := command_header commandValue elementNumber
  simp only [Carries, processDataHeader] at h
  simp only [CANMessage.getUint8At, h]
  exact hcommand

/-- One message is handed to the network manager, and a client that gets it does this. -/
def IsTakenAs (events : List ServerEvent)
    (effect : TaskClient.Environment → TaskClient.Turn → TaskClient.Turn) : Prop :=
  ∃ frame sent, events = [.message frame sent] ∧ ∀ world timestampUs environment turn,
    TaskClient.Turn.processRxMessage environment (frame.toMessage world timestampUs) turn =
      effect environment turn

theorem getParameterGroupNumber_toMessage {frame : TransmitFrame}
    (h : frame.parameterGroupNumber = PROCESS_DATA) (world : World) (timestampUs : UInt64) :
    (frame.toMessage world timestampUs).identifier.getParameterGroupNumber = PROCESS_DATA := by
  rw [← h]
  apply TransmitFrame.getParameterGroupNumber_toMessage <;> rw [h] <;> decide

theorem processRxMessage_of_processData {message : CANMessage} {source : CFRef}
    {environment : TaskClient.Environment} {turn : TaskClient.Turn}
    (hsource : message.source = some source)
    (hgroup : message.identifier.getParameterGroupNumber = PROCESS_DATA)
    (hlength : message.data.length = CAN_DATA_LENGTH) :
    TaskClient.Turn.processRxMessage environment message turn =
      TaskClient.Turn.processProcessData environment message turn source := by
  simp only [TaskClient.Turn.processRxMessage, hsource]
  rw [if_pos hlength.ge, hgroup, if_neg (by decide), if_pos (by decide)]

theorem isTakenAs_of_processProcessData {data : List UInt8} {priority : UInt32}
    {effect : TaskClient.Environment → TaskClient.Turn → TaskClient.Turn}
    (hlength : data.length = CAN_DATA_LENGTH)
    (heffect : ∀ message : CANMessage, message.data = data → ∀ environment turn,
      TaskClient.Turn.processProcessData environment message turn
        config.serverControlFunction = effect environment turn) :
    IsTakenAs (sendProcessDataToClient config env (some client) data priority) effect := by
  refine ⟨_, _, rfl, fun world timestampUs environment turn => ?_⟩
  rw [processRxMessage_of_processData rfl (getParameterGroupNumber_toMessage rfl world timestampUs)]
  · exact heffect _ rfl environment turn
  · exact hlength

inductive CommandKind
  | requestValue
  | setValue
  | setValueAndAcknowledge
  | timeInterval
  | distanceInterval
  | minimumThreshold
  | maximumThreshold
  | changeThreshold
  deriving DecidableEq

namespace CommandKind

section

variable (config : ServerConfiguration) (env : ServerEnvironment) (client : CFRef)
variable (dataDescriptionIndex elementNumber : UInt16) (processDataValue : UInt32)

def send : CommandKind → List ServerEvent
  | requestValue =>
    sendRequestValue config env (some client) dataDescriptionIndex elementNumber
  | setValue =>
    sendSetValue config env client dataDescriptionIndex elementNumber processDataValue
  | setValueAndAcknowledge =>
    sendSetValueAndAcknowledge config env client dataDescriptionIndex elementNumber
      processDataValue
  | timeInterval =>
    sendTimeIntervalMeasurementCommand config env client dataDescriptionIndex
      elementNumber processDataValue
  | distanceInterval =>
    sendDistanceIntervalMeasurementCommand config env client dataDescriptionIndex
      elementNumber processDataValue
  | minimumThreshold =>
    sendMinimumThresholdMeasurementCommand config env client dataDescriptionIndex
      elementNumber processDataValue
  | maximumThreshold =>
    sendMaximumThresholdMeasurementCommand config env client dataDescriptionIndex
      elementNumber processDataValue
  | changeThreshold =>
    sendChangeThresholdMeasurementCommand config env client dataDescriptionIndex
      elementNumber processDataValue

end

def effect (dataDescriptionIndex elementNumber : UInt16) (processDataValue : UInt32)
    (kind : CommandKind) (environment : TaskClient.Environment) (turn : TaskClient.Turn) :
    TaskClient.Turn :=
  let info : TaskClient.ProcessDataCallbackInfo :=
    { processDataValue := processDataValue.toInt32
      elementNumber := elementNumber
      ddi := dataDescriptionIndex }
  let request : TaskClient.ProcessDataCallbackInfo := { info with processDataValue := -1 }
  match kind with
  | requestValue =>
    let queued := turn.queue fun queues =>
      { queues with queuedValueRequests := queues.queuedValueRequests ++ [request] }
    if dataDescriptionIndex = TaskClient.REQUEST_DEFAULT_PROCESS_DATA ∧ elementNumber = 0 then
      queued.map fun client => { client with shouldProcessAllDefaultProcessDataRequests := true }
    else queued
  | setValue => turn.queue fun queues =>
    { queues with queuedValueCommands := queues.queuedValueCommands ++ [info] }
  | setValueAndAcknowledge => turn.queue fun queues =>
    { queues with
      queuedValueCommands := queues.queuedValueCommands ++ [{ info with ackRequested := true }] }
  | timeInterval =>
    turn.queue (.addMeasurementTimeInterval { info with lastValue := environment.now.toInt32 })
  | distanceInterval => turn.queue (.addMeasurementDistanceInterval info)
  | minimumThreshold => turn.queue (.addMeasurementMinimumThreshold info)
  | maximumThreshold => turn.queue (.addMeasurementMaximumThreshold info)
  | changeThreshold => turn.queue (.addMeasurementChangeThreshold info)

end CommandKind

theorem send_isTakenAs (processDataValue : UInt32) (helement : elementNumber < 4096)
    (kind : CommandKind) :
    IsTakenAs
      (kind.send config env client dataDescriptionIndex elementNumber processDataValue)
      (kind.effect dataDescriptionIndex elementNumber processDataValue) := by
  -- The seven commands with a value are packed alike, and the request has four bytes of ones.
  cases kind
  case requestValue =>
    apply isTakenAs_of_processProcessData rfl
    intro message hdata environment turn
    have hcommand := Carries.command hdata
    have hinfo := Carries.processDataInfo hdata helement
    simp only [TaskClient.Turn.processProcessData, TaskClient.ProcessDataCommands.ofByte, hcommand]
    simp only [TaskClient.Turn.processRequestValue, hinfo]
    rfl
  all_goals
    apply isTakenAs_of_processProcessData rfl
    intro message hdata environment turn
    have hcommand := Carries.command hdata
    have hinfo := Carries.processDataInfo hdata helement
    rw [decode32_byteOf] at hinfo
    simp only [TaskClient.Turn.processProcessData, TaskClient.ProcessDataCommands.ofByte, hcommand]
    simp only [TaskClient.Turn.processValue, hinfo]
    rfl

theorem Carries.elementNumberAt {message : CANMessage}
    (h : Carries message commandValue dataDescriptionIndex elementNumber b₀ b₁ b₂ b₃)
    (helement : elementNumber < 4096) :
    TaskController.elementNumberAt message = some elementNumber := by
  have helementNumber := elementNumber_header commandValue helement
  simp only [Carries, processDataHeader] at h
  simp only [TaskController.elementNumberAt, h]
  rw [UInt8.toUInt16_shiftRight] at helementNumber
  exact congrArg some helementNumber

theorem Carries.uint16At {message : CANMessage}
    (h : Carries message commandValue dataDescriptionIndex elementNumber b₀ b₁ b₂ b₃) :
    TaskController.uint16At message 2 = some dataDescriptionIndex := by
  simp only [Carries, processDataHeader] at h
  simp only [TaskController.uint16At, h]
  exact congrArg some (decode16_byteOf dataDescriptionIndex)

theorem Carries.uint32At {message : CANMessage}
    (h : Carries message commandValue dataDescriptionIndex elementNumber b₀ b₁ b₂ b₃) :
    TaskController.uint32At message 4 = some (decode32 b₀ b₁ b₂ b₃) := by
  simp only [Carries, processDataHeader] at h
  simp only [TaskController.uint32At, h]
  rfl

def ComesFromActive (env : ServerEnvironment) (server : TaskControllerServer)
    (message : CANMessage) (source : CFRef) : Prop :=
  message.source = some source ∧ ∃ activeClient,
    server.getActiveClient env.world (some source) = some activeClient ∧ activeClient.isDDOPActive

/-- The application hears of a value, and what it does not take is refused. -/
def valueAnswer (config : ServerConfiguration) (env : ServerEnvironment)
    (application : Application) (source : CFRef) (dataDescriptionIndex elementNumber : UInt16)
    (value : UInt32) : List ServerEvent :=
  let answer := application.onValueCommand source dataDescriptionIndex elementNumber value
  if answer.1 then []
  else sendProcessDataAcknowledge config env (some source) dataDescriptionIndex elementNumber
    answer.2 0x03

variable {server : TaskControllerServer} {application : Application} {message : CANMessage}
variable {source : CFRef}

theorem processRxMessage_value (helement : elementNumber < 4096)
    (hgroup : message.identifier.getParameterGroupNumber = PROCESS_DATA)
    (hactive : ComesFromActive env server message source)
    (hcarries : Carries message 0x03 dataDescriptionIndex elementNumber b₀ b₁ b₂ b₃) :
    server.processRxMessage config env application message =
      some (server, valueAnswer config env application source dataDescriptionIndex
        elementNumber (decode32 b₀ b₁ b₂ b₃)) := by
  obtain ⟨hsource, activeClient, hclient, hddop⟩ := hactive
  have hfirst : message.data[0]? = some ((0x03 &&& 0x0F) |||
      ((elementNumber &&& 0x0F).toUInt8 <<< (4 : UInt8))) := by rw [hcarries]; rfl
  have hcommand := command_header 0x03 elementNumber
  have hkind : ProcessDataCommands.ofByte ((0x03 &&& 0x0F) |||
      ((elementNumber &&& 0x0F).toUInt8 <<< (4 : UInt8))) = .value := by
    rw [ProcessDataCommands.ofByte, hcommand]
    rfl
  simp only [TaskControllerServer.processRxMessage, if_pos hgroup, TaskControllerServer.processData,
    hfirst, Option.bind_eq_bind, Option.bind_some, hkind, TaskControllerServer.valueCommand,
    hsource, hclient, if_pos hddop, hcarries.uint16At, hcarries.elementNumberAt helement,
        hcarries.uint32At]
  cases hanswer : application.onValueCommand source dataDescriptionIndex elementNumber
      (decode32 b₀ b₁ b₂ b₃) with
  | mk taken errorCodes =>
    cases taken with
    | true => simp [valueAnswer, hanswer]
    | false =>
      simp only [valueAnswer, hanswer, sendProcessDataAcknowledge, hcommand]
      rfl

/-- The server tells its application of an acknowledgement with these bytes. -/
def IsHeardAs (config : ServerConfiguration) (env : ServerEnvironment)
    (events : List ServerEvent) (dataDescriptionIndex elementNumber : UInt16)
    (errorCodes : UInt8) (command : ProcessDataCommands) : Prop :=
  ∃ frame sent, events = [.message frame sent] ∧
    ∀ server application message source,
      message.identifier.getParameterGroupNumber = frame.parameterGroupNumber →
      message.data = frame.data → ComesFromActive env server message source →
      server.processRxMessage config env application message =
        some (server, [.processDataAcknowledge source dataDescriptionIndex elementNumber errorCodes
          command])

theorem processRxMessage_acknowledge (helement : elementNumber < 4096)
    (hgroup : message.identifier.getParameterGroupNumber = PROCESS_DATA)
    (hactive : ComesFromActive env server message source)
    (hcarries : Carries message 0x0D dataDescriptionIndex elementNumber b₀ b₁ b₂ b₃) :
    server.processRxMessage config env application message =
      some (server, [.processDataAcknowledge source dataDescriptionIndex elementNumber b₀
        .acknowledge]) := by
  obtain ⟨hsource, activeClient, hclient, hddop⟩ := hactive
  have hfirst : message.data[0]? = some ((0x0D &&& 0x0F) |||
      ((elementNumber &&& 0x0F).toUInt8 <<< (4 : UInt8))) := by rw [hcarries]; rfl
  have herror : message.data[4]? = some b₀ := by rw [hcarries]; rfl
  have hkind : ProcessDataCommands.ofByte ((0x0D &&& 0x0F) |||
      ((elementNumber &&& 0x0F).toUInt8 <<< (4 : UInt8))) = .acknowledge := by
    rw [ProcessDataCommands.ofByte, command_header 0x0D elementNumber]
    rfl
  simp only [TaskControllerServer.processRxMessage, if_pos hgroup, TaskControllerServer.processData,
    hfirst, Option.bind_eq_bind, Option.bind_some, hkind,
    TaskControllerServer.processDataAcknowledge, hsource, hclient, if_pos hddop, hcarries.uint16At,
    hcarries.elementNumberAt helement, herror]
  rfl

theorem exists_comesFromActive (env : ServerEnvironment) (source : CFRef) (data : List UInt8) :
    ∃ server message, ComesFromActive env server message source ∧
      message.identifier.getParameterGroupNumber = PROCESS_DATA ∧ message.data = data := by
  let activeClient : ActiveClient :=
    { clientControlFunction := some source, lastStatusMessageTimestamp := 0, isDDOPActive := true }
  let frame : TransmitFrame :=
    { parameterGroupNumber := PROCESS_DATA, data := data, source := some source,
      destination := none, priority := PRIORITY_5 }
  refine ⟨{ activeClients := [activeClient] }, frame.toMessage env.world 0,
    ⟨rfl, activeClient, ?_, rfl⟩, getParameterGroupNumber_toMessage rfl _ _, rfl⟩
  simp [TaskControllerServer.getActiveClient, isClient, activeClient]

theorem isHeardAs_iff (helement : elementNumber < 4096) (errorBitfield commandByte : UInt8)
    (command : ProcessDataCommands) (application : Application) :
    IsHeardAs config env
        (sendProcessDataAcknowledge config env (some client) dataDescriptionIndex
          elementNumber errorBitfield commandByte)
        dataDescriptionIndex elementNumber errorBitfield command ↔
      command = .acknowledge := by
  constructor
  · rintro ⟨frame, sent, hevents, hheard⟩
    obtain ⟨server, message, hactive, hgroup, hdata⟩ :=
      exists_comesFromActive env client frame.data
    simp only [sendProcessDataAcknowledge, respond, sendProcessDataToClient, List.cons.injEq,
      ServerEvent.message.injEq, and_true] at hevents
    have hcarries : Carries message 0x0D dataDescriptionIndex elementNumber errorBitfield
        (0xF0 ||| (commandByte &&& 0x0F)) 0xFF 0xFF := by
      rw [Carries, hdata, ← hevents.1]
      rfl
    have hhere := hheard server application message client (by rw [hgroup, ← hevents.1]) hdata
      hactive
    rw [processRxMessage_acknowledge helement hgroup hactive hcarries] at hhere
    simpa using hhere.symm
  · rintro rfl
    refine ⟨_, _, rfl, fun server application message source hgroup hdata hactive => ?_⟩
    exact processRxMessage_acknowledge helement hgroup hactive hdata

/-- Each side understands the commands of the other one, and the server its acknowledgements. -/
structure CommandsAgree (config : ServerConfiguration) (env : ServerEnvironment)
    (client : CFRef) (dataDescriptionIndex elementNumber : UInt16) (processDataValue : UInt32)
    (errorBitfield commandByte : UInt8) : Prop where
  commands : ∀ kind : CommandKind, IsTakenAs
    (kind.send config env client dataDescriptionIndex elementNumber processDataValue)
    (kind.effect dataDescriptionIndex elementNumber processDataValue)
  values : ∀ (sender : TaskClient.TaskControllerClient) world timestampUs server application,
    ComesFromActive env server
      ((sender.valueCommand elementNumber dataDescriptionIndex processDataValue.toInt32).toMessage
        world timestampUs) sender.myControlFunction →
    TaskControllerServer.processRxMessage config env application
        ((sender.valueCommand elementNumber dataDescriptionIndex processDataValue.toInt32).toMessage
          world timestampUs) server =
      some (server, valueAnswer config env application sender.myControlFunction
        dataDescriptionIndex elementNumber processDataValue)
  acknowledgements : IsHeardAs config env
    (sendProcessDataAcknowledge config env (some client) dataDescriptionIndex elementNumber
      errorBitfield commandByte)
    dataDescriptionIndex elementNumber errorBitfield (ProcessDataCommands.ofByte commandByte)

theorem carries_valueCommand (sender : TaskClient.TaskControllerClient) (value : Int32)
    (world : World) (timestampUs : UInt64) :
    Carries ((sender.valueCommand elementNumber dataDescriptionIndex value).toMessage world
      timestampUs) 0x03 dataDescriptionIndex elementNumber (byteOf value.toUInt32 0)
      (byteOf value.toUInt32 1) (byteOf value.toUInt32 2) (byteOf value.toUInt32 3) := by
  simp only [Carries, TransmitFrame.toMessage, TaskClient.TaskControllerClient.valueCommand,
    TaskClient.TaskControllerClient.processDataFrame, low_byte, high_byte]
  rfl

/-- Everything is understood, up to the command that an acknowledgement is about: the server always
hears that of the acknowledgement itself. -/
theorem commandsAgree_iff (processDataValue : UInt32) (errorBitfield commandByte : UInt8)
    (helement : elementNumber < 4096) :
    CommandsAgree config env client dataDescriptionIndex elementNumber processDataValue
        errorBitfield commandByte ↔
      ProcessDataCommands.ofByte commandByte = .acknowledge := by
  constructor
  · intro h
    exact (isHeardAs_iff helement errorBitfield commandByte _ (env.application 0)).mp
      h.acknowledgements
  · intro hcommand
    refine ⟨send_isTakenAs processDataValue helement, ?_, ?_⟩
    · intro sender world timestampUs server application hactive
      rw [processRxMessage_value helement (getParameterGroupNumber_toMessage rfl _ _) hactive
        (carries_valueCommand sender _ world timestampUs), decode32_byteOf,
        UInt32.toUInt32_toInt32]
    · exact (isHeardAs_iff helement errorBitfield commandByte _ (env.application 0)).mpr hcommand

theorem commandsAgree_onAcknowledge :
    (4095 : UInt16) < 4096 ∧ CommandsAgree plainServer ((momentAt 0 .update).env 0) 1 0x0086 4095
      0x80000000 0 0x0D :=
  ⟨by decide, (commandsAgree_iff 0x80000000 0 0x0D (by decide)).mpr (by decide)⟩

/-- The acknowledgement of a value that was to be set and acknowledged. -/
theorem acknowledgedValue_not_agrees :
    ¬CommandsAgree plainServer ((momentAt 0 .update).env 0) 1 0x0086 1 5 0 0x0A := by
  intro h
  have hcommand := (isHeardAs_iff (by decide) 0 0x0A _ quietApplication).mp h.acknowledgements
  revert hcommand
  decide

end Isobus.TaskController
