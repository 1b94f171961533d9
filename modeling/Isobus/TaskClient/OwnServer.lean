import Isobus.TaskClient.Update

namespace Isobus.TaskClient

open Isobus.Can Isobus.Lib Isobus.DeviceDescriptor Isobus.NetworkManager

namespace TaskControllerClient

variable (env : Environment) (client : TaskControllerClient) (message : CANMessage)

/-- Nothing is to be told about the version. -/
def IgnoresTechnicalCapabilities : Prop :=
  if subcommand message = 0 then client.currentState ≠ .waitForRequestVersionFromServer
  else if subcommand message = 1 then
    client.currentState ≠ .waitForRequestVersionResponse ∧
      message.getUint8At 1 = client.server.serverVersion ∧
      message.getUint8At 2 = client.server.maxServerBootTime ∧
      message.getUint8At 3 = client.server.serverOptionsByte1 ∧
      message.getUint8At 4 = client.server.serverOptionsByte2 ∧
      message.getUint8At 5 = client.server.serverNumberOfBoomsForSectionControl ∧
      message.getUint8At 6 = client.server.serverNumberOfSectionsForSectionControl ∧
      message.getUint8At 7 = client.server.serverNumberOfChannelsForPositionBasedControl
  else True

/-- The response is not the one that is waited for. -/
def IgnoresDeviceDescriptor : Prop :=
  match (subcommand message).toNat with
  | 1 => client.currentState ≠ .waitForStructureLabelResponse
  | 3 => client.currentState ≠ .waitForLocalizationLabelResponse
  | 5 => client.currentState = .waitForRequestTransferObjectPoolResponse →
      message.getUint8At 1 ≠ 0 ∧ client.initialized = false
  | 7 => client.currentState = .waitForObjectPoolTransferResponse →
      message.getUint8At 1 ≠ 0 ∧ client.initialized = false
  | 9 => client.currentState ≠ .waitForObjectPoolActivateResponse ∧
      ¬(client.currentState = .waitForObjectPoolDeactivateResponse ∧ message.getUint8At 1 = 0 ∧
        client.shouldReuploadAfterDDOPDeletion)
  | 11 => client.currentState ≠ .waitForDeleteObjectPoolResponse
  | _ => True

/-- The status is another server's, or is known already and was so at the same time. -/
def IgnoresStatusMessage (source : CFRef) : Prop :=
  env.nm.name client.partnerControlFunction = env.nm.name source →
    client.currentState ≠ .waitForServerStatusMessage ∧
      message.getUint8At 4 = client.server.tcStatusBitfield ∧
      message.getUint8At 5 = client.server.sourceAddressOfCommandBeingExecuted ∧
      message.getUint8At 6 = client.server.commandBeingExecuted ∧
      env.now = client.serverStatusMessageTimestamp

/-- The first trigger for the value has the interval, or the threshold, already. -/
def KnowsInterval (commands : List ProcessDataCallbackInfo) : Prop :=
  ∃ previous, commands.find? (·.sameValue (processDataInfo message)) = some previous ∧
    previous.processDataValue = (processDataInfo message).processDataValue

def KnowsThreshold (commands : List ProcessDataCallbackInfo) : Prop :=
  ∃ previous, commands.find? (·.sameValue (processDataInfo message)) = some previous ∧
    previous.processDataValue = (processDataInfo message).processDataValue ∧
    previous.thresholdPassed = false

def IgnoresProcessData (source : CFRef) : Prop :=
  match ProcessDataCommands.ofByte (message.getUint8At 0) with
  | .technicalCapabilities => client.IgnoresTechnicalCapabilities message
  | .deviceDescriptor => client.IgnoresDeviceDescriptor message
  | .statusMessage => client.IgnoresStatusMessage env message source
  | .requestValue | .value | .setValueAndAcknowledge => False
  | .measurementTimeInterval => KnowsInterval message client.queues.measurementTimeIntervalCommands
  | .measurementMaximumWithinThreshold =>
    KnowsThreshold message client.queues.measurementMaximumThresholdCommands
  | .measurementMinimumWithinThreshold =>
    KnowsThreshold message client.queues.measurementMinimumThresholdCommands
  | .measurementChangeThreshold =>
    KnowsThreshold message client.queues.measurementOnChangeThresholdCommands
  | .measurementDistanceInterval =>
    KnowsInterval message client.queues.measurementDistanceIntervalCommands
  | _ => True

/-- The message is too short or comes from nobody, or its command does nothing. -/
def Ignores : Prop :=
  ∀ source, message.source = some source → CAN_DATA_LENGTH ≤ message.data.length →
    client.IgnoresProcessData env message source

/-- The network manager calls the client's handler with the message. -/
def Hears : Prop :=
  ∃ entry ∈ env.nm.globalAndPartnerCallbacks message,
    entry.parent = client.this ∧ entry.callback = some PROCESS_RX_MESSAGE

theorem eq_of_server_iff {server : ServerData} :
    { client with server := server } = client ↔ server = client.server := by
  cases client with
  | mk => simp

end TaskControllerClient

namespace Turn

variable {env : Environment} {message : CANMessage} {turn : Turn}

theorem map_eq_self_iff {f : TaskControllerClient → TaskControllerClient} :
    turn.map f = turn ↔ f turn.client = turn.client := by
  cases turn with
  | mk client events => simp [map]

variable {newState : StateMachineState}

theorem setState_ne (h : turn.client.currentState ≠ newState) :
    turn.setState env newState ≠ turn := by
  intro heq
  have hstate := congrArg (·.client.currentState) heq
  simp only [setState, map, TaskControllerClient.setState, if_neg (Ne.symm h)] at hstate
  exact h hstate.symm

variable {expected : StateMachineState}

theorem advance_eq_self_iff (h : expected ≠ newState) :
    turn.advance env expected newState = turn ↔ turn.client.currentState ≠ expected := by
  unfold advance
  split_ifs with hstate
  · exact iff_of_false (setState_ne (hstate ▸ h)) (not_not.mpr hstate)
  · exact iff_of_true rfl hstate

theorem terminate_eq_self_iff : turn.terminate = turn ↔ turn.client.initialized = false := by
  unfold terminate
  split_ifs with h
  · refine iff_of_false (fun heq => ?_) (by simp [h])
    have hevents := congrArg (·.events.length) heq
    simp [map, emit] at hevents
  · exact iff_of_true rfl (Bool.eq_false_iff.mpr h)

theorem proceed_eq_self_iff (h : expected ≠ newState) :
    turn.proceed env message expected newState = turn ↔
      (turn.client.currentState = expected →
        message.getUint8At 1 ≠ 0 ∧ turn.client.initialized = false) := by
  unfold proceed
  split_ifs with hstate hzero
  · exact iff_of_false (setState_ne (hstate ▸ h)) fun himp => (himp hstate).1 hzero
  · rw [terminate_eq_self_iff]
    exact ⟨fun hterminate _ => ⟨hzero, hterminate⟩, fun himp => (himp hstate).2⟩
  · exact iff_of_true rfl fun heq => absurd heq hstate

theorem advance_map_eq_self_iff {f : TaskControllerClient → TaskControllerClient}
    (h : expected ≠ newState) (hf : (f turn.client).currentState = turn.client.currentState) :
    (turn.map f).advance env expected newState = turn ↔
      turn.client.currentState ≠ expected ∧ f turn.client = turn.client := by
  unfold advance
  by_cases hstate : turn.client.currentState = expected
  · rw [if_pos (show (turn.map f).client.currentState = expected from hf.trans hstate)]
    refine iff_of_false (fun heq => ?_) fun hsame => hsame.1 hstate
    have hnew := congrArg (·.client.currentState) heq
    simp only [setState, map, TaskControllerClient.setState, hf, hstate, if_neg h.symm] at hnew
    exact h hnew.symm
  · have hsame : (turn.map f).client.currentState ≠ expected := fun heq =>
      hstate (hf.symm.trans heq)
    rw [if_neg hsame, map_eq_self_iff]
    exact (and_iff_right hstate).symm

theorem processActivateDeactivateResponse_eq_self_iff :
    turn.processActivateDeactivateResponse env message = turn ↔
      turn.client.currentState ≠ .waitForObjectPoolActivateResponse ∧
        ¬(turn.client.currentState = .waitForObjectPoolDeactivateResponse ∧
          message.getUint8At 1 = 0 ∧ turn.client.shouldReuploadAfterDDOPDeletion) := by
  unfold processActivateDeactivateResponse
  split_ifs with hactivate hzero hdeactivate
  · exact iff_of_false (setState_ne (by rw [hactivate]; decide)) fun h => h.1 hactivate
  · refine iff_of_false (fun heq => ?_) fun h => h.1 hactivate
    have hstate := congrArg (·.client.currentState) heq
    simp only [terminate, setState, map, emit, TaskControllerClient.setState, hactivate] at hstate
    split_ifs at hstate <;> simp_all
  · exact iff_of_false (setState_ne (by rw [hdeactivate.1]; decide)) fun h => h.2 hdeactivate
  · exact iff_of_true rfl ⟨hactivate, hdeactivate⟩

theorem processTechnicalCapabilities_eq_self_iff :
    turn.processTechnicalCapabilities env message = turn ↔
      turn.client.IgnoresTechnicalCapabilities message := by
  unfold processTechnicalCapabilities TaskControllerClient.IgnoresTechnicalCapabilities
  split_ifs with hrequest hversion
  · exact advance_eq_self_iff (by decide)
  · rw [storeVersion, advance_map_eq_self_iff (by decide) rfl]
    refine and_congr_right fun _ => ?_
    rw [TaskControllerClient.eq_of_server_iff]
    cases turn.client.server with
    | mk => simp
  · exact iff_of_true rfl trivial

theorem processDeviceDescriptor_eq_self_iff :
    turn.processDeviceDescriptor env message = turn ↔
      turn.client.IgnoresDeviceDescriptor message := by
  unfold processDeviceDescriptor TaskControllerClient.IgnoresDeviceDescriptor
  generalize (subcommand message).toNat = command
  split
  · refine advance_eq_self_iff ?_
    split_ifs <;> decide
  · refine advance_eq_self_iff ?_
    split_ifs <;> decide
  · exact proceed_eq_self_iff (by decide)
  · exact proceed_eq_self_iff (by decide)
  · exact processActivateDeactivateResponse_eq_self_iff
  · exact advance_eq_self_iff (by decide)
  · next h₁ h₃ h₅ h₇ h₉ h₁₁ =>
    refine iff_of_true rfl ?_
    simp only [h₁, h₃, h₅, h₇, h₉, h₁₁]

theorem processStatusMessage_eq_self_iff {source : CFRef} :
    turn.processStatusMessage env message source = turn ↔
      turn.client.IgnoresStatusMessage env message source := by
  unfold processStatusMessage TaskControllerClient.IgnoresStatusMessage
  split_ifs with hname
  · rw [storeStatus, advance_map_eq_self_iff (by decide) rfl, forall_prop_of_true hname]
    refine and_congr_right fun _ => ?_
    cases turn with
    | mk client events =>
      cases client with
      | mk this partner my vt language ddop queues server =>
        cases server with
        | mk => simp [and_assoc]
  · exact iff_of_true rfl fun h => absurd h hname

theorem queue_eq_self_iff {change : Queues → Queues} :
    turn.queue change = turn ↔ change turn.client.queues = turn.client.queues := by
  rw [queue, map_eq_self_iff]
  cases turn.client with
  | mk => simp

theorem processRequestValue_ne_self : turn.processRequestValue message ≠ turn := by
  intro heq
  have hlength := congrArg (·.client.queues.queuedValueRequests.length) heq
  unfold processRequestValue at hlength
  dsimp only at hlength
  split_ifs at hlength <;> simp [map, queue] at hlength

theorem processValue_ne_self {ackRequested : Bool} :
    turn.processValue message ackRequested ≠ turn := by
  intro heq
  have hlength := congrArg (·.client.queues.queuedValueCommands.length) heq
  simp [processValue, map, queue] at hlength

end Turn

section

variable {update : ProcessDataCallbackInfo → ProcessDataCallbackInfo}
  {info : ProcessDataCallbackInfo}

theorem replaceF_eq_self_iff (commands : List ProcessDataCallbackInfo) :
    (commands.replaceF fun previous =>
        if previous.sameValue info then some (update previous) else none) = commands ↔
      ∀ previous, commands.find? (·.sameValue info) = some previous → update previous =
          previous := by
  induction commands with
  | nil => simp [List.replaceF]
  | cons command commands ih =>
    rw [List.replaceF, List.find?_cons]
    by_cases hsame : command.sameValue info = true
    · simp [hsame]
    · simp only [hsame, if_false, Bool.false_eq_true, List.cons.injEq, true_and]
      exact ih

theorem addMeasurement_eq_self_iff (commands : List ProcessDataCallbackInfo) :
    addMeasurement update info commands = commands ↔
      ∃ previous, commands.find? (·.sameValue info) = some previous ∧
        update previous = previous := by
  unfold addMeasurement
  split_ifs with hany
  · rw [replaceF_eq_self_iff]
    obtain ⟨previous, hfind⟩ := Option.isSome_iff_exists.mp
      (List.find?_isSome.mpr (List.any_eq_true.mp hany))
    simp [hfind]
  · refine iff_of_false (fun heq => ?_) fun ⟨previous, hfind, _⟩ => ?_
    · have hlength := congrArg List.length heq
      simp at hlength
    · have hsame : previous.sameValue info = true :=
        List.find?_some (p := fun command => ProcessDataCallbackInfo.sameValue command info) hfind
      exact hany (List.any_eq_true.mpr ⟨previous, List.mem_of_find?_eq_some hfind, hsame⟩)

theorem alterInterval_eq_self_iff (previous : ProcessDataCallbackInfo) :
    Queues.alterInterval info previous = previous ↔
      previous.processDataValue = info.processDataValue := by
  cases previous with
  | mk => simp [Queues.alterInterval, eq_comm]

theorem alterThreshold_eq_self_iff (previous : ProcessDataCallbackInfo) :
    Queues.alterThreshold info previous = previous ↔
      previous.processDataValue = info.processDataValue ∧ previous.thresholdPassed = false := by
  cases previous with
  | mk => simp [Queues.alterThreshold, eq_comm]

theorem interval_known_iff {message : CANMessage} (lastValue : Int32)
    (commands : List ProcessDataCallbackInfo) :
    addMeasurement (Queues.alterInterval { processDataInfo message with lastValue := lastValue })
        { processDataInfo message with lastValue := lastValue } commands = commands ↔
      TaskControllerClient.KnowsInterval message commands := by
  rw [addMeasurement_eq_self_iff]
  simp only [alterInterval_eq_self_iff]
  rfl

theorem threshold_known_iff {message : CANMessage} (commands : List ProcessDataCallbackInfo) :
    addMeasurement (Queues.alterThreshold (processDataInfo message)) (processDataInfo message)
        commands = commands ↔ TaskControllerClient.KnowsThreshold message commands := by
  rw [addMeasurement_eq_self_iff]
  simp only [alterThreshold_eq_self_iff]
  rfl

end

namespace Turn

variable {env : Environment} {message : CANMessage} {turn : Turn}

theorem processProcessData_eq_self_iff {source : CFRef} :
    turn.processProcessData env message source = turn ↔
      turn.client.IgnoresProcessData env message source := by
  unfold processProcessData TaskControllerClient.IgnoresProcessData
  cases ProcessDataCommands.ofByte (message.getUint8At 0) with
  | technicalCapabilities => exact processTechnicalCapabilities_eq_self_iff
  | deviceDescriptor => exact processDeviceDescriptor_eq_self_iff
  | statusMessage => exact processStatusMessage_eq_self_iff
  | requestValue => exact iff_of_false processRequestValue_ne_self id
  | value => exact iff_of_false processValue_ne_self id
  | setValueAndAcknowledge => exact iff_of_false processValue_ne_self id
  | measurementTimeInterval =>
    refine Iff.trans queue_eq_self_iff (Iff.trans ?_ (interval_known_iff env.now.toInt32 _))
    cases turn.client.queues with
    | mk => simp [Queues.addMeasurementTimeInterval]
  | measurementDistanceInterval =>
    refine Iff.trans queue_eq_self_iff (Iff.trans ?_ (interval_known_iff 0 _))
    change _ ↔ addMeasurement (Queues.alterInterval (processDataInfo message))
      (processDataInfo message) _ = _
    cases turn.client.queues with
    | mk => simp [Queues.addMeasurementDistanceInterval]
  | measurementMaximumWithinThreshold =>
    refine Iff.trans queue_eq_self_iff (Iff.trans ?_ (threshold_known_iff _))
    cases turn.client.queues with
    | mk => simp [Queues.addMeasurementMaximumThreshold]
  | measurementMinimumWithinThreshold =>
    refine Iff.trans queue_eq_self_iff (Iff.trans ?_ (threshold_known_iff _))
    cases turn.client.queues with
    | mk => simp [Queues.addMeasurementMinimumThreshold]
  | measurementChangeThreshold =>
    refine Iff.trans queue_eq_self_iff (Iff.trans ?_ (threshold_known_iff _))
    cases turn.client.queues with
    | mk => simp [Queues.addMeasurementChangeThreshold]
  | _ => exact iff_of_true rfl trivial

theorem processRxMessage_eq_self_iff
    (hgroup : message.identifier.getParameterGroupNumber = PROCESS_DATA) :
    turn.processRxMessage env message = turn ↔ turn.client.Ignores env message := by
  unfold processRxMessage TaskControllerClient.Ignores
  cases message.source with
  | none => exact iff_of_true rfl fun source h => absurd h (Option.some_ne_none source).symm
  | some source =>
    dsimp only
    split_ifs with hlength hacknowledge
    · rw [hgroup] at hacknowledge
      cases hacknowledge
    · rw [processProcessData_eq_self_iff]
      constructor
      · rintro h _ ⟨rfl⟩ _
        exact h
      · intro h
        exact h source rfl hlength
    · exact iff_of_true rfl fun _ _ h => absurd h hlength

theorem processLanguageCommand_eq_self
    (hgroup : message.identifier.getParameterGroupNumber = PROCESS_DATA) :
    turn.processLanguageCommand env message = turn := by
  have hne : PROCESS_DATA ≠ LANGUAGE_COMMAND := by decide
  simp [processLanguageCommand, map, hgroup, hne]

theorem receive_eq_self (hgroup : message.identifier.getParameterGroupNumber = PROCESS_DATA)
    (h : turn.client.Hears env message → turn.client.Ignores env message) :
    turn.receive env message = turn := by
  have hcall (entries : List ParameterGroupNumberCallbackData)
      (hentries : ∀ entry ∈ entries, entry ∈ env.nm.globalAndPartnerCallbacks message) :
      entries.foldl (callEntry env message) turn = turn := by
    induction entries with
    | nil => rfl
    | cons entry entries ih =>
      have hentry : callEntry env message turn entry = turn := by
        unfold callEntry
        split_ifs with hthis hrx
        · have hhears : turn.client.Hears env message :=
            ⟨entry, hentries entry List.mem_cons_self, hthis, hrx⟩
          exact (processRxMessage_eq_self_iff hgroup).mpr (h hhears)
        · exact processLanguageCommand_eq_self hgroup
        · rfl
        · rfl
      rw [List.foldl_cons, hentry]
      exact ih fun entry hmem => hentries entry (List.mem_cons_of_mem _ hmem)
  exact hcall _ fun _ hmem => hmem

end Turn

/-- Process data from another one than the partner, or for another one of our own control
functions. -/
def Input.isForeign (partner my : CFRef) (input : Input) : Bool :=
  match input.call with
  | .receive message =>
    message.identifier.getParameterGroupNumber = PROCESS_DATA &&
      (message.source ≠ some partner ||
        message.destination.any fun c => input.env.nm.type c = .internal && c ≠ my)
  | _ => false

/-- A foreign message is not heard by the client, or it is one that the client ignores. -/
def Unaffected (partner my : CFRef) (state : Option TaskControllerClient) (input : Input) : Prop :=
  input.isForeign partner my → ∀ message, input.call = .receive message →
    ∀ client, state = some client → client.Hears input.env message →
      client.Ignores input.env message

/-- A foreign message changes nothing of the client, which does nothing either. -/
def Unmoved (partner my : CFRef) (state : Option TaskControllerClient) (input : Input) : Prop :=
  input.isForeign partner my → taskControllerClient.step state input = (state, [])

theorem unmoved_of_unaffected {partner my : CFRef} {state : Option TaskControllerClient}
    {input : Input} (h : Unaffected partner my state input) : Unmoved partner my state input := by
  intro hforeign
  cases state with
  | none => rfl
  | some client =>
    obtain ⟨env, call⟩ := input
    cases call with
    | receive message =>
      have hgroup : message.identifier.getParameterGroupNumber = PROCESS_DATA := by
        simp only [Input.isForeign, Bool.and_eq_true, decide_eq_true_eq] at hforeign
        exact hforeign.1
      have hsame : Turn.receive env message ⟨client, []⟩ = ⟨client, []⟩ :=
        Turn.receive_eq_self hgroup (h hforeign message rfl client rfl)
      simp only [taskControllerClient, Turn.serve, hsame]
    | _ => cases hforeign

/-- While the foreign messages that reach the client are ones that it ignores, two runs that differ
in such messages reach the same state and do the same. -/
theorem obeysOwnServer {this : PointerRef} {partner my : CFRef} {primaryVT : Option CFRef}
    {inputs inputs' : List Input}
    (h : taskControllerClient.Along (Unaffected partner my)
      (some (.create this partner my primaryVT)) inputs)
    (h' : taskControllerClient.Along (Unaffected partner my)
      (some (.create this partner my primaryVT)) inputs')
    (hsame : inputs.filter (!Input.isForeign partner my ·) =
      inputs'.filter (!Input.isForeign partner my ·)) :
    taskControllerClient.Along (Unmoved partner my)
        (some (.create this partner my primaryVT)) inputs ∧
      taskControllerClient.run (some (.create this partner my primaryVT)) inputs =
        taskControllerClient.run (some (.create this partner my primaryVT)) inputs' ∧
      taskControllerClient.outputs (some (.create this partner my primaryVT)) inputs =
        taskControllerClient.outputs (some (.create this partner my primaryVT)) inputs' := by
  have hunmoved := taskControllerClient.along_mono (fun _ _ => unmoved_of_unaffected) h
  have hunmoved' := taskControllerClient.along_mono (fun _ _ => unmoved_of_unaffected) h'
  refine ⟨hunmoved, ?_, ?_⟩
  · rw [← taskControllerClient.run_filter inputs hunmoved,
      ← taskControllerClient.run_filter inputs' hunmoved', hsame]
  · rw [← taskControllerClient.outputs_filter inputs hunmoved,
      ← taskControllerClient.outputs_filter inputs' hunmoved', hsame]

/-- The partner is 0, our control function 1, and 2 is a stranger. -/
def threeNodes : CANNetworkManager :=
  { CANNetworkManager.idle [⟨PROCESS_DATA, some PROCESS_RX_MESSAGE, 0, none⟩] [] [] with
    controlFunctions := fun c =>
      if c = 0 then ⟨.partnered, 0xA000, 0x26, 0⟩ else if c = 1 then ⟨.internal, 0xA001, 0x80, 0⟩
      else ⟨.external, 0xA002, 0x90, 0⟩ }

def quietAt (now : UInt32) : Environment where
  now := now
  nm := threeNodes
  accepts _ := true
  application := ⟨[], [], []⟩
  destroyedPool := ⟨[], 0, by decide⟩

def processDataFrom (source : CFRef) (data : List UInt8) : CANMessage where
  identifier := .ofFields .extended PROCESS_DATA PriorityDefault6 BROADCAST_CAN_ADDRESS
    (threeNodes.address source)
  data := data
  source := some source
  destination := none
  canPortIndex := 0
  timestampUs := 0

/-- A client that starts, sees the status of its server and requests the version. -/
def versionRequested : List Input :=
  [⟨quietAt 0, .configure (.pointer [0x44, 0x56, 0x43] (by decide)) {}⟩,
    ⟨quietAt 0, .initializeClient⟩, ⟨quietAt 0, .update⟩, ⟨quietAt 6000, .update⟩,
    ⟨quietAt 6000, .receive (processDataFrom 0 [0xFE, 0xFF, 0xFF, 0xFF, 0, 0, 0, 0])⟩,
    ⟨quietAt 6000, .update⟩, ⟨quietAt 6000, .update⟩, ⟨quietAt 6000, .update⟩]

def strangersVersion : Input :=
  ⟨quietAt 6000, .receive (processDataFrom 2 [0x10, 4, 0, 0, 0, 0, 0, 0])⟩

def threeUpdates : List Input :=
  [⟨quietAt 8000, .update⟩, ⟨quietAt 8000, .update⟩, ⟨quietAt 12000, .update⟩]

/-- The client goes on with the version of the stranger, and gives up without it. -/
theorem strangersVersion_not_ignored :
    strangersVersion.isForeign 0 1 = true ∧
      (taskControllerClient.run (some (.create 0 0 1 none))
          (versionRequested ++ [strangersVersion])).map (·.currentState) ≠
        (taskControllerClient.run (some (.create 0 0 1 none)) versionRequested).map
          (·.currentState) ∧
      taskControllerClient.outputs (some (.create 0 0 1 none))
          (versionRequested ++ strangersVersion :: threeUpdates) ≠
        taskControllerClient.outputs (some (.create 0 0 1 none))
          (versionRequested ++ threeUpdates) := by
  decide +kernel

def strangersTask : Input :=
  ⟨quietAt 0, .receive (processDataFrom 2 [0xFF, 0xFF, 0xFF, 0xFF, 0, 0, 0, 0])⟩

/-- What only clients send is ignored. -/
theorem strangersTask_obeysOwnServer :
    taskControllerClient.outputs (some (.create 0 0 1 none))
        [strangersTask, ⟨quietAt 0, .initializeClient⟩] =
      taskControllerClient.outputs (some (.create 0 0 1 none))
        [⟨quietAt 0, .initializeClient⟩] := by
  have hignored : ∀ state, Unaffected 0 1 state strangersTask := by
    intro state _ message hmessage client _ _ source _ _
    cases hmessage
    trivial
  have hown : ∀ state, Unaffected 0 1 state ⟨quietAt 0, .initializeClient⟩ :=
    fun _ hforeign => absurd hforeign Bool.false_ne_true
  have hleft : taskControllerClient.Along (Unaffected 0 1) (some (.create 0 0 1 none))
      [strangersTask, ⟨quietAt 0, .initializeClient⟩] := ⟨hignored _, hown _, trivial⟩
  have hright : taskControllerClient.Along (Unaffected 0 1) (some (.create 0 0 1 none))
      [⟨quietAt 0, .initializeClient⟩] := ⟨hown _, trivial⟩
  exact (obeysOwnServer hleft hright rfl).2.2

end Isobus.TaskClient
