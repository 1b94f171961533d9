import Isobus.TaskClient.Update

/-!
# What the calls leave alone

Most of what a client does keeps what was supplied and the version of the server, does not come
nearer to the upload, and neither announces nor begins a transfer.
-/

namespace Isobus.TaskClient

open Isobus.Can Isobus.Lib Isobus.DeviceDescriptor Isobus.NetworkManager

/-- From the processing of the device descriptor to the transfer, or on the way to another transfer.
-/
def StateMachineState.isLate : StateMachineState → Bool
  | .requestStructureLabel | .waitForStructureLabelResponse | .requestLocalizationLabel
  | .waitForLocalizationLabelResponse | .sendDeleteObjectPool | .waitForDeleteObjectPoolResponse
  | .sendRequestTransferObjectPool | .waitForRequestTransferObjectPoolResponse
  | .beginTransferDDOP | .deactivateObjectPool | .waitForObjectPoolDeactivateResponse => true
  | _ => false

/-- The size of the pool was announced, and the transfer did not begin yet. -/
def StateMachineState.isAnnounced : StateMachineState → Bool
  | .waitForRequestTransferObjectPoolResponse | .beginTransferDDOP => true
  | _ => false

def announces (frame : TransmitFrame) : Bool :=
  frame.parameterGroupNumber = PROCESS_DATA &&
    frame.data.head? = some REQUEST_OBJECT_POOL_TRANSFER

def Event.isPlain : Event → Bool
  | .message frame _ => !announces frame
  | .transfer _ _ => false
  | .chunk _ _ _ => false
  | _ => true

namespace Turn

/-- What is not about the device descriptor. -/
structure Passes (turn turn' : Turn) : Prop where
  ddop : turn'.client.ddop = turn.client.ddop
  version : turn'.client.server.serverVersion = turn.client.server.serverVersion
  late : turn'.client.currentState.isLate → turn.client.currentState.isLate
  announced : turn'.client.currentState.isAnnounced → turn.client.currentState.isAnnounced
  events : ∃ added, turn'.events = turn.events ++ added ∧ ∀ e ∈ added, e.isPlain

theorem Passes.refl (turn : Turn) : Passes turn turn :=
  ⟨rfl, rfl, id, id, [], by simp, by simp⟩

theorem Passes.trans {turn turn' turn'' : Turn} (h : Passes turn turn')
    (h' : Passes turn' turn'') : Passes turn turn'' := by
  obtain ⟨added, hadded, hplain⟩ := h.events
  obtain ⟨added', hadded', hplain'⟩ := h'.events
  refine ⟨h'.ddop.trans h.ddop, h'.version.trans h.version, h.late ∘ h'.late,
    h.announced ∘ h'.announced, added ++ added', by rw [hadded', hadded, List.append_assoc], ?_⟩
  intro e he
  exact (List.mem_append.mp he).elim (hplain e) (hplain' e)

variable {env : Environment} {turn : Turn}

theorem passes_emit {event : Event} (h : event.isPlain) : Passes turn (turn.emit event) :=
  ⟨rfl, rfl, id, id, [event], rfl, by simpa using h⟩

theorem passes_offer {frame : TransmitFrame}
    (h : frame.data.head? ≠ some REQUEST_OBJECT_POOL_TRANSFER) :
    Passes turn (turn.offer env frame) :=
  passes_emit (by simp [Event.isPlain, announces, h])

theorem passes_map {f : TaskControllerClient → TaskControllerClient}
    (hddop : (f turn.client).ddop = turn.client.ddop)
    (hversion : (f turn.client).server.serverVersion = turn.client.server.serverVersion)
    (hstate : (f turn.client).currentState = turn.client.currentState) :
    Passes turn (turn.map f) :=
  ⟨hddop, hversion, fun h => hstate ▸ h, fun h => hstate ▸ h, [], by simp [map], by simp⟩

theorem passes_queue (change : Queues → Queues) : Passes turn (turn.queue change) :=
  passes_map rfl rfl rfl

theorem currentState_setState (newState : StateMachineState) :
    (turn.setState env newState).client.currentState = newState := by
  simp only [setState, map, TaskControllerClient.setState]
  split_ifs with h
  · exact h.symm
  · rfl
  · rfl

theorem ddop_setState (newState : StateMachineState) :
    (turn.setState env newState).client.ddop = turn.client.ddop := by
  simp only [setState, map, TaskControllerClient.setState]
  split_ifs <;> rfl

theorem server_setState (newState : StateMachineState) :
    (turn.setState env newState).client.server = turn.client.server := by
  simp only [setState, map, TaskControllerClient.setState]
  split_ifs <;> rfl

variable {newState : StateMachineState}

theorem passes_setState (hlate : newState.isLate → turn.client.currentState.isLate)
    (hannounced : newState.isAnnounced → turn.client.currentState.isAnnounced) :
    Passes turn (turn.setState env newState) := by
  refine ⟨ddop_setState _, congrArg _ (server_setState _), ?_, ?_, [], by simp [setState, map],
    by simp⟩
  · rwa [currentState_setState]
  · rwa [currentState_setState]

theorem passes_setState_early (hlate : newState.isLate = false)
    (hannounced : newState.isAnnounced = false) : Passes turn (turn.setState env newState) :=
  passes_setState (fun h => absurd h (by simp [hlate])) fun h => absurd h (by simp [hannounced])

theorem passes_terminate : Passes turn turn.terminate := by
  unfold terminate
  split_ifs
  · exact (passes_emit rfl).trans (passes_map rfl rfl rfl)
  · exact .refl turn

theorem passes_advance {expected : StateMachineState} (hlate : newState.isLate → expected.isLate)
    (hannounced : newState.isAnnounced → expected.isAnnounced) :
    Passes turn (turn.advance env expected newState) := by
  unfold advance
  split_ifs with h
  · exact passes_setState (h ▸ hlate) (h ▸ hannounced)
  · exact .refl turn

theorem passes_proceed {message : CANMessage} {expected : StateMachineState}
    (hlate : newState.isLate → expected.isLate)
    (hannounced : newState.isAnnounced → expected.isAnnounced) :
    Passes turn (turn.proceed env message expected newState) := by
  unfold proceed
  split_ifs with h
  · exact passes_setState (h ▸ hlate) (h ▸ hannounced)
  · exact passes_terminate
  · exact .refl turn

theorem passes_awaitResponse (timeout : UInt32) :
    Passes turn (turn.awaitResponse env timeout) := by
  unfold awaitResponse
  split_ifs
  · exact passes_setState_early rfl rfl
  · exact .refl turn

theorem passes_attempt {frame : TransmitFrame}
    (hframe : frame.data.head? ≠ some REQUEST_OBJECT_POOL_TRANSFER)
    (hlate : newState.isLate → turn.client.currentState.isLate)
    (hannounced : newState.isAnnounced → turn.client.currentState.isAnnounced) :
    Passes turn (turn.attempt env frame newState) := by
  unfold attempt
  split_ifs
  · exact (passes_offer hframe).trans (passes_setState hlate hannounced)
  · exact (passes_offer hframe).trans (passes_awaitResponse _)

theorem passes_processAllDefaultProcessDataRequests {turn' : Turn}
    (h : turn.processAllDefaultProcessDataRequests env = some turn') : Passes turn turn' := by
  unfold processAllDefaultProcessDataRequests at h
  split_ifs at h
  · obtain ⟨found, -, rfl⟩ := Option.map_eq_some_iff.mp h
    exact passes_map rfl rfl rfl
  · cases h
    exact .refl turn

theorem valueCommand_head (client : TaskControllerClient) (elementNumber ddi : UInt16)
    (value : Int32) : (client.valueCommand elementNumber ddi value).data.head? ≠
      some REQUEST_OBJECT_POOL_TRANSFER := by
  intro h
  have hbit := congrArg (·.toBitVec.getLsbD 1) (Option.some.inj h)
  simp [VALUE, REQUEST_OBJECT_POOL_TRANSFER] at hbit

theorem pdack_head (client : TaskControllerClient) (elementNumber ddi : UInt16) :
    (client.pdack elementNumber ddi).data.head? ≠ some REQUEST_OBJECT_POOL_TRANSFER := by
  intro h
  have hbit := congrArg (·.toBitVec.getLsbD 2) (Option.some.inj h)
  simp [PROCESS_DATA_ACKNOWLEDGE, REQUEST_OBJECT_POOL_TRANSFER] at hbit

theorem passes_offerValue (info : ProcessDataCallbackInfo) (value : Int32) :
    Passes turn (turn.offerValue env info value) := passes_offer (valueCommand_head _ _ _ _)

theorem passes_processQueuedValueRequests (requests : List ProcessDataCallbackInfo) :
    Passes turn (turn.processQueuedValueRequests env requests).turn := by
  induction requests generalizing turn with
  | nil => exact .refl turn
  | cons request requests ih =>
    rw [processQueuedValueRequests]
    cases env.application.requestedValue request with
    | none => exact ih
    | some newValue =>
      dsimp only
      split_ifs
      · exact (passes_offerValue request newValue).trans ih
      · exact passes_offerValue request newValue

theorem passes_commandValue (info : ProcessDataCallbackInfo)
    (callbacks : List (UInt16 → UInt16 → Int32 → Bool)) :
    Passes turn (commandValue info turn callbacks) := by
  induction callbacks generalizing turn with
  | nil => exact .refl turn
  | cons callback callbacks ih =>
    have hcalled : Passes turn
        (turn.emit (.valueCommand info.elementNumber info.ddi info.processDataValue)) :=
      passes_emit rfl
    rw [commandValue]
    split_ifs
    · exact hcalled
    · exact hcalled.trans ih

theorem passes_processQueuedValueCommands (commands : List ProcessDataCallbackInfo) :
    Passes turn (turn.processQueuedValueCommands env commands).turn := by
  induction commands generalizing turn with
  | nil => exact .refl turn
  | cons command commands ih =>
    have hcommanded : Passes turn
        (turn.commandValue command env.application.valueCommandsCallbacks) :=
      passes_commandValue command _
    have hacknowledged : Passes turn
        ((turn.commandValue command env.application.valueCommandsCallbacks).offer env
          (turn.client.pdack command.elementNumber command.ddi)) :=
      hcommanded.trans (passes_offer (pdack_head _ _ _))
    rw [processQueuedValueCommands]
    split_ifs
    · exact hacknowledged.trans ih
    · exact hacknowledged
    · exact hcommanded.trans ih

theorem passes_processQueuedCommands : Passes turn (turn.processQueuedCommands env) := by
  have hrequests : Passes turn
      (turn.processQueuedValueRequests env turn.client.queues.queuedValueRequests).turn :=
    passes_processQueuedValueRequests _
  unfold processQueuedCommands
  refine Passes.trans ?_ (passes_map rfl rfl rfl)
  split_ifs
  · exact hrequests.trans (passes_processQueuedValueCommands _)
  · exact hrequests

theorem passes_lookAt {look : ProcessDataCallbackInfo → Turn → ProcessDataCallbackInfo × Turn}
    (hlook : ∀ info turn, Passes turn (look info turn).2) (infos : List ProcessDataCallbackInfo) :
    Passes turn (turn.lookAt look infos).2 := by
  induction infos generalizing turn with
  | nil => exact .refl turn
  | cons info infos ih => exact (hlook info turn).trans ih

theorem passes_lookAtTimeInterval (info : ProcessDataCallbackInfo) (turn : Turn) :
    Passes turn (turn.lookAtTimeInterval env info).2 := by
  unfold lookAtTimeInterval
  split
  · split
    · exact passes_offerValue info _
    · exact .refl turn
  · exact .refl turn

theorem passes_lookAtThreshold {passed back : Int32 → Int32 → Bool}
    (info : ProcessDataCallbackInfo) (turn : Turn) :
    Passes turn (turn.lookAtThreshold env passed back info).2 := by
  unfold lookAtThreshold
  dsimp only
  split_ifs
  · exact .refl turn
  · exact .refl turn
  · exact passes_offerValue info _
  · exact passes_offerValue info _
  · exact .refl turn

theorem passes_lookAtChange (info : ProcessDataCallbackInfo) (turn : Turn) :
    Passes turn (turn.lookAtChange env info).2 := by
  unfold lookAtChange
  dsimp only
  split_ifs
  · exact passes_offerValue info _
  · exact passes_offerValue info _
  · exact .refl turn

theorem passes_processQueuedThresholdCommands :
    Passes turn (turn.processQueuedThresholdCommands env) := by
  unfold processQueuedThresholdCommands
  refine Passes.trans ?_ (passes_map rfl rfl rfl)
  refine Passes.trans ?_ (passes_lookAt passes_lookAtChange _)
  refine Passes.trans ?_ (passes_lookAt passes_lookAtThreshold _)
  refine Passes.trans ?_ (passes_lookAt passes_lookAtThreshold _)
  exact passes_lookAt passes_lookAtTimeInterval _

theorem passes_updateConnected : Passes turn (turn.updateConnected env) := by
  unfold updateConnected
  split_ifs
  · exact passes_setState_early rfl rfl
  · exact passes_processQueuedCommands.trans passes_processQueuedThresholdCommands

theorem status_head (client : TaskControllerClient) :
    client.status.data.head? ≠ some REQUEST_OBJECT_POOL_TRANSFER := by
  intro h
  exact absurd (Option.some.inj h) (by decide)

theorem passes_sendStatusIfDue : Passes turn (turn.sendStatusIfDue env) := by
  unfold sendStatusIfDue
  split_ifs
  · exact (passes_offer (status_head _)).trans (passes_map rfl rfl rfl)
  · exact passes_offer (status_head _)
  · exact .refl turn

end Turn

def TellsVersion (message : CANMessage) : Prop :=
  message.identifier.getParameterGroupNumber = PROCESS_DATA ∧
    CAN_DATA_LENGTH ≤ message.data.length ∧
    ProcessDataCommands.ofByte (message.getUint8At 0) = .technicalCapabilities ∧
    subcommand message = 1

namespace Turn

structure Receives (message : CANMessage) (turn turn' : Turn) : Prop where
  ddop : turn'.client.ddop = turn.client.ddop
  version : turn'.client.server.serverVersion = turn.client.server.serverVersion ∨
    TellsVersion message ∧ turn'.client.server.serverVersion = message.getUint8At 1
  late : turn'.client.currentState.isLate → turn.client.currentState.isLate
  announced : turn'.client.currentState.isAnnounced → turn.client.currentState.isAnnounced
  events : ∃ added, turn'.events = turn.events ++ added ∧ ∀ e ∈ added, e.isPlain

variable {env : Environment} {message : CANMessage} {turn turn' turn'' : Turn}

theorem Passes.receives (h : Passes turn turn') : Receives message turn turn' :=
  ⟨h.ddop, .inl h.version, h.late, h.announced, h.events⟩

theorem Receives.trans (h : Receives message turn turn') (h' : Receives message turn' turn'') :
    Receives message turn turn'' := by
  obtain ⟨added, hadded, hplain⟩ := h.events
  obtain ⟨added', hadded', hplain'⟩ := h'.events
  refine ⟨h'.ddop.trans h.ddop, ?_, h.late ∘ h'.late, h.announced ∘ h'.announced,
    added ++ added', by rw [hadded', hadded, List.append_assoc], fun e he => ?_⟩
  · rcases h'.version with hsame | htold
    · exact h.version.imp hsame.trans fun htold => ⟨htold.1, hsame.trans htold.2⟩
    · exact .inr htold
  · exact (List.mem_append.mp he).elim (hplain e) (hplain' e)

theorem passes_processDeviceDescriptor : Passes turn
    (turn.processDeviceDescriptor env message) := by
  unfold processDeviceDescriptor
  split
  · refine passes_advance ?_ ?_
    · split_ifs <;> decide
    · split_ifs <;> decide
  · refine passes_advance ?_ ?_
    · split_ifs <;> decide
    · split_ifs <;> decide
  · exact passes_proceed (by decide) (by decide)
  · exact passes_proceed (by decide) (by decide)
  · unfold processActivateDeactivateResponse
    split_ifs with hactivate hzero hdeactivate
    · exact passes_setState_early rfl rfl
    · exact (passes_setState_early rfl rfl).trans passes_terminate
    · refine passes_setState (fun _ => ?_) fun h => absurd h (by decide)
      rw [hdeactivate.1]
      rfl
    · exact .refl turn
  · exact passes_advance (by decide) (by decide)
  · exact .refl turn

theorem receives_processTechnicalCapabilities
    (hgroup : message.identifier.getParameterGroupNumber = PROCESS_DATA)
    (hlength : CAN_DATA_LENGTH ≤ message.data.length)
    (hcommand : ProcessDataCommands.ofByte (message.getUint8At 0) = .technicalCapabilities) :
    Receives message turn (turn.processTechnicalCapabilities env message) := by
  unfold processTechnicalCapabilities
  split_ifs with hrequest hversion
  · exact (passes_advance (by decide) (by decide)).receives
  · have hstored : Receives message turn (turn.storeVersion message) :=
      ⟨rfl, .inr ⟨⟨hgroup, hlength, hcommand, hversion⟩, rfl⟩, id, id, [],
          by simp [storeVersion, map],
        by simp⟩
    exact hstored.trans (passes_advance (by decide) (by decide)).receives
  · exact (Passes.refl turn).receives

theorem receives_processProcessData {source : CFRef}
    (hgroup : message.identifier.getParameterGroupNumber = PROCESS_DATA)
    (hlength : CAN_DATA_LENGTH ≤ message.data.length) :
    Receives message turn (turn.processProcessData env message source) := by
  unfold processProcessData
  cases hcommand : ProcessDataCommands.ofByte (message.getUint8At 0) with
  | technicalCapabilities => exact receives_processTechnicalCapabilities hgroup hlength hcommand
  | deviceDescriptor => exact passes_processDeviceDescriptor.receives
  | statusMessage =>
    dsimp only
    unfold processStatusMessage
    split_ifs
    · have hstored : Passes turn (turn.storeStatus env message) := passes_map rfl rfl rfl
      exact (hstored.trans (passes_advance (by decide) (by decide))).receives
    · exact (Passes.refl turn).receives
  | requestValue =>
    dsimp only
    unfold processRequestValue
    dsimp only
    split_ifs
    · exact ((passes_queue _).trans (passes_map rfl rfl rfl)).receives
    · exact (passes_queue _).receives
  | value => exact (passes_queue _).receives
  | setValueAndAcknowledge => exact (passes_queue _).receives
  | measurementTimeInterval => exact (passes_queue _).receives
  | measurementDistanceInterval => exact (passes_queue _).receives
  | measurementMinimumWithinThreshold => exact (passes_queue _).receives
  | measurementMaximumWithinThreshold => exact (passes_queue _).receives
  | measurementChangeThreshold => exact (passes_queue _).receives
  | _ => exact (Passes.refl turn).receives

theorem receives_processRxMessage : Receives message turn (turn.processRxMessage env message) := by
  unfold processRxMessage
  cases message.source with
  | none => exact (Passes.refl turn).receives
  | some source =>
    dsimp only
    split_ifs with hlength hacknowledge hgroup
    · unfold processAcknowledge
      split_ifs
      · exact (passes_setState_early rfl rfl).receives
      · exact (Passes.refl turn).receives
    · exact receives_processProcessData hgroup hlength
    · exact (Passes.refl turn).receives
    · exact (Passes.refl turn).receives

theorem passes_processLanguageCommand :
    Passes turn (turn.processLanguageCommand env message) := by
  unfold processLanguageCommand
  refine passes_map ?_ ?_ ?_
  · dsimp only
    split_ifs <;> rfl
  · dsimp only
    split_ifs <;> rfl
  · dsimp only
    split_ifs <;> rfl

theorem receives_receive : Receives message turn (turn.receive env message) := by
  unfold receive
  generalize env.nm.globalAndPartnerCallbacks message = entries
  induction entries generalizing turn with
  | nil => exact (Passes.refl turn).receives
  | cons entry entries ih =>
    have hentry : Receives message turn (callEntry env message turn entry) := by
      unfold callEntry
      split_ifs
      · exact receives_processRxMessage
      · exact passes_processLanguageCommand.receives
      · exact (Passes.refl turn).receives
      · exact (Passes.refl turn).receives
    exact hentry.trans ih

theorem passes_processTxCallback (successful : Bool) :
    Passes turn (turn.processTxCallback env successful) := by
  refine passes_advance ?_ ?_
  · split_ifs <;> decide
  · split_ifs <;> decide

theorem passes_initializeClient : Passes turn turn.initializeClient :=
  (passes_emit rfl).trans (passes_map rfl rfl rfl)

theorem passes_restart : Passes turn (turn.restart env) := by
  unfold restart
  split_ifs
  · exact passes_setState_early rfl rfl
  · exact .refl turn

theorem passes_setDistance (distance : UInt32) : Passes turn (turn.setDistance distance) := by
  unfold setDistance
  split_ifs
  · exact .refl turn
  · exact (passes_map rfl rfl rfl).trans (passes_queue _)

theorem passes_requestTaskControllerIdentification :
    Passes turn (turn.requestTaskControllerIdentification env) :=
  passes_offer (fun h => absurd (Option.some.inj h) (by decide))

theorem passes_requestLanguageCommand : Passes turn (turn.requestLanguageCommand env).2 := by
  unfold requestLanguageCommand
  split_ifs
  · exact passes_offer (fun h => absurd (Option.some.inj h) (by decide))
  · exact .refl turn

theorem passes_requestLanguage : Passes turn (turn.requestLanguage env) := by
  unfold requestLanguage
  dsimp only
  split_ifs
  · exact (passes_requestLanguageCommand.trans (passes_setState_early rfl rfl)).trans
      (passes_map rfl rfl rfl)
  · exact passes_requestLanguageCommand.trans (passes_awaitResponse _)

theorem passes_waitForLanguageResponse : Passes turn (turn.waitForLanguageResponse env) := by
  unfold waitForLanguageResponse
  dsimp only
  split_ifs
  · exact passes_setState_early rfl rfl
  · refine Passes.trans ?_ (passes_map rfl rfl rfl)
    refine Passes.trans ?_ passes_requestLanguageCommand
    exact passes_map rfl rfl rfl
  · exact .refl turn

theorem passes_selectLanguageCommandPartner : Passes turn turn.selectLanguageCommandPartner := by
  refine passes_map ?_ ?_ ?_
  · split_ifs <;> rfl
  · split_ifs <;> rfl
  · split_ifs <;> rfl

theorem passes_sendStatusMessage : Passes turn (turn.sendStatusMessage env) := by
  unfold sendStatusMessage
  split_ifs
  · exact ((passes_offer (status_head _)).trans (passes_map rfl rfl rfl)).trans
      (passes_setState_early rfl rfl)
  · exact (passes_offer (status_head _)).trans (passes_awaitResponse _)

theorem passes_deactivateObjectPool (hstate : turn.client.currentState = .deactivateObjectPool) :
    Passes turn (turn.deactivateObjectPool env) := by
  have hoffer : Passes turn (turn.offer env turn.client.objectPoolDeactivate) :=
    passes_offer fun h => absurd (Option.some.inj h) (by decide)
  unfold deactivateObjectPool
  dsimp only
  split_ifs
  · refine hoffer.trans (passes_setState (fun _ => ?_) fun h => absurd h (by decide))
    change turn.client.currentState.isLate
    rw [hstate]
    rfl
  · exact (hoffer.trans (passes_setState_early rfl rfl)).trans passes_terminate
  · exact hoffer

theorem passes_waitForObjectPoolDeactivateResponse :
    Passes turn (turn.waitForObjectPoolDeactivateResponse env) := by
  unfold waitForObjectPoolDeactivateResponse
  split_ifs
  · exact (passes_map rfl rfl rfl).trans (passes_setState_early rfl rfl)
  · exact (passes_setState_early rfl rfl).trans passes_terminate
  · exact .refl turn

theorem passes_updateDisconnected : Passes turn (turn.updateDisconnected env) := by
  unfold updateDisconnected
  dsimp only
  split_ifs
  · exact (passes_map rfl rfl rfl).trans (passes_setState_early rfl rfl)
  · exact passes_map rfl rfl rfl

theorem passes_sendRequestVersionResponse
    (hframe : turn.client.requestVersionResponse.data.head? ≠ some REQUEST_OBJECT_POOL_TRANSFER) :
    Passes turn (if turn.sent env then
      (turn.offer env turn.client.requestVersionResponse).selectLanguageCommandPartner.setState env
        .requestLanguage
    else (turn.offer env turn.client.requestVersionResponse).awaitResponse env
      TWO_SECOND_TIMEOUT_MS) := by
  split_ifs
  · exact ((passes_offer hframe).trans passes_selectLanguageCommandPartner).trans
      (passes_setState_early rfl rfl)
  · exact (passes_offer hframe).trans (passes_awaitResponse _)

theorem passes_processState (hprocess : turn.client.currentState ≠ .processDDOP)
    (hrequest : turn.client.currentState ≠ .sendRequestTransferObjectPool)
    (hbegin : turn.client.currentState ≠ .beginTransferDDOP)
    (h : turn.processState env = some turn') : Passes turn turn' := by
  have hhead {b : UInt8} {bytes : List UInt8} (hne : b ≠ REQUEST_OBJECT_POOL_TRANSFER) :
      (b :: bytes).head? ≠ some REQUEST_OBJECT_POOL_TRANSFER := fun h => hne (Option.some.inj h)
  unfold processState at h
  cases hstate : turn.client.currentState with
  | processDDOP => exact absurd hstate hprocess
  | sendRequestTransferObjectPool => exact absurd hstate hrequest
  | beginTransferDDOP => exact absurd hstate hbegin
  | sendWorkingSetMaster =>
    rw [hstate] at h
    cases h
    unfold attempt
    have hoffer : Passes turn (turn.offer env turn.client.workingSetMaster) := passes_emit rfl
    split_ifs
    · exact hoffer.trans (passes_setState_early rfl rfl)
    · exact hoffer.trans (passes_awaitResponse _)
  | waitForStartUpDelay =>
    rw [hstate] at h
    cases h
    split_ifs
    · exact passes_setState_early rfl rfl
    · exact .refl _
  | waitForRequestVersionFromServer =>
    rw [hstate] at h
    cases h
    split_ifs
    · exact passes_selectLanguageCommandPartner.trans (passes_setState_early rfl rfl)
    · exact .refl _
  | _ =>
    rw [hstate] at h
    cases h
    first
    | exact .refl _
    | exact passes_awaitResponse _
    | exact passes_updateDisconnected
    | exact passes_sendStatusMessage
    | exact passes_requestLanguage
    | exact passes_waitForLanguageResponse
    | exact passes_updateConnected
    | exact passes_deactivateObjectPool hstate
    | exact passes_waitForObjectPoolDeactivateResponse
    | exact passes_sendRequestVersionResponse (hhead (by decide))
    -- The others send a message whose first byte is known, and stay as late as they were.
    | exact passes_attempt (hhead (by decide)) (fun _ => by rw [hstate]; rfl)
        (fun h => absurd h (by decide))
    | exact passes_attempt (hhead (by decide)) (fun h => absurd h (by decide))
        (fun h => absurd h (by decide))

end Turn

end Isobus.TaskClient
