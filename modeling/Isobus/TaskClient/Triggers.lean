import Isobus.TaskClient.QueuedCommands

namespace Isobus.TaskClient

open Isobus.Can Isobus.Lib Isobus.DeviceDescriptor Isobus.NetworkManager

def ProcessDataCallbackInfo.key (info : ProcessDataCallbackInfo) : UInt16 × UInt16 :=
  (info.elementNumber, info.ddi)

theorem ProcessDataCallbackInfo.sameValue_iff {info other : ProcessDataCallbackInfo} :
    info.sameValue other = true ↔ info.key = other.key := by
  simp only [sameValue, key, Bool.and_eq_true, decide_eq_true_eq, Prod.mk.injEq]
  exact and_comm

theorem addMeasurement_cons (update : ProcessDataCallbackInfo → ProcessDataCallbackInfo)
    (info first : ProcessDataCallbackInfo) (infos : List ProcessDataCallbackInfo) :
    addMeasurement update info (first :: infos) =
      if first.key = info.key then update first :: infos
      else first :: addMeasurement update info infos := by
  by_cases hfirst : first.sameValue info = true
  · rw [if_pos (ProcessDataCallbackInfo.sameValue_iff.mp hfirst)]
    simp [addMeasurement, hfirst]
  · rw [if_neg fun hkey => hfirst (ProcessDataCallbackInfo.sameValue_iff.mpr hkey)]
    simp only [addMeasurement, List.any_cons, List.replaceF_cons, hfirst]
    split <;> simp_all

def Distinct (infos : List ProcessDataCallbackInfo) : Prop := (infos.map (·.key)).Nodup

variable {infos : List ProcessDataCallbackInfo}

theorem Distinct.map (h : Distinct infos) {f : ProcessDataCallbackInfo → ProcessDataCallbackInfo}
    (hf : ∀ info, (f info).key = info.key) :
    Distinct (infos.map f) := by
  rw [Distinct, List.map_map]
  exact (List.map_congr_left fun info _ => hf info) ▸ h

theorem Distinct.addMeasurement (h : Distinct infos)
    {update : ProcessDataCallbackInfo → ProcessDataCallbackInfo}
    (hupdate : ∀ previous, (update previous).key = previous.key) (info : ProcessDataCallbackInfo) :
    Distinct (TaskClient.addMeasurement update info infos) := by
  rw [TaskClient.addMeasurement]
  split
  · rw [Distinct, map_replaceF fun previous other hother => ?_]
    · exact h
    · split at hother
      · rw [← Option.some.inj hother, hupdate]
      · cases hother
  · rename_i hnew
    rw [Distinct, List.map_append, List.nodup_append]
    refine ⟨h, List.nodup_singleton _, fun key hkey key' hkey' heq => hnew ?_⟩
    obtain ⟨previous, hprevious, rfl⟩ := List.mem_map.mp hkey
    rw [List.map_singleton, List.mem_singleton] at hkey'
    exact List.any_eq_true.mpr ⟨previous, hprevious,
      ProcessDataCallbackInfo.sameValue_iff.mpr (heq.trans hkey')⟩

theorem exists_mem_addMeasurement (update : ProcessDataCallbackInfo → ProcessDataCallbackInfo)
    (info : ProcessDataCallbackInfo) (infos : List ProcessDataCallbackInfo) :
    info ∈ TaskClient.addMeasurement update info infos ∨
      ∃ previous ∈ infos, previous.key = info.key ∧
        update previous ∈ TaskClient.addMeasurement update info infos := by
  rw [TaskClient.addMeasurement]
  split
  · rename_i hany
    obtain ⟨previous, hprevious, hsame⟩ := List.any_eq_true.mp hany
    obtain ⟨found, hfound, other, hother, hupdate⟩ :=
      exists_mem_replaceF (f := fun previous : ProcessDataCallbackInfo =>
        if previous.sameValue info then some (update previous) else none)
        ⟨previous, hprevious, by rw [if_pos hsame]; rfl⟩
    split at hupdate
    · rename_i hkey
      cases hupdate
      exact .inr ⟨found, hfound, ProcessDataCallbackInfo.sameValue_iff.mp hkey, hother⟩
    · cases hupdate
  · exact .inl (List.mem_append_right _ List.mem_cons_self)

theorem Distinct.eq_of_key (h : Distinct infos) {info other : ProcessDataCallbackInfo}
    (hinfo : info ∈ infos) (hother : other ∈ infos) (hkey : info.key = other.key) : info = other :=
  List.inj_on_of_nodup_map h hinfo hother hkey

namespace Queues

/-- No list of triggers has two of them for one value. -/
structure DistinctTriggers (queues : Queues) : Prop where
  distance : Distinct queues.measurementDistanceIntervalCommands
  time : Distinct queues.measurementTimeIntervalCommands
  minimum : Distinct queues.measurementMinimumThresholdCommands
  maximum : Distinct queues.measurementMaximumThresholdCommands
  change : Distinct queues.measurementOnChangeThresholdCommands

theorem distinctTriggers_empty : DistinctTriggers {} :=
  ⟨List.nodup_nil, List.nodup_nil, List.nodup_nil, List.nodup_nil, List.nodup_nil⟩

@[simp] theorem key_alterThreshold (info previous : ProcessDataCallbackInfo) :
    (alterThreshold info previous).key = previous.key := rfl

@[simp] theorem key_alterInterval (info previous : ProcessDataCallbackInfo) :
    (alterInterval info previous).key = previous.key := rfl

variable {queues : Queues} (h : queues.DistinctTriggers) (info : ProcessDataCallbackInfo)

include h

theorem DistinctTriggers.addMeasurementChangeThreshold :
    (queues.addMeasurementChangeThreshold info).DistinctTriggers :=
  { h with change := h.change.addMeasurement (key_alterThreshold info) info }

theorem DistinctTriggers.addMeasurementDistanceInterval :
    (queues.addMeasurementDistanceInterval info).DistinctTriggers :=
  { h with distance := h.distance.addMeasurement (key_alterInterval info) info }

theorem DistinctTriggers.addMeasurementTimeInterval :
    (queues.addMeasurementTimeInterval info).DistinctTriggers :=
  { h with time := h.time.addMeasurement (key_alterInterval info) info }

theorem DistinctTriggers.addMeasurementMaximumThreshold :
    (queues.addMeasurementMaximumThreshold info).DistinctTriggers :=
  { h with maximum := h.maximum.addMeasurement (key_alterThreshold info) info }

theorem DistinctTriggers.addMeasurementMinimumThreshold :
    (queues.addMeasurementMinimumThreshold info).DistinctTriggers :=
  { h with minimum := h.minimum.addMeasurement (key_alterThreshold info) info }

end Queues

theorem distinctTriggers_populateAnyTriggersFromSettings (processData : DeviceProcessDataObject)
    (elementNumber : UInt16) (settings : DefaultProcessDataSettings) {queues : Queues}
    (h : queues.DistinctTriggers) :
    (populateAnyTriggersFromSettings processData elementNumber settings
      queues).DistinctTriggers := by
  have hadd (condition : Bool) {change : Queues → Queues}
      (hchange : ∀ queues : Queues, queues.DistinctTriggers → (change queues).DistinctTriggers)
      (queues : Queues) (h : queues.DistinctTriggers) :
      (if condition then change queues else queues).DistinctTriggers := by
    cases condition
    · exact h
    · exact hchange queues h
  simp only [populateAnyTriggersFromSettings]
  apply hadd _ fun _ h => h.addMeasurementTimeInterval _
  apply hadd _ fun _ h => h.addMeasurementMinimumThreshold _
  apply hadd _ fun _ h => h.addMeasurementMaximumThreshold _
  apply hadd _ fun _ h => h.addMeasurementDistanceInterval _
  exact hadd _ (fun _ h => h.addMeasurementChangeThreshold _) _ h

theorem distinctTriggers_processDefaultOfChild (application : Application)
    (element : DeviceElementObject) {queues : Queues} (h : queues.DistinctTriggers)
    (child : Object) :
    (processDefaultOfChild application element queues child).DistinctTriggers := by
  cases child with
  | deviceProcessData processData =>
    simp only [processDefaultOfChild]
    split
    · exact distinctTriggers_populateAnyTriggersFromSettings _ _ _ h
    · exact h
  | _ => exact h

theorem distinctTriggers_processDefaultsOfPool (application : Application)
    (pool : DeviceDescriptorObjectPool) {queues : Queues} (h : queues.DistinctTriggers) :
    (processDefaultsOfPool application pool queues).DistinctTriggers := by
  rw [processDefaultsOfPool]
  refine foldl_invariant (fun queues object _ h => ?_) h
  cases object with
  | deviceElement element =>
    refine foldl_invariant (fun queues childID _ h => ?_) h
    cases pool.getObjectById childID with
    | none => exact h
    | some child => exact distinctTriggers_processDefaultOfChild application element h child
  | _ => exact h

namespace Turn

def KeepsDistinct (turn turn' : Turn) : Prop :=
  turn.client.queues.DistinctTriggers → turn'.client.queues.DistinctTriggers

theorem KeepsDistinct.trans {turn turn' turn'' : Turn} (h : KeepsDistinct turn turn')
    (h' : KeepsDistinct turn' turn'') : KeepsDistinct turn turn'' :=
  h' ∘ h

variable {env : Environment} {turn turn' : Turn}

theorem keepsDistinct_processAllDefaultProcessDataRequests
    (h : turn.processAllDefaultProcessDataRequests env = some turn') :
        KeepsDistinct turn turn' := by
  intro hdistinct
  rw [processAllDefaultProcessDataRequests] at h
  split at h
  · obtain ⟨found, -, rfl⟩ := Option.map_eq_some_iff.mp h
    cases found with
    | none => exact hdistinct
    | some pool => exact distinctTriggers_processDefaultsOfPool env.application pool hdistinct
  · cases h
    exact hdistinct

variable (turn)

theorem keepsDistinct_setState (newState : StateMachineState) :
    KeepsDistinct turn (turn.setState env newState) := by
  intro h
  simp only [setState, map, TaskControllerClient.setState]
  split
  · exact h
  · dsimp only
    split
    · exact Queues.distinctTriggers_empty
    · exact h

theorem keepsDistinct_terminate : KeepsDistinct turn turn.terminate := by
  rw [terminate]
  split
  · exact fun h => h
  · exact fun h => h

theorem keepsDistinct_advance (expected newState : StateMachineState) :
    KeepsDistinct turn (turn.advance env expected newState) := by
  rw [advance]
  split
  · exact keepsDistinct_setState turn newState
  · exact fun h => h

theorem keepsDistinct_proceed (message : CANMessage) (expected newState : StateMachineState) :
    KeepsDistinct turn (turn.proceed env message expected newState) := by
  rw [proceed]
  split
  · split
    · exact keepsDistinct_setState turn newState
    · exact keepsDistinct_terminate turn
  · exact fun h => h

theorem keepsDistinct_awaitResponse (timeout : UInt32) :
    KeepsDistinct turn (turn.awaitResponse env timeout) := by
  rw [awaitResponse]
  split
  · exact keepsDistinct_setState turn _
  · exact fun h => h

theorem keepsDistinct_attempt (frame : TransmitFrame) (newState : StateMachineState) :
    KeepsDistinct turn (turn.attempt env frame newState) := by
  rw [attempt]
  split
  · exact fun h => keepsDistinct_setState _ _ h
  · exact fun h => keepsDistinct_awaitResponse _ _ h

theorem keepsDistinct_sendStatusIfDue : KeepsDistinct turn (turn.sendStatusIfDue env) := by
  rw [sendStatusIfDue]
  split
  · split <;> exact fun h => h
  · exact fun h => h

theorem keepsDistinct_requestLanguageCommand :
    KeepsDistinct turn (turn.requestLanguageCommand env).2 := by
  rw [requestLanguageCommand]
  split <;> exact fun h => h

theorem keepsDistinct_requestLanguage : KeepsDistinct turn (turn.requestLanguage env) := by
  rw [requestLanguage]
  split
  · exact (keepsDistinct_requestLanguageCommand turn).trans (keepsDistinct_setState _ _)
  · exact (keepsDistinct_requestLanguageCommand turn).trans (keepsDistinct_awaitResponse _ _)

theorem keepsDistinct_waitForLanguageResponse :
    KeepsDistinct turn (turn.waitForLanguageResponse env) := by
  rw [waitForLanguageResponse]
  split
  · exact keepsDistinct_setState turn _
  · split
    · exact fun h => keepsDistinct_requestLanguageCommand _ h
    · exact fun h => h

theorem keepsDistinct_selectLanguageCommandPartner :
    KeepsDistinct turn turn.selectLanguageCommandPartner := by
  intro h
  simp only [selectLanguageCommandPartner, map]
  split <;> exact h

theorem keepsDistinct_sendStatusMessage : KeepsDistinct turn (turn.sendStatusMessage env) := by
  rw [sendStatusMessage]
  split
  · exact fun h => keepsDistinct_setState _ _ h
  · exact fun h => keepsDistinct_awaitResponse _ _ h

theorem keepsDistinct_updateDisconnected : KeepsDistinct turn (turn.updateDisconnected env) := by
  rw [updateDisconnected]
  split
  · exact fun h => keepsDistinct_setState _ _ h
  · exact fun h => h

theorem keepsDistinct_deactivateObjectPool :
    KeepsDistinct turn (turn.deactivateObjectPool env) := by
  rw [deactivateObjectPool]
  split
  · exact fun h => keepsDistinct_setState _ _ h
  · split
    · exact fun h => keepsDistinct_terminate _ (keepsDistinct_setState _ _ h)
    · exact fun h => h

theorem keepsDistinct_waitForObjectPoolDeactivateResponse :
    KeepsDistinct turn (turn.waitForObjectPoolDeactivateResponse env) := by
  rw [waitForObjectPoolDeactivateResponse]
  split
  · split
    · exact fun h => keepsDistinct_setState _ _ h
    · exact (keepsDistinct_setState turn _).trans (keepsDistinct_terminate _)
  · exact fun h => h

variable {turn}

theorem keepsDistinct_processObjectDDOP (h : turn.processObjectDDOP env = some turn') :
    KeepsDistinct turn turn' := by
  obtain ⟨pool, -, h⟩ := Option.bind_eq_some_iff.mp h
  split at h
  · cases h
  · dsimp only at h
    split at h
    · cases h
      exact fun h => keepsDistinct_setState _ _ h
    · split at h
      · cases h
        exact fun h => keepsDistinct_terminate _ h
      · obtain ⟨labelled, -, h⟩ := Option.bind_eq_some_iff.mp h
        cases h
        exact fun h => keepsDistinct_setState _ _ h

theorem keepsDistinct_processBinaryDDOP (h : turn.processBinaryDDOP env = some turn') :
    KeepsDistinct turn turn' := by
  rw [processBinaryDDOP] at h
  split at h
  · obtain ⟨labelled, -, h⟩ := Option.bind_eq_some_iff.mp h
    cases h
    split
    · exact fun h => keepsDistinct_setState _ _ (keepsDistinct_terminate _ h)
    · exact fun h => keepsDistinct_setState _ _ h
  · cases h
    exact keepsDistinct_setState turn _

theorem keepsDistinct_beginTransferDDOP (h : turn.beginTransferDDOP env = some turn') :
    KeepsDistinct turn turn' := by
  obtain ⟨dataLength, -, h⟩ := Option.bind_eq_some_iff.mp h
  split at h
  · cases h
  · cases h
    split
    · exact fun h => keepsDistinct_setState _ _ h
    · exact fun h => keepsDistinct_awaitResponse _ _ h

theorem keepsDistinct_processQueuedCommands (turn : Turn) :
    KeepsDistinct turn (turn.processQueuedCommands env) := by
  intro h
  simp only [processQueuedCommands, map]
  split
  · rw [(drained_processQueuedValueCommands env _ _).client,
      (drained_processQueuedValueRequests env _ _).client]
    exact ⟨h.distance, h.time, h.minimum, h.maximum, h.change⟩
  · dsimp only
    rw [(drained_processQueuedValueRequests env _ _).client]
    exact ⟨h.distance, h.time, h.minimum, h.maximum, h.change⟩

theorem map_key_lookAt {look : ProcessDataCallbackInfo → Turn → ProcessDataCallbackInfo × Turn}
    (hlook : ∀ info turn, (look info turn).1.key = info.key)
    (infos : List ProcessDataCallbackInfo) (turn : Turn) :
    (turn.lookAt look infos).1.map (·.key) = infos.map (·.key) := by
  induction infos generalizing turn with
  | nil => rfl
  | cons info infos ih =>
    rw [lookAt, List.map_cons, List.map_cons, ih]
    rw [hlook]

theorem key_lookAtTimeInterval (info : ProcessDataCallbackInfo) (turn : Turn) :
    (lookAtTimeInterval env info turn).1.key = info.key := by
  rw [lookAtTimeInterval]
  split
  · split
    · dsimp only
      split <;> rfl
    · rfl
  · rfl

theorem key_lookAtThreshold (passed back : Int32 → Int32 → Bool) (info : ProcessDataCallbackInfo)
    (turn : Turn) : (lookAtThreshold env passed back info turn).1.key = info.key := by
  rw [lookAtThreshold]
  split
  · dsimp only
    split <;> rfl
  · split
    · dsimp only
      split <;> rfl
    · rfl

theorem key_lookAtChange (info : ProcessDataCallbackInfo) (turn : Turn) :
    (lookAtChange env info turn).1.key = info.key := by
  rw [lookAtChange]
  split
  · dsimp only
    split <;> rfl
  · rfl

theorem distinct_lookAt {look : ProcessDataCallbackInfo → Turn → ProcessDataCallbackInfo × Turn}
    (hlook : ∀ info turn, (look info turn).1.key = info.key)
    {infos : List ProcessDataCallbackInfo} (turn : Turn) (h : Distinct infos) :
    Distinct (turn.lookAt look infos).1 := by
  rw [Distinct, map_key_lookAt hlook]
  exact h

theorem keepsDistinct_processQueuedThresholdCommands (turn : Turn) :
    KeepsDistinct turn (turn.processQueuedThresholdCommands env) := by
  intro h
  have hdistance := h.distance
  simp only [processQueuedThresholdCommands, map]
  refine ⟨?_, distinct_lookAt key_lookAtTimeInterval _ h.time,
    distinct_lookAt (key_lookAtThreshold _ _) _ h.minimum,
    distinct_lookAt (key_lookAtThreshold _ _) _ h.maximum,
    distinct_lookAt key_lookAtChange _ h.change⟩
  rw [client_lookAt client_lookAtChange, client_lookAt (client_lookAtThreshold _ _),
    client_lookAt (client_lookAtThreshold _ _), client_lookAt client_lookAtTimeInterval]
  exact hdistance

theorem keepsDistinct_updateConnected (turn : Turn) :
    KeepsDistinct turn (turn.updateConnected env) := by
  rw [updateConnected]
  split
  · exact keepsDistinct_setState turn _
  · exact (keepsDistinct_processQueuedCommands turn).trans
      (keepsDistinct_processQueuedThresholdCommands _)

theorem keepsDistinct_processState (h : turn.processState env = some turn') :
    KeepsDistinct turn turn' := by
  rw [processState] at h
  cases hstate : turn.client.currentState with
  | processDDOP =>
    rw [hstate] at h
    dsimp only [processDDOP] at h
    split at h
    · exact keepsDistinct_processObjectDDOP h
    · exact keepsDistinct_processBinaryDDOP h
  | beginTransferDDOP =>
    rw [hstate] at h
    exact keepsDistinct_beginTransferDDOP h
  | waitForStartUpDelay =>
    rw [hstate] at h
    cases h
    split
    · exact keepsDistinct_setState turn _
    · exact fun h => h
  | waitForRequestVersionFromServer =>
    rw [hstate] at h
    cases h
    split
    · exact (keepsDistinct_selectLanguageCommandPartner turn).trans (keepsDistinct_setState _ _)
    · exact fun h => h
  | sendRequestVersionResponse =>
    rw [hstate] at h
    cases h
    split
    · exact fun h => keepsDistinct_setState _ _ (keepsDistinct_selectLanguageCommandPartner _ h)
    · exact fun h => keepsDistinct_awaitResponse _ _ h
  | connected =>
    rw [hstate] at h
    cases h
    exact keepsDistinct_updateConnected turn
  | disconnected =>
    rw [hstate] at h
    cases h
    exact keepsDistinct_updateDisconnected turn
  | sendStatusMessage =>
    rw [hstate] at h
    cases h
    exact keepsDistinct_sendStatusMessage turn
  | requestLanguage =>
    rw [hstate] at h
    cases h
    exact keepsDistinct_requestLanguage turn
  | waitForLanguageResponse =>
    rw [hstate] at h
    cases h
    exact keepsDistinct_waitForLanguageResponse turn
  | deactivateObjectPool =>
    rw [hstate] at h
    cases h
    exact keepsDistinct_deactivateObjectPool turn
  | waitForObjectPoolDeactivateResponse =>
    rw [hstate] at h
    cases h
    exact keepsDistinct_waitForObjectPoolDeactivateResponse turn
  | _ =>
    -- The others wait, send one message, or do neither.
    rw [hstate] at h
    cases h
    first
    | exact keepsDistinct_attempt turn _ _
    | exact keepsDistinct_awaitResponse turn _
    | exact fun h => h

theorem keepsDistinct_update (h : turn.update env = some turn') : KeepsDistinct turn turn' := by
  simp only [update, Option.bind_eq_bind, Option.bind_eq_some_iff] at h
  obtain ⟨prepared, hprepared, processed, hprocessed, h⟩ := h
  cases h
  exact ((keepsDistinct_processAllDefaultProcessDataRequests hprepared).trans
    (keepsDistinct_processState hprocessed)).trans (keepsDistinct_sendStatusIfDue _)

variable {message : CANMessage}

theorem keepsDistinct_processTechnicalCapabilities :
    KeepsDistinct turn (turn.processTechnicalCapabilities env message) := by
  rw [processTechnicalCapabilities]
  split
  · exact keepsDistinct_advance turn _ _
  · split
    · exact fun h => keepsDistinct_advance _ _ _ h
    · exact fun h => h

theorem keepsDistinct_processActivateDeactivateResponse :
    KeepsDistinct turn (turn.processActivateDeactivateResponse env message) := by
  rw [processActivateDeactivateResponse]
  split
  · split
    · exact keepsDistinct_setState turn _
    · exact (keepsDistinct_setState turn _).trans (keepsDistinct_terminate _)
  · split
    · exact keepsDistinct_setState turn _
    · exact fun h => h

theorem keepsDistinct_processDeviceDescriptor :
    KeepsDistinct turn (turn.processDeviceDescriptor env message) := by
  rw [processDeviceDescriptor]
  split
  · exact keepsDistinct_advance turn _ _
  · exact keepsDistinct_advance turn _ _
  · exact keepsDistinct_proceed turn _ _ _
  · exact keepsDistinct_proceed turn _ _ _
  · exact keepsDistinct_processActivateDeactivateResponse
  · exact keepsDistinct_advance turn _ _
  · exact fun h => h

theorem keepsDistinct_processStatusMessage (source : CFRef) :
    KeepsDistinct turn (turn.processStatusMessage env message source) := by
  rw [processStatusMessage]
  split
  · exact fun h => keepsDistinct_advance _ _ _ h
  · exact fun h => h

theorem keepsDistinct_processRequestValue :
    KeepsDistinct turn (turn.processRequestValue message) := by
  rw [processRequestValue]
  split <;> exact fun h => ⟨h.distance, h.time, h.minimum, h.maximum, h.change⟩

theorem keepsDistinct_processProcessData (source : CFRef) :
    KeepsDistinct turn (turn.processProcessData env message source) := by
  rw [processProcessData]
  cases ProcessDataCommands.ofByte (message.getUint8At 0) with
  | technicalCapabilities => exact keepsDistinct_processTechnicalCapabilities
  | deviceDescriptor => exact keepsDistinct_processDeviceDescriptor
  | statusMessage => exact keepsDistinct_processStatusMessage source
  | requestValue => exact keepsDistinct_processRequestValue
  | value => exact fun h => ⟨h.distance, h.time, h.minimum, h.maximum, h.change⟩
  | setValueAndAcknowledge => exact fun h => ⟨h.distance, h.time, h.minimum, h.maximum, h.change⟩
  | measurementTimeInterval => exact fun h => h.addMeasurementTimeInterval _
  | measurementDistanceInterval => exact fun h => h.addMeasurementDistanceInterval _
  | measurementMinimumWithinThreshold => exact fun h => h.addMeasurementMinimumThreshold _
  | measurementMaximumWithinThreshold => exact fun h => h.addMeasurementMaximumThreshold _
  | measurementChangeThreshold => exact fun h => h.addMeasurementChangeThreshold _
  | _ => exact fun h => h

theorem keepsDistinct_processRxMessage :
    KeepsDistinct turn (turn.processRxMessage env message) := by
  rw [processRxMessage]
  cases message.source with
  | none => exact fun h => h
  | some source =>
    dsimp only
    split
    · split
      · rw [processAcknowledge]
        split
        · exact keepsDistinct_setState turn _
        · exact fun h => h
      · split
        · exact keepsDistinct_processProcessData source
        · exact fun h => h
    · exact fun h => h

theorem keepsDistinct_receive : KeepsDistinct turn (turn.receive env message) := by
  refine foldl_rel (R := KeepsDistinct) (fun _ h => h) (fun _ _ _ h h' => h.trans h')
    fun turn entry _ => ?_
  rw [callEntry]
  split
  · split
    · exact keepsDistinct_processRxMessage
    · split
      · intro h
        simp only [processLanguageCommand, map]
        split <;> exact h
      · exact fun h => h
  · exact fun h => h

theorem keepsDistinct_setDistance (distance : UInt32) :
    KeepsDistinct turn (turn.setDistance distance) := by
  intro h
  rw [setDistance]
  split
  · exact h
  · exact ⟨h.distance.map fun info => by dsimp only; split <;> rfl, h.time, h.minimum, h.maximum,
      h.change⟩

theorem keepsDistinct_serve {call : Call} (h : turn.serve env call = some turn') :
    KeepsDistinct turn turn' := by
  cases call with
  | update => exact keepsDistinct_update h
  | receive message =>
    cases h
    exact keepsDistinct_receive
  | setDistance distance =>
    cases h
    exact keepsDistinct_setDistance distance
  | terminate =>
    cases h
    exact keepsDistinct_terminate turn
  | restart =>
    cases h
    rw [restart]
    split
    · exact keepsDistinct_setState turn _
    · exact fun h => h
  | configure ddop options =>
    change turn.configure ddop options = some turn' at h
    unfold configure at h
    split at h
    · split at h
      · cases h
      · cases h
        exact fun h => h
    · cases h
      exact fun h => h
  | reuploadDeviceDescriptorObjectPool ddop =>
    change turn.reuploadDeviceDescriptorObjectPool env ddop = some turn' at h
    unfold reuploadDeviceDescriptorObjectPool at h
    split at h
    · split at h
      · cases h
      · cases h
      · cases h
        exact fun _ => Queues.distinctTriggers_empty
    · cases h
      exact fun h => h
  | onValueChangedTrigger elementNumber ddi =>
    cases h
    exact fun h => ⟨h.distance, h.time, h.minimum, h.maximum, h.change⟩
  | processTxCallback successful =>
    cases h
    exact keepsDistinct_advance turn _ _
  | processInternalObjectPoolUploadCallback bytesOffset numberOfBytesNeeded =>
    rw [serve, processInternalObjectPoolUploadCallback] at h
    split at h
    · cases h
    · split at h
      · simp only [Option.bind_eq_bind, Option.bind_eq_some_iff] at h
        obtain ⟨source, -, bytes, -, h⟩ := h
        cases h
        exact fun h => h
      · cases h
        exact fun h => h
  | initializeClient =>
    cases h
    exact fun h => h
  | requestTaskControllerIdentification =>
    cases h
    exact fun h => h

end Turn

theorem distinctTriggers_run {this : PointerRef} {partner clientSource : CFRef}
    {primaryVT : Option CFRef} {inputs : List Input} {client : TaskControllerClient}
    (h : taskControllerClient.run (some (.create this partner clientSource primaryVT)) inputs =
      some client) :
    client.queues.DistinctTriggers := by
  refine taskControllerClient.run_invariant
    (P := fun state => ∀ client, state = some client → client.queues.DistinctTriggers)
    (fun state input hstate client hnext => ?_) (fun client hclient => ?_) inputs client h
  · cases state with
    | none => cases hnext
    | some before =>
      obtain ⟨turn, hserve, rfl⟩ := next_eq_some hnext
      exact Turn.keepsDistinct_serve hserve (hstate before rfl)
  · cases hclient
    exact Queues.distinctTriggers_empty

end Isobus.TaskClient
