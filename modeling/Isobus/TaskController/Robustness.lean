import Isobus.TaskController.ClientTimeout
import Isobus.Lib.Layout

/-!
# What brings the server down

What does not check what it uses: an empty message, a version from somebody who is no client, a
value or an acknowledgement that is too short, and messages from an address that nobody claimed.
-/

namespace Isobus.TaskController

open Isobus.Can Isobus.Lib

namespace TaskControllerServer

variable {config : ServerConfiguration} {env : ServerEnvironment}
variable {application : Application} {message : CANMessage} {command : UInt8}
variable {server : TaskControllerServer} {world : World}

/-- A version has to come from a client, and an identification from somebody. -/
def SafeCapabilities (world : World) (server : TaskControllerServer) (message : CANMessage)
    (command : UInt8) : Prop :=
  match TechnicalDataCommandParameters.ofByte command with
  | some .parameterVersion => message.data.length = CAN_DATA_LENGTH →
      (server.getActiveClient world message.source).isSome
  | some .identifyTaskController => message.source.isSome
  | some .requestVersion | none => True

def SafeProcessData (world : World) (server : TaskControllerServer) (message : CANMessage)
    (command : UInt8) : Prop :=
  match ProcessDataCommands.ofByte command with
  | .technicalCapabilities => SafeCapabilities world server message command
  | .value | .setValueAndAcknowledge =>
    ∀ client, server.getActiveClient world message.source = some client →
      client.isDDOPActive → 8 ≤ message.data.length
  | .acknowledge =>
    ∀ client, server.getActiveClient world message.source = some client →
      (if client.isDDOPActive then 5 else 4) ≤ message.data.length
  | .measurementTimeInterval | .measurementDistanceInterval | .measurementMinimumWithinThreshold
  | .measurementMaximumWithinThreshold | .measurementChangeThreshold => message.source.isSome
  | .deviceDescriptor | .clientTask | .status | .requestValue | .peerControlAssignment
  | .reserved | .reserved2 => True

/-- What a message must be like for the server, as it stands, to survive it. -/
def SafeMessage (world : World) (server : TaskControllerServer) (message : CANMessage) : Prop :=
  (message.identifier.getParameterGroupNumber = PROCESS_DATA →
    ∃ command, message.data[0]? = some command ∧ SafeProcessData world server message command) ∧
  (isAnnouncement message → message.source.isSome)

def SafeMessages (config : ServerConfiguration) (env : ServerEnvironment)
    (server : TaskControllerServer) : List CANMessage → Nat → Prop
  | [], _ => True
  | message :: rest, k => SafeMessage env.world server message ∧
      ∀ r, server.processRxMessage config env (env.application k) message = some r →
        SafeMessages config env r.1 rest (k + 1)

theorem source_isSome_of_getActiveClient {source : Option CFRef} {client : ActiveClient}
    (h : server.getActiveClient world source = some client) : source.isSome := by
  cases source with
  | none =>
    have hclient := List.find?_some h
    unfold isClient at hclient
    split at hclient <;> simp_all
  | some _ => rfl

theorem getElem?_of_lt {i : Nat} (h : i < message.data.length) :
    message.data[i]? = some message.data[i] := List.getElem?_eq_getElem h

theorem uint16At_isSome (message : CANMessage) (index : Nat) :
    (uint16At message index).isSome ↔ index + 1 < message.data.length := by
  unfold uint16At
  by_cases h : index + 1 < message.data.length
  · rw [getElem?_of_lt h, getElem?_of_lt (by omega)]
    simpa using h
  · rw [List.getElem?_eq_none (i := index + 1) (by omega)]
    cases message.data[index]? <;> simpa using h

theorem uint32At_isSome (message : CANMessage) (index : Nat) :
    (uint32At message index).isSome ↔ index + 3 < message.data.length := by
  unfold uint32At
  by_cases h : index + 3 < message.data.length
  · rw [getElem?_of_lt h, getElem?_of_lt (i := index) (by omega),
      getElem?_of_lt (i := index + 1) (by omega), getElem?_of_lt (i := index + 2) (by omega)]
    simpa using h
  · rw [List.getElem?_eq_none (i := index + 3) (by omega)]
    cases message.data[index]? <;> cases message.data[index + 1]? <;>
      cases message.data[index + 2]? <;> simpa using h

theorem elementNumberAt_isSome (message : CANMessage) :
    (elementNumberAt message).isSome ↔ 1 < message.data.length := by
  unfold elementNumberAt
  by_cases h : 1 < message.data.length
  · rw [getElem?_of_lt h, getElem?_of_lt (i := 0) (by omega)]
    simpa using h
  · rw [List.getElem?_eq_none (i := 1) (by omega)]
    cases message.data[0]? <;> simpa using h

theorem isSome_ite {p : Prop} [Decidable p] {outcome outcome' : Outcome}
    (h : outcome.isSome) (h' : outcome'.isSome) : (if p then outcome else outcome').isSome := by
  split_ifs
  · exact h
  · exact h'

variable {k : Nat} {r : TaskControllerServer × List ServerEvent}

theorem mapM_getElem_isSome {n : Nat} (h : k + n ≤ message.data.length) (f : Nat → Nat)
    (hf : ∀ i, f i = k + i) : ((List.range n).mapM fun i => message.data[f i]?).isSome := by
  refine mapM_isSome _ fun i hi => ?_
  rw [hf, getElem?_of_lt (by have := List.mem_range.mp hi; omega)]
  rfl

theorem technicalCapabilities_isSome :
    (server.technicalCapabilities config env command message).isSome ↔
      SafeCapabilities env.world server message command := by
  unfold technicalCapabilities SafeCapabilities
  cases TechnicalDataCommandParameters.ofByte command with
  | none => exact iff_of_true rfl trivial
  | some parameter =>
    cases parameter with
    | requestVersion => exact iff_of_true (isSome_ite rfl rfl) trivial
    | parameterVersion =>
      dsimp only
      by_cases hlength : message.data.length = CAN_DATA_LENGTH
      · rw [if_pos hlength, forall_prop_of_true hlength,
          getElem?_of_lt (by rw [hlength]; decide)]
        change (server.getActiveClient env.world message.source >>= _).isSome ↔ _
        refine isSome_bind_iff (fun client hclient => ?_)
        exact isSome_bind (source_isSome_of_getActiveClient hclient) fun _ _ => rfl
      · rw [if_neg hlength]
        exact iff_of_true rfl fun h => absurd h hlength
    | identifyTaskController =>
      refine isSome_bind_iff (fun _ _ => ?_)
      exact isSome_ite rfl rfl

theorem clientDeviceDescriptor_isSome {source : CFRef} {client : ActiveClient}
    (hlength : CAN_DATA_LENGTH ≤ message.data.length)
    (parameter : DeviceDescriptorCommandParameters) :
    (server.clientDeviceDescriptor config env application source client command message
      parameter).isSome := by
  have height : 8 ≤ message.data.length := hlength
  cases parameter with
  | requestStructureLabel =>
    exact isSome_bind (mapM_getElem_isSome (k := 1) (by omega) _ fun i => Nat.add_comm i 1)
      fun _ _ => isSome_bind (mapM_getElem_isSome (k := 8) (by omega) _ fun _ => rfl)
        fun _ _ => isSome_ite rfl rfl
  | requestLocalizationLabel =>
    exact isSome_bind (mapM_getElem_isSome (k := 1) (by omega) _ fun i => Nat.add_comm i 1)
      fun _ _ => isSome_ite rfl rfl
  | requestObjectPoolTransfer =>
    exact isSome_bind ((uint32At_isSome ..).mpr (by omega)) fun _ _ => isSome_ite rfl rfl
  | objectPoolTransfer => rfl
  | objectPoolActivateDeactivate =>
    refine isSome_bind ?_ fun _ _ => rfl
    rw [getElem?_of_lt (by omega)]
    rfl
  | deleteObjectPool =>
    change (server.deleteObjectPool config env application source).isSome
    unfold deleteObjectPool
    split <;> rfl
  | changeDesignator =>
    refine isSome_ite ?_ rfl
    exact isSome_bind ((uint16At_isSome ..).mpr (by omega)) fun _ _ =>
      isSome_bind (mapM_getElem_isSome (k := 3) (by omega) _ fun _ => rfl) fun _ _ => rfl
  | _ => rfl

theorem deviceDescriptor_isSome :
    (server.deviceDescriptor config env application command message).isSome := by
  unfold deviceDescriptor
  split
  · by_cases hlength : message.data.length ≥ CAN_DATA_LENGTH
    · rw [if_pos hlength]
      split
      · exact clientDeviceDescriptor_isSome hlength _
      · rfl
    · rw [if_neg hlength]
      rfl
  · rfl

theorem valueCommand_isSome :
    (server.valueCommand config env application command message).isSome ↔
      ∀ client, server.getActiveClient env.world message.source = some client →
        client.isDDOPActive → 8 ≤ message.data.length := by
  unfold valueCommand
  cases hclient : server.getActiveClient env.world message.source with
  | none => exact iff_of_true rfl nofun
  | some client =>
    have hsource := source_isSome_of_getActiveClient hclient
    simp only [Option.some.injEq, forall_eq']
    by_cases hactive : client.isDDOPActive = true
    · rw [if_pos hactive, forall_prop_of_true hactive]
      constructor
      · intro h
        obtain ⟨_, h⟩ := Option.isSome_iff_exists.mp h
        simp only [Option.bind_eq_bind, Option.bind_eq_some_iff] at h
        obtain ⟨_, -, _, -, _, hvalue, -⟩ := h
        have := (uint32At_isSome ..).mp (Option.isSome_of_eq_some hvalue)
        omega
      · intro hlength
        refine isSome_bind ((uint16At_isSome ..).mpr (by omega)) fun _ _ =>
          isSome_bind ((elementNumberAt_isSome message).mpr (by omega)) fun _ _ =>
          isSome_bind ((uint32At_isSome ..).mpr (by omega)) fun _ _ =>
          isSome_bind hsource fun _ _ => ?_
        split
        · exact isSome_ite rfl rfl
        · rfl
    · rw [if_neg hactive]
      exact iff_of_true rfl fun h => absurd h hactive

theorem processDataAcknowledge_isSome :
    (server.processDataAcknowledge config env command message).isSome ↔
      ∀ client, server.getActiveClient env.world message.source = some client →
        (if client.isDDOPActive then 5 else 4) ≤ message.data.length := by
  unfold processDataAcknowledge
  cases hclient : server.getActiveClient env.world message.source with
  | none => exact iff_of_true rfl nofun
  | some client =>
    have hsource := source_isSome_of_getActiveClient hclient
    simp only [Option.some.injEq, forall_eq']
    by_cases hshort : message.data.length < 4
    · have hnone : ¬ (uint16At message 2).isSome := fun h => by
        have := (uint16At_isSome ..).mp h
        omega
      rw [Option.not_isSome_iff_eq_none.mp hnone]
      exact iff_of_false Bool.false_ne_true (by split_ifs <;> omega)
    · obtain ⟨index, hindex⟩ := Option.isSome_iff_exists.mp
        ((uint16At_isSome message 2).mpr (by omega))
      obtain ⟨element, helement⟩ := Option.isSome_iff_exists.mp
        ((elementNumberAt_isSome message).mpr (by omega))
      obtain ⟨source, hsource⟩ := Option.isSome_iff_exists.mp hsource
      rw [hindex, helement, hsource]
      by_cases hactive : client.isDDOPActive = true
      · rw [if_pos hactive]
        refine Iff.trans (b := (message.data[4]?).isSome) ?_ ?_
        · change (if client.isDDOPActive = true then _ else _ : Outcome).isSome ↔ _
          rw [if_pos hactive]
          refine isSome_bind_iff (fun _ _ => ?_)
          rfl
        · rw [isSome_getElem?]
          exact Nat.lt_iff_add_one_le
      · rw [if_neg hactive]
        refine iff_of_true ?_ (by omega)
        change (if client.isDDOPActive = true then _ else _ : Outcome).isSome
        rw [if_neg hactive]
        rfl

theorem measurementCommand_isSome :
    (server.measurementCommand config env command message).isSome ↔
      message.source.isSome := by
  unfold measurementCommand
  by_cases hlength : message.data.length = CAN_DATA_LENGTH
  · have height : message.data.length = 8 := hlength
    rw [if_pos hlength]
    obtain ⟨index, hindex⟩ := Option.isSome_iff_exists.mp
      ((uint16At_isSome message 2).mpr (by omega))
    obtain ⟨element, helement⟩ := Option.isSome_iff_exists.mp
      ((elementNumberAt_isSome message).mpr (by omega))
    rw [hindex, helement]
    change (message.source >>= _).isSome ↔ _
    refine isSome_bind_iff (fun _ _ => ?_)
    rfl
  · rw [if_neg hlength]
    refine isSome_bind_iff (fun _ _ => ?_)
    rfl

theorem clientTask_isSome : (server.clientTask env message).isSome := by
  unfold clientTask
  by_cases hlength : message.data.length = CAN_DATA_LENGTH
  · have height : message.data.length = 8 := hlength
    rw [if_pos hlength]
    exact isSome_bind ((uint32At_isSome ..).mpr (by omega)) fun _ _ => rfl
  · rw [if_neg hlength]
    rfl

theorem processData_isSome :
    (server.processData config env application message).isSome ↔
      ∃ command, message.data[0]? = some command ∧
        SafeProcessData env.world server message command := by
  unfold processData
  cases message.data[0]? with
  | none => exact iff_of_false Bool.false_ne_true nofun
  | some command =>
    simp only [Option.some.injEq, exists_eq_left', Option.bind_eq_bind, Option.bind_some]
    unfold SafeProcessData
    cases ProcessDataCommands.ofByte command with
    | technicalCapabilities => exact technicalCapabilities_isSome
    | deviceDescriptor => exact iff_of_true deviceDescriptor_isSome trivial
    | value | setValueAndAcknowledge => exact valueCommand_isSome
    | acknowledge => exact processDataAcknowledge_isSome
    | measurementTimeInterval | measurementDistanceInterval | measurementMinimumWithinThreshold
    | measurementMaximumWithinThreshold | measurementChangeThreshold =>
      exact measurementCommand_isSome
    | clientTask => exact iff_of_true clientTask_isSome trivial
    | status | requestValue | peerControlAssignment | reserved | reserved2 =>
      exact iff_of_true rfl trivial

theorem workingSetMaster_isSome
    (hgroup : message.identifier.getParameterGroupNumber = WORKING_SET_MASTER) :
    (server.workingSetMaster config env message).isSome ↔
      (isAnnouncement message → message.source.isSome) := by
  unfold workingSetMaster
  by_cases hlength : message.data.length = CAN_DATA_LENGTH
  · have height : message.data.length = 8 := hlength
    obtain ⟨members, hmembers⟩ : ∃ members, message.data[0]? = some members :=
      ⟨_, getElem?_of_lt (by omega)⟩
    have hannounced : isAnnouncement message = decide (1 ≤ members) := by
      simp [isAnnouncement, hgroup, hlength, hmembers]
    rw [if_pos hlength, hmembers, hannounced, decide_eq_true_eq]
    by_cases hone : 1 ≤ members
    · rw [forall_prop_of_true hone]
      cases hclient : server.getActiveClient env.world message.source with
      | none =>
        simp only [Option.bind_eq_bind, Option.bind_some, if_pos hone]
        exact isSome_bind_iff fun _ _ => rfl
      | some client =>
        simp only [Option.bind_eq_bind, Option.bind_some, if_pos hone]
        exact iff_of_true rfl (source_isSome_of_getActiveClient hclient)
    · simp only [Option.bind_eq_bind, Option.bind_some, if_neg hone]
      exact iff_of_true rfl fun h => absurd h hone
  · have hannounced : isAnnouncement message = false := by simp [isAnnouncement, hlength]
    rw [if_neg hlength, hannounced]
    exact iff_of_true rfl fun h => absurd h Bool.false_ne_true

theorem processRxMessage_isSome :
    (server.processRxMessage config env application message).isSome ↔
      SafeMessage env.world server message := by
  unfold processRxMessage SafeMessage
  by_cases hprocess : message.identifier.getParameterGroupNumber = PROCESS_DATA
  · have hannounced : isAnnouncement message = false := by
      simp [isAnnouncement, hprocess, PROCESS_DATA, WORKING_SET_MASTER]
    rw [if_pos hprocess, processData_isSome, hannounced]
    simp [hprocess]
  · rw [if_neg hprocess]
    by_cases hmaster : message.identifier.getParameterGroupNumber = WORKING_SET_MASTER
    · rw [if_pos hmaster, workingSetMaster_isSome hmaster]
      simp [hprocess]
    · have hannounced : isAnnouncement message = false := by simp [isAnnouncement, hmaster]
      rw [if_neg hmaster, hannounced]
      simp [hprocess]

theorem processRxMessages_isSome {messages : List CANMessage} :
    (server.processRxMessages config env messages k).isSome ↔
      SafeMessages config env server messages k := by
  induction messages generalizing server k with
  | nil => exact iff_of_true rfl trivial
  | cons message rest ih =>
    have hfirst : (server.processRxMessage config env (env.application k) message).isSome ↔
        SafeMessage env.world server message := processRxMessage_isSome
    rw [processRxMessages, SafeMessages, ← hfirst]
    cases server.processRxMessage config env (env.application k) message with
    | none => exact iff_of_false Bool.false_ne_true fun h => Bool.false_ne_true h.1
    | some first =>
      simp only [Option.bind_eq_bind, Option.bind_some, Option.some.injEq, forall_eq',
        Option.isSome_some, true_and]
      rw [← ih]
      exact isSome_bind_iff fun _ _ => rfl

def Populated (clients : List Tracked) : Prop := ∀ entry ∈ clients, entry.1 ≠ none

theorem populated_trackMessage {clients : List Tracked} (h : Populated clients)
    (hsafe : isAnnouncement message → message.source.isSome) :
    Populated (trackMessage env clients message) := by
  unfold trackMessage
  split_ifs with htask haccepted
  · intro entry hmem
    obtain ⟨entry', hmem', rfl⟩ := List.mem_map.mp hmem
    unfold heardAt
    split_ifs
    · exact h entry' hmem'
    · exact h entry' hmem'
  · intro entry hmem
    rcases List.mem_append.mp hmem with hmem | hmem
    · exact h entry hmem
    · rw [List.mem_singleton.mp hmem]
      rw [isAccepted, Bool.and_eq_true] at haccepted
      exact Option.isSome_iff_ne_none.mp (hsafe haccepted.1)
  · exact h

theorem populated_processRxMessages {messages : List CANMessage} (h : Populated server.tracked)
    (hr : server.processRxMessages config env messages k = some r) :
    Populated r.1.tracked := by
  induction messages generalizing server k r with
  | nil =>
    cases hr
    exact h
  | cons message rest ih =>
    obtain ⟨first, hfirst, hr⟩ := Option.bind_eq_some_iff.mp hr
    obtain ⟨others, hothers, hr⟩ := Option.bind_eq_some_iff.mp hr
    have hsafe := processRxMessage_isSome.mp (Option.isSome_of_eq_some hfirst)
    have hstep : Populated first.1.tracked := by
      rw [tracked_processRxMessage hfirst]
      exact populated_trackMessage h hsafe.2
    have hrest := ih hstep hothers
    cases hr
    exact hrest

theorem update_isSome (h : Populated server.tracked) :
    (server.update config env).isSome ↔
      SafeMessages config env { server with rxMessageQueue := [] }
        server.rxMessageQueue 0 := by
  rw [← processRxMessages_isSome]
  refine isSome_bind_iff (fun processed hprocessed => ?_)
  have hstart : Populated ({ server with rxMessageQueue := [] } : TaskControllerServer).tracked := h
  have hpopulated := populated_processRxMessages hstart hprocessed
  have htracked : (processed.1.updateStatus config env).1.tracked = processed.1.tracked :=
    tracked_updateStatus
  rw [← htracked] at hpopulated
  refine isSome_bind (removeTimedOut_isSome _ fun client hclient => ?_) fun _ _ => rfl
  exact hpopulated client.tracked (List.mem_map_of_mem hclient)

theorem populated_update (h : Populated server.tracked) (hr : server.update config env = some r) :
    Populated r.1.tracked := by
  have htracked := tracked_update hr
  obtain ⟨processed, hprocessed, -⟩ := Option.bind_eq_some_iff.mp hr
  have hstart : Populated ({ server with rxMessageQueue := [] } : TaskControllerServer).tracked := h
  have hpopulated := populated_processRxMessages hstart hprocessed
  rw [tracked_processRxMessages hprocessed] at hpopulated
  rw [htracked]
  exact fun entry hmem => hpopulated entry (List.mem_filter.mp hmem).1

def SafeCall (config : ServerConfiguration) :
    Option TaskControllerServer → ServerInput → Prop
  | some server, input => input.call = .update →
      SafeMessages config input.env { server with rxMessageQueue := [] }
        server.rxMessageQueue 0
  | none, _ => True

theorem serve_isSome {input : ServerInput} (h : Populated server.tracked) :
    (server.serve config input).isSome ↔ SafeCall config (some server) input := by
  unfold serve SafeCall
  cases hcall : input.call with
  | update =>
    dsimp only
    rw [forall_prop_of_true hcall]
    exact update_isSome h
  | storeRxMessage message => exact iff_of_true rfl fun h => by simp [hcall] at h
  | setTaskTotalsActive isTaskActive => exact iff_of_true rfl fun h => by simp [hcall] at h
  | setCommandBusy isBusy clientAddress commandByte =>
    exact iff_of_true rfl fun h => by simp [hcall] at h

theorem populated_serve {input : ServerInput} (h : Populated server.tracked)
    (hr : server.serve config input = some r) :
    Populated r.1.tracked := by
  unfold serve at hr
  split at hr
  · cases hr
    exact h
  · exact populated_update h hr
  · rw [← Option.some.inj hr, tracked_setTaskTotalsActive]
    exact h
  · rw [← Option.some.inj hr, tracked_setCommandBusy]
    exact h

theorem run_none (config : ServerConfiguration) (inputs : List ServerInput) :
    (taskControllerServer config).run none inputs = none :=
  (taskControllerServer config).run_invariant (P := fun state => state = none)
    (fun _ _ h => by rw [h]; rfl) rfl inputs

theorem run_isSome {inputs : List ServerInput} (h : Populated server.tracked) :
    ((taskControllerServer config).run (some server) inputs).isSome ↔
      (taskControllerServer config).Along (SafeCall config) (some server) inputs := by
  induction inputs generalizing server with
  | nil => exact iff_of_true rfl trivial
  | cons input rest ih =>
    rw [Machine.run_cons, Machine.Along, ← serve_isSome h]
    cases hr : server.serve config input with
    | none =>
      have hnext : (taskControllerServer config).next (some server) input = none := by
        simp [Machine.next, taskControllerServer, hr]
      rw [hnext, run_none]
      exact iff_of_false Bool.false_ne_true fun h => Bool.false_ne_true h.1
    | some r =>
      have hnext : (taskControllerServer config).next (some server) input =
          some r.1 := by
        simp [Machine.next, taskControllerServer, hr]
      rw [hnext, ih (populated_serve h hr)]
      simp

end TaskControllerServer

open TaskControllerServer

/-- No call of the server is aborted exactly if every update finds a queue that it survives. -/
theorem serves_along_iff (config : ServerConfiguration) (inputs : List ServerInput) :
    ((taskControllerServer config).run (some {}) inputs).isSome ↔
      (taskControllerServer config).Along (SafeCall config) (some {}) inputs :=
  run_isSome nofun

/-- A version from somebody who never announced itself. -/
def strangersVersion : List ServerInput :=
  [receive 0 0 0x94CBFF80 0x10, momentAt 0 .update].map fun moment => ⟨moment.env 0, moment.call⟩

theorem strangersVersion_not_served :
    ((taskControllerServer plainServer).run (some {}) strangersVersion).isSome = false := by
  decide +kernel

end Isobus.TaskController
