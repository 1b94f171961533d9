import Isobus.TaskController.Server

/-!
# What becomes of the clients

How long the server keeps a client depends on its control function and the time of its last status
message, which an announcement, a client task message and the time out change.
-/

namespace Isobus.TaskController

open Isobus.Can Isobus.Lib

abbrev Tracked := Option CFRef × UInt32

def ActiveClient.tracked (client : ActiveClient) : Tracked :=
  (client.clientControlFunction, client.lastStatusMessageTimestamp)

namespace TaskControllerServer

def tracked (server : TaskControllerServer) : List Tracked :=
  server.activeClients.map ActiveClient.tracked

def sameClient (world : World) (a b : Option CFRef) : Bool :=
  match a, b with
  | some a, some b => (world a).controlFunctionNAME = (world b).controlFunctionNAME &&
      (world a).canPortIndex = (world b).canPortIndex
  | _, _ => false

variable {config : ServerConfiguration} {env : ServerEnvironment}
variable {application : Application} {message : CANMessage} {command : UInt8}
variable {server : TaskControllerServer} {world : World}

theorem getActiveClient_isSome (client : Option CFRef) :
    (server.getActiveClient world client).isSome =
      server.tracked.any fun entry => sameClient world entry.1 client := by
  rw [getActiveClient, tracked, List.any_map, List.isSome_find?]
  rfl

theorem tracked_alterClient (client : Option CFRef) {f : ActiveClient → ActiveClient}
    (hf : ∀ a, (f a).tracked = a.tracked) :
    (server.alterClient world client f).tracked = server.tracked := by
  rw [alterClient, tracked, tracked]
  dsimp only
  induction server.activeClients with
  | nil => rfl
  | cons a rest ih =>
    rw [List.replaceF]
    by_cases ha : isClient world client a = true
    · simp [ha, hf]
    · simp [ha, ih]

@[simp] theorem tracked_setCommandBusy (isBusy : Bool) (clientAddress commandByte : UInt8) :
    (server.setCommandBusy isBusy clientAddress commandByte).tracked = server.tracked := by
  cases isBusy <;> rfl

@[simp] theorem tracked_setTaskTotalsActive (isTaskActive : Bool) :
    (server.setTaskTotalsActive isTaskActive).tracked = server.tracked := by
  unfold setTaskTotalsActive
  split_ifs <;> rfl

def KeepsTracked (server : TaskControllerServer) (outcome : Outcome) : Prop :=
  ∀ r, outcome = some r → r.1.tracked = server.tracked

theorem keepsTracked_some {server' : TaskControllerServer} {events : List ServerEvent}
    (h : server'.tracked = server.tracked) : KeepsTracked server (some (server', events)) := by
  intro r hr
  cases hr
  exact h

theorem keepsTracked_bind {α : Type} {o : Option α} {f : α → Outcome}
    (h : ∀ a, o = some a → KeepsTracked server (f a)) : KeepsTracked server (o >>= f) := by
  intro r hr
  obtain ⟨a, ha, hr⟩ := Option.bind_eq_some_iff.mp hr
  exact h a ha r hr

theorem keepsTracked_ite {p : Prop} [Decidable p] {outcome outcome' : Outcome}
    (h : KeepsTracked server outcome) (h' : KeepsTracked server outcome') :
    KeepsTracked server (if p then outcome else outcome') := by
  split_ifs
  · exact h
  · exact h'

theorem keepsTracked_technicalCapabilities :
    KeepsTracked server (server.technicalCapabilities config env command message) := by
  unfold technicalCapabilities
  split
  · exact keepsTracked_ite (keepsTracked_some rfl) (keepsTracked_some rfl)
  · refine keepsTracked_ite ?_ (keepsTracked_some rfl)
    refine keepsTracked_bind fun version _ => keepsTracked_bind fun _ _ =>
      keepsTracked_bind fun source _ => keepsTracked_some ?_
    exact tracked_alterClient _ fun _ => rfl
  · exact keepsTracked_bind fun source _ =>
      keepsTracked_ite (keepsTracked_some rfl) (keepsTracked_some rfl)
  · exact keepsTracked_some rfl

theorem tracked_setDDOPActive (source : CFRef) (active : Bool) :
    (server.setDDOPActive env source active).tracked = server.tracked :=
  tracked_alterClient _ fun _ => rfl

theorem tracked_objectPoolActivate (source : CFRef) :
    (server.objectPoolActivate config env application source).1.tracked =
      server.tracked := by
  unfold objectPoolActivate
  split
  · exact tracked_setDDOPActive source true
  · rfl

theorem tracked_objectPoolDeactivate (source : CFRef) :
    (server.objectPoolDeactivate config env application source).1.tracked =
      server.tracked := by
  unfold objectPoolDeactivate
  split_ifs
  · exact tracked_setDDOPActive source false
  · rfl

theorem keepsTracked_objectPoolActivateDeactivate (source : CFRef) :
    KeepsTracked server (server.objectPoolActivateDeactivate config env application source
      command message) := by
  refine keepsTracked_bind fun request _ => keepsTracked_some ?_
  rw [tracked_setCommandBusy]
  split_ifs
  · rw [tracked_objectPoolActivate, tracked_setCommandBusy]
  · rw [tracked_objectPoolDeactivate, tracked_setCommandBusy]
  · exact tracked_setCommandBusy ..

theorem keepsTracked_clientDeviceDescriptor {source : CFRef} {client : ActiveClient}
    (parameter : DeviceDescriptorCommandParameters) :
    KeepsTracked server (server.clientDeviceDescriptor config env application source client
      command message parameter) := by
  cases parameter with
  | requestStructureLabel =>
    exact keepsTracked_bind fun _ _ => keepsTracked_bind fun _ _ =>
      keepsTracked_ite (keepsTracked_some rfl) (keepsTracked_some rfl)
  | requestLocalizationLabel =>
    exact keepsTracked_bind fun _ _ =>
      keepsTracked_ite (keepsTracked_some rfl) (keepsTracked_some rfl)
  | requestObjectPoolTransfer =>
    exact keepsTracked_bind fun _ _ =>
      keepsTracked_ite (keepsTracked_some (tracked_alterClient _ fun _ => rfl))
        (keepsTracked_some rfl)
  | objectPoolTransfer =>
    refine keepsTracked_some ?_
    rw [tracked_setCommandBusy, tracked_setCommandBusy]
  | objectPoolActivateDeactivate => exact keepsTracked_objectPoolActivateDeactivate source
  | deleteObjectPool =>
    change KeepsTracked server (server.deleteObjectPool config env application source)
    unfold deleteObjectPool
    split <;> exact keepsTracked_some rfl
  | changeDesignator =>
    refine keepsTracked_ite ?_ (keepsTracked_some rfl)
    exact keepsTracked_bind fun _ _ => keepsTracked_bind fun _ _ => keepsTracked_some rfl
  | _ => exact keepsTracked_some rfl

theorem keepsTracked_deviceDescriptor :
    KeepsTracked server
        (server.deviceDescriptor config env application command message) := by
  unfold deviceDescriptor
  split
  · refine keepsTracked_ite ?_ (keepsTracked_some rfl)
    split
    · exact keepsTracked_clientDeviceDescriptor _
    · exact keepsTracked_some rfl
  · exact keepsTracked_some rfl

theorem keepsTracked_valueCommand :
    KeepsTracked server (server.valueCommand config env application command message) := by
  unfold valueCommand
  split
  · exact keepsTracked_some rfl
  · refine keepsTracked_ite ?_ (keepsTracked_some rfl)
    refine keepsTracked_bind fun _ _ => keepsTracked_bind fun _ _ => keepsTracked_bind fun _ _ =>
      keepsTracked_bind fun _ _ => ?_
    split
    · exact keepsTracked_ite (keepsTracked_some rfl) (keepsTracked_some rfl)
    · exact keepsTracked_some rfl

theorem keepsTracked_processDataAcknowledge :
    KeepsTracked server (server.processDataAcknowledge config env command message) := by
  unfold processDataAcknowledge
  split
  · exact keepsTracked_some rfl
  · exact keepsTracked_bind fun _ _ => keepsTracked_bind fun _ _ => keepsTracked_bind fun _ _ =>
      keepsTracked_ite (keepsTracked_bind fun _ _ => keepsTracked_some rfl) (keepsTracked_some rfl)

theorem keepsTracked_measurementCommand :
    KeepsTracked server (server.measurementCommand config env command message) :=
  keepsTracked_ite
    (keepsTracked_bind fun _ _ => keepsTracked_bind fun _ _ => keepsTracked_bind fun _ _ =>
      keepsTracked_some rfl)
    (keepsTracked_bind fun _ _ => keepsTracked_some rfl)

def isClientTask (message : CANMessage) : Bool :=
  message.identifier.getParameterGroupNumber = PROCESS_DATA &&
    message.data.length = CAN_DATA_LENGTH &&
    message.data[0]?.any fun command => ProcessDataCommands.ofByte command = .clientTask

/-- A working set master message of eight bytes, with at least one member. -/
def isAnnouncement (message : CANMessage) : Bool :=
  message.identifier.getParameterGroupNumber = WORKING_SET_MASTER &&
    message.data.length = CAN_DATA_LENGTH &&
    message.data[0]?.any fun numberOfWorkingSetMembers => 1 ≤ numberOfWorkingSetMembers

def isKnown (world : World) (clients : List Tracked) (source : Option CFRef) : Bool :=
  clients.any fun entry => sameClient world entry.1 source

def isAccepted (world : World) (clients : List Tracked) (message : CANMessage) : Bool :=
  isAnnouncement message && !isKnown world clients message.source

def heardAt (now : UInt32) (source : Option CFRef) (entry : Tracked) : Tracked :=
  if entry.1 = source then (entry.1, now) else entry

def trackMessage (env : ServerEnvironment) (clients : List Tracked) (message : CANMessage) :
    List Tracked :=
  if isClientTask message then clients.map (heardAt env.now message.source)
  else if isAccepted env.world clients message then clients ++ [(message.source, env.now)]
  else clients

theorem trackMessage_of_ne {clients : List Tracked} (htask : isClientTask message = false)
    (hannounced : isAnnouncement message = false) : trackMessage env clients message = clients := by
  simp [trackMessage, isAccepted, htask, hannounced]

variable {r : TaskControllerServer × List ServerEvent}

theorem tracked_clientTask (hlength : message.data.length = CAN_DATA_LENGTH)
    (h : server.clientTask env message = some r) :
    r.1.tracked = server.tracked.map (heardAt env.now message.source) := by
  rw [clientTask, if_pos hlength] at h
  obtain ⟨status, -, h⟩ := Option.bind_eq_some_iff.mp h
  cases h
  simp only [tracked, List.map_map]
  refine List.map_congr_left fun client _ => ?_
  by_cases hsource : client.clientControlFunction = message.source
  · simp [heardAt, ActiveClient.tracked, hsource]
  · simp [heardAt, ActiveClient.tracked, hsource]

theorem tracked_processData (hgroup : message.identifier.getParameterGroupNumber = PROCESS_DATA)
    (h : server.processData config env application message = some r) :
    r.1.tracked = trackMessage env server.tracked message := by
  have hannounced : isAnnouncement message = false := by
    simp [isAnnouncement, hgroup, PROCESS_DATA, WORKING_SET_MASTER]
  obtain ⟨command, hcommand, h⟩ := Option.bind_eq_some_iff.mp h
  have htask : isClientTask message = (decide (message.data.length = CAN_DATA_LENGTH) &&
      decide (ProcessDataCommands.ofByte command = .clientTask)) := by
    simp [isClientTask, hgroup, hcommand]
  by_cases hclientTask : ProcessDataCommands.ofByte command = .clientTask
  · rw [hclientTask] at h
    by_cases hlength : message.data.length = CAN_DATA_LENGTH
    · rw [tracked_clientTask hlength h, trackMessage, htask, decide_eq_true hlength,
        decide_eq_true hclientTask]
      rfl
    · have hsome : server.clientTask env message = some r := h
      rw [clientTask, if_neg hlength] at hsome
      rw [trackMessage_of_ne (by rw [htask, decide_eq_false hlength, Bool.false_and]) hannounced,
        ← Option.some.inj hsome]
  · rw [trackMessage_of_ne (by rw [htask, decide_eq_false hclientTask, Bool.and_false]) hannounced]
    cases hname : ProcessDataCommands.ofByte command with
    | technicalCapabilities =>
      rw [hname] at h
      exact keepsTracked_technicalCapabilities r h
    | deviceDescriptor =>
      rw [hname] at h
      exact keepsTracked_deviceDescriptor r h
    | value | setValueAndAcknowledge =>
      rw [hname] at h
      exact keepsTracked_valueCommand r h
    | acknowledge =>
      rw [hname] at h
      exact keepsTracked_processDataAcknowledge r h
    | measurementTimeInterval | measurementDistanceInterval | measurementMinimumWithinThreshold
    | measurementMaximumWithinThreshold | measurementChangeThreshold =>
      rw [hname] at h
      exact keepsTracked_measurementCommand r h
    | clientTask => exact absurd hname hclientTask
    | status | requestValue | peerControlAssignment | reserved | reserved2 =>
      rw [hname] at h
      exact keepsTracked_some rfl r h

theorem tracked_workingSetMaster
    (hgroup : message.identifier.getParameterGroupNumber = WORKING_SET_MASTER)
    (h : server.workingSetMaster config env message = some r) :
    r.1.tracked = trackMessage env server.tracked message := by
  have htask : isClientTask message = false := by
    simp [isClientTask, hgroup, PROCESS_DATA, WORKING_SET_MASTER]
  have hknown : isKnown env.world server.tracked message.source =
      (server.getActiveClient env.world message.source).isSome :=
    (getActiveClient_isSome message.source).symm
  unfold workingSetMaster at h
  split_ifs at h with hlength
  · obtain ⟨members, hmembers, h⟩ := Option.bind_eq_some_iff.mp h
    have hannounced : isAnnouncement message = decide (1 ≤ members) := by
      simp [isAnnouncement, hgroup, hlength, hmembers]
    by_cases hone : 1 ≤ members
    · rw [if_pos hone] at h
      cases hclient : server.getActiveClient env.world message.source with
      | some client =>
        rw [hclient] at h
        rw [← Option.some.inj h, trackMessage, htask, isAccepted, hknown, hclient]
        simp
      | none =>
        rw [hclient] at h
        obtain ⟨source, -, h⟩ := Option.bind_eq_some_iff.mp h
        rw [← Option.some.inj h, trackMessage, htask, isAccepted, hknown, hclient, hannounced,
          decide_eq_true hone]
        simp [tracked, ActiveClient.tracked]
    · rw [if_neg hone] at h
      rw [← Option.some.inj h, trackMessage_of_ne htask (by simp [hannounced, hone])]
  · have hannounced : isAnnouncement message = false := by simp [isAnnouncement, hlength]
    rw [← Option.some.inj h, trackMessage_of_ne htask hannounced]

theorem tracked_processRxMessage
    (h : server.processRxMessage config env application message = some r) :
    r.1.tracked = trackMessage env server.tracked message := by
  unfold processRxMessage at h
  split_ifs at h with hprocess hmaster
  · exact tracked_processData hprocess h
  · exact tracked_workingSetMaster hmaster h
  · have htask : isClientTask message = false := by simp [isClientTask, hprocess]
    have hannounced : isAnnouncement message = false := by simp [isAnnouncement, hmaster]
    rw [← Option.some.inj h, trackMessage_of_ne htask hannounced]

theorem tracked_processRxMessages {messages : List CANMessage} {k : Nat}
    (h : server.processRxMessages config env messages k = some r) :
    r.1.tracked = messages.foldl (trackMessage env) server.tracked := by
  induction messages generalizing server k r with
  | nil => rw [← Option.some.inj h]; rfl
  | cons message rest ih =>
    obtain ⟨first, hfirst, h⟩ := Option.bind_eq_some_iff.mp h
    obtain ⟨others, hothers, h⟩ := Option.bind_eq_some_iff.mp h
    have htracked := ih hothers
    rw [← Option.some.inj h, List.foldl_cons, ← tracked_processRxMessage hfirst]
    exact htracked

def isTimedOut (now : UInt32) (entry : Tracked) : Bool := now - entry.2 ≥ CLIENT_TASK_TIMEOUT_MS

theorem removeTimedOut_cons_of_alive {client : ActiveClient} {rest : List ActiveClient}
    (halive : isTimedOut env.now client.tracked = false) :
    server.removeTimedOut env (client :: rest) =
      (server.removeTimedOut env rest).map fun others => (client :: others.1, others.2) := by
  rw [removeTimedOut, if_neg (by simpa [isTimedOut, ActiveClient.tracked] using halive)]
  cases server.removeTimedOut env rest <;> rfl

theorem tracked_removeTimedOut {clients : List ActiveClient}
    {r : List ActiveClient × TaskControllerServer × List ServerEvent}
    (h : server.removeTimedOut env clients = some r) :
    r.1.map ActiveClient.tracked =
      (clients.map ActiveClient.tracked).filter fun entry => !isTimedOut env.now entry := by
  induction clients generalizing server r with
  | nil =>
    cases h
    rfl
  | cons client rest ih =>
    by_cases hexpired : isTimedOut env.now client.tracked = true
    · rw [removeTimedOut, if_pos (by simpa [isTimedOut, ActiveClient.tracked] using hexpired)]
        at h
      simp only [Option.bind_eq_bind, Option.bind_eq_some_iff] at h
      obtain ⟨c, -, others, hothers, h⟩ := h
      have hleft := ih hothers
      cases h
      simp [hleft, hexpired]
    · rw [Bool.not_eq_true] at hexpired
      rw [removeTimedOut_cons_of_alive hexpired] at h
      obtain ⟨others, hothers, rfl⟩ := Option.map_eq_some_iff.mp h
      have hleft := ih hothers
      simp [hleft, hexpired]

theorem removeTimedOut_isSome (clients : List ActiveClient)
    (hknown : ∀ client ∈ clients, client.clientControlFunction ≠ none) :
    (server.removeTimedOut env clients).isSome := by
  induction clients generalizing server with
  | nil => rfl
  | cons client rest ih =>
    have hrest : ∀ server' : TaskControllerServer, (server'.removeTimedOut env rest).isSome :=
      fun _ => ih fun client' hmem => hknown client' (List.mem_cons_of_mem _ hmem)
    by_cases hexpired : isTimedOut env.now client.tracked = true
    · obtain ⟨c, hc⟩ := Option.ne_none_iff_exists'.mp (hknown client List.mem_cons_self)
      rw [removeTimedOut, if_pos (by simpa [isTimedOut, ActiveClient.tracked] using hexpired), hc]
      obtain ⟨others, hothers⟩ := Option.isSome_iff_exists.mp (hrest
        (if server.currentCommandSourceAddress = (env.world c).address then
          server.setCommandBusy false 0 0 else server))
      change ((removeTimedOut env _ rest).bind _).isSome = true
      rw [hothers]
      rfl
    · rw [removeTimedOut_cons_of_alive (by simpa using hexpired), Option.isSome_map]
      exact hrest server

theorem tracked_updateStatus :
    (server.updateStatus config env).1.tracked = server.tracked := by
  unfold updateStatus
  dsimp only
  by_cases hpending : server.statusUpdatePending = true
  · rw [hpending, if_pos rfl]
    split_ifs <;> rfl
  · rw [Bool.not_eq_true] at hpending
    rw [hpending, if_neg Bool.false_ne_true]
    split_ifs <;> rfl

theorem tracked_update (h : server.update config env = some r) :
    r.1.tracked = (server.rxMessageQueue.foldl (trackMessage env) server.tracked).filter
      fun entry => !isTimedOut env.now entry := by
  simp only [update, Option.bind_eq_bind, Option.bind_eq_some_iff] at h
  obtain ⟨processed, hprocessed, removed, hremoved, h⟩ := h
  have htracked := tracked_processRxMessages hprocessed
  have hleft := tracked_removeTimedOut hremoved
  have hstatus : (processed.1.updateStatus config env).1.activeClients.map
      ActiveClient.tracked = processed.1.tracked := tracked_updateStatus
  rw [hstatus, htracked] at hleft
  cases h
  exact hleft

end TaskControllerServer

end Isobus.TaskController
