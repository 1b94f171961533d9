import Isobus.TaskController.Server
import Isobus.Lib.Tracking

/-!
# What one message leaves

A message leaves the status alone, unless it is about the object pool of a client that keeps the
server busy; it never counts segments, and no answer to it is a status message.
-/

namespace Isobus.TaskController

open Isobus.Can Isobus.Lib

/-- What the server tells about itself, and whether it has yet to. -/
structure Status where
  currentStatusByte : UInt8
  currentCommandSourceAddress : UInt8
  currentCommandByte : UInt8
  updatePending : Bool
  lastMessageTimestamp : UInt32
  deriving DecidableEq

def Status.setCommandBusy (isBusy : Bool) (clientAddress commandByte : UInt8) (status : Status) :
    Status :=
  { status with
    currentStatusByte := if isBusy then status.currentStatusByte ||| 0x08
      else status.currentStatusByte &&& ~~~0x08
    currentCommandSourceAddress := if isBusy then clientAddress else 0
    currentCommandByte := if isBusy then commandByte else 0
    updatePending := true }

/-- A status message: process data whose first byte says so. -/
def ServerEvent.IsStatus : ServerEvent → Prop
  | .message frame _ => frame.parameterGroupNumber = PROCESS_DATA ∧ frame.data.head? = some 0xFE
  | _ => False

instance : DecidablePred ServerEvent.IsStatus := fun event => by
  cases event <;> unfold ServerEvent.IsStatus <;> infer_instance

namespace TaskControllerServer

def status (server : TaskControllerServer) : Status where
  currentStatusByte := server.currentStatusByte
  currentCommandSourceAddress := server.currentCommandSourceAddress
  currentCommandByte := server.currentCommandByte
  updatePending := server.statusUpdatePending
  lastMessageTimestamp := server.lastStatusMessageTimestamp

def Unsegmented (server : TaskControllerServer) : Prop :=
  ∀ client ∈ server.activeClients, client.numberOfObjectPoolSegments = 0

variable {config : ServerConfiguration} {env : ServerEnvironment}
variable {application : Application} {message : CANMessage} {command : UInt8}
variable {server : TaskControllerServer} {world : World}

@[simp] theorem status_setCommandBusy (isBusy : Bool) (clientAddress commandByte : UInt8) :
    (server.setCommandBusy isBusy clientAddress commandByte).status =
      server.status.setCommandBusy isBusy clientAddress commandByte := by
  cases isBusy <;> rfl

@[simp] theorem status_alterClient (client : Option CFRef) (f : ActiveClient → ActiveClient) :
    (server.alterClient world client f).status = server.status := rfl

theorem Unsegmented.setCommandBusy (h : server.Unsegmented) (isBusy : Bool)
    (clientAddress commandByte : UInt8) :
    (server.setCommandBusy isBusy clientAddress commandByte).Unsegmented := by
  cases isBusy with
  | true => exact h
  | false => exact h

theorem Unsegmented.alterClient (h : server.Unsegmented) (client : Option CFRef)
    {f : ActiveClient → ActiveClient}
    (hf : ∀ a, (f a).numberOfObjectPoolSegments = a.numberOfObjectPoolSegments) :
    (server.alterClient world client f).Unsegmented := by
  unfold TaskControllerServer.alterClient Unsegmented at *
  dsimp only
  generalize server.activeClients = clients at h
  induction clients with
  | nil => exact h
  | cons a rest ih =>
    rw [List.replaceF]
    by_cases ha : isClient world client a = true
    · simp only [ha, ↓reduceIte, List.forall_mem_cons, hf] at h ⊢
      exact h
    · simp only [ha, Bool.false_eq_true, ↓reduceIte, List.forall_mem_cons] at h ⊢
      exact ⟨h.1, ih h.2⟩

def Leaves (server : TaskControllerServer) (status : Status) (outcome : Outcome) : Prop :=
  ∀ r, outcome = some r → r.1.status = status ∧ (server.Unsegmented → r.1.Unsegmented) ∧
    ∀ e ∈ r.2, ¬e.IsStatus

variable {status : Status}

theorem leaves_some {server' : TaskControllerServer} {events : List ServerEvent}
    (hstatus : server'.status = status) (hsegments : server.Unsegmented → server'.Unsegmented)
    (hevents : ∀ e ∈ events, ¬e.IsStatus) : Leaves server status (some (server', events)) := by
  intro r hr
  cases hr
  exact ⟨hstatus, hsegments, hevents⟩

theorem leaves_self {events : List ServerEvent} (hevents : ∀ e ∈ events, ¬e.IsStatus) :
    Leaves server server.status (some (server, events)) :=
  leaves_some rfl id hevents

theorem leaves_nothing : Leaves server server.status (some (server, [])) :=
  leaves_self (List.forall_mem_nil _)

theorem leaves_bind {α : Type} {o : Option α} {f : α → Outcome}
    (h : ∀ a, o = some a → Leaves server status (f a)) : Leaves server status (o >>= f) := by
  intro r hr
  obtain ⟨a, ha, hr⟩ := Option.bind_eq_some_iff.mp hr
  exact h a ha r hr

theorem leaves_ite {p : Prop} [Decidable p] {outcome outcome' : Outcome}
    (h : Leaves server status outcome) (h' : Leaves server status outcome') :
    Leaves server status (if p then outcome else outcome') := by
  split_ifs
  · exact h
  · exact h'

variable {client : Option CFRef} {source : CFRef}

theorem not_isStatus_send {first : UInt8} {data : List UInt8} {priority : UInt32}
    (h : first ≠ 0xFE) :
    ∀ e ∈ sendProcessDataToClient config env client (first :: data) priority,
      ¬e.IsStatus := by
  intro e he
  rw [List.mem_singleton.mp he]
  exact fun hstatus => h (Option.some.inj hstatus.2)

theorem not_isStatus_respond {first : UInt8} {data : List UInt8} {priority : UInt32}
    (h : first ≠ 0xFE) :
    ∀ e ∈ respond config env client (first :: data) priority, ¬e.IsStatus := by
  cases client with
  | none => exact List.forall_mem_nil _
  | some c => exact not_isStatus_send h

theorem not_isStatus_nack (client : Option CFRef) :
    ∀ e ∈ nackProcessDataCommand config env client, ¬e.IsStatus := by
  cases client with
  | none => exact List.forall_mem_nil _
  | some c =>
    intro e he
    rw [List.mem_singleton.mp he]
    exact fun hstatus => absurd hstatus.1 (by decide : ACKNOWLEDGE ≠ PROCESS_DATA)

theorem leaves_technicalCapabilities :
    Leaves server server.status
      (server.technicalCapabilities config env command message) := by
  unfold technicalCapabilities
  split
  · refine leaves_ite (leaves_self ?_) leaves_nothing
    exact forall_mem_append (not_isStatus_send (by decide)) (not_isStatus_send (by decide))
  · refine leaves_ite ?_ leaves_nothing
    refine leaves_bind fun version _ => leaves_bind fun _ _ => leaves_bind fun source _ =>
      leaves_some (status_alterClient _ _) (fun h => h.alterClient _ fun _ => rfl) ?_
    intro e he
    rw [List.mem_singleton.mp he]
    exact id
  · rename_i hparameter
    have hcommand : command ≠ 0xFE := by
      rintro rfl
      cases hparameter
    have hidentify : ∀ number, ∀ e ∈ [ServerEvent.identifyTaskController number],
        ¬e.IsStatus := by
      intro number e he
      rw [List.mem_singleton.mp he]
      exact id
    refine leaves_bind fun source _ => leaves_ite (leaves_self ?_) (leaves_self (hidentify _))
    exact forall_mem_append (not_isStatus_send hcommand) (hidentify _)
  · exact leaves_nothing

theorem leaves_setDDOPActive (source : CFRef) (active : Bool)
    (h : server.Unsegmented) : (server.setDDOPActive env source active).Unsegmented :=
  h.alterClient _ fun _ => rfl

theorem leaves_objectPoolTransfer {client : ActiveClient} :
    Leaves server ((server.status.setCommandBusy true (env.world source).address
        command).setCommandBusy false 0 0)
      (server.objectPoolTransfer config env application source client command message) := by
  refine leaves_some ?_ (fun h => (h.setCommandBusy _ _ _).setCommandBusy _ _ _) ?_
  · rw [status_setCommandBusy, status_setCommandBusy]
  · exact not_isStatus_respond (by decide)

theorem not_isStatus_activateDeactivateResponse
    {activationErrorBitfield objectPoolErrorBitfield : UInt8}
    {parentOfFaultingObject faultingObject : UInt16} :
    ∀ e ∈ sendObjectPoolActivateDeactivateResponse config env client
      activationErrorBitfield objectPoolErrorBitfield parentOfFaultingObject faultingObject,
      ¬e.IsStatus :=
  not_isStatus_respond (by decide)

theorem leaves_objectPoolActivate :
    Leaves server server.status
      (some (server.objectPoolActivate config env application source)) := by
  unfold objectPoolActivate
  split
  · exact leaves_some rfl (leaves_setDDOPActive source true)
      not_isStatus_activateDeactivateResponse
  · exact leaves_self not_isStatus_activateDeactivateResponse

theorem leaves_objectPoolDeactivate :
    Leaves server server.status
      (some (server.objectPoolDeactivate config env application source)) := by
  unfold objectPoolDeactivate
  split_ifs
  · exact leaves_some rfl (leaves_setDDOPActive source false)
      not_isStatus_activateDeactivateResponse
  · exact leaves_self not_isStatus_activateDeactivateResponse

theorem leaves_objectPoolActivateDeactivate :
    Leaves server ((server.status.setCommandBusy true (env.world source).address
        command).setCommandBusy false 0 0)
      (server.objectPoolActivateDeactivate config env application source command
        message) := by
  refine leaves_bind fun request _ => ?_
  have hanswer : ∀ busy : TaskControllerServer, Leaves busy busy.status (some
      (if request = 0xFF then busy.objectPoolActivate config env application source
        else if request = 0x00 then busy.objectPoolDeactivate config env application source
        else (busy, []))) := by
    intro busy
    split_ifs
    · exact leaves_objectPoolActivate
    · exact leaves_objectPoolDeactivate
    · exact leaves_nothing
  obtain ⟨hstatus, hsegments, hevents⟩ := hanswer _ _ rfl
  refine leaves_some ?_ (fun h => (hsegments (h.setCommandBusy _ _ _)).setCommandBusy _ _ _) hevents
  rw [status_setCommandBusy, hstatus, status_setCommandBusy]

theorem not_isStatus_acknowledge {dataDescriptionIndex elementNumber : UInt16}
    {errorBitfield commandByte : UInt8} :
    ∀ e ∈ sendProcessDataAcknowledge config env client dataDescriptionIndex elementNumber
      errorBitfield commandByte, ¬e.IsStatus := by
  refine not_isStatus_respond fun heq => ?_
  have hbit := congrArg (fun byte : UInt8 => byte.toBitVec.getLsbD 0) heq
  simp at hbit

theorem leaves_valueCommand :
    Leaves server server.status
      (server.valueCommand config env application command message) := by
  unfold valueCommand
  split
  · exact leaves_self (not_isStatus_nack _)
  · refine leaves_ite ?_ leaves_nothing
    refine leaves_bind fun _ _ => leaves_bind fun _ _ => leaves_bind fun _ _ =>
      leaves_bind fun _ _ => ?_
    split
    · exact leaves_ite (leaves_self not_isStatus_acknowledge) leaves_nothing
    · exact leaves_self not_isStatus_acknowledge

theorem leaves_processDataAcknowledge :
    Leaves server server.status
      (server.processDataAcknowledge config env command message) := by
  unfold processDataAcknowledge
  split
  · exact leaves_self (not_isStatus_nack _)
  · refine leaves_bind fun _ _ => leaves_bind fun _ _ => leaves_bind fun _ _ =>
      leaves_ite (leaves_bind fun _ _ => leaves_self ?_) (leaves_self not_isStatus_acknowledge)
    intro e he
    rw [List.mem_singleton.mp he]
    exact id

theorem leaves_measurementCommand :
    Leaves server server.status
      (server.measurementCommand config env command message) :=
  leaves_ite
    (leaves_bind fun _ _ => leaves_bind fun _ _ => leaves_bind fun _ _ =>
      leaves_self not_isStatus_acknowledge)
    (leaves_bind fun _ _ => leaves_nothing)

theorem leaves_clientTask :
    Leaves server server.status (server.clientTask env message) := by
  refine leaves_ite (leaves_bind fun status _ => leaves_some rfl ?_ (List.forall_mem_nil _))
    leaves_nothing
  intro h client hclient
  obtain ⟨earlier, hmem, rfl⟩ := List.mem_map.mp hclient
  split_ifs
  · exact h earlier hmem
  · exact h earlier hmem

theorem leaves_workingSetMaster :
    Leaves server server.status (server.workingSetMaster config env message) := by
  refine leaves_ite (leaves_bind fun members _ => leaves_ite ?_ leaves_nothing) leaves_nothing
  split
  · refine leaves_bind fun source _ => leaves_some rfl ?_ (not_isStatus_send (by decide))
    intro h client hclient
    rcases List.mem_append.mp hclient with hmem | hmem
    · exact h client hmem
    · rw [List.mem_singleton.mp hmem]
  · exact leaves_nothing

def poolCommandStatus (env : ServerEnvironment) (source : CFRef) (command : UInt8)
    (parameter : DeviceDescriptorCommandParameters) (status : Status) : Status :=
  if parameter = .objectPoolTransfer ∨ parameter = .objectPoolActivateDeactivate then
    (status.setCommandBusy true (env.world source).address command).setCommandBusy false 0 0
  else status

theorem leaves_clientDeviceDescriptor {client : ActiveClient}
    (parameter : DeviceDescriptorCommandParameters) :
    Leaves server (poolCommandStatus env source command parameter server.status)
      (server.clientDeviceDescriptor config env application source client command message
        parameter) := by
  cases parameter with
  | requestStructureLabel =>
    exact leaves_bind fun _ _ => leaves_bind fun _ _ =>
      leaves_ite (leaves_self (not_isStatus_respond (by decide)))
        (leaves_self (not_isStatus_send (by decide)))
  | requestLocalizationLabel =>
    exact leaves_bind fun _ _ => leaves_ite (leaves_self (not_isStatus_respond (by decide)))
      (leaves_self (not_isStatus_send (by decide)))
  | requestObjectPoolTransfer =>
    exact leaves_bind fun _ _ =>
      leaves_ite (leaves_some rfl (fun h => h.alterClient _ fun _ => rfl)
        (not_isStatus_respond (by decide))) (leaves_self (not_isStatus_respond (by decide)))
  | objectPoolTransfer => exact leaves_objectPoolTransfer
  | objectPoolActivateDeactivate => exact leaves_objectPoolActivateDeactivate
  | deleteObjectPool =>
    change Leaves server _ (server.deleteObjectPool config env application source)
    unfold deleteObjectPool
    split
    · exact leaves_self (not_isStatus_respond (by decide))
    · exact leaves_self (not_isStatus_respond (by decide))
  | changeDesignator =>
    refine leaves_ite ?_ leaves_nothing
    exact leaves_bind fun _ _ => leaves_bind fun _ _ =>
      leaves_self (not_isStatus_respond (by decide))
  | structureLabel | localizationLabel | requestObjectPoolTransferResponse
  | objectPoolTransferResponse | objectPoolActivateDeactivateResponse
  | deleteObjectPoolResponse | changeDesignatorResponse => exact leaves_self (not_isStatus_nack _)

structure PoolCommand where
  source : CFRef
  client : ActiveClient
  command : UInt8
  parameter : DeviceDescriptorCommandParameters

/-- The command about the object pool of a client that a message brings. -/
def poolCommand (env : ServerEnvironment) (message : CANMessage) (server : TaskControllerServer) :
    Option PoolCommand :=
  if message.identifier.getParameterGroupNumber = PROCESS_DATA ∧
      message.destination.isSome ∧ message.data.length ≥ CAN_DATA_LENGTH then do
    let command ← message.data[0]?
    if ProcessDataCommands.ofByte command = .deviceDescriptor then
      let source ← message.source
      let client ← server.getActiveClient env.world (some source)
      let parameter ← DeviceDescriptorCommandParameters.ofByte command
      return ⟨source, client, command, parameter⟩
    else none
  else none

theorem poolCommand_eq_some {given : PoolCommand}
    (h : server.poolCommand env message = some given) :
    message.identifier.getParameterGroupNumber = PROCESS_DATA ∧
      message.destination.isSome ∧ message.data.length ≥ CAN_DATA_LENGTH ∧
      message.data[0]? = some given.command ∧
      ProcessDataCommands.ofByte given.command = .deviceDescriptor ∧
      message.source = some given.source ∧
      server.getActiveClient env.world (some given.source) = some given.client ∧
      DeviceDescriptorCommandParameters.ofByte given.command = some given.parameter := by
  unfold poolCommand at h
  split_ifs at h with hcond
  obtain ⟨command, hcommand, h⟩ := Option.bind_eq_some_iff.mp h
  split_ifs at h with hname
  simp only [Option.bind_eq_bind, Option.bind_eq_some_iff] at h
  obtain ⟨source, hsource, client, hclient, parameter, hparameter, h⟩ := h
  cases h
  exact ⟨hcond.1, hcond.2.1, hcond.2.2, hcommand, hname, hsource, hclient, hparameter⟩

theorem processRxMessage_of_poolCommand {given : PoolCommand}
    (h : server.poolCommand env message = some given) :
    server.processRxMessage config env application message =
      server.clientDeviceDescriptor config env application given.source given.client
        given.command message given.parameter := by
  obtain ⟨hgroup, hdestination, hlength, hcommand, hname, hsource, hclient, hparameter⟩ :=
    poolCommand_eq_some h
  obtain ⟨destination, hdestination⟩ := Option.isSome_iff_exists.mp hdestination
  rw [processRxMessage, if_pos hgroup, processData, hcommand, Option.bind_eq_bind,
    Option.bind_some, hname]
  dsimp only
  rw [deviceDescriptor, hparameter, hsource, hdestination]
  dsimp only
  rw [if_pos hlength, hclient]

variable (config) in
/-- Any other message about a device descriptor is refused or ignored. -/
theorem deviceDescriptor_of_none
    (hgroup : message.identifier.getParameterGroupNumber = PROCESS_DATA)
    (hcommand : message.data[0]? = some command)
    (hname : ProcessDataCommands.ofByte command = .deviceDescriptor)
    (h : server.poolCommand env message = none) :
    ∃ events, (∀ e ∈ events, ¬e.IsStatus) ∧ ∀ application,
      server.deviceDescriptor config env application command message =
        some (server, events) := by
  unfold deviceDescriptor
  split
  · rename_i parameter source destination hparameter hsource hdestination
    by_cases hlength : message.data.length ≥ CAN_DATA_LENGTH
    · cases hclient : server.getActiveClient env.world (some source) with
      | some client =>
        rw [poolCommand, if_pos ⟨hgroup, by rw [hdestination]; rfl, hlength⟩, hcommand] at h
        simp [hname, hsource, hclient, hparameter] at h
      | none => exact ⟨_, not_isStatus_nack _, fun _ => if_pos hlength⟩
    · exact ⟨[], List.forall_mem_nil _, fun _ => if_neg hlength⟩
  · exact ⟨[], List.forall_mem_nil _, fun _ => rfl⟩

def statusAfter (env : ServerEnvironment) (message : CANMessage) (server : TaskControllerServer) :
    Status :=
  match server.poolCommand env message with
  | some given => poolCommandStatus env given.source given.command given.parameter server.status
  | none => server.status

theorem leaves_processRxMessage :
    Leaves server (server.statusAfter env message)
      (server.processRxMessage config env application message) := by
  unfold statusAfter
  cases hgiven : server.poolCommand env message with
  | some given =>
    rw [processRxMessage_of_poolCommand hgiven]
    exact leaves_clientDeviceDescriptor _
  | none =>
    dsimp only
    unfold processRxMessage
    split_ifs with hgroup
    · refine leaves_bind fun command hcommand => ?_
      cases hname : ProcessDataCommands.ofByte command with
      | technicalCapabilities => exact leaves_technicalCapabilities
      | deviceDescriptor =>
        obtain ⟨events, hevents, heq⟩ :=
          deviceDescriptor_of_none config hgroup hcommand hname hgiven
        dsimp only
        rw [heq application]
        exact leaves_self hevents
      | value | setValueAndAcknowledge => exact leaves_valueCommand
      | acknowledge => exact leaves_processDataAcknowledge
      | measurementTimeInterval | measurementDistanceInterval
      | measurementMinimumWithinThreshold | measurementMaximumWithinThreshold
      | measurementChangeThreshold => exact leaves_measurementCommand
      | clientTask => exact leaves_clientTask
      | status | requestValue | peerControlAssignment | reserved | reserved2 =>
        exact leaves_nothing
    · exact leaves_workingSetMaster
    · exact leaves_nothing

theorem update_eq_some {r : TaskControllerServer × List ServerEvent}
    (h : server.update config env = some r) :
    ∃ processed removed,
      { server with rxMessageQueue := [] }.processRxMessages config env
        server.rxMessageQueue 0 = some processed ∧
      (processed.1.updateStatus config env).1.removeTimedOut env
        (processed.1.updateStatus config env).1.activeClients = some removed ∧
      r = ({ removed.2.1 with activeClients := removed.1 },
        processed.2 ++ (processed.1.updateStatus config env).2 ++ removed.2.2) := by
  simp only [update, Option.bind_eq_bind, Option.bind_eq_some_iff] at h
  obtain ⟨processed, hprocessed, removed, hremoved, h⟩ := h
  exact ⟨processed, removed, hprocessed, hremoved, (Option.some.inj h).symm⟩

theorem activeClients_updateStatus :
    (server.updateStatus config env).1.activeClients = server.activeClients := by
  unfold updateStatus
  dsimp only
  by_cases hpending : server.statusUpdatePending = true
  · rw [hpending, if_pos rfl]
    split_ifs <;> rfl
  · rw [Bool.not_eq_true] at hpending
    rw [hpending, if_neg Bool.false_ne_true]
    split_ifs <;> rfl

theorem subset_removeTimedOut {clients : List ActiveClient}
    {r : List ActiveClient × TaskControllerServer × List ServerEvent}
    (h : server.removeTimedOut env clients = some r) : r.1 ⊆ clients := by
  induction clients generalizing server r with
  | nil =>
    cases h
    exact List.Subset.refl _
  | cons client rest ih =>
    unfold removeTimedOut at h
    split_ifs at h
    · simp only [Option.bind_eq_bind, Option.bind_eq_some_iff] at h
      obtain ⟨c, -, others, hothers, h⟩ := h
      have hrest : others.1 ⊆ rest := ih hothers
      cases h
      exact List.subset_cons_of_subset _ hrest
    · obtain ⟨others, hothers, h⟩ := Option.bind_eq_some_iff.mp h
      have hrest : others.1 ⊆ rest := ih hothers
      cases h
      exact List.cons_subset_cons _ hrest

end TaskControllerServer

end Isobus.TaskController
