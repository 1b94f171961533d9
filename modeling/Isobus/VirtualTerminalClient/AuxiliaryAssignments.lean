import Isobus.Lib.Machine
import Isobus.VirtualTerminalClient.AuxiliaryInputs

/-!
# Assignments of auxiliary functions

The assigned functions compared with the assignments that were answered without an error, and the
events about an input compared with its assignments.
-/

namespace Isobus.VirtualTerminalClient

open Isobus.Can Isobus.Lib Isobus.VirtualTerminal

/-- A device and a function that is assigned to one of its inputs. -/
abbrev Assigned := UInt64 × AssignedAuxiliaryFunction

def assignments (devices : List AssignedAuxiliaryInputDevice) : List Assigned :=
  devices.flatMap fun aux => aux.functions.map fun function => (aux.name, function)

section Assignments

variable {devices : List AssignedAuxiliaryInputDevice} {name : UInt64}
  {function : AssignedAuxiliaryFunction}

theorem mem_assignments_iff {assigned : Assigned} :
    assigned ∈ assignments devices ↔
      ∃ aux ∈ devices, aux.name = assigned.1 ∧ assigned.2 ∈ aux.functions := by
  obtain ⟨name, function⟩ := assigned
  simp only [assignments, List.mem_flatMap, List.mem_map, Prod.mk.injEq]
  constructor
  · rintro ⟨aux, haux, function', hfunction, rfl, rfl⟩
    exact ⟨aux, haux, rfl, hfunction⟩
  · rintro ⟨aux, haux, rfl, hfunction⟩
    exact ⟨aux, haux, function, hfunction, rfl, rfl⟩

structure Tidy (devices : List AssignedAuxiliaryInputDevice) : Prop where
  nodup : ∀ aux ∈ devices, aux.functions.Nodup
  first : devices.Pairwise fun aux later => aux.name = later.name → later.functions = []

theorem Tidy.nodup_assignments (h : Tidy devices) : (assignments devices).Nodup := by
  rw [assignments, List.nodup_flatMap]
  constructor
  · intro aux haux
    exact (h.nodup aux haux).map fun _ _ heq => (Prod.mk.inj heq).2
  · apply h.first.imp
    intro aux later hlater
    apply List.disjoint_left.mpr
    intro assigned hmem hmem'
    obtain ⟨function, -, rfl⟩ := List.mem_map.mp hmem
    obtain ⟨function', hfunction', heq⟩ := List.mem_map.mp hmem'
    rw [hlater (Prod.mk.inj heq).1.symm] at hfunction'
    exact List.not_mem_nil hfunction'

variable {aux : AssignedAuxiliaryInputDevice}

theorem Tidy.eq_of_name (h : Tidy devices) {aux' : AssignedAuxiliaryInputDevice}
    (haux : aux ∈ devices) (haux' : aux' ∈ devices) (hname : aux.name = aux'.name)
    (hsome : aux.functions ≠ []) (hsome' : aux'.functions ≠ []) : aux = aux' := by
  have hpairwise : devices.Pairwise fun aux later =>
      aux.name = later.name → aux.functions ≠ [] → later.functions ≠ [] → aux = later :=
    h.first.imp fun hlater heq _ hsome => absurd (hlater heq) hsome
  have hflipped : devices.Pairwise fun later aux =>
      aux.name = later.name → aux.functions ≠ [] → later.functions ≠ [] → aux = later :=
    h.first.imp fun hlater heq hsome _ => absurd (hlater heq.symm) hsome
  exact hpairwise.forall_of_forall_of_flip (fun _ _ _ _ _ => rfl) hflipped haux haux' hname hsome
    hsome'

theorem Tidy.map {alter : AssignedAuxiliaryInputDevice → AssignedAuxiliaryInputDevice}
    (h : Tidy devices)
    (halter : ∀ aux, (alter aux).name = aux.name ∧ (alter aux).functions.Sublist aux.functions) :
    Tidy (devices.map alter) := by
  constructor
  · intro aux haux
    obtain ⟨aux', haux', rfl⟩ := List.mem_map.mp haux
    exact (h.nodup aux' haux').sublist (halter aux').2
  · rw [List.pairwise_map]
    apply h.first.imp
    intro aux later hlater hname
    rw [(halter aux).1, (halter later).1] at hname
    have hsublist := (halter later).2
    rw [hlater hname] at hsublist
    exact List.sublist_nil.mp hsublist

theorem Tidy.append (h : Tidy devices) (name : UInt64) (modelIdentificationCode : UInt16) :
    Tidy (devices ++
      [{ name := name, modelIdentificationCode := modelIdentificationCode }]) := by
  constructor
  · intro aux haux
    obtain haux | haux := List.mem_append.mp haux
    · exact h.nodup aux haux
    · rw [List.mem_singleton.mp haux]
      exact List.nodup_nil
  · rw [List.pairwise_append]
    refine ⟨h.first, List.pairwise_singleton _ _, ?_⟩
    intro aux _ later hlater _
    rw [List.mem_singleton.mp hlater]

theorem assignments_append (name : UInt64) (modelIdentificationCode : UInt16) :
    assignments (devices ++
        [{ name := name, modelIdentificationCode := modelIdentificationCode }]) =
      assignments devices := by
  simp only [assignments, List.flatMap_append, List.flatMap_singleton, List.map_nil,
    List.append_nil]

theorem mem_alterDevice {alter : AssignedAuxiliaryInputDevice → AssignedAuxiliaryInputDevice}
    {later : AssignedAuxiliaryInputDevice} (h : later ∈ alterDevice name alter devices) :
    later ∈ devices ∨ ∃ aux ∈ devices, aux.name = name ∧ later = alter aux := by
  induction devices with
  | nil => exact .inl h
  | cons aux devices ih =>
    rw [alterDevice] at h
    split_ifs at h with hname
    · obtain rfl | hmem := List.mem_cons.mp h
      · exact .inr ⟨aux, List.mem_cons_self, hname, rfl⟩
      · exact .inl (List.mem_cons_of_mem _ hmem)
    · obtain rfl | hmem := List.mem_cons.mp h
      · exact .inl List.mem_cons_self
      · obtain hmem | ⟨aux', haux', hname', heq⟩ := ih hmem
        · exact .inl (List.mem_cons_of_mem _ hmem)
        · exact .inr ⟨aux', List.mem_cons_of_mem _ haux', hname', heq⟩

theorem Tidy.pushFunction (h : Tidy devices) (hfind : devices.find? (·.name = name) = some aux)
    (hnew : function ∉ aux.functions) :
    Tidy (alterDevice name (·.pushFunction function) devices) := by
  induction devices with
  | nil => exact h
  | cons aux₁ devices ih =>
    have hrest : Tidy devices :=
      ⟨fun aux haux => h.nodup aux (List.mem_cons_of_mem _ haux), h.first.of_cons⟩
    have hlater := (List.pairwise_cons.mp h.first).1
    rw [alterDevice]
    split_ifs with hname
    · rw [List.find?_cons_of_pos (by simpa using hname)] at hfind
      have haux : aux₁ = aux := Option.some_inj.mp hfind
      rw [← haux] at hnew
      constructor
      · intro aux' haux'
        obtain heq | hmem := List.mem_cons.mp haux'
        · rw [heq]
          exact (List.nodup_append_comm.mpr
            (List.nodup_cons.mpr ⟨hnew, h.nodup aux₁ List.mem_cons_self⟩ :
              ([function] ++ aux₁.functions).Nodup))
        · exact hrest.nodup aux' hmem
      · exact List.pairwise_cons.mpr ⟨hlater, hrest.first⟩
    · rw [List.find?_cons_of_neg (by simpa using hname)] at hfind
      have htail := ih hrest hfind
      constructor
      · intro aux' haux'
        obtain heq | hmem := List.mem_cons.mp haux'
        · rw [heq]
          exact h.nodup aux₁ List.mem_cons_self
        · exact htail.nodup aux' hmem
      · refine List.pairwise_cons.mpr ⟨fun later hmem heq => ?_, htail.first⟩
        obtain hmem | ⟨aux', -, hname', rfl⟩ := mem_alterDevice hmem
        · exact hlater later hmem heq
        · exact absurd (heq.trans hname') hname

theorem mem_assignments_pushFunction (hfind : devices.find? (·.name = name) = some aux)
    {assigned : Assigned} :
    assigned ∈ assignments (alterDevice name (·.pushFunction function) devices) ↔
      assigned = (name, function) ∨ assigned ∈ assignments devices := by
  induction devices with
  | nil => exact absurd hfind (Option.some_ne_none aux).symm
  | cons first devices ih =>
    rw [alterDevice]
    split_ifs with hname
    · simp only [assignments, List.flatMap_cons, List.mem_append,
        AssignedAuxiliaryInputDevice.pushFunction, List.map_append, List.map_cons, List.map_nil,
        List.mem_singleton, hname]
      tauto
    · rw [List.find?_cons_of_neg (by simpa using hname)] at hfind
      have htail := ih hfind
      simp only [assignments, List.flatMap_cons, List.mem_append] at htail ⊢
      rw [htail]
      tauto

theorem mem_assignments_eraseFunction (functionObjectID : UInt16) {assigned : Assigned} :
    assigned ∈ assignments (devices.map (·.eraseFunction functionObjectID)) ↔
      assigned ∈ assignments devices ∧ assigned.2.functionObjectID ≠ functionObjectID := by
  simp only [mem_assignments_iff, List.mem_map, exists_exists_and_eq_and,
    AssignedAuxiliaryInputDevice.eraseFunction, List.mem_filter, decide_eq_true_eq]
  tauto

theorem assignments_clear : assignments (devices.map (·.clear)) = [] := by
  rw [List.eq_nil_iff_forall_not_mem]
  intro assigned hmem
  obtain ⟨aux, haux, -, hfunction⟩ := mem_assignments_iff.mp hmem
  obtain ⟨aux', -, rfl⟩ := List.mem_map.mp haux
  exact List.not_mem_nil hfunction

end Assignments

def AuxiliaryEvent.acknowledges : AuxiliaryEvent → Bool
  | response frame sent => sent && frame.data.getD 3 0 = 0
  | _ => false

def AuxiliaryEvent.assigned? : AuxiliaryEvent → Option Assigned
  | auxiliaryFunction device function _ _ => some (device, function)
  | _ => none

namespace AuxiliaryClient

variable (client : AuxiliaryClient) (world : World) (message : CANMessage)

def Addressed (function : UInt8) : Prop :=
  CAN_DATA_LENGTH ≤ message.data.length ∧
    (message.destination = none ∨ message.destination = some client.myControlFunction) ∧
    message.identifier.getParameterGroupNumber = VirtualTerminalToECU ∧
    message.getUint8At 0 = function

instance decidableAddressed (function : UInt8) : Decidable (client.Addressed message function) :=
  inferInstanceAs (Decidable (_ ∧ _ ∧ _ ∧ _))

def assignment? : Option AuxiliaryAssignment :=
  if client.Addressed message AuxiliaryAssignmentTypeTwoCommand ∧ message.data.length = 14 then
    some (.ofMessage message)
  else none

def inputStatus? : Option (UInt64 × UInt16) :=
  if client.Addressed message AuxiliaryInputTypeTwoStatusMessage then
    message.source.map fun source => ((world source).controlFunctionNAME, message.getUint16At 1)
  else none

def Takes (assignment : AuxiliaryAssignment) : Prop :=
  assignment.isUnassignment = false ∧
    ∃ aux ∈ client.deviceNamed assignment.isoName,
      assignment.functionType ≤ QuadratureBooleanMomentary ∧
        assignment.function ∉ aux.functions

end AuxiliaryClient

def AuxiliaryAssignment.after (assignment : AuxiliaryAssignment) (acknowledged : Bool)
    (answered : List Assigned) : List Assigned :=
  if assignment.isUnassignment then
    if assignment.functionObjectID = NULL_OBJECT_ID then []
    else if assignment.inputObjectID = NULL_OBJECT_ID then
      answered.filter (·.2.functionObjectID ≠ assignment.functionObjectID)
    else answered
  else if acknowledged then (assignment.isoName, assignment.function) :: answered
  else answered

/-- A client with the assignments that it answered without an error and that were not taken away
later. -/
structure AuxiliaryLedger where
  client : AuxiliaryClient
  answered : List Assigned := []

namespace AuxiliaryLedger

variable (ledger : AuxiliaryLedger) (input : Environment × CANMessage)

def keep : Machine AuxiliaryLedger (Environment × CANMessage) AuxiliaryEvent where
  step ledger input :=
    let processed := ledger.client.processRxMessage input.1 input.2
    ({ client := processed.1
       answered :=
        match ledger.client.assignment? input.2 with
        | some assignment =>
          assignment.after (processed.2.any AuxiliaryEvent.acknowledges) ledger.answered
        | none => ledger.answered },
      processed.2)

def table : List Assigned := assignments ledger.client.assignedAuxiliaryInputDevices

/-- No assignment is in the table twice, the table has what was answered without an error, and an
input status makes one event for each assignment of the input, and no other. -/
def Right : Prop :=
  let after := keep.next ledger input
  after.table.Nodup ∧ (∀ assigned, assigned ∈ after.table ↔ assigned ∈ after.answered) ∧
    ∀ status ∈ ledger.client.inputStatus? input.1.world input.2,
      ((keep.emits ledger input).filterMap AuxiliaryEvent.assigned?).Perm
        (ledger.table.filter fun assigned =>
          assigned.1 = status.1 ∧ assigned.2.inputObjectID = status.2)

/-- The response to an assignment is sent, and an input status comes from the only device with an
assignment of that input, which has one. -/
def Clear : Prop :=
  (∀ assignment ∈ ledger.client.assignment? input.2, ledger.client.Takes assignment →
      input.1.send (ledger.client.auxiliaryFunctionAssignmentResponse
        assignment.functionObjectID false false) = true) ∧
    ∀ status ∈ ledger.client.inputStatus? input.1.world input.2,
      ∀ assigned ∈ ledger.table, assigned.2.inputObjectID = status.2 →
        assigned.1 = status.1 ∧
          ∀ other ∈ ledger.table, other.2.inputObjectID = status.2 → other = assigned

def Kept : Prop :=
  Tidy ledger.client.assignedAuxiliaryInputDevices ∧
    ∀ assigned, assigned ∈ ledger.table ↔ assigned ∈ ledger.answered

end AuxiliaryLedger

section Messages

variable {env : Environment} {client : AuxiliaryClient} {message : CANMessage}
  {assignment : AuxiliaryAssignment}

theorem processRxMessage_of_assignment (h : client.assignment? message = some assignment) :
    client.processRxMessage env message =
      if assignment.isUnassignment then client.unassign env assignment
      else client.assign env assignment := by
  rw [AuxiliaryClient.assignment?] at h
  split_ifs at h with hmessage
  obtain ⟨⟨hlength, hdestination, hgroup, hfunction⟩, hexact⟩ := hmessage
  rw [AuxiliaryClient.processRxMessage, if_pos ⟨hlength, hdestination⟩, if_pos hgroup,
    if_pos hfunction, AuxiliaryClient.processAssignment, if_pos hexact, Option.some_inj.mp h]

theorem processRxMessage_of_status (env : Environment) {world : World}
    {status : UInt64 × UInt16} (h : client.inputStatus? world message = some status) :
    client.processRxMessage env message = client.processInputStatus message ∧
      message.getUint16At 1 = status.2 := by
  rw [AuxiliaryClient.inputStatus?] at h
  split_ifs at h with hmessage
  obtain ⟨hlength, hdestination, hgroup, hfunction⟩ := hmessage
  obtain ⟨source, -, rfl⟩ := Option.map_eq_some_iff.mp h
  refine ⟨?_, rfl⟩
  rw [AuxiliaryClient.processRxMessage, if_pos ⟨hlength, hdestination⟩, if_pos hgroup, hfunction]
  rfl

theorem devices_of_no_assignment (env : Environment) (h : client.assignment? message = none) :
    (client.processRxMessage env message).1.assignedAuxiliaryInputDevices =
        client.assignedAuxiliaryInputDevices ∨
      ∃ name modelIdentificationCode,
        (client.processRxMessage env message).1.assignedAuxiliaryInputDevices =
          client.assignedAuxiliaryInputDevices ++
            [{ name := name, modelIdentificationCode := modelIdentificationCode }] := by
  rw [AuxiliaryClient.processRxMessage]
  split_ifs with hreaches hgroup hassignment hstatus hgroup' hmaintenance
  · left
    rw [AuxiliaryClient.processAssignment, if_neg]
    intro hexact
    rw [AuxiliaryClient.assignment?,
      if_pos ⟨⟨hreaches.1, hreaches.2, hgroup, hassignment⟩, hexact⟩] at h
    contradiction
  · exact .inl rfl
  · exact .inl rfl
  · rw [AuxiliaryClient.processInputMaintenance]
    split_ifs
    · cases message.source with
      | none => exact .inl rfl
      | some source => exact .inr ⟨_, _, rfl⟩
    · exact .inl rfl
  · exact .inl rfl
  · exact .inl rfl
  · exact .inl rfl

theorem assign_of_takes (h : client.Takes assignment) :
    client.assign env assignment =
      (client.withDevices (alterDevice assignment.isoName (·.pushFunction assignment.function)
          client.assignedAuxiliaryInputDevices),
        client.sendResponse env assignment.functionObjectID false false) := by
  obtain ⟨-, aux, haux, htype, hnew⟩ := h
  rw [AuxiliaryClient.assign, haux]
  dsimp only
  rw [if_pos htype, if_neg hnew]

theorem assign_of_not_takes (env : Environment) (hassigns : assignment.isUnassignment = false)
    (h : ¬client.Takes assignment) :
    ∃ isAlreadyAssigned, client.assign env assignment =
      (client, client.sendResponse env assignment.functionObjectID true isAlreadyAssigned) := by
  rw [AuxiliaryClient.assign]
  cases haux : client.deviceNamed assignment.isoName with
  | none => exact ⟨false, rfl⟩
  | some aux =>
    dsimp only
    split_ifs with htype hold
    · exact ⟨true, rfl⟩
    · exact absurd ⟨hassigns, aux, haux, htype, hold⟩ h
    · exact ⟨false, rfl⟩

theorem errorCode_response (functionObjectID : UInt16) (hasError isAlreadyAssigned : Bool) :
    (client.auxiliaryFunctionAssignmentResponse functionObjectID hasError
        isAlreadyAssigned).data.getD 3 0 =
      (if hasError then (0x01 : UInt8) else 0) |||
        (if isAlreadyAssigned && !client.isVtVersion6Supported then 0x02 else 0) :=
  rfl

theorem acknowledges_sendResponse (functionObjectID : UInt16) :
    (client.sendResponse env functionObjectID false false).any AuxiliaryEvent.acknowledges =
      env.send (client.auxiliaryFunctionAssignmentResponse functionObjectID false false) := by
  rw [AuxiliaryClient.sendResponse, List.any_cons, List.any_nil, Bool.or_false,
    AuxiliaryEvent.acknowledges, errorCode_response, if_neg Bool.false_ne_true, Bool.false_and,
    if_neg Bool.false_ne_true, UInt8.or_zero, decide_eq_true rfl, Bool.and_true]

theorem not_acknowledges_sendResponse (functionObjectID : UInt16) (isAlreadyAssigned : Bool) :
    (client.sendResponse env functionObjectID true isAlreadyAssigned).any
      AuxiliaryEvent.acknowledges = false := by
  rw [AuxiliaryClient.sendResponse, List.any_cons, List.any_nil, Bool.or_false,
    AuxiliaryEvent.acknowledges, errorCode_response, Bool.and_eq_false_iff]
  right
  cases isAlreadyAssigned <;> cases client.isVtVersion6Supported <;> decide

theorem tidy_processRxMessage (h : Tidy client.assignedAuxiliaryInputDevices) :
    Tidy (client.processRxMessage env message).1.assignedAuxiliaryInputDevices := by
  cases hassignment : client.assignment? message with
  | none =>
    obtain hsame | ⟨name, modelIdentificationCode, hnew⟩ :=
      devices_of_no_assignment env hassignment
    · rw [hsame]
      exact h
    · rw [hnew]
      exact h.append name modelIdentificationCode
  | some assignment =>
    rw [processRxMessage_of_assignment hassignment]
    split_ifs with hunassigns
    · rw [AuxiliaryClient.unassign]
      split_ifs
      · exact h.map fun aux => ⟨rfl, List.nil_sublist _⟩
      · exact h.map fun aux => ⟨rfl, List.filter_sublist⟩
      · exact h
    · rw [Bool.not_eq_true] at hunassigns
      by_cases htakes : client.Takes assignment
      · rw [assign_of_takes htakes]
        obtain ⟨-, aux, haux, -, hnew⟩ := htakes
        exact h.pushFunction haux hnew
      · obtain ⟨isAlreadyAssigned, hassign⟩ := assign_of_not_takes env hunassigns htakes
        rw [hassign]
        exact h

end Messages

section Table

variable {ledger : AuxiliaryLedger} {input : Environment × CANMessage}

open AuxiliaryLedger

theorem Tidy.find?_of_mem {devices : List AssignedAuxiliaryInputDevice} (h : Tidy devices)
    {aux : AssignedAuxiliaryInputDevice} (haux : aux ∈ devices) (hsome : aux.functions ≠ []) :
    devices.find? (·.name = aux.name) = some aux := by
  induction devices with
  | nil => exact absurd haux List.not_mem_nil
  | cons aux₁ devices ih =>
    have hlater := (List.pairwise_cons.mp h.first).1
    obtain heq | hmem := List.mem_cons.mp haux
    · rw [heq]
      exact List.find?_cons_of_pos (decide_eq_true rfl)
    · have hname : aux₁.name ≠ aux.name := fun heq => hsome (hlater aux hmem heq)
      rw [List.find?_cons_of_neg (by simpa using hname)]
      exact ih ⟨fun aux' haux' => h.nodup aux' (List.mem_cons_of_mem _ haux'), h.first.of_cons⟩
        hmem

theorem not_mem_table_of_takes (h : ledger.Kept) {assignment : AuxiliaryAssignment}
    (htakes : ledger.client.Takes assignment) :
    (assignment.isoName, assignment.function) ∉ ledger.table := by
  obtain ⟨-, aux, haux, -, hnew⟩ := htakes
  intro hmem
  obtain ⟨aux', haux', hname, hfunction⟩ := mem_assignments_iff.mp hmem
  have hfind := h.1.find?_of_mem haux' (List.ne_nil_of_mem hfunction)
  rw [hname] at hfind
  have hsame : aux' = aux := Option.some_inj.mp (hfind.symm.trans haux)
  rw [hsame] at hfunction
  exact hnew hfunction

theorem table_next_of_no_assignment (h : ledger.client.assignment? input.2 = none) :
    (keep.next ledger input).table = ledger.table ∧
      (keep.next ledger input).answered = ledger.answered := by
  constructor
  · change assignments _ = assignments _
    obtain hsame | ⟨name, modelIdentificationCode, hnew⟩ := devices_of_no_assignment input.1 h
    · exact congrArg assignments hsame
    · exact (congrArg assignments hnew).trans (assignments_append name modelIdentificationCode)
  · change (match ledger.client.assignment? input.2 with
      | some assignment => _
      | none => _) = _
    rw [h]

theorem answered_next_of_assignment {assignment : AuxiliaryAssignment}
    (h : ledger.client.assignment? input.2 = some assignment) :
    (keep.next ledger input).answered =
      assignment.after ((ledger.client.processRxMessage input.1 input.2).2.any
        AuxiliaryEvent.acknowledges) ledger.answered := by
  change (match ledger.client.assignment? input.2 with
    | some assignment => _
    | none => _) = _
  rw [h]

theorem mem_table_iff_of_unassignment (h : ledger.Kept) {assignment : AuxiliaryAssignment}
    (hassignment : ledger.client.assignment? input.2 = some assignment)
    (hunassigns : assignment.isUnassignment = true) (assigned : Assigned) :
    assigned ∈ (keep.next ledger input).table ↔
      assigned ∈ (keep.next ledger input).answered := by
  have htable : (keep.next ledger input).table =
      assignments (ledger.client.unassign input.1 assignment).1.assignedAuxiliaryInputDevices := by
    change assignments
      (ledger.client.processRxMessage input.1 input.2).1.assignedAuxiliaryInputDevices = _
    rw [processRxMessage_of_assignment hassignment, if_pos hunassigns]
  rw [htable, answered_next_of_assignment hassignment, AuxiliaryAssignment.after,
    if_pos hunassigns, AuxiliaryClient.unassign]
  split_ifs
  · exact iff_of_eq (congrArg (assigned ∈ ·) assignments_clear)
  · rw [List.mem_filter, decide_eq_true_eq, ← h.2]
    exact mem_assignments_eraseFunction _
  · exact h.2 assigned

theorem mem_table_iff_of_takes (h : ledger.Kept) {assignment : AuxiliaryAssignment}
    (hassignment : ledger.client.assignment? input.2 = some assignment)
    (htakes : ledger.client.Takes assignment) :
    (∀ assigned, assigned ∈ (keep.next ledger input).table ↔
        assigned ∈ (keep.next ledger input).answered) ↔
      input.1.send (ledger.client.auxiliaryFunctionAssignmentResponse
        assignment.functionObjectID false false) = true := by
  have hassigns : assignment.isUnassignment ≠ true := Bool.eq_false_iff.mp htakes.1
  have hprocessed : ledger.client.processRxMessage input.1 input.2 = _ :=
    (processRxMessage_of_assignment hassignment).trans
      ((if_neg hassigns).trans (assign_of_takes htakes))
  obtain ⟨-, aux, haux, -, -⟩ := id htakes
  have htable (assigned : Assigned) : assigned ∈ (keep.next ledger input).table ↔
      assigned = (assignment.isoName, assignment.function) ∨ assigned ∈ ledger.table := by
    change assigned ∈ assignments
      (ledger.client.processRxMessage input.1 input.2).1.assignedAuxiliaryInputDevices ↔ _
    rw [hprocessed]
    exact mem_assignments_pushFunction haux
  rw [answered_next_of_assignment hassignment, hprocessed, acknowledges_sendResponse,
    AuxiliaryAssignment.after, if_neg hassigns]
  split_ifs with hsent
  · apply iff_of_true _ hsent
    intro assigned
    rw [htable, List.mem_cons, h.2]
  · apply iff_of_false _ hsent
    intro hsame
    apply not_mem_table_of_takes h htakes
    exact (h.2 _).mpr ((hsame _).mp ((htable _).mpr (.inl rfl)))

theorem mem_table_iff_of_not_takes (h : ledger.Kept) {assignment : AuxiliaryAssignment}
    (hassignment : ledger.client.assignment? input.2 = some assignment)
    (hassigns : assignment.isUnassignment = false) (htakes : ¬ledger.client.Takes assignment)
    (assigned : Assigned) :
    assigned ∈ (keep.next ledger input).table ↔
      assigned ∈ (keep.next ledger input).answered := by
  obtain ⟨isAlreadyAssigned, hassign⟩ := assign_of_not_takes input.1 hassigns htakes
  have hprocessed : ledger.client.processRxMessage input.1 input.2 = _ :=
    (processRxMessage_of_assignment hassignment).trans
      ((if_neg (Bool.eq_false_iff.mp hassigns)).trans hassign)
  have htable : (keep.next ledger input).table = ledger.table := by
    change assignments
      (ledger.client.processRxMessage input.1 input.2).1.assignedAuxiliaryInputDevices = _
    rw [hprocessed]
    rfl
  rw [htable, answered_next_of_assignment hassignment, hprocessed,
    not_acknowledges_sendResponse, AuxiliaryAssignment.after,
    if_neg (Bool.eq_false_iff.mp hassigns), if_neg Bool.false_ne_true]
  exact h.2 assigned

theorem table_nodup_next (h : ledger.Kept) : (keep.next ledger input).table.Nodup := by
  have htidy :
      Tidy (ledger.client.processRxMessage input.1 input.2).1.assignedAuxiliaryInputDevices :=
    tidy_processRxMessage h.1
  exact htidy.nodup_assignments

theorem table_eq_answered_iff (h : ledger.Kept) :
    (∀ assigned, assigned ∈ (keep.next ledger input).table ↔
        assigned ∈ (keep.next ledger input).answered) ↔
      ∀ assignment ∈ ledger.client.assignment? input.2, ledger.client.Takes assignment →
        input.1.send (ledger.client.auxiliaryFunctionAssignmentResponse
          assignment.functionObjectID false false) = true := by
  cases hassignment : ledger.client.assignment? input.2 with
  | none =>
    obtain ⟨htable, hanswered⟩ := table_next_of_no_assignment hassignment
    rw [htable, hanswered]
    exact iff_of_true h.2 fun assignment hmem => absurd hmem (Option.not_mem_none assignment)
  | some assignment =>
    simp only [Option.mem_def, Option.some_inj, forall_eq']
    by_cases htakes : ledger.client.Takes assignment
    · rw [imp_iff_right htakes]
      exact mem_table_iff_of_takes h hassignment htakes
    · apply iff_of_true _ fun htakes' => absurd htakes' htakes
      cases hunassigns : assignment.isUnassignment with
      | true => exact mem_table_iff_of_unassignment h hassignment hunassigns
      | false => exact mem_table_iff_of_not_takes h hassignment hunassigns htakes

end Table

section Events

variable {devices : List AssignedAuxiliaryInputDevice} {inputObjectID : UInt16} {name : UInt64}

def assignmentsOf (devices : List AssignedAuxiliaryInputDevice) (inputObjectID : UInt16) :
    List Assigned :=
  (assignments devices).filter (·.2.inputObjectID = inputObjectID)

def dispatched (devices : List AssignedAuxiliaryInputDevice) (inputObjectID : UInt16) :
    List Assigned :=
  devices.filterMap fun aux =>
    (aux.functions.find? (·.inputObjectID = inputObjectID)).map fun function =>
      (aux.name, function)

variable {assigned : Assigned}

theorem mem_dispatched_iff :
    assigned ∈ dispatched devices inputObjectID ↔
      ∃ aux ∈ devices, aux.name = assigned.1 ∧
        aux.functions.find? (·.inputObjectID = inputObjectID) = some assigned.2 := by
  obtain ⟨name, function⟩ := assigned
  simp only [dispatched, List.mem_filterMap, Option.map_eq_some_iff, Prod.mk.injEq]
  constructor
  · rintro ⟨aux, haux, function', hfind, rfl, rfl⟩
    exact ⟨aux, haux, rfl, hfind⟩
  · rintro ⟨aux, haux, rfl, hfind⟩
    exact ⟨aux, haux, function, hfind, rfl, rfl⟩

theorem mem_assignmentsOf_iff :
    assigned ∈ assignmentsOf devices inputObjectID ↔
      assigned ∈ assignments devices ∧ assigned.2.inputObjectID = inputObjectID := by
  rw [assignmentsOf, List.mem_filter, decide_eq_true_eq]

theorem dispatched_sublist :
    (dispatched devices inputObjectID).Sublist (assignmentsOf devices inputObjectID) := by
  induction devices with
  | nil => exact List.Sublist.refl _
  | cons aux devices ih =>
    rw [assignmentsOf, assignments, List.flatMap_cons, List.filter_append, dispatched,
      List.filterMap_cons]
    cases hfind : aux.functions.find? (·.inputObjectID = inputObjectID) with
    | none => exact ih.trans (List.sublist_append_right _ _)
    | some function =>
      have hinput := List.find?_some hfind
      have hmem : (aux.name, function) ∈
          (aux.functions.map fun function => (aux.name, function)).filter
            (·.2.inputObjectID = inputObjectID) :=
        List.mem_filter.mpr ⟨List.mem_map_of_mem (List.mem_of_find?_eq_some hfind),
          hinput⟩
      exact (List.singleton_sublist.mpr hmem).append ih

theorem exists_dispatched (h : assigned ∈ assignmentsOf devices inputObjectID) :
    ∃ function, (assigned.1, function) ∈ dispatched devices inputObjectID := by
  obtain ⟨hmem, hinput⟩ := mem_assignmentsOf_iff.mp h
  obtain ⟨aux, haux, hname, hfunction⟩ := mem_assignments_iff.mp hmem
  have hsome : (aux.functions.find? (·.inputObjectID = inputObjectID)).isSome :=
    List.find?_isSome.mpr ⟨assigned.2, hfunction, decide_eq_true hinput⟩
  obtain ⟨function, hfind⟩ := Option.isSome_iff_exists.mp hsome
  exact ⟨function, mem_dispatched_iff.mpr ⟨aux, haux, hname, hfind⟩⟩

theorem Tidy.dispatched_eq (h : Tidy devices) {other : Assigned}
    (hassigned : assigned ∈ dispatched devices inputObjectID)
    (hother : other ∈ dispatched devices inputObjectID) (hname : assigned.1 = other.1) :
    assigned = other := by
  obtain ⟨aux, haux, hauxName, hfind⟩ := mem_dispatched_iff.mp hassigned
  obtain ⟨aux', haux', hauxName', hfind'⟩ := mem_dispatched_iff.mp hother
  have hsame : aux = aux' :=
    h.eq_of_name haux haux' ((hauxName.trans hname).trans hauxName'.symm)
      (List.ne_nil_of_mem (List.mem_of_find?_eq_some hfind))
      (List.ne_nil_of_mem (List.mem_of_find?_eq_some hfind'))
  rw [hsame] at hfind
  exact Prod.ext hname (Option.some_inj.mp (hfind.symm.trans hfind'))

/-- The events are those about the input of one device exactly if that device has the only
assignment of it. -/
theorem dispatched_perm_iff (h : Tidy devices) :
    (dispatched devices inputObjectID).Perm
        ((assignments devices).filter fun assigned =>
          assigned.1 = name ∧ assigned.2.inputObjectID = inputObjectID) ↔
      ∀ assigned ∈ assignments devices, assigned.2.inputObjectID = inputObjectID →
        assigned.1 = name ∧ ∀ other ∈ assignments devices,
          other.2.inputObjectID = inputObjectID → other = assigned := by
  have hnodup := h.nodup_assignments
  rw [List.perm_ext_iff_of_nodup ((hnodup.filter _).sublist dispatched_sublist) (hnodup.filter _)]
  simp only [List.mem_filter, decide_eq_true_eq]
  constructor
  · intro hsame assigned hmem hinput
    have hname {other : Assigned} (hother : other ∈ assignments devices)
        (hinput : other.2.inputObjectID = inputObjectID) : other.1 = name := by
      obtain ⟨function, hdispatched⟩ :=
        exists_dispatched (mem_assignmentsOf_iff.mpr ⟨hother, hinput⟩)
      exact ((hsame _).mp hdispatched).2.1
    refine ⟨hname hmem hinput, fun other hother hinput' => ?_⟩
    have hassigned := (hsame assigned).mpr ⟨hmem, hname hmem hinput, hinput⟩
    have hother' := (hsame other).mpr ⟨hother, hname hother hinput', hinput'⟩
    exact h.dispatched_eq hother' hassigned
      ((hname hother hinput').trans (hname hmem hinput).symm)
  · intro halone assigned
    constructor
    · intro hdispatched
      obtain ⟨hmem, hinput⟩ := mem_assignmentsOf_iff.mp (dispatched_sublist.subset hdispatched)
      exact ⟨hmem, (halone assigned hmem hinput).1, hinput⟩
    · rintro ⟨hmem, -, hinput⟩
      obtain ⟨function, hdispatched⟩ :=
        exists_dispatched (mem_assignmentsOf_iff.mpr ⟨hmem, hinput⟩)
      obtain ⟨hmem', hinput'⟩ := mem_assignmentsOf_iff.mp (dispatched_sublist.subset hdispatched)
      rw [← (halone assigned hmem hinput).2 _ hmem' hinput']
      exact hdispatched

theorem filterMap_processInputStatus (client : AuxiliaryClient) (message : CANMessage) :
    (client.processInputStatus message).2.filterMap AuxiliaryEvent.assigned? =
      dispatched client.assignedAuxiliaryInputDevices (message.getUint16At 1) := by
  rw [AuxiliaryClient.processInputStatus, List.filterMap_filterMap, dispatched]
  apply List.filterMap_congr
  intro aux _
  cases aux.functions.find? (·.inputObjectID = message.getUint16At 1) <;> rfl

end Events

namespace AuxiliaryLedger

theorem right_iff_clear {ledger : AuxiliaryLedger} (h : ledger.Kept)
    (input : Environment × CANMessage) : ledger.Right input ↔ ledger.Clear input := by
  rw [Right, and_iff_right (table_nodup_next h), table_eq_answered_iff h, Clear]
  apply and_congr_right
  intro _
  apply forall_congr'
  intro status
  apply forall_congr'
  intro hstatus
  obtain ⟨hprocessed, hinput⟩ := processRxMessage_of_status input.1 hstatus
  rw [Machine.emits, keep]
  dsimp only
  rw [hprocessed, filterMap_processInputStatus, hinput]
  exact dispatched_perm_iff h.1

theorem kept_next {ledger : AuxiliaryLedger} (h : ledger.Kept) {input : Environment × CANMessage}
    (hright : ledger.Right input) : (keep.next ledger input).Kept :=
  ⟨tidy_processRxMessage h.1, hright.2.1⟩

/-- A run is right exactly if every step of it is clear. -/
theorem right_along_iff (myControlFunction partnerControlFunction : CFRef)
    (isVtVersion6Supported : Bool) (inputs : List (Environment × CANMessage)) :
    keep.Along Right ⟨⟨myControlFunction, partnerControlFunction, isVtVersion6Supported, []⟩, []⟩
        inputs ↔
      keep.Along Clear ⟨⟨myControlFunction, partnerControlFunction, isVtVersion6Supported, []⟩, []⟩
        inputs := by
  apply keep.along_iff_of_kept (P := Kept)
  · exact fun _ input h => right_iff_clear h input
  · exact fun _ _ h hright => kept_next h hright
  · exact ⟨⟨fun aux haux => absurd haux List.not_mem_nil, .nil⟩, fun _ => Iff.rfl⟩

/-- Device 2 has a name, and all that is handed over is sent. -/
def joystick : Environment where
  now := 0
  world := fun controlFunction =>
    if controlFunction = 2 then ⟨.external, 7, 0x90, 0⟩ else ⟨.external, 0, 0x26, 0⟩
  send := fun _ => true

def toAll (parameterGroupNumber : UInt32) (source : CFRef) (data : List UInt8) : CANMessage where
  identifier := .ofFields .extended parameterGroupNumber 6 BROADCAST_CAN_ADDRESS 0x26
  data := data
  source := some source
  destination := none
  canPortIndex := 0
  timestampUs := 0

/-- The terminal assigns a function to input 500 of device 7. -/
def assignTo500 (functionObjectID : UInt8) : CANMessage :=
  toAll VirtualTerminalToECU 1
    [AuxiliaryAssignmentTypeTwoCommand, 7, 0, 0, 0, 0, 0, 0, 0, 0, 0xF4, 0x01, functionObjectID, 0]

/-- Two functions are assigned to one input, which then tells its status. -/
theorem twoFunctions_not_right :
    ¬keep.Along Right ⟨⟨0, 1, false, []⟩, []⟩
      [(joystick, toAll ECUtoVirtualTerminal 2
          [AuxiliaryInputTypeTwoMaintenanceMessage, 1, 0, 1, 0xFF, 0xFF, 0xFF, 0xFF]),
        (joystick, assignTo500 100), (joystick, assignTo500 101),
        (joystick, toAll VirtualTerminalToECU 2
          [AuxiliaryInputTypeTwoStatusMessage, 0xF4, 0x01, 1, 0, 1, 0, 0])] := by
  rintro ⟨-, -, -, ⟨-, -, h⟩, -⟩
  have hperm := h (7, 500) (by decide +kernel)
  revert hperm
  decide +kernel

end AuxiliaryLedger

end Isobus.VirtualTerminalClient
