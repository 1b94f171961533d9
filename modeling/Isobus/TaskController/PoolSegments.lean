import Isobus.TaskController.ClientTimeout
import Isobus.TaskController.MessageEffects

namespace Isobus.TaskController

open Isobus.Can Isobus.Lib TaskControllerServer

structure StoreCall where
  source : CFRef
  objectPool : List UInt8
  appendToPool : Bool
  deriving DecidableEq

namespace TaskControllerServer

def storeCall (env : ServerEnvironment) (message : CANMessage) (server : TaskControllerServer) :
    Option StoreCall := do
  let given ← server.poolCommand env message
  if given.parameter = .objectPoolTransfer then
    return ⟨given.source, message.data.tail, given.client.numberOfObjectPoolSegments ≠ 0⟩
  else none

variable {config : ServerConfiguration} {env : ServerEnvironment}
variable {application : Application} {message : CANMessage} {server : TaskControllerServer}

theorem storeCall_eq_some {call : StoreCall} (h : server.storeCall env message = some call) :
    ∃ given, server.poolCommand env message = some given ∧
      given.parameter = .objectPoolTransfer ∧ call = ⟨given.source, message.data.tail,
        given.client.numberOfObjectPoolSegments ≠ 0⟩ := by
  obtain ⟨given, hgiven, h⟩ := Option.bind_eq_some_iff.mp h
  split_ifs at h with hparameter
  exact ⟨given, hgiven, hparameter, (Option.some.inj h).symm⟩

end TaskControllerServer

/-- The segments stored for each client since it became one or since its pool was deleted. -/
abbrev Segments := Identity → List (List UInt8)

def identityOf (world : World) (c : CFRef) : Identity :=
  ((world c).controlFunctionNAME, (world c).canPortIndex)

def deletedPool (env : ServerEnvironment) (application : Application) (message : CANMessage)
    (server : TaskControllerServer) : Option CFRef := do
  let given ← server.poolCommand env message
  if given.parameter = .deleteObjectPool ∧
      (application.deleteDeviceDescriptorObjectPool given.source).1 then return given.source
  else none

def newClient (env : ServerEnvironment) (message : CANMessage) (server : TaskControllerServer) :
    Option CFRef :=
  if isAccepted env.world server.tracked message then message.source else none

def noteSegment (env : ServerEnvironment) (application : Application) (message : CANMessage)
    (server : TaskControllerServer) (segments : Segments) : Segments :=
  match newClient env message server, deletedPool env application message server,
      server.storeCall env message with
  | some c, _, _ => Function.update segments (identityOf env.world c) []
  | none, some c, _ => Function.update segments (identityOf env.world c) []
  | none, none, some call =>
    if application.storeDeviceDescriptorObjectPool call.source call.objectPool
        call.appendToPool then
      Function.update segments (identityOf env.world call.source)
        (segments (identityOf env.world call.source) ++ [call.objectPool])
    else segments
  | none, none, none => segments

/-- The call continues the stored segments, and stores the first one as such: an application that
holds their concatenation has one segment more then. -/
def ContinuesSegments (env : ServerEnvironment) (server : TaskControllerServer)
    (segments : Segments) (message : CANMessage) : Prop :=
  ∀ call, server.storeCall env message = some call →
    let stored := segments (identityOf env.world call.source)
    call.appendToPool = decide (stored ≠ []) ∧
      (if call.appendToPool then stored.flatten else []) ++ call.objectPool =
        (stored ++ [call.objectPool]).flatten

def TransfersWhole (env : ServerEnvironment) (server : TaskControllerServer)
    (segments : Segments) (message : CANMessage) : Prop :=
  ∀ call, server.storeCall env message = some call →
    segments (identityOf env.world call.source) = []

variable (config : ServerConfiguration) (env : ServerEnvironment)

def noteQueue (server : TaskControllerServer) (segments : Segments) :
    List CANMessage → Nat → Segments
  | [], _ => segments
  | message :: rest, k =>
    let noted := noteSegment env (env.application k) message server segments
    match server.processRxMessage config env (env.application k) message with
    | some first => noteQueue first.1 noted rest (k + 1)
    | none => noted

def AlongQueue (ok : TaskControllerServer → Segments → CANMessage → Prop)
    (server : TaskControllerServer) (segments : Segments) : List CANMessage → Nat → Prop
  | [], _ => True
  | message :: rest, k =>
    ok server segments message ∧
      ∀ first, server.processRxMessage config env (env.application k) message =
        some first → AlongQueue ok first.1
          (noteSegment env (env.application k) message server segments) rest (k + 1)

/-- The server with the segments that are stored; nothing is left of it behind an aborted
call. -/
def storingServer : Machine (Option (TaskControllerServer × Segments)) ServerInput ServerEvent where
  step
    | none, _ => (none, [])
    | some (server, segments), input =>
      match server.serve config input with
      | none => (none, [])
      | some r =>
        (some (r.1, match input.call with
          | .update => noteQueue config input.env { server with rxMessageQueue := [] }
              segments server.rxMessageQueue 0
          | _ => segments), r.2)

def AlongUpdate (ok : ServerEnvironment → TaskControllerServer → Segments → CANMessage → Prop) :
    Option (TaskControllerServer × Segments) → ServerInput → Prop
  | some (server, segments), input => input.call = .update →
      AlongQueue config input.env (ok input.env) { server with rxMessageQueue := [] }
        segments server.rxMessageQueue 0
  | none, _ => True

variable {config} {env} {server : TaskControllerServer} {segments : Segments}
variable {message : CANMessage}

theorem appendToPool_eq_false (h : server.Unsegmented) {call : StoreCall}
    (hcall : server.storeCall env message = some call) : call.appendToPool = false := by
  obtain ⟨given, hgiven, -, rfl⟩ := storeCall_eq_some hcall
  obtain ⟨-, -, -, -, -, -, hclient, -⟩ := poolCommand_eq_some hgiven
  simp [h given.client (List.mem_of_find?_eq_some hclient)]

theorem continuesSegments_iff (h : server.Unsegmented) :
    ContinuesSegments env server segments message ↔
      TransfersWhole env server segments message := by
  unfold ContinuesSegments TransfersWhole
  refine forall_congr' fun call => forall_congr' fun hcall => ?_
  dsimp only
  rw [appendToPool_eq_false h hcall]
  constructor
  · rintro ⟨hfirst, -⟩
    simpa using hfirst
  · intro hfirst
    rw [hfirst]
    simp

theorem alongQueue_congr {ok ok' : TaskControllerServer → Segments → CANMessage → Prop}
    (hiff : ∀ server segments message, server.Unsegmented →
      (ok server segments message ↔ ok' server segments message))
    (h : server.Unsegmented) (messages : List CANMessage) (k : Nat) :
    AlongQueue config env ok server segments messages k ↔
      AlongQueue config env ok' server segments messages k := by
  induction messages generalizing server segments k with
  | nil => exact Iff.rfl
  | cons message rest ih =>
    refine and_congr (hiff server segments message h) ?_
    refine forall_congr' fun first => forall_congr' fun hfirst => ?_
    exact ih ((leaves_processRxMessage first hfirst).2.1 h) (k + 1)

theorem unsegmented_processRxMessages {messages : List CANMessage} {k : Nat}
    {r : TaskControllerServer × List ServerEvent} (h : server.Unsegmented)
    (hr : server.processRxMessages config env messages k = some r) : r.1.Unsegmented := by
  induction messages generalizing server k r with
  | nil =>
    cases hr
    exact h
  | cons message rest ih =>
    obtain ⟨first, hfirst, hr⟩ := Option.bind_eq_some_iff.mp hr
    obtain ⟨others, hothers, hr⟩ := Option.bind_eq_some_iff.mp hr
    have hrest := ih ((leaves_processRxMessage first hfirst).2.1 h) hothers
    cases hr
    exact hrest

theorem unsegmented_serve {input : ServerInput} {r : TaskControllerServer × List ServerEvent}
    (h : server.Unsegmented) (hr : server.serve config input = some r) :
    r.1.Unsegmented := by
  obtain ⟨env, call⟩ := input
  cases call with
  | storeRxMessage message =>
    cases hr
    exact h
  | setTaskTotalsActive isTaskActive =>
    cases hr
    change (server.setTaskTotalsActive isTaskActive).Unsegmented
    unfold setTaskTotalsActive
    by_cases hchange : isTaskActive ≠ server.getTaskTotalsActive
    · rw [if_pos hchange]
      exact h
    · rw [if_neg hchange]
      exact h
  | setCommandBusy isBusy clientAddress commandByte =>
    cases hr
    exact h.setCommandBusy isBusy clientAddress commandByte
  | update =>
    obtain ⟨processed, removed, hprocessed, hremoved, rfl⟩ := update_eq_some hr
    have hworked : processed.1.Unsegmented :=
      unsegmented_processRxMessages (show ({ server with rxMessageQueue := [] } :
        TaskControllerServer).Unsegmented from h) hprocessed
    intro client hclient
    have hmem := subset_removeTimedOut hremoved hclient
    rw [activeClients_updateStatus] at hmem
    exact hworked client hmem

def NothingCounted (state : Option (TaskControllerServer × Segments)) : Prop :=
  ∀ r, state = some r → r.1.Unsegmented

/-- The application is told the truth about every segment exactly if every pool comes in one
segment. -/
theorem continuesSegments_along_iff (config : ServerConfiguration)
    (inputs : List ServerInput) :
    (storingServer config).Along (AlongUpdate config ContinuesSegments)
        (some ({}, fun _ => [])) inputs ↔
      (storingServer config).Along (AlongUpdate config TransfersWhole)
        (some ({}, fun _ => [])) inputs := by
  refine Machine.along_iff_of_kept _ (P := NothingCounted) ?_ ?_ ?_ inputs
  · rintro (_ | ⟨server, segments⟩) input h
    · exact Iff.rfl
    · refine imp_congr Iff.rfl (alongQueue_congr (fun _ _ _ => continuesSegments_iff) ?_ _ _)
      exact h _ rfl
  · rintro (_ | ⟨server, segments⟩) input h - r hr
    · exact absurd hr (by simp [Machine.next, storingServer])
    · cases hserve : server.serve config input with
      | none => simp [Machine.next, storingServer, hserve] at hr
      | some outcome =>
        simp only [Machine.next, storingServer, hserve, Option.some.injEq] at hr
        subst hr
        exact unsegmented_serve (h _ rfl) hserve
  · rintro r hr
    cases hr
    exact List.forall_mem_nil _

/-- A client sends us a message, which the application would take. -/
def clientCall (call : ServerCall) : ServerInput where
  env := ⟨0, fun _ => ⟨.external, 5, 0x80, 0⟩, fun _ => true, fun _ => quietApplication⟩
  call := call

def segmentMessage (identifier : UInt32) (first : UInt8) : CANMessage :=
  ⟨⟨identifier⟩, [first, 1, 2, 3, 4, 5, 6, 7], some 0, some 7, 0, 0⟩

/-- A client announces itself and sends its pool in two segments. -/
def twoSegments : List ServerInput :=
  [clientCall (.storeRxMessage (segmentMessage 0x9CFE0D80 1)),
    clientCall (.storeRxMessage (segmentMessage 0x8CCB0780 0x61)),
    clientCall (.storeRxMessage (segmentMessage 0x8CCB0780 0x61)), clientCall .update]

theorem twoSegments_not_continued :
    ¬(storingServer plainServer).Along (AlongUpdate plainServer ContinuesSegments)
      (some ({}, fun _ => [])) twoSegments := by
  rintro ⟨-, -, -, hupdate, -⟩
  have hsecond := (((hupdate rfl).2 _ rfl).2 _ rfl).1 _ rfl
  revert hsecond
  decide +kernel

end Isobus.TaskController
