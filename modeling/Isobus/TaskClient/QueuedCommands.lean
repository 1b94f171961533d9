import Isobus.TaskClient.Connected
import Isobus.TaskClient.OwnServer

namespace Isobus.TaskClient

open Isobus.Can Isobus.Lib Isobus.DeviceDescriptor Isobus.NetworkManager

def sentFrames (events : List Event) : List TransmitFrame :=
  events.filterMap fun event =>
    match event with
    | .message frame true => some frame
    | _ => none

@[simp] theorem sentFrames_append (events events' : List Event) :
    sentFrames (events ++ events') = sentFrames events ++ sentFrames events' :=
  List.filterMap_append ..

namespace TaskControllerClient

variable (env : Environment) (client : TaskControllerClient)

def answer (request : ProcessDataCallbackInfo) : Option TransmitFrame :=
  (env.application.requestedValue request).map
    (client.valueCommand request.elementNumber request.ddi)

def acknowledgement (command : ProcessDataCallbackInfo) : Option TransmitFrame :=
  if command.ackRequested then some (client.pdack command.elementNumber command.ddi) else none

end TaskControllerClient

def ProcessDataCallbackInfo.heardBy (command : ProcessDataCallbackInfo) :
    List (UInt16 → UInt16 → Int32 → Bool) → Nat
  | [] => 0
  | callback :: callbacks =>
    if callback command.elementNumber command.ddi command.processDataValue then 1
    else command.heardBy callbacks + 1

namespace Turn

variable (env : Environment) {turn : Turn}

theorem sentFrames_offer (frame : TransmitFrame) :
    sentFrames (turn.offer env frame).events =
      sentFrames turn.events ++ if turn.sent env then [frame] else [] := by
  cases hsent : turn.sent env <;> simp [offer, emit, hsent, sentFrames]

/-- What became of a queue: a part of it is gone, and every message of this part was sent, if none
was refused; else all but the last one. -/
structure Drained (due : ProcessDataCallbackInfo → Option TransmitFrame) (turn : Turn)
    (items : List ProcessDataCallbackInfo) (processed : Processed) : Prop where
  client : processed.turn.client = turn.client
  left : ∃ gone, items = gone ++ processed.remaining ∧
    ∃ refused : List TransmitFrame,
      sentFrames processed.turn.events ++ refused =
        sentFrames turn.events ++ gone.filterMap due ∧
      (processed.transmitSuccessful = true ↔ refused = [])
  finished : processed.transmitSuccessful = true → processed.remaining = []

theorem Drained.nil (due : ProcessDataCallbackInfo → Option TransmitFrame) :
    Drained due turn [] ⟨true, [], turn⟩ :=
  ⟨rfl, ⟨[], rfl, [], by simp, by simp⟩, fun _ => rfl⟩

theorem Drained.cons {due : ProcessDataCallbackInfo → Option TransmitFrame} {turn' : Turn}
    {item : ProcessDataCallbackInfo} {items : List ProcessDataCallbackInfo}
    {processed : Processed} (hclient : turn'.client = turn.client)
    (hsent : sentFrames turn'.events = sentFrames turn.events ++ (due item).toList)
    (h : Drained due turn' items processed) : Drained due turn (item :: items) processed := by
  obtain ⟨gone, hgone, refused, hrefused, hiff⟩ := h.left
  refine ⟨h.client.trans hclient, ⟨item :: gone, by rw [hgone]; rfl, refused, ?_, hiff⟩, h.finished⟩
  rw [hrefused, hsent, List.append_assoc]
  cases hdue : due item <;> simp [hdue]

theorem Drained.refused {due : ProcessDataCallbackInfo → Option TransmitFrame} {turn' : Turn}
    {item : ProcessDataCallbackInfo} {items : List ProcessDataCallbackInfo}
    {frame : TransmitFrame} (hclient : turn'.client = turn.client)
    (hsent : sentFrames turn'.events = sentFrames turn.events) (hdue : due item = some frame) :
    Drained due turn (item :: items) ⟨false, items, turn'⟩ :=
  ⟨hclient, ⟨[item], rfl, [frame], by simp [hsent, hdue], by simp⟩, by simp⟩

theorem drained_processQueuedValueRequests (requests : List ProcessDataCallbackInfo)
    (turn : Turn) :
    Drained (turn.client.answer env) turn requests
      (turn.processQueuedValueRequests env requests) := by
  induction requests generalizing turn with
  | nil => exact Drained.nil _
  | cons request requests ih =>
    rw [processQueuedValueRequests]
    cases hvalue : env.application.requestedValue request with
    | none => exact Drained.cons rfl (by simp [TaskControllerClient.answer, hvalue]) (ih turn)
    | some newValue =>
      have hdue : turn.client.answer env request =
          some (turn.client.valueCommand request.elementNumber request.ddi newValue) := by
        rw [TaskControllerClient.answer, hvalue]
        rfl
      have hsent := turn.sentFrames_offer env
        (turn.client.valueCommand request.elementNumber request.ddi newValue)
      by_cases hsends : turn.sent env
      · rw [if_pos hsends] at hsent
        simp only [if_pos hsends]
        have hrest := ih (turn.offerValue env request newValue)
        have hclient : (turn.offerValue env request newValue).client = turn.client := rfl
        exact Drained.cons hclient (by rw [hdue]; exact hsent) hrest
      · rw [if_neg hsends, List.append_nil] at hsent
        simp only [if_neg hsends]
        exact Drained.refused rfl hsent hdue

theorem commandValue_eq (command : ProcessDataCallbackInfo)
    (callbacks : List (UInt16 → UInt16 → Int32 → Bool)) (turn : Turn) :
    turn.commandValue command callbacks =
      { turn with
        events := turn.events ++ List.replicate (command.heardBy callbacks)
          (.valueCommand command.elementNumber command.ddi command.processDataValue) } := by
  induction callbacks generalizing turn with
  | nil => simp [commandValue, ProcessDataCallbackInfo.heardBy]
  | cons callback callbacks ih =>
    rw [commandValue, ProcessDataCallbackInfo.heardBy]
    split
    · rfl
    · rw [ih]
      simp [emit, List.replicate_succ]

theorem sentFrames_commandValue (command : ProcessDataCallbackInfo)
    (callbacks : List (UInt16 → UInt16 → Int32 → Bool)) :
    sentFrames (turn.commandValue command callbacks).events = sentFrames turn.events := by
  rw [commandValue_eq, sentFrames_append]
  induction command.heardBy callbacks with
  | zero => exact List.append_nil _
  | succ n ih => exact ih

theorem drained_processQueuedValueCommands (commands : List ProcessDataCallbackInfo)
    (turn : Turn) :
    Drained turn.client.acknowledgement turn commands
      (turn.processQueuedValueCommands env commands) := by
  induction commands generalizing turn with
  | nil => exact Drained.nil _
  | cons command commands ih =>
    have hclient : (turn.commandValue command env.application.valueCommandsCallbacks).client =
        turn.client := by rw [commandValue_eq]
    have hheard := turn.sentFrames_commandValue command env.application.valueCommandsCallbacks
    rw [processQueuedValueCommands]
    generalize turn.commandValue command env.application.valueCommandsCallbacks = commanded
      at hclient hheard ⊢
    by_cases hack : command.ackRequested
    · have hdue : turn.client.acknowledgement command =
          some (turn.client.pdack command.elementNumber command.ddi) := if_pos hack
      have hsent := commanded.sentFrames_offer env
        (turn.client.pdack command.elementNumber command.ddi)
      rw [hheard] at hsent
      by_cases hsends : commanded.sent env
      · rw [if_pos hsends] at hsent
        simp only [if_pos hack, if_pos hsends]
        have hoffered : (commanded.offer env
            (turn.client.pdack command.elementNumber command.ddi)).client = turn.client := hclient
        have hrest := ih (commanded.offer env
          (turn.client.pdack command.elementNumber command.ddi))
        rw [hoffered] at hrest
        exact Drained.cons hoffered (by rw [hdue]; exact hsent) hrest
      · rw [if_neg hsends, List.append_nil] at hsent
        simp only [if_pos hack, if_neg hsends]
        exact Drained.refused hclient hsent hdue
    · have hdue : turn.client.acknowledgement command = none := if_neg hack
      simp only [if_neg hack]
      have hrest := ih commanded
      rw [hclient] at hrest
      exact Drained.cons hclient (by rw [hdue, hheard]; simp) hrest

end Turn

namespace Environment

variable (env : Environment)

def answered (requests : List ProcessDataCallbackInfo) : Nat :=
  requests.countP fun request => (env.application.requestedValue request).isSome

/-- How much is noted before each of the acknowledgements, while none is refused. -/
def acknowledgedAt : Nat → List ProcessDataCallbackInfo → List Nat
  | _, [] => []
  | noted, command :: commands =>
    let heard := noted + command.heardBy env.application.valueCommandsCallbacks
    if command.ackRequested then heard :: acknowledgedAt (heard + 1) commands
    else acknowledgedAt heard commands

def TakesAll (queues : Queues) : Prop :=
  (∀ k < env.answered queues.queuedValueRequests, env.accepts k = true) ∧
    ∀ k ∈ env.acknowledgedAt (env.answered queues.queuedValueRequests) queues.queuedValueCommands,
      env.accepts k = true

instance decidableTakesAll (queues : Queues) : Decidable (env.TakesAll queues) :=
  inferInstanceAs (Decidable (_ ∧ _))

end Environment

namespace Turn

variable (env : Environment) {turn : Turn}

theorem length_offer (frame : TransmitFrame) :
    (turn.offer env frame).events.length = turn.events.length + 1 := by
  simp [offer, emit]

theorem length_processQueuedValueRequests (requests : List ProcessDataCallbackInfo) (turn : Turn)
    (h : (turn.processQueuedValueRequests env requests).transmitSuccessful = true) :
    (turn.processQueuedValueRequests env requests).turn.events.length =
      turn.events.length + env.answered requests := by
  induction requests generalizing turn with
  | nil => rfl
  | cons request requests ih =>
    rw [processQueuedValueRequests] at h ⊢
    rw [Environment.answered, List.countP_cons]
    cases hvalue : env.application.requestedValue request with
    | none =>
      simp only [hvalue] at h ⊢
      exact ih turn h
    | some newValue =>
      simp only [hvalue] at h ⊢
      by_cases hsends : turn.sent env
      · simp only [if_pos hsends] at h ⊢
        rw [ih _ h, offerValue, length_offer]
        simp only [Option.isSome_some, if_true, Environment.answered]
        omega
      · simp [hsends] at h

theorem processQueuedValueRequests_iff (requests : List ProcessDataCallbackInfo) (turn : Turn) :
    (turn.processQueuedValueRequests env requests).transmitSuccessful = true ↔
      ∀ k < env.answered requests, env.accepts (turn.events.length + k) = true := by
  induction requests generalizing turn with
  | nil => simp [processQueuedValueRequests, Environment.answered]
  | cons request requests ih =>
    rw [processQueuedValueRequests, Environment.answered, List.countP_cons]
    cases hvalue : env.application.requestedValue request with
    | none => exact ih turn
    | some newValue =>
      have hrest := ih (turn.offerValue env request newValue)
      rw [offerValue, length_offer] at hrest
      simp only [Option.isSome_some, if_true]
      rw [Nat.forall_lt_succ_left]
      by_cases hsends : turn.sent env
      · simp only [if_pos hsends]
        rw [offerValue, hrest]
        simp only [Nat.add_right_comm _ 1, Nat.add_assoc]
        exact ⟨fun h => ⟨hsends, h⟩, fun h => h.2⟩
      · simp only [if_neg hsends]
        exact ⟨fun h => absurd h (by decide), fun h => absurd h.1 hsends⟩

theorem processQueuedValueCommands_iff (commands : List ProcessDataCallbackInfo) (turn : Turn) :
    (turn.processQueuedValueCommands env commands).transmitSuccessful = true ↔
      ∀ k ∈ env.acknowledgedAt turn.events.length commands, env.accepts k = true := by
  induction commands generalizing turn with
  | nil => simp [processQueuedValueCommands, Environment.acknowledgedAt]
  | cons command commands ih =>
    have hlength : (turn.commandValue command
        env.application.valueCommandsCallbacks).events.length =
        turn.events.length + command.heardBy env.application.valueCommandsCallbacks := by
      rw [commandValue_eq, List.length_append, List.length_replicate]
    rw [processQueuedValueCommands, Environment.acknowledgedAt]
    simp only [← hlength]
    generalize turn.commandValue command env.application.valueCommandsCallbacks = commanded
    by_cases hack : command.ackRequested
    · have hrest := ih (commanded.offer env
        (turn.client.pdack command.elementNumber command.ddi))
      rw [length_offer] at hrest
      simp only [if_pos hack, List.forall_mem_cons]
      by_cases hsends : commanded.sent env
      · simp only [if_pos hsends]
        exact hrest.trans ⟨fun h => ⟨hsends, h⟩, fun h => h.2⟩
      · simp only [if_neg hsends]
        exact ⟨fun h => absurd h (by decide), fun h => absurd h.1 hsends⟩
    · simp only [if_neg hack]
      exact ih commanded

/-- What one update makes of the queues; the messages that were refused are those that are
missing. -/
theorem exists_processQueuedCommands (turn : Turn) (hevents : turn.events = []) :
    ∃ goneRequests goneCommands refused,
      turn.client.queues.queuedValueRequests =
          goneRequests ++ (turn.processQueuedCommands env).client.queues.queuedValueRequests ∧
        turn.client.queues.queuedValueCommands =
          goneCommands ++ (turn.processQueuedCommands env).client.queues.queuedValueCommands ∧
        sentFrames (turn.processQueuedCommands env).events ++ refused =
          goneRequests.filterMap (turn.client.answer env) ++
            goneCommands.filterMap turn.client.acknowledgement ∧
        (env.TakesAll turn.client.queues ↔ refused = []) := by
  have hrequests := turn.drained_processQueuedValueRequests env
    turn.client.queues.queuedValueRequests
  have hiff := turn.processQueuedValueRequests_iff env
    turn.client.queues.queuedValueRequests
  have hlength := turn.length_processQueuedValueRequests env
    turn.client.queues.queuedValueRequests
  rw [hevents] at hiff hlength
  obtain ⟨goneRequests, hgoneRequests, refused, hrefused, hsuccess⟩ := hrequests.left
  rw [hevents] at hrefused
  simp only [List.length_nil, Nat.zero_add] at hiff hlength
  by_cases h : (turn.processQueuedValueRequests env
      turn.client.queues.queuedValueRequests).transmitSuccessful = true
  · have hcommands := (turn.processQueuedValueRequests env
      turn.client.queues.queuedValueRequests).turn.drained_processQueuedValueCommands env
      turn.client.queues.queuedValueCommands
    have hiff' := (turn.processQueuedValueRequests env
      turn.client.queues.queuedValueRequests).turn.processQueuedValueCommands_iff env
      turn.client.queues.queuedValueCommands
    rw [hrequests.client] at hcommands
    rw [hlength h] at hiff'
    obtain ⟨goneCommands, hgoneCommands, refused', hrefused', hsuccess'⟩ := hcommands.left
    rw [hsuccess.mp h, List.append_nil] at hrefused
    refine ⟨goneRequests, goneCommands, refused', ?_, ?_, ?_, ?_⟩
    · exact hgoneRequests
    · simp only [processQueuedCommands, h, if_true, map]
      exact hgoneCommands
    · simp only [processQueuedCommands, h, if_true, map]
      rw [hrefused', hrefused]
      rfl
    · rw [← hsuccess', hiff']
      exact and_iff_right (hiff.mp h)
  · refine ⟨goneRequests, [], refused, ?_, ?_, ?_, ?_⟩
    · exact hgoneRequests
    · simp only [processQueuedCommands, if_neg h, map, List.nil_append]
    · simp only [processQueuedCommands, if_neg h, map, List.filterMap_nil, List.append_nil]
      exact hrefused
    · rw [← hsuccess]
      exact iff_of_false (fun htakes => h (hiff.mpr htakes.1)) h

end Turn

/-- What was queued, what is gone, the messages that this leads to, and those that were sent. -/
structure Ledger where
  requests : List ProcessDataCallbackInfo
  commands : List ProcessDataCallbackInfo
  goneRequests : List ProcessDataCallbackInfo := []
  goneCommands : List ProcessDataCallbackInfo := []
  due : List TransmitFrame := []
  sent : List TransmitFrame := []

def TaskControllerClient.queuedSends (env : Environment) (client : TaskControllerClient) :
    List TransmitFrame :=
  match (⟨client, []⟩ : Turn).processAllDefaultProcessDataRequests env with
  | some prepared => sentFrames (prepared.processQueuedCommands env).events
  | none => []

namespace Ledger

def start (client : TaskControllerClient) : Ledger where
  requests := client.queues.queuedValueRequests
  commands := client.queues.queuedValueCommands

variable (ledger : Ledger) (before after : TaskControllerClient)

def arrived : Ledger :=
  { ledger with
    requests := ledger.requests ++
      after.queues.queuedValueRequests.drop before.queues.queuedValueRequests.length
    commands := ledger.commands ++
      after.queues.queuedValueCommands.drop before.queues.queuedValueCommands.length }

def processed (env : Environment) : Ledger :=
  let goneRequests := before.queues.queuedValueRequests.take
    (before.queues.queuedValueRequests.length - after.queues.queuedValueRequests.length)
  let goneCommands := before.queues.queuedValueCommands.take
    (before.queues.queuedValueCommands.length - after.queues.queuedValueCommands.length)
  { ledger with
    goneRequests := ledger.goneRequests ++ goneRequests
    goneCommands := ledger.goneCommands ++ goneCommands
    due := ledger.due ++ (goneRequests.filterMap (before.answer env) ++
      goneCommands.filterMap before.acknowledgement)
    sent := ledger.sent ++ before.queuedSends env }

def note (state : Option TaskControllerClient) (input : Input) : Ledger :=
  match state, taskControllerClient.next state input, input.call with
  | some before, some after, .update => ledger.processed before after input.env
  | some before, some after, _ => ledger.arrived before after
  | _, _, _ => ledger

end Ledger

/-- Everything that was queued is gone or still queued, and what is gone was answered. -/
structure Balanced (ledger : Ledger) (client : TaskControllerClient) : Prop where
  requests : ledger.requests = ledger.goneRequests ++ client.queues.queuedValueRequests
  commands : ledger.commands = ledger.goneCommands ++ client.queues.queuedValueCommands
  sent : ledger.sent = ledger.due

def Call.IsQueueing : Call → Prop
  | .receive message =>
    message.identifier.getParameterGroupNumber = PROCESS_DATA ∧
      (ProcessDataCommands.ofByte (message.getUint8At 0) = .requestValue ∨
        ProcessDataCommands.ofByte (message.getUint8At 0) = .value ∨
        ProcessDataCommands.ofByte (message.getUint8At 0) = .setValueAndAcknowledge)
  | .onValueChangedTrigger _ _ => True
  | .update => True
  | _ => False

def StaysConnected (state : Option TaskControllerClient) (input : Input) : Prop :=
  input.call.IsQueueing ∧ ∃ before after, state = some before ∧
    taskControllerClient.next state input = some after ∧
    before.currentState = .connected ∧ after.currentState = .connected

structure Grows (turn turn' : Turn) : Prop where
  requests : turn.client.queues.queuedValueRequests <+: turn'.client.queues.queuedValueRequests
  commands : turn.client.queues.queuedValueCommands <+: turn'.client.queues.queuedValueCommands

namespace Turn

variable {env : Environment} {message : CANMessage} {turn turn' : Turn}

theorem grows_processRequestValue : Grows turn (turn.processRequestValue message) := by
  rw [processRequestValue]
  split <;> exact ⟨List.prefix_append _ _, List.prefix_rfl⟩

theorem grows_processRxMessage (h : (Call.receive message).IsQueueing) :
    Grows turn (turn.processRxMessage env message) := by
  obtain ⟨hgroup, hkind⟩ := h
  rw [processRxMessage]
  cases message.source with
  | none => exact ⟨List.prefix_rfl, List.prefix_rfl⟩
  | some source =>
    dsimp only
    split
    · rw [hgroup, if_neg (by decide), processProcessData]
      obtain h | h | h := hkind
      all_goals simp only [h]
      · exact grows_processRequestValue
      · exact ⟨List.prefix_rfl, List.prefix_append _ _⟩
      · exact ⟨List.prefix_rfl, List.prefix_append _ _⟩
    · exact ⟨List.prefix_rfl, List.prefix_rfl⟩

theorem grows_processLanguageCommand : Grows turn (turn.processLanguageCommand env message) := by
  rw [processLanguageCommand]
  simp only [map]
  constructor <;> split <;> exact List.prefix_rfl

theorem grows_receive (h : (Call.receive message).IsQueueing) :
    Grows turn (turn.receive env message) := by
  refine foldl_rel (R := Grows) (fun _ => ⟨List.prefix_rfl, List.prefix_rfl⟩)
    (fun _ _ _ h h' => ⟨h.requests.trans h'.requests, h.commands.trans h'.commands⟩)
    fun turn entry _ => ?_
  rw [callEntry]
  split
  · split
    · exact grows_processRxMessage h
    · split
      · exact grows_processLanguageCommand
      · exact ⟨List.prefix_rfl, List.prefix_rfl⟩
  · exact ⟨List.prefix_rfl, List.prefix_rfl⟩

end Turn

variable {ledger : Ledger} {before after : TaskControllerClient} {env : Environment}

theorem drop_length_of_prefix {α : Type} {xs ys : List α} (h : xs <+: ys) :
    xs ++ ys.drop xs.length = ys := by
  obtain ⟨zs, rfl⟩ := h
  rw [List.drop_left]

theorem Balanced.arrived (h : Balanced ledger before)
    (hrequests : before.queues.queuedValueRequests <+: after.queues.queuedValueRequests)
    (hcommands : before.queues.queuedValueCommands <+: after.queues.queuedValueCommands) :
    Balanced (ledger.arrived before after) after := by
  refine ⟨?_, ?_, h.sent⟩
  · simp only [Ledger.arrived]
    rw [h.requests, List.append_assoc, drop_length_of_prefix hrequests]
  · simp only [Ledger.arrived]
    rw [h.commands, List.append_assoc, drop_length_of_prefix hcommands]

theorem answer_eq_of_sameWaiting (h : SameWaiting before after) :
    after.answer env = before.answer env := by
  funext request
  simp only [TaskControllerClient.answer]
  rw [show after.valueCommand = before.valueCommand by
    funext elementNumber ddi value
    simp only [TaskControllerClient.valueCommand, TaskControllerClient.processDataFrame,
      h.myControlFunction, h.partnerControlFunction]]

theorem acknowledgement_eq_of_sameWaiting (h : SameWaiting before after) :
    after.acknowledgement = before.acknowledgement := by
  funext command
  simp only [TaskControllerClient.acknowledgement, TaskControllerClient.pdack,
    TaskControllerClient.processDataFrame, h.myControlFunction, h.partnerControlFunction]

theorem takesAll_congr (h : SameWaiting before after) :
    env.TakesAll after.queues ↔ env.TakesAll before.queues := by
  rw [Environment.TakesAll, Environment.TakesAll, h.queuedValueRequests, h.queuedValueCommands]

theorem take_sub_length {α : Type} {xs gone rest : List α} (h : xs = gone ++ rest) :
    xs.take (xs.length - rest.length) = gone := by
  rw [h, List.length_append, Nat.add_sub_cancel, List.take_left]

theorem balanced_processed_iff {turn : Turn} (h : Balanced ledger before)
    (hupdate : Turn.update env ⟨before, []⟩ = some turn)
    (hbefore : before.currentState = .connected) (hafter : turn.client.currentState = .connected) :
    Balanced (ledger.processed before turn.client env) turn.client ↔
      env.TakesAll before.queues := by
  obtain ⟨prepared, hprepared, rfl⟩ := Turn.update_connected hbefore hupdate hafter
  obtain ⟨hsame, hevents⟩ := Turn.sameWaiting_processAllDefaultProcessDataRequests hprepared
  obtain ⟨goneRequests, goneCommands, refused, hrequests, hcommands, hsent, hiff⟩ :=
    prepared.exists_processQueuedCommands env hevents
  have hsame' := (Turn.sameWaiting_processQueuedThresholdCommands env
    (prepared.processQueuedCommands env)).trans (Turn.sameWaiting_sendStatusIfDue env _)
  rw [← hsame'.queuedValueRequests, hsame.queuedValueRequests] at hrequests
  rw [← hsame'.queuedValueCommands, hsame.queuedValueCommands] at hcommands
  rw [answer_eq_of_sameWaiting hsame, acknowledgement_eq_of_sameWaiting hsame] at hsent
  have hsends : before.queuedSends env =
      sentFrames (prepared.processQueuedCommands env).events := by
    rw [TaskControllerClient.queuedSends, hprepared]
  rw [← takesAll_congr hsame, hiff]
  constructor
  · intro hbalanced
    have hlists := hbalanced.sent
    simp only [Ledger.processed, take_sub_length hrequests, take_sub_length hcommands] at hlists
    rw [h.sent, List.append_cancel_left_eq, hsends, ← hsent] at hlists
    exact List.self_eq_append_right.mp hlists
  · intro hrefused
    refine ⟨?_, ?_, ?_⟩
    · simp only [Ledger.processed, take_sub_length hrequests]
      rw [h.requests, List.append_assoc, ← hrequests]
    · simp only [Ledger.processed, take_sub_length hcommands]
      rw [h.commands, List.append_assoc, ← hcommands]
    · simp only [Ledger.processed, take_sub_length hrequests, take_sub_length hcommands]
      rw [h.sent, hsends, ← hsent, hrefused, List.append_nil]

def BooksBalance (state : Option TaskControllerClient × Ledger) : Prop :=
  ∀ client, state.1 = some client → Balanced state.2 client

/-- An update in which the network manager takes what the queues lead to. -/
def TakesAllIn (state : Option TaskControllerClient) (input : Input) : Prop :=
  ∀ client, state = some client → input.call = .update → input.env.TakesAll client.queues

theorem next_eq_some {input : Input}
    (h : taskControllerClient.next (some before) input = some after) :
    ∃ turn, Turn.serve input.env ⟨before, []⟩ input.call = some turn ∧ turn.client = after := by
  simp only [Machine.next, taskControllerClient] at h
  split at h
  · cases h
  · rename_i turn hserve
    exact ⟨turn, hserve, Option.some.inj h⟩

theorem booksBalance_next_iff (state : Option TaskControllerClient × Ledger) (input : Input)
    (h : BooksBalance state) (hstays : StaysConnected state.1 input) :
    BooksBalance ((taskControllerClient.recording Ledger.note).next state input) ↔
      TakesAllIn state.1 input := by
  obtain ⟨hqueueing, before, after, hbefore, hafter, hconnected, hconnected'⟩ := hstays
  have hbalanced := h before hbefore
  obtain ⟨_, ledger⟩ := state
  obtain rfl : _ = some before := hbefore
  obtain ⟨turn, hserve, rfl⟩ := next_eq_some hafter
  have hnext : BooksBalance
      ((taskControllerClient.recording Ledger.note).next (some before, ledger) input) ↔
        Balanced (ledger.note (some before) input) turn.client := by
    rw [Machine.recording_next]
    simp only [BooksBalance]
    rw [hafter]
    exact ⟨fun h => h _ rfl, fun h client hclient => Option.some.inj hclient ▸ h⟩
  have htakes : TakesAllIn (some before) input ↔
      (input.call = .update → input.env.TakesAll before.queues) :=
    ⟨fun h => h _ rfl, fun h client hclient => Option.some.inj hclient ▸ h⟩
  rw [hnext, htakes]
  obtain ⟨env, call⟩ := input
  simp only [Ledger.note, hafter]
  cases call with
  | update => exact (balanced_processed_iff hbalanced hserve hconnected hconnected').trans (by simp)
  | receive message =>
    cases hserve
    have hgrows : Grows ⟨before, []⟩ (Turn.receive env message ⟨before, []⟩) :=
      Turn.grows_receive hqueueing
    exact iff_of_true (hbalanced.arrived hgrows.requests hgrows.commands) (by simp)
  | onValueChangedTrigger elementNumber ddi =>
    cases hserve
    exact iff_of_true (hbalanced.arrived (List.prefix_append _ _) List.prefix_rfl) (by simp)
  | _ => exact hqueueing.elim

/-- The books balance at every moment exactly if the network manager always takes what the
queues lead to. -/
theorem booksBalance_along_iff (client : TaskControllerClient) (inputs : List Input)
    (hstays : taskControllerClient.Along StaysConnected (some client) inputs) :
    (∀ past, past <+: inputs → BooksBalance ((taskControllerClient.recording Ledger.note).run
        (some client, Ledger.start client) past)) ↔
      taskControllerClient.Along TakesAllIn (some client) inputs := by
  have hstart : BooksBalance (some client, Ledger.start client) := by
    intro client' hclient
    cases hclient
    exact ⟨rfl, rfl, rfl⟩
  rw [(taskControllerClient.recording Ledger.note).forall_prefix_iff_of_along
    booksBalance_next_iff hstart inputs
    ((taskControllerClient.recording_along_iff Ledger.note _ inputs).mpr hstays)]
  exact taskControllerClient.recording_along_iff Ledger.note _ inputs

def connectedClient : TaskControllerClient :=
  { TaskControllerClient.create 0 0 1 none with currentState := .connected }

def answering (accepts : Bool) : Environment :=
  { quietAt 0 with accepts := fun _ => accepts, application := ⟨[], [fun _ _ _ => (true, 5)], []⟩ }

def changedValue (accepts : Bool) : List Input :=
  [⟨answering accepts, .onValueChangedTrigger 1 0x0086⟩, ⟨answering accepts, .update⟩]

theorem staysConnected_changedValue (accepts : Bool) :
    taskControllerClient.Along StaysConnected (some connectedClient) (changedValue accepts) := by
  cases accepts <;>
    exact ⟨⟨trivial, _, _, rfl, rfl, rfl, rfl⟩, ⟨trivial, _, _, rfl, rfl, rfl, rfl⟩, trivial⟩

theorem booksBalance_sentValue :
    taskControllerClient.Along StaysConnected (some connectedClient) (changedValue true) ∧
      ∀ past, past <+: changedValue true →
        BooksBalance ((taskControllerClient.recording Ledger.note).run
          (some connectedClient, Ledger.start connectedClient) past) := by
  refine ⟨staysConnected_changedValue true, (booksBalance_along_iff connectedClient
    (changedValue true) (staysConnected_changedValue true)).mpr ⟨?_, ?_, trivial⟩⟩
  · intro client _ hupdate
    cases hupdate
  · intro client hclient _
    cases hclient
    decide

/-- The value is lost with the message that was refused. -/
theorem refusedValue_not_balanced :
    taskControllerClient.Along StaysConnected (some connectedClient) (changedValue false) ∧
      ¬∀ past, past <+: changedValue false →
        BooksBalance ((taskControllerClient.recording Ledger.note).run
          (some connectedClient, Ledger.start connectedClient) past) := by
  refine ⟨staysConnected_changedValue false, fun h => ?_⟩
  have hsent := (h _ List.prefix_rfl _ rfl).sent
  revert hsent
  decide +kernel

end Isobus.TaskClient
