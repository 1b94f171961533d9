import Isobus.Heartbeats.Interface
import Isobus.Lib.Machine

/-!
# Heartbeats between two stacks

The control functions of one stack send heartbeats, and the interface of another receives them, in
the order of each sender. On the way a heartbeat may get lost or be doubled. Every heartbeat is
numbered, so that it can be said which one a receiver may expect.
-/

namespace Isobus.Heartbeats

open Isobus.Can Isobus.Lib HeartbeatInterface

/-- The control functions of both sides; the receiver knows each sender as one that is not
its own. -/
structure StackPair where
  senderWorld : World
  receiverWorld : World
  remote : CFRef → CFRef
  remote_injective : Function.Injective remote
  remote_ne_internal : ∀ c, (receiverWorld (remote c)).controlFunctionType ≠ .internal

/-- What a stack does with its interface on its own account. -/
inductive InterfaceCall (world : World)
  | update (now : UInt32) (send : TransmitFrame → Bool)
  | processRequestForHeartbeat (parameterGroupNumber : UInt32) (target : CFRef)
      (internal : (world target).controlFunctionType = .internal)
  | setEnabled (enable : Bool)

def InterfaceCall.serve {world : World} (interface : HeartbeatInterface) :
    InterfaceCall world → HeartbeatInterface × List HeartbeatEvent
  | .update now send => interface.update ⟨now, world, send⟩
  | .processRequestForHeartbeat parameterGroupNumber target _ =>
    ((interface.processRequestForHeartbeat parameterGroupNumber target).2, [])
  | .setEnabled enable => (interface.setEnabled enable, [])

/-- A heartbeat on its way. -/
structure Sent where
  index : Nat
  data : List UInt8
  deriving DecidableEq

/-- Both interfaces, what is between them, how many heartbeats were sent, and which one
was received last. -/
structure HeartbeatLink where
  sender : HeartbeatInterface
  receiver : HeartbeatInterface
  inFlight : CFRef → List Sent
  sent : CFRef → Nat
  received : CFRef → Option Nat

/-- A message with which a heartbeat arrives; its source and data are those of the
heartbeat. -/
structure Arrival where
  now : UInt32
  message : CANMessage
  isHeartbeat : message.identifier.getParameterGroupNumber = heartbeatMessage

inductive LinkCall (pair : StackPair)
  | sender (call : InterfaceCall pair.senderWorld)
  | receiver (call : InterfaceCall pair.receiverWorld)
  | deliver (c : CFRef) (arrival : Arrival)
  | lose (c : CFRef)
  | duplicate (c : CFRef)

def sentData (c : CFRef) (events : List HeartbeatEvent) : List (List UInt8) :=
  events.filterMap fun
    | .frame frame true => if frame.source = some c then some frame.data else none
    | _ => none

variable (pair : StackPair)

namespace HeartbeatLink

def start : HeartbeatLink where
  sender := .idle
  receiver := .idle
  inFlight _ := []
  sent _ := 0
  received _ := none

def expected (link : HeartbeatLink) (c : CFRef) : Nat := ((link.received c).map (· + 1)).getD 0

def launch (link : HeartbeatLink) (events : List HeartbeatEvent) : HeartbeatLink :=
  { link with
    inFlight := fun c => link.inFlight c ++
      (sentData c events).mapIdx fun k data => ⟨link.sent c + k, data⟩
    sent := fun c => link.sent c + (sentData c events).length }

def receive (link : HeartbeatLink) (c : CFRef) (arrival : Arrival) (heartbeat : Sent) :
    HeartbeatInterface × List HeartbeatEvent :=
  link.receiver.processRxMessage ⟨arrival.now, pair.receiverWorld, fun _ => false⟩
    { arrival.message with source := some (pair.remote c), data := heartbeat.data }

def deliver (link : HeartbeatLink) (c : CFRef) (arrival : Arrival) :
    HeartbeatLink × List HeartbeatEvent :=
  match link.inFlight c with
  | [] => (link, [])
  | heartbeat :: rest =>
    ({ link with
        receiver := (link.receive pair c arrival heartbeat).1
        inFlight := Function.update link.inFlight c rest
        received :=
          if link.receiver.enabled then Function.update link.received c (some heartbeat.index)
          else link.received },
      (link.receive pair c arrival heartbeat).2)

def lose (link : HeartbeatLink) (c : CFRef) : HeartbeatLink :=
  { link with inFlight := Function.update link.inFlight c (link.inFlight c).tail }

def duplicate (link : HeartbeatLink) (c : CFRef) : HeartbeatLink :=
  { link with
    inFlight := Function.update link.inFlight c
      ((link.inFlight c).head?.toList ++ link.inFlight c) }

end HeartbeatLink

/-- The link as a machine; its outputs are what the receiving interface does. -/
def heartbeatLink : Machine HeartbeatLink (LinkCall pair) HeartbeatEvent where
  step link
    | .sender call =>
      let reply := call.serve link.sender
      ({ link with sender := reply.1 }.launch reply.2, [])
    | .receiver call =>
      let reply := call.serve link.receiver
      ({ link with receiver := reply.1 }, reply.2)
    | .deliver c arrival => link.deliver pair c arrival
    | .lose c => (link.lose c, [])
    | .duplicate c => (link.duplicate c, [])

def invalidCounters (events : List HeartbeatEvent) : List CFRef :=
  events.filterMap fun
    | .error .invalidSequenceCounter c => some c
    | _ => none

/-- A heartbeat that is not the expected one is an invalid counter of its sender, and nothing else
is one. -/
def Judged (link : HeartbeatLink) (call : LinkCall pair) : Prop :=
  invalidCounters ((heartbeatLink pair).emits link call) =
    match call with
    | .deliver c _ =>
      match link.inFlight c with
      | heartbeat :: _ =>
        if link.receiver.enabled ∧ heartbeat.index ≠ link.expected c then [pair.remote c]
        else []
      | [] => []
    | _ => []

/-- The counter of a heartbeat by its number: first the initial one, then round and round. -/
def counterAt : Nat → UInt8
  | 0 => INITIAL
  | n + 1 => UInt8.ofNat (n % 251)

/-- The successor is recognised below 249 only, and every other heartbeat unless it is the successor
modulo 250. -/
def Tells (last next : Nat) : Prop :=
  if next = last + 1 then counterAt last < 249
  else (counterAt next).toNat ≠ ((counterAt last).toNat + 1) % 250

instance (last next : Nat) : Decidable (Tells last next) := by
  unfold Tells
  infer_instance

/-- A heartbeat of a tracked sender can be told from the last one, and one of another sender is the
expected one. -/
def Detects (link : HeartbeatLink) : LinkCall pair → Prop
  | .deliver c _ =>
    match link.inFlight c with
    | heartbeat :: _ => link.receiver.enabled →
        match link.receiver.trackedHeartbeats.lookup (pair.remote c), link.received c with
        | some _, some last => Tells last heartbeat.index
        | _, _ => heartbeat.index = link.expected c
    | [] => True
  | _ => True

def AtBack (link : HeartbeatLink) : LinkCall pair → Prop
  | .deliver c _ => link.receiver.enabled → link.inFlight c ≠ [] →
      link.receiver.trackedHeartbeats.lookup (pair.remote c) ≠ none →
        link.receiver.trackedHeartbeats.back = some (pair.remote c)
  | _ => True

/-- Nothing gets lost, is doubled, or arrives at an interface that is switched off. -/
def Lossless (link : HeartbeatLink) : LinkCall pair → Prop
  | .lose _ => False
  | .duplicate _ => False
  | .deliver _ _ => link.receiver.enabled
  | _ => True

theorem toNat_counterAt_succ (n : Nat) : (counterAt (n + 1)).toNat = n % 251 :=
  UInt8.toNat_ofNat_of_lt' (Nat.lt_trans (Nat.mod_lt n (by decide)) (by decide))

theorem nextSequenceCounter_counterAt (n : Nat) :
    nextSequenceCounter (counterAt n) = counterAt (n + 1) := by
  cases n with
  | zero => rfl
  | succ n =>
    have hall : ∀ k < 251, nextSequenceCounter (UInt8.ofNat k) = UInt8.ofNat ((k + 1) % 251) := by
      decide +kernel
    have hnext := hall (n % 251) (Nat.mod_lt n (by decide))
    rwa [Nat.mod_add_mod] at hnext

theorem invalidCounters_counterEvents (c : CFRef) (received kept : UInt8) :
    invalidCounters (counterEvents c received kept) =
      if received.toNat = (kept.toNat + 1) % 250 then [] else [c] := by
  unfold counterEvents
  by_cases hdouble : received = kept
  · have hne : kept.toNat ≠ (kept.toNat + 1) % 250 := by omega
    rw [if_pos hdouble, hdouble, if_neg hne]
    rfl
  · by_cases hnext : received.toNat = (kept.toNat + 1) % 250
    · rw [if_neg hdouble, if_neg (not_not_intro hnext), if_pos hnext]
      rfl
    · rw [if_neg hdouble, if_pos hnext, if_neg hnext]
      rfl

theorem counterAt_succ_iff (last : Nat) :
    (counterAt (last + 1)).toNat = ((counterAt last).toNat + 1) % 250 ↔ counterAt last < 249 := by
  rw [toNat_counterAt_succ, UInt8.lt_iff_toNat_lt]
  cases last with
  | zero => decide
  | succ n =>
    rw [toNat_counterAt_succ]
    have hbound : (249 : UInt8).toNat = 249 := rfl
    omega

theorem invalidCounters_iff_tells (c : CFRef) (last next : Nat) :
    (invalidCounters (counterEvents c (counterAt next) (counterAt last)) =
        if next ≠ last + 1 then [c] else []) ↔ Tells last next := by
  rw [invalidCounters_counterEvents, Tells]
  by_cases hnext : next = last + 1
  · subst hnext
    rw [if_neg (not_not_intro rfl), if_pos rfl, ← counterAt_succ_iff]
    simp
  · rw [if_pos hnext, if_neg hnext]
    simp

section Receive

variable {env : Environment} {message : CANMessage} {interface : HeartbeatInterface}
variable {source : CFRef}

theorem processRxMessage_disabled (henabled : interface.enabled = false) :
    interface.processRxMessage env message = (interface, []) := by
  unfold processRxMessage
  cases message.source with
  | none => rfl
  | some source => simp [henabled]

theorem processRxMessage_tracked {managed : Heartbeat} (hsource : message.source = some source)
    (henabled : interface.enabled = true)
    (hgroup : message.identifier.getParameterGroupNumber = heartbeatMessage)
    (hdata : message.data.length ≥ 1)
    (hlookup : interface.trackedHeartbeats.lookup source = some managed) :
    interface.processRxMessage env message =
      ({ interface with
          trackedHeartbeats := (interface.trackedHeartbeats.alter source fun heartbeat =>
            some (setTimestamp env.now heartbeat)).alterBack
              (setSequenceCounter (message.getUint8At 0)) },
        counterEvents source (message.getUint8At 0) managed.sequenceCounter) := by
  unfold processRxMessage
  rw [hsource]
  dsimp only
  rw [if_pos ⟨henabled, hgroup, hdata⟩]
  split
  · next managed' hlookup' =>
      obtain rfl := Option.some.inj (hlookup.symm.trans hlookup')
      rfl
  · next hlookup' => exact absurd (hlookup.symm.trans hlookup') (by simp)

theorem processRxMessage_untracked (hsource : message.source = some source)
    (henabled : interface.enabled = true)
    (hgroup : message.identifier.getParameterGroupNumber = heartbeatMessage)
    (hdata : message.data.length ≥ 1)
    (hlookup : interface.trackedHeartbeats.lookup source = none) :
    interface.processRxMessage env message =
      ({ interface with
          trackedHeartbeats := interface.trackedHeartbeats.insert source
            { timestamp := env.now, sequenceCounter := message.getUint8At 0 } hlookup },
        [.newTracked source]) := by
  unfold processRxMessage
  rw [hsource]
  dsimp only
  rw [if_pos ⟨henabled, hgroup, hdata⟩]
  split
  · next managed hlookup' => exact absurd (hlookup.symm.trans hlookup') (by simp)
  · rfl

theorem lookup_alterBack_alter {table : KeyedTable CFRef Heartbeat} {managed : Heartbeat}
    (hback : table.back = some source) (hlookup : table.lookup source = some managed)
    (now : UInt32) (received : UInt8) (c : CFRef) :
    ((table.alter source fun heartbeat => some (setTimestamp now heartbeat)).alterBack
        (setSequenceCounter received)).lookup c =
      if c = source then some { managed with timestamp := now, sequenceCounter := received }
      else table.lookup c := by
  rw [KeyedTable.alterBack_of_back _ ((KeyedTable.back_alter_some _ _ _).trans hback),
    KeyedTable.lookup_alter, KeyedTable.lookup_alter_self, hlookup]
  split_ifs with hc
  · rfl
  · exact KeyedTable.lookup_alter_ne _ _ hc

end Receive

variable {world : World} {c : CFRef}

theorem invalidCounters_serve (interface : HeartbeatInterface) (call : InterfaceCall world) :
    invalidCounters (call.serve interface).2 = [] := by
  refine List.filterMap_eq_nil_iff.mpr fun e he => ?_
  cases call with
  | processRequestForHeartbeat => exact absurd he (by simp [InterfaceCall.serve])
  | setEnabled => exact absurd he (by simp [InterfaceCall.serve])
  | update now send =>
    simp only [InterfaceCall.serve, HeartbeatInterface.update] at he
    split_ifs at he
    · obtain ⟨c, heartbeat, -, he⟩ := KeyedTable.mem_sweep.mp he
      unfold Heartbeat.update at he
      split_ifs at he <;> simp at he <;> subst he <;> rfl
    · simp at he

/-- What one call of ours does to the counter of a control function and on the bus. -/
inductive Served (before after : Option Heartbeat) : List (List UInt8) → Prop
  | kept (heartbeat heartbeat' : Heartbeat) (hbefore : before = some heartbeat)
      (hafter : after = some heartbeat')
      (hcounter : heartbeat'.sequenceCounter = heartbeat.sequenceCounter) : Served before after []
  | started (heartbeat : Heartbeat) (hbefore : before = none) (hafter : after = some heartbeat)
      (hcounter : heartbeat.sequenceCounter = INITIAL) : Served before after []
  | absent (hbefore : before = none) (hafter : after = none) : Served before after []
  | sent (heartbeat heartbeat' : Heartbeat) (hbefore : before = some heartbeat)
      (hafter : after = some heartbeat')
      (hcounter : heartbeat'.sequenceCounter = nextSequenceCounter heartbeat.sequenceCounter) :
      Served before after [[heartbeat.sequenceCounter]]

theorem served_refl (before : Option Heartbeat) : Served before before [] := by
  cases before with
  | none => exact .absent rfl rfl
  | some heartbeat => exact .kept heartbeat heartbeat rfl rfl rfl

theorem sentData_update_of_ne {env : Environment} {d : CFRef} (heartbeat : Heartbeat)
    (hne : d ≠ c) : sentData c (heartbeat.update env d).2 = [] := by
  unfold Heartbeat.update
  split_ifs <;> simp [sentData, Heartbeat.frame, hne]

theorem served_update {env : Environment} (heartbeat : Heartbeat)
    (hinternal : (env.world c).controlFunctionType = .internal) :
    Served (some heartbeat) (heartbeat.update env c).1 (sentData c (heartbeat.update env c).2) := by
  unfold Heartbeat.update
  rw [if_pos hinternal]
  split_ifs
  · simp only [sentData, Heartbeat.frame, List.filterMap_cons, if_pos]
    exact .sent heartbeat _ rfl rfl rfl
  · exact .kept heartbeat heartbeat rfl rfl rfl
  · exact .kept heartbeat heartbeat rfl rfl rfl

theorem sentData_update_of_not_internal {env : Environment} (heartbeat : Heartbeat)
    (hexternal : (env.world c).controlFunctionType ≠ .internal) :
    sentData c (heartbeat.update env c).2 = [] := by
  unfold Heartbeat.update
  rw [if_neg hexternal]
  split_ifs <;> rfl

theorem sentData_sweep {env : Environment} (table : KeyedTable CFRef Heartbeat) (c : CFRef) :
    sentData c (table.sweep (Heartbeat.update env)).2 =
      ((table.lookup c).map fun heartbeat => sentData c (heartbeat.update env c).2).getD [] :=
  table.filterMap_sweep _ _ c fun _ heartbeat _ hne => sentData_update_of_ne heartbeat hne

theorem served_serve (interface : HeartbeatInterface) (call : InterfaceCall world)
    (hinternal : (world c).controlFunctionType = .internal) :
    Served (interface.trackedHeartbeats.lookup c)
      ((call.serve interface).1.trackedHeartbeats.lookup c)
      (sentData c (call.serve interface).2) := by
  cases call with
  | setEnabled => exact served_refl _
  | update now send =>
    simp only [InterfaceCall.serve, HeartbeatInterface.update]
    split_ifs
    · dsimp only
      rw [sentData_sweep, KeyedTable.lookup_sweep]
      cases hlookup : interface.trackedHeartbeats.lookup c with
      | none => exact .absent rfl rfl
      | some heartbeat => exact served_update heartbeat hinternal
    · exact served_refl _
  | processRequestForHeartbeat parameterGroupNumber target =>
    simp only [InterfaceCall.serve, processRequestForHeartbeat]
    split_ifs
    · split
      · exact served_refl _
      · next hlookup =>
          rw [KeyedTable.lookup_insert]
          split_ifs with htarget
          · rw [htarget, hlookup]
            exact .started _ rfl rfl rfl
          · exact served_refl _
    · exact served_refl _

theorem sentData_serve_of_not_internal (interface : HeartbeatInterface)
    (call : InterfaceCall world) (hexternal : (world c).controlFunctionType ≠ .internal) :
    sentData c (call.serve interface).2 = [] := by
  cases call with
  | setEnabled => rfl
  | processRequestForHeartbeat => rfl
  | update now send =>
    simp only [InterfaceCall.serve, HeartbeatInterface.update]
    split_ifs
    · dsimp only
      rw [sentData_sweep]
      cases interface.trackedHeartbeats.lookup c with
      | none => rfl
      | some heartbeat => exact sentData_update_of_not_internal heartbeat hexternal
    · rfl

theorem lookup_serve_of_not_internal (interface : HeartbeatInterface)
    (call : InterfaceCall world) {heartbeat : Heartbeat}
    (hexternal : (world c).controlFunctionType ≠ .internal)
    (hafter : (call.serve interface).1.trackedHeartbeats.lookup c = some heartbeat) :
    interface.trackedHeartbeats.lookup c = some heartbeat := by
  cases call with
  | setEnabled => exact hafter
  | update now send =>
    simp only [InterfaceCall.serve, HeartbeatInterface.update] at hafter
    split_ifs at hafter
    · dsimp only at hafter
      rw [KeyedTable.lookup_sweep] at hafter
      obtain ⟨before, hbefore, hafter⟩ := Option.bind_eq_some_iff.mp hafter
      unfold Heartbeat.update at hafter
      rw [if_neg hexternal] at hafter
      split_ifs at hafter
      rwa [← hafter]
    · exact hafter
  | processRequestForHeartbeat parameterGroupNumber target hinternal =>
    have hne : c ≠ target := fun htarget => hexternal (htarget ▸ hinternal)
    simp only [InterfaceCall.serve, processRequestForHeartbeat] at hafter
    split_ifs at hafter
    · split at hafter
      · exact hafter
      · dsimp only at hafter
        rwa [KeyedTable.lookup_insert_ne _ _ _ hne] at hafter
    · exact hafter

/-- A sender's counter is that of its next heartbeat, and a receiver keeps that of the last one. -/
structure Sound (link : HeartbeatLink) : Prop where
  counter : ∀ c heartbeat, (pair.senderWorld c).controlFunctionType = .internal →
    link.sender.trackedHeartbeats.lookup c = some heartbeat →
      heartbeat.sequenceCounter = counterAt (link.sent c)
  unsent : ∀ c, (pair.senderWorld c).controlFunctionType = .internal →
    link.sender.trackedHeartbeats.lookup c = none → link.sent c = 0
  data : ∀ c, ∀ heartbeat ∈ link.inFlight c, heartbeat.data = [counterAt heartbeat.index]
  kept : ∀ c heartbeat, link.receiver.trackedHeartbeats.lookup (pair.remote c) = some heartbeat →
    ∃ last, link.received c = some last ∧ heartbeat.sequenceCounter = counterAt last

variable {pair} {link : HeartbeatLink}

theorem sound_start : Sound pair .start where
  counter _ _ _ h := by simp [HeartbeatLink.start, HeartbeatInterface.idle] at h
  unsent _ _ _ := rfl
  data _ _ h := by simp [HeartbeatLink.start] at h
  kept _ _ h := by simp [HeartbeatLink.start, HeartbeatInterface.idle] at h

theorem Served.advance {before after : Option Heartbeat} {launched : List (List UInt8)} {n : Nat}
    (h : Served before after launched)
    (hcounter : ∀ heartbeat, before = some heartbeat → heartbeat.sequenceCounter = counterAt n)
    (hunsent : before = none → n = 0) :
    (∀ heartbeat, after = some heartbeat →
        heartbeat.sequenceCounter = counterAt (n + launched.length)) ∧
      (after = none → n + launched.length = 0) ∧
      ∀ heartbeat ∈ launched.mapIdx fun k data => Sent.mk (n + k) data,
        heartbeat.data = [counterAt heartbeat.index] := by
  cases h with
  | kept heartbeat heartbeat' hbefore hafter hkept =>
    refine ⟨fun heartbeat'' h'' => ?_, fun hnone => ?_, by simp⟩
    · rw [← Option.some.inj (hafter.symm.trans h''), hkept, hcounter heartbeat hbefore]
      rfl
    · exact absurd (hafter.symm.trans hnone) (by simp)
  | started heartbeat hbefore hafter hstarted =>
    refine ⟨fun heartbeat' h' => ?_, fun hnone => ?_, by simp⟩
    · rw [← Option.some.inj (hafter.symm.trans h'), hstarted, hunsent hbefore]
      rfl
    · exact absurd (hafter.symm.trans hnone) (by simp)
  | absent hbefore hafter =>
    refine ⟨fun heartbeat' h' => ?_, fun _ => hunsent hbefore, by simp⟩
    exact absurd (hafter.symm.trans h') (by simp)
  | sent heartbeat heartbeat' hbefore hafter hsent =>
    have hlast := hcounter heartbeat hbefore
    refine ⟨fun heartbeat'' h'' => ?_, fun hnone => ?_, ?_⟩
    · rw [← Option.some.inj (hafter.symm.trans h''), hsent, hlast]
      exact nextSequenceCounter_counterAt n
    · exact absurd (hafter.symm.trans hnone) (by simp)
    · simp [hlast]

theorem sound_sender (h : Sound pair link) (call : InterfaceCall pair.senderWorld) :
    Sound pair ({ link with sender := (call.serve link.sender).1 }.launch
      (call.serve link.sender).2) := by
  have hadvance := fun c hinternal => (served_serve (c := c) link.sender call hinternal).advance
    (fun heartbeat => h.counter c heartbeat hinternal) (h.unsent c hinternal)
  refine ⟨fun c heartbeat hinternal => (hadvance c hinternal).1 heartbeat,
    fun c hinternal => (hadvance c hinternal).2.1, fun c heartbeat hmem => ?_, h.kept⟩
  rcases List.mem_append.mp hmem with hmem | hmem
  · exact h.data c heartbeat hmem
  · by_cases hinternal : (pair.senderWorld c).controlFunctionType = .internal
    · exact (hadvance c hinternal).2.2 heartbeat hmem
    · rw [sentData_serve_of_not_internal link.sender call hinternal] at hmem
      simp at hmem

theorem sound_receiver (h : Sound pair link) (call : InterfaceCall pair.receiverWorld) :
    Sound pair { link with receiver := (call.serve link.receiver).1 } where
  counter := h.counter
  unsent := h.unsent
  data := h.data
  kept c heartbeat hlookup := h.kept c heartbeat
    (lookup_serve_of_not_internal link.receiver call (pair.remote_ne_internal c) hlookup)

theorem Sound.inFlight_update (h : Sound pair link) {heartbeats : List Sent}
    (hmem : ∀ heartbeat ∈ heartbeats, heartbeat ∈ link.inFlight c) :
    Sound pair { link with inFlight := Function.update link.inFlight c heartbeats } where
  counter := h.counter
  unsent := h.unsent
  kept := h.kept
  data d heartbeat hheartbeat := by
    dsimp only at hheartbeat
    by_cases hd : d = c
    · subst hd
      rw [Function.update_self] at hheartbeat
      exact h.data d heartbeat (hmem heartbeat hheartbeat)
    · rw [Function.update_of_ne hd] at hheartbeat
      exact h.data d heartbeat hheartbeat

theorem receive_cases (h : Sound pair link) {heartbeat : Sent} {rest : List Sent}
    (arrival : Arrival) (hinFlight : link.inFlight c = heartbeat :: rest)
    (hback : AtBack pair link (.deliver c arrival)) :
    link.receiver.enabled = false ∧
        link.receive pair c arrival heartbeat = (link.receiver, []) ∨
      link.receiver.enabled = true ∧
        link.receiver.trackedHeartbeats.lookup (pair.remote c) = none ∧
          (link.receive pair c arrival heartbeat).2 = [.newTracked (pair.remote c)] ∧
          (∀ d, (link.receive pair c arrival heartbeat).1.trackedHeartbeats.lookup d =
            if d = pair.remote c then some ⟨arrival.now, SEQUENCE_REPETITION_RATE_MS,
              counterAt heartbeat.index⟩
            else link.receiver.trackedHeartbeats.lookup d) ∨
      link.receiver.enabled = true ∧ ∃ managed last,
        link.receiver.trackedHeartbeats.lookup (pair.remote c) = some managed ∧
          link.received c = some last ∧
          (link.receive pair c arrival heartbeat).2 =
            counterEvents (pair.remote c) (counterAt heartbeat.index) (counterAt last) ∧
          (∀ d, (link.receive pair c arrival heartbeat).1.trackedHeartbeats.lookup d =
            if d = pair.remote c then some { managed with
              timestamp := arrival.now, sequenceCounter := counterAt heartbeat.index }
            else link.receiver.trackedHeartbeats.lookup d) := by
  have hdata : heartbeat.data = [counterAt heartbeat.index] :=
    h.data c heartbeat (hinFlight ▸ List.mem_cons_self)
  obtain ⟨message, hmessage⟩ : ∃ message : CANMessage, message =
      { arrival.message with source := some (pair.remote c), data := heartbeat.data } := ⟨_, rfl⟩
  have hsource : message.source = some (pair.remote c) := by rw [hmessage]
  have hgroup : message.identifier.getParameterGroupNumber = heartbeatMessage := by
    rw [hmessage]
    exact arrival.isHeartbeat
  have hlength : message.data.length ≥ 1 := by simp [hmessage, hdata]
  have hbyte : message.getUint8At 0 = counterAt heartbeat.index := by
    rw [CANMessage.getUint8At, hmessage, hdata]
    rfl
  unfold HeartbeatLink.receive
  rw [← hmessage]
  by_cases henabled : link.receiver.enabled = true
  · right
    cases hlookup : link.receiver.trackedHeartbeats.lookup (pair.remote c) with
    | none =>
      left
      rw [processRxMessage_untracked hsource henabled hgroup hlength hlookup]
      refine ⟨henabled, rfl, rfl, fun d => ?_⟩
      rw [KeyedTable.lookup_insert, hbyte]
    | some managed =>
      right
      obtain ⟨last, hlast, hcounter⟩ := h.kept c managed hlookup
      have hback := hback henabled (by simp [hinFlight]) (by simp [hlookup])
      rw [processRxMessage_tracked hsource henabled hgroup hlength hlookup]
      refine ⟨henabled, managed, last, rfl, hlast, ?_, fun d => ?_⟩
      · dsimp only
        rw [hbyte, hcounter]
      · dsimp only
        rw [lookup_alterBack_alter hback hlookup, hbyte]
  · left
    rw [Bool.not_eq_true] at henabled
    exact ⟨henabled, processRxMessage_disabled henabled⟩

theorem sound_deliver (h : Sound pair link) (arrival : Arrival)
    (hback : AtBack pair link (.deliver c arrival)) :
    Sound pair (link.deliver pair c arrival).1 := by
  unfold HeartbeatLink.deliver
  cases hinFlight : link.inFlight c with
  | nil => exact h
  | cons heartbeat rest =>
    have hflight : Sound pair { link with inFlight := Function.update link.inFlight c rest } :=
      h.inFlight_update fun heartbeat' hmem => hinFlight ▸ List.mem_cons_of_mem _ hmem
    refine ⟨h.counter, h.unsent, hflight.data, fun d managed hlookup => ?_⟩
    dsimp only at hlookup ⊢
    rcases receive_cases h arrival hinFlight hback with ⟨henabled, hreceive⟩ |
      ⟨henabled, -, -, hlookups⟩ | ⟨henabled, _, _, -, -, -, hlookups⟩
    · rw [hreceive] at hlookup
      simp only [henabled, Bool.false_eq_true, if_false]
      exact h.kept d managed hlookup
    all_goals
      rw [hlookups] at hlookup
      simp only [henabled, if_true]
      by_cases hd : d = c
      · subst hd
        rw [if_pos rfl] at hlookup
        refine ⟨heartbeat.index, Function.update_self .., ?_⟩
        rw [← Option.some.inj hlookup]
      · rw [if_neg fun heq => hd (pair.remote_injective heq)] at hlookup
        rw [Function.update_of_ne hd]
        exact h.kept d managed hlookup

theorem sound_next (link : HeartbeatLink) (call : LinkCall pair) (h : Sound pair link)
    (hback : AtBack pair link call) : Sound pair ((heartbeatLink pair).next link call) := by
  cases call with
  | sender call => exact sound_sender h call
  | receiver call => exact sound_receiver h call
  | deliver c arrival => exact sound_deliver h arrival hback
  | lose c => exact h.inFlight_update fun _ => List.mem_of_mem_tail
  | duplicate c =>
    refine h.inFlight_update fun heartbeat hmem => ?_
    rcases List.mem_append.mp hmem with hmem | hmem
    · exact List.mem_of_mem_head? (Option.mem_toList.mp hmem)
    · exact hmem

theorem judged_deliver_iff (h : Sound pair link) (arrival : Arrival)
    (hback : AtBack pair link (.deliver c arrival)) :
    Judged pair link (.deliver c arrival) ↔ Detects pair link (.deliver c arrival) := by
  have hemits : (heartbeatLink pair).emits link (.deliver c arrival) =
    (link.deliver pair c arrival).2 := rfl
  rw [Judged, Detects, hemits, HeartbeatLink.deliver]
  cases hinFlight : link.inFlight c with
  | nil => exact iff_of_true rfl trivial
  | cons heartbeat rest =>
    dsimp only
    rcases receive_cases h arrival hinFlight hback with ⟨henabled, hreceive⟩ |
      ⟨henabled, huntracked, hevents, -⟩ | ⟨henabled, managed, last, htracked, hlast, hevents, -⟩
    · rw [hreceive, henabled]
      simp [invalidCounters]
    · rw [hevents, henabled, huntracked]
      by_cases hexpected : heartbeat.index = link.expected c
      · simp [invalidCounters, hexpected]
      · simp [invalidCounters, hexpected]
    · have hexpected : link.expected c = last + 1 := by
        rw [HeartbeatLink.expected, hlast]
        rfl
      rw [hevents, henabled, htracked, hlast, hexpected]
      simpa using invalidCounters_iff_tells (pair.remote c) last heartbeat.index

theorem judged_iff_detects (link : HeartbeatLink) (call : LinkCall pair) (h : Sound pair link)
    (hback : AtBack pair link call) : Judged pair link call ↔ Detects pair link call := by
  cases call with
  | deliver c arrival => exact judged_deliver_iff h arrival hback
  | sender call => exact iff_of_true rfl trivial
  | receiver call => exact iff_of_true (invalidCounters_serve link.receiver call) trivial
  | lose c => exact iff_of_true rfl trivial
  | duplicate c => exact iff_of_true rfl trivial

/-- What is on its way are the heartbeats from the expected one to the one sent last. -/
def Consecutive (link : HeartbeatLink) : Prop :=
  ∀ c, (link.inFlight c).map Sent.index =
      List.range' (link.expected c) (link.inFlight c).length ∧
    link.expected c + (link.inFlight c).length = link.sent c

theorem consecutive_start : Consecutive .start := fun _ => ⟨rfl, rfl⟩

theorem consecutive_launch (h : Consecutive link) (events : List HeartbeatEvent) :
    Consecutive (link.launch events) := by
  intro c
  obtain ⟨hindex, hsent⟩ := h c
  have hexpected : (link.launch events).expected c = link.expected c := rfl
  rw [hexpected]
  simp only [HeartbeatLink.launch, List.map_append, List.length_append, List.length_mapIdx, hindex,
    ← hsent]
  refine ⟨?_, by omega⟩
  rw [← List.range'_append_1]
  congr 1
  refine List.ext_getElem (by simp) fun k _ _ => ?_
  simp

theorem consecutive_deliver (h : Consecutive link) (arrival : Arrival)
    (henabled : link.receiver.enabled = true) :
    Consecutive (link.deliver pair c arrival).1 := by
  unfold HeartbeatLink.deliver
  cases hinFlight : link.inFlight c with
  | nil => exact h
  | cons heartbeat rest =>
    intro d
    dsimp only [HeartbeatLink.expected]
    rw [if_pos henabled]
    by_cases hd : d = c
    · subst hd
      obtain ⟨hindex, hsent⟩ := h d
      rw [hinFlight, List.map_cons, List.length_cons, List.range'_succ, List.cons.injEq] at hindex
      rw [hinFlight, List.length_cons] at hsent
      rw [Function.update_self, Function.update_self, Option.map_some, Option.getD_some, hindex.1,
        hindex.2]
      exact ⟨rfl, by omega⟩
    · rw [Function.update_of_ne hd, Function.update_of_ne hd]
      exact h d

theorem consecutive_next (link : HeartbeatLink) (call : LinkCall pair) (h : Consecutive link)
    (hlossless : Lossless pair link call) : Consecutive ((heartbeatLink pair).next link call) := by
  cases call with
  | sender call =>
    have hserved : Consecutive { link with sender := (call.serve link.sender).1 } := h
    exact consecutive_launch hserved _
  | receiver call => exact h
  | deliver c arrival => exact consecutive_deliver h arrival hlossless
  | lose c => exact hlossless.elim
  | duplicate c => exact hlossless.elim

theorem invalidCounters_eq_nil {events : List HeartbeatEvent} :
    invalidCounters events = [] ↔ ∀ e ∈ events, ∀ c, e ≠ .error .invalidSequenceCounter c := by
  rw [invalidCounters, List.filterMap_eq_nil_iff]
  refine forall₂_congr fun e _ => ?_
  constructor
  · rintro h c rfl
    simp at h
  · intro h
    split
    · next c _ => exact absurd rfl (h c)
    · rfl

theorem judged_iff_of_consecutive (h : Consecutive link) (call : LinkCall pair) :
    Judged pair link call ↔ ∀ e ∈ (heartbeatLink pair).emits link call,
      ∀ c, e ≠ .error .invalidSequenceCounter c := by
  rw [← invalidCounters_eq_nil]
  unfold Judged
  cases call with
  | deliver c arrival =>
    cases hinFlight : link.inFlight c with
    | nil => simp [hinFlight]
    | cons heartbeat rest =>
      have hindex := (h c).1
      rw [hinFlight, List.map_cons, List.length_cons, List.range'_succ, List.cons.injEq]
        at hindex
      simp [hinFlight, hindex.1]
  | sender call => rfl
  | receiver call => rfl
  | lose c => rfl
  | duplicate c => rfl

/-- As long as the receiver tracks nobody behind the sender of a heartbeat, it calls those counters
invalid that are, if and only if it can tell them from the last one; without losses it calls none
invalid. -/
theorem judged_along_iff (pair : StackPair) (calls : List (LinkCall pair))
    (hback : (heartbeatLink pair).Along (AtBack pair) .start calls) :
    ((heartbeatLink pair).Along (Judged pair) .start calls ↔
        (heartbeatLink pair).Along (Detects pair) .start calls) ∧
      ((heartbeatLink pair).Along (Lossless pair) .start calls →
        ((∀ e ∈ (heartbeatLink pair).outputs .start calls,
            ∀ c, e ≠ .error .invalidSequenceCounter c) ↔
          (heartbeatLink pair).Along (Detects pair) .start calls)) := by
  have hiff : (heartbeatLink pair).Along (Judged pair) .start calls ↔
      (heartbeatLink pair).Along (Detects pair) .start calls :=
    (heartbeatLink pair).along_congr (P := Sound pair) sound_next judged_iff_detects sound_start
      calls hback
  refine ⟨hiff, fun hlossless => ?_⟩
  have hquiet := (heartbeatLink pair).along_congr (P := Consecutive) consecutive_next
    (fun _ call h _ => judged_iff_of_consecutive h call) consecutive_start calls hlossless
  rw [← hiff, hquiet, Machine.along_emits_iff]

/-- Every control function of the sending stack is known under its own reference. -/
def samePair : StackPair where
  senderWorld _ := ⟨.internal, 0, 0x80, 0⟩
  receiverWorld _ := ⟨.external, 0, 0x80, 0⟩
  remote := id
  remote_injective := Function.injective_id
  remote_ne_internal _ := by decide

def arrivalAt (now : UInt32) : Arrival where
  now := now
  message := ⟨⟨0x8CF0E480⟩, [], none, none, 0, 0⟩
  isHeartbeat := by decide

/-- A control function is asked for its heartbeat, and its first two arrive. -/
def firstTwo : List (LinkCall samePair) :=
  [.sender (.processRequestForHeartbeat heartbeatMessage 0 rfl),
    .sender (.update 100 fun _ => true), .deliver 0 (arrivalAt 100),
    .sender (.update 200 fun _ => true), .deliver 0 (arrivalAt 200)]

theorem judged_along_iff_firstTwo :
    ((heartbeatLink samePair).Along (Judged samePair) .start firstTwo ↔
        (heartbeatLink samePair).Along (Detects samePair) .start firstTwo) ∧
      ((heartbeatLink samePair).Along (Lossless samePair) .start firstTwo →
        ((∀ e ∈ (heartbeatLink samePair).outputs .start firstTwo,
            ∀ c, e ≠ .error .invalidSequenceCounter c) ↔
          (heartbeatLink samePair).Along (Detects samePair) .start firstTwo)) :=
  judged_along_iff samePair firstTwo
    ⟨trivial, trivial, fun _ _ h => absurd rfl h, trivial, fun _ _ _ => by decide +kernel, trivial⟩

theorem firstTwo_not_quiet :
    (heartbeatLink samePair).Along (Lossless samePair) .start firstTwo ∧
      .error .invalidSequenceCounter 0 ∈ (heartbeatLink samePair).outputs .start firstTwo := by
  constructor
  · exact ⟨trivial, trivial, rfl, trivial, rfl, trivial⟩
  · decide +kernel

end Isobus.Heartbeats
