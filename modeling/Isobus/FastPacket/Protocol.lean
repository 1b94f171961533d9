import Isobus.FastPacket.Session
import Isobus.Lib.Machine

/-!
# The fast packet protocol

`FastPacketProtocol`. Next to its sessions it keeps the sequence number of the last session of every
NAME and group number that was closed.
-/

namespace Isobus.FastPacket

open Isobus.Can Isobus.Lib FastPacketProtocolSession

abbrev ActiveSessions := KeyedTable FastPacketKey FastPacketProtocolSession

/-- What a former session is found by. -/
structure HistoryKey where
  isoName : UInt64
  parameterGroupNumber : UInt32
  deriving DecidableEq

structure FastPacketProtocol where
  activeSessions : ActiveSessions
  sessionHistory : KeyedTable HistoryKey UInt8
  parameterGroupNumberCallbacks : List ParameterGroupNumberCallbackData
  allowAnyControlFunction : Bool

abbrev Reply := FastPacketProtocol × List Event

/-- The arguments of `send_multipacket_message`; the data has the announced length. -/
structure SendRequest where
  parameterGroupNumber : UInt32
  messageData : Option (List UInt8)
  messageLength : UInt8
  source : Option CFRef
  destination : Option CFRef
  priority : UInt32
  txCompleteCallback : Option CallbackRef
  parentPointer : PointerRef
  length_eq : ∀ data ∈ messageData, data.length = messageLength.toNat

inductive Call
  | processMessage (message : CANMessage)
  | update
  | sendMultipacketMessage (request : SendRequest)
  | registerMultipacketMessageCallback (callback : ParameterGroupNumberCallbackData)
  | removeMultipacketMessageCallback (callback : ParameterGroupNumberCallbackData)
  | allowAnyControlFunction (allow : Bool)

/-- One call together with what the protocol reads during it. -/
structure Input where
  env : Environment
  call : Call

variable (env : Environment)

def historyKey (key : FastPacketKey) : HistoryKey :=
  ⟨(env.world key.source).controlFunctionNAME, key.parameterGroupNumber⟩

def addSessionHistory (key : FastPacketKey) (session : FastPacketProtocolSession)
    (history : KeyedTable HistoryKey UInt8) : KeyedTable HistoryKey UInt8 :=
  history.set (historyKey env key) session.sequenceNumber

def getNewSequenceNumber (name : UInt64) (parameterGroupNumber : UInt32)
    (history : KeyedTable HistoryKey UInt8) : UInt8 :=
  ((history.lookup ⟨name, parameterGroupNumber⟩).map (· + 1)).getD 0

/-- What is left of a session after a handler; a session that was closed is remembered. -/
def settle (key : FastPacketKey) (session : FastPacketProtocolSession) (outcome : Outcome)
    (protocol : FastPacketProtocol) : Reply :=
  ({ protocol with
      activeSessions := protocol.activeSessions.alter key fun _ => outcome.1
      sessionHistory := match outcome.1 with
        | none => addSessionHistory env key session protocol.sessionHistory
        | some _ => protocol.sessionHistory },
    outcome.2)

/-- The session that a request opens, unless it is refused. -/
def requestedSession (request : SendRequest) (protocol : FastPacketProtocol) :
    Option (FastPacketKey × FastPacketProtocolSession) :=
  match hdata : request.messageData, request.source with
  | some data, some source =>
    let key : FastPacketKey := ⟨⟨source, request.destination⟩, request.parameterGroupNumber⟩
    if data.length ≤ CAN_DATA_LENGTH ∨ data.length > MAX_PROTOCOL_MESSAGE_LENGTH.toNat then none
    else if (env.world source).getAddressValid = false ∨
        (protocol.activeSessions.lookup key).isSome then none
    else if request.parameterGroupNumber < FP_MIN_PARAMETER_GROUP_NUMBER ∨
        request.parameterGroupNumber > FP_MAX_PARAMETER_GROUP_NUMBER then none
    else if request.destination.any fun d => !(env.world d).getAddressValid then none
    else some (key,
      { direction := .transmit
        data := data
        sessionCompleteCallback := request.txCompleteCallback
        parent := request.parentPointer
        totalMessageSize := request.messageLength
        sequenceNumber := getNewSequenceNumber (env.world source).controlFunctionNAME
          request.parameterGroupNumber protocol.sessionHistory
        priority := request.priority
        data_length := request.length_eq data hdata })
  | _, _ => none

def sendMultipacketMessage (request : SendRequest) (protocol : FastPacketProtocol) : Reply :=
  match requestedSession env request protocol with
  | none => (protocol, [.transmitAnswered false])
  | some (key, session) =>
    ({ protocol with activeSessions := protocol.activeSessions.push key session },
      [.transmitAnswered true])

/-- The sessions are walked from the last to the first, and each is settled in turn. -/
def updateEach : List (FastPacketKey × FastPacketProtocolSession) → FastPacketProtocol → Reply
  | [], protocol => (protocol, [])
  | (key, session) :: rest, protocol =>
    let settled := settle env key session (session.update env key) protocol
    let others := updateEach rest settled.1
    (others.1, settled.2 ++ others.2)

/-- Settling a session touches no other one, so the walk may start from a copy. -/
def update (protocol : FastPacketProtocol) : Reply :=
  updateEach env protocol.activeSessions.entries.reverse protocol

def matchingCallbacks (protocol : FastPacketProtocol) (message : CANMessage) :
    List ParameterGroupNumberCallbackData :=
  protocol.parameterGroupNumberCallbacks.filter fun callback =>
    callback.parameterGroupNumber = message.identifier.getParameterGroupNumber ∧
      (callback.internalControlFunction = none ∨
        callback.internalControlFunction = message.destination)

/-- The session that a first frame opens, unless its length is out of range. -/
def openedSession (message : CANMessage) : Option FastPacketProtocolSession :=
  let messageLength := message.getUint8At 1
  if messageLength > MAX_PROTOCOL_MESSAGE_LENGTH then none
  else if messageLength.toNat ≤ CAN_DATA_LENGTH then none
  else
    let session : FastPacketProtocolSession :=
      { direction := .receive
        data := List.replicate messageLength.toNat 0
        totalMessageSize := messageLength
        sequenceNumber := message.getUint8At 0 &&& SEQUENCE_NUMBER_BIT_MASK
        priority := message.identifier.getPriority
        data_length := List.length_replicate }
    -- The buffer is longer than the first frame, so the check for an overflow cannot fail.
    some (session.copyIn env.now (message.data.drop 2))

/-- The session a message belongs to, when the protocol listens to the message. -/
def heardKey (message : CANMessage) (protocol : FastPacketProtocol) : Option FastPacketKey :=
  match message.source with
  | none => none
  | some source =>
    if message.data.length ≠ CAN_DATA_LENGTH ∨
        message.identifier.getParameterGroupNumber < FP_MIN_PARAMETER_GROUP_NUMBER ∨
        message.identifier.getParameterGroupNumber > FP_MAX_PARAMETER_GROUP_NUMBER then none
    else if message.isDestinationOurDevice env.world = false ∧
        protocol.allowAnyControlFunction = false ∧ message.isBroadcast env.world = false then none
    else if matchingCallbacks protocol message = [] then none
    else some ⟨⟨source, message.destination⟩, message.identifier.getParameterGroupNumber⟩

def processMessage (message : CANMessage) (protocol : FastPacketProtocol) : Reply :=
  match heardKey env message protocol with
  | none => (protocol, [])
  | some key =>
    match protocol.activeSessions.lookup key with
    | some session =>
      settle env key session
        (session.receiveFrame env key (matchingCallbacks protocol message) message) protocol
    | none =>
      -- Without context only the beginning of a message is of interest.
      if message.getUint8At 0 &&& FRAME_COUNTER_BIT_MASK ≠ 0 then (protocol, [])
      else
        match openedSession env message with
        | none => (protocol, [])
        | some session =>
          ({ protocol with activeSessions := protocol.activeSessions.push key session }, [])

def fastPacketProtocol : Machine FastPacketProtocol Input Event where
  step protocol input :=
    match input.call with
    | .processMessage message => processMessage input.env message protocol
    | .update => update input.env protocol
    | .sendMultipacketMessage request => sendMultipacketMessage input.env request protocol
    | .registerMultipacketMessageCallback callback =>
      ({ protocol with
        parameterGroupNumberCallbacks :=
          protocol.parameterGroupNumberCallbacks ++ [callback] }, [])
    | .removeMultipacketMessageCallback callback =>
      ({ protocol with
        parameterGroupNumberCallbacks :=
          protocol.parameterGroupNumberCallbacks.erase callback }, [])
    | .allowAnyControlFunction allow =>
      ({ protocol with allowAnyControlFunction := allow }, [])

def idle : FastPacketProtocol := ⟨KeyedTable.empty, KeyedTable.empty, [], false⟩

variable {env} {protocol : FastPacketProtocol} {key : FastPacketKey}

/-- What a call leaves of the session of one key, and what it does meanwhile for it. -/
def fate (protocol : FastPacketProtocol) (input : Input) (key : FastPacketKey) : Outcome :=
  match input.call, protocol.activeSessions.lookup key with
  | .processMessage message, some session =>
    if heardKey input.env message protocol = some key then
      session.receiveFrame input.env key (matchingCallbacks protocol message) message
    else (some session, [])
  | .processMessage message, none =>
    if heardKey input.env message protocol = some key ∧
        message.getUint8At 0 &&& FRAME_COUNTER_BIT_MASK = 0 then
      (openedSession input.env message, [])
    else (none, [])
  | .update, some session => session.update input.env key
  | .sendMultipacketMessage request, none =>
    match requestedSession input.env request protocol with
    | some (k, session) => if k = key then (some session, []) else (none, [])
    | none => (none, [])
  | _, before => (before, [])

theorem lookup_settle (k : FastPacketKey) (session : FastPacketProtocolSession)
    (outcome : Outcome) (h : protocol.activeSessions.lookup k = some session) :
    (settle env k session outcome protocol).1.activeSessions.lookup key =
      if key = k then outcome.1 else protocol.activeSessions.lookup key := by
  change (protocol.activeSessions.alter k fun _ => outcome.1).lookup key = _
  rw [KeyedTable.lookup_alter, h]
  rfl

theorem lookup_updateEach (entries : List (FastPacketKey × FastPacketProtocolSession))
    (hnodup : (entries.map Prod.fst).Nodup) (protocol : FastPacketProtocol)
    (h : ∀ e ∈ entries, protocol.activeSessions.lookup e.1 = some e.2) :
    (updateEach env entries protocol).1.activeSessions.lookup key =
      if key ∈ entries.map Prod.fst then
        (protocol.activeSessions.lookup key).bind fun session => (session.update env key).1
      else protocol.activeSessions.lookup key := by
  induction entries generalizing protocol with
  | nil => simp [updateEach]
  | cons e rest ih =>
    obtain ⟨k, session⟩ := e
    rw [List.map_cons, List.nodup_cons] at hnodup
    have hk := h (k, session) List.mem_cons_self
    have hsettled (key' : FastPacketKey) :
        (settle env k session (session.update env k) protocol).1.activeSessions.lookup key' =
          if key' = k then (session.update env k).1
          else protocol.activeSessions.lookup key' :=
      lookup_settle k session _ hk
    have hrest : ∀ e ∈ rest, (settle env k session (session.update env k)
        protocol).1.activeSessions.lookup e.1 = some e.2 := by
      intro e he
      have hne : e.1 ≠ k := by
        rintro rfl
        exact hnodup.1 (List.mem_map.mpr ⟨e, he, rfl⟩)
      rw [hsettled, if_neg hne]
      exact h e (List.mem_cons_of_mem _ he)
    rw [updateEach, ih hnodup.2 _ hrest, hsettled]
    by_cases hkey : key = k
    · subst hkey
      rw [if_neg hnodup.1, if_pos rfl, if_pos (by simp), hk]
      rfl
    · rw [if_neg hkey]
      simp only [List.map_cons, List.mem_cons, hkey, false_or]

theorem lookup_update : (update env protocol).1.activeSessions.lookup key =
    (protocol.activeSessions.lookup key).bind fun session => (session.update env key).1 := by
  have hnodup : (protocol.activeSessions.entries.reverse.map Prod.fst).Nodup := by
    rw [List.map_reverse]
    exact List.nodup_reverse.mpr protocol.activeSessions.nodup
  rw [update, lookup_updateEach _ hnodup _ fun e he =>
    KeyedTable.lookup_of_mem (List.mem_reverse.mp he)]
  split_ifs with hmem
  · rfl
  · rw [List.map_reverse, List.mem_reverse, ← KeyedTable.lookup_eq_none_iff] at hmem
    rw [hmem]
    rfl

theorem events_updateEach (entries : List (FastPacketKey × FastPacketProtocolSession))
    (protocol : FastPacketProtocol) :
    (updateEach env entries protocol).2 = entries.flatMap fun e => (e.2.update env e.1).2 := by
  induction entries generalizing protocol with
  | nil => rfl
  | cons e rest ih =>
    rw [updateEach, List.flatMap_cons, ih]
    rfl

theorem events_update : (update env protocol).2 =
    (protocol.activeSessions.sweepBack fun key session => session.update env key).2 :=
  events_updateEach _ _

theorem callbacks_processMessage (message : CANMessage) :
    (processMessage env message protocol).1.parameterGroupNumberCallbacks =
        protocol.parameterGroupNumberCallbacks ∧
      (processMessage env message protocol).1.allowAnyControlFunction =
        protocol.allowAnyControlFunction := by
  unfold processMessage
  split
  · exact ⟨rfl, rfl⟩
  · split
    · exact ⟨rfl, rfl⟩
    · split_ifs
      · exact ⟨rfl, rfl⟩
      · split <;> exact ⟨rfl, rfl⟩

theorem lookup_of_requestedSession {request : SendRequest} {session : FastPacketProtocolSession}
    (h : requestedSession env request protocol = some (key, session)) :
    protocol.activeSessions.lookup key = none := by
  unfold requestedSession at h
  split at h
  · dsimp only at h
    split_ifs at h with _ hexists
    cases h
    exact Option.not_isSome_iff_eq_none.mp fun hsome => hexists (.inr hsome)
  · simp at h

theorem lookup_processMessage (message : CANMessage) :
    (processMessage env message protocol).1.activeSessions.lookup key =
      (fate protocol ⟨env, .processMessage message⟩ key).1 := by
  unfold fate processMessage
  cases hkey : heardKey env message protocol with
  | none => cases protocol.activeSessions.lookup key <;> simp [hkey]
  | some k =>
    dsimp only
    by_cases heq : k = key
    · subst heq
      cases hlookup : protocol.activeSessions.lookup k with
      | some session => simp [lookup_settle _ _ _ hlookup, hkey]
      | none =>
        by_cases hcounter : message.getUint8At 0 &&& FRAME_COUNTER_BIT_MASK = 0
        · cases hopened : openedSession env message <;> simp [hcounter, hlookup, hkey, hopened]
        · simp [hcounter, hlookup]
    · have hne : key ≠ k := fun h => heq h.symm
      have hsame : (fate protocol ⟨env, .processMessage message⟩ key).1 =
          protocol.activeSessions.lookup key := by
        unfold fate
        cases protocol.activeSessions.lookup key <;> simp [hkey, heq]
      unfold fate at hsame
      rw [hsame]
      cases hlookup : protocol.activeSessions.lookup k with
      | some session =>
        rw [lookup_settle _ _ _ hlookup, if_neg hne]
      | none =>
        split_ifs
        · rfl
        · cases openedSession env message with
          | none => rfl
          | some session => exact KeyedTable.lookup_push_ne _ _ hne

theorem lookup_next (protocol : FastPacketProtocol) (input : Input) (key : FastPacketKey) :
    (fastPacketProtocol.next protocol input).activeSessions.lookup key =
      (fate protocol input key).1 := by
  obtain ⟨env, call⟩ := input
  cases call with
  | processMessage message => exact lookup_processMessage message
  | update =>
    unfold fate Machine.next fastPacketProtocol
    rw [lookup_update]
    cases protocol.activeSessions.lookup key <;> rfl
  | sendMultipacketMessage request =>
    unfold fate Machine.next fastPacketProtocol sendMultipacketMessage
    dsimp only
    cases hrequest : requestedSession env request protocol with
    | none => cases hlookup : protocol.activeSessions.lookup key <;> simp [hrequest]
    | some requested =>
      obtain ⟨k, session⟩ := requested
      have hfree := lookup_of_requestedSession hrequest
      by_cases heq : k = key
      · subst heq
        simp [hfree, hrequest]
      · rw [KeyedTable.lookup_push_ne _ _ fun h => heq h.symm]
        cases hlookup : protocol.activeSessions.lookup key <;> simp [heq, hrequest]
  | registerMultipacketMessageCallback callback =>
    unfold fate
    cases hlookup : protocol.activeSessions.lookup key <;> exact hlookup
  | removeMultipacketMessageCallback callback =>
    unfold fate
    cases hlookup : protocol.activeSessions.lookup key <;> exact hlookup
  | allowAnyControlFunction allow =>
    unfold fate
    cases hlookup : protocol.activeSessions.lookup key <;> exact hlookup

theorem fate_of_heard {message : CANMessage} {session : FastPacketProtocolSession}
    (hheard : heardKey env message protocol = some key)
    (hlookup : protocol.activeSessions.lookup key = some session) :
    fate protocol ⟨env, .processMessage message⟩ key =
        session.receiveFrame env key (matchingCallbacks protocol message) message ∧
      fastPacketProtocol.emits protocol ⟨env, .processMessage message⟩ =
        (session.receiveFrame env key (matchingCallbacks protocol message) message).2 := by
  constructor
  · unfold fate
    rw [hlookup]
    exact if_pos hheard
  · change (processMessage env message protocol).2 = _
    unfold processMessage
    rw [hheard]
    dsimp only
    rw [hlookup]
    rfl

theorem fate_of_first {message : CANMessage}
    (hheard : heardKey env message protocol = some key)
    (hlookup : protocol.activeSessions.lookup key = none)
    (hcounter : message.getUint8At 0 &&& FRAME_COUNTER_BIT_MASK = 0) :
    fate protocol ⟨env, .processMessage message⟩ key = (openedSession env message, []) ∧
      fastPacketProtocol.emits protocol ⟨env, .processMessage message⟩ = [] := by
  constructor
  · unfold fate
    rw [hlookup]
    exact if_pos ⟨hheard, hcounter⟩
  · change (processMessage env message protocol).2 = _
    unfold processMessage
    rw [hheard]
    dsimp only
    rw [hlookup]
    dsimp only
    rw [if_neg (not_not.mpr hcounter)]
    split <;> rfl

end Isobus.FastPacket
