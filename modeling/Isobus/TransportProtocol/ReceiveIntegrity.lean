import Isobus.TransportProtocol.Manager

namespace Isobus.TransportProtocol

open Isobus.Can Isobus.Lib

namespace TransportProtocolSession

def Receiving (session : TransportProtocolSession) : Prop :=
  session.state = .sendClearToSend ∨ session.state = .waitForDataTransferPacket

/-- The received part of a session is left alone. -/
structure SameMessage (session session' : TransportProtocolSession) : Prop where
  group : session'.parameterGroupNumber = session.parameterGroupNumber
  size : session'.totalMessageSize = session.totalMessageSize
  data : session'.data = session.data
  last : session'.lastSequenceNumber = session.lastSequenceNumber

theorem SameMessage.refl (session : TransportProtocolSession) : SameMessage session session :=
  ⟨rfl, rfl, rfl, rfl⟩

/-- What a handler may do to a session when no packet arrives for it. -/
def Keeps (session : TransportProtocolSession) (outcome : Outcome) : Prop :=
  (∀ session', outcome.1 = some session' → session'.Receiving →
    session.Receiving ∧ session.SameMessage session') ∧ ∀ e ∈ outcome.2, e.isQuiet

/-- A handler that leaves a receiving session as it is, or ends it. -/
def Rests (session : TransportProtocolSession) (outcome : Outcome) : Prop :=
  (∀ session', outcome.1 = some session' → session'.Receiving → session' = session) ∧
    ∀ e ∈ outcome.2, e.isQuiet

variable {config : CANNetworkConfiguration} {env : Environment} {key : SessionKey}
variable {session : TransportProtocolSession}

theorem Rests.keeps {outcome : Outcome} (h : session.Rests outcome) : session.Keeps outcome := by
  refine ⟨fun session' hsome hr => ?_, h.2⟩
  obtain rfl := h.1 session' hsome hr
  exact ⟨hr, .refl _⟩

variable {events : List Event}

theorem rests_of_none (h : ∀ e ∈ events, e.isQuiet) :
    session.Rests (none, events) :=
  ⟨fun _ h => by simp at h, h⟩

theorem rests_self (h : ∀ e ∈ events, e.isQuiet) :
    session.Rests (some session, events) :=
  ⟨fun _ h _ => (Option.some.inj h).symm, h⟩

theorem rests_of_not_receiving {session' : TransportProtocolSession} (hr : ¬session'.Receiving)
    (h : ∀ e ∈ events, e.isQuiet) :
    session.Rests (some session', events) := by
  refine ⟨fun session'' h' hr' => ?_, h⟩
  obtain rfl := Option.some.inj h'
  exact absurd hr' hr

theorem isQuiet_frame (frame : TransmitFrame) (sent : Bool) :
    ∀ e ∈ [Event.frame frame sent], e.isQuiet := by
  intro e he
  rw [List.mem_singleton.mp he]
  rfl

theorem isQuiet_append {l l' : List Event} (h : ∀ e ∈ l, e.isQuiet)
    (h' : ∀ e ∈ l', e.isQuiet) : ∀ e ∈ l ++ l', e.isQuiet := by
  intro e he
  rcases List.mem_append.mp he with he | he
  · exact h e he
  · exact h' e he

theorem rests_closeSession (session old : TransportProtocolSession) (successful : Bool) :
    session.Rests (old.closeSession key successful) :=
  rests_of_none (old.toTransportProtocolSessionBase.isQuiet_complete key _ successful)

theorem isQuiet_abortSession (session : TransportProtocolSession)
    (reason : ConnectionAbortReason) :
    ∀ e ∈ (session.abortSession env key reason).2, e.isQuiet := by
  refine isQuiet_append ?_ (session.toTransportProtocolSessionBase.isQuiet_complete key _ false)
  split
  · exact isQuiet_frame _ _
  · simp

theorem rests_abortSession (session old : TransportProtocolSession)
    (reason : ConnectionAbortReason) : session.Rests (old.abortSession env key reason) :=
  rests_of_none (old.isQuiet_abortSession reason)

theorem sendFrames_state (env : Environment) (key : SessionKey) (n : Nat)
    (session : TransportProtocolSession) :
    (sendFrames env key n session).1.state = session.state := by
  induction n generalizing session with
  | zero => rfl
  | succ n ih =>
    rw [sendFrames]
    split
    · exact ih _
    · rfl

theorem isQuiet_sendFrames (env : Environment) (key : SessionKey) (n : Nat)
    (session : TransportProtocolSession) :
    ∀ e ∈ (sendFrames env key n session).2, e.isQuiet := by
  induction n generalizing session with
  | zero => simp [sendFrames]
  | succ n ih =>
    rw [sendFrames]
    split
    · exact isQuiet_append (isQuiet_frame _ _) (ih _)
    · exact isQuiet_frame _ _

theorem rests_sendDataTransferPackets (h : session.state = .sendDataTransferPackets) :
    session.Rests (session.sendDataTransferPackets config env key) := by
  have hquiet := isQuiet_sendFrames env key (session.framesToSend config key).toNat session
  have hstate := sendFrames_state env key (session.framesToSend config key).toNat session
  unfold sendDataTransferPackets
  dsimp only
  split_ifs
  · exact rests_of_none (isQuiet_append hquiet
      (TransportProtocolSessionBase.isQuiet_complete _ _ _ _))
  · exact rests_of_not_receiving (by simp [Receiving, setState]) hquiet
  · exact rests_of_not_receiving (by simp [Receiving, setState]) hquiet
  · exact rests_of_not_receiving (by simp [Receiving, hstate, h]) hquiet

theorem sendClearToSend_sameMessage (env : Environment) (key : SessionKey)
    (session : TransportProtocolSession) :
    session.SameMessage (session.sendClearToSend env key).2.1 ∧
      (session.sendClearToSend env key).2.1.state = session.state ∧
        ∀ e ∈ (session.sendClearToSend env key).2.2, e.isQuiet := by
  unfold sendClearToSend
  dsimp only
  split
  · exact ⟨⟨rfl, rfl, rfl, rfl⟩, rfl, isQuiet_frame _ _⟩
  · exact ⟨.refl _, rfl, isQuiet_frame _ _⟩

theorem rests_updateStateMachine (h : session.state ≠ .sendClearToSend) :
    session.Rests (session.updateStateMachine config env key) := by
  unfold updateStateMachine
  split
  case h_1 => exact rests_self (by simp)
  case h_2 =>
    dsimp only
    split
    · exact rests_of_not_receiving (by simp [Receiving, setState]) (isQuiet_frame _ _)
    · exact rests_self (isQuiet_frame _ _)
  case h_3 =>
    dsimp only
    split
    · exact rests_of_not_receiving (by simp [Receiving, setState]) (isQuiet_frame _ _)
    · exact rests_self (isQuiet_frame _ _)
  case h_4 =>
    split_ifs
    · exact rests_abortSession _ _ _
    · exact rests_closeSession _ _ _
    · exact rests_self (by simp)
  case h_5 hstate => exact absurd hstate h
  case h_6 hstate =>
    split_ifs
    · exact rests_self (by simp)
    · exact rests_sendDataTransferPackets hstate
  case h_7 =>
    split_ifs
    all_goals first
      | exact rests_closeSession _ _ _
      | exact rests_abortSession _ _ _
      | exact rests_self (by simp)
  case h_8 =>
    split_ifs
    · exact rests_abortSession _ _ _
    · exact rests_self (by simp)

theorem keeps_updateStateMachine (session : TransportProtocolSession) :
    session.Keeps (session.updateStateMachine config env key) := by
  by_cases hstate : session.state = .sendClearToSend
  · obtain ⟨hsame, -, hquiet⟩ := session.sendClearToSend_sameMessage env key
    unfold updateStateMachine
    rw [hstate]
    dsimp only
    split
    · refine ⟨fun session' h _ => ?_, hquiet⟩
      cases h
      exact ⟨.inl hstate, ⟨hsame.group, hsame.size, hsame.data, hsame.last⟩⟩
    · refine ⟨fun session' h _ => ?_, hquiet⟩
      cases h
      exact ⟨.inl hstate, hsame⟩
  · exact (rests_updateStateMachine hstate).keeps

theorem keeps_update (session : TransportProtocolSession) :
    session.Keeps (session.update config env key) := by
  unfold update
  split_ifs
  · exact (rests_closeSession _ _ _).keeps
  · exact (rests_closeSession _ _ _).keeps
  · exact keeps_updateStateMachine session
  · exact (rests_self (by simp)).keeps

theorem rests_receiveClearToSend (packetsToBeSent nextPacketNumber : UInt8)
    (session : TransportProtocolSession) :
    session.Rests (session.receiveClearToSend env key packetsToBeSent nextPacketNumber) := by
  unfold receiveClearToSend
  split_ifs with _ hstate
  · exact rests_abortSession _ _ _
  · exact rests_abortSession _ _ _
  · exact rests_of_not_receiving (by simp [Receiving, setState]) (by simp)
  · have hwait := not_not.mp hstate
    exact rests_of_not_receiving
      (by simp [Receiving, setAcknowledgedPacketNumber, setCtsNumberOfPackets, hwait]) (by simp)

theorem rests_receiveEndOfMessageAcknowledge (session : TransportProtocolSession) :
    session.Rests (session.receiveEndOfMessageAcknowledge key) := by
  unfold receiveEndOfMessageAcknowledge
  split_ifs
  · exact rests_closeSession _ _ _
  · exact rests_self (by simp)

/-- The next packet went into the buffer and was counted. -/
structure Stored (number : Nat) (payload : List UInt8)
    (session session' : TransportProtocolSession) : Prop where
  group : session'.parameterGroupNumber = session.parameterGroupNumber
  size : session'.totalMessageSize = session.totalMessageSize
  data : session'.data = overwrite session.data session.currentDataIndex
    (payload.take session.bytesToCopy)
  number_eq : number = session.lastSequenceNumber.toNat + 1
  last : session'.lastSequenceNumber.toNat = number

theorem Stored.trans_sameMessage {number : Nat} {payload : List UInt8}
    {a b c : TransportProtocolSession} (h : Stored number payload a b) (h' : SameMessage b c) :
    Stored number payload a c where
  group := h'.group.trans h.group
  size := h'.size.trans h.size
  data := h'.data.trans h.data
  number_eq := h.number_eq
  last := by rw [h'.last, h.last]

theorem copyIn_eq_some {payload : List UInt8}
    (h : session.currentDataIndex < session.getMessageLength.toNat) :
    session.copyIn payload = some (session.overwriteData session.currentDataIndex
      (payload.take session.bytesToCopy)) := by
  have hfits : session.currentDataIndex + (payload.take session.bytesToCopy).length ≤
      session.data.length := by
    rw [session.data_length, List.length_take]
    change _ ≤ session.getMessageLength.toNat
    have : session.bytesToCopy ≤ session.getMessageLength.toNat - session.currentDataIndex :=
      Nat.min_le_right _ _
    omega
  rw [copyIn, if_pos hfits]

theorem afterPacket_of_remaining (env : Environment) (key : SessionKey) (timestampUs : UInt64)
    (h : session.getNumberOfRemainingPackets ≠ 0) :
    (∃ session', (session.afterPacket env key timestampUs).1 = some session' ∧
      session.SameMessage session') ∧
      ∀ e ∈ (session.afterPacket env key timestampUs).2, e.isQuiet := by
  obtain ⟨hsame, -, hquiet⟩ := session.sendClearToSend_sameMessage env key
  unfold afterPacket
  rw [if_neg h]
  split_ifs
  · exact ⟨⟨_, rfl, hsame⟩, hquiet⟩
  · exact ⟨⟨_, rfl, .refl _⟩, by simp⟩

theorem afterPacket_of_complete (env : Environment) (key : SessionKey) (timestampUs : UInt64)
    (h : session.getNumberOfRemainingPackets = 0) :
    (session.afterPacket env key timestampUs).1 = none ∧
      ∀ e ∈ (session.afterPacket env key timestampUs).2,
        e = .messageReceived (session.completedMessage env key timestampUs) ∨ e.isQuiet := by
  unfold afterPacket
  rw [if_pos h]
  refine ⟨rfl, ?_⟩
  intro e he
  simp only [List.mem_append, List.mem_singleton] at he
  rcases he with (he | he) | he
  · right
    split at he
    · exact isQuiet_frame _ _ e he
    · simp at he
  · exact .inl he
  · exact .inr (TransportProtocolSessionBase.isQuiet_complete _ _ _ _ e he)

/-- A data transfer that does not end the session stores its packet. -/
theorem receiveDataTransfer_cases (env : Environment) (key : SessionKey) (message : CANMessage)
    (session : TransportProtocolSession) :
    ((session.receiveDataTransfer env key message).1 = none ∧
      ∀ e ∈ (session.receiveDataTransfer env key message).2, e.isQuiet) ∨
    ∃ stored, session.Receiving ∧ session.currentDataIndex < session.getMessageLength.toNat ∧
      Stored (message.getUint8At SEQUENCE_NUMBER_DATA_INDEX).toNat (message.data.drop 1)
        session stored ∧
      session.receiveDataTransfer env key message =
        stored.afterPacket env key message.timestampUs := by
  unfold receiveDataTransfer
  dsimp only
  split_ifs with hstate hsame hnext hindex
  · exact .inl ⟨rfl, isQuiet_abortSession _ _⟩
  · exact .inl ⟨rfl, isQuiet_abortSession _ _⟩
  · exact .inl ⟨rfl, isQuiet_abortSession _ _⟩
  · right
    have hfits := Nat.not_le.mp hindex
    rw [copyIn_eq_some hfits]
    refine ⟨_, .inr (not_not.mp hstate), hfits, ?_, rfl⟩
    exact ⟨rfl, rfl, rfl, hnext, rfl⟩
  · exact .inl ⟨rfl, isQuiet_abortSession _ _⟩

theorem stored_of_receiveDataTransfer {message : CANMessage}
    {session' : TransportProtocolSession}
    (h : (session.receiveDataTransfer env key message).1 = some session') :
    session.Receiving ∧ session.currentDataIndex < session.getMessageLength.toNat ∧
      Stored (message.getUint8At SEQUENCE_NUMBER_DATA_INDEX).toNat (message.data.drop 1)
        session session' := by
  rcases session.receiveDataTransfer_cases env key message with
    ⟨hnone, -⟩ | ⟨stored, hr, hfits, hstored, heq⟩
  · rw [hnone] at h
    simp at h
  · rw [heq] at h
    by_cases hremaining : stored.getNumberOfRemainingPackets = 0
    · rw [(afterPacket_of_complete env key message.timestampUs hremaining).1] at h
      simp at h
    · obtain ⟨⟨session'', hsome, hsame⟩, -⟩ :=
        afterPacket_of_remaining env key message.timestampUs hremaining
      rw [hsome] at h
      cases h
      exact ⟨hr, hfits, hstored.trans_sameMessage hsame⟩

theorem delivered_of_receiveDataTransfer {message : CANMessage} {e : Event}
    (h : e ∈ (session.receiveDataTransfer env key message).2) :
    e.isQuiet ∨ ∃ stored, session.Receiving ∧
      session.currentDataIndex < session.getMessageLength.toNat ∧
      Stored (message.getUint8At SEQUENCE_NUMBER_DATA_INDEX).toNat (message.data.drop 1)
        session stored ∧ stored.getNumberOfRemainingPackets = 0 ∧
      e = .messageReceived (stored.completedMessage env key message.timestampUs) := by
  rcases session.receiveDataTransfer_cases env key message with
    ⟨-, hquiet⟩ | ⟨stored, hr, hfits, hstored, heq⟩
  · exact .inl (hquiet e h)
  · rw [heq] at h
    by_cases hremaining : stored.getNumberOfRemainingPackets = 0
    · rcases (afterPacket_of_complete env key _ hremaining).2 e h with he | he
      · exact .inr ⟨stored, hr, hfits, hstored, hremaining, he⟩
      · exact .inl he
    · exact .inl ((afterPacket_of_remaining env key _ hremaining).2 e h)

end TransportProtocolSession

open TransportProtocolSession

/-- The message passes the manager's filter and belongs to this pair of parties. -/
def Addressed (env : Environment) (key : SessionKey) (message : CANMessage) : Prop :=
  message.source = some key.source ∧ message.hasValidSourceControlFunction env.world = true ∧
    (message.isDestinationOurDevice env.world || message.isBroadcast env.world) = true ∧
    message.specificDestination env.world = key.destination ∧
    message.data.length = CAN_DATA_LENGTH

instance (env : Environment) (key : SessionKey) (message : CANMessage) :
    Decidable (Addressed env key message) :=
  inferInstanceAs (Decidable (_ ∧ _))

def announcementMultiplexor (key : SessionKey) : UInt8 :=
  if key.destination = none then BROADCAST_ANNOUNCE_MESSAGE_MULTIPLEXOR
  else REQUEST_TO_SEND_MULTIPLEXOR

/-- The length that a call announces for one pair of parties, when the manager
accepts the announcement. -/
def openingOf (config : CANNetworkConfiguration) (sessions : ActiveSessions)
    (key : SessionKey) (input : Input) : Option UInt16 :=
  match input.call with
  | .processMessage message =>
    if Addressed input.env key message ∧
        message.identifier.getParameterGroupNumber = transportProtocolConnectionManagement ∧
        message.getUint8At 0 = announcementMultiplexor key ∧
        sessionsFull config sessions = false ∧
        (key.destination = none →
          (message.getUint16At 1).toNat ≤ MAX_PROTOCOL_DATA_LENGTH) ∧
        totalNumberOfPackets (message.getUint16At 1) = message.getUint8At 3 then
      some (message.getUint16At 1)
    else none
  | _ => none

/-- The number and the payload of the data packet that a call carries for one
pair of parties. -/
def packetOf (key : SessionKey) (input : Input) : Option (Nat × List UInt8) :=
  match input.call with
  | .processMessage message =>
    if Addressed input.env key message ∧
        message.identifier.getParameterGroupNumber = transportProtocolDataTransfer then
      some ((message.getUint8At SEQUENCE_NUMBER_DATA_INDEX).toNat, message.data.drop 1)
    else none
  | _ => none

/-- What an observer notes about one pair of parties: the length announced last
and the packets since. -/
abbrev Note := Option (UInt16 × List (Nat × List UInt8))

def observe (config : CANNetworkConfiguration) (key : SessionKey)
    (sessions : ActiveSessions) (note : Note) (input : Input) : Note :=
  match openingOf config sessions key input with
  | some length => some (length, [])
  | none => note.map fun n => (n.1, n.2 ++ (packetOf key input).toList)

def transcript (config : CANNetworkConfiguration) (key : SessionKey) :
    ActiveSessions → Note → List Input → Note
  | _, note, [] => note
  | sessions, note, input :: inputs =>
    transcript config key ((transportProtocolManager config).next sessions input)
      (observe config key sessions note input) inputs

variable {config : CANNetworkConfiguration} {env : Environment}
variable {sessions : ActiveSessions} {key : SessionKey} {input : Input}

theorem transcript_concat (note : Note) (inputs : List Input) (input : Input) :
    transcript config key sessions note (inputs ++ [input]) =
      observe config key ((transportProtocolManager config).run sessions inputs)
        (transcript config key sessions note inputs) input := by
  induction inputs generalizing sessions note with
  | nil => rfl
  | cons i is ih => exact ih _

def KeepsAt (key : SessionKey) (sessions after : ActiveSessions) : Prop :=
  ∀ session', after.lookup key = some session' → session'.Receiving →
    ∃ session, sessions.lookup key = some session ∧ session.Receiving ∧
      session.SameMessage session'

def RestsAt (key : SessionKey) (sessions after : ActiveSessions) : Prop :=
  ∀ session', after.lookup key = some session' → session'.Receiving →
    sessions.lookup key = some session'

theorem restsAt_refl (key : SessionKey) (sessions : ActiveSessions) :
    RestsAt key sessions sessions :=
  fun _ h _ => h

theorem restsAt_of_lookup_eq {after : ActiveSessions}
    (h : after.lookup key = sessions.lookup key) : RestsAt key sessions after :=
  fun _ h' _ => h ▸ h'

theorem RestsAt.trans {a b c : ActiveSessions} (h : RestsAt key a b) (h' : RestsAt key b c) :
    RestsAt key a c :=
  fun session' hc hr => h session' (h' session' hc hr) hr

theorem restsAt_dispatch {k : SessionKey} {f : TransportProtocolSession → Outcome}
    (h : ∀ session : TransportProtocolSession, session.Rests (f session)) :
    RestsAt key sessions (sessions.dispatch k f).1 := by
  intro session' h' hr'
  rw [KeyedTable.lookup_dispatch] at h'
  split_ifs at h' with hkey
  · obtain ⟨session, hlookup, hsome⟩ := Option.bind_eq_some_iff.mp h'
    obtain rfl := (h session).1 session' hsome hr'
    exact hkey ▸ hlookup
  · exact h'

theorem isQuiet_dispatch {k : SessionKey} {f : TransportProtocolSession → Outcome}
    (h : ∀ session : TransportProtocolSession, ∀ e ∈ (f session).2, e.isQuiet) :
    ∀ e ∈ (sessions.dispatch k f).2, e.isQuiet := by
  intro e he
  obtain ⟨session, -, he⟩ := KeyedTable.mem_dispatch.mp he
  exact h session e he

theorem lookup_openSession (k : SessionKey) (session : TransportProtocolSession) :
    (openSession config env k session sessions).1.lookup key =
      if key = k then (session.updateStateMachine config env k).1
      else sessions.lookup key := by
  rw [openSession, KeyedTable.lookup_dispatch, KeyedTable.lookup_push_self]
  split_ifs with h
  · rfl
  · exact KeyedTable.lookup_push_ne _ _ h

theorem isQuiet_openSession (k : SessionKey) (session : TransportProtocolSession) :
    ∀ e ∈ (openSession config env k session sessions).2, e.isQuiet :=
  isQuiet_dispatch fun session => (keeps_updateStateMachine session).2

theorem rests_closeMatching (k : SessionKey) (parameterGroupNumber : UInt32)
    (session : TransportProtocolSession) :
    session.Rests (if session.parameterGroupNumber = parameterGroupNumber then
      session.closeSession k false else (some session, [])) := by
  split_ifs
  · exact rests_closeSession _ _ _
  · exact rests_self (by simp)

theorem rests_clearToSend (k : SessionKey) (source destination : CFRef)
    (parameterGroupNumber : UInt32) (packetsToBeSent nextPacketNumber : UInt8)
    (session : TransportProtocolSession) :
    session.Rests (if session.parameterGroupNumber ≠ parameterGroupNumber then
      let aborted := session.abortSession env k .clearToSendReceivedWhileTransferInProgress
      (aborted.1, aborted.2 ++ [TransportProtocolSession.sendAbort env destination source
        parameterGroupNumber .clearToSendReceivedWhileTransferInProgress])
    else session.receiveClearToSend env k packetsToBeSent nextPacketNumber) := by
  split_ifs
  · exact rests_of_none (isQuiet_append (isQuiet_abortSession _ _) (isQuiet_frame _ _))
  · exact rests_receiveClearToSend _ _ session

theorem rests_replaced (k : SessionKey) (parameterGroupNumber : UInt32)
    (old : TransportProtocolSession) :
    old.Rests (if old.parameterGroupNumber ≠ parameterGroupNumber then
      old.abortSession env k .alreadyInCMSession else old.closeSession k false) := by
  split_ifs
  · exact rests_abortSession _ _ _
  · exact rests_closeSession _ _ _

theorem restsAt_processAbort (source destination : CFRef) (parameterGroupNumber : UInt32) :
    RestsAt key sessions
      (processAbort source destination parameterGroupNumber sessions).1 :=
  (restsAt_dispatch fun session => rests_closeMatching _ _ session).trans
    (restsAt_dispatch fun session => rests_closeMatching _ _ session)

structure Fresh (length : UInt16) (session : TransportProtocolSession) : Prop where
  size : session.totalMessageSize = length
  data : session.data = List.replicate length.toNat 0
  last : session.lastSequenceNumber = 0

variable {session' : TransportProtocolSession} {length : UInt16} {source : CFRef}

variable {group : UInt32} {message : CANMessage} {packets : List (Nat × List UInt8)}

theorem fresh_of_openSession {session : TransportProtocolSession} {limit : UInt8} {now : UInt32}
    {state : StateMachineState}
    (hnew : session = (receiveSession group length limit).setState now state)
    (h : (openSession config env key session sessions).1.lookup key = some session')
    (hr : session'.Receiving) : Fresh length session' := by
  rw [lookup_openSession, if_pos rfl] at h
  obtain ⟨-, hsame⟩ := (keeps_updateStateMachine session).1 session' h hr
  subst hnew
  exact ⟨hsame.size, hsame.data, hsame.last⟩

theorem restsAt_processBroadcastAnnounceMessage {count : UInt8}
    (h : key = ⟨source, none⟩ → sessionsFull config sessions = false →
      length.toNat ≤ MAX_PROTOCOL_DATA_LENGTH → totalNumberOfPackets length ≠ count) :
    RestsAt key sessions (processBroadcastAnnounceMessage config env source group length
      count sessions).1 := by
  unfold processBroadcastAnnounceMessage
  dsimp only
  split_ifs with hfull hlong hcount
  · exact restsAt_refl key sessions
  · exact restsAt_refl key sessions
  · exact restsAt_dispatch fun session => rests_closeSession session session false
  · have hne : key ≠ ⟨source, none⟩ := by
      intro hkey
      exact h hkey (by simpa using hfull) (Nat.not_lt.mp hlong) (not_not.mp hcount)
    have hclosed : RestsAt key sessions
        (sessions.dispatch ⟨source, none⟩ (·.closeSession ⟨source, none⟩ false)).1 :=
      restsAt_dispatch fun session => rests_closeSession session session false
    refine hclosed.trans (restsAt_of_lookup_eq ?_)
    rw [lookup_openSession, if_neg hne]

theorem restsAt_processRequestToSend {destination : CFRef} {count limit : UInt8}
    (h : key = ⟨source, some destination⟩ → sessionsFull config sessions = false →
      totalNumberOfPackets length ≠ count) :
    RestsAt key sessions (processRequestToSend config env source destination group length
      count limit sessions).1 := by
  unfold processRequestToSend
  dsimp only
  split_ifs with hfull hcount
  · exact restsAt_refl key sessions
  · exact restsAt_dispatch fun session => rests_replaced _ _ session
  · have hne : key ≠ ⟨source, some destination⟩ := by
      intro hkey
      exact h hkey (by simpa using hfull) (not_not.mp hcount)
    have hclosed : RestsAt key sessions
        (sessions.dispatch ⟨source, some destination⟩ fun old =>
          if old.parameterGroupNumber ≠ group then
            old.abortSession env ⟨source, some destination⟩ .alreadyInCMSession
          else old.closeSession ⟨source, some destination⟩ false).1 :=
      restsAt_dispatch fun session => rests_replaced _ _ session
    refine hclosed.trans (restsAt_of_lookup_eq ?_)
    rw [lookup_openSession, if_neg hne]

theorem addressed_of_filter (hsource : message.source = some source)
    (hfilter : (message.hasValidSourceControlFunction env.world &&
      (message.isDestinationOurDevice env.world || message.isBroadcast env.world)) = true)
    (hlength : message.data.length = CAN_DATA_LENGTH) :
    Addressed env ⟨source, message.specificDestination env.world⟩ message := by
  rw [Bool.and_eq_true] at hfilter
  exact ⟨hsource, hfilter.1, hfilter.2, rfl, hlength⟩

theorem restsAt_processConnectionManagementMessage {env : Environment}
    (hsource : message.source = some source)
    (hfilter : (message.hasValidSourceControlFunction env.world &&
      (message.isDestinationOurDevice env.world || message.isBroadcast env.world)) = true)
    (hgroup : message.identifier.getParameterGroupNumber = transportProtocolConnectionManagement)
    (hopen : openingOf config sessions key ⟨env, .processMessage message⟩ = none) :
    RestsAt key sessions
      (processConnectionManagementMessage config env source message sessions).1 := by
  unfold processConnectionManagementMessage
  split_ifs with hlength
  · exact restsAt_refl key sessions
  have haddressed := addressed_of_filter hsource hfilter (not_not.mp hlength).symm
  -- An announcement for this key that passes all checks would have opened a session.
  have hrefused (hkey : key = ⟨source, message.specificDestination env.world⟩)
      (hmux : message.getUint8At 0 = announcementMultiplexor key)
      (hfull : sessionsFull config sessions = false)
      (hlong : key.destination = none →
        (message.getUint16At 1).toNat ≤ MAX_PROTOCOL_DATA_LENGTH) :
      totalNumberOfPackets (message.getUint16At 1) ≠ message.getUint8At 3 := by
    intro hcount
    unfold openingOf at hopen
    dsimp only at hopen
    rw [if_pos ⟨hkey ▸ haddressed, hgroup, hmux, hfull, hlong, hcount⟩] at hopen
    simp at hopen
  dsimp only
  split
  case h_1 hdestination =>
    rw [hdestination] at hrefused
    split_ifs with hmux
    · apply restsAt_processBroadcastAnnounceMessage
      intro hkey hfull hlong
      exact hrefused hkey (by rw [hmux, hkey]; rfl) hfull fun _ => hlong
    · exact restsAt_refl key sessions
  case h_2 destination hdestination =>
    rw [hdestination] at hrefused
    split_ifs with hmux
    · apply restsAt_processRequestToSend
      intro hkey hfull
      exact hrefused hkey (by rw [hmux, hkey]; rfl) hfull fun h => by rw [hkey] at h; simp at h
    · exact restsAt_dispatch fun session => rests_clearToSend _ _ _ _ _ _ session
    · exact restsAt_dispatch fun session => rests_receiveEndOfMessageAcknowledge session
    · exact restsAt_processAbort _ _ _
    · exact restsAt_refl key sessions

theorem restsAt_protocolTransmitMessage (request : TransmitRequest) :
    RestsAt key sessions (protocolTransmitMessage config env request sessions).1 := by
  unfold protocolTransmitMessage
  split
  · exact restsAt_refl key sessions
  · rename_i k session hsession
    have hnot : ¬session.Receiving := by
      unfold requestedSession at hsession
      split at hsession
      · simp at hsession
      · split at hsession
        · simp at hsession
        · split_ifs at hsession
          all_goals
            cases hsession
            simp [Receiving, setState]
    intro session' h hr
    dsimp only at h
    rw [lookup_openSession] at h
    split_ifs at h
    · exact absurd ((keeps_updateStateMachine session).1 session' h hr).1 hnot
    · exact h

/-- A call other than `update` that neither opens a session nor carries a packet for it leaves a
receiving session as it is, or ends it. -/
theorem restsAt_next (hopen : openingOf config sessions key input = none)
    (hpacket : packetOf key input = none) (hcall : input.call ≠ .update) :
    RestsAt key sessions ((transportProtocolManager config).next sessions input) := by
  obtain ⟨env, call⟩ := input
  cases call with
  | processMessage message =>
    change RestsAt key sessions (processMessage config env message sessions).1
    unfold processMessage
    split
    · exact restsAt_refl key sessions
    · rename_i source hsource
      split_ifs with hfilter hcm hdt
      · exact restsAt_processConnectionManagementMessage hsource hfilter hcm hopen
      · unfold processDataTransferMessage
        split_ifs with hlength
        · exact restsAt_refl key sessions
        · have haddressed := addressed_of_filter hsource hfilter (not_not.mp hlength).symm
          apply restsAt_of_lookup_eq
          rw [KeyedTable.lookup_dispatch, if_neg]
          rintro rfl
          unfold packetOf at hpacket
          dsimp only at hpacket
          rw [if_pos ⟨haddressed, hdt⟩] at hpacket
          simp at hpacket
      · exact restsAt_refl key sessions
      · exact restsAt_refl key sessions
  | update => exact absurd rfl hcall
  | protocolTransmitMessage request => exact restsAt_protocolTransmitMessage request

/-- A call that neither opens a session nor carries a packet for it leaves what
was received alone. -/
theorem keepsAt_next (hopen : openingOf config sessions key input = none)
    (hpacket : packetOf key input = none) :
    KeepsAt key sessions ((transportProtocolManager config).next sessions input) := by
  intro session' h hr
  by_cases hcall : input.call = .update
  · rw [Machine.next, step_of_update config hcall, TransportProtocol.update,
      KeyedTable.lookup_sweep] at h
    obtain ⟨session, hlookup, hsome⟩ := Option.bind_eq_some_iff.mp h
    obtain ⟨hr', hsame⟩ := (keeps_update session).1 session' hsome hr
    exact ⟨session, hlookup, hr', hsame⟩
  · exact ⟨session', restsAt_next hopen hpacket hcall session' h hr, hr, .refl _⟩

/-- A call that passes the filter for this pair of parties reaches the handler of
its group number. -/
theorem processMessage_of_addressed (h : Addressed env key message) :
    processMessage config env message sessions =
      if message.identifier.getParameterGroupNumber =
          transportProtocolConnectionManagement then
        processConnectionManagementMessage config env key.source message sessions
      else if message.identifier.getParameterGroupNumber = transportProtocolDataTransfer then
        processDataTransferMessage env key.source message sessions
      else (sessions, []) := by
  obtain ⟨hsource, hvalid, hfor, -, -⟩ := h
  unfold processMessage
  rw [hsource]
  dsimp only
  rw [if_pos (by rw [hvalid, hfor]; rfl)]

/-- The session that an accepted announcement leaves behind has an empty buffer
of the announced length. -/
theorem fresh_next (hopen : openingOf config sessions key input = some length)
    (h : ((transportProtocolManager config).next sessions input).lookup key = some session')
    (hr : session'.Receiving) : Fresh length session' := by
  obtain ⟨env, call⟩ := input
  cases call with
  | update => simp [openingOf] at hopen
  | protocolTransmitMessage request => simp [openingOf] at hopen
  | processMessage message =>
    unfold openingOf at hopen
    dsimp only at hopen
    split_ifs at hopen with hcond
    obtain ⟨haddressed, hgroup, hmux, hfull, hlong, hcount⟩ := hcond
    cases hopen
    change (processMessage config env message sessions).1.lookup key = _ at h
    rw [processMessage_of_addressed haddressed, if_pos hgroup,
      processConnectionManagementMessage, if_neg (by rw [haddressed.2.2.2.2]; simp),
      haddressed.2.2.2.1] at h
    obtain ⟨source, destination⟩ := key
    cases destination with
    | none =>
      change message.getUint8At 0 = BROADCAST_ANNOUNCE_MESSAGE_MULTIPLEXOR at hmux
      dsimp only at h
      rw [if_pos hmux, processBroadcastAnnounceMessage, if_neg (by simp [hfull]),
        if_neg (Nat.not_lt.mpr (hlong rfl))] at h
      dsimp only at h
      rw [getTotalNumberOfPackets_receiveSession, if_neg (not_not.mpr hcount)] at h
      exact fresh_of_openSession rfl h hr
    | some destination =>
      change message.getUint8At 0 = REQUEST_TO_SEND_MULTIPLEXOR at hmux
      dsimp only at h
      rw [if_pos hmux, processRequestToSend, if_neg (by simp [hfull])] at h
      dsimp only at h
      rw [getTotalNumberOfPackets_receiveSession, if_neg (not_not.mpr hcount)] at h
      exact fresh_of_openSession rfl h hr

theorem step_of_packet {number : Nat} {payload : List UInt8}
    (h : packetOf key input = some (number, payload)) :
    ∃ message, number = (message.getUint8At SEQUENCE_NUMBER_DATA_INDEX).toNat ∧
      payload = message.data.drop 1 ∧ payload.length = PROTOCOL_BYTES_PER_FRAME ∧
      (transportProtocolManager config).step sessions input =
        sessions.dispatch key (·.receiveDataTransfer input.env key message) := by
  obtain ⟨env, call⟩ := input
  cases call with
  | update => simp [packetOf] at h
  | protocolTransmitMessage request => simp [packetOf] at h
  | processMessage message =>
    unfold packetOf at h
    dsimp only at h
    split_ifs at h with hcond
    obtain ⟨haddressed, hgroup⟩ := hcond
    cases h
    have hlength := haddressed.2.2.2.2
    refine ⟨message, rfl, rfl, by rw [List.length_drop, hlength]; rfl, ?_⟩
    change processMessage config env message sessions = _
    rw [processMessage_of_addressed haddressed,
      if_neg (by rw [hgroup]; decide), if_pos hgroup, processDataTransferMessage,
      if_neg (by rw [hlength]; simp)]
    dsimp only
    rw [haddressed.2.2.2.1]

theorem openingOf_of_packet {packet : Nat × List UInt8} (h : packetOf key input = some packet) :
    openingOf config sessions key input = none := by
  obtain ⟨env, call⟩ := input
  cases call with
  | update => rfl
  | protocolTransmitMessage request => rfl
  | processMessage message =>
    unfold packetOf at h
    dsimp only at h
    split_ifs at h with hcond
    unfold openingOf
    dsimp only
    rw [if_neg]
    rintro ⟨-, hgroup, -⟩
    rw [hcond.2] at hgroup
    cases hgroup

theorem isQuiet_processConnectionManagementMessage (source : CFRef) (message : CANMessage) :
    ∀ e ∈ (processConnectionManagementMessage config env source message sessions).2,
      e.isQuiet := by
  have hnil : ∀ e ∈ ([] : List Event), e.isQuiet := by simp
  unfold processConnectionManagementMessage
  split_ifs
  · exact hnil
  dsimp only
  split
  · split_ifs
    · unfold processBroadcastAnnounceMessage
      dsimp only
      split_ifs
      · exact hnil
      · exact hnil
      · exact isQuiet_dispatch fun session => (rests_closeSession session session false).2
      · exact isQuiet_append
          (isQuiet_dispatch fun session => (rests_closeSession session session false).2)
          (isQuiet_openSession _ _)
    · exact hnil
  · split_ifs
    · unfold processRequestToSend
      dsimp only
      split_ifs
      · exact isQuiet_frame _ _
      · exact isQuiet_append (isQuiet_dispatch fun session => (rests_replaced _ _ session).2)
          (isQuiet_abortSession _ _)
      · exact isQuiet_append (isQuiet_dispatch fun session => (rests_replaced _ _ session).2)
          (isQuiet_openSession _ _)
    · exact isQuiet_dispatch fun session => (rests_clearToSend _ _ _ _ _ _ session).2
    · exact isQuiet_dispatch fun session => (rests_receiveEndOfMessageAcknowledge session).2
    · exact isQuiet_append (isQuiet_dispatch fun session => (rests_closeMatching _ _ session).2)
        (isQuiet_dispatch fun session => (rests_closeMatching _ _ session).2)
    · exact hnil

theorem exists_packet_of_not_quiet {e : Event}
    (h : e ∈ (transportProtocolManager config).emits sessions input)
    (hloud : ¬e.isQuiet) : ∃ key packet, packetOf key input = some packet := by
  obtain ⟨env, call⟩ := input
  cases call with
  | update =>
    obtain ⟨key, session, -, he⟩ := KeyedTable.mem_sweep.mp h
    exact absurd ((keeps_update session).2 e he) hloud
  | protocolTransmitMessage request =>
    change e ∈ (protocolTransmitMessage config env request sessions).2 at h
    unfold protocolTransmitMessage at h
    split at h
    · rw [List.mem_singleton.mp h] at hloud
      exact absurd rfl hloud
    · rcases List.mem_append.mp h with h | h
      · exact absurd (isQuiet_openSession _ _ e h) hloud
      · rw [List.mem_singleton.mp h] at hloud
        exact absurd rfl hloud
  | processMessage message =>
    change e ∈ (processMessage config env message sessions).2 at h
    unfold processMessage at h
    split at h
    · simp at h
    · rename_i source hsource
      split_ifs at h with hfilter hcm hdt
      · exact absurd (isQuiet_processConnectionManagementMessage source message e h) hloud
      · unfold processDataTransferMessage at h
        split_ifs at h with hlength
        · simp at h
        · have haddressed := addressed_of_filter hsource hfilter (not_not.mp hlength).symm
          refine ⟨⟨source, message.specificDestination env.world⟩,
            ((message.getUint8At SEQUENCE_NUMBER_DATA_INDEX).toNat, message.data.drop 1), ?_⟩
          unfold packetOf
          dsimp only
          rw [if_pos ⟨haddressed, hdt⟩]
      · simp at h
      · simp at h

/-- A session and the packets that were noted since its announcement. -/
structure Received (packets : List (Nat × List UInt8)) (session : TransportProtocolSession) :
    Prop where
  assembled : Assembled PROTOCOL_BYTES_PER_FRAME packets session.data
  count : session.lastSequenceNumber.toNat = packets.length

/-- Every session that receives is filled with what was noted for its parties. -/
def ReceiveInvariant (config : CANNetworkConfiguration) (past : List Input)
    (sessions : ActiveSessions) : Prop :=
  ∀ key session, sessions.lookup key = some session → session.Receiving →
    ∃ packets, transcript config key KeyedTable.empty none past =
      some (session.totalMessageSize, packets) ∧ Received packets session

theorem Received.of_sameMessage {session : TransportProtocolSession}
    (h : Received packets session) (hsame : session.SameMessage session') :
        Received packets session' where
  assembled := hsame.data ▸ h.assembled
  count := by rw [hsame.last, h.count]

theorem Received.of_stored {number : Nat} {payload : List UInt8}
    {session : TransportProtocolSession} (h : Received packets session)
    (hstored : Stored number payload session session')
    (hlength : payload.length = PROTOCOL_BYTES_PER_FRAME) :
    Received (packets ++ [(number, payload)]) session' where
  assembled := by
    have hnext := h.assembled.concat hlength
    rw [hstored.data, hstored.number_eq, h.count]
    have hindex : session.currentDataIndex = PROTOCOL_BYTES_PER_FRAME * packets.length := by
      rw [← h.count]
      rfl
    have hcopy : session.bytesToCopy = min PROTOCOL_BYTES_PER_FRAME
        (session.data.length - PROTOCOL_BYTES_PER_FRAME * packets.length) := by
      rw [bytesToCopy, hindex, session.data_length]
      rfl
    rw [hindex, hcopy]
    exact hnext
  count := by rw [hstored.last, hstored.number_eq, h.count, List.length_append]; rfl

theorem receiveInvariant_next (past : List Input) (input : Input)
    (hinv : ReceiveInvariant config past
      ((transportProtocolManager config).run KeyedTable.empty past)) :
    ReceiveInvariant config (past ++ [input])
      ((transportProtocolManager config).next
        ((transportProtocolManager config).run KeyedTable.empty past) input) := by
  intro key session' hlookup hr'
  rw [transcript_concat, observe]
  generalize (transportProtocolManager config).run KeyedTable.empty past = sessions at *
  cases hopen : openingOf config sessions key input with
  | some length =>
    have hfresh := fresh_next hopen hlookup hr'
    exact ⟨[], by rw [hfresh.size], .nil _ _, by rw [hfresh.last]; rfl⟩
  | none =>
    cases hpacket : packetOf key input with
    | none =>
      obtain ⟨session, hbefore, hr, hsame⟩ := keepsAt_next hopen hpacket session' hlookup hr'
      obtain ⟨packets, hnote, hreceived⟩ := hinv key session hbefore hr
      refine ⟨packets, ?_, hreceived.of_sameMessage hsame⟩
      rw [hnote, hsame.size]
      simp
    | some packet =>
      obtain ⟨message, hnumber, hpayload, hlength, hstep⟩ := step_of_packet hpacket
      rw [Machine.next, hstep, KeyedTable.lookup_dispatch, if_pos rfl] at hlookup
      obtain ⟨session, hbefore, hsome⟩ := Option.bind_eq_some_iff.mp hlookup
      obtain ⟨hr, -, hstored⟩ := stored_of_receiveDataTransfer hsome
      rw [← hnumber, ← hpayload] at hstored
      obtain ⟨packets, hnote, hreceived⟩ := hinv key session hbefore hr
      refine ⟨packets ++ [packet], ?_, hreceived.of_stored hstored hlength⟩
      rw [hnote, hstored.size]
      rfl

theorem receiveInvariant_run (config : CANNetworkConfiguration) (past : List Input) :
    ReceiveInvariant config past
      ((transportProtocolManager config).run KeyedTable.empty past) :=
  Machine.run_history _ (fun _ _ h => by simp at h) receiveInvariant_next past

theorem toNat_totalNumberOfPackets (h : length.toNat ≤ MAX_PROTOCOL_DATA_LENGTH) :
    (totalNumberOfPackets length).toNat = (length.toNat + 6) / 7 := by
  unfold totalNumberOfPackets
  simp only [MAX_PROTOCOL_DATA_LENGTH] at h
  split_ifs with hrest
  · rw [gt_iff_lt, UInt16.lt_iff_toNat_lt] at hrest
    simp at hrest ⊢
    omega
  · rw [gt_iff_lt, UInt16.lt_iff_toNat_lt] at hrest
    simp at hrest ⊢
    omega

theorem getNumberOfRemainingPackets_eq_zero_iff {session : TransportProtocolSession} :
    session.getNumberOfRemainingPackets = 0 ↔
      session.getTotalNumberOfPackets = session.lastSequenceNumber := by
  unfold getNumberOfRemainingPackets getLastPacketNumber
  grind

/-- A completed session holds an intact message exactly when its length can be counted in eight
bits. -/
theorem Received.intact_iff {session : TransportProtocolSession} (h : Received packets session)
    (hcomplete : session.getNumberOfRemainingPackets = 0) :
    Intact PROTOCOL_BYTES_PER_FRAME session.totalMessageSize.toNat packets session.data ↔
      session.totalMessageSize.toNat ≤ MAX_PROTOCOL_DATA_LENGTH := by
  constructor
  · intro hintact
    have hcount := hintact.length_packets
    have hlast := session.lastSequenceNumber.toNat_lt
    rw [h.count] at hlast
    simp only [PROTOCOL_BYTES_PER_FRAME] at hcount
    simp only [MAX_PROTOCOL_DATA_LENGTH]
    omega
  · intro hlength
    have htotal := getNumberOfRemainingPackets_eq_zero_iff.mp hcomplete
    have hcount : packets.length = (session.data.length + (7 - 1)) / 7 := by
      rw [← h.count, ← htotal, session.data_length]
      exact toNat_totalNumberOfPackets hlength
    rw [← session.data_length]
    exact h.assembled.intact (by decide) hcount

def DeliversNoted (config : CANNetworkConfiguration) (history : List Input)
    (message : CANMessage) (length : UInt16) (packets : List (Nat × List UInt8)) : Prop :=
  ∃ source, message.source = some source ∧
    transcript config ⟨source, message.destination⟩ KeyedTable.empty none history =
      some (length, packets)

/-- Every delivered message was announced, and it is made of the packets since then exactly when the
length is one the protocol allows. -/
theorem messageReceived_intact_iff (config : CANNetworkConfiguration)
    (past : List Input) (input : Input) (message : CANMessage)
    (h : .messageReceived message ∈ (transportProtocolManager config).emits
      ((transportProtocolManager config).run KeyedTable.empty past) input) :
    ∃ length packets, DeliversNoted config (past ++ [input]) message length packets ∧
      (Intact PROTOCOL_BYTES_PER_FRAME length.toNat packets message.data ↔
        length.toNat ≤ MAX_PROTOCOL_DATA_LENGTH) := by
  obtain ⟨key, packet, hpacket⟩ := exists_packet_of_not_quiet h (by simp [Event.isQuiet])
  obtain ⟨frame, hnumber, hpayload, hlength, hstep⟩ := step_of_packet hpacket
  rw [Machine.emits, hstep] at h
  obtain ⟨session, hlookup, he⟩ := KeyedTable.mem_dispatch.mp h
  rcases delivered_of_receiveDataTransfer he with hquiet | ⟨stored, hr, -, hstored, hcomplete, heq⟩
  · simp [Event.isQuiet] at hquiet
  obtain rfl := Event.messageReceived.inj heq
  rw [← hnumber, ← hpayload] at hstored
  obtain ⟨packets, hnote, hreceived⟩ := receiveInvariant_run config past key session
    hlookup hr
  have hafter := hreceived.of_stored hstored hlength
  refine ⟨stored.totalMessageSize, packets ++ [packet], ⟨key.source, rfl, ?_⟩,
    hafter.intact_iff hcomplete⟩
  change transcript config key KeyedTable.empty none (past ++ [input]) = _
  rw [transcript_concat, observe, openingOf_of_packet hpacket, hnote, hpacket, hstored.size]
  rfl

/-- The other node asks to send `length` bytes in `count` packets. -/
def requestHeard (length : UInt16) (count : UInt8) : Input :=
  heard 0 (connectionManagementFrame REQUEST_TO_SEND_MULTIPLEXOR (byteOf length.toUInt32 0)
    (byteOf length.toUInt32 1) count 0xFF 0xFE00 (some 0) (some 1))

def packetHeard (number : UInt8) : Input :=
  heard 0 ⟨transportProtocolDataTransfer, List.replicate 8 number, some 0, some 1,
    PriorityLowest7⟩

def messageHeard (data : List UInt8) : CANMessage where
  identifier := .ofFields .extended 0xFE00 PriorityDefault6 0x10 0x28
  data := data
  source := some 0
  destination := some 1
  canPortIndex := 0
  timestampUs := 0

theorem messageReceived_intact_iff_nine_bytes :
    ∃ length packets, DeliversNoted {} ([requestHeard 9 2, packetHeard 1] ++ [packetHeard 2])
        (messageHeard [1, 1, 1, 1, 1, 1, 1, 2, 2]) length packets ∧
      (Intact PROTOCOL_BYTES_PER_FRAME length.toNat packets [1, 1, 1, 1, 1, 1, 1, 2, 2] ↔
        length.toNat ≤ MAX_PROTOCOL_DATA_LENGTH) :=
  messageReceived_intact_iff {} [requestHeard 9 2, packetHeard 1] (packetHeard 2)
    (messageHeard [1, 1, 1, 1, 1, 1, 1, 2, 2]) (by decide +kernel)

/-- A request of 1799 bytes needs 257 packets, which is 1 in eight bits: one packet completes the
message. -/
theorem not_messageReceived_intact :
    ¬∀ (config : CANNetworkConfiguration) (past : List Input) (input : Input)
      (message : CANMessage),
      .messageReceived message ∈ (transportProtocolManager config).emits
        ((transportProtocolManager config).run KeyedTable.empty past) input →
      ∃ length packets, DeliversNoted config (past ++ [input]) message length packets ∧
        Intact PROTOCOL_BYTES_PER_FRAME length.toNat packets message.data := by
  intro hclaim
  obtain ⟨length, packets, ⟨source, hsource, hnote⟩, hintact⟩ :=
    hclaim {} [requestHeard 1799 1] (packetHeard 1)
      (messageHeard (List.replicate 7 1 ++ List.replicate 1792 0)) (by decide +kernel)
  obtain rfl : 0 = source := Option.some.inj hsource
  have hseen : transcript {} ⟨0, some 1⟩ KeyedTable.empty none
      ([requestHeard 1799 1] ++ [packetHeard 1]) = some (1799, [(1, List.replicate 7 1)]) := by
    decide +kernel
  obtain ⟨rfl, rfl⟩ := Prod.mk.inj (Option.some.inj (hseen.symm.trans hnote))
  exact absurd hintact.length_packets (by decide)

end Isobus.TransportProtocol
