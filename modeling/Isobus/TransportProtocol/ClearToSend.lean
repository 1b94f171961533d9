import Isobus.TransportProtocol.Sending
import Isobus.TransportProtocol.ReceiveIntegrity

/-!
# What a clear to send lets out

After a clear to send for `n` packets from packet `k` the session sends data frames until the next
one.
-/

namespace Isobus.TransportProtocol

open Isobus.Can Isobus.Lib

def sentNumber (key : SessionKey) : Event → Option Nat
  | .frame frame true =>
    if frame.parameterGroupNumber = transportProtocolDataTransfer ∧
        frame.source = some key.source ∧ frame.destination = key.destination then
      some (frame.data.headD 0).toNat
    else none
  | _ => none

def IsControl (e : Event) : Prop :=
  ∀ frame sent, e = .frame frame sent →
    frame.parameterGroupNumber ≠ transportProtocolDataTransfer

theorem sentNumber_of_isControl {key : SessionKey} {e : Event} (h : IsControl e) :
    sentNumber key e = none := by
  unfold sentNumber
  split
  · rename_i frame
    rw [if_neg]
    rintro ⟨hgroup, -⟩
    exact h frame true rfl hgroup
  · rfl

theorem filterMap_sentNumber_of_isControl {key : SessionKey} {l : List Event}
    (h : ∀ e ∈ l, IsControl e) : l.filterMap (sentNumber key) = [] := by
  rw [List.filterMap_eq_nil_iff]
  exact fun e he => sentNumber_of_isControl (h e he)

namespace TransportProtocolSession

def Sending (session : TransportProtocolSession) : Prop :=
  session.state = .sendDataTransferPackets ∨ session.state = .sendBroadcastAnnounce

/-- A handler that neither makes the session send nor touches it while it does, and
sends no data itself. -/
def Idles (session : TransportProtocolSession) (outcome : Outcome) : Prop :=
  (∀ session', outcome.1 = some session' → session'.Sending → session' = session) ∧
    ∀ e ∈ outcome.2, IsControl e

variable {config : CANNetworkConfiguration} {env : Environment} {key : SessionKey}
variable {session : TransportProtocolSession}

variable {events : List Event}

theorem idles_of_none (h : ∀ e ∈ events, IsControl e) :
    session.Idles (none, events) :=
  ⟨fun _ h => by simp at h, h⟩

theorem idles_self (h : ∀ e ∈ events, IsControl e) :
    session.Idles (some session, events) :=
  ⟨fun _ h _ => (Option.some.inj h).symm, h⟩

theorem idles_of_not_sending {session' : TransportProtocolSession} (hs : ¬session'.Sending)
    (h : ∀ e ∈ events, IsControl e) :
    session.Idles (some session', events) := by
  refine ⟨fun session'' h' hs' => ?_, h⟩
  obtain rfl := Option.some.inj h'
  exact absurd hs' hs

theorem isControl_nil : ∀ e ∈ ([] : List Event), IsControl e := by simp

theorem isControl_append {l l' : List Event} (h : ∀ e ∈ l, IsControl e)
    (h' : ∀ e ∈ l', IsControl e) : ∀ e ∈ l ++ l', IsControl e := by
  intro e he
  rcases List.mem_append.mp he with he | he
  · exact h e he
  · exact h' e he

theorem isControl_managementFrame (b₀ b₁ b₂ b₃ b₄ : UInt8) (group : UInt32)
    (source destination : Option CFRef) (sent : Bool) :
    ∀ e ∈ [Event.frame (connectionManagementFrame b₀ b₁ b₂ b₃ b₄ group source destination) sent],
      IsControl e := by
  intro e he frame sent' heq
  rw [List.mem_singleton.mp he] at heq
  obtain ⟨rfl, -⟩ := Event.frame.inj heq
  simp [connectionManagementFrame, transportProtocolConnectionManagement,
    transportProtocolDataTransfer]

theorem isControl_complete (base : TransportProtocolSessionBase) (messageLength : UInt32)
    (success : Bool) : ∀ e ∈ base.complete key messageLength success, IsControl e := by
  intro e he frame sent heq
  unfold TransportProtocolSessionBase.complete at he
  split at he
  · rw [List.mem_singleton.mp he] at heq
    simp at heq
  · simp at he

theorem idles_closeSession (session old : TransportProtocolSession) (successful : Bool) :
    session.Idles (old.closeSession key successful) :=
  idles_of_none (isControl_complete _ _ _)

theorem isControl_abortSession (session : TransportProtocolSession)
    (reason : ConnectionAbortReason) :
    ∀ e ∈ (session.abortSession env key reason).2, IsControl e := by
  refine isControl_append ?_ (isControl_complete _ _ _)
  split
  · exact isControl_managementFrame _ _ _ _ _ _ _ _ _
  · exact isControl_nil

theorem idles_abortSession (session old : TransportProtocolSession)
    (reason : ConnectionAbortReason) : session.Idles (old.abortSession env key reason) :=
  idles_of_none (old.isControl_abortSession reason)

theorem isControl_sendClearToSend (session : TransportProtocolSession) :
    ∀ e ∈ (session.sendClearToSend env key).2.2, IsControl e := by
  unfold sendClearToSend
  dsimp only
  split
  · exact isControl_managementFrame _ _ _ _ _ _ _ _ _
  · exact isControl_managementFrame _ _ _ _ _ _ _ _ _

theorem idles_updateStateMachine (config : CANNetworkConfiguration) (env : Environment)
    (key : SessionKey) (h : ¬session.Sending) :
    session.Idles (session.updateStateMachine config env key) := by
  unfold updateStateMachine
  split
  case h_1 => exact idles_self isControl_nil
  case h_2 hstate => exact absurd (.inr hstate) h
  case h_3 =>
    dsimp only
    split
    · exact idles_of_not_sending (by simp [Sending, setState])
        (isControl_managementFrame _ _ _ _ _ _ _ _ _)
    · exact idles_self (isControl_managementFrame _ _ _ _ _ _ _ _ _)
  case h_4 =>
    split_ifs
    · exact idles_abortSession _ _ _
    · exact idles_closeSession _ _ _
    · exact idles_self isControl_nil
  case h_5 hstate =>
    have hsame := (session.sendClearToSend_sameMessage env key).2.1
    dsimp only
    split
    · exact idles_of_not_sending (by simp [Sending, setState]) (isControl_sendClearToSend session)
    · exact idles_of_not_sending (by simp [Sending, hsame, hstate])
        (isControl_sendClearToSend session)
  case h_6 hstate => exact absurd (.inl hstate) h
  case h_7 =>
    split_ifs
    all_goals first
      | exact idles_closeSession _ _ _
      | exact idles_abortSession _ _ _
      | exact idles_self isControl_nil
  case h_8 =>
    split_ifs
    · exact idles_abortSession _ _ _
    · exact idles_self isControl_nil

theorem idles_receiveEndOfMessageAcknowledge (session : TransportProtocolSession) :
    session.Idles (session.receiveEndOfMessageAcknowledge key) := by
  unfold receiveEndOfMessageAcknowledge
  split_ifs
  · exact idles_closeSession _ _ _
  · exact idles_self isControl_nil

theorem idles_afterPacket {session' : TransportProtocolSession} (timestampUs : UInt64)
    (h : session'.state = .waitForDataTransferPacket) :
    session.Idles (session'.afterPacket env key timestampUs) := by
  have hsame := (session'.sendClearToSend_sameMessage env key).2.1
  unfold afterPacket
  dsimp only
  split_ifs
  · refine idles_of_none (isControl_append (isControl_append ?_ ?_) (isControl_complete _ _ _))
    · split
      · exact isControl_managementFrame _ _ _ _ _ _ _ _ _
      · exact isControl_nil
    · intro e he frame sent heq
      rw [List.mem_singleton.mp he] at heq
      simp at heq
  · exact idles_of_not_sending (by simp [Sending, hsame, h]) (isControl_sendClearToSend session')
  · exact idles_of_not_sending (by simp [Sending, h]) isControl_nil

theorem idles_receiveDataTransfer (message : CANMessage) (session : TransportProtocolSession) :
    session.Idles (session.receiveDataTransfer env key message) := by
  unfold receiveDataTransfer
  dsimp only
  split_ifs with hstate _ _ hindex
  · exact idles_abortSession _ _ _
  · exact idles_abortSession _ _ _
  · exact idles_abortSession _ _ _
  · rw [copyIn_eq_some (Nat.not_le.mp hindex)]
    exact idles_afterPacket _ (not_not.mp hstate)
  · exact idles_abortSession _ _ _

end TransportProtocolSession

open TransportProtocolSession

structure Grant where
  session : TransportProtocolSession
  packetsToBeSent : UInt8
  nextPacketNumber : UInt8
  deriving DecidableEq

/-- The clear to send for the session of this key, when it asks for one of its packets and is waited
for. -/
def grantOf (sessions : ActiveSessions) (key : SessionKey) (input : Input) : Option Grant :=
  match input.call, sessions.lookup key, key.destination with
  | .processMessage message, some session, some destination =>
    if Addressed input.env ⟨destination, some key.source⟩ message ∧
        message.identifier.getParameterGroupNumber = transportProtocolConnectionManagement ∧
        message.getUint8At 0 = CLEAR_TO_SEND_MULTIPLEXOR ∧
        session.parameterGroupNumber = message.getUint24At 5 ∧
        message.getUint8At 2 ≤ session.getTotalNumberOfPackets ∧
        session.state = .waitForClearToSend then
      some ⟨session, message.getUint8At 1, message.getUint8At 2⟩
    else none
  | _, _, _ => none

variable {config : CANNetworkConfiguration} {env : Environment}
variable {sessions : ActiveSessions} {key : SessionKey} {input : Input}

/-- Whatever is sending afterwards was sending in the same way before. -/
def IdlesAt (key : SessionKey) (sessions after : ActiveSessions) : Prop :=
  ∀ session', after.lookup key = some session' → session'.Sending →
    sessions.lookup key = some session'

theorem idlesAt_refl (key : SessionKey) (sessions : ActiveSessions) :
    IdlesAt key sessions sessions :=
  fun _ h _ => h

theorem IdlesAt.trans {a b c : ActiveSessions} (h : IdlesAt key a b) (h' : IdlesAt key b c) :
    IdlesAt key a c :=
  fun session' hc hs => h session' (h' session' hc hs) hs

theorem idlesAt_dispatch {k : SessionKey} {f : TransportProtocolSession → Outcome}
    (h : ∀ session, key = k → sessions.lookup key = some session → session.Idles (f session)) :
    IdlesAt key sessions (sessions.dispatch k f).1 := by
  intro session' h' hs
  rw [KeyedTable.lookup_dispatch] at h'
  split_ifs at h' with hkey
  · obtain ⟨session, hlookup, hsome⟩ := Option.bind_eq_some_iff.mp h'
    rw [← hkey] at hlookup
    rw [(h session hkey hlookup).1 session' hsome hs]
    exact hlookup
  · exact h'

theorem isControl_dispatch {k : SessionKey} {f : TransportProtocolSession → Outcome}
    (h : ∀ session, ∀ e ∈ (f session).2, IsControl e) :
    ∀ e ∈ (sessions.dispatch k f).2, IsControl e := by
  intro e he
  obtain ⟨session, -, he⟩ := KeyedTable.mem_dispatch.mp he
  exact h session e he

theorem idlesAt_openSession {k : SessionKey} {session : TransportProtocolSession}
    (hsending : key = k → ¬session.Sending) :
    IdlesAt key sessions (openSession config env k session sessions).1 := by
  intro session' h hs
  rw [lookup_openSession] at h
  split_ifs at h with hkey
  · rw [(idles_updateStateMachine _ _ _ (hsending hkey)).1 session' h hs] at hs
    exact absurd hs (hsending hkey)
  · exact h

theorem isControl_updateStateMachine {session : TransportProtocolSession}
    (hdata : session.state ≠ .sendDataTransferPackets) :
    ∀ e ∈ (session.updateStateMachine config env key).2, IsControl e := by
  by_cases hbroadcast : session.state = .sendBroadcastAnnounce
  · unfold updateStateMachine
    rw [hbroadcast]
    dsimp only
    split_ifs
    · exact isControl_managementFrame _ _ _ _ _ _ _ _ _
    · exact isControl_managementFrame _ _ _ _ _ _ _ _ _
  · exact (idles_updateStateMachine _ _ _ (not_or.mpr ⟨hdata, hbroadcast⟩)).2

theorem isControl_openSession {k : SessionKey} {session : TransportProtocolSession}
    (hdata : session.state ≠ .sendDataTransferPackets) :
    ∀ e ∈ (openSession config env k session sessions).2, IsControl e := by
  intro e he
  obtain ⟨session', hlookup, he⟩ := KeyedTable.mem_dispatch.mp he
  rw [KeyedTable.lookup_push_self] at hlookup
  cases hlookup
  exact isControl_updateStateMachine hdata e he

theorem isControl_receiveClearToSend (packetsToBeSent nextPacketNumber : UInt8)
    (session : TransportProtocolSession) :
    ∀ e ∈ (session.receiveClearToSend env key packetsToBeSent nextPacketNumber).2,
      IsControl e := by
  unfold receiveClearToSend
  split_ifs
  · exact isControl_abortSession _ _
  · exact isControl_abortSession _ _
  · exact isControl_nil
  · exact isControl_nil

theorem isControl_processConnectionManagementMessage (source : CFRef) (message : CANMessage) :
    ∀ e ∈ (processConnectionManagementMessage config env source message sessions).2,
      IsControl e := by
  have hclose : ∀ (k : SessionKey) (b : Bool), ∀ session : TransportProtocolSession,
      ∀ e ∈ (session.closeSession k b).2, IsControl e :=
    fun k b session => (idles_closeSession session session b).2
  unfold processConnectionManagementMessage
  split_ifs
  · exact isControl_nil
  dsimp only
  split
  · split_ifs
    · unfold processBroadcastAnnounceMessage
      dsimp only
      split_ifs
      · exact isControl_nil
      · exact isControl_nil
      · exact isControl_dispatch (hclose _ _)
      · exact isControl_append (isControl_dispatch (hclose _ _))
          (isControl_openSession (by simp [setState]))
    · exact isControl_nil
  · split_ifs
    · have hold : ∀ (k : SessionKey) (group : UInt32), ∀ old : TransportProtocolSession,
          ∀ e ∈ (if old.parameterGroupNumber ≠ group then
            old.abortSession env k .alreadyInCMSession else old.closeSession k false).2,
            IsControl e := by
        intro k group old
        split_ifs
        · exact isControl_abortSession _ _
        · exact hclose _ _ _
      unfold processRequestToSend
      dsimp only
      split_ifs
      · exact isControl_managementFrame _ _ _ _ _ _ _ _ _
      · exact isControl_append (isControl_dispatch (hold _ _)) (isControl_abortSession _ _)
      · exact isControl_append (isControl_dispatch (hold _ _))
          (isControl_openSession (by simp [setState]))
    · refine isControl_dispatch fun session => ?_
      split_ifs
      · exact isControl_append (isControl_abortSession _ _)
          (isControl_managementFrame _ _ _ _ _ _ _ _ _)
      · exact isControl_receiveClearToSend _ _ _
    · exact isControl_dispatch fun session => (idles_receiveEndOfMessageAcknowledge session).2
    · have hmatching : ∀ (k : SessionKey) (group : UInt32), ∀ session : TransportProtocolSession,
          ∀ e ∈ (if session.parameterGroupNumber = group then session.closeSession k false
            else (some session, [])).2, IsControl e := by
        intro k group session
        split_ifs
        · exact hclose _ _ _
        · exact isControl_nil
      exact isControl_append (isControl_dispatch (hmatching _ _))
        (isControl_dispatch (hmatching _ _))
    · exact isControl_nil

variable {source : CFRef} {grant : Grant}

theorem idlesAt_processBroadcastAnnounceMessage {group : UInt32} {length : UInt16}
    {count : UInt8} :
    IdlesAt key sessions (processBroadcastAnnounceMessage config env source group length
      count sessions).1 := by
  have hclosed : IdlesAt key sessions
      (sessions.dispatch ⟨source, none⟩ (·.closeSession ⟨source, none⟩ false)).1 :=
    idlesAt_dispatch fun session _ _ => idles_closeSession session session false
  unfold processBroadcastAnnounceMessage
  dsimp only
  split_ifs
  · exact idlesAt_refl key sessions
  · exact idlesAt_refl key sessions
  · exact hclosed
  · exact hclosed.trans (idlesAt_openSession fun _ => by simp [Sending, setState])

theorem idlesAt_processRequestToSend {destination : CFRef} {group : UInt32} {length : UInt16}
    {count limit : UInt8} :
    IdlesAt key sessions (processRequestToSend config env source destination group length
      count limit sessions).1 := by
  have hclosed : IdlesAt key sessions
      (sessions.dispatch ⟨source, some destination⟩ fun old =>
        if old.parameterGroupNumber ≠ group then
          old.abortSession env ⟨source, some destination⟩ .alreadyInCMSession
        else old.closeSession ⟨source, some destination⟩ false).1 := by
    refine idlesAt_dispatch fun session _ _ => ?_
    split_ifs
    · exact idles_abortSession _ _ _
    · exact idles_closeSession _ _ _
  unfold processRequestToSend
  dsimp only
  split_ifs
  · exact idlesAt_refl key sessions
  · exact hclosed
  · exact hclosed.trans (idlesAt_openSession fun _ => by simp [Sending, setState])

theorem idlesAt_processAbort (source destination : CFRef) (group : UInt32) :
    IdlesAt key sessions (processAbort source destination group sessions).1 := by
  have hmatching : ∀ (k : SessionKey), ∀ session : TransportProtocolSession,
      session.Idles (if session.parameterGroupNumber = group then session.closeSession k false
        else (some session, [])) := by
    intro k session
    split_ifs
    · exact idles_closeSession _ _ _
    · exact idles_self isControl_nil
  exact (idlesAt_dispatch fun session _ _ => hmatching _ session).trans
    (idlesAt_dispatch fun session _ _ => hmatching _ session)

theorem idlesAt_processConnectionManagementMessage {message : CANMessage}
    (hsource : message.source = some source)
    (hfilter : (message.hasValidSourceControlFunction env.world &&
      (message.isDestinationOurDevice env.world || message.isBroadcast env.world)) = true)
    (hgroup : message.identifier.getParameterGroupNumber = transportProtocolConnectionManagement)
    (hgrant : grantOf sessions key ⟨env, .processMessage message⟩ = none) :
    IdlesAt key sessions
      (processConnectionManagementMessage config env source message sessions).1 := by
  unfold processConnectionManagementMessage
  split_ifs with hlength
  · exact idlesAt_refl key sessions
  have haddressed := addressed_of_filter hsource hfilter (not_not.mp hlength).symm
  dsimp only
  split
  · split_ifs
    · exact idlesAt_processBroadcastAnnounceMessage
    · exact idlesAt_refl key sessions
  · rename_i destination hspecific
    rw [hspecific] at haddressed
    split_ifs with _ hmux
    · exact idlesAt_processRequestToSend
    · refine idlesAt_dispatch fun session hkey hlookup => ?_
      subst hkey
      split_ifs with hpgn
      · exact idles_of_none (isControl_append (isControl_abortSession _ _)
          (isControl_managementFrame _ _ _ _ _ _ _ _ _))
      · unfold receiveClearToSend
        split_ifs with hnumber hstate
        · exact idles_abortSession _ _ _
        · exact idles_abortSession _ _ _
        all_goals
          unfold grantOf at hgrant
          rw [hlookup] at hgrant
          dsimp only at hgrant
          rw [if_pos ⟨haddressed, hgroup, hmux, not_not.mp hpgn, UInt8.not_lt.mp hnumber,
            not_not.mp hstate⟩] at hgrant
          simp at hgrant
    · exact idlesAt_dispatch fun session _ _ => idles_receiveEndOfMessageAcknowledge session
    · exact idlesAt_processAbort _ _ _
    · exact idlesAt_refl key sessions

/-- A call other than `update` sends no data, and only an accepted clear to send makes a session
send. -/
theorem idlesAt_next (hdestination : key.destination ≠ none) (hcall : input.call ≠ .update)
    (hgrant : grantOf sessions key input = none) :
    IdlesAt key sessions ((transportProtocolManager config).next sessions input) := by
  obtain ⟨env, call⟩ := input
  cases call with
  | update => exact absurd rfl hcall
  | protocolTransmitMessage request =>
    change IdlesAt key sessions (protocolTransmitMessage config env request sessions).1
    unfold protocolTransmitMessage
    split
    · exact idlesAt_refl key sessions
    · rename_i k session hsession
      unfold requestedSession at hsession
      split at hsession
      · simp at hsession
      · split at hsession
        · simp at hsession
        · split_ifs at hsession with _ hnone
          all_goals
            cases hsession
            refine idlesAt_openSession fun hkey => ?_
            subst hkey
            simp_all [Sending, setState]
  | processMessage message =>
    change IdlesAt key sessions (processMessage config env message sessions).1
    unfold processMessage
    split
    · exact idlesAt_refl key sessions
    · rename_i source hsource
      split_ifs with hfilter hcm hdt
      · exact idlesAt_processConnectionManagementMessage hsource hfilter hcm hgrant
      · unfold processDataTransferMessage
        split_ifs
        · exact idlesAt_refl key sessions
        · exact idlesAt_dispatch fun session _ _ => idles_receiveDataTransfer message session
      · exact idlesAt_refl key sessions
      · exact idlesAt_refl key sessions

theorem isControl_emits (hcall : input.call ≠ .update) :
    ∀ e ∈ (transportProtocolManager config).emits sessions input, IsControl e := by
  obtain ⟨env, call⟩ := input
  cases call with
  | update => exact absurd rfl hcall
  | protocolTransmitMessage request =>
    have hanswer : ∀ b, ∀ e ∈ [Event.transmitAnswered b], IsControl e := by
      intro b e he frame sent heq
      rw [List.mem_singleton.mp he] at heq
      simp at heq
    change ∀ e ∈ (protocolTransmitMessage config env request sessions).2, IsControl e
    unfold protocolTransmitMessage
    split
    · exact hanswer false
    · rename_i k session hsession
      refine isControl_append (isControl_openSession ?_) (hanswer true)
      unfold requestedSession at hsession
      split at hsession
      · simp at hsession
      · split at hsession
        · simp at hsession
        · split_ifs at hsession
          all_goals
            cases hsession
            simp [setState]
  | processMessage message =>
    change ∀ e ∈ (processMessage config env message sessions).2, IsControl e
    unfold processMessage
    split
    · exact isControl_nil
    · split_ifs
      · exact isControl_processConnectionManagementMessage _ message
      · unfold processDataTransferMessage
        split_ifs
        · exact isControl_nil
        · exact isControl_dispatch fun session => (idles_receiveDataTransfer message session).2
      · exact isControl_nil
      · exact isControl_nil

theorem lookup_next_of_grant (h : grantOf sessions key input = some grant)
    (hn : grant.packetsToBeSent ≠ 0) :
    ((transportProtocolManager config).next sessions input).lookup key =
      some ((((grant.session.setAcknowledgedPacketNumber input.env.now
        (grant.nextPacketNumber - 1)).setCtsNumberOfPackets input.env.now
          grant.packetsToBeSent).setState input.env.now .sendDataTransferPackets)) := by
  obtain ⟨env, call⟩ := input
  obtain ⟨source, destination⟩ := key
  unfold grantOf at h
  split at h
  · rename_i message session destination' hcall hlookup hdestination
    split_ifs at h with hcond
    obtain ⟨haddressed, hgroup, hmux, hpgn, hnumber, hstate⟩ := hcond
    cases h
    dsimp only at hdestination hlookup hcall haddressed hn ⊢
    subst hdestination hcall
    change (processMessage config env message sessions).1.lookup _ = _
    rw [processMessage_of_addressed haddressed, if_pos hgroup,
      processConnectionManagementMessage, if_neg (by rw [haddressed.2.2.2.2]; simp),
      haddressed.2.2.2.1]
    dsimp only
    rw [if_neg (by rw [hmux]; decide), if_pos hmux, processClearToSend]
    dsimp only
    rw [KeyedTable.lookup_dispatch, if_pos rfl, hlookup, Option.bind_some,
      if_neg (not_not.mpr hpgn), receiveClearToSend, if_neg (UInt8.not_lt.mpr hnumber),
      if_neg (not_not.mpr hstate)]
    dsimp only
    rw [if_pos hn]
  · simp at h

/-- The batch does not reach past the end of the message, or the driver refuses a frame before that.
-/
def BatchFits (config : CANNetworkConfiguration) (env : Environment) (key : SessionKey)
    (session : TransportProtocolSession) : Prop :=
  (session.framesToSend config key).toNat ≤ session.getNumberOfRemainingPackets.toNat ∨
    ∃ i < session.getNumberOfRemainingPackets.toNat, env.send (session.frameAhead key i) = false

instance (config : CANNetworkConfiguration) (env : Environment) (key : SessionKey)
    (session : TransportProtocolSession) : Decidable (BatchFits config env key session) :=
  inferInstanceAs (Decidable (_ ∨ _))

def BatchesFit (config : CANNetworkConfiguration) (key : SessionKey)
    (sessions : ActiveSessions) (input : Input) : Prop :=
  input.call = .update → ∀ session ∈ sessions.lookup key,
    session.state = .sendDataTransferPackets → BatchFits config input.env key session

instance (config : CANNetworkConfiguration) (key : SessionKey) (sessions : ActiveSessions)
    (input : Input) : Decidable (BatchesFit config key sessions input) :=
  inferInstanceAs (Decidable (_ → _))

/-- `sent` of the `n` packets from packet `k` on are out, and the message has
`total` packets. -/
structure Window (n k total sent : Nat) (session : TransportProtocolSession) : Prop where
  acknowledged : session.lastAcknowledgedPacketNumber.toNat + 1 = k
  granted : session.clearToSendPacketCount.toNat = n
  last : session.lastSequenceNumber.toNat + 1 = k + sent
  total_eq : session.getTotalNumberOfPackets.toNat = total

/-- The sessions as far as the window is concerned. -/
structure WindowAt (key : SessionKey) (n k total sent : Nat)
    (sessions : ActiveSessions) : Prop where
  sent_le : sent ≤ n
  inside : k + sent ≤ total + 1
  window : ∀ session, sessions.lookup key = some session → session.Sending →
    session.state = .sendDataTransferPackets ∧ Window n k total sent session

theorem toNat_sub_of_le {a b : UInt8} (h : b.toNat ≤ a.toNat) : (a - b).toNat = a.toNat - b.toNat :=
  UInt8.toNat_sub_of_le a b (UInt8.le_iff_toNat_le.mpr h)

variable {k n total sent : Nat}

theorem Window.remaining {session : TransportProtocolSession} (h : Window n k total sent session)
    (hinside : k + sent ≤ total + 1) :
    session.getNumberOfRemainingPackets.toNat = total + 1 - (k + sent) := by
  have hlast := h.last
  have htotal := h.total_eq
  unfold getNumberOfRemainingPackets getLastPacketNumber
  rw [toNat_sub_of_le (by omega)]
  omega

theorem Window.grantRemaining {session : TransportProtocolSession}
    (h : Window n k total sent session) (hsent : sent ≤ n) :
    session.getCtsNumberOfPacketsRemaining.toNat = n - sent := by
  have hlast := h.last
  have hack := h.acknowledged
  have hgranted := h.granted
  have hsince : (session.getLastPacketNumber - session.lastAcknowledgedPacketNumber).toNat =
      sent := by
    unfold getLastPacketNumber
    rw [toNat_sub_of_le (by omega)]
    omega
  unfold getCtsNumberOfPacketsRemaining
  rw [toNat_sub_of_le (by omega), hsince, hgranted]

theorem numbers_of_batch {session : TransportProtocolSession} (h : Batch env key n session sent)
    (hlast : session.lastSequenceNumber.toNat + sent < 256) :
    (sendFrames env key n session).2.filterMap (sentNumber key) =
      List.range' (session.lastSequenceNumber.toNat + 1) sent := by
  have hframes : ((List.range sent).map fun i =>
      Event.frame (session.frameAhead key i) true).filterMap (sentNumber key) =
        List.range' (session.lastSequenceNumber.toNat + 1) sent := by
    rw [List.filterMap_map, List.range'_eq_map_range]
    have hsome : ∀ i ∈ List.range sent, (sentNumber key ∘ fun i =>
        Event.frame (session.frameAhead key i) true) i =
          some (session.lastSequenceNumber.toNat + 1 + i) := by
      intro i hi
      have hi' := List.mem_range.mp hi
      change (if _ then _ else _) = _
      rw [if_pos ⟨rfl, rfl, rfl⟩, head_frameAhead (by omega)]
      congr 1
      omega
    rw [List.filterMap_congr hsome]
    exact congrFun List.filterMap_eq_map _
  rw [h.events_eq, List.filterMap_append, hframes]
  split_ifs
  · simp [sentNumber]
  · simp

theorem framesToSend_le {session : TransportProtocolSession} (h : key.destination ≠ none) :
    (session.framesToSend config key).toNat ≤
      session.getCtsNumberOfPacketsRemaining.toNat := by
  unfold framesToSend
  rw [if_neg h]
  split_ifs with hcap
  · exact Nat.le_of_lt (UInt8.lt_iff_toNat_lt.mp hcap)
  · exact Nat.le_refl _

theorem BatchFits.sent_le {session : TransportProtocolSession}
    (h : BatchFits config env key session)
    (hbatch : Batch env key (session.framesToSend config key).toNat session sent) :
    sent ≤ session.getNumberOfRemainingPackets.toNat := by
  rcases h with h | ⟨i, hi, hrefused⟩
  · exact hbatch.le.trans h
  · by_contra hmore
    rw [hbatch.accepted i (by omega)] at hrefused
    cases hrefused

theorem window_sendDataTransferPackets {session : TransportProtocolSession}
    (hdestination : key.destination ≠ none) (hstate : session.state = .sendDataTransferPackets)
    (h : Window n k total sent session) (hsent : sent ≤ n) (hinside : k + sent ≤ total + 1)
    (hfits : BatchFits config env key session) :
    ∃ more, sent + more ≤ n ∧ k + (sent + more) ≤ total + 1 ∧
      (session.sendDataTransferPackets config env key).2.filterMap (sentNumber key) =
        List.range' (k + sent) more ∧
      ∀ session', (session.sendDataTransferPackets config env key).1 = some session' →
        session'.Sending →
          session'.state = .sendDataTransferPackets ∧ Window n k total (sent + more) session' := by
  obtain ⟨more, hbatch⟩ :=
    exists_batch env key (session.framesToSend config key).toNat session
  have hgrant := hbatch.le.trans (framesToSend_le hdestination)
  rw [h.grantRemaining hsent] at hgrant
  have hmessage := hfits.sent_le hbatch
  rw [h.remaining hinside] at hmessage
  have hlast := h.last
  have htotal : total < 256 := h.total_eq ▸ session.getTotalNumberOfPackets.toNat_lt
  have hevents : (session.sendDataTransferPackets config env key).2 =
      (sendFrames env key (session.framesToSend config key).toNat session).2 := by
    unfold sendDataTransferPackets
    dsimp only
    split_ifs <;> rfl
  refine ⟨more, by omega, by omega, ?_, ?_⟩
  · rw [hevents, numbers_of_batch hbatch (by omega), hlast]
  · intro session' hsome hsending
    have hsession : session' =
        (sendFrames env key (session.framesToSend config key).toNat session).1 := by
      unfold sendDataTransferPackets at hsome
      dsimp only at hsome
      split_ifs at hsome
      · cases hsome
        simp [Sending, setState] at hsending
      · cases hsome
        simp [Sending, setState] at hsending
      · exact (Option.some.inj hsome).symm
    rw [hsession, hbatch.session_eq]
    refine ⟨hstate, h.acknowledged, h.granted, ?_, h.total_eq⟩
    change (session.ahead more).lastSequenceNumber.toNat + 1 = _
    rw [toNat_ahead (by omega)]
    omega

theorem filterMap_update_of_ne {k : SessionKey} (h : k ≠ key)
    (session : TransportProtocolSession) :
    (session.update config env k).2.filterMap (sentNumber key) = [] := by
  have hframe : ∀ i sent, sentNumber key (.frame (session.frameAhead k i) sent) = none := by
    intro i sent
    unfold sentNumber
    split
    · rename_i frame heq
      obtain ⟨rfl, -⟩ := Event.frame.inj heq
      rw [if_neg]
      rintro ⟨-, hsource, hdestination⟩
      obtain ⟨source, destination⟩ := k
      obtain ⟨source', destination'⟩ := key
      obtain rfl : source = source' := Option.some.inj hsource
      obtain rfl : destination = destination' := hdestination
      exact h rfl
    · rfl
  have hsent : ∀ n, (sendFrames env k n session).2.filterMap (sentNumber key) = [] := by
    intro n
    obtain ⟨sent, hbatch⟩ := exists_batch env k n session
    rw [hbatch.events_eq, List.filterMap_eq_nil_iff]
    intro e he
    rcases List.mem_append.mp he with he | he
    · obtain ⟨i, -, rfl⟩ := List.mem_map.mp he
      exact hframe i true
    · split_ifs at he
      · rw [List.mem_singleton.mp he]
        exact hframe sent false
      · simp at he
  unfold TransportProtocolSession.update
  split_ifs
  · exact filterMap_sentNumber_of_isControl (isControl_complete _ _ _)
  · exact filterMap_sentNumber_of_isControl (isControl_complete _ _ _)
  · by_cases hstate : session.state = .sendDataTransferPackets
    · unfold updateStateMachine
      rw [hstate]
      dsimp only
      split_ifs
      · rfl
      · unfold sendDataTransferPackets
        dsimp only
        split_ifs
        · rw [List.filterMap_append, hsent, closeSession,
            filterMap_sentNumber_of_isControl (isControl_complete _ _ _)]
          rfl
        all_goals exact hsent _
    · exact filterMap_sentNumber_of_isControl (isControl_updateStateMachine hstate)
  · rfl

theorem window_update {session : TransportProtocolSession}
    (hdestination : key.destination ≠ none) (hsent : sent ≤ n) (hinside : k + sent ≤ total + 1)
    (h : session.Sending →
      session.state = .sendDataTransferPackets ∧ Window n k total sent session)
    (hfits : session.state = .sendDataTransferPackets → BatchFits config env key session) :
    ∃ more, sent + more ≤ n ∧ k + (sent + more) ≤ total + 1 ∧
      (session.update config env key).2.filterMap (sentNumber key) =
        List.range' (k + sent) more ∧
      ∀ session', (session.update config env key).1 = some session' → session'.Sending →
        session'.state = .sendDataTransferPackets ∧ Window n k total (sent + more) session' := by
  have hclosed : (session.closeSession key false).2.filterMap (sentNumber key) = [] :=
    filterMap_sentNumber_of_isControl (isControl_complete _ _ _)
  by_cases hsending : session.Sending
  case neg =>
    have hidles := idles_updateStateMachine config env key hsending
    refine ⟨0, hsent, hinside, ?_, ?_⟩
    · unfold TransportProtocolSession.update
      split_ifs
      · exact hclosed
      · exact hclosed
      · exact filterMap_sentNumber_of_isControl hidles.2
      · rfl
    · intro session' hsome hs
      have hself : session' = session := by
        unfold TransportProtocolSession.update at hsome
        split_ifs at hsome
        · simp [closeSession] at hsome
        · simp [closeSession] at hsome
        · exact hidles.1 session' hsome hs
        · exact (Option.some.inj hsome).symm
      exact absurd (hself ▸ hs) hsending
  case pos =>
    obtain ⟨hstate, hwindow⟩ := h hsending
    obtain ⟨more, hn, htotal, hnumbers, hafter⟩ :=
      window_sendDataTransferPackets hdestination hstate hwindow hsent hinside (hfits hstate)
    have hupdate : session.updateStateMachine config env key =
        session.sendDataTransferPackets config env key := by
      unfold updateStateMachine
      rw [hstate]
      dsimp only
      rw [if_neg fun hgap => hdestination hgap.1]
    unfold TransportProtocolSession.update
    split_ifs
    · exact ⟨0, hsent, hinside, hclosed, by simp [closeSession]⟩
    · exact ⟨0, hsent, hinside, hclosed, by simp [closeSession]⟩
    · rw [hupdate]
      exact ⟨more, hn, htotal, hnumbers, hafter⟩
    · exact ⟨0, hsent, hinside, rfl, by
        intro session' hsome _
        cases hsome
        exact ⟨hstate, hwindow⟩⟩

theorem windowAt_next (hdestination : key.destination ≠ none)
    (h : WindowAt key n k total sent sessions) (hgrant : grantOf sessions key input = none)
    (hfits : BatchesFit config key sessions input) :
    ∃ more, ((transportProtocolManager config).emits sessions input).filterMap
        (sentNumber key) = List.range' (k + sent) more ∧
      WindowAt key n k total (sent + more)
        ((transportProtocolManager config).next sessions input) := by
  by_cases hcall : input.call = .update
  case neg =>
    have hidles : IdlesAt key sessions
        ((transportProtocolManager config).next sessions input) :=
      idlesAt_next hdestination hcall hgrant
    refine ⟨0, filterMap_sentNumber_of_isControl (isControl_emits hcall), h.sent_le, h.inside, ?_⟩
    exact fun session' hlookup hs => h.window session' (hidles session' hlookup hs) hs
  case pos =>
    have hfits' := hfits hcall
    have hnext : (transportProtocolManager config).step sessions input =
        sessions.sweep fun key session => session.update config input.env key :=
      step_of_update config hcall
    have hemits := KeyedTable.filterMap_sweep sessions
      (fun key session => session.update config input.env key) (sentNumber key) key
      fun k session _ hk => filterMap_update_of_ne hk session
    rw [Machine.emits, Machine.next, hnext, hemits]
    cases hlookup : sessions.lookup key with
    | none =>
      refine ⟨0, rfl, h.sent_le, h.inside, ?_⟩
      intro session' hlookup'
      rw [KeyedTable.lookup_sweep, hlookup] at hlookup'
      simp at hlookup'
    | some session =>
      obtain ⟨more, hn, htotal, hnumbers, hafter⟩ := window_update hdestination h.sent_le
        h.inside (h.window session hlookup) (hfits' session hlookup)
      refine ⟨more, hnumbers, hn, htotal, ?_⟩
      intro session' hlookup' hs
      rw [KeyedTable.lookup_sweep, hlookup] at hlookup'
      exact hafter session' hlookup' hs

theorem windowAt_run (hdestination : key.destination ≠ none)
    (h : WindowAt key n k total sent sessions) (inputs : List Input)
    (hgrant : (transportProtocolManager config).Along
      (fun sessions input => grantOf sessions key input = none) sessions inputs)
    (hfits : (transportProtocolManager config).Along (BatchesFit config key) sessions inputs) :
    ∃ more, ((transportProtocolManager config).outputs sessions inputs).filterMap
        (sentNumber key) = List.range' (k + sent) more ∧ sent + more ≤ n ∧
      k + (sent + more) ≤ total + 1 := by
  induction inputs generalizing sessions sent with
  | nil => exact ⟨0, rfl, h.sent_le, h.inside⟩
  | cons input inputs ih =>
    obtain ⟨more, hnumbers, hnext⟩ := windowAt_next hdestination h hgrant.1 hfits.1
    obtain ⟨rest, hrest, hn, htotal⟩ := ih hnext hgrant.2 hfits.2
    refine ⟨more + rest, ?_, by omega, by omega⟩
    rw [Machine.outputs_cons, List.filterMap_append, hnumbers, hrest, ← Nat.add_assoc,
      List.range'_append_1]

theorem grantOf_eq_some (h : grantOf sessions key input = some grant) :
    key.destination ≠ none ∧ sessions.lookup key = some grant.session ∧
      grant.nextPacketNumber ≤ grant.session.getTotalNumberOfPackets := by
  unfold grantOf at h
  split at h
  · rename_i message session destination hcall hlookup hdestination
    split_ifs at h with hcond
    cases h
    exact ⟨by rw [hdestination]; simp, hlookup, hcond.2.2.2.2.1⟩
  · simp at h

theorem windowAt_of_grant (h : grantOf sessions key input = some grant)
    (hn : grant.packetsToBeSent ≠ 0)
    (hfollows : grant.nextPacketNumber.toNat = grant.session.lastSequenceNumber.toNat + 1) :
    WindowAt key grant.packetsToBeSent.toNat grant.nextPacketNumber.toNat
      grant.session.getTotalNumberOfPackets.toNat 0
      ((transportProtocolManager config).next sessions input) := by
  obtain ⟨-, -, hnumber⟩ := grantOf_eq_some h
  have hle := UInt8.le_iff_toNat_le.mp hnumber
  refine ⟨Nat.zero_le _, by omega, ?_⟩
  intro session hlookup _
  rw [lookup_next_of_grant h hn] at hlookup
  cases hlookup
  refine ⟨rfl, ?_, rfl, hfollows.symm, rfl⟩
  change (grant.nextPacketNumber - 1).toNat + 1 = _
  rw [toNat_sub_of_le (by change 1 ≤ _; omega)]
  change grant.nextPacketNumber.toNat - 1 + 1 = _
  omega

/-- Between two accepted clear to sends, of which the first is for `n` packets from packet `k`, the
frames that get out are numbered from `k` on, at most `n`, none behind the last packet: provided
that `k` is the packet after the last one sent, and that no batch reaches past the end. -/
theorem sent_after_clearToSend (config : CANNetworkConfiguration) (key : SessionKey)
    (past : List Input) (input : Input) (grant : Grant) (after : List Input)
    (haccepted : grantOf ((transportProtocolManager config).run KeyedTable.empty past) key
      input = some grant)
    (hn : grant.packetsToBeSent ≠ 0)
    (hfollows : grant.nextPacketNumber.toNat = grant.session.lastSequenceNumber.toNat + 1)
    (huntil : (transportProtocolManager config).Along
      (fun sessions input => grantOf sessions key input = none)
      ((transportProtocolManager config).run KeyedTable.empty (past ++ [input])) after)
    (hfits : (transportProtocolManager config).Along (BatchesFit config key)
      ((transportProtocolManager config).run KeyedTable.empty (past ++ [input])) after) :
    ∃ count, ((transportProtocolManager config).outputs
        ((transportProtocolManager config).run KeyedTable.empty (past ++ [input]))
        after).filterMap (sentNumber key) = List.range' grant.nextPacketNumber.toNat count ∧
      count ≤ grant.packetsToBeSent.toNat ∧
      ∀ number ∈ List.range' grant.nextPacketNumber.toNat count,
        number ≤ grant.session.getTotalNumberOfPackets.toNat := by
  rw [Machine.run_concat] at huntil hfits ⊢
  obtain ⟨count, hnumbers, hcount, hinside⟩ := windowAt_run (grantOf_eq_some haccepted).1
    (windowAt_of_grant haccepted hn hfollows) after huntil hfits
  refine ⟨count, hnumbers, by omega, ?_⟩
  intro number hmem
  have hrange := List.mem_range'_1.mp hmem
  omega

/-- Our control function has nine bytes for the other node. -/
def nineBytes : TransmitRequest where
  parameterGroupNumber := 0xFE00
  data := [1, 2, 3, 4, 5, 6, 7, 8, 9]
  source := some 1
  destination := some 0
  sessionCompleteCallback := none
  parentPointer := 0

def nineBytesSession : TransportProtocolSession where
  direction := .transmit
  parameterGroupNumber := 0xFE00
  data := [1, 2, 3, 4, 5, 6, 7, 8, 9]
  totalMessageSize := 9
  state := .waitForClearToSend
  clearToSendPacketCountMax := 16
  data_length := rfl

def called (call : Call) : Input := ⟨⟨0, twoNodes, fun _ => true⟩, call⟩

/-- The other node answers with a clear to send. -/
def clearToSendHeard (packetsToBeSent nextPacketNumber : UInt8) : Input :=
  heard 0 (connectionManagementFrame CLEAR_TO_SEND_MULTIPLEXOR packetsToBeSent nextPacketNumber
    0xFF 0xFF 0xFE00 (some 0) (some 1))

theorem sent_after_clearToSend_two_packets :
    ∃ count, ((transportProtocolManager {}).outputs ((transportProtocolManager {}).run
        KeyedTable.empty ([called (.protocolTransmitMessage nineBytes)] ++ [clearToSendHeard 2 1]))
        [called .update]).filterMap (sentNumber ⟨1, some 0⟩) = List.range' 1 count ∧
      count ≤ 2 ∧ ∀ number ∈ List.range' 1 count, number ≤ 2 :=
  sent_after_clearToSend {} ⟨1, some 0⟩ [called (.protocolTransmitMessage nineBytes)]
    (clearToSendHeard 2 1) ⟨nineBytesSession, 2, 1⟩ [called .update] (by decide +kernel)
    (by decide) (by decide) ⟨by decide +kernel, trivial⟩ ⟨by decide +kernel, trivial⟩

/-- A clear to send for three packets of a message of two lets a third one out. -/
theorem not_sent_after_clearToSend :
    ¬∀ (config : CANNetworkConfiguration) (key : SessionKey) (past : List Input)
      (input : Input) (grant : Grant) (after : List Input),
      grantOf ((transportProtocolManager config).run KeyedTable.empty past) key input =
        some grant →
      grant.packetsToBeSent ≠ 0 → 1 ≤ grant.nextPacketNumber →
      grant.nextPacketNumber ≤ grant.session.getTotalNumberOfPackets →
      (transportProtocolManager config).Along
        (fun sessions input => grantOf sessions key input = none)
        ((transportProtocolManager config).run KeyedTable.empty (past ++ [input])) after →
      ∃ count, ((transportProtocolManager config).outputs
          ((transportProtocolManager config).run KeyedTable.empty (past ++ [input]))
          after).filterMap (sentNumber key) = List.range' grant.nextPacketNumber.toNat count ∧
        count ≤ grant.packetsToBeSent.toNat ∧
        ∀ number ∈ List.range' grant.nextPacketNumber.toNat count,
          number ≤ grant.session.getTotalNumberOfPackets.toNat := by
  intro hclaim
  obtain ⟨count, hnumbers, -, hinside⟩ := hclaim {} ⟨1, some 0⟩
    [called (.protocolTransmitMessage nineBytes)] (clearToSendHeard 3 1)
    ⟨nineBytesSession, 3, 1⟩ [called .update] (by decide +kernel) (by decide) (by decide)
    (by decide) ⟨by decide +kernel, trivial⟩
  have hsent : ((transportProtocolManager {}).outputs ((transportProtocolManager {}).run
      KeyedTable.empty ([called (.protocolTransmitMessage nineBytes)] ++ [clearToSendHeard 3 1]))
      [called .update]).filterMap (sentNumber ⟨1, some 0⟩) = [1, 2, 3] := by
    decide +kernel
  rw [hsent] at hnumbers
  have hthird := hinside 3 (hnumbers ▸ by decide)
  exact absurd hthird (by decide)

end Isobus.TransportProtocol
