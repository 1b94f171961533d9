import Isobus.TransportProtocol.ClearToSend

namespace Isobus.TransportProtocol

open Isobus.Can Isobus.Lib

def grantFrame (key : SessionKey) (packets next : UInt8) (group : UInt32) : TransmitFrame :=
  TransportProtocolSession.connectionManagementFrame CLEAR_TO_SEND_MULTIPLEXOR packets next
    0xFF 0xFF group key.destination key.source

namespace TransportProtocolSession

def AwaitsPacket (session : TransportProtocolSession) : Prop :=
  session.direction = .receive ∧ session.state = .waitForDataTransferPacket ∧
    session.getNumberOfRemainingPackets ≠ 0

/-- Part of the window is left, and a clear to send that covers the next packet got out. -/
structure Granted (key : SessionKey) (sent : List Event) (session : TransportProtocolSession) :
    Prop where
  remaining : 0 < session.getCtsNumberOfPacketsRemaining
  covered : ∃ packets next : UInt8,
    .frame (grantFrame key packets next session.parameterGroupNumber) true ∈ sent ∧
      next.toNat ≤ session.lastSequenceNumber.toNat + 1 ∧
      session.lastSequenceNumber.toNat + 1 < next.toNat + packets.toNat

def counted (env : Environment) (session : TransportProtocolSession) : TransportProtocolSession :=
  session.setLastSequencyNumber env.now (session.getLastSequenceNumber + 1)

/-- The next packet is outstanding, and when it uses up the window the clear to send for the next
one gets out. -/
def Refills (env : Environment) (key : SessionKey) (session : TransportProtocolSession) : Prop :=
  session.getNumberOfRemainingPackets ≠ 0 ∧
    ((session.counted env).getNumberOfRemainingPackets ≠ 0 →
      (session.counted env).getCtsNumberOfPacketsRemaining = 0 →
      env.send ((session.counted env).clearToSendFrame key) = true)

instance (env : Environment) (key : SessionKey) (session : TransportProtocolSession) :
    Decidable (session.Refills env key) :=
  inferInstanceAs (Decidable (_ ∧ _))

def Expects (number : Nat) (session : TransportProtocolSession) : Prop :=
  session.state = .waitForDataTransferPacket ∧ number = session.lastSequenceNumber.toNat + 1 ∧
    session.currentDataIndex < session.getMessageLength.toNat

instance (number : Nat) (session : TransportProtocolSession) :
    Decidable (session.Expects number) :=
  inferInstanceAs (Decidable (_ ∧ _))

end TransportProtocolSession

open TransportProtocolSession

def limitOf (config : CANNetworkConfiguration) (input : Input) : UInt8 :=
  match input.call with
  | .processMessage message => packetLimit config (message.getUint8At 4)
  | _ => 0

/-- An accepted request for packets does not limit the window to none of them. -/
def OpensWindow (limit : UInt8) : Option UInt16 → Prop
  | some length => totalNumberOfPackets length ≠ 0 → limit ≠ 0
  | none => True

instance (limit : UInt8) : ∀ opening, Decidable (OpensWindow limit opening)
  | some length => inferInstanceAs (Decidable (totalNumberOfPackets length ≠ 0 → limit ≠ 0))
  | none => inferInstanceAs (Decidable True)

def RefillsWindow (env : Environment) (key : SessionKey) :
    Option (Nat × List UInt8) → Option TransportProtocolSession → Prop
  | some packet, some session => session.Expects packet.1 → session.Refills env key
  | _, _ => True

instance (env : Environment) (key : SessionKey) :
    ∀ packet session, Decidable (RefillsWindow env key packet session)
  | some packet, some session =>
    inferInstanceAs (Decidable (session.Expects packet.1 → session.Refills env key))
  | some _, none => inferInstanceAs (Decidable True)
  | none, some _ => inferInstanceAs (Decidable True)
  | none, none => inferInstanceAs (Decidable True)

/-- A call that keeps a session from waiting in vain: a request that opens it has a window, and the
next packet of it refills the window. -/
def Grants (config : CANNetworkConfiguration) (key : SessionKey)
    (sessions : ActiveSessions) (input : Input) : Prop :=
  OpensWindow (limitOf config input) (openingOf config sessions key input) ∧
    RefillsWindow input.env key (packetOf key input) (sessions.lookup key)

instance (config : CANNetworkConfiguration) (key : SessionKey)
    (sessions : ActiveSessions) (input : Input) :
    Decidable (Grants config key sessions input) :=
  inferInstanceAs (Decidable (_ ∧ _))

namespace TransportProtocolSession

variable {config : CANNetworkConfiguration} {env : Environment} {key : SessionKey}
variable {session : TransportProtocolSession} {sent : List Event}

/-- The counters agree with a clear to send that got out, and the next packet is in it. -/
structure Covered (key : SessionKey) (sent : List Event) (session : TransportProtocolSession) :
    Prop where
  asked : .frame (grantFrame key session.clearToSendPacketCount
    (session.lastAcknowledgedPacketNumber + 1) session.parameterGroupNumber) true ∈ sent
  acknowledged : session.lastAcknowledgedPacketNumber.toNat ≤ session.lastSequenceNumber.toNat
  inside : session.lastSequenceNumber.toNat <
    session.lastAcknowledgedPacketNumber.toNat + session.clearToSendPacketCount.toNat

/-- What holds of a session as long as it receives. -/
structure ReceiveWindow (key : SessionKey) (sent : List Event)
    (session : TransportProtocolSession) : Prop where
  limit : session.Receiving → session.getTotalNumberOfPackets ≠ 0 →
    session.clearToSendPacketCountMax ≠ 0
  asks : session.state = .sendClearToSend → session.lastSequenceNumber = 0
  waits : session.state = .waitForDataTransferPacket →
    session.lastSequenceNumber.toNat ≤ session.getTotalNumberOfPackets.toNat ∧
      (session.getNumberOfRemainingPackets ≠ 0 → session.Covered key sent)

theorem receiveWindow_of_not_receiving (h : ¬session.Receiving) :
    session.ReceiveWindow key sent where
  limit := fun hr => absurd hr h
  asks := fun hstate => absurd (.inl hstate) h
  waits := fun hstate => absurd (.inr hstate) h

theorem ReceiveWindow.mono {sent' : List Event} (h : session.ReceiveWindow key sent)
    (hsub : ∀ e ∈ sent, e ∈ sent') : session.ReceiveWindow key sent' where
  limit := h.limit
  asks := h.asks
  waits := by
    intro hstate
    obtain ⟨hlast, hcovered⟩ := h.waits hstate
    refine ⟨hlast, fun hremaining => ?_⟩
    obtain ⟨hasked, hle, hlt⟩ := hcovered hremaining
    exact ⟨hsub _ hasked, hle, hlt⟩

theorem packetsThisSegment_ne_zero (hremaining : session.getNumberOfRemainingPackets ≠ 0)
    (hlimit : session.clearToSendPacketCountMax ≠ 0) : session.packetsThisSegment ≠ 0 := by
  unfold packetsThisSegment
  split_ifs
  · exact hlimit
  · decide
  · exact hremaining

theorem total_ne_zero (hlast : session.lastSequenceNumber.toNat ≤
      session.getTotalNumberOfPackets.toNat)
    (hremaining : session.getNumberOfRemainingPackets ≠ 0) :
    session.getTotalNumberOfPackets ≠ 0 ∧
      session.lastSequenceNumber.toNat < session.getTotalNumberOfPackets.toNat := by
  have hne : session.getTotalNumberOfPackets ≠ session.lastSequenceNumber :=
    fun h => hremaining (getNumberOfRemainingPackets_eq_zero_iff.mpr h)
  have hlt : session.lastSequenceNumber.toNat < session.getTotalNumberOfPackets.toNat :=
    Nat.lt_of_le_of_ne hlast fun h => hne (UInt8.toNat_inj.mp h.symm)
  refine ⟨?_, hlt⟩
  intro hzero
  rw [hzero] at hlt
  exact absurd hlt (Nat.not_lt_zero _)

def granted (env : Environment) (session : TransportProtocolSession) : TransportProtocolSession :=
  (session.setCtsNumberOfPackets env.now session.packetsThisSegment).setAcknowledgedPacketNumber
    env.now session.getLastPacketNumber

theorem sendClearToSend_of_sent (hsend : env.send (session.clearToSendFrame key) = true) :
    session.sendClearToSend env key =
      (true, session.granted env, [.frame (session.clearToSendFrame key) true]) := by
  unfold sendClearToSend
  dsimp only
  rw [if_pos hsend]
  rfl

theorem sendClearToSend_of_refused (hsend : env.send (session.clearToSendFrame key) = false) :
    session.sendClearToSend env key =
      (false, session, [.frame (session.clearToSendFrame key) false]) := by
  unfold sendClearToSend
  dsimp only
  rw [hsend, if_neg Bool.false_ne_true]

theorem covered_granted
    (hlast : session.lastSequenceNumber.toNat ≤ session.getTotalNumberOfPackets.toNat)
    (hlimit : session.getTotalNumberOfPackets ≠ 0 → session.clearToSendPacketCountMax ≠ 0)
    (hremaining : session.getNumberOfRemainingPackets ≠ 0) :
    (session.granted env).Covered key (sent ++ [.frame (session.clearToSendFrame key) true]) := by
  obtain ⟨htotal, -⟩ := total_ne_zero hlast hremaining
  have hpackets := packetsThisSegment_ne_zero hremaining (hlimit htotal)
  have hpos : 0 < session.packetsThisSegment.toNat :=
    Nat.pos_of_ne_zero fun h => hpackets (UInt8.toNat_inj.mp h)
  refine ⟨List.mem_append_right _ (List.mem_singleton.mpr rfl), Nat.le_refl _, ?_⟩
  change session.lastSequenceNumber.toNat <
    session.lastSequenceNumber.toNat + session.packetsThisSegment.toNat
  omega

variable {session' : TransportProtocolSession}

theorem receiveWindow_updateStateMachine (h : session.ReceiveWindow key sent)
    (hsome : (session.updateStateMachine config env key).1 = some session') :
    session'.ReceiveWindow key (sent ++ (session.updateStateMachine config env key).2) := by
  by_cases hstate : session.state = .sendClearToSend
  case neg =>
    by_cases hr : session'.Receiving
    · obtain rfl := (rests_updateStateMachine hstate).1 session' hsome hr
      exact h.mono fun e he => List.mem_append_left _ he
    · exact receiveWindow_of_not_receiving hr
  case pos =>
    have hlimit := h.limit (.inl hstate)
    have hlast : session.lastSequenceNumber.toNat ≤ session.getTotalNumberOfPackets.toNat := by
      rw [h.asks hstate]
      exact Nat.zero_le _
    unfold updateStateMachine at hsome ⊢
    rw [hstate] at hsome ⊢
    dsimp only at hsome ⊢
    cases hsend : env.send (session.clearToSendFrame key) with
    | false =>
      rw [sendClearToSend_of_refused hsend] at hsome ⊢
      cases hsome
      exact h.mono fun e he => List.mem_append_left _ he
    | true =>
      rw [sendClearToSend_of_sent hsend] at hsome ⊢
      cases hsome
      refine ⟨fun _ => hlimit, by simp [setState], fun _ => ⟨hlast, fun hremaining => ?_⟩⟩
      have hcovered : (session.granted env).Covered key
          (sent ++ [.frame (session.clearToSendFrame key) true]) :=
        covered_granted hlast hlimit hremaining
      exact ⟨hcovered.asked, hcovered.acknowledged, hcovered.inside⟩

theorem covered_of_counted (h : session.Covered key sent)
    (hgroup : session'.parameterGroupNumber = session.parameterGroupNumber)
    (hcount : session'.clearToSendPacketCount = session.clearToSendPacketCount)
    (hack : session'.lastAcknowledgedPacketNumber = session.lastAcknowledgedPacketNumber)
    (hlast : session'.lastSequenceNumber.toNat = session.lastSequenceNumber.toNat + 1)
    (hleft : session'.getCtsNumberOfPacketsRemaining ≠ 0) : session'.Covered key sent := by
  have hle := h.acknowledged
  have hlt := h.inside
  refine ⟨?_, by rw [hack]; omega, ?_⟩
  · rw [hcount, hack, hgroup]
    exact h.asked
  · rw [hack, hcount, hlast]
    by_contra hend
    -- Then the packets since the acknowledged one are all that were asked for.
    refine hleft ?_
    unfold getCtsNumberOfPacketsRemaining getLastPacketNumber
    rw [hcount, hack]
    have hused : session'.lastSequenceNumber =
        session.lastAcknowledgedPacketNumber + session.clearToSendPacketCount := by
      apply UInt8.toNat_inj.mp
      have hbound := session'.lastSequenceNumber.toNat_lt
      rw [UInt8.toNat_add]
      omega
    rw [hused]
    grind

theorem receiveWindow_afterPacket {stored : TransportProtocolSession} {timestampUs : UInt64}
    (h : session.ReceiveWindow key sent) (hstate : session.state = .waitForDataTransferPacket)
    (hstored : stored.parameterGroupNumber = session.parameterGroupNumber ∧
      stored.getTotalNumberOfPackets = session.getTotalNumberOfPackets ∧
      stored.state = session.state ∧
      stored.clearToSendPacketCountMax = session.clearToSendPacketCountMax ∧
      stored.clearToSendPacketCount = session.clearToSendPacketCount ∧
      stored.lastAcknowledgedPacketNumber = session.lastAcknowledgedPacketNumber)
    (hnext : stored.lastSequenceNumber.toNat = session.lastSequenceNumber.toNat + 1)
    (hremaining : session.getNumberOfRemainingPackets ≠ 0)
    (hsend : stored.getNumberOfRemainingPackets ≠ 0 →
      stored.getCtsNumberOfPacketsRemaining = 0 →
      env.send (stored.clearToSendFrame key) = true)
    (hsome : (stored.afterPacket env key timestampUs).1 = some session') :
    session'.ReceiveWindow key (sent ++ (stored.afterPacket env key timestampUs).2) := by
  obtain ⟨hgroup, htotal, hstate', hmax, hcount, hack⟩ := hstored
  obtain ⟨hlast, hcovered⟩ := h.waits hstate
  obtain ⟨hne, hlt⟩ := total_ne_zero hlast hremaining
  have hlimit := h.limit (.inr hstate) hne
  have hlast' : stored.lastSequenceNumber.toNat ≤ stored.getTotalNumberOfPackets.toNat := by
    rw [hnext, htotal]
    omega
  unfold afterPacket at hsome ⊢
  by_cases hdone : stored.getNumberOfRemainingPackets = 0
  · rw [if_pos hdone] at hsome
    simp at hsome
  rw [if_neg hdone] at hsome ⊢
  split_ifs at hsome ⊢ with hused
  · rw [sendClearToSend_of_sent (hsend hdone hused)] at hsome ⊢
    cases hsome
    refine ⟨fun _ _ => hmax ▸ hlimit, fun hasks => ?_, fun _ => ⟨hlast', fun _ => ?_⟩⟩
    · change stored.state = _ at hasks
      rw [hstate', hstate] at hasks
      simp at hasks
    · exact covered_granted hlast' (fun _ => hmax ▸ hlimit) hdone
  · cases hsome
    refine ⟨fun _ _ => hmax ▸ hlimit, fun hasks => ?_, fun _ => ⟨hlast', fun _ => ?_⟩⟩
    · rw [hstate', hstate] at hasks
      simp at hasks
    · rw [List.append_nil]
      exact covered_of_counted (hcovered hremaining) hgroup hcount hack hnext hused

theorem receiveWindow_receiveDataTransfer {message : CANMessage}
    (h : session.ReceiveWindow key sent)
    (hrefills : session.Expects (message.getUint8At SEQUENCE_NUMBER_DATA_INDEX).toNat →
      session.Refills env key)
    (hsome : (session.receiveDataTransfer env key message).1 = some session') :
    session'.ReceiveWindow key (sent ++ (session.receiveDataTransfer env key message).2) := by
  unfold receiveDataTransfer at hsome ⊢
  dsimp only at hsome ⊢
  by_cases hstate : session.state = .waitForDataTransferPacket
  case neg =>
    rw [if_pos hstate] at hsome
    simp [abortSession] at hsome
  rw [if_neg (not_not.mpr hstate)] at hsome ⊢
  split_ifs at hsome ⊢ with hsame hnext hindex
  · simp [abortSession] at hsome
  · simp [abortSession] at hsome
  · have hfits := Nat.not_le.mp hindex
    obtain ⟨hremaining, hsend⟩ := hrefills ⟨hstate, hnext, hfits⟩
    have hnumber : message.getUint8At SEQUENCE_NUMBER_DATA_INDEX =
        session.getLastSequenceNumber + 1 := by
      apply UInt8.toNat_inj.mp
      have hbound := (message.getUint8At SEQUENCE_NUMBER_DATA_INDEX).toNat_lt
      rw [UInt8.toNat_add]
      change _ = (_ + 1) % 256
      omega
    rw [copyIn_eq_some hfits] at hsome ⊢
    dsimp only at hsome ⊢
    refine receiveWindow_afterPacket h hstate ⟨rfl, rfl, rfl, rfl, rfl, rfl⟩ hnext hremaining
      ?_ hsome
    rw [hnumber]
    exact hsend
  · simp [abortSession] at hsome

end TransportProtocolSession

variable {config : CANNetworkConfiguration} {env : Environment}
variable {sessions : ActiveSessions} {key : SessionKey} {input : Input} {sent : List Event}

theorem step_of_opening {length : UInt16} (hdestination : key.destination ≠ none)
    (hopen : openingOf config sessions key input = some length) :
    ∃ session group, session = (receiveSession group length (limitOf config
        input)).setState input.env.now .sendClearToSend ∧
      ((transportProtocolManager config).next sessions input).lookup key =
        (session.updateStateMachine config input.env key).1 ∧
      ∀ e ∈ (session.updateStateMachine config input.env key).2,
        e ∈ (transportProtocolManager config).emits sessions input := by
  obtain ⟨env, call⟩ := input
  cases call with
  | update => simp [openingOf] at hopen
  | protocolTransmitMessage request => simp [openingOf] at hopen
  | processMessage message =>
    unfold openingOf at hopen
    dsimp only at hopen
    split_ifs at hopen with hcond
    obtain ⟨haddressed, hgroup, hmux, hfull, -, hcount⟩ := hcond
    cases hopen
    obtain ⟨source, destination⟩ := key
    obtain ⟨destination, rfl⟩ := Option.ne_none_iff_exists'.mp hdestination
    change message.getUint8At 0 = REQUEST_TO_SEND_MULTIPLEXOR at hmux
    have hstep : (transportProtocolManager config).step sessions
          ⟨env, .processMessage message⟩ =
        processRequestToSend config env source destination (message.getUint24At 5)
          (message.getUint16At 1) (message.getUint8At 3) (message.getUint8At 4) sessions := by
      change processMessage config env message sessions = _
      rw [processMessage_of_addressed haddressed, if_pos hgroup,
        processConnectionManagementMessage, if_neg (by rw [haddressed.2.2.2.2]; simp),
        haddressed.2.2.2.1]
      dsimp only
      rw [if_pos hmux]
    rw [processRequestToSend, if_neg (by simp [hfull])] at hstep
    dsimp only at hstep
    rw [getTotalNumberOfPackets_receiveSession, if_neg (not_not.mpr hcount)] at hstep
    refine ⟨_, message.getUint24At 5, rfl, ?_, ?_⟩
    · rw [Machine.next, hstep]
      dsimp only
      rw [lookup_openSession, if_pos rfl]
      rfl
    · intro e he
      rw [Machine.emits, hstep]
      refine List.mem_append_right _ (KeyedTable.mem_dispatch.mpr ⟨_, ?_, he⟩)
      exact KeyedTable.lookup_push_self _ _ _

def ReceiveWindowAt (key : SessionKey) (sessions : ActiveSessions) (sent : List Event) : Prop :=
  ∀ session, sessions.lookup key = some session → session.ReceiveWindow key sent

theorem receiveWindowAt_of_opening {length : UInt16} (hdestination : key.destination ≠ none)
    (hopen : openingOf config sessions key input = some length)
    (hlimit : totalNumberOfPackets length ≠ 0 → limitOf config input ≠ 0) :
    ReceiveWindowAt key ((transportProtocolManager config).next sessions input)
      (sent ++ (transportProtocolManager config).emits sessions input) := by
  obtain ⟨session, group, hsession, hlookup, hemits⟩ := step_of_opening hdestination hopen
  have hnew : session.ReceiveWindow key [] := by
    subst hsession
    exact ⟨fun _ => hlimit, fun _ => rfl, by simp [setState]⟩
  intro session' hsome
  rw [hlookup] at hsome
  refine (receiveWindow_updateStateMachine hnew hsome).mono fun e he => ?_
  exact List.mem_append_right _ (hemits e he)

theorem receiveWindow_update {session session' : TransportProtocolSession}
    (h : session.ReceiveWindow key sent)
    (hsome : (session.update config env key).1 = some session') :
    session'.ReceiveWindow key (sent ++ (session.update config env key).2) := by
  unfold TransportProtocolSession.update at hsome ⊢
  split_ifs at hsome ⊢
  · simp [closeSession] at hsome
  · simp [closeSession] at hsome
  · exact receiveWindow_updateStateMachine h hsome
  · cases hsome
    exact h.mono fun e he => List.mem_append_left _ he

theorem receiveWindowAt_next (hdestination : key.destination ≠ none)
    (h : ReceiveWindowAt key sessions sent) (hgrants : Grants config key sessions input) :
    ReceiveWindowAt key ((transportProtocolManager config).next sessions input)
      (sent ++ (transportProtocolManager config).emits sessions input) := by
  obtain ⟨hopens, hrefills⟩ := hgrants
  cases hopen : openingOf config sessions key input with
  | some length =>
    rw [hopen] at hopens
    exact receiveWindowAt_of_opening hdestination hopen hopens
  | none =>
    intro session' hsome
    cases hpacket : packetOf key input with
    | some packet =>
      obtain ⟨message, hnumber, -, -, hstep⟩ := step_of_packet hpacket
      rw [Machine.next, hstep, KeyedTable.lookup_dispatch, if_pos rfl] at hsome
      obtain ⟨session, hlookup, hafter⟩ := Option.bind_eq_some_iff.mp hsome
      refine (receiveWindow_receiveDataTransfer (h session hlookup) ?_ hafter).mono ?_
      · rw [hpacket, hlookup] at hrefills
        exact hnumber ▸ hrefills
      · refine fun e he => List.mem_append.mpr ((List.mem_append.mp he).imp_right fun he => ?_)
        rw [Machine.emits, hstep]
        exact KeyedTable.mem_dispatch.mpr ⟨session, hlookup, he⟩
    | none =>
      by_cases hcall : input.call = .update
      · have hstep : (transportProtocolManager config).step sessions input =
            update config input.env sessions := step_of_update config hcall
        rw [Machine.next, hstep, update, KeyedTable.lookup_sweep] at hsome
        obtain ⟨session, hlookup, hafter⟩ := Option.bind_eq_some_iff.mp hsome
        refine (receiveWindow_update (h session hlookup) hafter).mono fun e he => ?_
        refine List.mem_append.mpr ((List.mem_append.mp he).imp_right fun he => ?_)
        rw [Machine.emits, hstep]
        exact KeyedTable.mem_sweep.mpr ⟨key, session, hlookup, he⟩
      · by_cases hr : session'.Receiving
        · have hbefore := restsAt_next hopen hpacket hcall session' hsome hr
          exact (h session' hbefore).mono fun e he => List.mem_append_left _ he
        · exact receiveWindow_of_not_receiving hr

theorem granted_of_receiveWindow {session : TransportProtocolSession}
    (h : session.ReceiveWindow key sent) (hawaits : session.AwaitsPacket) :
    session.Granted key sent := by
  obtain ⟨-, hstate, hremaining⟩ := hawaits
  obtain ⟨hlast, hcovered⟩ := h.waits hstate
  obtain ⟨hasked, hle, hlt⟩ := hcovered hremaining
  obtain ⟨-, htotal⟩ := total_ne_zero hlast hremaining
  have hbound := session.getTotalNumberOfPackets.toNat_lt
  refine ⟨?_, _, _, hasked, ?_, ?_⟩
  · have hused : (session.getLastPacketNumber - session.lastAcknowledgedPacketNumber).toNat =
        session.lastSequenceNumber.toNat - session.lastAcknowledgedPacketNumber.toNat :=
      toNat_sub_of_le hle
    rw [UInt8.lt_iff_toNat_lt, getCtsNumberOfPacketsRemaining,
      toNat_sub_of_le (by omega), hused]
    change 0 < _
    omega
  · rw [UInt8.toNat_add]
    change (_ + 1) % 256 ≤ _
    omega
  · rw [UInt8.toNat_add]
    change _ < (_ + 1) % 256 + _
    omega

/-- As long as every call grants, a session that waits for a packet of its message has
asked for it. -/
theorem granted_along (config : CANNetworkConfiguration) (key : SessionKey)
    (hdestination : key.destination ≠ none) (inputs : List Input)
    (hgrants : (transportProtocolManager config).Along (Grants config key)
      KeyedTable.empty inputs) (past : List Input) (hpast : past <+: inputs)
    (session : TransportProtocolSession)
    (hlookup : ((transportProtocolManager config).run KeyedTable.empty past).lookup key =
      some session) (hawaits : session.AwaitsPacket) :
    session.Granted key
      ((transportProtocolManager config).outputs KeyedTable.empty past) := by
  obtain ⟨rest, rfl⟩ := hpast
  have halong := ((Machine.along_append _ _ _ _ _).mp hgrants).1
  have hwindow := Machine.run_outputs_invariant_along _
    (fun _ _ _ h hok => receiveWindowAt_next hdestination h hok)
    (show ReceiveWindowAt key KeyedTable.empty [] from fun _ h => by simp at h) past halong
  exact granted_of_receiveWindow (hwindow session hlookup) hawaits

def windowedRequestHeard (length : UInt16) (limit : UInt8) : Input :=
  heard 0 (connectionManagementFrame REQUEST_TO_SEND_MULTIPLEXOR (byteOf length.toUInt32 0)
    (byteOf length.toUInt32 1) (totalNumberOfPackets length) limit 0xFE00 (some 0) (some 1))

/-- The session of 20 bytes after its first packet, in windows of one packet. -/
def secondPacketAwaited (acknowledged : UInt8) : TransportProtocolSession where
  direction := .receive
  parameterGroupNumber := 0xFE00
  data := List.replicate 7 1 ++ List.replicate 13 0
  totalMessageSize := 20
  state := .waitForDataTransferPacket
  lastSequenceNumber := 1
  lastAcknowledgedPacketNumber := acknowledged
  clearToSendPacketCount := 1
  clearToSendPacketCountMax := 1
  data_length := rfl

theorem granted_along_second_packet :
    (secondPacketAwaited 1).Granted ⟨0, some 1⟩ ((transportProtocolManager {}).outputs
      KeyedTable.empty [windowedRequestHeard 20 1, packetHeard 1]) :=
  granted_along {} ⟨0, some 1⟩ (by decide) [windowedRequestHeard 20 1, packetHeard 1]
    ⟨by decide +kernel, by decide +kernel, trivial⟩ _ (List.prefix_refl _) _ (by decide +kernel)
    ⟨rfl, rfl, by decide⟩

/-- The clear to send after the first packet is refused, and nobody was asked for the second packet.
-/
theorem not_granted :
    ¬∀ (config : CANNetworkConfiguration) (key : SessionKey),
      key.destination ≠ none → ∀ (inputs : List Input) (session : TransportProtocolSession),
      ((transportProtocolManager config).run KeyedTable.empty inputs).lookup key =
        some session → session.AwaitsPacket →
      session.Granted key
        ((transportProtocolManager config).outputs KeyedTable.empty inputs) := by
  intro hclaim
  have hgranted := hclaim {} ⟨0, some 1⟩ (by decide) [windowedRequestHeard 20 1,
    { packetHeard 1 with env := ⟨0, twoNodes, fun _ => false⟩ }] (secondPacketAwaited 0)
    (by decide +kernel) ⟨rfl, rfl, by decide⟩
  exact absurd hgranted.remaining (by decide)

end Isobus.TransportProtocol
