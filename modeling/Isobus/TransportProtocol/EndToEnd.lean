import Isobus.TransportProtocol.Link

/-!
# A transport protocol transfer from end to end

The link is in one of a few phases, each call leads from phase to phase, and the only phase in which
nothing more can happen is the one where the message has arrived.
-/

namespace Isobus.TransportProtocol

open Isobus.Can Isobus.Can.Transfer Isobus.Lib TransportProtocolSession

theorem addressed_of_valid {env : Environment} {key : SessionKey} {message : CANMessage}
    (hsource : message.source = some key.source)
    (hvalid : (env.world key.source).getAddressValid = true)
    (hdestination : message.destination = key.destination)
    (hours : ∀ d ∈ key.destination, (env.world d).getAddressValid = true ∧
      (env.world d).controlFunctionType = .internal)
    (hlength : message.data.length = CAN_DATA_LENGTH) : Addressed env key message := by
  refine ⟨hsource, ?_, ?_, ?_, hlength⟩
  · simp [CANMessage.hasValidSourceControlFunction, hsource, hvalid]
  · cases hd : key.destination with
    | none =>
      rw [CANMessage.isBroadcast_of_none (hdestination.trans hd), Bool.or_true]
    | some d =>
      obtain ⟨haddress, hinternal⟩ := hours d hd
      simp [CANMessage.isDestinationOurDevice, CANMessage.hasValidDestinationControlFunction,
        hdestination.trans hd, haddress, hinternal]
  · cases hd : key.destination with
    | none => exact CANMessage.specificDestination_of_none (hdestination.trans hd)
    | some d =>
      exact CANMessage.specificDestination_of_valid (hdestination.trans hd) (hours d hd).1

variable {config : CANNetworkConfiguration} {env : Environment} {key : SessionKey}
variable {sessions : ActiveSessions} {message : CANMessage}

theorem processMessage_dataTransfer (h : Addressed env key message)
    (hgroup : message.identifier.getParameterGroupNumber = transportProtocolDataTransfer) :
    processMessage config env message sessions =
      sessions.dispatch key (·.receiveDataTransfer env key message) := by
  obtain ⟨-, -, -, hdestination, hlength⟩ := id h
  rw [processMessage_of_addressed h, if_neg (by rw [hgroup]; decide), if_pos hgroup,
    processDataTransferMessage, if_neg (not_not.mpr hlength.symm)]
  dsimp only
  rw [hdestination]

theorem processMessage_connectionManagement (h : Addressed env key message)
    (hgroup : message.identifier.getParameterGroupNumber =
      transportProtocolConnectionManagement) :
    processMessage config env message sessions =
      match key.destination with
      | none =>
        if message.getUint8At 0 = BROADCAST_ANNOUNCE_MESSAGE_MULTIPLEXOR then
          processBroadcastAnnounceMessage config env key.source (message.getUint24At 5)
            (message.getUint16At 1) (message.getUint8At 3) sessions
        else (sessions, [])
      | some destination =>
        if message.getUint8At 0 = REQUEST_TO_SEND_MULTIPLEXOR then
          processRequestToSend config env key.source destination (message.getUint24At 5)
            (message.getUint16At 1) (message.getUint8At 3) (message.getUint8At 4) sessions
        else if message.getUint8At 0 = CLEAR_TO_SEND_MULTIPLEXOR then
          processClearToSend env key.source destination (message.getUint24At 5)
            (message.getUint8At 1) (message.getUint8At 2) sessions
        else if message.getUint8At 0 = END_OF_MESSAGE_ACKNOWLEDGE_MULTIPLEXOR then
          processEndOfSessionAcknowledgement key.source destination sessions
        else if message.getUint8At 0 = CONNECTION_ABORT_MULTIPLEXOR then
          processAbort key.source destination (message.getUint24At 5) sessions
        else (sessions, []) := by
  obtain ⟨-, -, -, hdestination, hlength⟩ := id h
  rw [processMessage_of_addressed h, if_pos hgroup, processConnectionManagementMessage,
    if_neg (not_not.mpr hlength.symm)]
  dsimp only
  cases hkey : key.destination <;> rw [hdestination, hkey]

theorem openSession_empty (session : TransportProtocolSession) :
    openSession config env key session KeyedTable.empty =
      (KeyedTable.single key (session.updateStateMachine config env key).1,
        (session.updateStateMachine config env key).2) := by
  rw [openSession, ← KeyedTable.single_none key, KeyedTable.push_single,
    KeyedTable.dispatch_single]
  rfl

theorem update_single (session : Option TransportProtocolSession) :
    update config env (KeyedTable.single key session) =
      (KeyedTable.single key (session.bind fun s => (s.update config env key).1),
        (session.map fun s => (s.update config env key).2).getD []) :=
  KeyedTable.sweep_single key session _

theorem updateStateMachine_sendBroadcastAnnounce {session : TransportProtocolSession}
    (hstate : session.state = .sendBroadcastAnnounce)
    (hsend : env.send (session.broadcastAnnounceFrame key) = true) :
    session.updateStateMachine config env key =
      (some (session.setState env.now .sendDataTransferPackets),
        [.frame (session.broadcastAnnounceFrame key) true]) := by
  unfold updateStateMachine
  rw [hstate]
  exact if_pos hsend

theorem updateStateMachine_sendRequestToSend {session : TransportProtocolSession}
    (hstate : session.state = .sendRequestToSend)
    (hsend : env.send (session.requestToSendFrame key) = true) :
    session.updateStateMachine config env key =
      (some (session.setState env.now .waitForClearToSend),
        [.frame (session.requestToSendFrame key) true]) := by
  unfold updateStateMachine
  rw [hstate]
  exact if_pos hsend

theorem updateStateMachine_sendClearToSend {session session' : TransportProtocolSession}
    {events : List Event} (hstate : session.state = .sendClearToSend)
    (hanswer : session.sendClearToSend env key = (true, session', events)) :
    session.updateStateMachine config env key =
      (some (session'.setState env.now .waitForDataTransferPacket), events) := by
  unfold updateStateMachine
  rw [hstate]
  dsimp only
  rw [hanswer]
  rfl

namespace TransportTransfer

variable {T : TransportTransfer} {state : StateMachineState} {acknowledged granted last : Nat}
variable {session : TransportProtocolSession}

variable {frame : TransmitFrame} {d : CFRef}

theorem addressed_receiver (T : TransportTransfer) (moment : Moment)
    (hsource : frame.source = some T.source) (hdestination : frame.destination = T.destination)
    (hlength : frame.data.length = CAN_DATA_LENGTH) :
    Addressed (T.receiverEnvironment moment.now) T.key
      (frame.toMessage T.senderWorld moment.timestampUs) :=
  addressed_of_valid hsource T.source_valid_receiver hdestination
    (fun d hd => ⟨T.destination_valid_receiver d hd, T.destination_internal d hd⟩) hlength

theorem addressed_sender (T : TransportTransfer) (moment : Moment) (hd : T.destination = some d)
    (hsource : frame.source = T.destination) (hdestination : frame.destination = some T.source)
    (hlength : frame.data.length = CAN_DATA_LENGTH) :
    Addressed (T.senderEnvironment moment.now) ⟨d, some T.source⟩
      (frame.toMessage T.receiverWorld moment.timestampUs) := by
  refine addressed_of_valid (hsource.trans hd) (T.destination_valid_sender d hd) hdestination ?_
    hlength
  intro s hs
  obtain rfl : T.source = s := Option.some.inj hs
  exact ⟨T.source_valid_sender, T.source_internal⟩

theorem group_managementFrame (world : World) (timestampUs : UInt64) (b₀ b₁ b₂ b₃ b₄ : UInt8)
    (group : UInt32) (source destination : Option CFRef) :
    ((connectionManagementFrame b₀ b₁ b₂ b₃ b₄ group source destination).toMessage world
      timestampUs).identifier.getParameterGroupNumber = transportProtocolConnectionManagement :=
  TransmitFrame.getParameterGroupNumber_toMessage world timestampUs _ (by
    change transportProtocolConnectionManagement ≠ 0; decide) (by
    change transportProtocolConnectionManagement &&& _ = transportProtocolConnectionManagement
    decide) (by
    change transportProtocolConnectionManagement <<< 8 &&& _ < _
    decide)

theorem group_dataFrame (T : TransportTransfer) (number : Nat) (timestampUs : UInt64) :
    ((T.dataFrame number).toMessage T.senderWorld
      timestampUs).identifier.getParameterGroupNumber = transportProtocolDataTransfer :=
  TransmitFrame.getParameterGroupNumber_toMessage _ timestampUs _ (by
    change transportProtocolDataTransfer ≠ 0; decide) (by
    change transportProtocolDataTransfer &&& _ = transportProtocolDataTransfer
    decide) (by
    change transportProtocolDataTransfer <<< 8 &&& _ < _
    decide)

theorem getUint24At_managementFrame (world : World) (timestampUs : UInt64)
    (b₀ b₁ b₂ b₃ b₄ : UInt8) {group : UInt32} (source destination : Option CFRef)
    (h : group.toNat < 2 ^ 24) :
    ((connectionManagementFrame b₀ b₁ b₂ b₃ b₄ group source destination).toMessage world
      timestampUs).getUint24At 5 = group :=
  decode24_byteOf group h

def announceFrame (T : TransportTransfer) : TransmitFrame :=
  connectionManagementFrame (announcementMultiplexor T.key)
    (byteOf (UInt16.ofNat T.data.length).toUInt32 0)
    (byteOf (UInt16.ofNat T.data.length).toUInt32 1) (UInt8.ofNat T.packets)
    (if T.destination = none then 0xFF else T.senderConfiguration.numberOfPacketsPerCTSMessage)
    T.parameterGroupNumber (some T.source) T.destination

theorem toNat_length (T : TransportTransfer) :
    (UInt16.ofNat T.data.length).toNat = T.data.length := by
  have h := T.length_range.2
  simp only [MAX_PROTOCOL_DATA_LENGTH] at h
  exact UInt16.toNat_ofNat_of_lt' (by change T.data.length < 65536; omega)

theorem protocolTransmitMessage_eq (T : TransportTransfer) (now : UInt32) :
    ∃ session, T.SenderAt (if T.destination = none then .sendDataTransferPackets
        else .waitForClearToSend) 0 0 0 session ∧
      protocolTransmitMessage T.senderConfiguration (T.senderEnvironment now) T.request
          KeyedTable.empty =
        (KeyedTable.single T.key (some session),
          [.frame (announceFrame T) true, .transmitAnswered true]) := by
  obtain ⟨hlo, hhi⟩ := T.length_range
  have hlong : ¬(T.request.data.length ≤ CAN_DATA_LENGTH ∨
      T.request.data.length > MAX_PROTOCOL_DATA_LENGTH) := by
    change ¬(T.data.length ≤ 8 ∨ T.data.length > MAX_PROTOCOL_DATA_LENGTH)
    omega
  obtain ⟨new, hnew⟩ : ∃ new, new = transmitSession T.request
    T.senderConfiguration.numberOfPacketsPerCTSMessage (Nat.not_lt.mp fun h => hlong (.inr h)) :=
    ⟨_, rfl⟩
  have hrequested : requestedSession T.senderConfiguration (T.senderEnvironment now) T.request
      KeyedTable.empty = some (T.key, new.setState now
        (if T.destination = none then .sendBroadcastAnnounce else .sendRequestToSend)) := by
    unfold requestedSession
    rw [dif_neg hlong]
    change (if _ then _ else _) = _
    rw [if_pos ⟨T.source_valid_sender, KeyedTable.lookup_empty _⟩, hnew]
    rfl
  have hsender (state : StateMachineState) : T.SenderAt state 0 0 0 (new.setState now state) := by
    subst hnew
    exact ⟨rfl, rfl, rfl, rfl, rfl, rfl, rfl, rfl, rfl⟩
  have htotal (state : StateMachineState) :
      (new.setState now state).getTotalNumberOfPackets = UInt8.ofNat T.packets :=
    (ofNat_eq_of_toNat (toNat_total_of_size (hsender state).size_eq)).symm
  unfold protocolTransmitMessage
  rw [hrequested]
  dsimp only
  rw [openSession_empty]
  by_cases hd : T.destination = none
  · have hframe : (new.setState now .sendBroadcastAnnounce).broadcastAnnounceFrame T.key =
        announceFrame T := by
      rw [broadcastAnnounceFrame, htotal, announceFrame, announcementMultiplexor, if_pos hd,
        if_pos (show T.key.destination = none from hd), hd, hnew]
      rfl
    rw [if_pos hd, if_pos hd, updateStateMachine_sendBroadcastAnnounce rfl
      (T.send_senderEnvironment now _), hframe]
    exact ⟨_, hsender _, rfl⟩
  · have hframe : (new.setState now .sendRequestToSend).requestToSendFrame T.key =
        announceFrame T := by
      rw [requestToSendFrame, htotal, announceFrame, announcementMultiplexor, if_neg hd,
        if_neg (show ¬T.key.destination = none from hd), hnew]
      rfl
    rw [if_neg hd, if_neg hd, updateStateMachine_sendRequestToSend rfl
      (T.send_senderEnvironment now _), hframe]
    exact ⟨_, hsender _, rfl⟩

theorem getTotalNumberOfPackets_receiveSession_eq (T : TransportTransfer) (limit : UInt8) :
    (receiveSession T.parameterGroupNumber (UInt16.ofNat T.data.length)
      limit).getTotalNumberOfPackets = UInt8.ofNat T.packets :=
  (ofNat_eq_of_toNat (toNat_total_of_size (T.toNat_length))).symm

theorem receiverAt_new (T : TransportTransfer) (now : UInt32) (state : StateMachineState)
    {limit : UInt8} (hlimit : 0 < limit) :
    T.ReceiverAt state 0 0 0 ((receiveSession T.parameterGroupNumber
      (UInt16.ofNat T.data.length) limit).setState now state) where
  direction_eq := rfl
  group_eq := rfl
  size_eq := T.toNat_length
  state_eq := rfl
  limit_pos := hlimit
  acknowledged_eq := rfl
  granted_eq := rfl
  last_eq := rfl
  filled := filled_nil _

theorem ReceiverAt.setState (h : T.ReceiverAt state acknowledged granted last session)
    (now : UInt32) (state' : StateMachineState) :
    T.ReceiverAt state' acknowledged granted last (session.setState now state') where
  direction_eq := h.direction_eq
  group_eq := h.group_eq
  size_eq := h.size_eq
  state_eq := rfl
  limit_pos := h.limit_pos
  acknowledged_eq := h.acknowledged_eq
  granted_eq := h.granted_eq
  last_eq := h.last_eq
  filled := h.filled

theorem sessionsFull_empty (T : TransportTransfer) :
    sessionsFull T.receiverConfiguration KeyedTable.empty = false := by
  have h := UInt32.lt_iff_toNat_lt.mp T.free_slot
  simp only [sessionsFull, decide_eq_false_iff_not, Nat.not_le, ge_iff_le]
  exact h

theorem packetLimit_pos (T : TransportTransfer) :
    0 < packetLimit T.receiverConfiguration
      T.senderConfiguration.numberOfPacketsPerCTSMessage := by
  unfold packetLimit
  split_ifs
  · exact T.receiver_packets
  · exact T.sender_packets

theorem processMessage_requestToSend (T : TransportTransfer) (moment : Moment)
    (hd : T.destination = some d) :
    ∃ granted session, 0 < granted ∧ granted ≤ T.packets ∧
      T.ReceiverAt .waitForDataTransferPacket 0 granted 0 session ∧
      processMessage T.receiverConfiguration (T.receiverEnvironment moment.now)
          ((announceFrame T).toMessage T.senderWorld moment.timestampUs) KeyedTable.empty =
        (KeyedTable.single T.key (some session), [.frame (grantFrame T granted 0) true]) := by
  have hne : T.destination ≠ none := by simp [hd]
  obtain ⟨granted, session, hpos, hle, hreceiver, hanswer⟩ :=
    sendClearToSend_eq (T.receiverAt_new moment.now .sendClearToSend T.packetLimit_pos)
      moment.now (by have := T.packets_range; omega)
  refine ⟨granted, session.setState moment.now .waitForDataTransferPacket, hpos, by omega,
    hreceiver.setState _ _, ?_⟩
  have haddressed : Addressed (T.receiverEnvironment moment.now) T.key
      ((announceFrame T).toMessage T.senderWorld moment.timestampUs) :=
    T.addressed_receiver moment rfl rfl rfl
  rw [processMessage_connectionManagement haddressed (group_managementFrame _ _ _ _ _ _ _ _ _ _),
    show T.key.destination = some d from hd]
  dsimp only
  have hgroup : ((announceFrame T).toMessage T.senderWorld moment.timestampUs).getUint24At 5 =
      T.parameterGroupNumber := getUint24At_managementFrame _ _ _ _ _ _ _ _ _ T.group_lt
  have hlength : ((announceFrame T).toMessage T.senderWorld moment.timestampUs).getUint16At 1 =
      UInt16.ofNat T.data.length := decode16_byteOf _
  have hmultiplexor : ((announceFrame T).toMessage T.senderWorld
      moment.timestampUs).getUint8At 0 = REQUEST_TO_SEND_MULTIPLEXOR := if_neg hne
  have hlimit : ((announceFrame T).toMessage T.senderWorld moment.timestampUs).getUint8At 4 =
      T.senderConfiguration.numberOfPacketsPerCTSMessage := if_neg hne
  have hcount : ((announceFrame T).toMessage T.senderWorld moment.timestampUs).getUint8At 3 =
      UInt8.ofNat T.packets := rfl
  have hkey : (⟨T.key.source, some d⟩ : SessionKey) = T.key := by rw [Transfer.key, hd]
  rw [if_pos hmultiplexor, hgroup, hlength, hlimit, hcount]
  unfold processRequestToSend
  rw [sessionsFull_empty, hkey]
  dsimp only
  rw [if_neg Bool.false_ne_true, T.getTotalNumberOfPackets_receiveSession_eq,
    if_neg (not_not.mpr rfl), KeyedTable.dispatch_of_lookup_none _ (KeyedTable.lookup_empty _)]
  dsimp only
  rw [openSession_empty, T.now_receiverEnvironment,
    updateStateMachine_sendClearToSend rfl hanswer]
  rfl

theorem processMessage_broadcastAnnounce (T : TransportTransfer) (moment : Moment)
    (hd : T.destination = none) :
    ∃ session, T.ReceiverAt .waitForDataTransferPacket 0 0 0 session ∧
      processMessage T.receiverConfiguration (T.receiverEnvironment moment.now)
          ((announceFrame T).toMessage T.senderWorld moment.timestampUs) KeyedTable.empty =
        (KeyedTable.single T.key (some session), []) := by
  refine ⟨_, T.receiverAt_new moment.now .waitForDataTransferPacket (show 0 < (0xFF : UInt8)
    by decide), ?_⟩
  have haddressed : Addressed (T.receiverEnvironment moment.now) T.key
      ((announceFrame T).toMessage T.senderWorld moment.timestampUs) :=
    T.addressed_receiver moment rfl rfl rfl
  rw [processMessage_connectionManagement haddressed (group_managementFrame _ _ _ _ _ _ _ _ _ _),
    show T.key.destination = none from hd]
  dsimp only
  have hgroup : ((announceFrame T).toMessage T.senderWorld moment.timestampUs).getUint24At 5 =
      T.parameterGroupNumber := getUint24At_managementFrame _ _ _ _ _ _ _ _ _ T.group_lt
  have hlength : ((announceFrame T).toMessage T.senderWorld moment.timestampUs).getUint16At 1 =
      UInt16.ofNat T.data.length := decode16_byteOf _
  have hmultiplexor : ((announceFrame T).toMessage T.senderWorld
      moment.timestampUs).getUint8At 0 = BROADCAST_ANNOUNCE_MESSAGE_MULTIPLEXOR := if_pos hd
  have hcount : ((announceFrame T).toMessage T.senderWorld moment.timestampUs).getUint8At 3 =
      UInt8.ofNat T.packets := rfl
  have hkey : (⟨T.key.source, none⟩ : SessionKey) = T.key := by rw [Transfer.key, hd]
  have hlong : ¬(UInt16.ofNat T.data.length).toNat > MAX_PROTOCOL_DATA_LENGTH := by
    rw [T.toNat_length]
    exact Nat.not_lt.mpr T.length_range.2
  rw [if_pos hmultiplexor, hgroup, hlength, hcount]
  unfold processBroadcastAnnounceMessage
  rw [sessionsFull_empty, hkey]
  dsimp only
  rw [if_neg Bool.false_ne_true, if_neg hlong, T.getTotalNumberOfPackets_receiveSession_eq,
    if_neg (not_not.mpr rfl), KeyedTable.dispatch_of_lookup_none _ (KeyedTable.lookup_empty _)]
  dsimp only
  have hwait : timeoutMs T.key ((receiveSession T.parameterGroupNumber
      (UInt16.ofNat T.data.length) 0xFF).setState moment.now .waitForDataTransferPacket) =
      some T1_TIMEOUT_MS := if_pos hd
  have htime : moment.now - moment.now ≤ T1_TIMEOUT_MS := by
    rw [UInt32.sub_self]
    decide
  rw [openSession_empty, T.now_receiverEnvironment, updateStateMachine_of_inTime hwait htime]
  rfl

theorem processMessage_dataFrame (T : TransportTransfer) (moment : Moment) (number : Nat)
    (session : TransportProtocolSession) :
    processMessage T.receiverConfiguration (T.receiverEnvironment moment.now)
        ((T.dataFrame number).toMessage T.senderWorld moment.timestampUs)
        (KeyedTable.single T.key (some session)) =
      (KeyedTable.single T.key (session.receiveDataTransfer (T.receiverEnvironment moment.now)
          T.key ((T.dataFrame number).toMessage T.senderWorld moment.timestampUs)).1,
        (session.receiveDataTransfer (T.receiverEnvironment moment.now) T.key
          ((T.dataFrame number).toMessage T.senderWorld moment.timestampUs)).2) := by
  have haddressed : Addressed (T.receiverEnvironment moment.now) T.key
      ((T.dataFrame number).toMessage T.senderWorld moment.timestampUs) :=
    T.addressed_receiver moment rfl rfl (by simp [dataFrame, PROTOCOL_BYTES_PER_FRAME,
      CAN_DATA_LENGTH])
  rw [processMessage_dataTransfer haddressed (T.group_dataFrame number _),
    KeyedTable.dispatch_single]
  rfl

theorem processMessage_clearToSend (moment : Moment) {granted' : Nat}
    (hd : T.destination = some d)
    (h : T.SenderAt .waitForClearToSend acknowledged granted last session) (hpos : 0 < granted')
    (hle : last + granted' ≤ T.packets) :
    ∃ session', T.SenderAt .sendDataTransferPackets last granted' last session' ∧
      processMessage T.senderConfiguration (T.senderEnvironment moment.now)
          ((grantFrame T granted' last).toMessage T.receiverWorld moment.timestampUs)
          (KeyedTable.single T.key (some session)) =
        (KeyedTable.single T.key (some session'), []) := by
  have haddressed : Addressed (T.senderEnvironment moment.now) ⟨d, some T.source⟩
      ((grantFrame T granted' last).toMessage T.receiverWorld moment.timestampUs) :=
    T.addressed_sender moment hd rfl rfl rfl
  have hmultiplexor : ((grantFrame T granted' last).toMessage T.receiverWorld
      moment.timestampUs).getUint8At 0 = CLEAR_TO_SEND_MULTIPLEXOR := rfl
  have hgroup : ((grantFrame T granted' last).toMessage T.receiverWorld
      moment.timestampUs).getUint24At 5 = T.parameterGroupNumber :=
    getUint24At_managementFrame _ _ _ _ _ _ _ _ _ T.group_lt
  have hcount : ((grantFrame T granted' last).toMessage T.receiverWorld
      moment.timestampUs).getUint8At 1 = UInt8.ofNat granted' := rfl
  have hnext : ((grantFrame T granted' last).toMessage T.receiverWorld
      moment.timestampUs).getUint8At 2 = UInt8.ofNat (last + 1) := rfl
  have hkey : (⟨T.source, some d⟩ : SessionKey) = T.key := by rw [Transfer.key, hd]
  obtain ⟨session', hsender, hreceive⟩ := receiveClearToSend_eq h moment.now hpos hle
  refine ⟨session', hsender, ?_⟩
  rw [processMessage_connectionManagement haddressed (group_managementFrame _ _ _ _ _ _ _ _ _ _)]
  dsimp only
  rw [hmultiplexor, if_neg (by decide), if_pos rfl, hgroup, hcount, hnext]
  unfold processClearToSend
  rw [hkey, KeyedTable.dispatch_single]
  simp only [Option.bind_some, Option.map_some, Option.getD_some]
  rw [if_neg (not_not.mpr h.group_eq), hreceive]

theorem processMessage_acknowledge (moment : Moment) (hd : T.destination = some d)
    (h : T.SenderAt .waitForEndOfMessageAcknowledge acknowledged granted last session) :
    processMessage T.senderConfiguration (T.senderEnvironment moment.now)
        ((acknowledgeFrame T).toMessage T.receiverWorld moment.timestampUs)
        (KeyedTable.single T.key (some session)) =
      (KeyedTable.single T.key none, [.transmitComplete (T.completion true)]) := by
  have haddressed : Addressed (T.senderEnvironment moment.now) ⟨d, some T.source⟩
      ((acknowledgeFrame T).toMessage T.receiverWorld moment.timestampUs) :=
    T.addressed_sender moment hd rfl rfl rfl
  have hkey : (⟨T.source, some d⟩ : SessionKey) = T.key := by rw [Transfer.key, hd]
  have hmultiplexor : ((acknowledgeFrame T).toMessage T.receiverWorld
      moment.timestampUs).getUint8At 0 = END_OF_MESSAGE_ACKNOWLEDGE_MULTIPLEXOR := rfl
  rw [processMessage_connectionManagement haddressed (group_managementFrame _ _ _ _ _ _ _ _ _ _)]
  dsimp only
  rw [hmultiplexor, if_neg (by decide), if_neg (by decide), if_pos rfl]
  unfold processEndOfSessionAcknowledgement
  rw [hkey, KeyedTable.dispatch_single]
  simp only [Option.bind_some, Option.map_some, Option.getD_some]
  rw [receiveEndOfMessageAcknowledge, if_pos h.state_eq, closeSession_eq h]

inductive Broadcaster (T : TransportTransfer) :
    Nat → Option TransportProtocolSession → List Completion → Prop
  | sending {last : Nat} {session : TransportProtocolSession} (hlt : last < T.packets)
      (h : T.SenderAt .sendDataTransferPackets 0 0 last session) :
      Broadcaster T last (some session) []
  | finished : Broadcaster T T.packets none [T.completion true]

inductive Phase (T : TransportTransfer) (link : Link ActiveSessions ActiveSessions Event
    TransmitFrame) : Prop
  | requested {sender : TransportProtocolSession} (hdestination : T.destination ≠ none)
      (hsender : T.SenderAt .waitForClearToSend 0 0 0 sender)
      (h : T.LinkAt (some sender) none [announceFrame T] [] [] [] link)
  | granted {sender receiver : TransportProtocolSession} {acknowledged granted granted' last : Nat}
      (hdestination : T.destination ≠ none)
      (hsender : T.SenderAt .waitForClearToSend acknowledged granted last sender)
      (hpos : 0 < granted') (hle : last + granted' ≤ T.packets)
      (hreceiver : T.ReceiverAt .waitForDataTransferPacket last granted' last receiver)
      (h : T.LinkAt (some sender) (some receiver) [] [grantFrame T granted' last] [] [] link)
  /-- Packet `i` arrived, packet `j` is out, and the window is not through. -/
  | streaming {sender receiver : TransportProtocolSession} {acknowledged granted i j : Nat}
      (hdestination : T.destination ≠ none)
      (hsender : T.SenderAt (senderState T acknowledged granted j) acknowledged granted j sender)
      (hreceiver : T.ReceiverAt .waitForDataTransferPacket acknowledged granted i receiver)
      (hlo : acknowledged ≤ i) (hij : i ≤ j) (hj : j ≤ acknowledged + granted)
      (hi : i < acknowledged + granted) (hle : acknowledged + granted ≤ T.packets)
      (h : T.LinkAt (some sender) (some receiver) (framesBetween T.dataFrame i j) [] [] [] link)
  | acknowledged {sender : TransportProtocolSession} {acknowledged granted : Nat}
      {message : CANMessage} (hdestination : T.destination ≠ none)
      (hsender : T.SenderAt .waitForEndOfMessageAcknowledge acknowledged granted T.packets sender)
      (hdata : message.data = T.data)
      (h : T.LinkAt (some sender) none [] [acknowledgeFrame T] [message] [] link)
  | announced {sender : Option TransportProtocolSession} {completions : List Completion} {j : Nat}
      (hdestination : T.destination = none) (hsender : Broadcaster T j sender completions)
      (h : T.LinkAt sender none (announceFrame T :: framesBetween T.dataFrame 0 j) []
          [] completions link)
  | broadcasting {sender : Option TransportProtocolSession} {receiver : TransportProtocolSession}
      {completions : List Completion} {i j : Nat} (hdestination : T.destination = none)
      (hsender : Broadcaster T j sender completions)
      (hreceiver : T.ReceiverAt .waitForDataTransferPacket 0 0 i receiver) (hij : i ≤ j)
      (hi : i < T.packets)
      (h : T.LinkAt sender (some receiver) (framesBetween T.dataFrame i j) [] [] completions link)
  /-- Everything is over. -/
  | done {message : CANMessage} (hdata : message.data = T.data)
      (h : T.LinkAt none none [] [] [message] [T.completion true] link)

abbrev protocolWiring (T : TransportTransfer) :
    Wiring ActiveSessions ActiveSessions Input Event TransmitFrame Moment :=
  T.wiring (transportProtocolManager T.senderConfiguration)
    (transportProtocolManager T.receiverConfiguration)

variable {link : Link ActiveSessions ActiveSessions Event TransmitFrame} {moment : Moment}

theorem step_update {config : CANNetworkConfiguration} {env : Environment}
    {session' : Option TransportProtocolSession} {events : List Event}
    (h : session.update config env T.key = (session', events)) :
    (transportProtocolManager config).step (KeyedTable.single T.key (some session))
        ⟨env, .update⟩ = (KeyedTable.single T.key session', events) := by
  change update config env _ = _
  rw [update_single]
  simp [h]

theorem step_processMessage {config : CANNetworkConfiguration} {env : Environment}
    {message : CANMessage} {sessions : ActiveSessions} {reply : Reply}
    (h : processMessage config env message sessions = reply) :
    (transportProtocolManager config).step sessions ⟨env, .processMessage message⟩ =
      reply := h

theorem step_update_none {config : CANNetworkConfiguration} {env : Environment} :
    (transportProtocolManager config).step (KeyedTable.single T.key none) ⟨env, .update⟩ =
      (KeyedTable.single T.key none, []) := rfl

variable {i j : Nat}

theorem Broadcaster.callSender {sender : Option TransportProtocolSession}
    {completions : List Completion} {receiver : Option TransportProtocolSession}
    (front : List TransmitFrame) (hdestination : T.destination = none)
    (hsender : Broadcaster T j sender completions) (hij : i ≤ j)
    (h : T.LinkAt sender receiver (front ++ framesBetween T.dataFrame i j) [] [] completions link) :
    ∃ sender' completions' j', j ≤ j' ∧ Broadcaster T j' sender' completions' ∧
      T.LinkAt sender' receiver (front ++ framesBetween T.dataFrame i j') [] [] completions'
        ((protocolWiring T).callSender link ((protocolWiring T).senderTick moment)) := by
  cases hsender with
  | finished =>
    exact ⟨_, _, _, Nat.le_refl _, .finished, h.callSender_idle step_update_none⟩
  | sending hlt hsession =>
    rename_i session
    by_cases hearly : moment.now - session.timestamp <
        T.senderConfiguration.minimumTimeBetweenTransportProtocolBAMFrames
    · exact ⟨_, _, _, Nat.le_refl _, .sending hlt hsession,
        h.callSender_idle (step_update (update_broadcast_early hdestination hsession hearly))⟩
    · obtain ⟨session', hsession', heq⟩ := update_broadcast_due hdestination hsession hearly hlt
      have hframes : framesBetween T.dataFrame i (j + 1) =
          framesBetween T.dataFrame i j ++ [T.dataFrame (j + 1)] := by
        rw [← framesBetween_append T.dataFrame hij (Nat.le_succ j),
            framesBetween_of_lt T.dataFrame (Nat.lt_succ_self j),
          framesBetween_self]
      split_ifs at heq with hend
      · refine ⟨none, [T.completion true], j + 1, Nat.le_succ j, hend ▸ .finished, ?_⟩
        rw [hframes, ← List.append_assoc]
        exact h.callSender (step_update heq) rfl rfl
      · refine ⟨some session', [], j + 1, Nat.le_succ j, .sending (by omega) hsession', ?_⟩
        rw [hframes, ← List.append_assoc]
        exact h.callSender (step_update heq) rfl rfl

theorem senderState_of_lt (hj : j < acknowledged + granted)
    (hle : acknowledged + granted ≤ T.packets) :
    senderState T acknowledged granted j = .sendDataTransferPackets := by
  rw [senderState, if_neg (by omega), if_neg (by omega)]

theorem senderState_of_eq (T : TransportTransfer) (hj : j = acknowledged + granted) :
    senderState T acknowledged granted j = .waitForClearToSend ∨
      senderState T acknowledged granted j = .waitForEndOfMessageAcknowledge := by
  rw [senderState, if_pos hj]
  split_ifs
  · exact .inr rfl
  · exact .inl rfl

theorem phase_senderTick (h : Phase T link) (htime : InTime link.sender moment) :
    Phase T ((protocolWiring T).callSender link ((protocolWiring T).senderTick moment)) := by
  have hintime {sender : TransportProtocolSession} {receiver : Option TransportProtocolSession}
      {toReceiver toSender : List TransmitFrame} {messages : List CANMessage}
      {completions : List Completion}
      (h : T.LinkAt (some sender) receiver toReceiver toSender messages completions link) :
      ∀ limit ∈ timeoutMs T.key sender, moment.now - sender.timestamp ≤ limit := by
    rw [h.sender_eq] at htime
    exact inTime_single.mp htime
  cases h with
  | requested hdestination hsender h =>
    exact .requested hdestination hsender
      (h.callSender_idle (step_update (update_sender_of_inTime hsender (.inl rfl) (hintime h))))
  | granted hdestination hsender hpos hle hreceiver h =>
    exact .granted hdestination hsender hpos hle hreceiver
      (h.callSender_idle (step_update (update_sender_of_inTime hsender (.inl rfl) (hintime h))))
  | streaming hdestination hsender hreceiver hlo hij hj hi hle h =>
    rename_i sender receiver acknowledged granted i j
    rcases Nat.lt_or_ge j (acknowledged + granted) with hlt | hge
    · rw [senderState_of_lt hlt hle] at hsender
      obtain ⟨j', sender', hlt', hle', hsender', heq⟩ := update_sender_window hdestination
        hsender moment.now (by omega) hlt hle
      refine .streaming hdestination hsender' hreceiver hlo (by omega) hle' hi hle
        (h.callSender (step_update heq) ?_ ?_)
      · rw [filterMap_sentFrame_sentEvents,
          framesBetween_append T.dataFrame hij (Nat.le_of_lt hlt')]
      · rw [filterMap_completedTransmit_sentEvents, List.append_nil]
    · have hwait := senderState_of_eq T (show j = acknowledged + granted by omega)
      exact .streaming hdestination hsender hreceiver hlo hij hj hi hle
        (h.callSender_idle (step_update (update_sender_of_inTime hsender hwait (hintime h))))
  | acknowledged hdestination hsender hdata h =>
    exact .acknowledged hdestination hsender hdata
      (h.callSender_idle (step_update (update_sender_of_inTime hsender (.inr rfl) (hintime h))))
  | announced hdestination hsender h =>
    obtain ⟨sender', completions', j', -, hsender', h'⟩ :=
      hsender.callSender [announceFrame T] hdestination (Nat.zero_le _) h
    exact .announced hdestination hsender' h'
  | broadcasting hdestination hsender hreceiver hij hi h =>
    obtain ⟨sender', completions', j', hle, hsender', h'⟩ :=
      hsender.callSender [] hdestination hij h
    exact .broadcasting hdestination hsender' hreceiver (by omega) hi h'
  | done hdata h => exact .done hdata (h.callSender_idle step_update_none)

theorem phase_receiverTick (h : Phase T link) (htime : InTime link.receiver moment) :
    Phase T ((protocolWiring T).callReceiver link ((protocolWiring T).receiverTick moment)) := by
  have hintime {sender : Option TransportProtocolSession} {receiver : TransportProtocolSession}
      {toReceiver toSender : List TransmitFrame} {messages : List CANMessage}
      {completions : List Completion}
      (h : T.LinkAt sender (some receiver) toReceiver toSender messages completions link) :
      ∀ limit ∈ timeoutMs T.key receiver, moment.now - receiver.timestamp ≤ limit := by
    rw [h.receiver_eq] at htime
    exact inTime_single.mp htime
  cases h with
  | requested hdestination hsender h =>
    exact .requested hdestination hsender (h.callReceiver_idle step_update_none)
  | granted hdestination hsender hpos hle hreceiver h =>
    exact .granted hdestination hsender hpos hle hreceiver
      (h.callReceiver_idle (step_update (update_receiver_of_inTime hreceiver (hintime h))))
  | streaming hdestination hsender hreceiver hlo hij hj hi hle h =>
    exact .streaming hdestination hsender hreceiver hlo hij hj hi hle
      (h.callReceiver_idle (step_update (update_receiver_of_inTime hreceiver (hintime h))))
  | acknowledged hdestination hsender hdata h =>
    exact .acknowledged hdestination hsender hdata (h.callReceiver_idle step_update_none)
  | announced hdestination hsender h =>
    exact .announced hdestination hsender (h.callReceiver_idle step_update_none)
  | broadcasting hdestination hsender hreceiver hij hi h =>
    exact .broadcasting hdestination hsender hreceiver hij hi
      (h.callReceiver_idle (step_update (update_receiver_of_inTime hreceiver (hintime h))))
  | done hdata h => exact .done hdata (h.callReceiver_idle step_update_none)

theorem phase_senderHears {rest : List TransmitFrame} (h : Phase T link)
    (hqueue : link.toSender = frame :: rest) :
    Phase T ((protocolWiring T).callSender { link with toSender := rest }
      ((protocolWiring T).senderHears moment frame)) := by
  cases h with
  | requested hdestination hsender h => exact absurd hqueue h.nil_toSender
  | granted hdestination hsender hpos hle hreceiver h =>
    rename_i granted' last
    obtain ⟨d, hd⟩ := Option.ne_none_iff_exists'.mp hdestination
    obtain ⟨rfl, h⟩ := h.takeToSender hqueue
    obtain ⟨sender', hsender', heq⟩ := processMessage_clearToSend moment hd hsender hpos hle
    rw [← senderState_of_lt (show last < last + granted' by omega) hle] at hsender'
    exact .streaming hdestination hsender' hreceiver (Nat.le_refl _) (Nat.le_refl _)
      (by omega) (by omega) hle
      (h.callSender (step_processMessage heq) (framesBetween_self T.dataFrame last).symm rfl)
  | streaming hdestination hsender hreceiver hlo hij hj hi hle h =>
    exact absurd hqueue h.nil_toSender
  | acknowledged hdestination hsender hdata h =>
    obtain ⟨d, hd⟩ := Option.ne_none_iff_exists'.mp hdestination
    obtain ⟨rfl, h⟩ := h.takeToSender hqueue
    exact .done hdata (h.callSender (step_processMessage
      (processMessage_acknowledge moment hd hsender)) rfl rfl)
  | announced hdestination hsender h => exact absurd hqueue h.nil_toSender
  | broadcasting hdestination hsender hreceiver hij hi h => exact absurd hqueue h.nil_toSender
  | done hdata h => exact absurd hqueue h.nil_toSender

theorem processMessage_nextDataFrame
    (h : T.ReceiverAt .waitForDataTransferPacket acknowledged granted i session)
    (hlt : i < T.packets) (moment : Moment) :
    ∃ session', T.ReceiverAt .waitForDataTransferPacket acknowledged granted (i + 1) session' ∧
      processMessage T.receiverConfiguration (T.receiverEnvironment moment.now)
          ((T.dataFrame (i + 1)).toMessage T.senderWorld moment.timestampUs)
          (KeyedTable.single T.key (some session)) =
        (KeyedTable.single T.key (session'.afterPacket (T.receiverEnvironment moment.now) T.key
            moment.timestampUs).1,
          (session'.afterPacket (T.receiverEnvironment moment.now) T.key
            moment.timestampUs).2) := by
  have hdata : ((T.dataFrame (i + 1)).toMessage T.senderWorld moment.timestampUs).data =
      (T.dataFrame (i + 1)).data := rfl
  obtain ⟨session', hreceiver, heq⟩ := receiveDataTransfer_eq h moment.now hlt hdata
  refine ⟨session', hreceiver, ?_⟩
  rw [processMessage_dataFrame, heq]
  rfl

theorem ctsRemaining_ne_zero_of_broadcast (h : T.ReceiverAt state 0 0 (i + 1) session)
    (hlt : i + 1 < 256) :
    session.getCtsNumberOfPacketsRemaining ≠ 0 := by
  have hcount : session.clearToSendPacketCount = 0 := eq_zero_iff_toNat.mpr h.granted_eq
  have hacknowledged : session.lastAcknowledgedPacketNumber = 0 :=
    eq_zero_iff_toNat.mpr h.acknowledged_eq
  have hlast : session.lastSequenceNumber ≠ 0 := by
    rw [Ne, eq_zero_iff_toNat, h.last_eq]
    omega
  unfold getCtsNumberOfPacketsRemaining getLastPacketNumber
  rw [hcount, hacknowledged]
  simpa using hlast

theorem phase_receiverHears {rest : List TransmitFrame} (h : Phase T link)
    (hqueue : link.toReceiver = frame :: rest) :
    Phase T ((protocolWiring T).callReceiver { link with toReceiver := rest }
      ((protocolWiring T).receiverHears moment frame)) := by
  have hpackets := T.packets_range
  cases h with
  | requested hdestination hsender h =>
    obtain ⟨d, hd⟩ := Option.ne_none_iff_exists'.mp hdestination
    obtain ⟨rfl, h⟩ := h.takeToReceiver hqueue
    obtain ⟨granted', receiver, hpos, hle, hreceiver, heq⟩ :=
      T.processMessage_requestToSend moment hd
    exact .granted hdestination hsender hpos (by omega) hreceiver
      (h.callReceiver (step_processMessage heq) rfl rfl)
  | granted hdestination hsender hpos hle hreceiver h => exact absurd hqueue h.nil_toReceiver
  | streaming hdestination hsender hreceiver hlo hij hj hi hle h =>
    rename_i sender receiver acknowledged granted i j
    rcases Nat.lt_or_ge i j with hlt | hge
    swap
    · rw [show i = j by omega, framesBetween_self] at h
      exact absurd hqueue h.nil_toReceiver
    rw [framesBetween_of_lt T.dataFrame hlt] at h
    obtain ⟨rfl, h⟩ := h.takeToReceiver hqueue
    obtain ⟨receiver', hreceiver', heq⟩ :=
      processMessage_nextDataFrame hreceiver (by omega) moment
    by_cases hend : i + 1 = T.packets
    · -- The last packet: it was also the last one that was sent.
      obtain rfl : j = T.packets := by omega
      rw [hend] at hreceiver'
      obtain ⟨message, hdata, hafter⟩ :=
        afterPacket_last hreceiver' moment.now moment.timestampUs
      rw [hafter, if_neg hdestination] at heq
      rw [senderState, if_pos rfl] at hsender
      rw [hend, framesBetween_self] at h
      exact .acknowledged hdestination hsender hdata
        (h.callReceiver (step_processMessage heq) rfl rfl)
    · obtain ⟨hinside, hover⟩ :=
        afterPacket_middle hreceiver' moment.now moment.timestampUs (by omega)
      have hwindow := toNat_ctsRemaining hreceiver'.acknowledged_eq hreceiver'.granted_eq
        hreceiver'.last_eq (by omega) (by omega)
      by_cases hthrough : i + 1 = acknowledged + granted
      · -- The window is through, so the sender waits for the next one.
        obtain rfl : j = acknowledged + granted := by omega
        obtain ⟨granted', receiver'', hpos, hle', hreceiver'', hafter⟩ :=
          hover (by rw [eq_zero_iff_toNat, hwindow]; omega)
        rw [hafter] at heq
        rw [senderState, if_neg (by omega), if_pos rfl, ← hthrough] at hsender
        rw [hthrough, framesBetween_self] at h
        exact .granted hdestination hsender hpos hle' hreceiver''
          (h.callReceiver (step_processMessage heq) rfl rfl)
      · rw [hinside (by rw [Ne, eq_zero_iff_toNat, hwindow]; omega)] at heq
        exact .streaming hdestination hsender hreceiver' (by omega) hlt hj (by omega) hle
          (h.callReceiver (step_processMessage heq) rfl rfl)
  | acknowledged hdestination hsender hdata h => exact absurd hqueue h.nil_toReceiver
  | announced hdestination hsender h =>
    obtain ⟨rfl, h⟩ := h.takeToReceiver hqueue
    obtain ⟨receiver, hreceiver, heq⟩ := T.processMessage_broadcastAnnounce moment hdestination
    exact .broadcasting hdestination hsender hreceiver (Nat.zero_le _) (by omega)
      (h.callReceiver (step_processMessage heq) rfl rfl)
  | broadcasting hdestination hsender hreceiver hij hi h =>
    rename_i sender receiver completions i j
    rcases Nat.lt_or_ge i j with hlt | hge
    swap
    · rw [show i = j by omega, framesBetween_self] at h
      exact absurd hqueue h.nil_toReceiver
    rw [framesBetween_of_lt T.dataFrame hlt] at h
    obtain ⟨rfl, h⟩ := h.takeToReceiver hqueue
    obtain ⟨receiver', hreceiver', heq⟩ := processMessage_nextDataFrame hreceiver hi moment
    by_cases hend : i + 1 = T.packets
    · rw [hend] at hreceiver'
      obtain ⟨message, hdata, hafter⟩ :=
        afterPacket_last hreceiver' moment.now moment.timestampUs
      rw [hafter, if_pos hdestination] at heq
      cases hsender with
      | sending hlt' hsession => omega
      | finished =>
        rw [hend, framesBetween_self] at h
        exact .done hdata (h.callReceiver (step_processMessage heq) rfl rfl)
    · have hinside := (afterPacket_middle hreceiver' moment.now moment.timestampUs
        (by omega)).1 (ctsRemaining_ne_zero_of_broadcast hreceiver' (by omega))
      rw [hinside] at heq
      exact .broadcasting hdestination hsender hreceiver' hlt (by omega)
        (h.callReceiver (step_processMessage heq) rfl rfl)
  | done hdata h => exact absurd hqueue h.nil_toReceiver

abbrev startLink (T : TransportTransfer) (now : UInt32) :
    Link ActiveSessions ActiveSessions Event TransmitFrame :=
  T.start (transportProtocolManager T.senderConfiguration)
    (transportProtocolManager T.receiverConfiguration) KeyedTable.empty now

theorem phase_start (T : TransportTransfer) (now : UInt32) : Phase T (startLink T now) := by
  have hidle : T.LinkAt (none : Option TransportProtocolSession) none [] [] [] []
      ⟨KeyedTable.empty, KeyedTable.empty, [], [], [], []⟩ := ⟨rfl, rfl, rfl, rfl, rfl, rfl⟩
  obtain ⟨session, hsender, heq⟩ := T.protocolTransmitMessage_eq now
  have hstep : (transportProtocolManager T.senderConfiguration).step
      (KeyedTable.single T.key none)
      ⟨T.senderEnvironment now, .protocolTransmitMessage T.request⟩ =
        (KeyedTable.single T.key (some session),
          [.frame (announceFrame T) true, .transmitAnswered true]) := heq
  by_cases hd : T.destination = none
  · rw [if_pos hd] at hsender
    have hpackets := T.packets_range
    refine .announced hd (.sending (show 0 < T.packets by omega) hsender) ?_
    rw [framesBetween_self]
    exact hidle.callSender hstep rfl rfl
  · rw [if_neg hd] at hsender
    exact .requested hd hsender (hidle.callSender hstep rfl rfl)

theorem phase_run (T : TransportTransfer) (now : UInt32) (schedule : List (Turn Moment))
    (htime : (protocolWiring T).machine.Along (Wiring.TickOk InTime InTime) (startLink T now)
      schedule) :
    Phase T ((protocolWiring T).machine.run (startLink T now) schedule) :=
  Wiring.invariant_run (fun _ _ h htick => phase_senderTick h htick)
    (fun _ _ h htick => phase_receiverTick h htick)
    (fun _ _ _ _ h hqueue => phase_senderHears h hqueue)
    (fun _ _ _ _ h hqueue => phase_receiverHears h hqueue) (T.phase_start now) schedule htime

theorem emits_senderTick {session' : Option TransportProtocolSession} {events : List Event}
    (h : session.update T.senderConfiguration (T.senderEnvironment moment.now) T.key =
      (session', events)) :
    (protocolWiring T).sender.emits (KeyedTable.single T.key (some session))
      ((protocolWiring T).senderTick moment) = events :=
  congrArg Prod.snd (step_update h)

theorem Broadcaster.sends {last : Nat} {session : TransportProtocolSession}
    (hdestination : T.destination = none)
    (h : T.SenderAt .sendDataTransferPackets 0 0 last session) (hlt : last < T.packets) :
    ∃ moment, InTime (KeyedTable.single T.key (some session)) moment ∧
      (((protocolWiring T).sender.emits (KeyedTable.single T.key (some session))
        ((protocolWiring T).senderTick moment)).filterMap Transfer.sentFrame) ≠ [] := by
  let gap := T.senderConfiguration.minimumTimeBetweenTransportProtocolBAMFrames
  refine ⟨⟨session.timestamp + gap, 0⟩, inTime_single.mpr ?_, ?_⟩
  · intro limit hlimit
    simp [timeoutMs, h.state_eq] at hlimit
  · have hdue : ¬session.timestamp + gap - session.timestamp < gap := by
      rw [UInt32.add_comm, UInt32.add_sub_cancel]
      exact UInt32.lt_irrefl gap
    obtain ⟨session', -, heq⟩ := update_broadcast_due hdestination h hdue hlt
    split_ifs at heq
    · rw [emits_senderTick heq]
      simp [Transfer.sentFrame]
    · rw [emits_senderTick heq]
      simp [Transfer.sentFrame]

theorem done_of_phase (h : Phase T link)
    (hquiet : (protocolWiring T).Quiescent InTime InTime link) : T.Done link := by
  have hsilent (moment : Moment) (htime : InTime link.sender moment) :=
    hquiet.sender moment htime
  cases h with
  | requested hdestination hsender h => exact absurd hquiet.toReceiver h.toReceiver_ne_nil
  | granted hdestination hsender hpos hle hreceiver h =>
    exact absurd hquiet.toSender h.toSender_ne_nil
  | streaming hdestination hsender hreceiver hlo hij hj hi hle h =>
    rename_i sender receiver acknowledged granted i j
    exfalso
    rcases Nat.lt_or_ge i j with hlt | hge
    · rw [framesBetween_of_lt T.dataFrame hlt] at h
      exact h.toReceiver_ne_nil hquiet.toReceiver
    -- Everything that was sent arrived, so an update sends more.
    have hopen : j < acknowledged + granted := by omega
    rw [senderState_of_lt hopen hle] at hsender
    obtain ⟨j', sender', hlt', -, -, heq⟩ := update_sender_window hdestination hsender 0
      (by omega) hopen hle
    rw [h.sender_eq] at hsilent
    have hnone := hsilent ⟨0, 0⟩ (inTime_single.mpr fun limit hlimit => by
      simp [timeoutMs, hsender.state_eq] at hlimit)
    rw [emits_senderTick heq] at hnone
    change List.filterMap Transfer.sentFrame _ = [] at hnone
    rw [filterMap_sentFrame_sentEvents, framesBetween_of_lt T.dataFrame hlt'] at hnone
    exact absurd hnone (List.cons_ne_nil _ _)
  | acknowledged hdestination hsender hdata h => exact absurd hquiet.toSender h.toSender_ne_nil
  | announced hdestination hsender h => exact absurd hquiet.toReceiver h.toReceiver_ne_nil
  | broadcasting hdestination hsender hreceiver hij hi h =>
    rename_i sender receiver completions i j
    exfalso
    rcases Nat.lt_or_ge i j with hlt | hge
    · rw [framesBetween_of_lt T.dataFrame hlt] at h
      exact h.toReceiver_ne_nil hquiet.toReceiver
    cases hsender with
    | finished => omega
    | sending hlt hsession =>
      obtain ⟨moment, htime, hsends⟩ := Broadcaster.sends hdestination hsession hlt
      rw [← h.sender_eq] at htime hsends
      exact hsends (hsilent moment htime)
  | done hdata h =>
    refine ⟨⟨_, h.messages_eq, hdata⟩, h.completions_eq, ?_, ?_⟩
    · rw [h.sender_eq, KeyedTable.lookup_single_self]
    · rw [h.receiver_eq, KeyedTable.lookup_single_self]

/-- In every timely run, a link on which nothing more can happen has carried the message. -/
theorem done_of_quiescent (T : TransportTransfer) (now : UInt32) (schedule : List (Turn Moment))
    (htime : (protocolWiring T).machine.Along (Wiring.TickOk InTime InTime) (startLink T now)
      schedule)
    (hquiet : (protocolWiring T).Quiescent InTime InTime
      ((protocolWiring T).machine.run (startLink T now) schedule)) :
    T.Done ((protocolWiring T).machine.run (startLink T now) schedule) :=
  done_of_phase (T.phase_run now schedule htime) hquiet

theorem quiescent_of_empty (hsender : link.sender.entries = [])
    (hreceiver : link.receiver.entries = []) (htoReceiver : link.toReceiver = [])
    (htoSender : link.toSender = []) : (protocolWiring T).Quiescent InTime InTime link where
  toReceiver := htoReceiver
  toSender := htoSender
  sender moment _ := by
    rw [show link.sender = KeyedTable.empty from KeyedTable.ext hsender]
    rfl
  receiver moment _ := by
    rw [show link.receiver = KeyedTable.empty from KeyedTable.ext hreceiver]
    rfl

def otherNode : CFRef := 0
def ownNode : CFRef := 1
def proprietaryGroup : UInt32 := 0xEF00

/-- The other node sends nine bytes to our control function. -/
def nineByteTransfer : TransportTransfer where
  senderConfiguration := { bam_gap_range := defaultGap_range }
  receiverConfiguration := { bam_gap_range := defaultGap_range }
  senderWorld := fun c =>
    if c = 0 then ⟨.internal, 0xA000, 0x28, 0⟩ else ⟨.partnered, 0xA001, 0x10, 0⟩
  receiverWorld := twoNodes
  parameterGroupNumber := proprietaryGroup
  data := [1, 2, 3, 4, 5, 6, 7, 8, 9]
  source := otherNode
  destination := some ownNode
  callback := 0
  parentPointer := 0
  group_lt := by decide
  source_valid_sender := by decide
  source_valid_receiver := by decide
  source_internal := by decide
  destination_valid_sender := by decide
  destination_valid_receiver := by decide
  destination_internal := by decide
  length_range := by decide
  sender_packets := by decide
  receiver_packets := by decide
  sender_frames := by decide
  free_slot := by decide

/-- The request, the clear to send, both packets in one update, and the acknowledgement. -/
def nineByteSchedule : List (Turn Moment) :=
  [.receiverHears ⟨0, 0⟩, .senderHears ⟨0, 0⟩, .senderTick ⟨5, 0⟩, .receiverHears ⟨5, 0⟩,
    .receiverHears ⟨6, 0⟩, .senderHears ⟨7, 0⟩]

theorem done_of_quiescent_nine_bytes :
    nineByteTransfer.Done ((protocolWiring nineByteTransfer).machine.run
      (startLink nineByteTransfer 0) nineByteSchedule) := by
  refine done_of_quiescent nineByteTransfer 0 nineByteSchedule ?_ ?_
  · refine ⟨trivial, trivial, ?_, trivial, trivial, trivial, trivial⟩
    change InTime _ _
    decide +kernel
  · exact quiescent_of_empty (by decide +kernel) (by decide +kernel) (by decide +kernel)
      (by decide +kernel)

end TransportTransfer

end Isobus.TransportProtocol
