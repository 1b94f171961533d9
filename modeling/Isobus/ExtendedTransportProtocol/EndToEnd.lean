import Isobus.ExtendedTransportProtocol.Link

namespace Isobus.ExtendedTransportProtocol

open Isobus.Can Isobus.Can.Transfer Isobus.Lib ExtendedTransportProtocolSession

theorem addressed_of_valid {env : Environment} {key : SessionKey} {message : CANMessage}
    {d : CFRef} (hsource : message.source = some key.source)
    (hvalid : (env.world key.source).getAddressValid = true)
    (hdestination : message.destination = key.destination) (hd : key.destination = some d)
    (haddress : (env.world d).getAddressValid = true)
    (hours : (env.world d).controlFunctionType = .internal)
    (hlength : message.data.length = CAN_DATA_LENGTH) : Addressed env key message := by
  refine ⟨hsource, hdestination, ?_, ?_, hlength⟩
  · simp [CANMessage.hasValidSourceControlFunction, hsource, hvalid]
  · simp [CANMessage.isDestinationOurDevice, CANMessage.hasValidDestinationControlFunction,
      hdestination.trans hd, haddress, hours]

variable {config : CANNetworkConfiguration} {env : Environment} {key : SessionKey}

theorem processMessage_management {source destination : CFRef} {message : CANMessage}
    {sessions : ActiveSessions} (h : Addressed env ⟨source, some destination⟩ message)
    (hgroup : message.identifier.getParameterGroupNumber =
      extendedTransportProtocolConnectionManagement) :
    processMessage config env message sessions =
      if message.getUint8At 0 = REQUEST_TO_SEND_MULTIPLEXOR then
        processRequestToSend config env source destination (message.getUint24At 5)
          (message.getUint32At 1) sessions
      else if message.getUint8At 0 = CLEAR_TO_SEND_MULTIPLEXOR then
        processClearToSend env source destination (message.getUint24At 5) (message.getUint8At 1)
          (message.getUint24At 2) sessions
      else if message.getUint8At 0 = DATA_PACKET_OFFSET_MULTIPLXOR then
        processDataPacketOffset env source destination (message.getUint24At 5)
          (message.getUint8At 1) (message.getUint24At 2) sessions
      else if message.getUint8At 0 = END_OF_MESSAGE_ACKNOWLEDGE_MULTIPLEXOR then
        processEndOfSessionAcknowledgement source destination (message.getUint32At 1) sessions
      else if message.getUint8At 0 = CONNECTION_ABORT_MULTIPLEXOR then
        processAbort source destination (message.getUint24At 5) sessions
      else (sessions, []) := by
  obtain ⟨-, -, -, -, hlength⟩ := id h
  rw [processMessage_connectionManagement h hgroup, processConnectionManagementMessage,
    if_neg (not_not.mpr hlength.symm)]

theorem openSession_empty (session : ExtendedTransportProtocolSession) :
    openSession config env key session KeyedTable.empty =
      (KeyedTable.single key (session.updateStateMachine config env key).1,
        (session.updateStateMachine config env key).2) := by
  rw [openSession, ← KeyedTable.single_none key, KeyedTable.push_single,
    KeyedTable.dispatch_single]
  rfl

theorem update_single (session : Option ExtendedTransportProtocolSession) :
    update config env (KeyedTable.single key session) =
      (KeyedTable.single key (session.bind fun s => (s.update config env key).1),
        (session.map fun s => (s.update config env key).2).getD []) :=
  KeyedTable.sweepBack_single key session _

theorem updateStateMachine_sendRequestToSend {session : ExtendedTransportProtocolSession}
    (hstate : session.state = .sendRequestToSend)
    (hsend : env.send (session.requestToSendFrame key) = true) :
    session.updateStateMachine config env key =
      (some (session.setState env.now .waitForClearToSend),
        [.frame (session.requestToSendFrame key) true]) := by
  unfold updateStateMachine Environment.offer
  rw [hstate]
  dsimp only
  rw [hsend]
  rfl

namespace ExtendedTransfer

variable {T : ExtendedTransfer} {state : StateMachineState} {last offset count done : Nat}
variable {session : ExtendedTransportProtocolSession}

theorem exists_key_eq (T : ExtendedTransfer) :
    ∃ d, T.destination = some d ∧ T.key = ⟨T.source, some d⟩ := by
  obtain ⟨d, hd⟩ := Option.ne_none_iff_exists'.mp T.destination_ne_none
  exact ⟨d, hd, by rw [Transfer.key, hd]⟩

theorem addressed_receiver (T : ExtendedTransfer) (moment : Moment) {frame : TransmitFrame}
    (hsource : frame.source = some T.source) (hdestination : frame.destination = T.destination)
    (hlength : frame.data.length = CAN_DATA_LENGTH) :
    Addressed (T.receiverEnvironment moment.now) T.key
      (frame.toMessage T.senderWorld moment.timestampUs) := by
  obtain ⟨d, hd, hkey⟩ := T.exists_key_eq
  exact addressed_of_valid hsource T.source_valid_receiver hdestination
    (show T.key.destination = some d from hd) (T.destination_valid_receiver d hd)
    (T.destination_internal d hd) hlength

theorem addressed_sender (T : ExtendedTransfer) (moment : Moment) {frame : TransmitFrame}
    {d : CFRef} (hd : T.destination = some d) (hsource : frame.source = T.destination)
    (hdestination : frame.destination = some T.source)
    (hlength : frame.data.length = CAN_DATA_LENGTH) :
    Addressed (T.senderEnvironment moment.now) ⟨d, some T.source⟩
      (frame.toMessage T.receiverWorld moment.timestampUs) :=
  addressed_of_valid (hsource.trans hd) (T.destination_valid_sender d hd) hdestination rfl
    T.source_valid_sender T.source_internal hlength

theorem group_managementFrame (world : World) (timestampUs : UInt64) (b₀ b₁ b₂ b₃ b₄ : UInt8)
    (group : UInt32) (source destination : Option CFRef) :
    ((connectionManagementFrame b₀ b₁ b₂ b₃ b₄ group source destination).toMessage world
      timestampUs).identifier.getParameterGroupNumber =
        extendedTransportProtocolConnectionManagement :=
  TransmitFrame.getParameterGroupNumber_toMessage world timestampUs _ (by
    change extendedTransportProtocolConnectionManagement ≠ 0; decide) (by
    change extendedTransportProtocolConnectionManagement &&& _ =
      extendedTransportProtocolConnectionManagement
    decide) (by
    change extendedTransportProtocolConnectionManagement <<< 8 &&& _ < _
    decide)

theorem group_dataFrame (T : ExtendedTransfer) (offset number : Nat) (timestampUs : UInt64) :
    ((T.dataFrame offset number).toMessage T.senderWorld
      timestampUs).identifier.getParameterGroupNumber = extendedTransportProtocolDataTransfer :=
  TransmitFrame.getParameterGroupNumber_toMessage _ timestampUs _ (by
    change extendedTransportProtocolDataTransfer ≠ 0; decide) (by
    change extendedTransportProtocolDataTransfer &&& _ = extendedTransportProtocolDataTransfer
    decide) (by
    change extendedTransportProtocolDataTransfer <<< 8 &&& _ < _
    decide)

theorem getUint24At_managementFrame (world : World) (timestampUs : UInt64)
    (b₀ b₁ b₂ b₃ b₄ : UInt8) {group : UInt32} (source destination : Option CFRef)
    (h : group.toNat < 2 ^ 24) :
    ((connectionManagementFrame b₀ b₁ b₂ b₃ b₄ group source destination).toMessage world
      timestampUs).getUint24At 5 = group :=
  decode24_byteOf group h

theorem getUint24At_packetNumber (world : World) (timestampUs : UInt64) (b₀ b₁ : UInt8)
    {number : Nat} (group : UInt32) (source destination : Option CFRef) (h : number < 2 ^ 24) :
    ((connectionManagementFrame b₀ b₁ (byteOf (UInt32.ofNat number) 0)
      (byteOf (UInt32.ofNat number) 1) (byteOf (UInt32.ofNat number) 2) group source
      destination).toMessage world timestampUs).getUint24At 2 = UInt32.ofNat number :=
  decode24_byteOf _ (by
    rw [UInt32.toNat_ofNat_of_lt' (by change number < 2 ^ 32; omega)]
    exact h)

def announceFrame (T : ExtendedTransfer) : TransmitFrame :=
  connectionManagementFrame REQUEST_TO_SEND_MULTIPLEXOR (byteOf (UInt32.ofNat T.data.length) 0)
    (byteOf (UInt32.ofNat T.data.length) 1) (byteOf (UInt32.ofNat T.data.length) 2)
    (byteOf (UInt32.ofNat T.data.length) 3) T.parameterGroupNumber (some T.source) T.destination

theorem toNat_length (T : ExtendedTransfer) :
    (UInt32.ofNat T.data.length).toNat = T.data.length := by
  have h := T.length_range.2
  simp only [MAX_PROTOCOL_DATA_LENGTH] at h
  exact UInt32.toNat_ofNat_of_lt' (by change T.data.length < 2 ^ 32; omega)

theorem protocolTransmitMessage_eq (T : ExtendedTransfer) (now : UInt32) :
    ∃ session, T.SenderAt .waitForClearToSend 0 session ∧
      protocolTransmitMessage T.senderConfiguration (T.senderEnvironment now) T.request
          KeyedTable.empty =
        (KeyedTable.single T.key (some session),
          [.frame (announceFrame T) true, .transmitAnswered true]) := by
  obtain ⟨hlo, hhi⟩ := T.length_range
  obtain ⟨d, hd, hkey⟩ := T.exists_key_eq
  have hlong : ¬(T.request.data.length ≤ 1785 ∨
      T.request.data.length > MAX_PROTOCOL_DATA_LENGTH) := by
    change ¬(T.data.length ≤ 1785 ∨ T.data.length > MAX_PROTOCOL_DATA_LENGTH)
    omega
  obtain ⟨new, hnew⟩ : ∃ new, new = transmitSession T.request
    (Nat.not_lt.mp fun h => hlong (.inr h)) := ⟨_, rfl⟩
  have hrequested : requestedSession (T.senderEnvironment now) T.request KeyedTable.empty =
      some (T.key, new.setState now .sendRequestToSend) := by
    unfold requestedSession
    rw [dif_neg hlong, show T.request.destination = some d from hd]
    change (if _ then _ else _) = _
    rw [if_pos ⟨T.source_valid_sender, T.destination_valid_sender d hd,
      KeyedTable.lookup_empty _⟩, hnew, hkey]
    rfl
  have hsender (state : StateMachineState) : T.SenderAt state 0 (new.setState now state) := by
    subst hnew
    exact ⟨rfl, rfl, rfl, rfl, rfl, rfl, rfl⟩
  have hframe : (new.setState now .sendRequestToSend).requestToSendFrame T.key =
      announceFrame T := by
    rw [requestToSendFrame, announceFrame, hnew]
    rfl
  unfold protocolTransmitMessage
  rw [hrequested]
  dsimp only
  rw [openSession_empty, updateStateMachine_sendRequestToSend rfl (T.send_senderEnvironment now _),
    hframe]
  exact ⟨_, hsender _, rfl⟩

theorem sessionsFull_empty
    (hslot : 0 < T.receiverConfiguration.maxNumberTransportProtocolSessions) :
    sessionsFull T.receiverConfiguration KeyedTable.empty = false := by
  have h := UInt32.lt_iff_toNat_lt.mp hslot
  simp only [sessionsFull, decide_eq_false_iff_not, Nat.not_le, ge_iff_le]
  exact h

theorem processMessage_requestToSend
    (hslot : 0 < T.receiverConfiguration.maxNumberTransportProtocolSessions) (moment : Moment) :
    ∃ limit session, Asking T limit 0 session ∧
      processMessage T.receiverConfiguration (T.receiverEnvironment moment.now)
          ((announceFrame T).toMessage T.senderWorld moment.timestampUs) KeyedTable.empty =
        (KeyedTable.single T.key (some session), [.frame (grantFrame T limit 0) true]) := by
  obtain ⟨d, hd, hkey⟩ := T.exists_key_eq
  have hreceiver : T.ReceiverAt .sendClearToSend 0 ((receiveSession T.parameterGroupNumber
      (UInt32.ofNat T.data.length)
      T.receiverConfiguration.numberOfPacketsPerDPOMessage).setState moment.now
        .sendClearToSend) :=
    ⟨rfl, rfl, T.toNat_length, rfl, T.receiver_packets, rfl, filled_nil _⟩
  obtain ⟨limit, session, hasking, hanswer⟩ :=
    updateStateMachine_sendClearToSend hreceiver moment.now (by have := T.packets_range; omega)
  refine ⟨limit, session, hasking, ?_⟩
  have haddressed : Addressed (T.receiverEnvironment moment.now) T.key
      ((announceFrame T).toMessage T.senderWorld moment.timestampUs) :=
    T.addressed_receiver moment rfl rfl rfl
  rw [hkey] at haddressed
  have hgroup : ((announceFrame T).toMessage T.senderWorld moment.timestampUs).getUint24At 5 =
      T.parameterGroupNumber := getUint24At_managementFrame _ _ _ _ _ _ _ _ _ T.group_lt
  have hlength : ((announceFrame T).toMessage T.senderWorld moment.timestampUs).getUint32At 1 =
      UInt32.ofNat T.data.length := decode32_byteOf _
  have hmultiplexor : ((announceFrame T).toMessage T.senderWorld
      moment.timestampUs).getUint8At 0 = REQUEST_TO_SEND_MULTIPLEXOR := rfl
  rw [processMessage_management haddressed (group_managementFrame _ _ _ _ _ _ _ _ _ _),
    if_pos hmultiplexor, hgroup, hlength]
  unfold processRequestToSend
  rw [sessionsFull_empty hslot, ← hkey]
  dsimp only
  rw [if_neg Bool.false_ne_true, KeyedTable.dispatch_of_lookup_none _ (KeyedTable.lookup_empty _)]
  rw [openSession_empty, T.now_receiverEnvironment, hanswer]
  rfl

theorem processMessage_clearToSend (moment : Moment) {limit : UInt8}
    (h : T.SenderAt .waitForClearToSend last session) (hpos : 0 < limit) (hlt : last < T.packets) :
    ∃ session', T.SenderAt .sendDataPacketOffset last session' ∧
      session'.lastAcknowledgedPacketNumber.toNat = last ∧
      session'.clearToSendPacketCountLimit = limit ∧
      processMessage T.senderConfiguration (T.senderEnvironment moment.now)
          ((grantFrame T limit last).toMessage T.receiverWorld moment.timestampUs)
          (KeyedTable.single T.key (some session)) =
        (KeyedTable.single T.key (some session'), []) := by
  have hpackets := T.packets_range
  obtain ⟨d, hd, hkey⟩ := T.exists_key_eq
  have haddressed : Addressed (T.senderEnvironment moment.now) ⟨d, some T.source⟩
      ((grantFrame T limit last).toMessage T.receiverWorld moment.timestampUs) :=
    T.addressed_sender moment hd rfl rfl rfl
  have hmultiplexor : ((grantFrame T limit last).toMessage T.receiverWorld
      moment.timestampUs).getUint8At 0 = CLEAR_TO_SEND_MULTIPLEXOR := rfl
  have hgroup : ((grantFrame T limit last).toMessage T.receiverWorld
      moment.timestampUs).getUint24At 5 = T.parameterGroupNumber :=
    getUint24At_managementFrame _ _ _ _ _ _ _ _ _ T.group_lt
  have hcount : ((grantFrame T limit last).toMessage T.receiverWorld
      moment.timestampUs).getUint8At 1 = limit := rfl
  have hnext : ((grantFrame T limit last).toMessage T.receiverWorld
      moment.timestampUs).getUint24At 2 = UInt32.ofNat (last + 1) :=
    getUint24At_packetNumber _ _ _ _ _ _ _ (by omega)
  obtain ⟨session', hsender, hacknowledged, hlimit, hreceive⟩ :=
    receiveClearToSend_eq h moment.now hpos hlt
  refine ⟨session', hsender, hacknowledged, hlimit, ?_⟩
  rw [processMessage_management haddressed (group_managementFrame _ _ _ _ _ _ _ _ _ _),
    hmultiplexor, if_neg (by decide), if_pos rfl, hgroup, hcount, hnext]
  unfold processClearToSend
  rw [← hkey, KeyedTable.dispatch_single]
  simp only [Option.bind_some, Option.map_some, Option.getD_some]
  rw [if_neg (not_not.mpr h.group_eq), hreceive]

theorem processMessage_dataPacketOffset (moment : Moment) {limit : UInt8}
    (h : Asking T limit last session) (hpos : 0 < count) (hle : count ≤ limit.toNat) :
    ∃ session', T.ReceiverAt .waitForDataTransferPacket last session' ∧
      WindowAt last count 0 session' ∧
      processMessage T.receiverConfiguration (T.receiverEnvironment moment.now)
          ((offsetFrame T count last).toMessage T.senderWorld moment.timestampUs)
          (KeyedTable.single T.key (some session)) =
        (KeyedTable.single T.key (some session'), []) := by
  have hpackets := T.packets_range
  have hlast := h.last_lt
  obtain ⟨d, hd, hkey⟩ := T.exists_key_eq
  have haddressed : Addressed (T.receiverEnvironment moment.now) T.key
      ((offsetFrame T count last).toMessage T.senderWorld moment.timestampUs) :=
    T.addressed_receiver moment rfl rfl rfl
  rw [hkey] at haddressed
  have hmultiplexor : ((offsetFrame T count last).toMessage T.senderWorld
      moment.timestampUs).getUint8At 0 = DATA_PACKET_OFFSET_MULTIPLXOR := rfl
  have hgroup : ((offsetFrame T count last).toMessage T.senderWorld
      moment.timestampUs).getUint24At 5 = T.parameterGroupNumber :=
    getUint24At_managementFrame _ _ _ _ _ _ _ _ _ T.group_lt
  have hcount : ((offsetFrame T count last).toMessage T.senderWorld
      moment.timestampUs).getUint8At 1 = UInt8.ofNat count := rfl
  have hoffset : ((offsetFrame T count last).toMessage T.senderWorld
      moment.timestampUs).getUint24At 2 = UInt32.ofNat last :=
    getUint24At_packetNumber _ _ _ _ _ _ _ (by omega)
  obtain ⟨session', hreceiver, hwindow, hreceive⟩ :=
    receiveDataPacketOffset_eq h moment.now hpos hle
  refine ⟨session', hreceiver, hwindow, ?_⟩
  rw [processMessage_management haddressed (group_managementFrame _ _ _ _ _ _ _ _ _ _),
    hmultiplexor, if_neg (by decide), if_neg (by decide), if_pos rfl, hgroup, hcount, hoffset]
  unfold processDataPacketOffset
  rw [← hkey, KeyedTable.dispatch_single]
  simp only [Option.bind_some, Option.map_some, Option.getD_some]
  rw [if_neg (not_not.mpr h.receiver.group_eq), hreceive]

theorem processMessage_nextDataFrame
    (h : T.ReceiverAt .waitForDataTransferPacket (offset + done) session)
    (hwindow : WindowAt offset count done session) (hlt : done < count)
    (hmessage : offset + count ≤ T.packets) (moment : Moment) :
    ∃ session', T.ReceiverAt .waitForDataTransferPacket (offset + (done + 1)) session' ∧
      WindowAt offset count (done + 1) session' ∧
      processMessage T.receiverConfiguration (T.receiverEnvironment moment.now)
          ((T.dataFrame offset (offset + done + 1)).toMessage T.senderWorld moment.timestampUs)
          (KeyedTable.single T.key (some session)) =
        (KeyedTable.single T.key (session'.afterPacket T.receiverConfiguration
            (T.receiverEnvironment moment.now) T.key moment.timestampUs).1,
          (session'.afterPacket T.receiverConfiguration (T.receiverEnvironment moment.now) T.key
            moment.timestampUs).2) := by
  have hdata : ((T.dataFrame offset (offset + done + 1)).toMessage T.senderWorld
      moment.timestampUs).data = (T.dataFrame offset (offset + done + 1)).data := rfl
  have haddressed : Addressed (T.receiverEnvironment moment.now) T.key
      ((T.dataFrame offset (offset + done + 1)).toMessage T.senderWorld moment.timestampUs) :=
    T.addressed_receiver moment rfl rfl (by simp [dataFrame, CAN_DATA_LENGTH])
  obtain ⟨session', hreceiver, hwindow', heq⟩ :=
    receiveDataTransfer_eq h hwindow moment.now hlt hmessage hdata
  refine ⟨session', hreceiver, hwindow', ?_⟩
  rw [processMessage_dataTransfer haddressed (T.group_dataFrame offset _ _),
    KeyedTable.dispatch_single]
  simp only [Option.bind_some, Option.map_some, Option.getD_some]
  rw [heq]
  rfl

theorem processMessage_acknowledge (moment : Moment)
    (h : T.SenderAt .waitForEndOfMessageAcknowledge last session) :
    processMessage T.senderConfiguration (T.senderEnvironment moment.now)
        ((acknowledgeFrame T).toMessage T.receiverWorld moment.timestampUs)
        (KeyedTable.single T.key (some session)) =
      (KeyedTable.single T.key none, [.transmitComplete (T.completion true)]) := by
  obtain ⟨d, hd, hkey⟩ := T.exists_key_eq
  have haddressed : Addressed (T.senderEnvironment moment.now) ⟨d, some T.source⟩
      ((acknowledgeFrame T).toMessage T.receiverWorld moment.timestampUs) :=
    T.addressed_sender moment hd rfl rfl rfl
  have hmultiplexor : ((acknowledgeFrame T).toMessage T.receiverWorld
      moment.timestampUs).getUint8At 0 = END_OF_MESSAGE_ACKNOWLEDGE_MULTIPLEXOR := rfl
  have hlength : ((acknowledgeFrame T).toMessage T.receiverWorld
      moment.timestampUs).getUint32At 1 = UInt32.ofNat T.data.length := decode32_byteOf _
  have hclosed : T.SenderAt .none last { session with state := .none } :=
    ⟨h.direction_eq, h.group_eq, h.data_eq, h.callback_eq, h.parent_eq, rfl, h.last_eq⟩
  have hall : UInt32.ofNat T.data.length = session.getMessageLength :=
    ofNat32_eq_of_toNat h.size_eq
  rw [processMessage_management haddressed (group_managementFrame _ _ _ _ _ _ _ _ _ _),
    hmultiplexor, if_neg (by decide), if_neg (by decide), if_neg (by decide), if_pos rfl,
    hlength]
  unfold processEndOfSessionAcknowledgement
  rw [← hkey, KeyedTable.dispatch_single]
  simp only [Option.bind_some, Option.map_some, Option.getD_some]
  rw [receiveEndOfMessageAcknowledge, if_pos h.state_eq, closeSession_eq hclosed, hall]
  simp

structure Streamer (T : ExtendedTransfer) (offset count sent : Nat)
    (session : ExtendedTransportProtocolSession) : Prop where
  sender : T.SenderAt (senderState T offset count sent) (offset + sent) session
  window : WindowAt offset count sent session
  sent_le : sent ≤ count
  message_le : offset + count ≤ T.packets

/-- Where a transfer can be, and its rank: a packet that is out counts once and one that arrived
four times. -/
inductive Phase (T : ExtendedTransfer) : Nat → Link ActiveSessions ActiveSessions Event
    TransmitFrame → Prop
  | requested {link : Link ActiveSessions ActiveSessions Event TransmitFrame}
      {sender : ExtendedTransportProtocolSession}
          (hsender : T.SenderAt .waitForClearToSend 0 sender)
      (h : T.LinkAt (some sender) none [announceFrame T] [] [] [] link) : Phase T 0 link
  | granted {link : Link ActiveSessions ActiveSessions Event TransmitFrame}
      {sender receiver : ExtendedTransportProtocolSession} {limit : UInt8} {last : Nat}
      (hsender : T.SenderAt .waitForClearToSend last sender)
          (hasking : Asking T limit last receiver)
      (h : T.LinkAt (some sender) (some receiver) [] [grantFrame T limit last] [] [] link) :
      Phase T (5 * last + 1) link
  | offering {link : Link ActiveSessions ActiveSessions Event TransmitFrame}
      {sender receiver : ExtendedTransportProtocolSession} {limit : UInt8} {last : Nat}
      (hsender : T.SenderAt .sendDataPacketOffset last sender)
      (hacknowledged : sender.lastAcknowledgedPacketNumber.toNat = last)
      (hlimit : sender.clearToSendPacketCountLimit = limit) (hasking : Asking T limit last receiver)
      (h : T.LinkAt (some sender) (some receiver) [] [] [] [] link) : Phase T (5 * last + 2) link
  /-- The offset is on its way, with the first packets behind it. -/
  | offered {link : Link ActiveSessions ActiveSessions Event TransmitFrame}
      {sender receiver : ExtendedTransportProtocolSession} {limit : UInt8}
      {last count sent : Nat} (hsender : Streamer T last count sent sender) (hpos : 0 < count)
      (hle : count ≤ limit.toNat) (hasking : Asking T limit last receiver)
      (h : T.LinkAt (some sender) (some receiver) (offsetFrame T count last ::
        framesBetween (T.dataFrame last) (last + 0) (last + sent)) [] [] [] link) :
      Phase T (5 * last + sent + 3) link
  /-- `i` packets of the window arrived, `j` are out, and the window is not through. -/
  | streaming {link : Link ActiveSessions ActiveSessions Event TransmitFrame}
      {sender receiver : ExtendedTransportProtocolSession} {offset count i j : Nat}
      (hsender : Streamer T offset count j sender)
      (hreceiver : T.ReceiverAt .waitForDataTransferPacket (offset + i) receiver)
      (hwindow : WindowAt offset count i receiver) (hij : i ≤ j) (hi : i < count)
      (h : T.LinkAt (some sender) (some receiver)
        (framesBetween (T.dataFrame offset) (offset + i) (offset + j)) [] [] [] link) :
      Phase T (5 * offset + 4 * i + j + 4) link
  /-- The message arrived and its acknowledgement is on its way. -/
  | acknowledged {link : Link ActiveSessions ActiveSessions Event TransmitFrame}
      {sender : ExtendedTransportProtocolSession} {message : CANMessage}
      (hsender : T.SenderAt .waitForEndOfMessageAcknowledge T.packets sender)
      (hdata : message.data = T.data)
      (h : T.LinkAt (some sender) none [] [acknowledgeFrame T] [message] [] link) :
      Phase T (5 * T.packets + 1) link
  /-- Everything is over. -/
  | done {link : Link ActiveSessions ActiveSessions Event TransmitFrame} {message : CANMessage}
      (hdata : message.data = T.data)
      (h : T.LinkAt none none [] [] [message] [T.completion true] link) :
      Phase T (5 * T.packets + 2) link

def InPhase (T : ExtendedTransfer) (link : Link ActiveSessions ActiveSessions Event
    TransmitFrame) : Prop := ∃ rank, Phase T rank link

abbrev extendedWiring (T : ExtendedTransfer) :
    Wiring ActiveSessions ActiveSessions Input Event TransmitFrame Moment :=
  T.wiring (extendedTransportProtocolManager T.senderConfiguration)
    (extendedTransportProtocolManager T.receiverConfiguration)

variable {link : Link ActiveSessions ActiveSessions Event TransmitFrame} {moment : Moment}
variable {rank : Nat}

theorem step_update {config : CANNetworkConfiguration} {env : Environment}
    {session' : Option ExtendedTransportProtocolSession} {events : List Event}
    (h : session.update config env T.key = (session', events)) :
    (extendedTransportProtocolManager config).step (KeyedTable.single T.key (some session))
        ⟨env, .update⟩ = (KeyedTable.single T.key session', events) := by
  change update config env _ = _
  rw [update_single]
  simp [h]

theorem step_processMessage {config : CANNetworkConfiguration} {env : Environment}
    {message : CANMessage} {sessions : ActiveSessions} {reply : Reply}
    (h : processMessage config env message sessions = reply) :
    (extendedTransportProtocolManager config).step sessions
      ⟨env, .processMessage message⟩ = reply := h

theorem step_update_none {config : CANNetworkConfiguration} {env : Environment} :
    (extendedTransportProtocolManager config).step (KeyedTable.single T.key none)
      ⟨env, .update⟩ = (KeyedTable.single T.key none, []) := rfl

variable {sent : Nat}

theorem senderState_of_lt (hlt : sent < count) (hle : offset + count ≤ T.packets) :
    senderState T offset count sent = .sendDataTransferPackets := by
  rw [senderState, if_neg (by omega), if_neg (by omega)]

theorem senderState_of_through (T : ExtendedTransfer) (offset count : Nat) :
    senderState T offset count count = .waitForClearToSend ∨
      senderState T offset count count = .waitForEndOfMessageAcknowledge := by
  rw [senderState, if_pos rfl]
  split_ifs
  · exact .inr rfl
  · exact .inl rfl

theorem Streamer.update (h : Streamer T offset count sent session)
    (htime : ∀ limit ∈ timeoutMs session, moment.now - session.timestamp ≤ limit) :
    ∃ sent' session', sent ≤ sent' ∧ Streamer T offset count sent' session' ∧
      session.update T.senderConfiguration (T.senderEnvironment moment.now) T.key =
        (some session', sentEvents (framesBetween (T.dataFrame offset) (offset + sent)
          (offset + sent'))) := by
  obtain ⟨hsender, hwindow, hle, hmessage⟩ := id h
  rcases Nat.lt_or_ge sent count with hlt | hge
  · rw [senderState_of_lt hlt hmessage] at hsender
    obtain ⟨sent', session', hlt', hle', hsender', hwindow', heq⟩ :=
      update_sender_window hsender hwindow moment.now hlt hmessage
    exact ⟨sent', session', Nat.le_of_lt hlt', ⟨hsender', hwindow', hle', hmessage⟩, heq⟩
  · obtain rfl : sent = count := by omega
    refine ⟨sent, session, Nat.le_refl _, h, ?_⟩
    rw [framesBetween_self]
    exact update_sender_of_inTime hsender (senderState_of_through T offset sent) htime

theorem toReceiver_callSender {sent' : Nat} {session' : ExtendedTransportProtocolSession}
    (hlink : link.sender = KeyedTable.single T.key (some session))
    (heq : session.update T.senderConfiguration (T.senderEnvironment moment.now) T.key =
      (some session', sentEvents (framesBetween (T.dataFrame offset) (offset + sent)
        (offset + sent')))) :
    ((extendedWiring T).callSender link ((extendedWiring T).senderTick moment)).toReceiver =
      link.toReceiver ++ framesBetween (T.dataFrame offset) (offset + sent) (offset + sent') := by
  change link.toReceiver ++ ((extendedTransportProtocolManager T.senderConfiguration).step
    link.sender ⟨T.senderEnvironment moment.now, .update⟩).2.filterMap sentFrame = _
  rw [hlink, step_update heq, filterMap_sentFrame_sentEvents]

section idle

variable {sender receiver : Option ExtendedTransportProtocolSession}
variable {toReceiver toSender : List TransmitFrame} {messages : List CANMessage}
variable {completions : List Completion}

theorem idle_senderTick (moment : Moment)
    (h : T.LinkAt sender receiver toReceiver toSender messages completions link)
    (hstep : (extendedTransportProtocolManager T.senderConfiguration).step
      (KeyedTable.single T.key sender) ((extendedWiring T).senderTick moment) =
        (KeyedTable.single T.key sender, [])) :
    T.LinkAt sender receiver toReceiver toSender messages completions
        ((extendedWiring T).callSender link ((extendedWiring T).senderTick moment)) ∧
      ((extendedWiring T).callSender link ((extendedWiring T).senderTick moment)).toReceiver =
        link.toReceiver := by
  have h' : T.LinkAt sender receiver toReceiver toSender messages completions
      ((extendedWiring T).callSender link ((extendedWiring T).senderTick moment)) :=
    h.callSender_idle hstep
  exact ⟨h', h'.toReceiver_eq.trans h.toReceiver_eq.symm⟩

theorem idle_receiverTick (moment : Moment)
    (h : T.LinkAt sender receiver toReceiver toSender messages completions link)
    (hstep : (extendedTransportProtocolManager T.receiverConfiguration).step
      (KeyedTable.single T.key receiver) ((extendedWiring T).receiverTick moment) =
        (KeyedTable.single T.key receiver, [])) :
    T.LinkAt sender receiver toReceiver toSender messages completions
        ((extendedWiring T).callReceiver link ((extendedWiring T).receiverTick moment)) ∧
      ((extendedWiring T).callReceiver link ((extendedWiring T).receiverTick moment)).toSender =
        link.toSender := by
  have h' : T.LinkAt sender receiver toReceiver toSender messages completions
      ((extendedWiring T).callReceiver link ((extendedWiring T).receiverTick moment)) :=
    h.callReceiver_idle hstep
  exact ⟨h', h'.toSender_eq.trans h.toSender_eq.symm⟩

end idle

theorem phase_senderTick (h : Phase T rank link) (htime : InTime link.sender moment) :
    ∃ rank', Phase T rank'
        ((extendedWiring T).callSender link ((extendedWiring T).senderTick moment)) ∧
      (rank < rank' ∨ ((extendedWiring T).callSender link
        ((extendedWiring T).senderTick moment)).toReceiver = link.toReceiver) := by
  have hintime {sender : ExtendedTransportProtocolSession}
      {receiver : Option ExtendedTransportProtocolSession}
      {toReceiver toSender : List TransmitFrame} {messages : List CANMessage}
      {completions : List Completion}
      (h : T.LinkAt (some sender) receiver toReceiver toSender messages completions link) :
      ∀ limit ∈ timeoutMs sender, moment.now - sender.timestamp ≤ limit := by
    rw [h.sender_eq] at htime
    exact inTime_single.mp htime
  cases h with
  | requested hsender h =>
    obtain ⟨h', hsame⟩ := idle_senderTick moment h
      (step_update (update_sender_of_inTime hsender (.inl rfl) (hintime h)))
    exact ⟨_, .requested hsender h', .inr hsame⟩
  | granted hsender hasking h =>
    obtain ⟨h', hsame⟩ := idle_senderTick moment h
      (step_update (update_sender_of_inTime hsender (.inl rfl) (hintime h)))
    exact ⟨_, .granted hsender hasking h', .inr hsame⟩
  | offering hsender hacknowledged hlimit hasking h =>
    rename_i sender receiver limit last
    obtain ⟨count, sender', hpos, hle, hmessage, hsender', hwindow, heq⟩ :=
      update_sender_offset hsender moment.now hasking.last_lt hacknowledged
        (hlimit ▸ hasking.limit_pos)
    rw [hlimit] at hle
    have hstreamer : Streamer T last count 0 sender' :=
      ⟨by rw [senderState_of_lt hpos hmessage]; exact hsender', hwindow, Nat.zero_le _, hmessage⟩
    refine ⟨_, .offered hstreamer hpos hle hasking (h.callSender (step_update heq) ?_ ?_),
      .inl (by omega)⟩
    · rw [filterMap_sentFrame_sentEvents, framesBetween_self]
      rfl
    · rw [filterMap_completedTransmit_sentEvents]
      rfl
  | offered hsender hpos hle hasking h =>
    rename_i sender receiver limit last count sent
    obtain ⟨sent', sender', hsent, hsender', heq⟩ := hsender.update (hintime h)
    refine ⟨_, .offered hsender' hpos hle hasking (h.callSender (step_update heq) ?_ ?_), ?_⟩
    · rw [filterMap_sentFrame_sentEvents, List.cons_append,
        framesBetween_append (T.dataFrame last) (by omega) (by omega)]
    · rw [filterMap_completedTransmit_sentEvents, List.append_nil]
    · rcases Nat.lt_or_eq_of_le hsent with hlt | rfl
      · exact .inl (by omega)
      · exact .inr (by rw [toReceiver_callSender h.sender_eq heq, framesBetween_self,
          List.append_nil])
  | streaming hsender hreceiver hwindow hij hi h =>
    rename_i sender receiver offset count i j
    obtain ⟨j', sender', hsent, hsender', heq⟩ := hsender.update (hintime h)
    refine ⟨_, .streaming hsender' hreceiver hwindow (by omega) hi
      (h.callSender (step_update heq) ?_ ?_), ?_⟩
    · rw [filterMap_sentFrame_sentEvents,
        framesBetween_append (T.dataFrame offset) (by omega) (by omega)]
    · rw [filterMap_completedTransmit_sentEvents, List.append_nil]
    · rcases Nat.lt_or_eq_of_le hsent with hlt | rfl
      · exact .inl (by omega)
      · exact .inr (by rw [toReceiver_callSender h.sender_eq heq, framesBetween_self,
          List.append_nil])
  | acknowledged hsender hdata h =>
    obtain ⟨h', hsame⟩ := idle_senderTick moment h
      (step_update (update_sender_of_inTime hsender (.inr rfl) (hintime h)))
    exact ⟨_, .acknowledged hsender hdata h', .inr hsame⟩
  | done hdata h =>
    obtain ⟨h', hsame⟩ := idle_senderTick moment h step_update_none
    exact ⟨_, .done hdata h', .inr hsame⟩

theorem phase_receiverTick (h : Phase T rank link) (htime : InTime link.receiver moment) :
    Phase T rank
        ((extendedWiring T).callReceiver link ((extendedWiring T).receiverTick moment)) ∧
      ((extendedWiring T).callReceiver link
        ((extendedWiring T).receiverTick moment)).toSender = link.toSender := by
  have hwaiting {sender : Option ExtendedTransportProtocolSession}
      {receiver : ExtendedTransportProtocolSession} {state : StateMachineState} {last : Nat}
      {toReceiver toSender : List TransmitFrame} {messages : List CANMessage}
      {completions : List Completion}
      (h : T.LinkAt sender (some receiver) toReceiver toSender messages completions link)
      (hreceiver : T.ReceiverAt state last receiver)
      (hwait : state = .waitForDataPacketOffset ∨ state = .waitForDataTransferPacket) :
      (extendedTransportProtocolManager T.receiverConfiguration).step
        (KeyedTable.single T.key (some receiver)) ((extendedWiring T).receiverTick moment) =
          (KeyedTable.single T.key (some receiver), []) := by
    rw [h.receiver_eq] at htime
    exact step_update (update_receiver_of_inTime hreceiver hwait (inTime_single.mp htime))
  cases h with
  | requested hsender h =>
    obtain ⟨h', hsame⟩ := idle_receiverTick moment h step_update_none
    exact ⟨.requested hsender h', hsame⟩
  | granted hsender hasking h =>
    obtain ⟨h', hsame⟩ := idle_receiverTick moment h (hwaiting h hasking.receiver (.inl rfl))
    exact ⟨.granted hsender hasking h', hsame⟩
  | offering hsender hacknowledged hlimit hasking h =>
    obtain ⟨h', hsame⟩ := idle_receiverTick moment h (hwaiting h hasking.receiver (.inl rfl))
    exact ⟨.offering hsender hacknowledged hlimit hasking h', hsame⟩
  | offered hsender hpos hle hasking h =>
    obtain ⟨h', hsame⟩ := idle_receiverTick moment h (hwaiting h hasking.receiver (.inl rfl))
    exact ⟨.offered hsender hpos hle hasking h', hsame⟩
  | streaming hsender hreceiver hwindow hij hi h =>
    obtain ⟨h', hsame⟩ := idle_receiverTick moment h (hwaiting h hreceiver (.inr rfl))
    exact ⟨.streaming hsender hreceiver hwindow hij hi h', hsame⟩
  | acknowledged hsender hdata h =>
    obtain ⟨h', hsame⟩ := idle_receiverTick moment h step_update_none
    exact ⟨.acknowledged hsender hdata h', hsame⟩
  | done hdata h =>
    obtain ⟨h', hsame⟩ := idle_receiverTick moment h step_update_none
    exact ⟨.done hdata h', hsame⟩

variable {frame : TransmitFrame}

theorem phase_senderHears (moment : Moment) {rest : List TransmitFrame} (h : Phase T rank link)
    (hqueue : link.toSender = frame :: rest) :
    ∃ rank', rank < rank' ∧ Phase T rank' ((extendedWiring T).callSender
      { link with toSender := rest } ((extendedWiring T).senderHears moment frame)) := by
  cases h with
  | requested hsender h => exact absurd hqueue h.nil_toSender
  | granted hsender hasking h =>
    obtain ⟨rfl, h⟩ := h.takeToSender hqueue
    obtain ⟨sender', hsender', hacknowledged, hlimit, heq⟩ :=
      processMessage_clearToSend moment hsender hasking.limit_pos hasking.last_lt
    exact ⟨_, Nat.lt_succ_self _, .offering hsender' hacknowledged hlimit hasking
      (h.callSender (step_processMessage heq) rfl rfl)⟩
  | offering hsender hacknowledged hlimit hasking h => exact absurd hqueue h.nil_toSender
  | offered hsender hpos hle hasking h => exact absurd hqueue h.nil_toSender
  | streaming hsender hreceiver hwindow hij hi h => exact absurd hqueue h.nil_toSender
  | acknowledged hsender hdata h =>
    obtain ⟨rfl, h⟩ := h.takeToSender hqueue
    exact ⟨_, Nat.lt_succ_self _, .done hdata (h.callSender (step_processMessage
      (processMessage_acknowledge moment hsender)) rfl rfl)⟩
  | done hdata h => exact absurd hqueue h.nil_toSender

theorem phase_receiverHears_packet {sender receiver : ExtendedTransportProtocolSession}
    {offset count i j : Nat} (hsender : Streamer T offset count j sender)
    (hreceiver : T.ReceiverAt .waitForDataTransferPacket (offset + i) receiver)
    (hwindow : WindowAt offset count i receiver) (hij : i < j)
    (h : T.LinkAt (some sender) (some receiver)
      (framesBetween (T.dataFrame offset) (offset + i + 1) (offset + j)) [] [] [] link) :
    ∃ rank', 5 * offset + 4 * i + j + 4 < rank' ∧ Phase T rank'
      ((extendedWiring T).callReceiver link
        ((extendedWiring T).receiverHears moment (T.dataFrame offset (offset + i + 1)))) := by
  obtain ⟨hsent, -, hle, hmessage⟩ := id hsender
  obtain ⟨receiver', hreceiver', hwindow', heq⟩ :=
    processMessage_nextDataFrame hreceiver hwindow (by omega) hmessage moment
  rcases Nat.lt_or_ge (i + 1) count with hinside | hthrough
  · rw [afterPacket_inside hreceiver' hwindow' moment.now moment.timestampUs hinside hmessage]
      at heq
    exact ⟨_, by omega, .streaming hsender hreceiver' hwindow' hij hinside
      (h.callReceiver (step_processMessage heq) rfl rfl)⟩
  -- The window is through, so the sender has sent all of it.
  obtain rfl : j = count := by omega
  obtain rfl : j = i + 1 := by omega
  rw [Nat.add_assoc, framesBetween_self] at h
  by_cases hend : offset + (i + 1) = T.packets
  · rw [hend] at hreceiver'
    obtain ⟨message, hdata, hafter⟩ := afterPacket_last hreceiver' moment.now moment.timestampUs
    rw [hafter] at heq
    rw [senderState, if_pos hend, hend] at hsent
    exact ⟨_, by omega, .acknowledged hsent hdata
      (h.callReceiver (step_processMessage heq) rfl rfl)⟩
  · obtain ⟨limit, receiver'', hasking, hafter⟩ :=
      afterPacket_through hreceiver' hwindow' moment.now moment.timestampUs (by omega)
    rw [hafter] at heq
    rw [senderState, if_neg hend, if_pos rfl] at hsent
    exact ⟨_, by omega, .granted hsent hasking (h.callReceiver (step_processMessage heq) rfl rfl)⟩

theorem phase_receiverHears (moment : Moment)
    (hslot : 0 < T.receiverConfiguration.maxNumberTransportProtocolSessions)
    {rest : List TransmitFrame} (h : Phase T rank link)
    (hqueue : link.toReceiver = frame :: rest) :
    ∃ rank', rank < rank' ∧ Phase T rank' ((extendedWiring T).callReceiver
      { link with toReceiver := rest } ((extendedWiring T).receiverHears moment frame)) := by
  cases h with
  | requested hsender h =>
    obtain ⟨rfl, h⟩ := h.takeToReceiver hqueue
    obtain ⟨limit, receiver, hasking, heq⟩ := processMessage_requestToSend hslot moment
    exact ⟨_, Nat.succ_pos _, .granted hsender hasking
      (h.callReceiver (step_processMessage heq) rfl rfl)⟩
  | granted hsender hasking h => exact absurd hqueue h.nil_toReceiver
  | offering hsender hacknowledged hlimit hasking h => exact absurd hqueue h.nil_toReceiver
  | offered hsender hpos hle hasking h =>
    rename_i sender receiver limit last count sent
    obtain ⟨rfl, h⟩ := h.takeToReceiver hqueue
    obtain ⟨receiver', hreceiver, hwindow, heq⟩ :=
      processMessage_dataPacketOffset moment hasking hpos hle
    have hstart : T.ReceiverAt .waitForDataTransferPacket (last + 0) receiver' := hreceiver
    exact ⟨_, by omega, .streaming hsender hstart hwindow (Nat.zero_le _) hpos
      (h.callReceiver (step_processMessage heq) rfl rfl)⟩
  | streaming hsender hreceiver hwindow hij hi h =>
    rename_i sender receiver offset count i j
    rcases Nat.lt_or_ge i j with hlt | hge
    · rw [framesBetween_of_lt (T.dataFrame offset) (Nat.add_lt_add_left hlt offset)] at h
      obtain ⟨rfl, h⟩ := h.takeToReceiver hqueue
      exact phase_receiverHears_packet hsender hreceiver hwindow hlt h
    · rw [show i = j by omega, framesBetween_self] at h
      exact absurd hqueue h.nil_toReceiver
  | acknowledged hsender hdata h => exact absurd hqueue h.nil_toReceiver
  | done hdata h => exact absurd hqueue h.nil_toReceiver

abbrev startLink (T : ExtendedTransfer) (now : UInt32) :
    Link ActiveSessions ActiveSessions Event TransmitFrame :=
  T.start (extendedTransportProtocolManager T.senderConfiguration)
    (extendedTransportProtocolManager T.receiverConfiguration) KeyedTable.empty now

theorem phase_start (T : ExtendedTransfer) (now : UInt32) : Phase T 0 (startLink T now) := by
  have hidle : T.LinkAt (none : Option ExtendedTransportProtocolSession) none [] [] [] []
      ⟨KeyedTable.empty, KeyedTable.empty, [], [], [], []⟩ := ⟨rfl, rfl, rfl, rfl, rfl, rfl⟩
  obtain ⟨session, hsender, heq⟩ := T.protocolTransmitMessage_eq now
  have hstep : (extendedTransportProtocolManager T.senderConfiguration).step
      (KeyedTable.single T.key none)
      ⟨T.senderEnvironment now, .protocolTransmitMessage T.request⟩ =
        (KeyedTable.single T.key (some session),
          [.frame (announceFrame T) true, .transmitAnswered true]) := heq
  exact .requested hsender (hidle.callSender hstep rfl rfl)

theorem phase_run (T : ExtendedTransfer)
    (hslot : 0 < T.receiverConfiguration.maxNumberTransportProtocolSessions) (now : UInt32)
    (schedule : List (Turn Moment))
    (htime : (extendedWiring T).machine.Along (Wiring.TickOk InTime InTime) (startLink T now)
      schedule) :
    InPhase T ((extendedWiring T).machine.run (startLink T now) schedule) := by
  have hstart : InPhase T (startLink T now) := ⟨0, T.phase_start now⟩
  refine Wiring.invariant_run ?_ ?_ ?_ ?_ hstart schedule htime
  · rintro link moment ⟨rank, h⟩ htick
    obtain ⟨rank', h', -⟩ := phase_senderTick h htick
    exact ⟨rank', h'⟩
  · rintro link moment ⟨rank, h⟩ htick
    exact ⟨rank, (phase_receiverTick h htick).1⟩
  · rintro link moment frame rest ⟨rank, h⟩ hqueue
    obtain ⟨rank', -, h'⟩ := phase_senderHears moment h hqueue
    exact ⟨rank', h'⟩
  · rintro link moment frame rest ⟨rank, h⟩ hqueue
    obtain ⟨rank', -, h'⟩ := phase_receiverHears moment hslot h hqueue
    exact ⟨rank', h'⟩

theorem emits_senderTick {session' : Option ExtendedTransportProtocolSession}
    {events : List Event}
    (h : session.update T.senderConfiguration (T.senderEnvironment moment.now) T.key =
      (session', events)) :
    (extendedWiring T).sender.emits (KeyedTable.single T.key (some session))
      ((extendedWiring T).senderTick moment) = events :=
  congrArg Prod.snd (step_update h)

theorem not_quiescent_of_sends {frames : List TransmitFrame}
    {session' : Option ExtendedTransportProtocolSession}
    (hsender : link.sender = KeyedTable.single T.key (some session))
    (hwait : timeoutMs session = none)
    (heq : session.update T.senderConfiguration (T.senderEnvironment 0) T.key =
      (session', sentEvents (frame :: frames))) :
    ¬(extendedWiring T).Quiescent InTime InTime link := by
  intro hquiet
  have hnone := hquiet.sender ⟨0, 0⟩ (by
    rw [hsender, inTime_single, hwait]
    simp)
  rw [hsender, emits_senderTick heq] at hnone
  change List.filterMap Transfer.sentFrame _ = [] at hnone
  rw [filterMap_sentFrame_sentEvents] at hnone
  exact absurd hnone (List.cons_ne_nil _ _)

theorem done_of_phase (h : Phase T rank link)
    (hquiet : (extendedWiring T).Quiescent InTime InTime link) : T.Done link := by
  cases h with
  | requested hsender h => exact absurd hquiet.toReceiver h.toReceiver_ne_nil
  | granted hsender hasking h => exact absurd hquiet.toSender h.toSender_ne_nil
  | offering hsender hacknowledged hlimit hasking h =>
    obtain ⟨count, sender', -, -, -, -, -, heq⟩ :=
      update_sender_offset hsender 0 hasking.last_lt hacknowledged (hlimit ▸ hasking.limit_pos)
    exact absurd hquiet (not_quiescent_of_sends h.sender_eq
      (by simp [timeoutMs, hsender.state_eq]) heq)
  | offered hsender hpos hle hasking h => exact absurd hquiet.toReceiver h.toReceiver_ne_nil
  | streaming hsender hreceiver hwindow hij hi h =>
    rename_i sender receiver offset count i j
    rcases Nat.lt_or_ge i j with hlt | hge
    · rw [framesBetween_of_lt (T.dataFrame offset) (Nat.add_lt_add_left hlt offset)] at h
      exact absurd hquiet.toReceiver h.toReceiver_ne_nil
    -- Everything that was sent arrived, so an update sends more.
    obtain ⟨hsent, hwindow', -, hmessage⟩ := hsender
    rw [senderState_of_lt (by omega) hmessage] at hsent
    obtain ⟨j', sender', hlt', -, -, -, heq⟩ :=
      update_sender_window hsent hwindow' 0 (by omega) hmessage
    rw [framesBetween_of_lt (T.dataFrame offset) (Nat.add_lt_add_left hlt' offset)] at heq
    exact absurd hquiet (not_quiescent_of_sends h.sender_eq
      (by simp [timeoutMs, hsent.state_eq]) heq)
  | acknowledged hsender hdata h => exact absurd hquiet.toSender h.toSender_ne_nil
  | done hdata h =>
    refine ⟨⟨_, h.messages_eq, hdata⟩, h.completions_eq, ?_, ?_⟩
    · rw [h.sender_eq, KeyedTable.lookup_single_self]
    · rw [h.receiver_eq, KeyedTable.lookup_single_self]

/-- In every timely run, with a free session slot at the receiver, a link on which nothing more can
happen has carried the message. -/
theorem extendedDone_of_quiescent (T : ExtendedTransfer)
    (hslot : 0 < T.receiverConfiguration.maxNumberTransportProtocolSessions) (now : UInt32)
    (schedule : List (Turn Moment))
    (htime : (extendedWiring T).machine.Along (Wiring.TickOk InTime InTime) (startLink T now)
      schedule)
    (hquiet : (extendedWiring T).Quiescent InTime InTime
      ((extendedWiring T).machine.run (startLink T now) schedule)) :
    T.Done ((extendedWiring T).machine.run (startLink T now) schedule) := by
  obtain ⟨rank, h⟩ := T.phase_run hslot now schedule htime
  exact done_of_phase h hquiet

theorem Phase.rank_le (h : Phase T rank link) : rank ≤ 5 * T.packets + 2 := by
  cases h with
  | requested hsender h => exact Nat.zero_le _
  | granted hsender hasking h =>
    have hlt := hasking.last_lt
    omega
  | offering hsender hacknowledged hlimit hasking h =>
    have hlt := hasking.last_lt
    omega
  | offered hsender hpos hle hasking h =>
    obtain ⟨-, -, hsent, hmessage⟩ := hsender
    omega
  | streaming hsender hreceiver hwindow hij hi h =>
    obtain ⟨-, -, hsent, hmessage⟩ := hsender
    omega
  | acknowledged hsender hdata h => omega
  | done hdata h => exact Nat.le_refl _

theorem exists_turn (hslot : 0 < T.receiverConfiguration.maxNumberTransportProtocolSessions)
    (h : Phase T rank link) (hbusy : ¬(extendedWiring T).Quiescent InTime InTime link) :
    ∃ t rank', Wiring.TickOk InTime InTime link t ∧ rank < rank' ∧
      Phase T rank' ((extendedWiring T).turn link t) := by
  rcases Wiring.busy_cases hbusy with hqueue | hqueue | ⟨moment, htime, hsends⟩ |
    ⟨moment, htime, hsends⟩
  · obtain ⟨frame, rest, hqueue⟩ := List.exists_cons_of_ne_nil hqueue
    obtain ⟨rank', hlt, h'⟩ := phase_receiverHears ⟨0, 0⟩ hslot h hqueue
    refine ⟨.receiverHears ⟨0, 0⟩, rank', trivial, hlt, ?_⟩
    rw [Wiring.turn, hqueue]
    exact h'
  · obtain ⟨frame, rest, hqueue⟩ := List.exists_cons_of_ne_nil hqueue
    obtain ⟨rank', hlt, h'⟩ := phase_senderHears ⟨0, 0⟩ h hqueue
    refine ⟨.senderHears ⟨0, 0⟩, rank', trivial, hlt, ?_⟩
    rw [Wiring.turn, hqueue]
    exact h'
  · obtain ⟨rank', h', hlt | hsame⟩ := phase_senderTick h htime
    · exact ⟨.senderTick moment, rank', htime, hlt, h'⟩
    · exact absurd (List.append_right_eq_self.mp hsame) hsends
  · exact absurd (List.append_right_eq_self.mp (phase_receiverTick h htime).2) hsends

theorem exists_schedule (T : ExtendedTransfer)
    (hslot : 0 < T.receiverConfiguration.maxNumberTransportProtocolSessions) (now : UInt32) :
    ∃ schedule, (extendedWiring T).machine.Along (Wiring.TickOk InTime InTime) (startLink T now)
        schedule ∧
      (extendedWiring T).Quiescent InTime InTime
        ((extendedWiring T).machine.run (startLink T now) schedule) :=
  Wiring.exists_quiescent (fun _ _ h => Phase.rank_le h) (fun _ _ h => exists_turn hslot h)
    (T.phase_start now)

theorem quiescent_of_empty (hsender : link.sender.entries = [])
    (hreceiver : link.receiver.entries = []) (htoReceiver : link.toReceiver = [])
    (htoSender : link.toSender = []) : (extendedWiring T).Quiescent InTime InTime link where
  toReceiver := htoReceiver
  toSender := htoSender
  sender moment _ := by
    rw [show link.sender = KeyedTable.empty from KeyedTable.ext hsender]
    rfl
  receiver moment _ := by
    rw [show link.receiver = KeyedTable.empty from KeyedTable.ext hreceiver]
    rfl

/-- The other node sends the shortest message to ours; the receiver has so many session slots. -/
def shortestTransfer (slots : UInt32) : ExtendedTransfer where
  senderConfiguration := { numberOfPacketsPerDPOMessage := 0xFF }
  receiverConfiguration :=
    { numberOfPacketsPerDPOMessage := 0xFF, maxNumberTransportProtocolSessions := slots }
  senderWorld := fun c =>
    if c = 0 then ⟨.internal, 0xA000, 0x28, 0⟩ else ⟨.partnered, 0xA001, 0x10, 0⟩
  receiverWorld := twoNodes
  parameterGroupNumber := 0xEF00
  data := List.replicate 1786 7
  source := 0
  destination := some 1
  callback := 0
  parentPointer := 0
  group_lt := by decide
  source_valid_sender := by decide
  source_valid_receiver := by decide
  source_internal := by decide
  destination_valid_sender := by decide
  destination_valid_receiver := by decide
  destination_internal := by decide
  destination_ne_none := by decide
  length_range := by rw [List.length_replicate]; decide
  sender_packets := by decide
  receiver_packets := show (0 : UInt8) < 0xFF by decide
  sender_frames := by decide

theorem extendedDone_of_quiescent_shortest :
    ∃ schedule, (shortestTransfer 1).Done ((extendedWiring (shortestTransfer 1)).machine.run
      (startLink (shortestTransfer 1) 0) schedule) := by
  obtain ⟨schedule, htime, hquiet⟩ := (shortestTransfer 1).exists_schedule (by decide) 0
  exact ⟨schedule, extendedDone_of_quiescent (shortestTransfer 1) (by decide) 0 schedule htime
    hquiet⟩

/-- Without a session slot the receiver refuses the request, and the transfer fails. -/
theorem not_extendedDone_of_quiescent :
    ¬∀ (T : ExtendedTransfer) (now : UInt32) (schedule : List (Turn Moment)),
      (extendedWiring T).machine.Along (Wiring.TickOk InTime InTime) (startLink T now) schedule →
      (extendedWiring T).Quiescent InTime InTime
        ((extendedWiring T).machine.run (startLink T now) schedule) →
      T.Done ((extendedWiring T).machine.run (startLink T now) schedule) := by
  intro h
  have hdone := h (shortestTransfer 0) 0 [.receiverHears ⟨0, 0⟩, .senderHears ⟨0, 0⟩]
    ⟨trivial, trivial, trivial⟩ (quiescent_of_empty (by decide +kernel) (by decide +kernel)
      (by decide +kernel) (by decide +kernel))
  exact absurd hdone.completed (by decide +kernel)

end ExtendedTransfer

end Isobus.ExtendedTransportProtocol
