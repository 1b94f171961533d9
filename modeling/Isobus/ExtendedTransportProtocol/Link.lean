import Isobus.ExtendedTransportProtocol.DataPacketOffset
import Isobus.Can.Transfer

/-!
# An extended transport protocol transfer, one call at a time

The two sessions that carry one message, how far each of them is, and what each
call does to them when all sends succeed and no timeout is hit.
-/

namespace Isobus.ExtendedTransportProtocol

open Isobus.Can Isobus.Can.Transfer Isobus.Lib ExtendedTransportProtocolSession

/-- A message between managers that may send at least one packet per data packet offset and one
frame per update. -/
structure ExtendedTransfer extends Transfer where
  destination_ne_none : destination ≠ none
  length_range : 1786 ≤ data.length ∧ data.length ≤ MAX_PROTOCOL_DATA_LENGTH
  sender_packets : 0 < senderConfiguration.numberOfPacketsPerDPOMessage
  receiver_packets : 0 < receiverConfiguration.numberOfPacketsPerDPOMessage
  sender_frames : 0 < senderConfiguration.networkManagerMaxFramesToSendPerUpdate

/-- How long a waiting session waits, as `update_state_machine` has it. -/
def timeoutMs (session : ExtendedTransportProtocolSession) : Option UInt32 :=
  match session.state with
  | .waitForClearToSend => some T2_T3_TIMEOUT_MS
  | .waitForDataPacketOffset => some T2_T3_TIMEOUT_MS
  | .waitForDataTransferPacket => some T1_TIMEOUT_MS
  | .waitForEndOfMessageAcknowledge => some T2_T3_TIMEOUT_MS
  | _ => none

def InTime (sessions : ActiveSessions) (moment : Moment) : Prop :=
  ∀ e ∈ sessions.entries, ∀ limit ∈ timeoutMs e.2, moment.now - e.2.timestamp ≤ limit

instance (sessions : ActiveSessions) (moment : Moment) : Decidable (InTime sessions moment) :=
  have (e : SessionKey × ExtendedTransportProtocolSession) : Decidable (∀ limit ∈ timeoutMs e.2,
      moment.now - e.2.timestamp ≤ limit) := Option.decidableForallMem _
  inferInstanceAs (Decidable (∀ e ∈ sessions.entries, ∀ limit ∈ timeoutMs e.2,
    moment.now - e.2.timestamp ≤ limit))

theorem inTime_single {key : SessionKey} {session : ExtendedTransportProtocolSession}
    {moment : Moment} : InTime (KeyedTable.single key (some session)) moment ↔
      ∀ limit ∈ timeoutMs session, moment.now - session.timestamp ≤ limit := by
  simp [InTime, KeyedTable.single]

namespace ExtendedTransfer

variable (T : ExtendedTransfer)

def packets : Nat := (T.data.length + 6) / 7

theorem packets_range : 256 ≤ T.packets ∧ T.packets < 2 ^ 24 := by
  have h := T.length_range
  simp only [MAX_PROTOCOL_DATA_LENGTH] at h
  unfold packets
  omega

def dataFrame (offset number : Nat) : TransmitFrame where
  parameterGroupNumber := extendedTransportProtocolDataTransfer
  data := UInt8.ofNat (number - offset) :: segment 0xFF T.data (7 * (number - 1)) 7
  source := some T.source
  destination := T.destination
  priority := PriorityLowest7

structure SenderAt (state : StateMachineState) (last : Nat)
    (session : ExtendedTransportProtocolSession) : Prop where
  direction_eq : session.direction = .transmit
  group_eq : session.parameterGroupNumber = T.parameterGroupNumber
  data_eq : session.data = T.data
  callback_eq : session.sessionCompleteCallback = some T.callback
  parent_eq : session.parent = T.parentPointer
  state_eq : session.state = state
  last_eq : session.getLastPacketNumber.toNat = last

structure ReceiverAt (state : StateMachineState) (last : Nat)
    (session : ExtendedTransportProtocolSession) : Prop where
  direction_eq : session.direction = .receive
  group_eq : session.parameterGroupNumber = T.parameterGroupNumber
  size_eq : session.totalMessageSize.toNat = T.data.length
  state_eq : session.state = state
  limit_pos : 0 < session.clearToSendPacketCountLimit
  last_eq : session.getLastPacketNumber.toNat = last
  filled : Filled (segment 0xFF T.data 0 (7 * last)) session.data

/-- Either session inside a window: `count` packets were announced after `offset`, and `done` of
them counted. -/
structure WindowAt (offset count done : Nat) (session : ExtendedTransportProtocolSession) :
    Prop where
  acknowledged_eq : session.lastAcknowledgedPacketNumber.toNat = offset
  offset_eq : session.sequenceNumberOffset.toNat = offset
  count_eq : session.dataPacketOffsetPacketCount.toNat = count
  sequence_eq : session.lastSequenceNumber.toNat = done

variable {T} {state : StateMachineState} {last offset count done : Nat}
variable {session : ExtendedTransportProtocolSession}

theorem SenderAt.size_eq (h : T.SenderAt state last session) :
    session.totalMessageSize.toNat = T.data.length := by
  rw [← session.data_length, h.data_eq]

theorem toNat_total_of_size (h : session.totalMessageSize.toNat = T.data.length) :
    session.getTotalNumberOfPackets.toNat = T.packets := by
  rw [toNat_getTotalNumberOfPackets, h, packets]

theorem toNat_remaining (h : session.totalMessageSize.toNat = T.data.length)
    (hlast : session.getLastPacketNumber.toNat = last) (hle : last ≤ T.packets) :
    session.getNumberOfRemainingPackets.toNat = T.packets - last := by
  have htotal := toNat_total_of_size h
  rw [toNat_getNumberOfRemainingPackets hlast (by omega), htotal]

theorem remaining_eq_zero_iff (h : session.totalMessageSize.toNat = T.data.length)
    (hlast : session.getLastPacketNumber.toNat = last) (hle : last ≤ T.packets) :
    session.getNumberOfRemainingPackets = 0 ↔ last = T.packets := by
  rw [← UInt32.toNat_inj, toNat_remaining h hlast hle]
  change T.packets - last = 0 ↔ _
  omega

theorem WindowAt.toNat_left (h : WindowAt offset count done session) (hlt : offset < 2 ^ 24)
    (hle : done ≤ count) : session.getDpoNumberOfPacketsRemaining.toNat = count - done := by
  have hdone := session.lastSequenceNumber.toNat_lt
  have hsequence := h.sequence_eq
  exact toNat_getDpoNumberOfPacketsRemaining
    (toNat_getLastPacketNumber h.offset_eq h.sequence_eq (by omega)) h.acknowledged_eq h.count_eq
    hle

theorem WindowAt.left_eq_zero_iff (h : WindowAt offset count done session) (hlt : offset < 2 ^ 24)
    (hle : done ≤ count) : session.getDpoNumberOfPacketsRemaining = 0 ↔ done = count := by
  rw [← UInt8.toNat_inj, h.toNat_left hlt hle]
  change count - done = 0 ↔ _
  omega

theorem ofNat32_eq_of_toNat {a : UInt32} {n : Nat} (h : a.toNat = n) : UInt32.ofNat n = a := by
  rw [← h, UInt32.ofNat_toNat]

theorem SenderAt.setState (h : T.SenderAt state last session) (now : UInt32)
    (state' : StateMachineState) : T.SenderAt state' last (session.setState now state') where
  direction_eq := h.direction_eq
  group_eq := h.group_eq
  data_eq := h.data_eq
  callback_eq := h.callback_eq
  parent_eq := h.parent_eq
  state_eq := rfl
  last_eq := h.last_eq

theorem ReceiverAt.setState (h : T.ReceiverAt state last session) (now : UInt32)
    (state' : StateMachineState) : T.ReceiverAt state' last (session.setState now state') where
  direction_eq := h.direction_eq
  group_eq := h.group_eq
  size_eq := h.size_eq
  state_eq := rfl
  limit_pos := h.limit_pos
  last_eq := h.last_eq
  filled := h.filled

theorem WindowAt.setState (h : WindowAt offset count done session) (now : UInt32)
    (state' : StateMachineState) : WindowAt offset count done (session.setState now state') where
  acknowledged_eq := h.acknowledged_eq
  offset_eq := h.offset_eq
  count_eq := h.count_eq
  sequence_eq := h.sequence_eq

theorem payload_eq (h : T.SenderAt state last session) (hlt : last < T.packets) :
    session.payload = segment 0xFF T.data (7 * last) 7 := by
  have hpackets := T.packets_range
  have hindex : (session.getLastPacketNumber * PROTOCOL_BYTES_PER_FRAME).toNat = 7 * last := by
    rw [UInt32.toNat_mul, h.last_eq, Nat.mul_comm]
    exact Nat.mod_eq_of_lt (by change 7 * last < 2 ^ 32; omega)
  unfold payload Lib.segment
  apply List.map_congr_left
  intro j hj
  have hj := List.mem_range.mp hj
  change j < 7 at hj
  have hbyte : (session.getLastPacketNumber * PROTOCOL_BYTES_PER_FRAME + UInt32.ofNat j).toNat =
      7 * last + j := by
    rw [UInt32.toNat_add, hindex, UInt32.toNat_ofNat_of_lt' (by change j < 2 ^ 32; omega)]
    exact Nat.mod_eq_of_lt (by omega)
  rw [hbyte, h.data_eq]

theorem dataTransferFrame_eq (h : T.SenderAt state (offset + done) session)
    (hwindow : WindowAt offset count done session) (hlt : offset + done < T.packets)
    (hdone : done < 255) :
    session.dataTransferFrame T.key = T.dataFrame offset (offset + done + 1) := by
  have hnumber : session.getLastSequenceNumber + 1 = UInt8.ofNat (done + 1) := by
    rw [← UInt8.toNat_inj, UInt8.toNat_ofNat_of_lt' (by change done + 1 < 256; omega),
      UInt8.toNat_add]
    change (session.lastSequenceNumber.toNat + 1) % 256 = _
    rw [hwindow.sequence_eq]
    omega
  rw [dataTransferFrame, payload_eq h hlt, hnumber, dataFrame, Nat.add_sub_cancel, Nat.add_assoc,
    Nat.add_sub_cancel_left]
  rfl

variable {packets : Nat} {config : CANNetworkConfiguration} {env : Environment} {key : SessionKey}

theorem WindowAt.ahead (h : WindowAt offset count done session) (now : UInt32)
    (hlt : done + packets < 256) :
    WindowAt offset count (done + packets) (session.ahead now packets) where
  acknowledged_eq := h.acknowledged_eq
  offset_eq := h.offset_eq
  count_eq := h.count_eq
  sequence_eq := by rw [toNat_ahead now (by rw [h.sequence_eq]; exact hlt), h.sequence_eq]

theorem SenderAt.ahead (h : T.SenderAt state (offset + done) session)
    (hwindow : WindowAt offset count done session) (now : UInt32) (hlt : done + packets < 256)
    (hmessage : offset + done ≤ T.packets) :
    T.SenderAt state (offset + (done + packets)) (session.ahead now packets) where
  direction_eq := h.direction_eq
  group_eq := h.group_eq
  data_eq := h.data_eq
  callback_eq := h.callback_eq
  parent_eq := h.parent_eq
  state_eq := h.state_eq
  last_eq := by
    have hpackets := T.packets_range
    have hwindow := hwindow.ahead now hlt
    exact toNat_getLastPacketNumber hwindow.offset_eq hwindow.sequence_eq (by omega)

theorem sendFrames_eq (h : T.SenderAt state (offset + done) session)
    (hwindow : WindowAt offset count done session) (now : UInt32) (hle : done + packets ≤ 255)
    (hmessage : offset + (done + packets) ≤ T.packets) :
    sendFrames (T.senderEnvironment now) T.key packets session =
      (session.ahead now packets, sentEvents (framesBetween (T.dataFrame offset) (offset + done)
        (offset + done + packets))) := by
  obtain ⟨sent, hbatch⟩ := exists_batch (T.senderEnvironment now) T.key packets session
  have hall : sent = packets := by
    by_contra hne
    have hle := hbatch.le
    have hrefused := hbatch.refused (by omega)
    simp at hrefused
  subst hall
  refine Prod.ext hbatch.session_eq ?_
  rw [hbatch.events_eq, if_neg (Nat.lt_irrefl sent), List.append_nil, sentEvents,
    framesBetween_eq_map_range, List.map_map]
  apply List.map_congr_left
  intro i hi
  have hi := List.mem_range.mp hi
  rw [Function.comp_apply, T.now_senderEnvironment,
    dataTransferFrame_eq (h.ahead hwindow now (by omega) (by omega)) (hwindow.ahead now (by omega))
      (by omega) (by omega), ← Nat.add_assoc offset done]

def senderState (T : ExtendedTransfer) (offset count done : Nat) : StateMachineState :=
  if offset + done = T.packets then .waitForEndOfMessageAcknowledge
  else if done = count then .waitForClearToSend
  else .sendDataTransferPackets

theorem sendDataTransferPackets_eq
    (h : T.SenderAt .sendDataTransferPackets (offset + done) session)
    (hwindow : WindowAt offset count done session) (now : UInt32) (hlt : done < count)
    (hmessage : offset + count ≤ T.packets) :
    ∃ done' session', done < done' ∧ done' ≤ count ∧
      T.SenderAt (senderState T offset count done') (offset + done') session' ∧
      WindowAt offset count done' session' ∧
      session.sendDataTransferPackets T.senderConfiguration (T.senderEnvironment now) T.key =
        (some session', sentEvents (framesBetween (T.dataFrame offset) (offset + done)
          (offset + done'))) := by
  have hpackets := T.packets_range
  have hcount := session.dataPacketOffsetPacketCount.toNat_lt
  rw [hwindow.count_eq] at hcount
  have hleft := hwindow.toNat_left (by omega) (Nat.le_of_lt hlt)
  have hcap := UInt8.lt_iff_toNat_lt.mp T.sender_frames
  have hframes : 0 < (session.framesToSend T.senderConfiguration).toNat ∧
      (session.framesToSend T.senderConfiguration).toNat ≤ count - done := by
    unfold framesToSend
    split_ifs with hgt
    · exact ⟨hcap, by have := UInt8.lt_iff_toNat_lt.mp hgt; omega⟩
    · omega
  generalize hn : (session.framesToSend T.senderConfiguration).toNat = packets at hframes
  have hsent := sendFrames_eq h hwindow now (show done + packets ≤ 255 by omega) (by omega)
  have hsender := h.ahead hwindow now (show done + packets < 256 by omega) (by omega)
  have hwindow' := hwindow.ahead now (show done + packets < 256 by omega)
  have hend := remaining_eq_zero_iff hsender.size_eq hsender.last_eq (by omega)
  have hthrough := hwindow'.left_eq_zero_iff (by omega) (by omega)
  refine ⟨done + packets, ?_⟩
  unfold sendDataTransferPackets
  rw [hn, hsent, Nat.add_assoc]
  simp only [hend, hthrough]
  unfold senderState
  split_ifs
  · exact ⟨_, by omega, by omega, hsender.setState now _, hwindow'.setState now _, rfl⟩
  · exact ⟨_, by omega, by omega, hsender.setState now _, hwindow'.setState now _, rfl⟩
  · refine ⟨_, by omega, by omega, ?_, hwindow', rfl⟩
    exact hsender

theorem updateStateMachine_of_inTime {limit : UInt32} (hlimit : timeoutMs session = some limit)
    (htime : env.now - session.timestamp ≤ limit) :
    session.updateStateMachine config env key = (some session, []) := by
  have hnot : ∀ bound : UInt32, limit = bound → ¬env.timeElapsed session.timestamp > bound :=
    fun bound hbound => UInt32.not_lt.mpr (hbound ▸ htime)
  unfold timeoutMs at hlimit
  unfold updateStateMachine
  cases hstate : session.state with
  | waitForClearToSend =>
    rw [hstate] at hlimit
    exact if_neg (hnot _ (Option.some.inj hlimit).symm)
  | waitForDataPacketOffset =>
    rw [hstate] at hlimit
    exact if_neg (hnot _ (Option.some.inj hlimit).symm)
  | waitForDataTransferPacket =>
    rw [hstate] at hlimit
    exact if_neg (hnot _ (Option.some.inj hlimit).symm)
  | waitForEndOfMessageAcknowledge =>
    rw [hstate] at hlimit
    exact if_neg (hnot _ (Option.some.inj hlimit).symm)
  | _ => simp [hstate] at hlimit

theorem update_of_valid (hsource : (env.world key.source).getAddressValid = true)
    (hdestination : ∀ d ∈ key.destination, (env.world d).getAddressValid = true)
    (hstate : session.state ≠ .none) :
    session.update config env key = session.updateStateMachine config env key := by
  have hany : (key.destination.any fun d => !(env.world d).getAddressValid) = false := by
    cases hd : key.destination with
    | none => rfl
    | some d => simp [hdestination d hd]
  unfold ExtendedTransportProtocolSession.update
  rw [hsource, hany, if_pos hstate]
  rfl

theorem update_of_inTime (hsource : (env.world key.source).getAddressValid = true)
    (hdestination : ∀ d ∈ key.destination, (env.world d).getAddressValid = true)
    (hwait : timeoutMs session ≠ none)
    (htime : ∀ limit ∈ timeoutMs session, env.now - session.timestamp ≤ limit) :
    session.update config env key = (some session, []) := by
  obtain ⟨limit, hlimit⟩ := Option.ne_none_iff_exists'.mp hwait
  have hstate : session.state ≠ .none := by
    intro hnone
    simp [timeoutMs, hnone] at hwait
  rw [update_of_valid hsource hdestination hstate]
  exact updateStateMachine_of_inTime hlimit (htime _ hlimit)

theorem update_sender_of_inTime (h : T.SenderAt state last session)
    (hwait : state = .waitForClearToSend ∨ state = .waitForEndOfMessageAcknowledge)
    {moment : Moment} (htime : ∀ limit ∈ timeoutMs session,
      moment.now - session.timestamp ≤ limit) :
    session.update T.senderConfiguration (T.senderEnvironment moment.now) T.key =
      (some session, []) := by
  refine update_of_inTime T.source_valid_sender T.destination_valid_sender ?_ htime
  rcases hwait with rfl | rfl
  · simp [timeoutMs, h.state_eq]
  · simp [timeoutMs, h.state_eq]

theorem update_receiver_of_inTime (h : T.ReceiverAt state last session)
    (hwait : state = .waitForDataPacketOffset ∨ state = .waitForDataTransferPacket)
    {moment : Moment} (htime : ∀ limit ∈ timeoutMs session,
      moment.now - session.timestamp ≤ limit) :
    session.update T.receiverConfiguration (T.receiverEnvironment moment.now) T.key =
      (some session, []) := by
  refine update_of_inTime T.source_valid_receiver T.destination_valid_receiver ?_ htime
  rcases hwait with rfl | rfl
  · simp [timeoutMs, h.state_eq]
  · simp [timeoutMs, h.state_eq]

theorem update_sender_window (h : T.SenderAt .sendDataTransferPackets (offset + done) session)
    (hwindow : WindowAt offset count done session) (now : UInt32) (hlt : done < count)
    (hmessage : offset + count ≤ T.packets) :
    ∃ done' session', done < done' ∧ done' ≤ count ∧
      T.SenderAt (senderState T offset count done') (offset + done') session' ∧
      WindowAt offset count done' session' ∧
      session.update T.senderConfiguration (T.senderEnvironment now) T.key =
        (some session', sentEvents (framesBetween (T.dataFrame offset) (offset + done)
          (offset + done'))) := by
  rw [update_of_valid T.source_valid_sender T.destination_valid_sender (by simp [h.state_eq])]
  unfold updateStateMachine
  rw [h.state_eq]
  exact sendDataTransferPackets_eq h hwindow now hlt hmessage

def offsetFrame (T : ExtendedTransfer) (count offset : Nat) : TransmitFrame :=
  connectionManagementFrame DATA_PACKET_OFFSET_MULTIPLXOR (UInt8.ofNat count)
    (byteOf (UInt32.ofNat offset) 0) (byteOf (UInt32.ofNat offset) 1)
    (byteOf (UInt32.ofNat offset) 2) T.parameterGroupNumber (some T.source) T.destination

theorem update_sender_offset (h : T.SenderAt .sendDataPacketOffset last session) (now : UInt32)
    (hlt : last < T.packets) (hacknowledged : session.lastAcknowledgedPacketNumber.toNat = last)
    (hlimit : 0 < session.clearToSendPacketCountLimit) :
    ∃ count session', 0 < count ∧ count ≤ session.clearToSendPacketCountLimit.toNat ∧
      last + count ≤ T.packets ∧ T.SenderAt .sendDataTransferPackets last session' ∧
      WindowAt last count 0 session' ∧
      session.update T.senderConfiguration (T.senderEnvironment now) T.key =
        (some session', sentEvents [offsetFrame T count last]) := by
  have hremaining := toNat_remaining h.size_eq h.last_eq (Nat.le_of_lt hlt)
  obtain ⟨hpos, hle, hinside⟩ :=
    packetsThisSegment_range (show 0 < session.getNumberOfRemainingPackets.toNat by omega) hlimit
      T.sender_packets
  have hframe : session.dataPacketOffsetFrame T.senderConfiguration T.key =
      offsetFrame T (session.packetsThisSegment T.senderConfiguration).toNat last := by
    rw [dataPacketOffsetFrame, offsetFrame, UInt8.ofNat_toNat, ofNat32_eq_of_toNat h.last_eq,
      h.group_eq]
    rfl
  rw [update_of_valid T.source_valid_sender T.destination_valid_sender (by simp [h.state_eq])]
  unfold updateStateMachine
  rw [h.state_eq]
  unfold sendDataPacketOffset
  rw [if_pos (T.send_senderEnvironment now _), hframe]
  refine ⟨_, _, hpos, hle, by omega, ?_, ?_, rfl⟩
  · refine ⟨h.direction_eq, h.group_eq, h.data_eq, h.callback_eq, h.parent_eq, rfl, ?_⟩
    exact toNat_getLastPacketNumber h.last_eq (show _ = 0 from rfl) (by
      have := T.packets_range
      omega)
  · exact ⟨hacknowledged, h.last_eq, rfl, rfl⟩

theorem receiveClearToSend_eq (h : T.SenderAt .waitForClearToSend last session) (now : UInt32)
    {limit : UInt8} (hpos : 0 < limit) (hlt : last < T.packets) :
    ∃ session', T.SenderAt .sendDataPacketOffset last session' ∧
      session'.lastAcknowledgedPacketNumber.toNat = last ∧
      session'.clearToSendPacketCountLimit = limit ∧
      session.receiveClearToSend (T.senderEnvironment now) T.key limit
        (UInt32.ofNat (last + 1)) = (some session', []) := by
  have hpackets := T.packets_range
  have hnext : (UInt32.ofNat (last + 1)).toNat = last + 1 :=
    UInt32.toNat_ofNat_of_lt' (by change last + 1 < 2 ^ 32; omega)
  have hin : ¬UInt32.ofNat (last + 1) > session.getTotalNumberOfPackets := by
    rw [gt_iff_lt, UInt32.lt_iff_toNat_lt, hnext, toNat_total_of_size h.size_eq]
    omega
  have hback : (UInt32.ofNat (last + 1) - 1).toNat = last := by
    have hle : (1 : UInt32) ≤ UInt32.ofNat (last + 1) := by
      rw [UInt32.le_iff_toNat_le, hnext]
      exact Nat.le_add_left 1 last
    rw [UInt32.toNat_sub_of_le _ _ hle, hnext]
    rfl
  unfold receiveClearToSend
  rw [if_neg hin, if_neg (not_not.mpr h.state_eq)]
  rw [if_pos (show limit ≠ 0 from (UInt8.ne_of_lt hpos).symm)]
  refine ⟨_, ?_, hback, rfl, rfl⟩
  exact ⟨h.direction_eq, h.group_eq, h.data_eq, h.callback_eq, h.parent_eq, rfl, h.last_eq⟩

theorem closeSession_eq (h : T.SenderAt state last session) (successful : Bool) :
    session.closeSession T.key successful =
      (none, [.transmitComplete (T.completion successful)]) := by
  have hlength : session.totalMessageSize = UInt32.ofNat T.data.length :=
    (ofNat32_eq_of_toNat h.size_eq).symm
  unfold closeSession TransportProtocolSessionBase.complete
  rw [h.callback_eq, h.direction_eq, h.group_eq, h.parent_eq, hlength]
  rfl

def grantFrame (T : ExtendedTransfer) (limit : UInt8) (last : Nat) : TransmitFrame :=
  connectionManagementFrame CLEAR_TO_SEND_MULTIPLEXOR limit (byteOf (UInt32.ofNat (last + 1)) 0)
    (byteOf (UInt32.ofNat (last + 1)) 1) (byteOf (UInt32.ofNat (last + 1)) 2)
    T.parameterGroupNumber T.destination (some T.source)

def acknowledgeFrame (T : ExtendedTransfer) : TransmitFrame :=
  connectionManagementFrame END_OF_MESSAGE_ACKNOWLEDGE_MULTIPLEXOR
    (byteOf (UInt32.ofNat T.data.length) 0) (byteOf (UInt32.ofNat T.data.length) 1)
    (byteOf (UInt32.ofNat T.data.length) 2) (byteOf (UInt32.ofNat T.data.length) 3)
    T.parameterGroupNumber T.destination (some T.source)

theorem packetLimit_range (h : T.ReceiverAt state last session) (hlt : last < T.packets) :
    0 < session.packetLimit ∧ session.packetLimit ≤ session.clearToSendPacketCountLimit := by
  have hremaining := toNat_remaining h.size_eq h.last_eq (Nat.le_of_lt hlt)
  have hlimit := session.clearToSendPacketCountLimit.toNat_lt
  unfold packetLimit getCtsNumberOfPacketLimit
  split_ifs with hfew
  · rw [gt_iff_lt, UInt32.lt_iff_toNat_lt, UInt8.toNat_toUInt32] at hfew
    rw [UInt8.lt_iff_toNat_lt, UInt8.le_iff_toNat_le, UInt32.toNat_toUInt8,
      Nat.mod_eq_of_lt (by omega), hremaining]
    exact ⟨Nat.sub_pos_of_lt hlt, by omega⟩
  · exact ⟨h.limit_pos, UInt8.le_refl _⟩

structure Asking (T : ExtendedTransfer) (limit : UInt8) (last : Nat)
    (session : ExtendedTransportProtocolSession) : Prop where
  limit_pos : 0 < limit
  limit_le : limit ≤ session.clearToSendPacketCountLimit
  acknowledged_eq : session.lastAcknowledgedPacketNumber.toNat = last
  last_lt : last < T.packets
  receiver : T.ReceiverAt .waitForDataPacketOffset last session

theorem updateStateMachine_sendClearToSend (h : T.ReceiverAt .sendClearToSend last session)
    (now : UInt32) (hlt : last < T.packets) :
    ∃ limit session', Asking T limit last session' ∧
      session.updateStateMachine T.receiverConfiguration (T.receiverEnvironment now) T.key =
        (some session', [.frame (grantFrame T limit last) true]) := by
  obtain ⟨hpos, hle⟩ := packetLimit_range h hlt
  have hframe : session.clearToSendFrame T.key = grantFrame T session.packetLimit last := by
    have hnext : UInt32.ofNat (last + 1) = session.getLastPacketNumber + 1 := by
      rw [UInt32.ofNat_add, ofNat32_eq_of_toNat h.last_eq]
      rfl
    rw [clearToSendFrame, grantFrame, hnext, h.group_eq]
    rfl
  unfold updateStateMachine
  rw [h.state_eq]
  unfold sendClearToSend
  rw [if_pos (T.send_receiverEnvironment now _), hframe]
  refine ⟨session.packetLimit, _, ?_, rfl⟩
  exact ⟨hpos, hle, h.last_eq, hlt, h.direction_eq, h.group_eq, h.size_eq, rfl, h.limit_pos,
    h.last_eq, h.filled⟩

theorem receiveDataPacketOffset_eq {limit : UInt8} (h : Asking T limit last session)
    (now : UInt32) (hpos : 0 < count) (hle : count ≤ limit.toNat) :
    ∃ session', T.ReceiverAt .waitForDataTransferPacket last session' ∧
      WindowAt last count 0 session' ∧
      session.receiveDataPacketOffset (T.receiverEnvironment now) T.key (UInt8.ofNat count)
        (UInt32.ofNat last) = (some session', []) := by
  have hpackets := T.packets_range
  have hlast := h.last_lt
  have hlimit := limit.toNat_lt
  have hcount : (UInt8.ofNat count).toNat = count :=
    UInt8.toNat_ofNat_of_lt' (by change count < 256; omega)
  have hin : ¬UInt8.ofNat count > session.getCtsNumberOfPacketLimit := by
    have := UInt8.le_iff_toNat_le.mp h.limit_le
    rw [gt_iff_lt, UInt8.lt_iff_toNat_lt, hcount]
    unfold getCtsNumberOfPacketLimit
    omega
  have hne : UInt8.ofNat count ≠ 0 := by
    rw [Ne, ← UInt8.toNat_inj, hcount]
    exact Nat.pos_iff_ne_zero.mp hpos
  have hoffset : UInt32.ofNat last = session.getLastAcknowledgedPacketNumber :=
    ofNat32_eq_of_toNat h.acknowledged_eq
  have hoffsetNat : (UInt32.ofNat last).toNat = last :=
    UInt32.toNat_ofNat_of_lt' (by change last < 2 ^ 32; omega)
  unfold receiveDataPacketOffset
  rw [if_neg (not_not.mpr h.receiver.state_eq), if_neg hin, if_neg (not_not.mpr hoffset)]
  rw [if_pos hne]
  refine ⟨_, ?_, ?_, rfl⟩
  · refine ⟨h.receiver.direction_eq, h.receiver.group_eq, h.receiver.size_eq, rfl,
      h.receiver.limit_pos, ?_, h.receiver.filled⟩
    exact toNat_getLastPacketNumber hoffsetNat (show _ = 0 from rfl) (by omega)
  · exact ⟨h.acknowledged_eq, hoffsetNat, hcount, rfl⟩

theorem toNat_currentDataIndex (h : session.getLastPacketNumber.toNat = last)
    (hlt : last < T.packets) : session.currentDataIndex.toNat = 7 * last := by
  have hpackets := T.packets_range
  unfold currentDataIndex
  rw [UInt32.toNat_mul, h]
  exact Nat.mod_eq_of_lt (by change 7 * last < 2 ^ 32; omega)

theorem currentDataIndex_lt (h : T.ReceiverAt state last session) (hlt : last < T.packets) :
    session.currentDataIndex < session.getMessageLength := by
  rw [UInt32.lt_iff_toNat_lt, toNat_currentDataIndex h.last_eq hlt]
  change 7 * last < session.totalMessageSize.toNat
  rw [h.size_eq]
  unfold packets at hlt
  omega

theorem receiverAt_store (h : T.ReceiverAt state (offset + done) session)
    (hwindow : WindowAt offset count done session) (now : UInt32)
    (hlt : offset + done < T.packets) (hdone : done < 255) :
    ∃ session', session.copyIn (T.dataFrame offset (offset + done + 1)).data.tail = some session' ∧
      T.ReceiverAt state (offset + (done + 1))
        (session'.setLastSequencyNumber now (UInt8.ofNat (done + 1))) ∧
      WindowAt offset count (done + 1)
        (session'.setLastSequencyNumber now (UInt8.ofNat (done + 1))) := by
  have hpackets := T.packets_range
  have hindex := toNat_currentDataIndex h.last_eq hlt
  have hinside := currentDataIndex_lt h hlt
  have hnumber : (UInt8.ofNat (done + 1)).toNat = done + 1 :=
    UInt8.toNat_ofNat_of_lt' (by change done + 1 < 256; omega)
  have hbytes : session.bytesToCopy = min 7 (session.data.length - 7 * (offset + done)) := by
    unfold bytesToCopy
    rw [UInt32.toNat_sub_of_le _ _ (UInt32.le_of_lt hinside), hindex, session.data_length]
    rfl
  have hfilled := h.filled.overwrite (segment 0xFF T.data (7 * (offset + done)) 7)
    session.bytesToCopy (by rw [length_segment, length_segment, hbytes])
  rw [length_segment] at hfilled
  have hjoin := segment_append (0xFF : UInt8) T.data 0 (7 * (offset + done)) 7
  rw [Nat.zero_add] at hjoin
  rw [hjoin] at hfilled
  refine ⟨_, copyIn_eq_some hinside, ?_, ?_⟩
  · refine ⟨h.direction_eq, h.group_eq, h.size_eq, h.state_eq, h.limit_pos, ?_, ?_⟩
    · exact toNat_getLastPacketNumber hwindow.offset_eq hnumber (by omega)
    · change Filled (segment 0xFF T.data 0 (7 * (offset + done + 1)))
        (overwrite session.data session.currentDataIndex.toNat _)
      rw [hindex]
      exact hfilled
  · exact ⟨hwindow.acknowledged_eq, hwindow.offset_eq, hwindow.count_eq, hnumber⟩

theorem ReceiverAt.data_eq (h : T.ReceiverAt state T.packets session) :
    session.data = T.data := by
  have hlength : session.data.length = T.data.length := by rw [session.data_length, h.size_eq]
  exact h.filled.eq_of_segment hlength (by unfold packets; omega)

theorem afterPacket_last (h : T.ReceiverAt state T.packets session) (now : UInt32)
    (timestampUs : UInt64) :
    ∃ message, message.data = T.data ∧
      session.afterPacket T.receiverConfiguration (T.receiverEnvironment now) T.key timestampUs =
        (none, [.frame (acknowledgeFrame T) true, .messageReceived message]) := by
  have hremaining := (remaining_eq_zero_iff h.size_eq h.last_eq (Nat.le_refl _)).mpr rfl
  have hacknowledge : session.endOfMessageAcknowledgeFrame T.key = acknowledgeFrame T := by
    have hlength : session.getMessageLength = UInt32.ofNat T.data.length :=
      (ofNat32_eq_of_toNat h.size_eq).symm
    rw [endOfMessageAcknowledgeFrame, hlength, h.group_eq]
    rfl
  refine ⟨session.completedMessage (T.receiverEnvironment now) T.key timestampUs, h.data_eq, ?_⟩
  unfold afterPacket closeSession
  rw [if_pos hremaining]
  rw [TransportProtocolSessionBase.complete_receive _ _ _ h.direction_eq, hacknowledge,
    List.append_nil]
  rfl

theorem afterPacket_inside (h : T.ReceiverAt state (offset + done) session)
    (hwindow : WindowAt offset count done session) (now : UInt32) (timestampUs : UInt64)
    (hlt : done < count) (hmessage : offset + count ≤ T.packets) :
    session.afterPacket T.receiverConfiguration (T.receiverEnvironment now) T.key timestampUs =
      (some session, []) := by
  have hpackets := T.packets_range
  have hend := remaining_eq_zero_iff h.size_eq h.last_eq (by omega)
  have hthrough := hwindow.left_eq_zero_iff (by omega) (Nat.le_of_lt hlt)
  unfold afterPacket
  rw [if_neg (by rw [hend]; omega), if_neg (by rw [hthrough]; omega)]

theorem afterPacket_through (h : T.ReceiverAt state (offset + count) session)
    (hwindow : WindowAt offset count count session) (now : UInt32) (timestampUs : UInt64)
    (hmessage : offset + count < T.packets) :
    ∃ limit session', Asking T limit (offset + count) session' ∧
      session.afterPacket T.receiverConfiguration (T.receiverEnvironment now) T.key timestampUs =
        (some session', [.frame (grantFrame T limit (offset + count)) true]) := by
  have hpackets := T.packets_range
  have hend := remaining_eq_zero_iff h.size_eq h.last_eq (Nat.le_of_lt hmessage)
  have hthrough := hwindow.left_eq_zero_iff (by omega) (Nat.le_refl _)
  obtain ⟨limit, session', hasking, heq⟩ :=
    updateStateMachine_sendClearToSend (h.setState now .sendClearToSend) now hmessage
  refine ⟨limit, session', hasking, ?_⟩
  unfold afterPacket
  rw [if_neg (by rw [hend]; omega), if_pos (hthrough.mpr rfl)]
  exact heq

theorem receiveDataTransfer_eq
    (h : T.ReceiverAt .waitForDataTransferPacket (offset + done) session)
    (hwindow : WindowAt offset count done session) (now : UInt32) (hlt : done < count)
    (hmessage : offset + count ≤ T.packets) {message : CANMessage}
    (hdata : message.data = (T.dataFrame offset (offset + done + 1)).data) :
    ∃ session', T.ReceiverAt .waitForDataTransferPacket (offset + (done + 1)) session' ∧
      WindowAt offset count (done + 1) session' ∧
      session.receiveDataTransfer T.receiverConfiguration (T.receiverEnvironment now) T.key
          message =
        session'.afterPacket T.receiverConfiguration (T.receiverEnvironment now) T.key
          message.timestampUs := by
  have hcount := session.dataPacketOffsetPacketCount.toNat_lt
  rw [hwindow.count_eq] at hcount
  have hnumber : message.getUint8At SEQUENCE_NUMBER_DATA_INDEX = UInt8.ofNat (done + 1) := by
    rw [CANMessage.getUint8At, hdata, dataFrame, Nat.add_assoc, Nat.add_sub_cancel_left]
    rfl
  have htoNat : (UInt8.ofNat (done + 1)).toNat = done + 1 :=
    UInt8.toNat_ofNat_of_lt' (by change done + 1 < 256; omega)
  obtain ⟨stored, hcopy, hstored, hwindow'⟩ :=
    receiverAt_store h hwindow now (by omega) (by omega)
  refine ⟨_, hstored, hwindow', ?_⟩
  have hindex : ¬session.currentDataIndex ≥ session.getMessageLength :=
    UInt32.not_le.mpr (currentDataIndex_lt h (by omega))
  unfold receiveDataTransfer
  rw [hnumber, if_neg (not_not.mpr h.state_eq), if_neg, if_pos, if_neg hindex, hdata,
    List.drop_one, hcopy]
  · rfl
  · rw [htoNat]
    exact congrArg (· + 1) hwindow.sequence_eq.symm
  · intro heq
    have := congrArg UInt8.toNat heq
    rw [htoNat] at this
    have hsequence := hwindow.sequence_eq
    unfold getLastSequenceNumber at this
    omega

end ExtendedTransfer

end Isobus.ExtendedTransportProtocol
