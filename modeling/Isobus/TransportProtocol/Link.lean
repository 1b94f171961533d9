import Isobus.TransportProtocol.Sending
import Isobus.TransportProtocol.ReceiveIntegrity
import Isobus.Can.Transfer

/-!
# A transport protocol transfer, one call at a time

The two sessions that carry one message, how far each of them is, and what each
call does to them when all sends succeed and no timeout is hit.
-/

namespace Isobus.TransportProtocol

open Isobus.Can Isobus.Can.Transfer Isobus.Lib TransportProtocolSession

/-- A message between managers that may send at least one packet per clear to send and one frame per
update. -/
structure TransportTransfer extends Transfer where
  length_range : 9 ≤ data.length ∧ data.length ≤ MAX_PROTOCOL_DATA_LENGTH
  sender_packets : 0 < senderConfiguration.numberOfPacketsPerCTSMessage
  receiver_packets : 0 < receiverConfiguration.numberOfPacketsPerCTSMessage
  sender_frames : 0 < senderConfiguration.networkManagerMaxFramesToSendPerUpdate
  free_slot : 0 < receiverConfiguration.maxNumberTransportProtocolSessions

/-- How long a waiting session waits, as `update_state_machine` has it. -/
def timeoutMs (key : SessionKey) (session : TransportProtocolSession) : Option UInt32 :=
  match session.state with
  | .waitForClearToSend => some T2_T3_TIMEOUT_MS
  | .waitForDataTransferPacket =>
    if key.destination = none then some T1_TIMEOUT_MS
    else if session.getCtsNumberOfPacketsRemaining = session.getCtsNumberOfPackets then
      some T2_T3_TIMEOUT_MS
    else some T1_TIMEOUT_MS
  | .waitForEndOfMessageAcknowledge => some T2_T3_TIMEOUT_MS
  | _ => none

def InTime (sessions : ActiveSessions) (moment : Moment) : Prop :=
  ∀ e ∈ sessions.entries, ∀ limit ∈ timeoutMs e.1 e.2, moment.now - e.2.timestamp ≤ limit

instance (sessions : ActiveSessions) (moment : Moment) : Decidable (InTime sessions moment) :=
  have (e : SessionKey × TransportProtocolSession) : Decidable (∀ limit ∈ timeoutMs e.1 e.2,
      moment.now - e.2.timestamp ≤ limit) := Option.decidableForallMem _
  inferInstanceAs (Decidable (∀ e ∈ sessions.entries, ∀ limit ∈ timeoutMs e.1 e.2,
    moment.now - e.2.timestamp ≤ limit))

theorem inTime_single {key : SessionKey} {session : TransportProtocolSession} {moment : Moment} :
    InTime (KeyedTable.single key (some session)) moment ↔
      ∀ limit ∈ timeoutMs key session, moment.now - session.timestamp ≤ limit := by
  simp [InTime, KeyedTable.single]

namespace TransportTransfer

variable (T : TransportTransfer)

def packets : Nat := (T.data.length + 6) / 7

theorem packets_range : 2 ≤ T.packets ∧ T.packets ≤ 255 := by
  have h := T.length_range
  simp only [MAX_PROTOCOL_DATA_LENGTH] at h
  unfold packets
  omega

def dataFrame (number : Nat) : TransmitFrame where
  parameterGroupNumber := transportProtocolDataTransfer
  data := UInt8.ofNat number ::
    segment 0xFF T.data (7 * (number - 1)) PROTOCOL_BYTES_PER_FRAME
  source := some T.source
  destination := T.destination
  priority := PriorityLowest7

/-- The session that sends the message: `last` packets are out, and the window is the next `granted`
packets behind `acknowledged`. -/
structure SenderAt (state : StateMachineState) (acknowledged granted last : Nat)
    (session : TransportProtocolSession) : Prop where
  direction_eq : session.direction = .transmit
  group_eq : session.parameterGroupNumber = T.parameterGroupNumber
  data_eq : session.data = T.data
  callback_eq : session.sessionCompleteCallback = some T.callback
  parent_eq : session.parent = T.parentPointer
  state_eq : session.state = state
  acknowledged_eq : session.lastAcknowledgedPacketNumber.toNat = acknowledged
  granted_eq : session.clearToSendPacketCount.toNat = granted
  last_eq : session.lastSequenceNumber.toNat = last

structure ReceiverAt (state : StateMachineState) (acknowledged granted last : Nat)
    (session : TransportProtocolSession) : Prop where
  direction_eq : session.direction = .receive
  group_eq : session.parameterGroupNumber = T.parameterGroupNumber
  size_eq : session.totalMessageSize.toNat = T.data.length
  state_eq : session.state = state
  limit_pos : 0 < session.clearToSendPacketCountMax
  acknowledged_eq : session.lastAcknowledgedPacketNumber.toNat = acknowledged
  granted_eq : session.clearToSendPacketCount.toNat = granted
  last_eq : session.lastSequenceNumber.toNat = last
  filled : Filled (segment 0xFF T.data 0 (7 * last)) session.data

variable {T} {state : StateMachineState} {acknowledged granted last : Nat}
variable {session : TransportProtocolSession}

theorem SenderAt.size_eq (h : T.SenderAt state acknowledged granted last session) :
    session.totalMessageSize.toNat = T.data.length := by
  rw [← session.data_length, h.data_eq]

theorem toNat_total_of_size (h : session.totalMessageSize.toNat = T.data.length) :
    session.getTotalNumberOfPackets.toNat = T.packets := by
  have hlength := T.length_range.2
  rw [← h] at hlength
  rw [packets, ← h]
  exact toNat_totalNumberOfPackets hlength

theorem toNat_remaining (h : session.totalMessageSize.toNat = T.data.length)
    (hlast : session.lastSequenceNumber.toNat = last) (hle : last ≤ T.packets) :
    session.getNumberOfRemainingPackets.toNat = T.packets - last := by
  have htotal := toNat_total_of_size h
  unfold getNumberOfRemainingPackets getLastPacketNumber
  rw [UInt8.toNat_sub_of_le _ _ (UInt8.le_iff_toNat_le.mpr (by omega)), htotal, hlast]

theorem toNat_ctsRemaining (hack : session.lastAcknowledgedPacketNumber.toNat = acknowledged)
    (hgranted : session.clearToSendPacketCount.toNat = granted)
    (hlast : session.lastSequenceNumber.toNat = last) (hge : acknowledged ≤ last)
    (hle : last ≤ acknowledged + granted) :
    session.getCtsNumberOfPacketsRemaining.toNat = acknowledged + granted - last := by
  have hsince : (session.getLastPacketNumber - session.lastAcknowledgedPacketNumber).toNat =
      last - acknowledged := by
    unfold getLastPacketNumber
    rw [UInt8.toNat_sub_of_le _ _ (UInt8.le_iff_toNat_le.mpr (by omega)), hlast, hack]
  unfold getCtsNumberOfPacketsRemaining
  rw [UInt8.toNat_sub_of_le _ _ (UInt8.le_iff_toNat_le.mpr (by omega)), hsince, hgranted]
  omega

theorem eq_zero_iff_toNat {a : UInt8} : a = 0 ↔ a.toNat = 0 :=
  UInt8.toNat_inj.symm

theorem ofNat_eq_of_toNat {a : UInt8} {n : Nat} (h : a.toNat = n) : UInt8.ofNat n = a := by
  rw [← h, UInt8.ofNat_toNat]

theorem ofNat16_eq_of_toNat {a : UInt16} {n : Nat} (h : a.toNat = n) : UInt16.ofNat n = a := by
  rw [← h, UInt16.ofNat_toNat]

theorem frameAhead_eq (h : T.SenderAt state acknowledged granted last session) {ahead : Nat}
    (hlt : last + ahead < 255) : session.frameAhead T.key ahead = T.dataFrame
        (last + ahead + 1) := by
  have hlast : (session.ahead ahead).lastSequenceNumber.toNat = last + ahead := by
    rw [toNat_ahead (by rw [h.last_eq]; omega), h.last_eq]
  have hnumber : (session.ahead ahead).lastSequenceNumber + 1 = UInt8.ofNat (last + ahead + 1) := by
    rw [← UInt8.toNat_inj, UInt8.toNat_add, hlast,
      UInt8.toNat_ofNat_of_lt' (by change last + ahead + 1 < 256; omega)]
    exact Nat.mod_eq_of_lt (by change last + ahead + 1 < 256; omega)
  have hdata : (session.ahead ahead).data = T.data := h.data_eq
  simp only [frameAhead, dataTransferFrame, getLastSequenceNumber, getLastPacketNumber, hnumber,
    hlast, hdata, dataFrame, PROTOCOL_BYTES_PER_FRAME, Nat.add_sub_cancel, Nat.mul_comm 7]
  rfl

theorem sendFrames_eq (h : T.SenderAt state acknowledged granted last session) (now : UInt32)
    {count : Nat} (hlt : last + count ≤ 255) :
    T.SenderAt state acknowledged granted (last + count)
        (sendFrames (T.senderEnvironment now) T.key count session).1 ∧
      ((sendFrames (T.senderEnvironment now) T.key count session).1.timestamp =
        if count = 0 then session.timestamp else now) ∧
      (sendFrames (T.senderEnvironment now) T.key count session).2 =
        sentEvents (framesBetween T.dataFrame last (last + count)) := by
  obtain ⟨sent, hbatch⟩ := exists_batch (T.senderEnvironment now) T.key count session
  have hall : sent = count := by
    by_contra hne
    have hle := hbatch.le
    have hrefused := hbatch.refused (by omega)
    simp [Transfer.senderEnvironment] at hrefused
  subst hall
  rw [hbatch.session_eq, hbatch.events_eq, if_neg (Nat.lt_irrefl sent), List.append_nil]
  refine ⟨⟨h.direction_eq, h.group_eq, h.data_eq, h.callback_eq, h.parent_eq, h.state_eq,
    h.acknowledged_eq, h.granted_eq, ?_⟩, rfl, ?_⟩
  · change (session.ahead sent).lastSequenceNumber.toNat = _
    rw [toNat_ahead (by rw [h.last_eq]; omega), h.last_eq]
  · rw [sentEvents, framesBetween_eq_map_range, List.map_map]
    apply List.map_congr_left
    intro i hi
    rw [Function.comp_apply, frameAhead_eq h (by have := List.mem_range.mp hi; omega)]

/-- Where the sender of a message with a destination is, by what it sent. -/
def senderState (T : TransportTransfer) (acknowledged granted last : Nat) : StateMachineState :=
  if last = T.packets then .waitForEndOfMessageAcknowledge
  else if last = acknowledged + granted then .waitForClearToSend
  else .sendDataTransferPackets

theorem SenderAt.setState (h : T.SenderAt state acknowledged granted last session) (now : UInt32)
    (state' : StateMachineState) :
    T.SenderAt state' acknowledged granted last (session.setState now state') where
  direction_eq := h.direction_eq
  group_eq := h.group_eq
  data_eq := h.data_eq
  callback_eq := h.callback_eq
  parent_eq := h.parent_eq
  state_eq := rfl
  acknowledged_eq := h.acknowledged_eq
  granted_eq := h.granted_eq
  last_eq := h.last_eq

theorem sendDataTransferPackets_eq (hdestination : T.destination ≠ none)
    (h : T.SenderAt .sendDataTransferPackets acknowledged granted last session) (now : UInt32)
    (hlo : acknowledged ≤ last) (hhi : last < acknowledged + granted)
    (hmessage : acknowledged + granted ≤ T.packets) :
    ∃ last' session', last < last' ∧ last' ≤ acknowledged + granted ∧
      T.SenderAt (senderState T acknowledged granted last') acknowledged granted last' session' ∧
      session.sendDataTransferPackets T.senderConfiguration (T.senderEnvironment now) T.key =
        (some session', sentEvents (framesBetween T.dataFrame last last')) := by
  have hpackets := T.packets_range
  have hleft := toNat_ctsRemaining h.acknowledged_eq h.granted_eq h.last_eq hlo (by omega)
  have hcap := UInt8.lt_iff_toNat_lt.mp T.sender_frames
  have hkey : T.key.destination ≠ none := hdestination
  have hcount : 0 < (session.framesToSend T.senderConfiguration T.key).toNat ∧
      (session.framesToSend T.senderConfiguration T.key).toNat ≤
        acknowledged + granted - last := by
    unfold framesToSend
    rw [if_neg hkey]
    split_ifs with hgt
    · exact ⟨hcap, by have := UInt8.lt_iff_toNat_lt.mp hgt; omega⟩
    · omega
  generalize hn : (session.framesToSend T.senderConfiguration T.key).toNat = count at hcount
  obtain ⟨hsender, -, hevents⟩ := sendFrames_eq h now (show last + count ≤ 255 by omega)
  have hremaining := toNat_remaining hsender.size_eq hsender.last_eq (by omega)
  have hwindow := toNat_ctsRemaining hsender.acknowledged_eq hsender.granted_eq hsender.last_eq
    (by omega) (by omega)
  unfold sendDataTransferPackets
  dsimp only
  rw [hn, hevents]
  simp only [if_neg hkey, eq_zero_iff_toNat, hremaining, hwindow]
  refine ⟨last + count, ?_⟩
  unfold senderState
  by_cases hdone : last + count = T.packets
  · rw [if_pos (show T.packets - (last + count) = 0 by omega), if_pos hdone]
    exact ⟨_, by omega, by omega, hsender.setState now _, rfl⟩
  · rw [if_neg (show T.packets - (last + count) ≠ 0 by omega), if_neg hdone]
    by_cases hend : last + count = acknowledged + granted
    · rw [if_pos (show acknowledged + granted - (last + count) = 0 ∧ T.key.destination ≠ none
        from ⟨by omega, hkey⟩), if_pos hend]
      exact ⟨_, by omega, by omega, hsender.setState now _, rfl⟩
    · rw [if_neg (show ¬(acknowledged + granted - (last + count) = 0 ∧ _) by omega),
        if_neg hend]
      exact ⟨_, by omega, by omega, hsender, rfl⟩

theorem updateStateMachine_of_inTime {config : CANNetworkConfiguration} {env : Environment}
    {key : SessionKey} {limit : UInt32} (hlimit : timeoutMs key session = some limit)
    (htime : env.now - session.timestamp ≤ limit) :
    session.updateStateMachine config env key = (some session, []) := by
  have hnot : ∀ bound : UInt32, limit = bound → ¬env.timeElapsed session.timestamp > bound :=
    fun bound hbound => UInt32.not_lt.mpr (hbound ▸ htime)
  unfold timeoutMs at hlimit
  unfold updateStateMachine
  cases hstate : session.state with
  | waitForClearToSend =>
    rw [hstate] at hlimit
    exact if_neg (hnot _ (Option.some.inj hlimit).symm)
  | waitForEndOfMessageAcknowledge =>
    rw [hstate] at hlimit
    exact if_neg (hnot _ (Option.some.inj hlimit).symm)
  | waitForDataTransferPacket =>
    rw [hstate] at hlimit
    dsimp only at hlimit ⊢
    split_ifs at hlimit ⊢ with _ helapsed _ helapsed helapsed
    all_goals first
      | rfl
      | exact absurd helapsed (hnot _ (Option.some.inj hlimit).symm)
  | _ => simp [hstate] at hlimit

theorem update_of_valid {config : CANNetworkConfiguration} {env : Environment}
    {key : SessionKey} (hsource : (env.world key.source).getAddressValid = true)
    (hdestination : ∀ d ∈ key.destination, (env.world d).getAddressValid = true)
    (hstate : session.state ≠ .none) :
    session.update config env key = session.updateStateMachine config env key := by
  have hany : (key.destination.any fun d => !(env.world d).getAddressValid) = false := by
    cases hd : key.destination with
    | none => rfl
    | some d => simp [hdestination d hd]
  unfold TransportProtocolSession.update
  rw [hsource, hany, if_pos hstate]
  rfl

theorem update_sender_of_inTime (h : T.SenderAt state acknowledged granted last session)
    (hwait : state = .waitForClearToSend ∨ state = .waitForEndOfMessageAcknowledge)
    {moment : Moment} (htime : ∀ limit ∈ timeoutMs T.key session,
      moment.now - session.timestamp ≤ limit) :
    session.update T.senderConfiguration (T.senderEnvironment moment.now) T.key =
      (some session, []) := by
  have hlimit : timeoutMs T.key session = some T2_T3_TIMEOUT_MS := by
    unfold timeoutMs
    rcases hwait with rfl | rfl
    · rw [h.state_eq]
    · rw [h.state_eq]
  have hstate : session.state ≠ .none := by
    rcases hwait with rfl | rfl
    · simp [h.state_eq]
    · simp [h.state_eq]
  rw [update_of_valid T.source_valid_sender T.destination_valid_sender hstate]
  exact updateStateMachine_of_inTime hlimit (htime _ hlimit)

theorem receiveClearToSend_eq (h : T.SenderAt .waitForClearToSend acknowledged granted last session)
    (now : UInt32) {granted' : Nat} (hpos : 0 < granted') (hle : last + granted' ≤ T.packets) :
    ∃ session', T.SenderAt .sendDataTransferPackets last granted' last session' ∧
      session.receiveClearToSend (T.senderEnvironment now) T.key (UInt8.ofNat granted')
        (UInt8.ofNat (last + 1)) = (some session', []) := by
  have hpackets := T.packets_range
  have hnext : (UInt8.ofNat (last + 1)).toNat = last + 1 :=
    UInt8.toNat_ofNat_of_lt' (by change last + 1 < 256; omega)
  have hcount : (UInt8.ofNat granted').toNat = granted' :=
    UInt8.toNat_ofNat_of_lt' (by change granted' < 256; omega)
  have hin : ¬UInt8.ofNat (last + 1) > session.getTotalNumberOfPackets := by
    have htotal := toNat_total_of_size h.size_eq
    rw [gt_iff_lt, UInt8.lt_iff_toNat_lt, hnext, htotal]
    omega
  have hne : UInt8.ofNat granted' ≠ 0 := by
    rw [Ne, eq_zero_iff_toNat, hcount]
    omega
  have hback : UInt8.ofNat (last + 1) - 1 = session.lastSequenceNumber := by
    rw [UInt8.ofNat_add, ofNat_eq_of_toNat h.last_eq]
    exact UInt8.add_sub_cancel _ _
  unfold receiveClearToSend
  rw [if_neg hin, if_neg (not_not.mpr h.state_eq)]
  dsimp only
  rw [if_pos hne, hback]
  refine ⟨_, ?_, rfl⟩
  exact ⟨h.direction_eq, h.group_eq, h.data_eq, h.callback_eq, h.parent_eq, rfl, h.last_eq,
    hcount, h.last_eq⟩

theorem closeSession_eq (h : T.SenderAt state acknowledged granted last session)
    (successful : Bool) :
    session.closeSession T.key successful =
      (none, [.transmitComplete (T.completion successful)]) := by
  have hlength : session.totalMessageSize.toUInt32 = UInt32.ofNat T.data.length := by
    rw [← h.size_eq]
    simp
  unfold closeSession TransportProtocolSessionBase.complete
  rw [h.callback_eq, h.direction_eq, h.group_eq, h.parent_eq, hlength]
  rfl

theorem update_sender_window (hdestination : T.destination ≠ none)
    (h : T.SenderAt .sendDataTransferPackets acknowledged granted last session) (now : UInt32)
    (hlo : acknowledged ≤ last) (hhi : last < acknowledged + granted)
    (hmessage : acknowledged + granted ≤ T.packets) :
    ∃ last' session', last < last' ∧ last' ≤ acknowledged + granted ∧
      T.SenderAt (senderState T acknowledged granted last') acknowledged granted last' session' ∧
      session.update T.senderConfiguration (T.senderEnvironment now) T.key =
        (some session', sentEvents (framesBetween T.dataFrame last last')) := by
  rw [update_of_valid T.source_valid_sender T.destination_valid_sender (by simp [h.state_eq])]
  unfold updateStateMachine
  rw [h.state_eq]
  dsimp only
  rw [if_neg (fun hwait => hdestination hwait.1)]
  exact sendDataTransferPackets_eq hdestination h now hlo hhi hmessage

theorem update_broadcast_early (hdestination : T.destination = none)
    (h : T.SenderAt .sendDataTransferPackets acknowledged granted last session) {now : UInt32}
    (hearly : now - session.timestamp <
      T.senderConfiguration.minimumTimeBetweenTransportProtocolBAMFrames) :
    session.update T.senderConfiguration (T.senderEnvironment now) T.key = (some session, []) := by
  rw [update_of_valid T.source_valid_sender T.destination_valid_sender (by simp [h.state_eq])]
  unfold updateStateMachine
  rw [h.state_eq]
  exact if_pos ⟨hdestination, hearly⟩

theorem update_broadcast_due (hdestination : T.destination = none)
    (h : T.SenderAt .sendDataTransferPackets acknowledged granted last session) {now : UInt32}
    (hdue : ¬now - session.timestamp <
      T.senderConfiguration.minimumTimeBetweenTransportProtocolBAMFrames)
    (hlt : last < T.packets) :
    ∃ session', T.SenderAt .sendDataTransferPackets acknowledged granted (last + 1) session' ∧
      session.update T.senderConfiguration (T.senderEnvironment now) T.key =
        if last + 1 = T.packets then
          (none, [.frame (T.dataFrame (last + 1)) true, .transmitComplete (T.completion true)])
        else (some session', [.frame (T.dataFrame (last + 1)) true]) := by
  have hpackets := T.packets_range
  have hcount : (session.framesToSend T.senderConfiguration T.key).toNat = 1 := by
    rw [framesToSend, if_pos (show T.key.destination = none from hdestination)]
    rfl
  obtain ⟨hsender, -, hevents⟩ := sendFrames_eq h now (show last + 1 ≤ 255 by omega)
  refine ⟨_, hsender, ?_⟩
  have hdone : (sendFrames (T.senderEnvironment now) T.key 1 session).1.getNumberOfRemainingPackets
      = 0 ↔ last + 1 = T.packets := by
    rw [eq_zero_iff_toNat, toNat_remaining hsender.size_eq hsender.last_eq (by omega)]
    omega
  have hframes : framesBetween T.dataFrame last (last + 1) = [T.dataFrame (last + 1)] := by
    rw [framesBetween_of_lt T.dataFrame (Nat.lt_succ_self last), framesBetween_self]
  rw [update_of_valid T.source_valid_sender T.destination_valid_sender (by simp [h.state_eq])]
  unfold updateStateMachine
  rw [h.state_eq]
  dsimp only
  rw [if_neg (fun hwait => hdue hwait.2)]
  unfold sendDataTransferPackets
  dsimp only
  rw [hcount, hevents, closeSession_eq hsender, hframes]
  by_cases hend : last + 1 = T.packets
  · rw [if_pos (hdone.mpr hend), if_pos (show T.key.destination = none from hdestination),
      if_pos hend]
    rfl
  · rw [if_neg (fun hzero => hend (hdone.mp hzero)), if_neg (fun hwait => hwait.2 hdestination),
      if_neg hend]
    rfl

theorem update_receiver_of_inTime
    (h : T.ReceiverAt .waitForDataTransferPacket acknowledged granted last session)
    {moment : Moment} (htime : ∀ limit ∈ timeoutMs T.key session,
      moment.now - session.timestamp ≤ limit) :
    session.update T.receiverConfiguration (T.receiverEnvironment moment.now) T.key =
      (some session, []) := by
  obtain ⟨limit, hlimit⟩ : ∃ limit, timeoutMs T.key session = some limit := by
    unfold timeoutMs
    rw [h.state_eq]
    dsimp only
    split_ifs
    · exact ⟨_, rfl⟩
    · exact ⟨_, rfl⟩
    · exact ⟨_, rfl⟩
  rw [update_of_valid T.source_valid_receiver T.destination_valid_receiver
    (by simp [h.state_eq])]
  exact updateStateMachine_of_inTime hlimit (htime _ hlimit)

def grantFrame (T : TransportTransfer) (granted last : Nat) : TransmitFrame :=
  connectionManagementFrame CLEAR_TO_SEND_MULTIPLEXOR (UInt8.ofNat granted)
    (UInt8.ofNat (last + 1)) 0xFF 0xFF T.parameterGroupNumber T.destination (some T.source)

def acknowledgeFrame (T : TransportTransfer) : TransmitFrame :=
  connectionManagementFrame END_OF_MESSAGE_ACKNOWLEDGE_MULTIPLEXOR
    (byteOf (UInt16.ofNat T.data.length).toUInt32 0)
    (byteOf (UInt16.ofNat T.data.length).toUInt32 1) (UInt8.ofNat T.packets) 0xFF
    T.parameterGroupNumber T.destination (some T.source)

theorem packetsThisSegment_range (hsize : session.totalMessageSize.toNat = T.data.length)
    (hlimit : 0 < session.clearToSendPacketCountMax)
    (hlast : session.lastSequenceNumber.toNat = last) (hlt : last < T.packets) :
    0 < session.packetsThisSegment.toNat ∧
      last + session.packetsThisSegment.toNat ≤ T.packets := by
  have hremaining := toNat_remaining hsize hlast (Nat.le_of_lt hlt)
  have hpos := UInt8.lt_iff_toNat_lt.mp hlimit
  unfold packetsThisSegment getRtsNumberOfPacketLimit
  split_ifs with hover hmany
  · have hle := UInt8.lt_iff_toNat_lt.mp hover
    exact ⟨hpos, by omega⟩
  · have hle := UInt8.lt_iff_toNat_lt.mp hmany
    change 16 < session.getNumberOfRemainingPackets.toNat at hle
    change 0 < 16 ∧ last + 16 ≤ T.packets
    omega
  · omega

theorem sendClearToSend_eq (h : T.ReceiverAt state acknowledged granted last session) (now : UInt32)
    (hlt : last < T.packets) :
    ∃ granted' session', 0 < granted' ∧ last + granted' ≤ T.packets ∧
      T.ReceiverAt state last granted' last session' ∧
      session.sendClearToSend (T.receiverEnvironment now) T.key =
        (true, session', [.frame (grantFrame T granted' last) true]) := by
  obtain ⟨hpos, hle⟩ := packetsThisSegment_range h.size_eq h.limit_pos h.last_eq hlt
  refine ⟨session.packetsThisSegment.toNat,
    (session.setCtsNumberOfPackets now session.packetsThisSegment).setAcknowledgedPacketNumber
      now session.getLastPacketNumber, hpos, hle, ?_, ?_⟩
  · exact ⟨h.direction_eq, h.group_eq, h.size_eq, h.state_eq, h.limit_pos, h.last_eq, rfl,
      h.last_eq, h.filled⟩
  · have hframe : session.clearToSendFrame T.key =
        grantFrame T session.packetsThisSegment.toNat last := by
      have hnext : UInt8.ofNat (last + 1) = session.getLastPacketNumber + 1 := by
        rw [UInt8.ofNat_add, ofNat_eq_of_toNat h.last_eq]
        rfl
      rw [clearToSendFrame, grantFrame, UInt8.ofNat_toNat, hnext, h.group_eq]
      rfl
    unfold sendClearToSend
    dsimp only
    rw [if_pos (T.send_receiverEnvironment now _), hframe]
    rfl

theorem receiverAt_store (h : T.ReceiverAt state acknowledged granted last session) (now : UInt32)
    (hlt : last < T.packets) :
    ∃ session', session.copyIn (T.dataFrame (last + 1)).data.tail = some session' ∧
      T.ReceiverAt state acknowledged granted (last + 1)
        (session'.setLastSequencyNumber now (UInt8.ofNat (last + 1))) := by
  have hpackets := T.packets_range
  have hindex : session.currentDataIndex = 7 * last := by
    rw [← h.last_eq]
    rfl
  have hfits : session.currentDataIndex < session.getMessageLength.toNat := by
    rw [hindex]
    change 7 * last < session.totalMessageSize.toNat
    rw [h.size_eq]
    unfold packets at hlt
    omega
  refine ⟨_, copyIn_eq_some hfits, h.direction_eq, h.group_eq, h.size_eq, h.state_eq, h.limit_pos,
    h.acknowledged_eq, h.granted_eq, ?_, ?_⟩
  · exact UInt8.toNat_ofNat_of_lt' (by change last + 1 < 256; omega)
  · have hfilled := h.filled.overwrite (segment 0xFF T.data (7 * last) 7) session.bytesToCopy (by
      rw [length_segment, length_segment, session.data_length, bytesToCopy, hindex]
      rfl)
    rw [length_segment] at hfilled
    have hjoin := segment_append (0xFF : UInt8) T.data 0 (7 * last) 7
    rw [Nat.zero_add] at hjoin
    rw [hjoin] at hfilled
    change Filled (segment 0xFF T.data 0 (7 * (last + 1)))
      (overwrite session.data session.currentDataIndex _)
    rw [hindex]
    exact hfilled

theorem ReceiverAt.total_eq (h : T.ReceiverAt state acknowledged granted last session) :
    session.getTotalNumberOfPackets = UInt8.ofNat T.packets :=
  (ofNat_eq_of_toNat (toNat_total_of_size h.size_eq)).symm

theorem ReceiverAt.data_eq (h : T.ReceiverAt state acknowledged granted T.packets session) :
    session.data = T.data := by
  have hlength : session.data.length = T.data.length := by rw [session.data_length, h.size_eq]
  exact h.filled.eq_of_segment hlength (by unfold packets; omega)

theorem afterPacket_last (h : T.ReceiverAt state acknowledged granted T.packets session)
    (now : UInt32) (timestampUs : UInt64) :
    ∃ message, message.data = T.data ∧
      session.afterPacket (T.receiverEnvironment now) T.key timestampUs =
        (none, (if T.destination = none then []
          else [Event.frame (acknowledgeFrame T) true]) ++ [.messageReceived message]) := by
  have hremaining : session.getNumberOfRemainingPackets = 0 := by
    rw [eq_zero_iff_toNat, toNat_remaining h.size_eq h.last_eq (Nat.le_refl _), Nat.sub_self]
  have hacknowledge : session.endOfMessageAcknowledgeFrame T.key = acknowledgeFrame T := by
    have hlength : session.getMessageLength = UInt16.ofNat T.data.length :=
      (ofNat16_eq_of_toNat h.size_eq).symm
    rw [endOfMessageAcknowledgeFrame, h.total_eq, hlength, h.group_eq]
    rfl
  refine ⟨session.completedMessage (T.receiverEnvironment now) T.key timestampUs, h.data_eq, ?_⟩
  unfold afterPacket closeSession
  rw [if_pos hremaining]
  dsimp only
  rw [TransportProtocolSessionBase.complete_receive _ _ _ h.direction_eq, hacknowledge,
    List.append_nil]
  cases hd : T.destination with
  | none => simp [Transfer.key, hd]
  | some d => simp [Transfer.key, hd, Environment.offer]

theorem afterPacket_middle
    (h : T.ReceiverAt .waitForDataTransferPacket acknowledged granted last session)
    (now : UInt32) (timestampUs : UInt64) (hlt : last < T.packets) :
    (session.getCtsNumberOfPacketsRemaining ≠ 0 →
      session.afterPacket (T.receiverEnvironment now) T.key timestampUs = (some session, [])) ∧
    (session.getCtsNumberOfPacketsRemaining = 0 →
      ∃ granted' session', 0 < granted' ∧ last + granted' ≤ T.packets ∧
        T.ReceiverAt .waitForDataTransferPacket last granted' last session' ∧
        session.afterPacket (T.receiverEnvironment now) T.key timestampUs =
          (some session', [.frame (grantFrame T granted' last) true])) := by
  have hremaining : session.getNumberOfRemainingPackets ≠ 0 := by
    rw [Ne, eq_zero_iff_toNat, toNat_remaining h.size_eq h.last_eq (Nat.le_of_lt hlt)]
    omega
  unfold afterPacket
  rw [if_neg hremaining]
  constructor
  · intro hwindow
    rw [if_neg hwindow]
  · intro hwindow
    obtain ⟨granted', session', hpos, hle, hreceiver, heq⟩ := sendClearToSend_eq h now hlt
    refine ⟨granted', session', hpos, hle, hreceiver, ?_⟩
    rw [if_pos hwindow, heq]

theorem receiveDataTransfer_eq
    (h : T.ReceiverAt .waitForDataTransferPacket acknowledged granted last session)
    (now : UInt32) (hlt : last < T.packets) {message : CANMessage}
    (hdata : message.data = (T.dataFrame (last + 1)).data) :
    ∃ session', T.ReceiverAt .waitForDataTransferPacket acknowledged granted (last + 1) session' ∧
      session.receiveDataTransfer (T.receiverEnvironment now) T.key message =
        session'.afterPacket (T.receiverEnvironment now) T.key message.timestampUs := by
  have hpackets := T.packets_range
  have hnumber : message.getUint8At SEQUENCE_NUMBER_DATA_INDEX = UInt8.ofNat (last + 1) := by
    rw [CANMessage.getUint8At, hdata]
    rfl
  have htoNat : (UInt8.ofNat (last + 1)).toNat = last + 1 :=
    UInt8.toNat_ofNat_of_lt' (by change last + 1 < 256; omega)
  obtain ⟨stored, hcopy, hstored⟩ := receiverAt_store h now hlt
  refine ⟨_, hstored, ?_⟩
  have hindex : ¬session.currentDataIndex ≥ session.getMessageLength.toNat := by
    change ¬7 * session.lastSequenceNumber.toNat ≥ session.totalMessageSize.toNat
    rw [h.last_eq, h.size_eq]
    unfold packets at hlt
    omega
  unfold receiveDataTransfer
  dsimp only
  rw [hnumber, if_neg (not_not.mpr h.state_eq), if_neg, if_pos, if_neg hindex, hdata,
    List.drop_one, hcopy]
  · rfl
  · rw [htoNat]
    exact congrArg (· + 1) h.last_eq.symm
  · intro heq
    have := congrArg UInt8.toNat heq
    rw [htoNat] at this
    have hlast := h.last_eq
    unfold getLastSequenceNumber at this
    omega

end TransportTransfer

end Isobus.TransportProtocol
