import Isobus.ExtendedTransportProtocol.Sending
import Isobus.ExtendedTransportProtocol.ReceiveIntegrity

/-!
# What a clear to send is answered with

After a clear to send for packets from `k` on the session announces an offset and sends packets.
-/

namespace Isobus.ExtendedTransportProtocol

open Isobus.Can Isobus.Lib

/-- What the answer to a clear to send is made of. -/
inductive Item
  | offset (offset count : Nat)
  | packet (sequenceNumber : Nat)
  deriving DecidableEq

/-- The item that got out from one party to the other. -/
def sentItem (key : SessionKey) : Event → Option Item
  | .frame frame true =>
    if frame.source = some key.source ∧ frame.destination = key.destination then
      if frame.parameterGroupNumber = extendedTransportProtocolDataTransfer then
        some (.packet (frame.data.headD 0).toNat)
      else if frame.parameterGroupNumber = extendedTransportProtocolConnectionManagement ∧
          frame.data.headD 0 = DATA_PACKET_OFFSET_MULTIPLXOR then
        some (.offset (decode24 (frame.data.getD 2 0) (frame.data.getD 3 0)
          (frame.data.getD 4 0)).toNat (frame.data.getD 1 0).toNat)
      else none
    else none
  | _ => none

def packetsFrom (offset first count : Nat) : List Item :=
  (List.range' first count).map fun number => .packet (number - offset)

/-- The right answer: the packets `k .. k - 1 + m`, announced with the offset `k - 1`. -/
def answerTo (k m : Nat) : List Item := .offset (k - 1) m :: packetsFrom (k - 1) k m

def IsControl (e : Event) : Prop := ∀ key, sentItem key e = none

theorem filterMap_sentItem_of_isControl {key : SessionKey} {l : List Event}
    (h : ∀ e ∈ l, IsControl e) : l.filterMap (sentItem key) = [] := by
  rw [List.filterMap_eq_nil_iff]
  exact fun e he => h e he key

namespace ExtendedTransportProtocolSession

def Replying (session : ExtendedTransportProtocolSession) : Prop :=
  session.state = .sendDataPacketOffset ∨ session.state = .sendDataTransferPackets

def Waiting (session : ExtendedTransportProtocolSession) : Prop :=
  session.state = .waitForClearToSend ∨ session.state = .waitForEndOfMessageAcknowledge

instance (session : ExtendedTransportProtocolSession) : Decidable session.Replying :=
  inferInstanceAs (Decidable (_ ∨ _))

def Live (session : ExtendedTransportProtocolSession) : Prop := session.Replying ∨ session.Waiting

/-- A live session that stays as it is while it answers. -/
structure Rests (session session' : ExtendedTransportProtocolSession) : Prop where
  live : session.Live
  same : session.Replying → session' = session

theorem Rests.refl (session : ExtendedTransportProtocolSession) (h : session.Live) :
    Rests session session :=
  ⟨h, fun _ => rfl⟩

theorem Rests.trans (a b c : ExtendedTransportProtocolSession) (h : Rests a b)
    (h' : Rests b c) : Rests a c := by
  refine ⟨h.live, fun hr => ?_⟩
  have hab := h.same hr
  subst hab
  exact h'.same hr

variable {config : CANNetworkConfiguration} {env : Environment} {key : SessionKey}
variable {session : ExtendedTransportProtocolSession}

/-- A handler that does not answer for the session, and leaves it alone while it does. -/
abbrev Idles (session : ExtendedTransportProtocolSession) (outcome : Outcome) : Prop :=
  Admits Live Rests IsControl session outcome

theorem isControl_managementFrame {b₀ : UInt8} (b₁ b₂ b₃ b₄ : UInt8) (group : UInt32)
    (source destination : Option CFRef) (sent : Bool) (h : b₀ ≠ DATA_PACKET_OFFSET_MULTIPLXOR) :
    ∀ e ∈ [Event.frame (connectionManagementFrame b₀ b₁ b₂ b₃ b₄ group source destination) sent],
      IsControl e := by
  refine forall_mem_singleton fun key => ?_
  cases sent with
  | false => rfl
  | true =>
    simp [sentItem, connectionManagementFrame, extendedTransportProtocolConnectionManagement,
      extendedTransportProtocolDataTransfer, h]

theorem isControl_closeSession (session : ExtendedTransportProtocolSession) (successful : Bool) :
    ∀ e ∈ (session.closeSession key successful).2, IsControl e := by
  intro e he key'
  unfold closeSession TransportProtocolSessionBase.complete at he
  split at he
  · rw [List.mem_singleton.mp he]
    rfl
  · simp at he

theorem isControl_abortSession (session : ExtendedTransportProtocolSession)
    (reason : ConnectionAbortReason) :
    ∀ e ∈ (session.abortSession env key reason).2, IsControl e := by
  refine forall_mem_append ?_ (session.isControl_closeSession false)
  split
  · exact isControl_managementFrame _ _ _ _ _ _ _ _ (by decide)
  · exact forall_mem_nil

theorem idles_closeSession (session old : ExtendedTransportProtocolSession) (successful : Bool) :
    session.Idles (old.closeSession key successful) :=
  admits_none (old.isControl_closeSession successful)

theorem idles_abortSession (session old : ExtendedTransportProtocolSession)
    (reason : ConnectionAbortReason) : session.Idles (old.abortSession env key reason) :=
  admits_none (old.isControl_abortSession reason)

theorem idles_self {events : List Event} (h : ∀ e ∈ events, IsControl e) :
    session.Idles (some session, events) :=
  admits_some (Rests.refl session) h

theorem idles_of_not_live {session' : ExtendedTransportProtocolSession} {events : List Event}
    (hs : ¬session'.Live) (h : ∀ e ∈ events, IsControl e) :
    session.Idles (some session', events) :=
  admits_some (fun hlive => absurd hlive hs) h

theorem updateStateMachine_of_sendClearToSend (config : CANNetworkConfiguration)
    (env : Environment) (key : SessionKey) (hstate : session.state = .sendClearToSend) :
    (∀ session', (session.updateStateMachine config env key).1 = some session' →
      ¬session'.Live) ∧
    ∀ e ∈ (session.updateStateMachine config env key).2, IsControl e := by
  have hframe (sent : Bool) :
      ∀ e ∈ [Event.frame (session.clearToSendFrame key) sent], IsControl e :=
    isControl_managementFrame _ _ _ _ _ _ _ _ (by decide)
  unfold updateStateMachine
  rw [hstate]
  unfold advance sendClearToSend
  dsimp only
  split
  · refine ⟨fun session' h => ?_, hframe true⟩
    cases h
    simp [Live, Replying, Waiting, setState]
  · refine ⟨fun session' h => ?_, hframe false⟩
    cases h
    simp [Live, Replying, Waiting, hstate]

theorem isControl_updateStateMachine_of_sendRequestToSend
    (config : CANNetworkConfiguration) (env : Environment) (key : SessionKey)
    (hstate : session.state = .sendRequestToSend) :
    ∀ e ∈ (session.updateStateMachine config env key).2, IsControl e := by
  have hframe (sent : Bool) :
      ∀ e ∈ [Event.frame (session.requestToSendFrame key) sent], IsControl e :=
    isControl_managementFrame _ _ _ _ _ _ _ _ (by decide)
  unfold updateStateMachine
  rw [hstate]
  dsimp only
  unfold advance
  split
  · exact hframe _
  · exact hframe _

theorem idles_receiveClearToSend (packetsToBeSent : UInt8) (nextPacketNumber : UInt32)
    (session : ExtendedTransportProtocolSession) :
    session.Idles (session.receiveClearToSend env key packetsToBeSent nextPacketNumber) := by
  unfold receiveClearToSend
  split_ifs with _ hstate
  · exact idles_abortSession _ _ _
  · exact idles_abortSession _ _ _
  all_goals
    have hwait := not_not.mp hstate
    exact admits_some (fun _ => ⟨.inr (.inl hwait), by simp [Replying, hwait]⟩) forall_mem_nil

theorem idles_receiveDataPacketOffset (numberOfPackets : UInt8) (packetOffset : UInt32)
    (session : ExtendedTransportProtocolSession) :
    session.Idles (session.receiveDataPacketOffset env key numberOfPackets packetOffset) := by
  unfold receiveDataPacketOffset
  split_ifs with hstate
  · exact idles_abortSession _ _ _
  · exact idles_abortSession _ _ _
  · exact idles_abortSession _ _ _
  · exact idles_of_not_live (by simp [Live, Replying, Waiting, setState]) forall_mem_nil
  · exact idles_of_not_live (by simp [Live, Replying, Waiting, setLastSequencyNumber,
      setSequenceNumberOffset, setDpoNumberOfPackets, not_not.mp hstate]) forall_mem_nil

theorem idles_receiveEndOfMessageAcknowledge (numberOfBytesTransferred : UInt32)
    (session : ExtendedTransportProtocolSession) :
    session.Idles (session.receiveEndOfMessageAcknowledge key numberOfBytesTransferred) := by
  unfold receiveEndOfMessageAcknowledge
  split_ifs
  · exact idles_closeSession _ _ _
  · exact idles_self forall_mem_nil

theorem idles_afterPacket (session : ExtendedTransportProtocolSession) (timestampUs : UInt64)
    {session' : ExtendedTransportProtocolSession} (hs : ¬session'.Live) :
    session.Idles (session'.afterPacket config env key timestampUs) := by
  unfold afterPacket
  split_ifs
  · refine admits_none (forall_mem_append ?_ (session'.isControl_closeSession true))
    intro e he
    rcases List.mem_cons.mp he with rfl | he
    · exact isControl_managementFrame _ _ _ _ _ _ _ (env.send _) (by decide) _
        (List.mem_singleton.mpr rfl)
    · rw [List.mem_singleton.mp he]
      exact fun _ => rfl
  · obtain ⟨hvalue, houtputs⟩ := updateStateMachine_of_sendClearToSend config env key
      (show (session'.setState env.now .sendClearToSend).state = .sendClearToSend from rfl)
    exact ⟨fun session'' h hr => absurd hr (hvalue session'' h), houtputs⟩
  · exact idles_of_not_live hs forall_mem_nil

theorem idles_receiveDataTransfer (message : CANMessage)
    (session : ExtendedTransportProtocolSession) :
    session.Idles (session.receiveDataTransfer config env key message) := by
  unfold receiveDataTransfer
  dsimp only
  split_ifs with hstate _ _ hindex
  · exact idles_abortSession _ _ _
  · exact idles_abortSession _ _ _
  · exact idles_abortSession _ _ _
  · rw [copyIn_eq_some (UInt32.not_le.mp hindex)]
    exact idles_afterPacket session _ (by simp [Live, Replying, Waiting, setLastSequencyNumber,
      overwriteData, not_not.mp hstate])
  · exact idles_abortSession _ _ _

end ExtendedTransportProtocolSession

open ExtendedTransportProtocolSession

variable {config : CANNetworkConfiguration} {env : Environment}
variable {sessions : ActiveSessions} {key : SessionKey} {input : Input}

/-- A call that does not answer, and leaves an answering session alone. -/
abbrev IdlesAt (key : SessionKey) (sessions : ActiveSessions) (reply : Reply) : Prop :=
  KeyedTable.AdmitsAt Live Rests IsControl key sessions reply

theorem idlesAt_dispatch {k : SessionKey} {f : ExtendedTransportProtocolSession → Outcome}
    (h : ∀ session : ExtendedTransportProtocolSession, session.Idles (f session)) :
    IdlesAt key sessions (sessions.dispatch k f) :=
  KeyedTable.admitsAt_dispatch Rests.refl fun session _ => h session

theorem IdlesAt.trans {u v : ActiveSessions} {events events' : List Event}
    (h : IdlesAt key sessions (u, events)) (h' : IdlesAt key u (v, events')) :
    IdlesAt key sessions (v, events ++ events') :=
  KeyedTable.AdmitsAt.trans (fun _ _ h => h.live) Rests.trans h h'

theorem idlesAt_idle {events : List Event} (h : ∀ e ∈ events, IsControl e) :
    IdlesAt key sessions (sessions, events) :=
  KeyedTable.admitsAt_idle Rests.refl h

theorem isControl_sendAbort (sender receiver : CFRef) (group : UInt32)
    (reason : ConnectionAbortReason) :
    ∀ e ∈ [sendAbort env sender receiver group reason], IsControl e :=
  isControl_managementFrame _ _ _ _ _ _ _ _ (by decide)

theorem idlesAt_processRequestToSend (source destination : CFRef) (group length : UInt32) :
    IdlesAt key sessions
      (processRequestToSend config env source destination group length sessions) := by
  unfold processRequestToSend
  split_ifs
  · exact idlesAt_idle (isControl_sendAbort _ _ _ _)
  · refine IdlesAt.trans (idlesAt_dispatch fun session => ?_) ?_
    · split_ifs
      · exact idles_abortSession _ _ _
      · exact idles_closeSession _ _ _
    · obtain ⟨hvalue, houtputs⟩ := updateStateMachine_of_sendClearToSend config env
        ⟨source, some destination⟩ (show ((receiveSession group length
          config.numberOfPacketsPerDPOMessage).setState env.now .sendClearToSend).state =
            .sendClearToSend from rfl)
      exact KeyedTable.admitsAt_push_dispatch Rests.refl (fun _ => hvalue) houtputs

theorem idlesAt_processClearToSend (source destination : CFRef) (group : UInt32)
    (packetsToBeSent : UInt8) (nextPacketNumber : UInt32) :
    IdlesAt key sessions
      (processClearToSend env source destination group packetsToBeSent nextPacketNumber
        sessions) := by
  refine idlesAt_dispatch fun session => ?_
  split_ifs
  · exact admits_none (forall_mem_append (session.isControl_abortSession _)
      (isControl_sendAbort _ _ _ _))
  · exact idles_receiveClearToSend _ _ session

theorem idlesAt_processDataPacketOffset (source destination : CFRef) (group : UInt32)
    (numberOfPackets : UInt8) (packetOffset : UInt32) :
    IdlesAt key sessions
      (processDataPacketOffset env source destination group numberOfPackets packetOffset
        sessions) := by
  refine idlesAt_dispatch fun session => ?_
  split_ifs
  · exact admits_none (forall_mem_append (session.isControl_abortSession _)
      (isControl_sendAbort _ _ _ _))
  · exact idles_receiveDataPacketOffset _ _ session

theorem idlesAt_processAbort (source destination : CFRef) (group : UInt32) :
    IdlesAt key sessions (processAbort source destination group sessions) := by
  have hclose (k : SessionKey) (session : ExtendedTransportProtocolSession) :
      session.Idles (if session.parameterGroupNumber = group then session.closeSession k false
        else (some session, [])) := by
    split_ifs
    · exact idles_closeSession _ _ _
    · exact idles_self forall_mem_nil
  exact IdlesAt.trans (idlesAt_dispatch (hclose _)) (idlesAt_dispatch (hclose _))

theorem idlesAt_processMessage (message : CANMessage) :
    IdlesAt key sessions (processMessage config env message sessions) := by
  rcases processMessage_cases config env message sessions with
    hidle | ⟨source, destination, -, ⟨-, heq⟩ | ⟨-, heq⟩⟩
  · rw [hidle]
    exact idlesAt_idle forall_mem_nil
  · rw [heq]
    unfold processConnectionManagementMessage
    dsimp only
    split_ifs
    · exact idlesAt_idle forall_mem_nil
    · exact idlesAt_processRequestToSend _ _ _ _
    · exact idlesAt_processClearToSend _ _ _ _ _
    · exact idlesAt_processDataPacketOffset _ _ _ _ _
    · exact idlesAt_dispatch fun session => idles_receiveEndOfMessageAcknowledge _ session
    · exact idlesAt_processAbort _ _ _
    · exact idlesAt_idle forall_mem_nil
  · rw [heq]
    exact idlesAt_dispatch fun session => idles_receiveDataTransfer message session

theorem idlesAt_protocolTransmitMessage (request : TransmitRequest)
    (h : sessions.lookup key ≠ none) :
    IdlesAt key sessions (protocolTransmitMessage config env request sessions) := by
  have hanswer (accepted : Bool) : ∀ e ∈ [Event.transmitAnswered accepted], IsControl e :=
    forall_mem_singleton fun _ => rfl
  unfold protocolTransmitMessage
  split
  · exact idlesAt_idle (hanswer false)
  · rename_i k session hsession
    obtain ⟨hfree, hstate⟩ : sessions.lookup k = none ∧ session.state = .sendRequestToSend := by
      unfold requestedSession at hsession
      split at hsession
      · simp at hsession
      · split at hsession
        · split_ifs at hsession with hcond
          cases hsession
          exact ⟨hcond.2.2, rfl⟩
        · simp at hsession
    refine IdlesAt.trans (KeyedTable.admitsAt_push_dispatch Rests.refl ?_
      (isControl_updateStateMachine_of_sendRequestToSend config env k hstate))
      (idlesAt_idle (hanswer true))
    rintro rfl
    exact absurd hfree h

namespace ExtendedTransportProtocolSession

variable {session : ExtendedTransportProtocolSession}

inductive Pending (config : CANNetworkConfiguration) (k m : Nat)
    (session : ExtendedTransportProtocolSession) : List Item → Prop
  | announcing (hstate : session.state = .sendDataPacketOffset)
      (hlast : session.getLastPacketNumber.toNat = k - 1)
      (hacknowledged : session.lastAcknowledgedPacketNumber.toNat = k - 1)
      (hcount : (session.packetsThisSegment config).toNat = m) :
      Pending config k m session (answerTo k m)
  | sending {j : Nat} (hstate : session.state = .sendDataTransferPackets)
      (hoffset : session.sequenceNumberOffset.toNat = k - 1)
      (hacknowledged : session.lastAcknowledgedPacketNumber.toNat = k - 1)
      (hcount : session.dataPacketOffsetPacketCount.toNat = m)
      (hlast : session.lastSequenceNumber.toNat = j) (hlt : j < m) :
      Pending config k m session (packetsFrom (k - 1) (k + j) (m - j))

variable {j m k : Nat}

variable {offset : Nat} {rest : List Item}

theorem toNat_getLastPacketNumber (hoffset : session.sequenceNumberOffset.toNat = offset)
    (hlast : session.lastSequenceNumber.toNat = j) (hlt : offset + j < 2 ^ 32) :
    session.getLastPacketNumber.toNat = offset + j := by
  unfold getLastPacketNumber
  rw [UInt32.toNat_add, UInt8.toNat_toUInt32, hoffset, hlast, Nat.add_comm j]
  exact Nat.mod_eq_of_lt hlt

theorem toNat_getDpoNumberOfPacketsRemaining
    (hlast : session.getLastPacketNumber.toNat = offset + j)
    (hacknowledged : session.lastAcknowledgedPacketNumber.toNat = offset)
    (hcount : session.dataPacketOffsetPacketCount.toNat = m) (hle : j ≤ m) :
    session.getDpoNumberOfPacketsRemaining.toNat = m - j := by
  have hm := session.dataPacketOffsetPacketCount.toNat_lt
  have hsince : (session.getLastPacketNumber - session.lastAcknowledgedPacketNumber).toNat = j := by
    rw [UInt32.toNat_sub_of_le _ _ (UInt32.le_iff_toNat_le.mpr (by omega)), hlast, hacknowledged]
    omega
  have hbyte : (session.getLastPacketNumber -
      session.lastAcknowledgedPacketNumber).toUInt8.toNat = j := by
    rw [UInt32.toNat_toUInt8, hsince]
    exact Nat.mod_eq_of_lt (by omega)
  unfold getDpoNumberOfPacketsRemaining
  rw [UInt8.toNat_sub_of_le _ _ (UInt8.le_iff_toNat_le.mpr (by omega)), hbyte, hcount]

theorem toNat_getNumberOfRemainingPackets {last : Nat}
    (hlast : session.getLastPacketNumber.toNat = last)
    (hle : last ≤ session.getTotalNumberOfPackets.toNat) :
    session.getNumberOfRemainingPackets.toNat =
      session.getTotalNumberOfPackets.toNat - last := by
  unfold getNumberOfRemainingPackets
  rw [UInt32.toNat_sub_of_le _ _ (UInt32.le_iff_toNat_le.mpr (by omega)), hlast]

theorem packetsFrom_append (offset first : Nat) {a b : Nat} (h : a ≤ b) :
    packetsFrom offset first b =
      packetsFrom offset first a ++ packetsFrom offset (first + a) (b - a) := by
  unfold packetsFrom
  rw [← List.map_append, List.range'_append_1, Nat.add_sub_cancel' h]

theorem sentItem_dataTransferFrame (session : ExtendedTransportProtocolSession) :
    sentItem key (.frame (session.dataTransferFrame key) true) =
      some (.packet (session.lastSequenceNumber + 1).toNat) := by
  unfold sentItem
  dsimp only
  rw [if_pos ⟨rfl, rfl⟩]
  exact if_pos rfl

theorem sentItem_dataPacketOffsetFrame (hlast : session.getLastPacketNumber.toNat = offset)
    (hlt : offset < 2 ^ 24) :
    sentItem key (.frame (session.dataPacketOffsetFrame config key) true) =
      some (.offset offset (session.packetsThisSegment config).toNat) := by
  have hgroup : ¬(session.dataPacketOffsetFrame config key).parameterGroupNumber =
      extendedTransportProtocolDataTransfer := by
    change ¬extendedTransportProtocolConnectionManagement = extendedTransportProtocolDataTransfer
    decide
  have hbytes : decode24 (byteOf session.getLastPacketNumber 0)
      (byteOf session.getLastPacketNumber 1) (byteOf session.getLastPacketNumber 2) =
      session.getLastPacketNumber := decode24_byteOf _ (by omega)
  unfold sentItem
  dsimp only
  rw [if_pos ⟨rfl, rfl⟩, if_neg hgroup, if_pos ⟨rfl, rfl⟩]
  change some (Item.offset (decode24 (byteOf session.getLastPacketNumber 0)
      (byteOf session.getLastPacketNumber 1) (byteOf session.getLastPacketNumber 2)).toNat
    (session.packetsThisSegment config).toNat) = _
  rw [hbytes, hlast]

theorem sentItems_of_batch {n sent : Nat} (h : Batch env key n session sent)
    (hlast : session.lastSequenceNumber.toNat = j) (hlt : j + sent < 256) (offset : Nat) :
    ((sendFrames env key n session).2).filterMap (sentItem key) =
      packetsFrom offset (offset + 1 + j) sent := by
  rw [h.events_eq, List.filterMap_append]
  have hrefused : (if sent < n then
      [Event.frame ((session.ahead env.now sent).dataTransferFrame key) false] else []).filterMap
      (sentItem key) = [] := by
    split_ifs <;> rfl
  rw [hrefused, List.append_nil, List.filterMap_map, packetsFrom, List.range'_eq_map_range,
    List.map_map, ← List.filterMap_eq_map]
  apply List.filterMap_congr
  intro i hi
  have hi := List.mem_range.mp hi
  rw [Function.comp_apply, sentItem_dataTransferFrame, UInt8.toNat_add,
    toNat_ahead env.now (by omega), hlast]
  simp only [Function.comp_apply, Option.some.injEq, Item.packet.injEq]
  rw [Nat.mod_eq_of_lt (by change j + i + 1 < 256; omega)]
  change j + i + 1 = _
  omega

/-- An update sends the next items of an answer, and goes on, waits when none is left, or is gone.
-/
structure Advances (config : CANNetworkConfiguration) (key : SessionKey) (k m total : Nat)
    (rest : List Item) (outcome : Outcome) (rest' : List Item) : Prop where
  sent : rest = outcome.2.filterMap (sentItem key) ++ rest'
  next : ∀ session', outcome.1 = some session' →
    session'.getTotalNumberOfPackets.toNat = total ∧
      (Pending config k m session' rest' ∨ rest' = [] ∧ ¬session'.Replying)

theorem advances_idle {events : List Event} (h : Pending config k m session rest)
    (hevents : events.filterMap (sentItem key) = []) :
    Advances config key k m session.getTotalNumberOfPackets.toNat rest
      (some session, events) rest where
  sent := by rw [hevents, List.nil_append]
  next := by
    intro session' hsome
    cases hsome
    exact ⟨rfl, .inl h⟩

theorem advances_none {total : Nat} {events : List Event} (hevents : ∀ e ∈ events, IsControl e) :
    Advances config key k m total rest (none, events) rest where
  sent := by rw [filterMap_sentItem_of_isControl hevents, List.nil_append]
  next := by simp

theorem advances_announcing (hk : 1 ≤ k) (hlt : k < 2 ^ 24) (hm : 1 ≤ m)
    (hlast : session.getLastPacketNumber.toNat = k - 1)
    (hacknowledged : session.lastAcknowledgedPacketNumber.toNat = k - 1)
    (hcount : (session.packetsThisSegment config).toNat = m)
    (hstate : session.state = .sendDataPacketOffset) :
    ∃ rest', Advances config key k m session.getTotalNumberOfPackets.toNat (answerTo k m)
      (advance env .sendDataTransferPackets
        (session.sendDataPacketOffset config env key)) rest' := by
  unfold advance sendDataPacketOffset
  by_cases hsend : env.send (session.dataPacketOffsetFrame config key) = true
  · rw [if_pos hsend]
    refine ⟨packetsFrom (k - 1) (k + 0) (m - 0), ?_, ?_⟩
    · simp only [if_pos, List.filterMap_cons, List.filterMap_nil,
        sentItem_dataPacketOffsetFrame hlast (show k - 1 < 2 ^ 24 by omega), hcount]
      rfl
    · intro session' hsome
      cases hsome
      exact ⟨rfl, .inl (.sending rfl hlast hacknowledged hcount rfl hm)⟩
  · rw [if_neg hsend]
    exact ⟨_, advances_idle (.announcing hstate hlast hacknowledged hcount) rfl⟩

theorem advances_sending (hk : 1 ≤ k)
    (hinside : k - 1 + m ≤ session.getTotalNumberOfPackets.toNat)
    (hstate : session.state = .sendDataTransferPackets)
    (hoffset : session.sequenceNumberOffset.toNat = k - 1)
    (hacknowledged : session.lastAcknowledgedPacketNumber.toNat = k - 1)
    (hcount : session.dataPacketOffsetPacketCount.toNat = m)
    (hlast : session.lastSequenceNumber.toNat = j) (hlt : j < m) :
    ∃ rest', Advances config key k m session.getTotalNumberOfPackets.toNat
      (packetsFrom (k - 1) (k + j) (m - j))
      (session.sendDataTransferPackets config env key) rest' := by
  have htotal := session.getTotalNumberOfPackets.toNat_lt
  have hm := session.dataPacketOffsetPacketCount.toNat_lt
  have hnumber := toNat_getLastPacketNumber hoffset hlast (by omega)
  have hleft := toNat_getDpoNumberOfPacketsRemaining hnumber hacknowledged hcount
    (Nat.le_of_lt hlt)
  have hframes : (session.framesToSend config).toNat ≤ m - j := by
    unfold framesToSend
    split_ifs with hcap
    · have := UInt8.lt_iff_toNat_lt.mp hcap
      omega
    · omega
  obtain ⟨sent, hbatch⟩ := exists_batch env key (session.framesToSend config).toNat session
  have hsent := hbatch.le
  have hlast' := toNat_ahead env.now (show session.lastSequenceNumber.toNat + sent < 256 by omega)
  rw [hlast] at hlast'
  have hnumber' : (session.ahead env.now sent).getLastPacketNumber.toNat = k - 1 + (j + sent) :=
    toNat_getLastPacketNumber hoffset hlast' (by omega)
  have hwindow : (session.ahead env.now sent).getDpoNumberOfPacketsRemaining.toNat =
      m - (j + sent) :=
    toNat_getDpoNumberOfPacketsRemaining hnumber' hacknowledged hcount (by omega)
  have hremaining : (session.ahead env.now sent).getNumberOfRemainingPackets.toNat =
      session.getTotalNumberOfPackets.toNat - (k - 1 + (j + sent)) :=
    toNat_getNumberOfRemainingPackets hnumber'
      (show _ ≤ session.getTotalNumberOfPackets.toNat by omega)
  have hitems := sentItems_of_batch hbatch hlast (by omega) (k - 1)
  rw [show k - 1 + 1 + j = k + j by omega] at hitems
  refine ⟨packetsFrom (k - 1) (k + (j + sent)) (m - (j + sent)), ?_⟩
  have hsplit : packetsFrom (k - 1) (k + j) (m - j) =
      packetsFrom (k - 1) (k + j) sent ++
        packetsFrom (k - 1) (k + (j + sent)) (m - (j + sent)) := by
    rw [packetsFrom_append (k - 1) (k + j) (show sent ≤ m - j by omega), Nat.add_assoc k,
      Nat.sub_sub]
  have hover (h : j + sent = m) : packetsFrom (k - 1) (k + (j + sent)) (m - (j + sent)) = [] := by
    rw [h, Nat.sub_self]
    rfl
  unfold sendDataTransferPackets
  dsimp only
  rw [hbatch.session_eq]
  split_ifs with hdone hthrough
  · rw [← UInt32.toNat_inj, hremaining] at hdone
    refine ⟨by rw [hitems, hsplit], fun session' hsome => ?_⟩
    cases hsome
    refine ⟨rfl, .inr ⟨hover ?_, by simp [Replying, setState]⟩⟩
    change _ = 0 at hdone
    omega
  · rw [← UInt8.toNat_inj, hwindow] at hthrough
    refine ⟨by rw [hitems, hsplit], fun session' hsome => ?_⟩
    cases hsome
    refine ⟨rfl, .inr ⟨hover ?_, by simp [Replying, setState]⟩⟩
    change _ = 0 at hthrough
    omega
  · rw [← UInt8.toNat_inj, hwindow] at hthrough
    change ¬_ = 0 at hthrough
    refine ⟨by rw [hitems, hsplit], fun session' hsome => ?_⟩
    cases hsome
    exact ⟨rfl, .inl (.sending hstate hoffset hacknowledged hcount hlast' (by omega))⟩

theorem advances_update (hk : 1 ≤ k) (hlt : k < 2 ^ 24) (hm : 1 ≤ m)
    (hinside : k - 1 + m ≤ session.getTotalNumberOfPackets.toNat)
    (h : Pending config k m session rest) :
    ∃ rest', Advances config key k m session.getTotalNumberOfPackets.toNat rest
      (session.update config env key) rest' := by
  have hstate : session.state ≠ .none := by
    cases h with
    | announcing hstate => simp [hstate]
    | sending hstate => simp [hstate]
  unfold update
  rw [if_pos hstate]
  split_ifs
  · exact ⟨_, advances_none (session.isControl_closeSession false)⟩
  · exact ⟨_, advances_none (session.isControl_closeSession false)⟩
  · unfold updateStateMachine
    cases h with
    | announcing hstate hlast hacknowledged hcount =>
      rw [hstate]
      exact advances_announcing hk hlt hm hlast hacknowledged hcount hstate
    | sending hstate hoffset hacknowledged hcount hlast hlt' =>
      rw [hstate]
      exact advances_sending hk hinside hstate hoffset hacknowledged hcount hlast hlt'

theorem sentItem_of_parties {k : SessionKey} {frame : TransmitFrame} (sent : Bool)
    (hsource : frame.source = some k.source) (hdestination : frame.destination = k.destination)
    (hne : k ≠ key) : sentItem key (.frame frame sent) = none := by
  cases sent with
  | false => rfl
  | true =>
    unfold sentItem
    dsimp only
    rw [if_neg]
    rintro ⟨hs, hd⟩
    obtain ⟨source, destination⟩ := k
    obtain ⟨source', destination'⟩ := key
    obtain rfl : source = source' := Option.some.inj (hsource.symm.trans hs)
    obtain rfl : destination = destination' := hdestination.symm.trans hd
    exact hne rfl

theorem sentItem_update_of_ne {k : SessionKey} (hne : k ≠ key)
    (session : ExtendedTransportProtocolSession) :
    ∀ e ∈ (session.update config env k).2, sentItem key e = none := by
  have hclose : ∀ e ∈ (session.closeSession k false).2, IsControl e :=
    session.isControl_closeSession false
  have habort (reason : ConnectionAbortReason) :
      ∀ e ∈ (session.abortSession env k reason).2, IsControl e :=
    session.isControl_abortSession reason
  unfold update
  split_ifs
  · exact fun e he => hclose e he key
  · exact fun e he => hclose e he key
  · unfold updateStateMachine
    split
    case h_1 => exact forall_mem_nil
    case h_2 hstate =>
      have hcontrol := isControl_updateStateMachine_of_sendRequestToSend config env k hstate
      unfold updateStateMachine at hcontrol
      rw [hstate] at hcontrol
      exact fun e he => hcontrol e he key
    case h_3 =>
      split_ifs
      · exact fun e he => habort _ e he key
      · exact fun e he => hclose e he key
      · exact forall_mem_nil
    case h_4 hstate =>
      have hcontrol := (updateStateMachine_of_sendClearToSend config env k hstate).2
      unfold updateStateMachine at hcontrol
      rw [hstate] at hcontrol
      exact fun e he => hcontrol e he key
    case h_6 =>
      unfold advance sendDataPacketOffset
      dsimp only
      split
      · exact forall_mem_singleton (sentItem_of_parties _ rfl rfl hne)
      · exact forall_mem_singleton (sentItem_of_parties _ rfl rfl hne)
    case h_7 =>
      have hframes : ∀ e ∈ (sendFrames env k (session.framesToSend config).toNat session).2,
          sentItem key e = none := by
        obtain ⟨sent, hbatch⟩ := exists_batch env k (session.framesToSend config).toNat
          session
        rw [hbatch.events_eq]
        refine forall_mem_append ?_ ?_
        · intro e he
          obtain ⟨i, -, rfl⟩ := List.mem_map.mp he
          exact sentItem_of_parties _ rfl rfl hne
        · split_ifs
          · exact forall_mem_singleton (sentItem_of_parties _ rfl rfl hne)
          · exact forall_mem_nil
      unfold sendDataTransferPackets
      dsimp only
      split_ifs
      · exact hframes
      · exact hframes
      · exact hframes
    all_goals
      split_ifs
      · exact fun e he => habort _ e he key
      · exact forall_mem_nil
  · exact forall_mem_nil

theorem packetsThisSegment_range (hremaining : 0 < session.getNumberOfRemainingPackets.toNat)
    (hlimit : 0 < session.clearToSendPacketCountLimit)
    (hconfigured : 0 < config.numberOfPacketsPerDPOMessage) :
    0 < (session.packetsThisSegment config).toNat ∧
      (session.packetsThisSegment config).toNat ≤
        session.clearToSendPacketCountLimit.toNat ∧
      (session.packetsThisSegment config).toNat ≤
        session.getNumberOfRemainingPackets.toNat := by
  have hlimit := UInt8.lt_iff_toNat_lt.mp hlimit
  have hconfigured := UInt8.lt_iff_toNat_lt.mp hconfigured
  change 0 < _ at hlimit
  change 0 < _ at hconfigured
  obtain ⟨most, hmost, hpos, hle⟩ : ∃ most : UInt8,
      (if 0xFF > session.getNumberOfRemainingPackets then
        session.getNumberOfRemainingPackets.toUInt8 else 0xFF) = most ∧ 0 < most.toNat ∧
        most.toNat ≤ session.getNumberOfRemainingPackets.toNat := by
    refine ⟨_, rfl, ?_⟩
    split_ifs with hfew
    · have hlt := UInt32.lt_iff_toNat_lt.mp hfew
      change _ < 255 at hlt
      rw [UInt32.toNat_toUInt8, Nat.mod_eq_of_lt (by omega)]
      exact ⟨hremaining, Nat.le_refl _⟩
    · have hge := UInt32.le_iff_toNat_le.mp (UInt32.not_lt.mp hfew)
      change 255 ≤ _ at hge
      exact ⟨by decide, hge⟩
  unfold packetsThisSegment getCtsNumberOfPacketLimit
  dsimp only
  rw [hmost]
  split_ifs with h₁ h₂ h₂
  all_goals simp only [gt_iff_lt, UInt8.lt_iff_toNat_lt] at *
  all_goals omega

end ExtendedTransportProtocolSession

/-- A clear to send that a sending session accepts. -/
structure Grant where
  session : ExtendedTransportProtocolSession
  packetsToBeSent : UInt8
  nextPacketNumber : UInt32
  deriving DecidableEq

/-- The clear to send for the session of this key, when it asks for one of its packets and is waited
for. -/
def grantOf (sessions : ActiveSessions) (key : SessionKey) (input : Input) : Option Grant :=
  match input.call, sessions.lookup key, key.destination with
  | .processMessage message, some session, some destination =>
    if Managed CLEAR_TO_SEND_MULTIPLEXOR input.env ⟨destination, some key.source⟩ message ∧
        session.parameterGroupNumber = message.getUint24At 5 ∧
        message.getUint24At 2 ≤ session.getTotalNumberOfPackets ∧
        session.state = .waitForClearToSend then
      some ⟨session, message.getUint8At 1, message.getUint24At 2⟩
    else none
  | _, _, _ => none

def Grant.accepted (grant : Grant) (now : UInt32) : ExtendedTransportProtocolSession :=
  ((grant.session.setAcknowledgedPacketNumber now
    (grant.nextPacketNumber - 1)).setCtsNumberOfPacketLimit now grant.packetsToBeSent).setState now
      .sendDataPacketOffset

theorem grantOf_eq_some {grant : Grant} (h : grantOf sessions key input = some grant) :
    grant.nextPacketNumber ≤ grant.session.getTotalNumberOfPackets ∧
      grant.nextPacketNumber.toNat < 2 ^ 24 := by
  unfold grantOf at h
  split at h
  · split_ifs at h with hcond
    cases h
    exact ⟨hcond.2.2.1, decode24_toNat_lt _ _ _⟩
  · simp at h

theorem lookup_next_of_grant {grant : Grant} (h : grantOf sessions key input = some grant)
    (hn : grant.packetsToBeSent ≠ 0) :
    ((extendedTransportProtocolManager config).next sessions input).lookup key =
      some (grant.accepted input.env.now) := by
  obtain ⟨env, call⟩ := input
  obtain ⟨source, destination⟩ := key
  unfold grantOf at h
  split at h
  · rename_i message session destination' hcall hlookup hdestination
    split_ifs at h with hcond
    obtain ⟨⟨haddressed, hgroup, hmultiplexor⟩, hpgn, hnumber, hstate⟩ := hcond
    cases h
    subst hdestination hcall
    change (processMessage config env message sessions).1.lookup _ = _
    rw [processMessage_connectionManagement haddressed hgroup,
      processConnectionManagementMessage, if_neg (not_not.mpr haddressed.2.2.2.2.symm)]
    rw [hmultiplexor, if_neg (by decide), if_pos rfl, processClearToSend]
    rw [KeyedTable.lookup_dispatch, if_pos rfl, hlookup, Option.bind_some,
      if_neg (not_not.mpr hpgn), receiveClearToSend, if_neg (UInt32.not_lt.mpr hnumber),
      if_neg (not_not.mpr hstate)]
    rw [if_pos hn]
    rfl
  · simp at h

def ReplyingAt (key : SessionKey) (sessions : ActiveSessions) : Prop :=
  ((sessions.lookup key).any fun session => decide session.Replying) = true

instance (key : SessionKey) (sessions : ActiveSessions) : Decidable (ReplyingAt key sessions) :=
  inferInstanceAs (Decidable (_ = true))

/-- The session of this key has these items of its answer still to send. -/
def PendingAt (config : CANNetworkConfiguration) (key : SessionKey) (k m total : Nat)
    (rest : List Item) (sessions : ActiveSessions) : Prop :=
  ∀ session, sessions.lookup key = some session → session.Live →
    session.getTotalNumberOfPackets.toNat = total ∧
      (Pending config k m session rest ∨ rest = [] ∧ ¬session.Replying)

theorem pendingAt_next {k m total : Nat} {rest : List Item} (hk : 1 ≤ k) (hlt : k < 2 ^ 24)
    (hm : 1 ≤ m) (hinside : k - 1 + m ≤ total)
    (h : PendingAt config key k m total rest sessions)
        (hreplying : ReplyingAt key sessions) :
    ∃ rest', rest = ((extendedTransportProtocolManager config).emits sessions
        input).filterMap (sentItem key) ++ rest' ∧
      PendingAt config key k m total rest'
        ((extendedTransportProtocolManager config).next sessions input) := by
  obtain ⟨session, hlookup, hdecide⟩ := (Option.any_eq_true _ _).mp hreplying
  have hr : session.Replying := of_decide_eq_true hdecide
  obtain ⟨htotal, hpending⟩ := h session hlookup (.inl hr)
  have hpending := hpending.resolve_right fun hend => hend.2 hr
  have hidles (reply : Reply) (hreply : IdlesAt key sessions reply) :
      ∃ rest', rest = reply.2.filterMap (sentItem key) ++ rest' ∧
        PendingAt config key k m total rest' reply.1 := by
    refine ⟨rest, by rw [filterMap_sentItem_of_isControl hreply.outputs, List.nil_append], ?_⟩
    intro session' hlookup' hlive
    obtain ⟨before, hbefore, hrests⟩ := hreply.tracks session' hlookup' hlive
    obtain rfl : session = before := Option.some.inj (hlookup.symm.trans hbefore)
    obtain rfl := hrests.same hr
    exact ⟨htotal, .inl hpending⟩
  obtain ⟨env, call⟩ := input
  cases call with
  | processMessage message => exact hidles _ (idlesAt_processMessage message)
  | protocolTransmitMessage request =>
    exact hidles _ (idlesAt_protocolTransmitMessage request (by simp [hlookup]))
  | update =>
    have hupdate : ∃ rest', Advances config key k m
        session.getTotalNumberOfPackets.toNat rest (session.update config env key) rest' :=
      advances_update hk hlt hm (htotal ▸ hinside) hpending
    obtain ⟨rest', hsent, hnext⟩ := hupdate
    refine ⟨rest', ?_, ?_⟩
    · have hemits := KeyedTable.filterMap_sweepBack sessions
        (fun key session => session.update config env key) (sentItem key) key
        fun k' session _ hne => List.filterMap_eq_nil_iff.mpr (sentItem_update_of_ne hne session)
      change rest = (sessions.sweepBack _).2.filterMap (sentItem key) ++ rest'
      rw [hemits, hlookup]
      exact hsent
    · intro session' hlookup' _
      change (sessions.sweepBack _).1.lookup key = some session' at hlookup'
      rw [KeyedTable.lookup_sweepBack, hlookup] at hlookup'
      rw [← htotal]
      exact hnext session' hlookup'

theorem pendingAt_run {k m total : Nat} {rest : List Item} (hk : 1 ≤ k) (hlt : k < 2 ^ 24)
    (hm : 1 ≤ m) (hinside : k - 1 + m ≤ total)
    (h : PendingAt config key k m total rest sessions) (inputs : List Input)
    (hreplying : (extendedTransportProtocolManager config).Along
      (fun sessions _ => ReplyingAt key sessions) sessions inputs) :
    ∃ rest', rest = ((extendedTransportProtocolManager config).outputs sessions
        inputs).filterMap (sentItem key) ++ rest' ∧
      PendingAt config key k m total rest'
        ((extendedTransportProtocolManager config).run sessions inputs) := by
  induction inputs generalizing sessions rest with
  | nil => exact ⟨rest, rfl, h⟩
  | cons input inputs ih =>
    obtain ⟨rest', hsent, hnext⟩ := pendingAt_next hk hlt hm hinside h hreplying.1
    obtain ⟨rest'', hsent', hrun⟩ := ih hnext hreplying.2
    refine ⟨rest'', ?_, hrun⟩
    rw [Machine.outputs_cons, List.filterMap_append, hsent, hsent', List.append_assoc]

/-- After an accepted clear to send for `n` packets from packet `k`, the session announces `m`
packets from the offset `k - 1` and sends exactly these until it waits again, provided that `k` is
the packet after the last one sent, and that packets are configured. -/
theorem answer_to_clearToSend (config : CANNetworkConfiguration) (key : SessionKey)
    (past : List Input) (input : Input) (grant : Grant) (after : List Input)
    (haccepted : grantOf ((extendedTransportProtocolManager config).run KeyedTable.empty
      past) key input = some grant)
    (hn : grant.packetsToBeSent ≠ 0) (hk : grant.nextPacketNumber ≠ 0)
    (hfollows : grant.nextPacketNumber = grant.session.getLastPacketNumber + 1)
    (hconfigured : 0 < config.numberOfPacketsPerDPOMessage)
    (hreplying : (extendedTransportProtocolManager config).Along
      (fun sessions _ => ReplyingAt key sessions)
      ((extendedTransportProtocolManager config).run KeyedTable.empty (past ++ [input]))
      after) :
    ∃ m, 1 ≤ m ∧ m ≤ grant.packetsToBeSent.toNat ∧
      grant.nextPacketNumber.toNat - 1 + m ≤ grant.session.getTotalNumberOfPackets.toNat ∧
      ((extendedTransportProtocolManager config).outputs
        ((extendedTransportProtocolManager config).run KeyedTable.empty (past ++ [input]))
        after).filterMap (sentItem key) <+: answerTo grant.nextPacketNumber.toNat m ∧
      ∀ session, ((extendedTransportProtocolManager config).run KeyedTable.empty
          (past ++ [input] ++ after)).lookup key = some session → session.Waiting →
        ((extendedTransportProtocolManager config).outputs
          ((extendedTransportProtocolManager config).run KeyedTable.empty (past ++ [input]))
          after).filterMap (sentItem key) = answerTo grant.nextPacketNumber.toNat m := by
  rw [Machine.run_append _ _ (past ++ [input])]
  rw [Machine.run_concat] at hreplying ⊢
  obtain ⟨hnumber, hlt⟩ := grantOf_eq_some haccepted
  have hle := UInt32.le_iff_toNat_le.mp hnumber
  have hkpos : 1 ≤ grant.nextPacketNumber.toNat :=
    Nat.one_le_iff_ne_zero.mpr fun hzero => hk (UInt32.toNat_inj.mp hzero)
  have hback : (grant.nextPacketNumber - 1).toNat = grant.nextPacketNumber.toNat - 1 :=
    UInt32.toNat_sub_of_le _ _ (UInt32.le_iff_toNat_le.mpr hkpos)
  have hlast : (grant.accepted input.env.now).getLastPacketNumber.toNat =
      grant.nextPacketNumber.toNat - 1 := by
    rw [← hback, hfollows]
    exact congrArg UInt32.toNat (UInt32.add_sub_cancel _ _).symm
  have hremaining : (grant.accepted input.env.now).getNumberOfRemainingPackets.toNat =
      grant.session.getTotalNumberOfPackets.toNat - (grant.nextPacketNumber.toNat - 1) :=
    toNat_getNumberOfRemainingPackets hlast
      (show _ ≤ grant.session.getTotalNumberOfPackets.toNat by omega)
  obtain ⟨hpos, hlimit, hleft⟩ := packetsThisSegment_range
    (show 0 < (grant.accepted input.env.now).getNumberOfRemainingPackets.toNat by omega)
    (UInt8.pos_iff_ne_zero.mpr hn) hconfigured
  have hpending : PendingAt config key grant.nextPacketNumber.toNat
      ((grant.accepted input.env.now).packetsThisSegment config).toNat
      grant.session.getTotalNumberOfPackets.toNat (answerTo grant.nextPacketNumber.toNat
        ((grant.accepted input.env.now).packetsThisSegment config).toNat)
      ((extendedTransportProtocolManager config).next
        ((extendedTransportProtocolManager config).run KeyedTable.empty past) input) := by
    intro session hlookup _
    rw [lookup_next_of_grant haccepted hn] at hlookup
    cases hlookup
    exact ⟨rfl, .inl (.announcing rfl hlast hback rfl)⟩
  obtain ⟨rest, hsent, hrun⟩ :=
    pendingAt_run hkpos hlt hpos (by omega) hpending after hreplying
  refine ⟨_, hpos, hlimit, by omega, ⟨rest, hsent.symm⟩, ?_⟩
  intro session hlookup hwaiting
  have hnot : ¬session.Replying := by
    rintro (hstate | hstate)
    · simp [Waiting, hstate] at hwaiting
    · simp [Waiting, hstate] at hwaiting
  obtain ⟨-, hpending' | ⟨hend, -⟩⟩ := hrun session hlookup (.inr hwaiting)
  · cases hpending' with
    | announcing hstate => exact absurd (.inl hstate) hnot
    | sending hstate => exact absurd (.inr hstate) hnot
  · rw [hsent, hend, List.append_nil]

/-- Our control function has 1786 bytes for the other node. -/
def longRequest : TransmitRequest where
  parameterGroupNumber := 0xFE00
  data := List.replicate 1786 1
  source := some 1
  destination := some 0
  sessionCompleteCallback := none
  parentPointer := 0

def longSession (limit sent : UInt8) : ExtendedTransportProtocolSession where
  direction := .transmit
  parameterGroupNumber := 0xFE00
  data := List.replicate 1786 1
  totalMessageSize := 1786
  state := .waitForClearToSend
  lastSequenceNumber := sent
  dataPacketOffsetPacketCount := sent
  clearToSendPacketCountLimit := limit
  data_length := List.length_replicate

def called (call : Call) : Input := ⟨⟨0, twoNodes, fun _ => true⟩, call⟩

/-- The other node asks for packets. -/
def clearToSendHeard (packetsToBeSent nextPacketNumber : UInt8) : Input :=
  heard 0 (connectionManagementFrame CLEAR_TO_SEND_MULTIPLEXOR packetsToBeSent nextPacketNumber 0 0
    0xFE00 (some 0) (some 1))

theorem answer_to_clearToSend_two_packets :
    ∃ m, 1 ≤ m ∧ m ≤ 2 ∧ 1 - 1 + m ≤ (longSession 255 0).getTotalNumberOfPackets.toNat ∧
      ((extendedTransportProtocolManager {}).outputs ((extendedTransportProtocolManager {}).run
        KeyedTable.empty ([called (.protocolTransmitMessage longRequest)] ++
          [clearToSendHeard 2 1])) [called .update, called .update]).filterMap
        (sentItem ⟨1, some 0⟩) <+: answerTo 1 m ∧
      ∀ session, ((extendedTransportProtocolManager {}).run KeyedTable.empty
          ([called (.protocolTransmitMessage longRequest)] ++ [clearToSendHeard 2 1] ++
            [called .update, called .update])).lookup ⟨1, some 0⟩ = some session →
        session.Waiting →
        ((extendedTransportProtocolManager {}).outputs ((extendedTransportProtocolManager {}).run
          KeyedTable.empty ([called (.protocolTransmitMessage longRequest)] ++
            [clearToSendHeard 2 1])) [called .update, called .update]).filterMap
          (sentItem ⟨1, some 0⟩) = answerTo 1 m :=
  answer_to_clearToSend {} ⟨1, some 0⟩ [called (.protocolTransmitMessage longRequest)]
    (clearToSendHeard 2 1) ⟨longSession 255 0, 2, 1⟩ [called .update, called .update]
    (by decide +kernel) (by decide) (by decide) (by decide) (by decide)
    ⟨by decide +kernel, by decide +kernel, trivial⟩

/-- A clear to send that asks for the first packet once more is answered with an offset
behind it. -/
theorem not_answer_to_clearToSend :
    ¬∀ (config : CANNetworkConfiguration) (key : SessionKey) (past : List Input)
      (input : Input) (grant : Grant) (after : List Input),
      0 < config.numberOfPacketsPerDPOMessage →
      grantOf ((extendedTransportProtocolManager config).run KeyedTable.empty past) key
        input = some grant →
      grant.packetsToBeSent ≠ 0 → grant.nextPacketNumber ≠ 0 →
      (extendedTransportProtocolManager config).Along
        (fun sessions _ => ReplyingAt key sessions)
        ((extendedTransportProtocolManager config).run KeyedTable.empty (past ++ [input]))
        after →
      ∃ m, ((extendedTransportProtocolManager config).outputs
        ((extendedTransportProtocolManager config).run KeyedTable.empty (past ++ [input]))
        after).filterMap (sentItem key) <+: answerTo grant.nextPacketNumber.toNat m := by
  intro hclaim
  obtain ⟨m, hprefix⟩ := hclaim {} ⟨1, some 0⟩ [called (.protocolTransmitMessage longRequest),
      clearToSendHeard 1 1, called .update, called .update] (clearToSendHeard 1 1)
    ⟨longSession 1 1, 1, 1⟩ [called .update] (by decide) (by decide +kernel) (by decide) (by decide)
    ⟨by decide +kernel, trivial⟩
  have hsent : ((extendedTransportProtocolManager {}).outputs
      ((extendedTransportProtocolManager {}).run KeyedTable.empty
        ([called (.protocolTransmitMessage longRequest), clearToSendHeard 1 1, called .update,
          called .update] ++ [clearToSendHeard 1 1])) [called .update]).filterMap
      (sentItem ⟨1, some 0⟩) = [.offset 1 1] := by decide +kernel
  rw [hsent] at hprefix
  obtain ⟨heq, -⟩ := List.cons_prefix_cons.mp hprefix
  simp at heq

end Isobus.ExtendedTransportProtocol
