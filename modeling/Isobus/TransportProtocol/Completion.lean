import Isobus.Can.Reporting
import Isobus.TransportProtocol.ReceiveIntegrity

/-!
# The end of a transport protocol transmission

Which states a session of either direction can be in, and what each handler of
`can_transport_protocol.cpp` makes of it: a session that sends is kept without a report
or closed with one.
-/

namespace Isobus.TransportProtocol

open Isobus.Can Isobus.Lib

namespace TransportProtocolSession

def Fits (key : SessionKey) (session : TransportProtocolSession) : Prop :=
  match session.state with
  | .none => False
  | .sendBroadcastAnnounce =>
    session.direction = .transmit ∧ key.destination = none ∧
      session.getNumberOfRemainingPackets ≠ 0
  | .sendRequestToSend => session.direction = .transmit ∧ key.destination ≠ none
  | .waitForClearToSend => session.direction = .transmit ∧ key.destination ≠ none
  | .sendClearToSend => session.direction = .receive
  | .waitForDataTransferPacket => session.direction = .receive
  | .sendDataTransferPackets =>
    session.direction = .transmit ∧
      (key.destination = none → session.getNumberOfRemainingPackets ≠ 0)
  | .waitForEndOfMessageAcknowledge => session.direction = .transmit ∧ key.destination ≠ none

theorem fits_of_state {key : SessionKey} {session : TransportProtocolSession}
    (hstate : session.state = .waitForDataTransferPacket ∨ session.state = .sendClearToSend)
    (hdirection : session.direction = .receive) : session.Fits key := by
  unfold Fits
  rcases hstate with hstate | hstate <;> rw [hstate] <;> exact hdirection

theorem direction_of_fits {key : SessionKey} {session : TransportProtocolSession}
    (hstate : session.state = .waitForDataTransferPacket) (hfits : session.Fits key) :
    session.direction = .receive := by
  unfold Fits at hfits
  rwa [hstate] at hfits

def carries (frame : TransmitFrame) : Bool :=
  frame.parameterGroupNumber = transportProtocolDataTransfer ||
    frame.parameterGroupNumber = transportProtocolConnectionManagement &&
      (frame.data.headD 0 = REQUEST_TO_SEND_MULTIPLEXOR ||
        frame.data.headD 0 = BROADCAST_ANNOUNCE_MESSAGE_MULTIPLEXOR)

def reporting : Reporting TransportProtocolSession where
  base := (·.toTransportProtocolSessionBase)
  size := (·.totalMessageSize.toUInt32)
  Fits := Fits
  carries := carries
  LastPacket size frame := frame.parameterGroupNumber = transportProtocolDataTransfer ∧
    frame.data.head? = some (totalNumberOfPackets size.toUInt16)
  lastPacket_carries := by
    rintro size frame ⟨hgroup, -⟩
    simp [carries, hgroup]

variable {config : CANNetworkConfiguration} {env : Environment} {key : SessionKey}
variable {session : TransportProtocolSession} {acknowledged : Prop}

theorem not_carries_connectionManagementFrame {b₀ b₁ b₂ b₃ b₄ : UInt8} {group : UInt32}
    {source destination : Option CFRef} (hrequest : b₀ ≠ REQUEST_TO_SEND_MULTIPLEXOR)
    (hannounce : b₀ ≠ BROADCAST_ANNOUNCE_MESSAGE_MULTIPLEXOR) :
    reporting.carries (connectionManagementFrame b₀ b₁ b₂ b₃ b₄ group source destination) =
      false := by
  simp [reporting, carries, connectionManagementFrame, hrequest, hannounce,
    transportProtocolDataTransfer, transportProtocolConnectionManagement]

variable {frame : TransmitFrame}

theorem not_carries_abortFrame {sender receiver : CFRef} {group : UInt32}
    {reason : ConnectionAbortReason} :
    reporting.carries (abortFrame sender receiver group reason) = false :=
  not_carries_connectionManagementFrame (by decide) (by decide)

theorem silent_sendAbort (sender receiver : CFRef) (group : UInt32)
    (reason : ConnectionAbortReason) :
    reporting.Silent [sendAbort env sender receiver group reason] :=
  Reporting.silent_of_not_carries not_carries_abortFrame

theorem handles_abortSession (reason : ConnectionAbortReason) :
    reporting.Handles key acknowledged session (session.abortSession env key reason) := by
  refine Reporting.handles_close (.refl session) ?_ (by simp)
  intro e he
  split at he
  · rw [List.mem_singleton.mp he]
    exact Reporting.owns_of_not_carries not_carries_abortFrame
  · simp at he

theorem silent_abortSession (hdirection : session.direction = .receive)
    (reason : ConnectionAbortReason) :
    reporting.Silent (session.abortSession env key reason).2 := by
  refine Reporting.Silent.append ?_ ?_
  · split
    · exact silent_sendAbort _ _ _ _
    · exact Reporting.silent_nil
  · rw [show (session.closeSession key false).2 = [] from
      TransportProtocolSessionBase.complete_receive _ _ _ hdirection]
    exact Reporting.silent_nil

theorem handles_replaced (group : UInt32) :
    reporting.Handles key acknowledged session
      (if session.parameterGroupNumber ≠ group then
        session.abortSession env key .alreadyInCMSession
      else session.closeSession key false) := by
  split_ifs
  · exact handles_abortSession _
  · exact Reporting.handles_report_false

theorem handles_offer {session' : TransportProtocolSession}
    (howns : ∀ sent, reporting.Owns key session (.frame frame sent)) (hfits : session.Fits key)
    (hsame : reporting.SameReport session session') (hfits' : session'.Fits key) :
    reporting.Handles key acknowledged session
      (if env.send frame then (some session', [.frame frame true])
      else (some session, [.frame frame false])) := by
  split_ifs
  · exact .keeps hsame hfits' (by simpa using howns true)
  · exact .keeps (.refl session) hfits (by simpa using howns false)

theorem sendFrames_spec (env : Environment) (key : SessionKey)
    {session : TransportProtocolSession} (hdirection : session.direction = .transmit)
        (count : Nat) :
    reporting.SameReport session (sendFrames env key count session).1 ∧
      (sendFrames env key count session).1.state = session.state ∧
      ∀ e ∈ (sendFrames env key count session).2, reporting.Owns key session e := by
  induction count generalizing session with
  | zero => exact ⟨.refl session, rfl, by simp [sendFrames]⟩
  | succ count ih =>
    unfold sendFrames
    dsimp only
    split_ifs with hsend
    · have hcounting : (session.setLastSequencyNumber env.now
          (session.getLastSequenceNumber + 1)).direction = .transmit := hdirection
      obtain ⟨hsame, hstate, howns⟩ := ih hcounting
      have hcounted : reporting.SameReport session (session.setLastSequencyNumber env.now
          (session.getLastSequenceNumber + 1)) := ⟨rfl, rfl, rfl, rfl, rfl⟩
      refine ⟨hcounted.trans hsame, hstate, ?_⟩
      intro e he
      rcases List.mem_cons.mp he with rfl | he
      · exact Reporting.owns_of_transmit hdirection rfl rfl
      · exact howns e he
    · refine ⟨.refl session, rfl, ?_⟩
      simpa using Reporting.owns_of_transmit hdirection rfl rfl

theorem broadcasts_of_remaining (hremaining : session.getNumberOfRemainingPackets ≠ 0)
    (hdestination : key.destination = none)
    (hdone : (sendFrames env key 1 session).1.getNumberOfRemainingPackets = 0) :
    reporting.Broadcasts key (reporting.size session) (sendFrames env key 1 session).2 := by
  unfold sendFrames at hdone ⊢
  dsimp only at hdone ⊢
  split_ifs at hdone ⊢ with hsend
  · refine ⟨hdestination, session.dataTransferFrame key, List.mem_cons_self, rfl, ?_⟩
    change session.getTotalNumberOfPackets - (session.lastSequenceNumber + 1) = 0 at hdone
    change some (session.lastSequenceNumber + 1) =
      some (totalNumberOfPackets session.totalMessageSize.toUInt32.toUInt16)
    rw [UInt16.toUInt16_toUInt32, ← sub_eq_zero.mp hdone]
    rfl
  · exact absurd hdone hremaining

theorem handles_sendDataTransferPackets (hdirection : session.direction = .transmit)
    (hstate : session.state = .sendDataTransferPackets)
    (hremaining : key.destination = none → session.getNumberOfRemainingPackets ≠ 0) :
    reporting.Handles key acknowledged session
      (session.sendDataTransferPackets config env key) := by
  obtain ⟨hsame, hstate', howns⟩ := sendFrames_spec env key hdirection
    (session.framesToSend config key).toNat
  have hdirection' := hsame.direction.trans hdirection
  have hone (hdestination : key.destination = none) :
      (session.framesToSend config key).toNat = 1 := by
    rw [framesToSend, if_pos hdestination]
    rfl
  unfold sendDataTransferPackets
  dsimp only
  split_ifs with hdone hdestination hwindow
  · refine Reporting.handles_close hsame howns fun _ _ => .inr ?_
    rw [hone hdestination] at hdone ⊢
    exact broadcasts_of_remaining (hremaining hdestination) hdestination hdone
  · exact .keeps (hsame.trans ⟨rfl, rfl, rfl, rfl, rfl⟩) ⟨hdirection', hdestination⟩ howns
  · exact .keeps (hsame.trans ⟨rfl, rfl, rfl, rfl, rfl⟩) ⟨hdirection', hwindow.2⟩ howns
  · refine .keeps hsame ?_ howns
    change Fits _ _
    unfold Fits
    rw [hstate', hstate]
    exact ⟨hdirection', fun _ => hdone⟩

theorem sendClearToSend_spec (env : Environment) (key : SessionKey)
    (session : TransportProtocolSession) :
    reporting.SameReport session (session.sendClearToSend env key).2.1 ∧
      (session.sendClearToSend env key).2.1.state = session.state ∧
      ∀ e ∈ (session.sendClearToSend env key).2.2, reporting.Owns key session e := by
  have hsilent : reporting.carries (session.clearToSendFrame key) = false :=
    not_carries_connectionManagementFrame (by decide) (by decide)
  unfold sendClearToSend
  dsimp only
  split_ifs
  · exact ⟨⟨rfl, rfl, rfl, rfl, rfl⟩, rfl, by simpa using Reporting.owns_of_not_carries hsilent⟩
  · exact ⟨.refl session, rfl, by simpa using Reporting.owns_of_not_carries hsilent⟩

theorem handles_updateStateMachine (hfits : session.Fits key) :
    reporting.Handles key acknowledged session
      (session.updateStateMachine config env key) := by
  have hstate := hfits
  unfold Fits at hstate
  unfold updateStateMachine
  cases hcase : session.state <;> rw [hcase] at hstate <;> dsimp only at hstate ⊢
  case sendBroadcastAnnounce =>
    obtain ⟨hdirection, hdestination, hremaining⟩ := hstate
    exact handles_offer (fun _ => Reporting.owns_of_transmit hdirection rfl hdestination.symm) hfits
      ⟨rfl, rfl, rfl, rfl, rfl⟩ ⟨hdirection, fun _ => hremaining⟩
  case sendRequestToSend =>
    exact handles_offer (fun _ => Reporting.owns_of_transmit hstate.1 rfl rfl) hfits
      ⟨rfl, rfl, rfl, rfl, rfl⟩ hstate
  case waitForClearToSend =>
    refine Reporting.handles_timeout hfits ?_
    split_ifs
    · exact handles_abortSession _
    · exact Reporting.handles_report_false
  case sendClearToSend =>
    obtain ⟨hsame, hstate', howns⟩ := sendClearToSend_spec env key session
    split_ifs
    · exact .keeps (hsame.trans ⟨rfl, rfl, rfl, rfl, rfl⟩) (hsame.direction.trans hstate) howns
    · exact .keeps hsame
        (fits_of_state (.inr (hstate'.trans hcase)) (hsame.direction.trans hstate)) howns
  case waitForDataTransferPacket =>
    split_ifs
    · exact Reporting.handles_report_false
    · exact Reporting.handles_self hfits
    · exact handles_abortSession _
    · exact Reporting.handles_self hfits
    · exact handles_abortSession _
    · exact Reporting.handles_self hfits
  case sendDataTransferPackets =>
    split_ifs
    · exact Reporting.handles_self hfits
    · exact handles_sendDataTransferPackets hstate.1 hcase hstate.2
  case waitForEndOfMessageAcknowledge =>
      exact Reporting.handles_timeout hfits (handles_abortSession _)

theorem handles_update (hfits : session.Fits key) :
    reporting.Handles key acknowledged session (session.update config env key) := by
  unfold update
  split_ifs
  · exact Reporting.handles_report_false
  · exact Reporting.handles_report_false
  · exact handles_updateStateMachine hfits
  · exact Reporting.handles_self hfits

theorem handles_receiveClearToSend (hfits : session.Fits key)
    (packetsToBeSent nextPacketNumber : UInt8) :
    reporting.Handles key acknowledged session
      (session.receiveClearToSend env key packetsToBeSent nextPacketNumber) := by
  unfold receiveClearToSend
  dsimp only
  split_ifs with hnumber hstate hpackets
  · exact handles_abortSession _
  · exact handles_abortSession _
  all_goals
    have hwaits := hfits
    unfold Fits at hwaits
    rw [not_not.mp hstate] at hwaits
  · exact .keeps ⟨rfl, rfl, rfl, rfl, rfl⟩ ⟨hwaits.1, fun h => absurd h hwaits.2⟩
      (List.forall_mem_nil _)
  · refine .keeps ⟨rfl, rfl, rfl, rfl, rfl⟩ ?_ (List.forall_mem_nil _)
    change Fits _ _
    unfold Fits
    rw [show ((session.setAcknowledgedPacketNumber env.now
        (nextPacketNumber - 1)).setCtsNumberOfPackets
      env.now packetsToBeSent).state = .waitForClearToSend from not_not.mp hstate]
    exact hwaits

theorem handles_receiveEndOfMessageAcknowledge (hfits : session.Fits key)
    (hacknowledged : acknowledged) :
    reporting.Handles key acknowledged session (session.receiveEndOfMessageAcknowledge key) := by
  unfold receiveEndOfMessageAcknowledge
  split_ifs
  · exact Reporting.handles_report fun _ _ => hacknowledged
  · exact Reporting.handles_self hfits

theorem handles_afterPacket (hstate : session.state = .waitForDataTransferPacket)
    (hdirection : session.direction = .receive) (timestampUs : UInt64) :
    reporting.Handles key acknowledged session (session.afterPacket env key timestampUs) := by
  unfold afterPacket
  dsimp only
  split_ifs
  · refine Reporting.handles_close (.refl session) ?_ ?_
    · intro e he
      rcases List.mem_append.mp he with he | he
      · split at he
        · rw [List.mem_singleton.mp he]
          exact Reporting.owns_of_not_carries
            (not_carries_connectionManagementFrame (by decide) (by decide))
        · simp at he
      · rw [List.mem_singleton.mp he]
        trivial
    · intro _ htransmit
      exact absurd (hdirection.symm.trans htransmit) (by decide)
  · obtain ⟨hsame, hstate', howns⟩ := sendClearToSend_spec env key session
    exact .keeps hsame
      (fits_of_state (.inl (hstate'.trans hstate)) (hsame.direction.trans hdirection)) howns
  · exact Reporting.handles_self (fits_of_state (.inl hstate) hdirection)

theorem handles_receiveDataTransfer (hfits : session.Fits key) (message : CANMessage) :
    reporting.Handles key acknowledged session (session.receiveDataTransfer env key message) := by
  unfold receiveDataTransfer
  dsimp only
  split_ifs with hstate
  · exact handles_abortSession _
  · exact handles_abortSession _
  · exact handles_abortSession _
  · have hwaits := not_not.mp hstate
    have hdirection := direction_of_fits hwaits hfits
    split
    · rename_i copied hcopied
      unfold copyIn at hcopied
      dsimp only at hcopied
      split_ifs at hcopied
      cases hcopied
      refine .of_same ?_ (handles_afterPacket ?_ ?_ _)
      exacts [⟨rfl, rfl, rfl, rfl, rfl⟩, hwaits, hdirection]
    · exact .keeps (.refl session) hfits (by simp [Reporting.Owns])
  · exact handles_abortSession _

end TransportProtocolSession

open TransportProtocolSession

def Acknowledges (key : SessionKey) (input : Input) : Prop :=
  ∃ message, input.call = .processMessage message ∧ message.source = key.destination ∧
    message.specificDestination input.env.world = some key.source ∧
    message.identifier.getParameterGroupNumber = transportProtocolConnectionManagement ∧
    message.data.head? = some END_OF_MESSAGE_ACKNOWLEDGE_MULTIPLEXOR

variable {config : CANNetworkConfiguration} {env : Environment} {key : SessionKey}
variable {sessions : ActiveSessions} {acknowledged : Prop}

theorem serves_openSession {key' : SessionKey} {session : TransportProtocolSession}
    (hfit : reporting.AllFit sessions) (hfits : session.Fits key')
    (hreceive : session.direction = .receive) (hnone : sessions.lookup key' = none) :
    reporting.Serves key acknowledged sessions
      (openSession config env key' session sessions) := by
  have hpush : reporting.Serves key acknowledged sessions (sessions.push key' session, []) :=
    Reporting.serves_push hfit hfits fun _ => ⟨hnone, hreceive⟩
  exact hpush.dispatch fun _ => handles_updateStateMachine

theorem serves_processBroadcastAnnounceMessage (hfit : reporting.AllFit sessions) (source : CFRef)
    (group : UInt32) (size : UInt16) (packets : UInt8) :
    reporting.Serves key acknowledged sessions
      (processBroadcastAnnounceMessage config env source group size packets sessions) := by
  unfold processBroadcastAnnounceMessage
  dsimp only
  have hclosed : reporting.Serves key acknowledged sessions
      (sessions.dispatch ⟨source, none⟩ (·.closeSession ⟨source, none⟩ false)) :=
    Reporting.serves_dispatch hfit fun _ _ => Reporting.handles_report_false
  split_ifs
  · exact Reporting.serves_silent hfit Reporting.silent_nil
  · exact Reporting.serves_silent hfit Reporting.silent_nil
  · exact hclosed
  · exact hclosed.trans (serves_openSession hclosed.fit (fits_of_state (.inl rfl) rfl) rfl
      (KeyedTable.lookup_dispatch_removed _ _ fun _ => rfl))

theorem serves_processRequestToSend (hfit : reporting.AllFit sessions)
    (source destination : CFRef) (group : UInt32) (size : UInt16) (packets limit : UInt8) :
    reporting.Serves key acknowledged sessions
      (processRequestToSend config env source destination group size packets limit
        sessions) := by
  unfold processRequestToSend
  dsimp only
  split_ifs with hfull
  · exact Reporting.serves_silent hfit (silent_sendAbort _ _ _ _)
  all_goals
    have hclosed : reporting.Serves key acknowledged sessions
        (sessions.dispatch ⟨source, some destination⟩ fun old =>
          if old.parameterGroupNumber ≠ group then
            old.abortSession env ⟨source, some destination⟩ .alreadyInCMSession
          else old.closeSession ⟨source, some destination⟩ false) :=
      Reporting.serves_dispatch hfit fun _ _ => handles_replaced group
  · exact hclosed.append_silent (silent_abortSession rfl _)
  · exact hclosed.trans (serves_openSession hclosed.fit (fits_of_state (.inr rfl) rfl) rfl
      (KeyedTable.lookup_dispatch_removed _ _ fun session => by split_ifs <;> rfl))

theorem serves_processClearToSend (hfit : reporting.AllFit sessions)
    (source destination : CFRef) (group : UInt32) (packetsToBeSent nextPacketNumber : UInt8) :
    reporting.Serves key acknowledged sessions
      (processClearToSend env source destination group packetsToBeSent nextPacketNumber
        sessions) := by
  unfold processClearToSend
  refine Reporting.serves_dispatch hfit fun session hfits => ?_
  dsimp only
  split_ifs
  · exact (handles_abortSession _).append_of_closed (silent_sendAbort _ _ _ _)
  · exact handles_receiveClearToSend hfits _ _

theorem serves_processEndOfSessionAcknowledgement (hfit : reporting.AllFit sessions)
    (source destination : CFRef)
    (hacknowledged : (⟨destination, some source⟩ : SessionKey) = key → acknowledged) :
    reporting.Serves key acknowledged sessions
      (processEndOfSessionAcknowledgement source destination sessions) :=
  Reporting.serves_dispatch hfit fun _ hfits =>
    handles_receiveEndOfMessageAcknowledge hfits hacknowledged

theorem serves_processAbort (hfit : reporting.AllFit sessions) (source destination : CFRef)
    (group : UInt32) :
    reporting.Serves key acknowledged sessions
      (processAbort source destination group sessions) := by
  have hclose {key' : SessionKey} {acknowledged : Prop} (session : TransportProtocolSession)
      (hfits : session.Fits key') :
      reporting.Handles key' acknowledged session
        (if session.parameterGroupNumber = group then session.closeSession key' false
        else (some session, [])) := by
    split_ifs
    · exact Reporting.handles_report_false
    · exact Reporting.handles_self hfits
  exact (Reporting.serves_dispatch hfit hclose).dispatch hclose

theorem serves_processDataTransferMessage (hfit : reporting.AllFit sessions) (source : CFRef)
    (message : CANMessage) :
    reporting.Serves key acknowledged sessions
      (processDataTransferMessage env source message sessions) := by
  unfold processDataTransferMessage
  dsimp only
  split_ifs
  · exact Reporting.serves_silent hfit Reporting.silent_nil
  · exact Reporting.serves_dispatch hfit fun _ hfits => handles_receiveDataTransfer hfits message

theorem serves_processConnectionManagementMessage (hfit : reporting.AllFit sessions)
    (source : CFRef) (message : CANMessage)
    (hacknowledged : some source = key.destination →
      message.specificDestination env.world = some key.source →
      message.data.head? = some END_OF_MESSAGE_ACKNOWLEDGE_MULTIPLEXOR → acknowledged) :
    reporting.Serves key acknowledged sessions
      (processConnectionManagementMessage config env source message sessions) := by
  have hidle : reporting.Serves key acknowledged sessions (sessions, []) :=
    Reporting.serves_silent hfit Reporting.silent_nil
  unfold processConnectionManagementMessage
  dsimp only
  by_cases hlength : CAN_DATA_LENGTH ≠ message.data.length
  · rw [if_pos hlength]
    exact hidle
  rw [if_neg hlength]
  split
  · split_ifs
    · exact serves_processBroadcastAnnounceMessage hfit _ _ _ _
    · exact hidle
  · rename_i destination hdestination
    split_ifs with hrequest hclear hend
    · exact serves_processRequestToSend hfit _ _ _ _ _ _
    · exact serves_processClearToSend hfit _ _ _ _ _
    · refine serves_processEndOfSessionAcknowledgement hfit _ _ ?_
      rintro rfl
      refine hacknowledged rfl hdestination ?_
      rw [← hend, CANMessage.getUint8At]
      cases hdata : message.data with
      | nil => simp [hdata, CAN_DATA_LENGTH] at hlength
      | cons b data => rfl
    · exact serves_processAbort hfit _ _ _
    · exact hidle

theorem serves_processMessage (hfit : reporting.AllFit sessions) (message : CANMessage) :
    reporting.Serves key (Acknowledges key ⟨env, .processMessage message⟩) sessions
      (processMessage config env message sessions) := by
  have hidle : reporting.Serves key (Acknowledges key ⟨env, .processMessage message⟩) sessions
      (sessions, []) := Reporting.serves_silent hfit Reporting.silent_nil
  unfold processMessage
  split
  · exact hidle
  · rename_i source hsource
    split_ifs with hvalid hgroup
    · exact serves_processConnectionManagementMessage hfit source message
        fun hpartner hown hend => ⟨message, rfl, hsource.trans hpartner, hown, hgroup, hend⟩
    · exact serves_processDataTransferMessage hfit source message
    · exact hidle
    · exact hidle

theorem requestedSession_spec {request : TransmitRequest} {session : TransportProtocolSession}
    (h : requestedSession config env request sessions = some (key, session)) :
    request.sessionKey = some key ∧ session.Fits key ∧ reporting.Opened key request session := by
  unfold requestedSession at h
  split at h
  · simp at h
  rename_i hlength
  split at h
  · simp at h
  rename_i source hsource
  rw [not_or, not_le, gt_iff_lt, not_lt, CAN_DATA_LENGTH, MAX_PROTOCOL_DATA_LENGTH] at hlength
  have hkey : request.sessionKey = some ⟨source, request.destination⟩ := by
    rw [TransmitRequest.sessionKey, hsource]
    rfl
  have hbytes : (UInt16.ofNat request.data.length).toNat = request.data.length :=
    UInt16.toNat_ofNat_of_lt' (hlength.2.trans_lt (by decide))
  have hsize : (UInt16.ofNat request.data.length).toUInt32 = UInt32.ofNat request.data.length := by
    rw [← UInt32.toNat_inj, UInt16.toNat_toUInt32, hbytes]
    exact (UInt32.toNat_ofNat_of_lt' (hlength.2.trans_lt (by decide))).symm
  have hpackets : totalNumberOfPackets (UInt16.ofNat request.data.length) - 0 ≠ 0 := by
    have htotal := toNat_totalNumberOfPackets (hbytes.trans_le hlength.2)
    intro hzero
    rw [sub_zero] at hzero
    rw [hzero, hbytes, UInt8.toNat_zero] at htotal
    omega
  split at h
  · cases h
    refine ⟨hkey, ?_, rfl, rfl, rfl, rfl, hsize⟩
    by_cases hdestination : request.destination = none
    · rw [if_pos hdestination]
      exact ⟨rfl, hdestination, hpackets⟩
    · rw [if_neg hdestination]
      exact ⟨rfl, hdestination⟩
  · simp at h

theorem answers : Reporting.Answers reporting (transportProtocolManager config)
    fun env key session => session.updateStateMachine config env key where
  answer sessions env request := by
    change protocolTransmitMessage config env request sessions = _ ∨ ∃ key session, _ ∧ _ ∧ _ ∧
      protocolTransmitMessage config env request sessions = _
    unfold protocolTransmitMessage
    cases hrequested : requestedSession config env request sessions with
    | none => exact .inl rfl
    | some opened =>
      obtain ⟨hkey, hfits, hopened⟩ := requestedSession_spec hrequested
      exact .inr ⟨opened.1, opened.2, hkey, hfits, hopened, rfl⟩
  handles _ _ _ _ := handles_updateStateMachine

theorem serves_step (key : SessionKey) (sessions : ActiveSessions) (input : Input)
    (hfit : reporting.AllFit sessions)
    (hother : ¬Reporting.Opens (transportProtocolManager config) key sessions input) :
    reporting.Serves key (Acknowledges key input) sessions
      ((transportProtocolManager config).step sessions input) := by
  obtain ⟨env, call⟩ := input
  cases call with
  | processMessage message => exact serves_processMessage hfit message
  | update => exact Reporting.serves_sweep hfit fun _ _ => handles_update
  | protocolTransmitMessage request => exact answers.serves hfit hother

end Isobus.TransportProtocol
