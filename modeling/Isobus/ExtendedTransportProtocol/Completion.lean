import Isobus.ExtendedTransportProtocol.Manager
import Isobus.TransportProtocol.Completion

/-!
# The end of an extended transport protocol transmission

Which states a session can be in, what each handler of `can_extended_transport_protocol.cpp` makes
of it, and with that the end of every transmission of both protocols.
-/

namespace Isobus.ExtendedTransportProtocol

open Isobus.Can Isobus.Lib

namespace ExtendedTransportProtocolSession

def Fits (session : ExtendedTransportProtocolSession) : Prop :=
  match session.state with
  | .none => False
  | .sendRequestToSend | .waitForClearToSend | .sendDataPacketOffset | .sendDataTransferPackets
  | .waitForEndOfMessageAcknowledge => session.direction = .transmit
  | .sendClearToSend | .waitForDataPacketOffset | .waitForDataTransferPacket =>
    session.direction = .receive

theorem fits_of_state_eq {session session' : ExtendedTransportProtocolSession}
    (hfits : session.Fits) (hstate : session'.state = session.state)
    (hdirection : session'.direction = session.direction) : session'.Fits := by
  unfold Fits at hfits ⊢
  rwa [hstate, hdirection]

theorem direction_of_fits {session : ExtendedTransportProtocolSession}
    (hstate : session.state = .waitForDataTransferPacket ∨
      session.state = .waitForDataPacketOffset) (hfits : session.Fits) :
    session.direction = .receive := by
  unfold Fits at hfits
  rcases hstate with hstate | hstate <;> rwa [hstate] at hfits

def carries (frame : TransmitFrame) : Bool :=
  frame.parameterGroupNumber = extendedTransportProtocolDataTransfer ||
    frame.parameterGroupNumber = extendedTransportProtocolConnectionManagement &&
      (frame.data.headD 0 = REQUEST_TO_SEND_MULTIPLEXOR ||
        frame.data.headD 0 = DATA_PACKET_OFFSET_MULTIPLXOR)

def reporting : Reporting ExtendedTransportProtocolSession where
  base := (·.toTransportProtocolSessionBase)
  size := (·.totalMessageSize)
  Fits _ session := session.Fits
  carries := carries
  LastPacket _ _ := False
  lastPacket_carries _ _ := False.elim

variable {config : CANNetworkConfiguration} {env : Environment} {key : SessionKey}
variable {session : ExtendedTransportProtocolSession} {acknowledged : Prop}

theorem not_carries_connectionManagementFrame {b₀ b₁ b₂ b₃ b₄ : UInt8} {group : UInt32}
    {source destination : Option CFRef} (hrequest : b₀ ≠ REQUEST_TO_SEND_MULTIPLEXOR)
    (hoffset : b₀ ≠ DATA_PACKET_OFFSET_MULTIPLXOR) :
    reporting.carries (connectionManagementFrame b₀ b₁ b₂ b₃ b₄ group source destination) =
      false := by
  simp [reporting, carries, connectionManagementFrame, hrequest, hoffset,
    extendedTransportProtocolDataTransfer, extendedTransportProtocolConnectionManagement]

variable {sent : Bool}

theorem not_carries_abortFrame {sender receiver : CFRef} {group : UInt32}
    {reason : ConnectionAbortReason} :
    reporting.carries (abortFrame sender receiver group reason) = false :=
  not_carries_connectionManagementFrame (by decide) (by decide)

theorem silent_sendAbort (sender receiver : CFRef) (group : UInt32)
    (reason : ConnectionAbortReason) :
    reporting.Silent [sendAbort env sender receiver group reason] :=
  Reporting.silent_of_not_carries not_carries_abortFrame

theorem handles_abortSession (reason : ConnectionAbortReason) :
    reporting.Handles key acknowledged session (session.abortSession env key reason) := by
  refine Reporting.handles_close (.refl session) ?_ (by simp)
  intro e he
  split at he
  · rw [List.mem_singleton.mp he]
    exact Reporting.owns_of_not_carries not_carries_abortFrame
  · simp at he

theorem handles_replaced (group : UInt32) :
    reporting.Handles key acknowledged session
      (if session.parameterGroupNumber ≠ group then
        session.abortSession env key .alreadyInCMSession
      else session.closeSession key false) := by
  split_ifs
  · exact handles_abortSession _
  · exact Reporting.handles_report_false

theorem handles_advance {session' : ExtendedTransportProtocolSession} {state : StateMachineState}
    {events : List Event} (hsame : reporting.SameReport session session')
    (howns : ∀ e ∈ events, reporting.Owns key session e) (hfits : session'.Fits)
    (hfits' : (session'.setState env.now state).Fits) :
    reporting.Handles key acknowledged session (advance env state (sent, session', events)) := by
  unfold advance
  split_ifs
  · exact .keeps (hsame.trans ⟨rfl, rfl, rfl, rfl, rfl⟩) hfits' howns
  · exact .keeps hsame hfits howns

theorem sendFrames_spec (env : Environment) (key : SessionKey)
    {session : ExtendedTransportProtocolSession} (hdirection : session.direction = .transmit)
        (count : Nat) :
    reporting.SameReport session (sendFrames env key count session).1 ∧
      (sendFrames env key count session).1.state = session.state ∧
      ∀ e ∈ (sendFrames env key count session).2, reporting.Owns key session e := by
  induction count generalizing session with
  | zero => exact ⟨.refl session, rfl, by simp [sendFrames]⟩
  | succ count ih =>
    unfold sendFrames
    dsimp only
    split_ifs with hsend
    · have hcounting : (session.setLastSequencyNumber env.now
          (session.getLastSequenceNumber + 1)).direction = .transmit := hdirection
      obtain ⟨hsame, hstate, howns⟩ := ih hcounting
      have hcounted : reporting.SameReport session (session.setLastSequencyNumber env.now
          (session.getLastSequenceNumber + 1)) := ⟨rfl, rfl, rfl, rfl, rfl⟩
      refine ⟨hcounted.trans hsame, hstate, ?_⟩
      intro e he
      rcases List.mem_cons.mp he with rfl | he
      · exact Reporting.owns_of_transmit hdirection rfl rfl
      · exact howns e he
    · refine ⟨.refl session, rfl, ?_⟩
      simpa using Reporting.owns_of_transmit hdirection rfl rfl

theorem handles_sendDataTransferPackets (hfits : session.Fits)
    (hdirection : session.direction = .transmit) :
    reporting.Handles key acknowledged session
      (session.sendDataTransferPackets config env key) := by
  obtain ⟨hsame, hstate, howns⟩ := sendFrames_spec env key hdirection
    (session.framesToSend config).toNat
  unfold sendDataTransferPackets
  dsimp only
  split_ifs
  · exact .keeps (hsame.trans ⟨rfl, rfl, rfl, rfl, rfl⟩) (hsame.direction.trans hdirection) howns
  · exact .keeps (hsame.trans ⟨rfl, rfl, rfl, rfl, rfl⟩) (hsame.direction.trans hdirection) howns
  · exact .keeps hsame (fits_of_state_eq hfits hstate hsame.direction) howns

theorem handles_updateStateMachine (hfits : session.Fits) :
    reporting.Handles key acknowledged session
      (session.updateStateMachine config env key) := by
  have hstate := hfits
  unfold Fits at hstate
  unfold updateStateMachine
  cases hcase : session.state <;> rw [hcase] at hstate <;> dsimp only at hstate ⊢
  case sendRequestToSend =>
    exact handles_advance (.refl session) (List.forall_mem_singleton.mpr
      (Reporting.owns_of_transmit hstate rfl rfl)) hfits hstate
  case waitForClearToSend =>
    refine Reporting.handles_timeout hfits ?_
    split_ifs
    · exact handles_abortSession _
    · exact Reporting.handles_report_false
  case sendClearToSend =>
    have hanswer (sent : Bool) :
        ∀ e ∈ [Event.frame (session.clearToSendFrame key) sent], reporting.Owns key session e :=
      List.forall_mem_singleton.mpr
        (Reporting.owns_of_not_carries
            (not_carries_connectionManagementFrame (by decide) (by decide)))
    unfold sendClearToSend
    dsimp only
    split_ifs
    · exact handles_advance ⟨rfl, rfl, rfl, rfl, rfl⟩ (hanswer true)
        (fits_of_state_eq hfits rfl rfl) hstate
    · exact handles_advance (.refl session) (hanswer false) hfits hstate
  case waitForDataPacketOffset => exact Reporting.handles_timeout hfits (handles_abortSession _)
  case sendDataPacketOffset =>
    have hoffset (sent : Bool) :
        ∀ e ∈ [Event.frame (session.dataPacketOffsetFrame config key) sent],
          reporting.Owns key session e :=
      List.forall_mem_singleton.mpr (Reporting.owns_of_transmit hstate rfl rfl)
    unfold sendDataPacketOffset
    dsimp only
    split_ifs
    · exact handles_advance ⟨rfl, rfl, rfl, rfl, rfl⟩ (hoffset true)
        (fits_of_state_eq hfits rfl rfl) hstate
    · exact handles_advance (.refl session) (hoffset false) hfits hstate
  case waitForDataTransferPacket => exact Reporting.handles_timeout hfits (handles_abortSession _)
  case sendDataTransferPackets => exact handles_sendDataTransferPackets hfits hstate
  case waitForEndOfMessageAcknowledge =>
      exact Reporting.handles_timeout hfits (handles_abortSession _)

theorem handles_update (hfits : session.Fits) :
    reporting.Handles key acknowledged session (session.update config env key) := by
  unfold update
  split_ifs
  · exact Reporting.handles_report_false
  · exact Reporting.handles_report_false
  · exact handles_updateStateMachine hfits
  · exact Reporting.handles_self hfits

theorem handles_receiveClearToSend (hfits : session.Fits) (packetsToBeSent : UInt8)
    (nextPacketNumber : UInt32) :
    reporting.Handles key acknowledged session
      (session.receiveClearToSend env key packetsToBeSent nextPacketNumber) := by
  unfold receiveClearToSend
  split_ifs with hnumber hstate hpackets
  · exact handles_abortSession _
  · exact handles_abortSession _
  · have hwaits := hfits
    unfold Fits at hwaits
    rw [not_not.mp hstate] at hwaits
    exact .keeps ⟨rfl, rfl, rfl, rfl, rfl⟩ hwaits (List.forall_mem_nil _)
  · exact .keeps ⟨rfl, rfl, rfl, rfl, rfl⟩ (fits_of_state_eq hfits rfl rfl) (List.forall_mem_nil _)

theorem handles_receiveDataPacketOffset (hfits : session.Fits) (numberOfPackets : UInt8)
    (packetOffset : UInt32) :
    reporting.Handles key acknowledged session
      (session.receiveDataPacketOffset env key numberOfPackets packetOffset) := by
  unfold receiveDataPacketOffset
  split_ifs with hstate
  · exact handles_abortSession _
  · exact handles_abortSession _
  · exact handles_abortSession _
  · have hdirection := direction_of_fits (.inr (not_not.mp hstate)) hfits
    exact .keeps ⟨rfl, rfl, rfl, rfl, rfl⟩ hdirection (List.forall_mem_nil _)
  · exact .keeps ⟨rfl, rfl, rfl, rfl, rfl⟩ (fits_of_state_eq hfits rfl rfl) (List.forall_mem_nil _)

theorem handles_receiveEndOfMessageAcknowledge (hfits : session.Fits)
    (hacknowledged : acknowledged) (numberOfBytesTransferred : UInt32) :
    reporting.Handles key acknowledged session
      (session.receiveEndOfMessageAcknowledge key numberOfBytesTransferred) := by
  unfold receiveEndOfMessageAcknowledge
  split_ifs
  · refine .of_same ?_ (Reporting.handles_report fun _ _ => hacknowledged)
    exact ⟨rfl, rfl, rfl, rfl, rfl⟩
  · exact Reporting.handles_self hfits

theorem handles_afterPacket (hfits : session.Fits) (hdirection : session.direction = .receive)
    (timestampUs : UInt64) :
    reporting.Handles key acknowledged session
      (session.afterPacket config env key timestampUs) := by
  unfold afterPacket
  split_ifs
  · refine Reporting.handles_close (.refl session) ?_ ?_
    · simp only [List.forall_mem_cons, List.not_mem_nil, false_implies, implies_true, and_true]
      exact ⟨Reporting.owns_of_not_carries
          (not_carries_connectionManagementFrame (by decide) (by decide)),
        trivial⟩
    · intro _ htransmit
      exact absurd (hdirection.symm.trans htransmit) (by decide)
  · refine .of_same ?_ (handles_updateStateMachine ?_)
    exacts [⟨rfl, rfl, rfl, rfl, rfl⟩, hdirection]
  · exact Reporting.handles_self hfits

theorem handles_receiveDataTransfer (hfits : session.Fits) (message : CANMessage) :
    reporting.Handles key acknowledged session
      (session.receiveDataTransfer config env key message) := by
  unfold receiveDataTransfer
  dsimp only
  split_ifs with hstate
  · exact handles_abortSession _
  · exact handles_abortSession _
  · exact handles_abortSession _
  · have hdirection := direction_of_fits (.inl (not_not.mp hstate)) hfits
    split
    · rename_i copied hcopied
      unfold copyIn at hcopied
      dsimp only at hcopied
      split_ifs at hcopied
      cases hcopied
      refine .of_same ?_ (handles_afterPacket ?_ ?_ _)
      exacts [⟨rfl, rfl, rfl, rfl, rfl⟩, fits_of_state_eq hfits rfl rfl, hdirection]
    · exact .keeps (.refl session) hfits (by simp [Reporting.Owns])
  · exact handles_abortSession _

end ExtendedTransportProtocolSession

open ExtendedTransportProtocolSession

def Acknowledges (key : SessionKey) (input : Input) : Prop :=
  ∃ message, input.call = .processMessage message ∧ message.source = key.destination ∧
    message.destination = some key.source ∧
    message.identifier.getParameterGroupNumber = extendedTransportProtocolConnectionManagement ∧
    message.data.head? = some END_OF_MESSAGE_ACKNOWLEDGE_MULTIPLEXOR

variable {config : CANNetworkConfiguration} {env : Environment} {key : SessionKey}
variable {sessions : ActiveSessions} {acknowledged : Prop}

theorem serves_openSession {key' : SessionKey} {session : ExtendedTransportProtocolSession}
    (hfit : reporting.AllFit sessions) (hfits : session.Fits)
    (hreceive : session.direction = .receive) (hnone : sessions.lookup key' = none) :
    reporting.Serves key acknowledged sessions
      (openSession config env key' session sessions) := by
  have hpush : reporting.Serves key acknowledged sessions (sessions.push key' session, []) :=
    Reporting.serves_push hfit hfits fun _ => ⟨hnone, hreceive⟩
  exact hpush.dispatch fun _ => handles_updateStateMachine

theorem serves_processRequestToSend (hfit : reporting.AllFit sessions)
    (source destination : CFRef) (group size : UInt32) :
    reporting.Serves key acknowledged sessions
      (processRequestToSend config env source destination group size sessions) := by
  unfold processRequestToSend
  split_ifs with hfull
  · exact Reporting.serves_silent hfit (silent_sendAbort _ _ _ _)
  · have hclosed : reporting.Serves key acknowledged sessions
        (sessions.dispatch ⟨source, some destination⟩ fun old =>
          if old.parameterGroupNumber ≠ group then
            old.abortSession env ⟨source, some destination⟩ .alreadyInCMSession
          else old.closeSession ⟨source, some destination⟩ false) :=
      Reporting.serves_dispatch hfit fun _ _ => handles_replaced group
    exact hclosed.trans (serves_openSession hclosed.fit rfl rfl
      (KeyedTable.lookup_dispatch_removed _ _ fun session => by split_ifs <;> rfl))

theorem serves_processClearToSend (hfit : reporting.AllFit sessions)
    (source destination : CFRef) (group : UInt32) (packetsToBeSent : UInt8)
    (nextPacketNumber : UInt32) :
    reporting.Serves key acknowledged sessions
      (processClearToSend env source destination group packetsToBeSent nextPacketNumber
        sessions) := by
  unfold processClearToSend
  refine Reporting.serves_dispatch hfit fun session hfits => ?_
  split_ifs
  · exact (handles_abortSession _).append_of_closed (silent_sendAbort _ _ _ _)
  · exact handles_receiveClearToSend hfits _ _

theorem serves_processDataPacketOffset (hfit : reporting.AllFit sessions)
    (source destination : CFRef) (group : UInt32) (numberOfPackets : UInt8)
    (packetOffset : UInt32) :
    reporting.Serves key acknowledged sessions
      (processDataPacketOffset env source destination group numberOfPackets packetOffset
        sessions) := by
  unfold processDataPacketOffset
  refine Reporting.serves_dispatch hfit fun session hfits => ?_
  split_ifs
  · exact (handles_abortSession _).append_of_closed (silent_sendAbort _ _ _ _)
  · exact handles_receiveDataPacketOffset hfits _ _

theorem serves_processEndOfSessionAcknowledgement (hfit : reporting.AllFit sessions)
    (source destination : CFRef) (numberOfBytesTransferred : UInt32)
    (hacknowledged : (⟨destination, some source⟩ : SessionKey) = key → acknowledged) :
    reporting.Serves key acknowledged sessions
      (processEndOfSessionAcknowledgement source destination numberOfBytesTransferred sessions) :=
  Reporting.serves_dispatch hfit fun _ hfits =>
    handles_receiveEndOfMessageAcknowledge hfits hacknowledged _

theorem serves_processAbort (hfit : reporting.AllFit sessions) (source destination : CFRef)
    (group : UInt32) :
    reporting.Serves key acknowledged sessions
      (processAbort source destination group sessions) := by
  have hclose {key' : SessionKey} {acknowledged : Prop} (session : ExtendedTransportProtocolSession)
      (hfits : session.Fits) :
      reporting.Handles key' acknowledged session
        (if session.parameterGroupNumber = group then session.closeSession key' false
        else (some session, [])) := by
    split_ifs
    · exact Reporting.handles_report_false
    · exact Reporting.handles_self hfits
  exact (Reporting.serves_dispatch hfit hclose).dispatch hclose

theorem serves_processDataTransferMessage (hfit : reporting.AllFit sessions)
    (source destination : CFRef) (message : CANMessage) :
    reporting.Serves key acknowledged sessions
      (processDataTransferMessage config env source destination message sessions) := by
  unfold processDataTransferMessage
  split_ifs
  · exact Reporting.serves_silent hfit Reporting.silent_nil
  · exact Reporting.serves_dispatch hfit fun _ hfits => handles_receiveDataTransfer hfits message

theorem serves_processConnectionManagementMessage (hfit : reporting.AllFit sessions)
    (source destination : CFRef) (message : CANMessage)
    (hacknowledged : (⟨destination, some source⟩ : SessionKey) = key →
      message.data.head? = some END_OF_MESSAGE_ACKNOWLEDGE_MULTIPLEXOR → acknowledged) :
    reporting.Serves key acknowledged sessions
      (processConnectionManagementMessage config env source destination message
        sessions) := by
  unfold processConnectionManagementMessage
  dsimp only
  split_ifs with hlength hrequest hclear hoffset hend
  · exact Reporting.serves_silent hfit Reporting.silent_nil
  · exact serves_processRequestToSend hfit _ _ _ _
  · exact serves_processClearToSend hfit _ _ _ _ _
  · exact serves_processDataPacketOffset hfit _ _ _ _ _
  · refine serves_processEndOfSessionAcknowledgement hfit _ _ _ fun hkey => hacknowledged hkey ?_
    rw [← hend, CANMessage.getUint8At]
    cases hdata : message.data with
    | nil => simp [hdata, CAN_DATA_LENGTH] at hlength
    | cons b data => rfl
  · exact serves_processAbort hfit _ _ _
  · exact Reporting.serves_silent hfit Reporting.silent_nil

theorem serves_processMessage (hfit : reporting.AllFit sessions) (message : CANMessage) :
    reporting.Serves key (Acknowledges key ⟨env, .processMessage message⟩) sessions
      (processMessage config env message sessions) := by
  have hidle : reporting.Serves key (Acknowledges key ⟨env, .processMessage message⟩) sessions
      (sessions, []) := Reporting.serves_silent hfit Reporting.silent_nil
  unfold processMessage
  split
  · rename_i source destination hsource hdestination
    split_ifs with hvalid hgroup
    · refine serves_processConnectionManagementMessage hfit source destination message ?_
      rintro rfl hend
      exact ⟨message, rfl, hsource, hdestination, hgroup, hend⟩
    · exact serves_processDataTransferMessage hfit source destination message
    · exact hidle
    · exact hidle
  · exact hidle

theorem requestedSession_spec {request : TransmitRequest}
    {session : ExtendedTransportProtocolSession}
    (h : requestedSession env request sessions = some (key, session)) :
    request.sessionKey = some key ∧ session.Fits ∧ reporting.Opened key request session := by
  unfold requestedSession at h
  split at h
  · simp at h
  split at h
  · rename_i source destination hsource hdestination
    split at h
    · cases h
      refine ⟨?_, rfl, rfl, rfl, rfl, rfl, rfl⟩
      rw [TransmitRequest.sessionKey, hsource, hdestination]
      rfl
    · simp at h
  · simp at h

theorem answers : Reporting.Answers reporting (extendedTransportProtocolManager config)
    fun env key session => session.updateStateMachine config env key where
  answer sessions env request := by
    change protocolTransmitMessage config env request sessions = _ ∨ ∃ key session, _ ∧ _ ∧ _ ∧
      protocolTransmitMessage config env request sessions = _
    unfold protocolTransmitMessage
    cases hrequested : requestedSession env request sessions with
    | none => exact .inl rfl
    | some opened =>
      obtain ⟨hkey, hfits, hopened⟩ := requestedSession_spec hrequested
      exact .inr ⟨opened.1, opened.2, hkey, hfits, hopened, rfl⟩
  handles _ _ _ _ := handles_updateStateMachine

theorem serves_step (key : SessionKey) (sessions : ActiveSessions) (input : Input)
    (hfit : reporting.AllFit sessions)
    (hother : ¬Reporting.Opens
        (extendedTransportProtocolManager config) key sessions input) :
    reporting.Serves key (Acknowledges key input) sessions
      ((extendedTransportProtocolManager config).step sessions input) := by
  obtain ⟨env, call⟩ := input
  cases call with
  | processMessage message => exact serves_processMessage hfit message
  | update => exact Reporting.serves_sweepBack hfit fun _ _ => handles_update
  | protocolTransmitMessage request => exact answers.serves hfit hother

/-- Every accepted message of either protocol is reported once, when its session leaves, with
success only for an acknowledgement or behind the last packet of a broadcast, and no frame of it
comes behind the report. -/
theorem transmission_completes_once (config : CANNetworkConfiguration) :
    (∀ past env request key inputs,
      Reporting.AcceptedRun (TransportProtocol.transportProtocolManager config) key past
        env request inputs →
      TransportProtocol.TransportProtocolSession.reporting.Completes key request
        (∃ input ∈ inputs, TransportProtocol.Acknowledges key input)
        ((TransportProtocol.transportProtocolManager config).run
          ((TransportProtocol.transportProtocolManager config).run .empty past)
          (⟨env, .protocolTransmitMessage request⟩ :: inputs))
        (((TransportProtocol.transportProtocolManager config).outputs
          ((TransportProtocol.transportProtocolManager config).run .empty past)
          (⟨env, .protocolTransmitMessage request⟩ :: inputs)).filter
            (TransportProtocol.TransportProtocolSession.reporting.concerns key))) ∧
    ∀ past env request key inputs,
      Reporting.AcceptedRun (extendedTransportProtocolManager config) key past env request
        inputs →
      reporting.Completes key request (∃ input ∈ inputs, Acknowledges key input)
        ((extendedTransportProtocolManager config).run
          ((extendedTransportProtocolManager config).run .empty past)
          (⟨env, .protocolTransmitMessage request⟩ :: inputs))
        (((extendedTransportProtocolManager config).outputs
          ((extendedTransportProtocolManager config).run .empty past)
          (⟨env, .protocolTransmitMessage request⟩ :: inputs)).filter (reporting.concerns key)) :=
  ⟨fun _ _ _ _ _ => TransportProtocol.answers.completes TransportProtocol.serves_step,
    fun _ _ _ _ _ => answers.completes serves_step⟩

/-- So many zeros from our own control function to the other node. -/
def zeros (length : Nat) : TransmitRequest where
  parameterGroupNumber := 0xEF00
  data := List.replicate length 0
  source := some 1
  destination := some 0
  sessionCompleteCallback := some 3
  parentPointer := 0

theorem transmission_completes_once_zeros :
    TransportProtocol.TransportProtocolSession.reporting.Completes ⟨1, some 0⟩ (zeros 9)
        (∃ input ∈ [Input.mk ⟨5, twoNodes, fun _ => true⟩ .update],
          TransportProtocol.Acknowledges ⟨1, some 0⟩ input)
        ((TransportProtocol.transportProtocolManager {}).run
          ((TransportProtocol.transportProtocolManager {}).run .empty [])
          [⟨⟨0, twoNodes, fun _ => true⟩, .protocolTransmitMessage (zeros 9)⟩,
            ⟨⟨5, twoNodes, fun _ => true⟩, .update⟩])
        (((TransportProtocol.transportProtocolManager {}).outputs
          ((TransportProtocol.transportProtocolManager {}).run .empty [])
          [⟨⟨0, twoNodes, fun _ => true⟩, .protocolTransmitMessage (zeros 9)⟩,
            ⟨⟨5, twoNodes, fun _ => true⟩, .update⟩]).filter
            (TransportProtocol.TransportProtocolSession.reporting.concerns ⟨1, some 0⟩)) ∧
    reporting.Completes ⟨1, some 0⟩ (zeros 1786)
        (∃ input ∈ [Input.mk ⟨5, twoNodes, fun _ => true⟩ .update],
          Acknowledges ⟨1, some 0⟩ input)
        ((extendedTransportProtocolManager {}).run
          ((extendedTransportProtocolManager {}).run .empty [])
          [⟨⟨0, twoNodes, fun _ => true⟩, .protocolTransmitMessage (zeros 1786)⟩,
            ⟨⟨5, twoNodes, fun _ => true⟩, .update⟩])
        (((extendedTransportProtocolManager {}).outputs
          ((extendedTransportProtocolManager {}).run .empty [])
          [⟨⟨0, twoNodes, fun _ => true⟩, .protocolTransmitMessage (zeros 1786)⟩,
            ⟨⟨5, twoNodes, fun _ => true⟩, .update⟩]).filter
            (reporting.concerns ⟨1, some 0⟩)) :=
  ⟨(transmission_completes_once {}).1 [] ⟨0, twoNodes, fun _ => true⟩ (zeros 9) ⟨1, some 0⟩
      [⟨⟨5, twoNodes, fun _ => true⟩, .update⟩]
      ⟨⟨zeros 9, rfl, rfl, by decide +kernel⟩, ⟨Reporting.not_opens_update, trivial⟩⟩,
    (transmission_completes_once {}).2 [] ⟨0, twoNodes, fun _ => true⟩ (zeros 1786) ⟨1, some 0⟩
      [⟨⟨5, twoNodes, fun _ => true⟩, .update⟩]
      ⟨⟨zeros 1786, rfl, rfl, by decide +kernel⟩, ⟨Reporting.not_opens_update, trivial⟩⟩⟩

end Isobus.ExtendedTransportProtocol
