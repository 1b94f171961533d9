import Isobus.ExtendedTransportProtocol.Manager
import Isobus.Lib.Tracking

namespace Isobus.ExtendedTransportProtocol

open Isobus.Can Isobus.Lib

namespace ExtendedTransportProtocolSession

def Receiving (session : ExtendedTransportProtocolSession) : Prop :=
  session.state = .sendClearToSend ∨ session.state = .waitForDataPacketOffset ∨
    session.state = .waitForDataTransferPacket

def Aligned (session : ExtendedTransportProtocolSession) : Prop :=
  session.state = .waitForDataPacketOffset →
    session.lastAcknowledgedPacketNumber = session.getLastPacketNumber

/-- The received part of a session is left alone. -/
structure Continues (session session' : ExtendedTransportProtocolSession) : Prop where
  receiving : session.Receiving
  size : session'.totalMessageSize = session.totalMessageSize
  data : session'.data = session.data
  offset : session'.sequenceNumberOffset = session.sequenceNumberOffset
  last : session'.lastSequenceNumber = session.lastSequenceNumber
  aligned : session.Aligned → session'.Aligned

theorem Continues.refl (session : ExtendedTransportProtocolSession) (h : session.Receiving) :
    Continues session session :=
  ⟨h, rfl, rfl, rfl, rfl, id⟩

theorem Continues.trans (a b c : ExtendedTransportProtocolSession) (h : Continues a b)
    (h' : Continues b c) : Continues a c where
  receiving := h.receiving
  size := h'.size.trans h.size
  data := h'.data.trans h.data
  offset := h'.offset.trans h.offset
  last := h'.last.trans h.last
  aligned := h'.aligned ∘ h.aligned

abbrev IsQuiet (e : Event) : Prop := e.isQuiet = true

/-- What a handler may do to a session when nothing arrives for its message. -/
abbrev Keeps (session : ExtendedTransportProtocolSession) (outcome : Outcome) : Prop :=
  Admits Receiving Continues IsQuiet session outcome

variable {config : CANNetworkConfiguration} {env : Environment} {key : SessionKey}
variable {session : ExtendedTransportProtocolSession}

theorem keeps_self {events : List Event} (h : ∀ e ∈ events, IsQuiet e) :
    session.Keeps (some session, events) :=
  admits_some (Continues.refl session) h

theorem isQuiet_frame (frame : TransmitFrame) (sent : Bool) :
    ∀ e ∈ [Event.frame frame sent], IsQuiet e :=
  forall_mem_singleton rfl

theorem isQuiet_complete (session : ExtendedTransportProtocolSession) (successful : Bool) :
    ∀ e ∈ (session.closeSession key successful).2, IsQuiet e :=
  session.toTransportProtocolSessionBase.isQuiet_complete key _ successful

theorem keeps_closeSession (session old : ExtendedTransportProtocolSession) (successful : Bool) :
    session.Keeps (old.closeSession key successful) :=
  admits_none (old.isQuiet_complete successful)

theorem isQuiet_abortSession (session : ExtendedTransportProtocolSession)
    (reason : ConnectionAbortReason) :
    ∀ e ∈ (session.abortSession env key reason).2, IsQuiet e := by
  refine forall_mem_append ?_ (session.isQuiet_complete false)
  split
  · exact isQuiet_frame _ _
  · exact forall_mem_nil

theorem keeps_abortSession (session old : ExtendedTransportProtocolSession)
    (reason : ConnectionAbortReason) : session.Keeps (old.abortSession env key reason) :=
  admits_none (old.isQuiet_abortSession reason)

theorem sendFrames_state (env : Environment) (key : SessionKey) (n : Nat)
    (session : ExtendedTransportProtocolSession) :
    (sendFrames env key n session).1.state = session.state := by
  induction n generalizing session with
  | zero => rfl
  | succ n ih =>
    rw [sendFrames]
    split
    · exact ih _
    · rfl

theorem isQuiet_sendFrames (env : Environment) (key : SessionKey) (n : Nat)
    (session : ExtendedTransportProtocolSession) :
    ∀ e ∈ (sendFrames env key n session).2, IsQuiet e := by
  induction n generalizing session with
  | zero => exact forall_mem_nil
  | succ n ih =>
    rw [sendFrames]
    split
    · exact forall_mem_append (isQuiet_frame _ _) (ih _)
    · exact isQuiet_frame _ _

theorem keeps_sendDataTransferPackets (h : session.state = .sendDataTransferPackets) :
    session.Keeps (session.sendDataTransferPackets config env key) := by
  have hquiet := isQuiet_sendFrames env key (session.framesToSend config).toNat session
  have hstate := sendFrames_state env key (session.framesToSend config).toNat session
  unfold sendDataTransferPackets
  dsimp only
  split_ifs
  · exact admits_some (by simp [Receiving, setState]) hquiet
  · exact admits_some (by simp [Receiving, setState]) hquiet
  · exact admits_some (by simp [Receiving, hstate, h]) hquiet

theorem keeps_sendClearToSend (env : Environment) (key : SessionKey) (hr : session.Receiving) :
    session.Keeps (advance env .waitForDataPacketOffset (session.sendClearToSend env key)) := by
  unfold sendClearToSend advance
  dsimp only
  split
  · refine admits_some (fun _ => ?_) (isQuiet_frame _ _)
    exact ⟨hr, rfl, rfl, rfl, rfl, fun _ _ => rfl⟩
  · exact admits_some (fun _ => .refl _ hr) (isQuiet_frame _ _)

theorem keeps_updateStateMachine (session : ExtendedTransportProtocolSession) :
    session.Keeps (session.updateStateMachine config env key) := by
  unfold updateStateMachine
  split
  case h_1 => exact keeps_self forall_mem_nil
  case h_2 =>
    unfold advance
    dsimp only
    split
    · exact admits_some (by simp [Receiving, setState]) (isQuiet_frame _ _)
    · exact keeps_self (isQuiet_frame _ _)
  case h_3 =>
    split_ifs
    · exact keeps_abortSession _ _ _
    · exact keeps_closeSession _ _ _
    · exact keeps_self forall_mem_nil
  case h_4 hstate => exact keeps_sendClearToSend env key (.inl hstate)
  case h_5 =>
    split_ifs
    · exact keeps_abortSession _ _ _
    · exact keeps_self forall_mem_nil
  case h_6 =>
    unfold advance sendDataPacketOffset
    dsimp only
    split
    · exact admits_some (by simp [Receiving, setState]) (isQuiet_frame _ _)
    · exact keeps_self (isQuiet_frame _ _)
  case h_7 hstate => exact keeps_sendDataTransferPackets hstate
  case h_8 =>
    split_ifs
    · exact keeps_abortSession _ _ _
    · exact keeps_self forall_mem_nil
  case h_9 =>
    split_ifs
    · exact keeps_abortSession _ _ _
    · exact keeps_self forall_mem_nil

theorem keeps_update (session : ExtendedTransportProtocolSession) :
    session.Keeps (session.update config env key) := by
  unfold update
  split_ifs
  · exact keeps_closeSession _ _ _
  · exact keeps_closeSession _ _ _
  · exact keeps_updateStateMachine session
  · exact keeps_self forall_mem_nil

theorem keeps_receiveClearToSend (packetsToBeSent : UInt8) (nextPacketNumber : UInt32)
    (session : ExtendedTransportProtocolSession) :
    session.Keeps (session.receiveClearToSend env key packetsToBeSent nextPacketNumber) := by
  unfold receiveClearToSend
  split_ifs with _ hstate
  · exact keeps_abortSession _ _ _
  · exact keeps_abortSession _ _ _
  · exact admits_some (by simp [Receiving, setState]) forall_mem_nil
  · have hwait := not_not.mp hstate
    exact admits_some (by simp [Receiving, setAcknowledgedPacketNumber, setCtsNumberOfPacketLimit,
      hwait]) forall_mem_nil

theorem keeps_receiveEndOfMessageAcknowledge (numberOfBytesTransferred : UInt32)
    (session : ExtendedTransportProtocolSession) :
    session.Keeps (session.receiveEndOfMessageAcknowledge key numberOfBytesTransferred) := by
  unfold receiveEndOfMessageAcknowledge
  split_ifs
  · exact keeps_closeSession _ _ _
  · exact keeps_self forall_mem_nil

/-- The count goes on from the offset, which is the last packet. -/
structure Offset (offset : UInt32) (session session' : ExtendedTransportProtocolSession) :
    Prop where
  receiving : session.Receiving
  size : session'.totalMessageSize = session.totalMessageSize
  data : session'.data = session.data
  offset_eq : session'.sequenceNumberOffset = offset
  last : session'.lastSequenceNumber = 0
  before : session.Aligned → offset = session.getLastPacketNumber
  aligned : session'.Aligned

theorem offset_of_receiveDataPacketOffset {numberOfPackets : UInt8} {packetOffset : UInt32}
    {session' : ExtendedTransportProtocolSession}
    (h : (session.receiveDataPacketOffset env key numberOfPackets packetOffset).1 = some session') :
    Offset packetOffset session session' := by
  unfold receiveDataPacketOffset at h
  split_ifs at h with hstate hlimit hoffset hzero
  · simp [abortSession] at h
  · simp [abortSession] at h
  · simp [abortSession] at h
  all_goals
    have hwait := not_not.mp hstate
    have hack : packetOffset = session.lastAcknowledgedPacketNumber := not_not.mp hoffset
    cases h
    refine ⟨.inr (.inl hwait), rfl, rfl, rfl, rfl, fun haligned => hack.trans (haligned hwait), ?_⟩
  · simp [Aligned, setState]
  · intro _
    simp [setLastSequencyNumber, setSequenceNumberOffset, setDpoNumberOfPackets,
      getLastPacketNumber, hack]

theorem isQuiet_receiveDataPacketOffset (numberOfPackets : UInt8) (packetOffset : UInt32) :
    ∀ e ∈ (session.receiveDataPacketOffset env key numberOfPackets packetOffset).2,
      IsQuiet e := by
  unfold receiveDataPacketOffset
  split_ifs
  · exact isQuiet_abortSession _ _
  · exact isQuiet_abortSession _ _
  · exact isQuiet_abortSession _ _
  · exact forall_mem_nil
  · exact forall_mem_nil

/-- The next packet went into the buffer and was counted. -/
structure Stored (number : Nat) (payload : List UInt8)
    (session session' : ExtendedTransportProtocolSession) : Prop where
  receiving : session.Receiving
  inside : session.currentDataIndex < session.getMessageLength
  size : session'.totalMessageSize = session.totalMessageSize
  data : session'.data = overwrite session.data session.currentDataIndex.toNat
    (payload.take session.bytesToCopy)
  offset : session'.sequenceNumberOffset = session.sequenceNumberOffset
  number_eq : number = session.lastSequenceNumber.toNat + 1
  last : session'.lastSequenceNumber.toNat = number
  aligned : session'.Aligned

theorem Stored.trans_continues {number : Nat} {payload : List UInt8}
    {a b c : ExtendedTransportProtocolSession} (h : Stored number payload a b)
    (h' : Continues b c) : Stored number payload a c where
  receiving := h.receiving
  inside := h.inside
  size := h'.size.trans h.size
  data := h'.data.trans h.data
  offset := h'.offset.trans h.offset
  number_eq := h.number_eq
  last := by rw [h'.last, h.last]
  aligned := h'.aligned h.aligned

theorem copyIn_eq_some {payload : List UInt8}
    (h : session.currentDataIndex < session.getMessageLength) :
    session.copyIn payload = some (session.overwriteData session.currentDataIndex.toNat
      (payload.take session.bytesToCopy)) := by
  have hlt := UInt32.lt_iff_toNat_lt.mp h
  have hleft : (session.getMessageLength - session.currentDataIndex).toNat =
      session.getMessageLength.toNat - session.currentDataIndex.toNat :=
    UInt32.toNat_sub_of_le _ _ (UInt32.le_iff_toNat_le.mpr (Nat.le_of_lt hlt))
  have hcopy : session.bytesToCopy ≤
      session.getMessageLength.toNat - session.currentDataIndex.toNat := by
    rw [← hleft]
    exact Nat.min_le_right _ _
  have hfits : session.currentDataIndex.toNat + (payload.take session.bytesToCopy).length ≤
      session.data.length := by
    rw [session.data_length, List.length_take]
    change _ ≤ session.getMessageLength.toNat
    omega
  rw [copyIn, if_pos hfits]

theorem afterPacket_of_remaining (config : CANNetworkConfiguration) (env : Environment)
    (key : SessionKey) (timestampUs : UInt64) (hr : session.Receiving)
    (h : session.getNumberOfRemainingPackets ≠ 0) :
    session.Keeps (session.afterPacket config env key timestampUs) := by
  unfold afterPacket
  rw [if_neg h]
  split_ifs
  · have hkeeps : (session.setState env.now .sendClearToSend).Keeps
        ((session.setState env.now .sendClearToSend).updateStateMachine config env key) :=
      keeps_updateStateMachine _
    obtain ⟨hvalue, houtputs⟩ := hkeeps
    refine ⟨fun session' hsome hr' => ?_, houtputs⟩
    obtain ⟨-, hsize, hdata, hoffset, hlast, haligned⟩ := hvalue session' hsome hr'
    refine ⟨hr, hsize, hdata, hoffset, hlast, fun _ => haligned ?_⟩
    simp [Aligned, setState]
  · exact keeps_self forall_mem_nil

theorem afterPacket_of_complete (config : CANNetworkConfiguration) (env : Environment)
    (key : SessionKey) (timestampUs : UInt64) (h : session.getNumberOfRemainingPackets = 0) :
    (session.afterPacket config env key timestampUs).1 = none ∧
      ∀ e ∈ (session.afterPacket config env key timestampUs).2,
        e = .messageReceived (session.completedMessage env key timestampUs) ∨ IsQuiet e := by
  unfold afterPacket
  rw [if_pos h]
  refine ⟨rfl, forall_mem_append ?_ fun e he => .inr (session.isQuiet_complete true e he)⟩
  intro e he
  rcases List.mem_cons.mp he with rfl | he
  · exact .inr rfl
  · exact .inl (List.mem_singleton.mp he)

theorem receiveDataTransfer_cases (config : CANNetworkConfiguration) (env : Environment)
    (key : SessionKey) (message : CANMessage) (session : ExtendedTransportProtocolSession) :
    ((session.receiveDataTransfer config env key message).1 = none ∧
      ∀ e ∈ (session.receiveDataTransfer config env key message).2, IsQuiet e) ∨
    ∃ stored, Stored (message.getUint8At SEQUENCE_NUMBER_DATA_INDEX).toNat
        (message.data.drop 1) session stored ∧ stored.Receiving ∧
      session.receiveDataTransfer config env key message =
        stored.afterPacket config env key message.timestampUs := by
  unfold receiveDataTransfer
  dsimp only
  split_ifs with hstate hsame hnext hindex
  · exact .inl ⟨rfl, isQuiet_abortSession _ _⟩
  · exact .inl ⟨rfl, isQuiet_abortSession _ _⟩
  · exact .inl ⟨rfl, isQuiet_abortSession _ _⟩
  · right
    have hwait := not_not.mp hstate
    rw [copyIn_eq_some (UInt32.not_le.mp hindex)]
    refine ⟨(session.overwriteData session.currentDataIndex.toNat
      ((message.data.drop 1).take session.bytesToCopy)).setLastSequencyNumber env.now
        (message.getUint8At SEQUENCE_NUMBER_DATA_INDEX), ?_, .inr (.inr hwait), rfl⟩
    exact ⟨.inr (.inr hwait), UInt32.not_le.mp hindex, rfl, rfl, rfl, hnext, rfl, by
      simp [Aligned, setLastSequencyNumber, overwriteData, hwait]⟩
  · exact .inl ⟨rfl, isQuiet_abortSession _ _⟩

theorem stored_of_receiveDataTransfer {message : CANMessage}
    {session' : ExtendedTransportProtocolSession}
    (h : (session.receiveDataTransfer config env key message).1 = some session')
    (hr : session'.Receiving) :
    Stored (message.getUint8At SEQUENCE_NUMBER_DATA_INDEX).toNat (message.data.drop 1)
      session session' := by
  rcases session.receiveDataTransfer_cases config env key message with
    ⟨hnone, -⟩ | ⟨stored, hstored, hreceiving, heq⟩
  · rw [hnone] at h
    simp at h
  · rw [heq] at h
    by_cases hremaining : stored.getNumberOfRemainingPackets = 0
    · rw [(afterPacket_of_complete config env key _ hremaining).1] at h
      simp at h
    · exact hstored.trans_continues ((afterPacket_of_remaining config env key _ hreceiving
        hremaining).value session' h hr)

theorem delivered_of_receiveDataTransfer {message : CANMessage} {e : Event}
    (h : e ∈ (session.receiveDataTransfer config env key message).2) :
    IsQuiet e ∨ ∃ stored, Stored (message.getUint8At SEQUENCE_NUMBER_DATA_INDEX).toNat
        (message.data.drop 1) session stored ∧ stored.getNumberOfRemainingPackets = 0 ∧
      e = .messageReceived (stored.completedMessage env key message.timestampUs) := by
  rcases session.receiveDataTransfer_cases config env key message with
    ⟨-, hquiet⟩ | ⟨stored, hstored, hreceiving, heq⟩
  · exact .inl (hquiet e h)
  · rw [heq] at h
    by_cases hremaining : stored.getNumberOfRemainingPackets = 0
    · rcases (afterPacket_of_complete config env key _ hremaining).2 e h with he | he
      · exact .inr ⟨stored, hstored, hremaining, he⟩
      · exact .inl he
    · exact .inl ((afterPacket_of_remaining config env key _ hreceiving
        hremaining).outputs e h)

end ExtendedTransportProtocolSession

open ExtendedTransportProtocolSession

/-- The message passes the manager's filter and belongs to this pair of parties. -/
def Addressed (env : Environment) (key : SessionKey) (message : CANMessage) : Prop :=
  message.source = some key.source ∧ message.destination = key.destination ∧
    message.hasValidSourceControlFunction env.world = true ∧
    message.isDestinationOurDevice env.world = true ∧ message.data.length = CAN_DATA_LENGTH

instance (env : Environment) (key : SessionKey) (message : CANMessage) :
    Decidable (Addressed env key message) :=
  inferInstanceAs (Decidable (_ ∧ _))

/-- The management frame of this kind that a call brings for one pair of parties. -/
def Managed (multiplexor : UInt8) (env : Environment) (key : SessionKey) (message : CANMessage) :
    Prop :=
  Addressed env key message ∧
    message.identifier.getParameterGroupNumber = extendedTransportProtocolConnectionManagement ∧
    message.getUint8At 0 = multiplexor

instance (multiplexor : UInt8) (env : Environment) (key : SessionKey) (message : CANMessage) :
    Decidable (Managed multiplexor env key message) :=
  inferInstanceAs (Decidable (_ ∧ _))

/-- The length that a call announces for one pair of parties, when the manager
accepts the announcement. -/
def openingOf (config : CANNetworkConfiguration) (sessions : ActiveSessions)
    (key : SessionKey) (input : Input) : Option UInt32 :=
  match input.call with
  | .processMessage message =>
    if Managed REQUEST_TO_SEND_MULTIPLEXOR input.env key message ∧
        sessionsFull config sessions = false then
      some (message.getUint32At 1)
    else none
  | _ => none

/-- The offset of the data packet offset message that a call carries for one pair of
parties. -/
def offsetOf (key : SessionKey) (input : Input) : Option Nat :=
  match input.call with
  | .processMessage message =>
    if Managed DATA_PACKET_OFFSET_MULTIPLXOR input.env key message then
      some (message.getUint24At 2).toNat
    else none
  | _ => none

/-- The sequence number and the payload of the data packet that a call carries for one
pair of parties. -/
def packetOf (key : SessionKey) (input : Input) : Option (Nat × List UInt8) :=
  match input.call with
  | .processMessage message =>
    if Addressed input.env key message ∧
        message.identifier.getParameterGroupNumber = extendedTransportProtocolDataTransfer then
      some ((message.getUint8At SEQUENCE_NUMBER_DATA_INDEX).toNat, message.data.drop 1)
    else none
  | _ => none

/-- What an observer notes about two parties: the length announced last, the last offset since, and
the packets since. -/
structure Note where
  length : UInt32
  offset : Nat
  packets : List (Nat × List UInt8)
  deriving DecidableEq

def Note.add (note : Note) (key : SessionKey) (input : Input) : Note where
  length := note.length
  offset := (offsetOf key input).getD note.offset
  packets := note.packets ++
    ((packetOf key input).map fun packet => (note.offset + packet.1, packet.2)).toList

def observe (config : CANNetworkConfiguration) (key : SessionKey)
    (sessions : ActiveSessions) (note : Option Note) (input : Input) : Option Note :=
  match openingOf config sessions key input with
  | some length => some ⟨length, 0, []⟩
  | none => note.map fun n => n.add key input

def transcript (config : CANNetworkConfiguration) (key : SessionKey) :
    ActiveSessions → Option Note → List Input → Option Note
  | _, note, [] => note
  | sessions, note, input :: inputs =>
    transcript config key
      ((extendedTransportProtocolManager config).next sessions input)
      (observe config key sessions note input) inputs

variable {config : CANNetworkConfiguration} {env : Environment}
variable {sessions : ActiveSessions} {key : SessionKey} {input : Input} {message : CANMessage}

theorem transcript_concat (note : Option Note) (inputs : List Input) (input : Input) :
    transcript config key sessions note (inputs ++ [input]) =
      observe config key
        ((extendedTransportProtocolManager config).run sessions inputs)
        (transcript config key sessions note inputs) input := by
  induction inputs generalizing sessions note with
  | nil => rfl
  | cons i is ih => exact ih _

/-- A call that neither opens a session nor brings anything for the message of one. -/
abbrev KeepsAt (key : SessionKey) (sessions : ActiveSessions) (reply : Reply) : Prop :=
  KeyedTable.AdmitsAt Receiving Continues IsQuiet key sessions reply

abbrev KeepsTrack (key : SessionKey) (sessions after : ActiveSessions) : Prop :=
  KeyedTable.Tracks Receiving Continues key sessions after

theorem keepsAt_dispatch {k : SessionKey} {f : ExtendedTransportProtocolSession → Outcome}
    (h : ∀ session : ExtendedTransportProtocolSession, session.Keeps (f session)) :
    KeepsAt key sessions (sessions.dispatch k f) :=
  KeyedTable.admitsAt_dispatch Continues.refl fun session _ => h session

theorem KeepsAt.trans {u v : ActiveSessions} {events events' : List Event}
    (h : KeepsAt key sessions (u, events)) (h' : KeepsAt key u (v, events')) :
    KeepsAt key sessions (v, events ++ events') :=
  KeyedTable.AdmitsAt.trans (fun _ _ h => h.receiving) Continues.trans h h'

theorem keepsAt_idle {events : List Event} (h : ∀ e ∈ events, IsQuiet e) :
    KeepsAt key sessions (sessions, events) :=
  KeyedTable.admitsAt_idle Continues.refl h

theorem processMessage_cases (config : CANNetworkConfiguration) (env : Environment)
    (message : CANMessage) (sessions : ActiveSessions) :
    processMessage config env message sessions = (sessions, []) ∨
    ∃ source destination, Addressed env ⟨source, some destination⟩ message ∧
      ((message.identifier.getParameterGroupNumber =
            extendedTransportProtocolConnectionManagement ∧
          processMessage config env message sessions =
            processConnectionManagementMessage config env source destination message
              sessions) ∨
        (message.identifier.getParameterGroupNumber = extendedTransportProtocolDataTransfer ∧
          processMessage config env message sessions =
            sessions.dispatch ⟨source, some destination⟩
              (·.receiveDataTransfer config env ⟨source, some destination⟩ message))) := by
  unfold processMessage
  split
  case h_2 => exact .inl rfl
  case h_1 source destination hsource hdestination =>
    split_ifs with hfilter hcm hdt
    · by_cases hlength : CAN_DATA_LENGTH = message.data.length
      · rw [Bool.and_eq_true] at hfilter
        exact .inr ⟨source, destination,
          ⟨hsource, hdestination, hfilter.1, hfilter.2, hlength.symm⟩, .inl ⟨hcm, rfl⟩⟩
      · rw [processConnectionManagementMessage, if_pos hlength]
        exact .inl rfl
    · unfold processDataTransferMessage
      split_ifs with hlength
      · exact .inl rfl
      · rw [Bool.and_eq_true] at hfilter
        exact .inr ⟨source, destination,
          ⟨hsource, hdestination, hfilter.1, hfilter.2, (not_not.mp hlength).symm⟩,
          .inr ⟨hdt, rfl⟩⟩
    · exact .inl rfl
    · exact .inl rfl

theorem Addressed.exists_destination (h : Addressed env key message) :
    ∃ destination, key = ⟨key.source, some destination⟩ := by
  obtain ⟨source, destination⟩ := key
  obtain ⟨-, hdestination, -, hours, -⟩ := h
  cases destination with
  | some d => exact ⟨d, rfl⟩
  | none =>
    rw [CANMessage.isDestinationOurDevice, CANMessage.hasValidDestinationControlFunction,
      hdestination] at hours
    simp at hours

theorem processMessage_dataTransfer (h : Addressed env key message)
    (hgroup : message.identifier.getParameterGroupNumber = extendedTransportProtocolDataTransfer) :
    processMessage config env message sessions =
      sessions.dispatch key (·.receiveDataTransfer config env key message) := by
  obtain ⟨destination, hkey⟩ := h.exists_destination
  obtain ⟨hsource, hdestination, hvalid, hours, hlength⟩ := h
  rw [hkey] at hdestination
  unfold processMessage
  rw [hsource, hdestination]
  dsimp only
  rw [hvalid, hours, if_pos (Bool.and_self true), if_neg (by rw [hgroup]; decide), if_pos hgroup,
    processDataTransferMessage, if_neg (not_not.mpr hlength.symm), ← hkey]

variable {source destination : CFRef} {session' : ExtendedTransportProtocolSession} {note : Note}

theorem processMessage_connectionManagement
    (h : Addressed env ⟨source, some destination⟩ message)
    (hgroup : message.identifier.getParameterGroupNumber =
      extendedTransportProtocolConnectionManagement) :
    processMessage config env message sessions =
      processConnectionManagementMessage config env source destination message
        sessions := by
  obtain ⟨hsource, hdestination, hvalid, hours, hlength⟩ := h
  unfold processMessage
  rw [hsource, hdestination]
  dsimp only
  rw [hvalid, hours, if_pos (Bool.and_self true), if_pos hgroup]

theorem isQuiet_mismatch (k : SessionKey) (source destination : CFRef) (group : UInt32)
    (reason : ConnectionAbortReason) (session : ExtendedTransportProtocolSession) :
    ∀ e ∈ (session.abortSession env k reason).2 ++
      [sendAbort env destination source group reason], IsQuiet e :=
  forall_mem_append (session.isQuiet_abortSession reason) (isQuiet_frame _ _)

theorem keepsAt_processRequestToSend (group length : UInt32)
    (h : key = ⟨source, some destination⟩ → sessionsFull config sessions = true) :
    KeepsAt key sessions
      (processRequestToSend config env source destination group length sessions) := by
  unfold processRequestToSend
  split_ifs with hfull
  · exact keepsAt_idle (isQuiet_frame _ _)
  · refine KeepsAt.trans (keepsAt_dispatch fun session => ?_) ?_
    · split_ifs
      · exact keeps_abortSession _ _ _
      · exact keeps_closeSession _ _ _
    · refine KeyedTable.admitsAt_push_dispatch Continues.refl ?_ ?_
      · exact fun hkey => absurd (h hkey) hfull
      · exact (keeps_updateStateMachine _).outputs

theorem keepsAt_processClearToSend (source destination : CFRef) (group : UInt32)
    (packetsToBeSent : UInt8) (nextPacketNumber : UInt32) :
    KeepsAt key sessions
      (processClearToSend env source destination group packetsToBeSent nextPacketNumber
        sessions) := by
  refine keepsAt_dispatch fun session => ?_
  split_ifs
  · exact admits_none (isQuiet_mismatch _ _ _ _ _ session)
  · exact keeps_receiveClearToSend _ _ session

theorem keepsAt_processDataPacketOffset (group : UInt32) (numberOfPackets : UInt8)
    (packetOffset : UInt32) (h : key ≠ ⟨source, some destination⟩) :
    KeepsAt key sessions
      (processDataPacketOffset env source destination group numberOfPackets packetOffset
        sessions) := by
  refine KeyedTable.admitsAt_dispatch_of_ne Continues.refl h fun session => ?_
  split_ifs
  · exact isQuiet_mismatch _ _ _ _ _ session
  · exact isQuiet_receiveDataPacketOffset _ _

theorem keepsAt_processAbort (source destination : CFRef) (group : UInt32) :
    KeepsAt key sessions (processAbort source destination group sessions) := by
  have hclose (k : SessionKey) (session : ExtendedTransportProtocolSession) :
      session.Keeps (if session.parameterGroupNumber = group then session.closeSession k false
        else (some session, [])) := by
    split_ifs
    · exact keeps_closeSession _ _ _
    · exact keeps_self forall_mem_nil
  exact KeepsAt.trans (keepsAt_dispatch (hclose _)) (keepsAt_dispatch (hclose _))

theorem keepsAt_processConnectionManagementMessage
    (haddressed : Addressed env ⟨source, some destination⟩ message)
    (hgroup : message.identifier.getParameterGroupNumber =
      extendedTransportProtocolConnectionManagement)
    (hopen : openingOf config sessions key ⟨env, .processMessage message⟩ = none)
    (hoffset : offsetOf key ⟨env, .processMessage message⟩ = none) :
    KeepsAt key sessions
      (processConnectionManagementMessage config env source destination message
        sessions) := by
  unfold processConnectionManagementMessage
  dsimp only
  split_ifs with hlength hrts hcts hdpo heoma habort
  · exact keepsAt_idle forall_mem_nil
  · apply keepsAt_processRequestToSend
    rintro rfl
    unfold openingOf at hopen
    by_contra hfull
    simp [Managed, haddressed, hgroup, hrts, hfull] at hopen
  · exact keepsAt_processClearToSend _ _ _ _ _
  · apply keepsAt_processDataPacketOffset
    rintro rfl
    simp [offsetOf, Managed, haddressed, hgroup, hdpo] at hoffset
  · exact keepsAt_dispatch fun session => keeps_receiveEndOfMessageAcknowledge _ session
  · exact keepsAt_processAbort _ _ _
  · exact keepsAt_idle forall_mem_nil

/-- Management frames never deliver: what they cause does not depend on the parties, and no session
has those of a global message. -/
theorem isQuiet_processConnectionManagementMessage
    (haddressed : Addressed env ⟨source, some destination⟩ message)
    (hgroup : message.identifier.getParameterGroupNumber =
      extendedTransportProtocolConnectionManagement) :
    ∀ e ∈ (processConnectionManagementMessage config env source destination message
      sessions).2, IsQuiet e := by
  have hnone : ¬Addressed env ⟨source, none⟩ message := by
    rintro ⟨-, hdestination, -⟩
    simp [haddressed.2.1] at hdestination
  have hkeeps : KeepsAt ⟨source, none⟩ sessions (processConnectionManagementMessage config
      env source destination message sessions) :=
    keepsAt_processConnectionManagementMessage haddressed hgroup
      (by simp [openingOf, Managed, hnone]) (by simp [offsetOf, Managed, hnone])
  exact hkeeps.outputs

theorem keepsAt_protocolTransmitMessage (request : TransmitRequest) :
    KeepsAt key sessions (protocolTransmitMessage config env request sessions) := by
  unfold protocolTransmitMessage
  split
  · exact keepsAt_idle (forall_mem_singleton rfl)
  · rename_i k session hsession
    have hnot : ¬session.Receiving := by
      unfold requestedSession at hsession
      split at hsession
      · simp at hsession
      · split at hsession
        · split_ifs at hsession
          cases hsession
          simp [Receiving, setState]
        · simp at hsession
    have hkeeps : session.Keeps (session.updateStateMachine config env k) :=
      keeps_updateStateMachine session
    refine KeepsAt.trans (KeyedTable.admitsAt_push_dispatch Continues.refl ?_ hkeeps.outputs)
      (keepsAt_idle (forall_mem_singleton rfl))
    intro _ session' hsome hr
    exact hnot (hkeeps.value session' hsome hr).receiving

theorem keepsTrack_next (hopen : openingOf config sessions key input = none)
    (hoffset : offsetOf key input = none) (hpacket : packetOf key input = none) :
    KeepsTrack key sessions
      ((extendedTransportProtocolManager config).next sessions input) := by
  obtain ⟨env, call⟩ := input
  cases call with
  | update =>
    have hkeeps : KeepsAt key sessions (update config env sessions) :=
      KeyedTable.admitsAt_sweepBack fun _ session _ => keeps_update session
    exact hkeeps.tracks
  | protocolTransmitMessage request => exact (keepsAt_protocolTransmitMessage request).tracks
  | processMessage message =>
    change KeepsTrack key sessions (processMessage config env message sessions).1
    rcases processMessage_cases config env message sessions with
      hidle | ⟨source, destination, haddressed, ⟨hcm, heq⟩ | ⟨hdt, heq⟩⟩
    · rw [hidle]
      exact KeyedTable.tracks_refl Continues.refl
    · rw [heq]
      exact (keepsAt_processConnectionManagementMessage haddressed hcm hopen hoffset).tracks
    · rw [heq]
      apply KeyedTable.tracks_of_lookup_eq Continues.refl
      rw [KeyedTable.lookup_dispatch, if_neg]
      rintro rfl
      simp [packetOf, haddressed, hdt] at hpacket

theorem exists_packet_of_not_quiet {e : Event}
    (h : e ∈ (extendedTransportProtocolManager config).emits sessions input)
    (hloud : ¬IsQuiet e) : ∃ key packet, packetOf key input = some packet := by
  obtain ⟨env, call⟩ := input
  cases call with
  | update =>
    have hkeeps : KeepsAt ⟨0, none⟩ sessions (update config env sessions) :=
      KeyedTable.admitsAt_sweepBack fun _ session _ => keeps_update session
    exact absurd (hkeeps.outputs e h) hloud
  | protocolTransmitMessage request =>
    have hkeeps : KeepsAt ⟨0, none⟩ sessions
        (protocolTransmitMessage config env request sessions) :=
      keepsAt_protocolTransmitMessage request
    exact absurd (hkeeps.outputs e h) hloud
  | processMessage message =>
    change e ∈ (processMessage config env message sessions).2 at h
    rcases processMessage_cases config env message sessions with
      hidle | ⟨source, destination, haddressed, ⟨hcm, heq⟩ | ⟨hdt, heq⟩⟩
    · rw [hidle] at h
      simp at h
    · rw [heq] at h
      exact absurd (isQuiet_processConnectionManagementMessage haddressed hcm e h) hloud
    · refine ⟨⟨source, some destination⟩,
        ((message.getUint8At SEQUENCE_NUMBER_DATA_INDEX).toNat, message.data.drop 1), ?_⟩
      unfold packetOf
      exact if_pos ⟨haddressed, hdt⟩

theorem step_of_packet {packet : Nat × List UInt8} (h : packetOf key input = some packet) :
    ∃ message, (message.getUint8At SEQUENCE_NUMBER_DATA_INDEX).toNat = packet.1 ∧
      message.data.drop 1 = packet.2 ∧ packet.2.length = PROTOCOL_BYTES_PER_FRAME.toNat ∧
      (extendedTransportProtocolManager config).step sessions input =
        sessions.dispatch key (·.receiveDataTransfer config input.env key message) := by
  obtain ⟨env, call⟩ := input
  cases call with
  | update => simp [packetOf] at h
  | protocolTransmitMessage request => simp [packetOf] at h
  | processMessage message =>
    unfold packetOf at h
    dsimp only at h
    split_ifs at h with hcond
    obtain ⟨haddressed, hgroup⟩ := hcond
    cases h
    refine ⟨message, rfl, rfl, ?_, processMessage_dataTransfer haddressed hgroup⟩
    rw [List.length_drop, haddressed.2.2.2.2]
    rfl

/-- A data packet offset goes to the session of its parties, if it is for their group
number. -/
theorem step_of_offset {offset : Nat} (h : offsetOf key input = some offset) :
    ∃ message : CANMessage, (message.getUint24At 2).toNat = offset ∧
      (extendedTransportProtocolManager config).step sessions input =
        sessions.dispatch key fun session =>
          if session.parameterGroupNumber ≠ message.getUint24At 5 then
            let aborted := session.abortSession input.env key .unexpectedDataPacketOffsetPGN
            (aborted.1, aborted.2 ++ [sendAbort input.env (key.destination.getD 0) key.source
              (message.getUint24At 5) .unexpectedDataPacketOffsetPGN])
          else session.receiveDataPacketOffset input.env key (message.getUint8At 1)
            (message.getUint24At 2) := by
  obtain ⟨env, call⟩ := input
  cases call with
  | update => simp [offsetOf] at h
  | protocolTransmitMessage request => simp [offsetOf] at h
  | processMessage message =>
    unfold offsetOf at h
    dsimp only at h
    split_ifs at h with hcond
    obtain ⟨haddressed, hgroup, hmultiplexor⟩ := hcond
    refine ⟨message, Option.some.inj h, ?_⟩
    obtain ⟨destination, hkey⟩ := haddressed.exists_destination
    rw [hkey] at haddressed
    change processMessage config env message sessions = _
    rw [processMessage_connectionManagement haddressed hgroup,
      processConnectionManagementMessage, if_neg (not_not.mpr haddressed.2.2.2.2.symm)]
    rw [hmultiplexor, if_neg (by decide), if_neg (by decide), if_pos rfl, hkey]
    rfl

structure Fresh (length : UInt32) (session : ExtendedTransportProtocolSession) : Prop where
  size : session.totalMessageSize = length
  data : session.data = List.replicate length.toNat 0
  offset : session.sequenceNumberOffset = 0
  last : session.lastSequenceNumber = 0
  aligned : session.Aligned

/-- The session that an accepted announcement leaves behind has an empty buffer of the
announced length. -/
theorem fresh_next {length : UInt32} (hopen : openingOf config sessions key input = some length)
    (h : ((extendedTransportProtocolManager config).next sessions input).lookup key =
      some session') (hr : session'.Receiving) : Fresh length session' := by
  obtain ⟨env, call⟩ := input
  cases call with
  | update => simp [openingOf] at hopen
  | protocolTransmitMessage request => simp [openingOf] at hopen
  | processMessage message =>
    unfold openingOf at hopen
    dsimp only at hopen
    split_ifs at hopen with hcond
    obtain ⟨⟨haddressed, hgroup, hmultiplexor⟩, hfull⟩ := hcond
    cases hopen
    obtain ⟨destination, hkey⟩ := haddressed.exists_destination
    rw [hkey] at haddressed
    change (processMessage config env message sessions).1.lookup key = _ at h
    rw [processMessage_connectionManagement haddressed hgroup,
      processConnectionManagementMessage, if_neg (not_not.mpr haddressed.2.2.2.2.symm)] at h
    rw [hmultiplexor, if_pos rfl, processRequestToSend, hfull, if_neg Bool.false_ne_true] at h
    dsimp only at h
    rw [← hkey, openSession, KeyedTable.lookup_dispatch, if_pos rfl,
      KeyedTable.lookup_push_self] at h
    obtain ⟨-, hsize, hdata, hoffset, hlast, haligned⟩ :=
      (keeps_updateStateMachine _).value session' h hr
    exact ⟨hsize, hdata, hoffset, hlast, haligned (by simp [Aligned, setState])⟩

theorem packetOf_of_offset {offset : Nat} (h : offsetOf key input = some offset) :
    packetOf key input = none := by
  obtain ⟨env, call⟩ := input
  cases call with
  | update => rfl
  | protocolTransmitMessage request => rfl
  | processMessage message =>
    unfold offsetOf at h
    dsimp only at h
    split_ifs at h with hcond
    unfold packetOf
    dsimp only
    rw [if_neg]
    rintro ⟨-, hgroup⟩
    rw [hcond.2.1] at hgroup
    cases hgroup

theorem not_managed_of_packet {packet : Nat × List UInt8} (h : packetOf key input = some packet) :
    openingOf config sessions key input = none ∧ offsetOf key input = none := by
  obtain ⟨env, call⟩ := input
  cases call with
  | update => exact ⟨rfl, rfl⟩
  | protocolTransmitMessage request => exact ⟨rfl, rfl⟩
  | processMessage message =>
    unfold packetOf at h
    dsimp only at h
    split_ifs at h with hcond
    have hnot (multiplexor : UInt8) : ¬Managed multiplexor env key message := by
      rintro ⟨-, hgroup, -⟩
      rw [hcond.2] at hgroup
      cases hgroup
    exact ⟨if_neg fun h => hnot _ h.1, if_neg (hnot _)⟩

/-- A session and the packets that were noted since its announcement. -/
structure Received (note : Note) (session : ExtendedTransportProtocolSession) : Prop where
  length_eq : note.length = session.totalMessageSize
  offset_eq : session.sequenceNumberOffset.toNat = note.offset
  offset_lt : note.offset < 2 ^ 24
  count : note.offset + session.lastSequenceNumber.toNat = note.packets.length
  assembled : Assembled PROTOCOL_BYTES_PER_FRAME.toNat note.packets session.data
  aligned : session.Aligned

/-- Every session that receives is filled with what was noted for its parties. -/
def ReceiveInvariant (config : CANNetworkConfiguration) (past : List Input)
    (sessions : ActiveSessions) : Prop :=
  ∀ key session, sessions.lookup key = some session → session.Receiving →
    ∃ note, transcript config key KeyedTable.empty none past = some note ∧
      Received note session

theorem Received.toNat_last {session : ExtendedTransportProtocolSession}
    (h : Received note session) : session.getLastPacketNumber.toNat = note.packets.length := by
  have hlast := session.lastSequenceNumber.toNat_lt
  have hoffset := h.offset_lt
  unfold getLastPacketNumber
  rw [UInt32.toNat_add, h.offset_eq, UInt8.toNat_toUInt32, ← h.count, Nat.add_comm]
  exact Nat.mod_eq_of_lt (by omega)

theorem Received.of_continues {session : ExtendedTransportProtocolSession}
    (h : Received note session) (hcontinues : session.Continues session') :
    Received note session' where
  length_eq := by rw [hcontinues.size, h.length_eq]
  offset_eq := by rw [hcontinues.offset, h.offset_eq]
  offset_lt := h.offset_lt
  count := by rw [hcontinues.last, h.count]
  assembled := hcontinues.data ▸ h.assembled
  aligned := hcontinues.aligned h.aligned

theorem Received.of_offset {offset : UInt32} {session : ExtendedTransportProtocolSession}
    (h : Received note session) (hoffset : Offset offset session session')
    (hlt : offset.toNat < 2 ^ 24) :
    Received { note with offset := offset.toNat } session' where
  length_eq := by rw [hoffset.size, h.length_eq]
  offset_eq := by rw [hoffset.offset_eq]
  offset_lt := hlt
  count := by
    rw [hoffset.last]
    change offset.toNat + 0 = note.packets.length
    rw [hoffset.before h.aligned, h.toNat_last, Nat.add_zero]
  assembled := hoffset.data ▸ h.assembled
  aligned := hoffset.aligned

theorem Received.of_stored {number : Nat} {payload : List UInt8}
    {session : ExtendedTransportProtocolSession} (h : Received note session)
    (hstored : Stored number payload session session')
    (hlength : payload.length = PROTOCOL_BYTES_PER_FRAME.toNat) :
    Received { note with packets := note.packets ++ [(note.offset + number, payload)] }
      session' where
  length_eq := by rw [hstored.size, h.length_eq]
  offset_eq := by rw [hstored.offset, h.offset_eq]
  offset_lt := h.offset_lt
  count := by
    rw [List.length_append, List.length_singleton, ← h.count, hstored.last, hstored.number_eq,
      Nat.add_assoc]
  assembled := by
    have hnext := h.assembled.concat hlength
    have hnumber : note.offset + number = note.packets.length + 1 := by
      rw [hstored.number_eq, ← h.count, Nat.add_assoc]
    have hindex : session.currentDataIndex.toNat =
        PROTOCOL_BYTES_PER_FRAME.toNat * note.packets.length := by
      have hlast := session.lastSequenceNumber.toNat_lt
      have hoffset := h.offset_lt
      have hcount := h.count
      rw [currentDataIndex, UInt32.toNat_mul, h.toNat_last]
      exact Nat.mod_eq_of_lt (by change 7 * _ < 2 ^ 32; omega)
    have hcopy : session.bytesToCopy = min PROTOCOL_BYTES_PER_FRAME.toNat
        (session.data.length - PROTOCOL_BYTES_PER_FRAME.toNat * note.packets.length) := by
      have hinside := UInt32.le_of_lt hstored.inside
      rw [bytesToCopy, UInt32.toNat_sub_of_le _ _ hinside, hindex, session.data_length]
      rfl
    rw [hstored.data, hindex, hcopy, hnumber]
    exact hnext
  aligned := hstored.aligned

theorem receiveInvariant_next (past : List Input) (input : Input)
    (hinv : ReceiveInvariant config past
      ((extendedTransportProtocolManager config).run KeyedTable.empty past)) :
    ReceiveInvariant config (past ++ [input])
      ((extendedTransportProtocolManager config).next
        ((extendedTransportProtocolManager config).run KeyedTable.empty past) input) := by
  intro key session' hlookup hr'
  rw [transcript_concat, observe]
  generalize (extendedTransportProtocolManager config).run KeyedTable.empty past =
    sessions at *
  cases hopen : openingOf config sessions key input with
  | some length =>
    have hfresh := fresh_next hopen hlookup hr'
    refine ⟨_, rfl, hfresh.size.symm, ?_, by simp, ?_, .nil _ _, hfresh.aligned⟩
    · rw [hfresh.offset]
      rfl
    · rw [hfresh.last]
      rfl
  | none =>
    cases hoffset : offsetOf key input with
    | some offset =>
      obtain ⟨message, hnumber, hstep⟩ := step_of_offset hoffset
      rw [Machine.next, hstep, KeyedTable.lookup_dispatch, if_pos rfl] at hlookup
      obtain ⟨session, hbefore, hsome⟩ := Option.bind_eq_some_iff.mp hlookup
      split_ifs at hsome with hgroup
      · simp [abortSession] at hsome
      · have hset := offset_of_receiveDataPacketOffset hsome
        obtain ⟨note, hnote, hreceived⟩ := hinv key session hbefore hset.receiving
        refine ⟨_, by rw [hnote]; rfl, ?_⟩
        have hnext := hreceived.of_offset hset (decode24_toNat_lt _ _ _)
        rw [hnumber] at hnext
        simpa [Note.add, hoffset, packetOf_of_offset hoffset] using hnext
    | none =>
      cases hpacket : packetOf key input with
      | none =>
        obtain ⟨session, hbefore, hcontinues⟩ :=
          keepsTrack_next hopen hoffset hpacket session' hlookup hr'
        obtain ⟨note, hnote, hreceived⟩ := hinv key session hbefore hcontinues.receiving
        refine ⟨_, by rw [hnote]; rfl, ?_⟩
        simpa [Note.add, hoffset, hpacket] using hreceived.of_continues hcontinues
      | some packet =>
        obtain ⟨message, hnumber, hpayload, hlength, hstep⟩ := step_of_packet hpacket
        rw [Machine.next, hstep, KeyedTable.lookup_dispatch, if_pos rfl] at hlookup
        obtain ⟨session, hbefore, hsome⟩ := Option.bind_eq_some_iff.mp hlookup
        have hstored := stored_of_receiveDataTransfer hsome hr'
        rw [hnumber, hpayload] at hstored
        obtain ⟨note, hnote, hreceived⟩ := hinv key session hbefore hstored.receiving
        refine ⟨_, by rw [hnote]; rfl, ?_⟩
        simpa [Note.add, hoffset, hpacket] using hreceived.of_stored hstored hlength

theorem receiveInvariant_run (config : CANNetworkConfiguration) (past : List Input) :
    ReceiveInvariant config past
      ((extendedTransportProtocolManager config).run KeyedTable.empty past) :=
  Machine.run_history _ (fun _ _ h => by simp at h) receiveInvariant_next past

theorem toNat_getTotalNumberOfPackets (session : ExtendedTransportProtocolSession) :
    session.getTotalNumberOfPackets.toNat = (session.totalMessageSize.toNat + 6) / 7 := by
  have hlt := session.totalMessageSize.toNat_lt
  unfold getTotalNumberOfPackets getMessageLength PROTOCOL_BYTES_PER_FRAME
  split_ifs with hrest
  · rw [gt_iff_lt, UInt32.lt_iff_toNat_lt] at hrest
    simp at hrest ⊢
    omega
  · rw [gt_iff_lt, UInt32.lt_iff_toNat_lt] at hrest
    simp at hrest ⊢
    omega

/-- The packets that make up a delivered message, as noted on the bus. -/
def DeliversNoted (config : CANNetworkConfiguration) (history : List Input)
    (message : CANMessage) (note : Note) : Prop :=
  ∃ source, message.source = some source ∧
    transcript config ⟨source, message.destination⟩ KeyedTable.empty none history =
      some note

/-- A delivered message is the beginning of the packets `1 .. ⌈length / 7⌉` since its announcement,
and no packet is written outside a buffer. -/
theorem extendedMessageReceived_intact (config : CANNetworkConfiguration)
    (past : List Input) (input : Input) :
    (∀ message, .messageReceived message ∈ (extendedTransportProtocolManager config).emits
        ((extendedTransportProtocolManager config).run KeyedTable.empty past) input →
      ∃ note, DeliversNoted config (past ++ [input]) message note ∧
        note.packets.map Prod.fst = List.range' 1 ((note.length.toNat + 6) / 7) ∧
        message.data.length = note.length.toNat ∧
        message.data = (note.packets.map Prod.snd).flatten.take note.length.toNat) ∧
      .outOfBounds ∉ (extendedTransportProtocolManager config).emits
        ((extendedTransportProtocolManager config).run KeyedTable.empty past) input := by
  constructor
  · intro message h
    obtain ⟨key, packet, hpacket⟩ := exists_packet_of_not_quiet h (by simp [Event.isQuiet])
    obtain ⟨frame, hnumber, hpayload, hlength, hstep⟩ := step_of_packet hpacket
    rw [Machine.emits, hstep] at h
    obtain ⟨session, hlookup, he⟩ := KeyedTable.mem_dispatch.mp h
    rcases delivered_of_receiveDataTransfer he with hquiet | ⟨stored, hstored, hcomplete, heq⟩
    · simp [IsQuiet, Event.isQuiet] at hquiet
    obtain rfl := Event.messageReceived.inj heq
    rw [hnumber, hpayload] at hstored
    obtain ⟨note, hnote, hreceived⟩ := receiveInvariant_run config past key session
      hlookup hstored.receiving
    have hafter := hreceived.of_stored hstored hlength
    have htotal : stored.getTotalNumberOfPackets = stored.getLastPacketNumber :=
      eq_of_sub_eq_zero hcomplete
    have hcount := hafter.toNat_last
    rw [← htotal, toNat_getTotalNumberOfPackets, ← hafter.length_eq] at hcount
    have hsize : stored.data.length = note.length.toNat := by
      rw [stored.data_length, ← hafter.length_eq]
    obtain ⟨hopen, hoffset⟩ := not_managed_of_packet hpacket
    refine ⟨{ note with packets := note.packets ++ [(note.offset + packet.1, packet.2)] },
      ⟨key.source, rfl, ?_⟩, ?_, hsize, ?_⟩
    · change transcript config key KeyedTable.empty none (past ++ [input]) = _
      rw [transcript_concat, observe, hopen, hnote]
      simp only [Option.map_some, Note.add, hoffset, hpacket, Option.getD_none, Option.toList_some]
    · rw [hafter.assembled.numbers, ← hcount]
    · rw [← hsize]
      exact hafter.assembled.eq_take (by decide) (by rw [hsize, ← hcount]; rfl)
  · intro h
    obtain ⟨key, packet, hpacket⟩ := exists_packet_of_not_quiet h (by simp [Event.isQuiet])
    obtain ⟨frame, -, -, -, hstep⟩ := step_of_packet hpacket
    rw [Machine.emits, hstep] at h
    obtain ⟨session, -, he⟩ := KeyedTable.mem_dispatch.mp h
    rcases delivered_of_receiveDataTransfer he with hquiet | ⟨stored, -, -, heq⟩
    · simp [IsQuiet, Event.isQuiet] at hquiet
    · simp at heq

/-- The other node asks to send nine bytes. -/
def requestHeard : Input :=
  heard 0 (connectionManagementFrame REQUEST_TO_SEND_MULTIPLEXOR 9 0 0 0 0xFE00 (some 0) (some 1))

/-- The other node announces two packets from the first one on. -/
def offsetHeard : Input :=
  heard 0 (connectionManagementFrame DATA_PACKET_OFFSET_MULTIPLXOR 2 0 0 0 0xFE00 (some 0)
    (some 1))

/-- The other node sends a packet that repeats its sequence number. -/
def packetHeard (number : UInt8) : Input :=
  heard 0 ⟨extendedTransportProtocolDataTransfer, List.replicate 8 number, some 0, some 1,
    PriorityLowest7⟩

def messageHeard : CANMessage where
  identifier := .ofFields .extended 0xFE00 PriorityDefault6 0x10 0x28
  data := [1, 1, 1, 1, 1, 1, 1, 2, 2]
  source := some 0
  destination := some 1
  canPortIndex := 0
  timestampUs := 0

theorem extendedMessageReceived_intact_nine_bytes :
    ∃ note, DeliversNoted {} ([requestHeard, offsetHeard, packetHeard 1] ++ [packetHeard 2])
        messageHeard note ∧
      note.packets.map Prod.fst = List.range' 1 ((note.length.toNat + 6) / 7) ∧
      messageHeard.data.length = note.length.toNat ∧
      messageHeard.data = (note.packets.map Prod.snd).flatten.take note.length.toNat :=
  (extendedMessageReceived_intact {} [requestHeard, offsetHeard, packetHeard 1]
    (packetHeard 2)).1 messageHeard (by decide +kernel)

end Isobus.ExtendedTransportProtocol
