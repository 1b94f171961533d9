import Isobus.FastPacket.Protocol

namespace Isobus.FastPacket

open Isobus.Can Isobus.Lib FastPacketProtocolSession

/-- A frame as an observer reads it. -/
structure Frame where
  sequenceId : Nat
  counter : Nat
  payload : List UInt8
  deriving DecidableEq

/-- The frame that a message carries; a first frame has its payload behind the length. -/
def frameOf (message : CANMessage) (payloadIndex : Nat) : Frame where
  sequenceId := (message.getUint8At 0 >>> SEQUENCE_NUMBER_BIT_OFFSET).toNat
  counter := (message.getUint8At 0 &&& FRAME_COUNTER_BIT_MASK).toNat
  payload := message.data.drop payloadIndex

/-- What an observer notes about one session: the announced length, and the frames since. -/
structure Note where
  length : UInt8
  frames : List Frame
  deriving DecidableEq

def Note.bytes (note : Note) : List UInt8 := note.frames.flatMap Frame.payload

def observe (key : FastPacketKey) (protocol : FastPacketProtocol) (note : Option Note)
    (input : Input) : Option Note :=
  match input.call with
  | .processMessage message =>
    if heardKey input.env message protocol = some key then
      match protocol.activeSessions.lookup key with
      | some _ => note.map fun n => { n with frames := n.frames ++ [frameOf message 1] }
      | none =>
        if message.getUint8At 0 &&& FRAME_COUNTER_BIT_MASK = 0 then
          some ⟨message.getUint8At 1, [frameOf message 2]⟩
        else note
    else note
  | _ => note

def transcript (key : FastPacketKey) : FastPacketProtocol → Option Note → List Input → Option Note
  | _, note, [] => note
  | protocol, note, input :: inputs =>
    transcript key (fastPacketProtocol.next protocol input) (observe key protocol note input)
      inputs

variable {env : Environment} {protocol : FastPacketProtocol} {key : FastPacketKey}
variable {input : Input} {message : CANMessage} {session : FastPacketProtocolSession}

theorem transcript_concat (note : Option Note) (inputs : List Input) (input : Input) :
    transcript key protocol note (inputs ++ [input]) =
      observe key (fastPacketProtocol.run protocol inputs)
        (transcript key protocol note inputs) input := by
  induction inputs generalizing protocol note with
  | nil => rfl
  | cons i is ih => exact ih _

theorem heardKey_eq_some (h : heardKey env message protocol = some key) :
    message.source = some key.source ∧ message.destination = key.destination ∧
      message.identifier.getParameterGroupNumber = key.parameterGroupNumber ∧
      message.data.length = CAN_DATA_LENGTH ∧ matchingCallbacks protocol message ≠ [] := by
  unfold heardKey at h
  split at h
  · simp at h
  · rename_i source hsource
    split_ifs at h with hlength _ hcallbacks
    cases h
    exact ⟨hsource, rfl, rfl, not_not.mp fun hne => hlength (.inl hne), hcallbacks⟩

/-- A session holds the noted bytes, as far as its buffer reaches. -/
structure Received (note : Note) (session : FastPacketProtocolSession) : Prop where
  length_eq : note.length = session.totalMessageSize
  size : note.bytes.length + 1 = 7 * note.frames.length
  count : session.numberOfBytesTransferred.toNat =
    min note.bytes.length session.totalMessageSize.toNat
  filled : Filled note.bytes session.data

theorem Filled.copyIn {received : List UInt8} (payload : List UInt8) (now : UInt32)
    (hfilled : Filled received session.data)
    (hcount : session.numberOfBytesTransferred.toNat = received.length)
    (hle : received.length ≤ session.totalMessageSize.toNat) :
    (session.copyIn now payload).numberOfBytesTransferred.toNat =
        min (received.length + payload.length) session.totalMessageSize.toNat ∧
      Filled (received ++ payload) (session.copyIn now payload).data := by
  have hlength := session.totalMessageSize.toNat_lt
  have hleft : (session.getMessageLength - session.numberOfBytesTransferred).toNat =
      session.totalMessageSize.toNat - received.length := by
    rw [UInt8.toNat_sub_of_le _ _ (UInt8.le_iff_toNat_le.mpr (by rw [hcount]; exact hle)), hcount]
    rfl
  constructor
  · change (session.numberOfBytesTransferred + UInt8.ofNat (min payload.length
      (session.getMessageLength - session.numberOfBytesTransferred).toNat)).toNat = _
    rw [hleft, UInt8.toNat_add, hcount, UInt8.toNat_ofNat_of_lt' (by
      change min payload.length _ < 256
      omega)]
    change (received.length + _) % 256 = _
    omega
  · change Filled _ (overwrite session.data session.numberOfBytesTransferred.toNat
      (payload.take (min payload.length
        (session.getMessageLength - session.numberOfBytesTransferred).toNat)))
    rw [hleft, hcount]
    exact hfilled.overwrite payload _ (by rw [session.data_length])

variable {frame : Frame}

variable {note : Note}

theorem Received.copyIn (h : Received note session) (now : UInt32)
    (hinside : session.numberOfBytesTransferred < session.totalMessageSize)
    (hpayload : frame.payload.length = 7) :
    Received { note with frames := note.frames ++ [frame] }
      (session.copyIn now frame.payload) := by
  have hlt := UInt8.lt_iff_toNat_lt.mp hinside
  have hcount := h.count
  have hbytes : Note.bytes { note with frames := note.frames ++ [frame] } =
      note.bytes ++ frame.payload := by
    simp [Note.bytes]
  obtain ⟨hcount', hfilled'⟩ := Filled.copyIn frame.payload now h.filled (by omega) (by omega)
  refine ⟨h.length_eq, ?_, ?_, ?_⟩
  · rw [hbytes, List.length_append, List.length_append, hpayload, List.length_singleton]
    have hsize := h.size
    omega
  · rw [hbytes, List.length_append]
    exact hcount'
  · rw [hbytes]
    exact hfilled'

theorem received_openedSession (hlength : message.data.length = CAN_DATA_LENGTH)
    (h : openedSession env message = some session) :
    Received ⟨message.getUint8At 1, [frameOf message 2]⟩ session ∧
      session.direction = .receive ∧
      session.numberOfBytesTransferred < session.totalMessageSize := by
  unfold openedSession at h
  dsimp only at h
  split_ifs at h with hover hshort
  cases h
  have hpayload : (message.data.drop 2).length = 6 := by
    rw [List.length_drop, hlength]
    rfl
  change ¬(message.getUint8At 1).toNat ≤ 8 at hshort
  generalize hopened : (⟨.receive, List.replicate (message.getUint8At 1).toNat 0, 0, none, 0,
    message.getUint8At 1, 0, message.getUint8At 0 &&& SEQUENCE_NUMBER_BIT_MASK,
    message.identifier.getPriority, List.length_replicate⟩ : FastPacketProtocolSession) = opened
  have htotal : opened.totalMessageSize = message.getUint8At 1 := by rw [← hopened]
  have hdirection : opened.direction = .receive := by rw [← hopened]
  have hzero : opened.numberOfBytesTransferred = 0 := by rw [← hopened]
  obtain ⟨hcount, hfilled⟩ := Filled.copyIn (message.data.drop 2) env.now
    (filled_nil opened.data)
    (by rw [hzero]; rfl) (Nat.zero_le _)
  have hbytes : Note.bytes ⟨message.getUint8At 1, [frameOf message 2]⟩ = message.data.drop 2 := by
    simp [Note.bytes, frameOf]
  refine ⟨⟨htotal.symm, ?_, ?_, ?_⟩, hdirection, ?_⟩
  · rw [hbytes, hpayload]
    rfl
  · rw [hbytes]
    rw [List.length_nil, Nat.zero_add] at hcount
    exact hcount
  · rw [hbytes]
    exact hfilled
  · rw [UInt8.lt_iff_toNat_lt, hcount]
    change _ < opened.totalMessageSize.toNat
    rw [htotal, hpayload, List.length_nil]
    omega

theorem delivered_of_receiveFrame {callbacks : List ParameterGroupNumberCallbackData}
    {callback : ParameterGroupNumberCallbackData} {delivered : CANMessage}
    (h : .messageReceived callback delivered ∈
      (session.receiveFrame env key callbacks message).2) :
    message.getUint8At 0 &&& FRAME_COUNTER_BIT_MASK ≠ 0 ∧
      session.numberOfBytesTransferred < session.totalMessageSize ∧
      (session.copyIn env.now (message.data.drop 1)).totalMessageSize ≤
        (session.copyIn env.now (message.data.drop 1)).numberOfBytesTransferred ∧
      delivered = (session.copyIn env.now (message.data.drop 1)).completedMessage message := by
  have hclosed (session : FastPacketProtocolSession) (successful : Bool) :
      .messageReceived callback delivered ∉ (closeSession key session successful).2 := by
    unfold closeSession
    split <;> simp
  unfold receiveFrame at h
  dsimp only at h
  split_ifs at h with hcounter hover hcomplete
  · exact absurd h (hclosed _ _)
  · exact absurd h (hclosed _ _)
  · rcases List.mem_append.mp h with h | h
    · obtain ⟨_, -, heq⟩ := List.mem_map.mp h
      exact ⟨hcounter, UInt8.not_le.mp hover, hcomplete, (Event.messageReceived.inj heq).2.symm⟩
    · exact absurd h (hclosed _ _)
  · simp at h

theorem open_of_receiveFrame {callbacks : List ParameterGroupNumberCallbackData}
    {session' : FastPacketProtocolSession}
    (h : (session.receiveFrame env key callbacks message).1 = some session') :
    message.getUint8At 0 &&& FRAME_COUNTER_BIT_MASK ≠ 0 ∧
      session.numberOfBytesTransferred < session.totalMessageSize ∧
      session' = session.copyIn env.now (message.data.drop 1) ∧
      session'.numberOfBytesTransferred < session'.totalMessageSize := by
  have hclosed (session : FastPacketProtocolSession) (successful : Bool) :
      (closeSession key session successful).1 ≠ some session' := by
    unfold closeSession
    split <;> simp
  unfold receiveFrame at h
  dsimp only at h
  split_ifs at h with hcounter hover hcomplete
  · exact absurd h (hclosed _ _)
  · exact absurd h (hclosed _ _)
  · cases h
    exact ⟨hcounter, UInt8.not_le.mp hover, rfl, UInt8.not_le.mp hcomplete⟩

/-- The frames `0, 1, …` of one sequence number. -/
structure InSequence (frames : List Frame) : Prop where
  counters : frames.map Frame.counter = List.range frames.length
  ids : ∀ f ∈ frames, ∀ g ∈ frames, f.sequenceId = g.sequenceId

def follows (note : Note) (frame : Frame) : Bool :=
  note.frames.getLast?.any fun last =>
    frame.sequenceId = last.sequenceId && frame.counter = last.counter + 1

/-- A frame heard for an open session, other than a first one, follows the frame before it. -/
def continues (protocol : FastPacketProtocol) (notes : FastPacketKey → Option Note)
    (input : Input) : Bool :=
  match input.call with
  | .processMessage message =>
    (heardKey input.env message protocol).all fun key =>
      (protocol.activeSessions.lookup key).all fun session =>
        message.getUint8At 0 &&& FRAME_COUNTER_BIT_MASK = 0 ||
          (session.direction = .receive && (notes key).any (follows · (frameOf message 1)))
  | _ => true

def inOrder : FastPacketProtocol → (FastPacketKey → Option Note) → List Input → Bool
  | _, _, [] => true
  | protocol, notes, input :: inputs =>
    continues protocol notes input &&
      inOrder (fastPacketProtocol.next protocol input)
        (fun key => observe key protocol (notes key) input) inputs

theorem inOrder_concat (notes : FastPacketKey → Option Note) (inputs : List Input)
    (input : Input) :
    inOrder protocol notes (inputs ++ [input]) =
      (inOrder protocol notes inputs &&
        continues (fastPacketProtocol.run protocol inputs)
          (fun key => transcript key protocol (notes key) inputs) input) := by
  induction inputs generalizing protocol notes with
  | nil =>
    rw [List.nil_append, inOrder, inOrder, inOrder, Bool.and_true, Bool.true_and]
    rfl
  | cons i is ih =>
    rw [List.cons_append, inOrder, ih, inOrder, Bool.and_assoc]
    rfl

theorem inSequence_singleton (h : frame.counter = 0) : InSequence [frame] where
  counters := by simp [h]
  ids := by simp

theorem InSequence.concat (h : InSequence note.frames) (hfollows : follows note frame = true) :
    InSequence (note.frames ++ [frame]) := by
  unfold follows at hfollows
  rw [Option.any_eq_true] at hfollows
  obtain ⟨last, hlast, hnext⟩ := hfollows
  simp only [Bool.and_eq_true, decide_eq_true_eq] at hnext
  obtain ⟨hid, hcounter⟩ := hnext
  obtain ⟨front, hfront⟩ := List.getLast?_eq_some_iff.mp hlast
  have hmem : last ∈ note.frames := List.mem_of_getLast? hlast
  constructor
  · have hprevious : last.counter = front.length := by
      have hcounters := h.counters
      rw [hfront, List.map_append, List.length_append, List.length_singleton,
          List.range_succ] at hcounters
      exact List.singleton_inj.mp (List.append_inj_right' hcounters rfl)
    rw [List.map_append, h.counters, List.length_append, List.length_singleton, List.range_succ,
      List.map_singleton, hcounter, hprevious, hfront, List.length_append, List.length_singleton]
  · intro f hf g hg
    have heq (f : Frame) (hf : f ∈ note.frames ++ [frame]) : f.sequenceId = last.sequenceId := by
      rcases List.mem_append.mp hf with hf | hf
      · exact h.ids f hf last hmem
      · rw [List.mem_singleton.mp hf, hid]
    rw [heq f hf, heq g hg]

/-- Every session that receives holds what was noted for it, and waits for more. -/
def ReceiveInvariant (past : List Input) (protocol : FastPacketProtocol) : Prop :=
  ∀ key session, protocol.activeSessions.lookup key = some session →
    session.direction = .receive →
    ∃ note, transcript key idle none past = some note ∧ Received note session ∧
      InSequence note.frames ∧ session.numberOfBytesTransferred < session.totalMessageSize

theorem sendFrames_direction (env : Environment) (key : FastPacketKey) (left : Nat)
    (session : FastPacketProtocolSession) :
    (sendFrames env key left session).session.direction = session.direction := by
  induction left generalizing session with
  | zero => rfl
  | succ left ih =>
    rw [sendFrames]
    dsimp only
    split_ifs
    · exact ih _
    · rfl
    · rfl

theorem eq_of_update {session' : FastPacketProtocolSession}
    (h : (session.update env key).1 = some session') (hreceive : session'.direction = .receive) :
    session' = session := by
  have hclosed (session : FastPacketProtocolSession) (successful : Bool) :
      (closeSession key session successful).1 = none := by
    unfold closeSession
    split <;> rfl
  unfold FastPacketProtocolSession.update at h
  split_ifs at h
  unfold updateSession at h
  split at h
  · split_ifs at h
    · rw [hclosed] at h
      simp at h
    · exact (Option.some.inj h).symm
  · rename_i htransmit
    have hdirection := sendFrames_direction env key 256 session
    unfold updateTransmit at h
    dsimp only at h
    split_ifs at h
    all_goals
      first
      | rw [hclosed] at h
        simp at h
      | cases h
        rw [hdirection, htransmit] at hreceive
        simp at hreceive

theorem direction_of_requestedSession {request : SendRequest}
    (h : requestedSession env request protocol = some (key, session)) :
    session.direction = .transmit := by
  unfold requestedSession at h
  split at h
  · dsimp only at h
    split_ifs at h
    cases h
    rfl
  · simp at h

/-- Where a receiving session comes from: it was there, or it took a frame, or a first frame opened
it. -/
theorem fate_receive_cases (h : (fate protocol input key).1 = some session)
    (hreceive : session.direction = .receive) :
    (protocol.activeSessions.lookup key = some session ∧
      ∀ note, observe key protocol note input = note) ∨
    ∃ message, input.call = .processMessage message ∧
      heardKey input.env message protocol = some key ∧
      ((∃ before, protocol.activeSessions.lookup key = some before ∧
          (before.receiveFrame input.env key (matchingCallbacks protocol message) message).1 =
            some session) ∨
        protocol.activeSessions.lookup key = none ∧
          message.getUint8At 0 &&& FRAME_COUNTER_BIT_MASK = 0 ∧
          openedSession input.env message = some session) := by
  obtain ⟨env, call⟩ := input
  unfold fate at h
  unfold observe
  cases call with
  | processMessage message =>
    cases hlookup : protocol.activeSessions.lookup key with
    | none =>
      rw [hlookup] at h
      dsimp only at h
      split_ifs at h with hheard
      exact .inr ⟨message, rfl, hheard.1, .inr ⟨rfl, hheard.2, h⟩⟩
    | some before =>
      rw [hlookup] at h
      dsimp only at h
      split_ifs at h with hheard
      · exact .inr ⟨message, rfl, hheard, .inl ⟨before, rfl, h⟩⟩
      · exact .inl ⟨h, fun note => if_neg hheard⟩
  | update =>
    cases hlookup : protocol.activeSessions.lookup key with
    | none => simp [hlookup] at h
    | some before =>
      rw [hlookup] at h
      obtain rfl := eq_of_update h hreceive
      exact .inl ⟨rfl, fun _ => rfl⟩
  | sendMultipacketMessage request =>
    cases hlookup : protocol.activeSessions.lookup key with
    | some before =>
      rw [hlookup] at h
      exact .inl ⟨h, fun _ => rfl⟩
    | none =>
      rw [hlookup] at h
      dsimp only at h
      split at h
      · rename_i k requested hrequest
        split_ifs at h
        cases h
        rw [direction_of_requestedSession hrequest] at hreceive
        simp at hreceive
      · simp at h
  | registerMultipacketMessageCallback callback =>
    exact .inl ⟨h, fun _ => rfl⟩
  | removeMultipacketMessageCallback callback =>
    exact .inl ⟨h, fun _ => rfl⟩
  | allowAnyControlFunction allow =>
    exact .inl ⟨h, fun _ => rfl⟩

theorem follows_of_continues {notes : FastPacketKey → Option Note}
    (hcall : input.call = .processMessage message)
    (hheard : heardKey input.env message protocol = some key)
    (hlookup : protocol.activeSessions.lookup key = some session)
    (hcounter : message.getUint8At 0 &&& FRAME_COUNTER_BIT_MASK ≠ 0)
    (hcontinues : continues protocol notes input = true) :
    session.direction = .receive ∧
      ∀ note, notes key = some note → follows note (frameOf message 1) = true := by
  unfold continues at hcontinues
  rw [hcall] at hcontinues
  dsimp only at hcontinues
  rw [hheard, Option.all_some, hlookup, Option.all_some] at hcontinues
  simp only [hcounter, decide_false, Bool.false_or, Bool.and_eq_true,
    decide_eq_true_eq] at hcontinues
  refine ⟨hcontinues.1, fun note hnote => ?_⟩
  have hany := hcontinues.2
  rw [hnote] at hany
  exact hany

theorem received_of_frame {past : List Input} {before : FastPacketProtocolSession}
    (hinv : ReceiveInvariant past (fastPacketProtocol.run idle past))
    (hcontinues : continues (fastPacketProtocol.run idle past)
      (fun key => transcript key idle none past) input = true)
    (hcall : input.call = .processMessage message)
    (hheard : heardKey input.env message (fastPacketProtocol.run idle past) = some key)
    (hlookup : (fastPacketProtocol.run idle past).activeSessions.lookup key = some before)
    (hcounter : message.getUint8At 0 &&& FRAME_COUNTER_BIT_MASK ≠ 0) :
    ∃ note, transcript key idle none (past ++ [input]) = some note ∧
      Received note (before.copyIn input.env.now (message.data.drop 1)) ∧
      InSequence note.frames ∧ frameOf message 1 ∈ note.frames ∧
      7 ≤ before.totalMessageSize.toNat ∧
      7 * note.frames.length ≤ before.totalMessageSize.toNat + 7 := by
  obtain ⟨hreceive, hfollows⟩ := follows_of_continues hcall hheard hlookup hcounter hcontinues
  obtain ⟨note, hnote, hreceived, hsequence, hinside⟩ := hinv key before hlookup hreceive
  obtain ⟨-, -, -, hlength, -⟩ := heardKey_eq_some hheard
  have hpayload : (frameOf message 1).payload.length = 7 := by
    change (message.data.drop 1).length = 7
    rw [List.length_drop, hlength]
    rfl
  refine ⟨{ note with frames := note.frames ++ [frameOf message 1] }, ?_,
    hreceived.copyIn input.env.now hinside hpayload, hsequence.concat (hfollows note hnote),
    List.mem_append_right _ List.mem_cons_self, ?_⟩
  · rw [transcript_concat, hnote]
    unfold observe
    rw [hcall]
    dsimp only
    rw [if_pos hheard, hlookup]
    rfl
  · have hlt := UInt8.lt_iff_toNat_lt.mp hinside
    have hsize := hreceived.size
    have hcount := hreceived.count
    rw [List.length_append, List.length_singleton]
    constructor <;> omega

theorem receiveInvariant_next {past : List Input}
    (hinv : ReceiveInvariant past (fastPacketProtocol.run idle past))
    (hcontinues : continues (fastPacketProtocol.run idle past)
      (fun key => transcript key idle none past) input = true) :
    ReceiveInvariant (past ++ [input])
      (fastPacketProtocol.next (fastPacketProtocol.run idle past) input) := by
  intro key session hlookup hreceive
  rw [lookup_next] at hlookup
  rcases fate_receive_cases hlookup hreceive with ⟨hbefore, hsame⟩ |
    ⟨message, hcall, hheard, ⟨before, hbefore, hframe⟩ | ⟨hbefore, hzero, hopened⟩⟩
  · rw [transcript_concat, hsame]
    exact hinv key session hbefore hreceive
  · obtain ⟨hcounter, -, rfl, hinside⟩ := open_of_receiveFrame hframe
    obtain ⟨note, hnote, hreceived, hsequence, -⟩ :=
      received_of_frame hinv hcontinues hcall hheard hbefore hcounter
    exact ⟨note, hnote, hreceived, hsequence, hinside⟩
  · obtain ⟨-, -, -, hlength, -⟩ := heardKey_eq_some hheard
    obtain ⟨hreceived, -, hinside⟩ := received_openedSession hlength hopened
    refine ⟨_, ?_, hreceived, inSequence_singleton ?_, hinside⟩
    · rw [transcript_concat]
      unfold observe
      rw [hcall]
      dsimp only
      rw [if_pos hheard, hbefore]
      rw [if_pos hzero]
    · change (message.getUint8At 0 &&& FRAME_COUNTER_BIT_MASK).toNat = 0
      rw [hzero]
      rfl

theorem receiveInvariant_run (past : List Input)
    (hinorder : inOrder idle (fun _ => none) past = true) :
    ReceiveInvariant past (fastPacketProtocol.run idle past) := by
  induction past using List.reverseRecOn with
  | nil =>
    intro key session hlookup
    simp [idle] at hlookup
  | append_singleton past input ih =>
    rw [inOrder_concat, Bool.and_eq_true] at hinorder
    rw [Machine.run_concat]
    exact receiveInvariant_next (ih hinorder.1) hinorder.2

theorem not_delivered_closeSession (session : FastPacketProtocolSession) (successful : Bool)
    (callback : ParameterGroupNumberCallbackData) (delivered : CANMessage) :
    .messageReceived callback delivered ∉ (closeSession key session successful).2 := by
  unfold closeSession
  split <;> simp

theorem not_delivered_sendFrames (left : Nat) (session : FastPacketProtocolSession)
    (callback : ParameterGroupNumberCallbackData) (delivered : CANMessage) :
    .messageReceived callback delivered ∉ (sendFrames env key left session).events := by
  induction left generalizing session with
  | zero => simp [sendFrames]
  | succ left ih =>
    rw [sendFrames]
    dsimp only
    split_ifs
    · simpa using ih _
    · simp
    · simp

theorem not_delivered_updateSession (session : FastPacketProtocolSession)
    (callback : ParameterGroupNumberCallbackData) (delivered : CANMessage) :
    .messageReceived callback delivered ∉ (session.updateSession env key).2 := by
  unfold updateSession
  split
  · split_ifs
    · exact not_delivered_closeSession _ _ _ _
    · simp
  · unfold updateTransmit
    intro h
    rcases List.mem_append.mp h with h | h
    · rcases List.mem_append.mp h with h | h
      · exact not_delivered_sendFrames _ _ _ _ h
      · split_ifs at h
        · exact not_delivered_closeSession _ _ _ _ h
        · simp at h
    · split_ifs at h
      · exact not_delivered_closeSession _ _ _ _ h
      · simp at h
      · simp at h

theorem not_delivered_update (session : FastPacketProtocolSession)
    (callback : ParameterGroupNumberCallbackData) (delivered : CANMessage) :
    .messageReceived callback delivered ∉ (session.update env key).2 := by
  unfold FastPacketProtocolSession.update
  split_ifs
  · intro h
    rcases List.mem_append.mp h with h | h
    · exact not_delivered_closeSession _ _ _ _ h
    · exact not_delivered_updateSession _ _ _ h
  · exact not_delivered_updateSession _ _ _

theorem exists_frame_of_delivered {callback : ParameterGroupNumberCallbackData}
    {delivered : CANMessage}
    (h : .messageReceived callback delivered ∈ fastPacketProtocol.emits protocol input) :
    ∃ message key session, input.call = .processMessage message ∧
      heardKey input.env message protocol = some key ∧
      protocol.activeSessions.lookup key = some session ∧
      .messageReceived callback delivered ∈
        (session.receiveFrame input.env key (matchingCallbacks protocol message) message).2 := by
  obtain ⟨env, call⟩ := input
  cases call with
  | processMessage message =>
    change _ ∈ (processMessage env message protocol).2 at h
    unfold processMessage at h
    split at h
    · simp at h
    · rename_i key hheard
      split at h
      · rename_i session hlookup
        exact ⟨message, key, session, rfl, hheard, hlookup, h⟩
      · split_ifs at h
        · simp at h
        · split at h <;> simp at h
  | update =>
    change _ ∈ (update env protocol).2 at h
    rw [events_update] at h
    obtain ⟨key, session, -, he⟩ := KeyedTable.mem_sweepBack.mp h
    exact absurd he (not_delivered_update session callback delivered)
  | sendMultipacketMessage request =>
    change _ ∈ (sendMultipacketMessage env request protocol).2 at h
    unfold sendMultipacketMessage at h
    split at h <;> simp at h
  | registerMultipacketMessageCallback callback => simp [Machine.emits, fastPacketProtocol] at h
  | removeMultipacketMessageCallback callback => simp [Machine.emits, fastPacketProtocol] at h
  | allowAnyControlFunction allow => simp [Machine.emits, fastPacketProtocol] at h

/-- A message of the announced length, made of the frames `0, …, ⌈(length - 6) / 7⌉` of one
sequence number. -/
structure InOrderMessage (note : Note) (data : List UInt8) : Prop where
  ids : ∃ sequenceId < 8, ∀ frame ∈ note.frames, frame.sequenceId = sequenceId
  counters : note.frames.map Frame.counter =
    List.range ((note.length.toNat - 6 + (7 - 1)) / 7 + 1)
  length_eq : data.length = note.length.toNat
  bytes : data = note.bytes.take note.length.toNat

/-- The frames that were heard for a delivered message since it began. -/
def DeliversNoted (past : List Input) (delivered : CANMessage) (note : Note) : Prop :=
  ∃ source, delivered.source = some source ∧
    transcript ⟨⟨source, delivered.destination⟩, delivered.identifier.getParameterGroupNumber⟩
      idle none past = some note

theorem sequenceId_lt (message : CANMessage) (payloadIndex : Nat) :
    (frameOf message payloadIndex).sequenceId < 8 := by
  have hlt := (message.getUint8At 0).toNat_lt
  change (message.getUint8At 0 >>> SEQUENCE_NUMBER_BIT_OFFSET).toNat < 8
  rw [UInt8.toNat_shiftRight]
  change (message.getUint8At 0).toNat >>> 5 < 8
  rw [Nat.shiftRight_eq_div_pow]
  omega

theorem Received.inOrderMessage (h : Received note session) (hsequence : InSequence note.frames)
    (hcomplete : session.totalMessageSize ≤ session.numberOfBytesTransferred)
    (hfirst : 7 ≤ session.totalMessageSize.toNat)
    (hlast : 7 * note.frames.length ≤ session.totalMessageSize.toNat + 7)
    (hframe : frame ∈ note.frames) (hid : frame.sequenceId < 8) :
    InOrderMessage note session.data := by
  have hle := UInt8.le_iff_toNat_le.mp hcomplete
  have hsize := h.size
  have hcount := h.count
  have hlength := h.length_eq
  refine ⟨⟨frame.sequenceId, hid, fun f hf => hsequence.ids f hf frame hframe⟩, ?_, ?_, ?_⟩
  · rw [hsequence.counters, hlength]
    congr 1
    omega
  · rw [session.data_length, hlength]
  · rw [hlength, ← session.data_length]
    apply h.filled.eq_take
    rw [session.data_length]
    omega

/-- In a run whose frames continue the sessions they find open, a delivered message consists of the
frames of one sequence number, in order. -/
theorem messageReceived_in_order (past : List Input) (input : Input)
    (callback : ParameterGroupNumberCallbackData) (delivered : CANMessage)
    (hinorder : inOrder idle (fun _ => none) (past ++ [input]) = true)
    (h : .messageReceived callback delivered ∈
      fastPacketProtocol.emits (fastPacketProtocol.run idle past) input) :
    ∃ note, DeliversNoted (past ++ [input]) delivered note ∧
      InOrderMessage note delivered.data := by
  rw [inOrder_concat, Bool.and_eq_true] at hinorder
  obtain ⟨message, key, session, hcall, hheard, hlookup, he⟩ := exists_frame_of_delivered h
  obtain ⟨hcounter, -, hcomplete, rfl⟩ := delivered_of_receiveFrame he
  obtain ⟨note, hnote, hreceived, hsequence, hframe, hfirst, hlast⟩ :=
    received_of_frame (receiveInvariant_run past hinorder.1) hinorder.2 hcall hheard hlookup
      hcounter
  obtain ⟨hsource, hdestination, hgroup, -⟩ := heardKey_eq_some hheard
  refine ⟨note, ⟨key.source, hsource, ?_⟩,
    hreceived.inOrderMessage hsequence hcomplete hfirst hlast hframe (sequenceId_lt message 1)⟩
  change transcript ⟨⟨key.source, message.destination⟩,
    message.identifier.getParameterGroupNumber⟩ idle none (past ++ [input]) = some note
  rw [hdestination, hgroup]
  exact hnote

/-- The application waits for a group number. -/
def listening : Input where
  env := ⟨0, twoNodes, fun _ => true⟩
  call := .registerMultipacketMessageCallback ⟨0x1F801, 7, 0, none⟩

/-- The other node sends a frame to everyone. -/
def frameHeard (data : List UInt8) : Input where
  env := ⟨0, twoNodes, fun _ => true⟩
  call := .processMessage (TransmitFrame.toMessage twoNodes 0
    ⟨0x1F801, data, some 0, none, PriorityDefault6⟩)

/-- What is delivered when these frames complete a message. -/
def messageHeard (data : List UInt8) : CANMessage where
  identifier := .ofFields .extended 0x1F801 PriorityDefault6 0xFF 0x28
  data := data
  source := some 0
  destination := none
  canPortIndex := 0
  timestampUs := 0

theorem messageReceived_in_order_nine_bytes :
    ∃ note, DeliversNoted
        ([listening, frameHeard [0x40, 9, 1, 2, 3, 4, 5, 6]] ++
          [frameHeard [0x41, 7, 8, 9, 0xFF, 0xFF, 0xFF, 0xFF]])
        (messageHeard [1, 2, 3, 4, 5, 6, 7, 8, 9]) note ∧
      InOrderMessage note [1, 2, 3, 4, 5, 6, 7, 8, 9] :=
  messageReceived_in_order [listening, frameHeard [0x40, 9, 1, 2, 3, 4, 5, 6]]
    (frameHeard [0x41, 7, 8, 9, 0xFF, 0xFF, 0xFF, 0xFF]) ⟨0x1F801, 7, 0, none⟩
    (messageHeard [1, 2, 3, 4, 5, 6, 7, 8, 9]) (by decide +kernel) (by decide +kernel)

/-- Frame 5 of message 3 completes a message whose first frame had the sequence number 2. -/
theorem not_messageReceived_in_order :
    ¬∀ (past : List Input) (input : Input) (callback : ParameterGroupNumberCallbackData)
      (delivered : CANMessage),
      .messageReceived callback delivered ∈
        fastPacketProtocol.emits (fastPacketProtocol.run idle past) input →
      ∃ note, DeliversNoted (past ++ [input]) delivered note ∧
        InOrderMessage note delivered.data := by
  intro hclaim
  obtain ⟨note, ⟨source, hsource, hnote⟩, hmessage⟩ :=
    hclaim [listening, frameHeard [0x40, 9, 1, 2, 3, 4, 5, 6]]
      (frameHeard [0x65, 0, 0, 0, 0, 0, 0, 0]) ⟨0x1F801, 7, 0, none⟩
      (messageHeard [1, 2, 3, 4, 5, 6, 0, 0, 0]) (by decide +kernel)
  obtain rfl : 0 = source := Option.some.inj hsource
  have hseen : transcript ⟨⟨0, none⟩, 0x1F801⟩ idle none
      ([listening, frameHeard [0x40, 9, 1, 2, 3, 4, 5, 6]] ++
        [frameHeard [0x65, 0, 0, 0, 0, 0, 0, 0]]) =
      some ⟨9, [⟨2, 0, [1, 2, 3, 4, 5, 6]⟩, ⟨3, 5, [0, 0, 0, 0, 0, 0, 0]⟩]⟩ := by
    decide +kernel
  obtain rfl := Option.some.inj (hseen.symm.trans hnote)
  exact absurd hmessage.counters (by decide)

end Isobus.FastPacket
