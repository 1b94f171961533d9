import Isobus.FastPacket.ReceiveIntegrity
import Isobus.FastPacket.SequenceNumber

namespace Isobus.FastPacket

open Isobus.Can Isobus.Lib FastPacketProtocolSession

def counterOf (frame : TransmitFrame) : UInt8 := frame.data.headD 0 &&& FRAME_COUNTER_BIT_MASK

def sequenceIdOf (frame : TransmitFrame) : UInt8 :=
  frame.data.headD 0 >>> SEQUENCE_NUMBER_BIT_OFFSET

variable {env : Environment} {protocol : FastPacketProtocol} {key : FastPacketKey}
variable {session : FastPacketProtocolSession} {k : Nat}

private theorem counter_bits (x y : UInt8) (hx : x &&& 0x1F = x) (hy : y &&& 0x1F = 0) :
    (x ||| y) &&& 0x1F = x := by
  rw [← UInt8.toBitVec_inj] at hx hy ⊢
  simp only [UInt8.toBitVec_and, UInt8.toBitVec_or, BitVec.and_or_distrib_right] at hx hy ⊢
  rw [hx, hy]
  simp

theorem counterOf_fragment (key : FastPacketKey) (hk : k < 32) :
    counterOf (session.fragment key k) = UInt8.ofNat k := by
  have hcounter : ∀ k : Fin 32, UInt8.ofNat k &&& 0x1F = UInt8.ofNat k := by decide +kernel
  have hnumber : ∀ s : Fin 256, (UInt8.ofFin s <<< 5) &&& 0x1F = 0 := by decide +kernel
  exact counter_bits _ _ (hcounter ⟨k, hk⟩) (hnumber session.sequenceNumber.toFin)

theorem sequenceIdOf_fragment (hk : k < 32) :
    (sequenceIdOf (session.fragment key k)).toNat = session.sequenceNumber.toNat % 8 := by
  have hcounter : ∀ k : Fin 32, UInt8.ofNat k >>> 5 = 0 := by decide +kernel
  have hnumber : ∀ s : Fin 256, ((UInt8.ofFin s <<< 5) >>> 5).toNat = s.val % 8 := by
    decide +kernel
  change ((UInt8.ofNat k ||| (session.sequenceNumber <<< 5)) >>> 5).toNat = _
  rw [UInt8.shiftRight_or, hcounter ⟨k, hk⟩, UInt8.zero_or]
  exact hnumber session.sequenceNumber.toFin

/-- How a frame arrives: under which addresses it was sent, and what the receiver reads. -/
structure Arrival where
  env : Environment
  senderWorld : World
  timestampUs : UInt64

def Arrival.message (arrival : Arrival) (frame : TransmitFrame) : CANMessage :=
  frame.toMessage arrival.senderWorld arrival.timestampUs

def Arrival.hears (arrival : Arrival) (frame : TransmitFrame) : Input :=
  ⟨arrival.env, .processMessage (arrival.message frame)⟩

def feed (arrivals : Nat → Arrival) (frames : List TransmitFrame) : List Input :=
  frames.mapIdx fun i frame => (arrivals i).hears frame

def wanted (protocol : FastPacketProtocol) (key : FastPacketKey) :
    List ParameterGroupNumberCallbackData :=
  protocol.parameterGroupNumberCallbacks.filter fun callback =>
    callback.parameterGroupNumber = key.parameterGroupNumber ∧
      (callback.internalControlFunction = none ∨
        callback.internalControlFunction = key.destination)

/-- A receiver that waits for a message: a callback wants it, and it is for its own control
functions or everyone, or it takes any. -/
structure Listening (receiver : FastPacketProtocol) (key : FastPacketKey)
    (arrivals : Nat → Arrival) : Prop where
  group_ge : FP_MIN_PARAMETER_GROUP_NUMBER ≤ key.parameterGroupNumber
  group_le : key.parameterGroupNumber ≤ FP_MAX_PARAMETER_GROUP_NUMBER
  wanted_ne : wanted receiver key ≠ []
  ours : receiver.allowAnyControlFunction = true ∨
    ∀ i, ∀ d ∈ key.destination, ((arrivals i).env.world d).controlFunctionType = .internal

theorem getParameterGroupNumber_message (arrival : Arrival)
    (session : FastPacketProtocolSession) (k : Nat)
    (hge : FP_MIN_PARAMETER_GROUP_NUMBER ≤ key.parameterGroupNumber)
    (hle : key.parameterGroupNumber ≤ FP_MAX_PARAMETER_GROUP_NUMBER) :
    (arrival.message (session.fragment key k)).identifier.getParameterGroupNumber =
      key.parameterGroupNumber := by
  obtain ⟨hbits, hformat⟩ := CANIdentifier.pdu2_of_range hge hle
  exact CANIdentifier.getParameterGroupNumber_ofFields_pdu2 _ _ _ _ hbits hformat

theorem length_fragment (key : FastPacketKey) (session : FastPacketProtocolSession) (k : Nat) :
    (session.fragment key k).data.length = CAN_DATA_LENGTH := by
  by_cases hk : k = 0 <;> simp [fragment, hk, CAN_DATA_LENGTH]

theorem matchingCallbacks_message {arrivals : Nat → Arrival}
    (h : Listening protocol key arrivals) (arrival : Arrival)
    (session : FastPacketProtocolSession) (k : Nat) :
    matchingCallbacks protocol (arrival.message (session.fragment key k)) =
        wanted protocol key := by
  unfold matchingCallbacks wanted
  rw [getParameterGroupNumber_message arrival session k h.group_ge h.group_le]
  rfl

theorem heardKey_message {arrivals : Nat → Arrival} (h : Listening protocol key arrivals)
    (session : FastPacketProtocolSession) (i k : Nat) :
    heardKey (arrivals i).env ((arrivals i).message (session.fragment key k)) protocol =
      some key := by
  have hgroup := getParameterGroupNumber_message (arrivals i) session k h.group_ge h.group_le
  have hcallbacks := matchingCallbacks_message h (arrivals i) session k
  have hsource : ((arrivals i).message (session.fragment key k)).source = some key.source := rfl
  have hdestination :
      ((arrivals i).message (session.fragment key k)).destination = key.destination := rfl
  have hlength : ((arrivals i).message (session.fragment key k)).data.length = CAN_DATA_LENGTH :=
    length_fragment key session k
  have hours : ¬(((arrivals i).message (session.fragment key k)).isDestinationOurDevice
        (arrivals i).env.world = false ∧
      protocol.allowAnyControlFunction = false ∧
      ((arrivals i).message (session.fragment key k)).isBroadcast (arrivals i).env.world =
          false) := by
    rintro ⟨hours, hany, hbroadcast⟩
    rcases h.ours with hall | hinternal
    · rw [hall] at hany
      cases hany
    · obtain ⟨d, hd, hvalid⟩ := CANMessage.exists_destination_of_isBroadcast_eq_false hbroadcast
      have htype := hinternal i d (hdestination ▸ hd)
      simp [CANMessage.isDestinationOurDevice, CANMessage.hasValidDestinationControlFunction, hd,
        hvalid, htype] at hours
  unfold heardKey
  rw [hsource]
  dsimp only
  rw [hgroup, hcallbacks, hdestination, if_neg, if_neg hours, if_neg h.wanted_ne]
  rintro (hshort | hlow | hhigh)
  · exact hshort hlength
  · exact absurd h.group_ge (UInt32.not_le.mpr hlow)
  · exact absurd h.group_le (UInt32.not_le.mpr hhigh)

/-- The receiver holds the payloads of the first `k` frames. -/
structure Arrived (session : FastPacketProtocolSession) (k : Nat)
    (receiving : FastPacketProtocolSession) : Prop where
  callback_eq : receiving.sessionCompleteCallback = none
  size_eq : receiving.totalMessageSize = session.totalMessageSize
  count : receiving.numberOfBytesTransferred.toNat =
    min (bytesOf k) session.totalMessageSize.toNat
  filled : Filled (segment 0xFF session.data 0 (bytesOf k)) receiving.data

variable {receiving : FastPacketProtocolSession} {arrival : Arrival}

theorem frameCounter_message (key : FastPacketKey) (hk : k < 32) :
    (arrival.message (session.fragment key k)).getUint8At 0 &&& FRAME_COUNTER_BIT_MASK =
      UInt8.ofNat k :=
  counterOf_fragment key hk

theorem ofNat_eq_zero_iff (hk : k < 32) : UInt8.ofNat k = 0 ↔ k = 0 := by
  rw [← UInt8.toNat_inj, UInt8.toNat_ofNat_of_lt' (by change k < 256; omega)]
  rfl

theorem bytesOf_lt (hk : k < session.frames) (hpos : 0 < k) :
    bytesOf k < session.totalMessageSize.toNat := by
  simp only [frames, frameCount] at hk
  simp only [bytesOf]
  omega

theorem le_bytesOf_frames (session : FastPacketProtocolSession) :
    session.totalMessageSize.toNat ≤ bytesOf session.frames := by
  simp only [frames, frameCount, bytesOf]
  omega

theorem Arrived.copyIn (h : Arrived session k receiving) (now : UInt32) (hpos : 0 < k)
    (hk : k < session.frames) :
    Arrived session (k + 1)
      (receiving.copyIn now (segment 0xFF session.data (bytesOf k) 7)) := by
  have hlt := bytesOf_lt hk hpos
  have hcount := h.count
  have hsize := h.size_eq
  obtain ⟨hcount', hfilled'⟩ := Filled.copyIn (segment 0xFF session.data (bytesOf k) 7) now
    h.filled (by rw [length_segment]; omega) (by rw [length_segment, hsize]; omega)
  have hnext : bytesOf k + 7 = bytesOf (k + 1) := by
    simp only [bytesOf]
    omega
  refine ⟨h.callback_eq, h.size_eq, ?_, ?_⟩
  · rw [hcount', length_segment, length_segment, hnext, hsize]
  · have hjoin := segment_append 0xFF session.data 0 (bytesOf k) 7
    rw [Nat.zero_add, hnext] at hjoin
    rw [← hjoin]
    exact hfilled'

theorem callback_of_openedSession {message : CANMessage}
    (h : openedSession env message = some receiving) :
    receiving.sessionCompleteCallback = none := by
  unfold openedSession at h
  dsimp only at h
  split_ifs at h
  cases h
  rfl

theorem exists_arrived (h : session.Sendable) (arrival : Arrival) (key : FastPacketKey) :
    ∃ receiving, openedSession arrival.env (arrival.message (session.fragment key 0)) =
      some receiving ∧ Arrived session 1 receiving := by
  have hshort : ¬(arrival.message (session.fragment key 0)).getUint8At 1 >
      MAX_PROTOCOL_MESSAGE_LENGTH :=
    UInt8.not_lt.mpr (UInt8.le_iff_toNat_le.mpr h.short)
  have hlong : ¬((arrival.message (session.fragment key 0)).getUint8At 1).toNat ≤
      CAN_DATA_LENGTH :=
    Nat.not_le.mpr h.long
  obtain ⟨receiving, hopened⟩ : ∃ receiving, openedSession arrival.env
      (arrival.message (session.fragment key 0)) = some receiving := by
    unfold openedSession
    rw [if_neg hshort, if_neg hlong]
    exact ⟨_, rfl⟩
  obtain ⟨hreceived, -, -⟩ := received_openedSession
    (length_fragment key session 0) hopened
  have hsize : session.totalMessageSize = receiving.totalMessageSize := hreceived.length_eq
  have hbytes : Note.bytes ⟨(arrival.message (session.fragment key 0)).getUint8At 1,
      [frameOf (arrival.message (session.fragment key 0)) 2]⟩ =
        segment 0xFF session.data 0 (bytesOf 1) := by
    simp [Note.bytes, frameOf, Arrival.message, TransmitFrame.toMessage, fragment, bytesOf]
  refine ⟨receiving, hopened, callback_of_openedSession hopened, hsize.symm, ?_, ?_⟩
  · rw [hreceived.count, hbytes, length_segment, hsize]
  · rw [← hbytes]
    exact hreceived.filled

theorem Arrived.full_iff (h : Arrived session k receiving) :
    receiving.numberOfBytesTransferred ≥ receiving.getMessageLength ↔
      session.totalMessageSize.toNat ≤ bytesOf k := by
  have hcount := h.count
  have hsize : receiving.getMessageLength = session.totalMessageSize := h.size_eq
  rw [ge_iff_le, UInt8.le_iff_toNat_le, hsize, hcount]
  omega

theorem later_fragment (h : session.Sendable) (arrival : Arrival) (key : FastPacketKey)
    (hpos : 0 < k) (hk : k < session.frames) :
    ¬(arrival.message (session.fragment key k)).getUint8At 0 &&& FRAME_COUNTER_BIT_MASK = 0 ∧
      (arrival.message (session.fragment key k)).data.drop 1 =
        segment 0xFF session.data (bytesOf k) 7 := by
  have hle := h.frames_le
  constructor
  · rw [frameCounter_message key (by omega), ofNat_eq_zero_iff (by omega)]
    omega
  · simp [Arrival.message, TransmitFrame.toMessage, fragment, Nat.ne_of_gt hpos]

theorem receiveFrame_between (arrival : Arrival) (key : FastPacketKey) (h : session.Sendable)
    (harrived : Arrived session k receiving) (hpos : 0 < k) (hk : k + 1 < session.frames)
    (callbacks : List ParameterGroupNumberCallbackData) :
    ∃ receiving', receiving.receiveFrame arrival.env key callbacks
        (arrival.message (session.fragment key k)) = (some receiving', []) ∧
      Arrived session (k + 1) receiving' := by
  have hnext := harrived.copyIn arrival.env.now hpos (by omega)
  have hinside := bytesOf_lt (show k < session.frames by omega) hpos
  have hinside' := bytesOf_lt hk (Nat.succ_pos k)
  obtain ⟨hcounter, hpayload⟩ := later_fragment h arrival key hpos (by omega)
  refine ⟨_, ?_, hnext⟩
  unfold receiveFrame
  rw [if_neg hcounter, hpayload, if_neg (by rw [harrived.full_iff]; omega),
    if_neg (by rw [hnext.full_iff]; omega)]

def arrivedMessage (arrival : Arrival) (frame : TransmitFrame) (data : List UInt8) : CANMessage :=
  { arrival.message frame with data := data }

theorem receiveFrame_last (h : session.Sendable) (harrived : Arrived session k receiving)
    (hpos : 0 < k) (hk : k + 1 = session.frames)
    (callbacks : List ParameterGroupNumberCallbackData) :
    receiving.receiveFrame arrival.env key callbacks
        (arrival.message (session.fragment key k)) =
      (none, callbacks.map
        (.messageReceived · (arrivedMessage arrival (session.fragment key k) session.data))) := by
  have hnext := harrived.copyIn arrival.env.now hpos (by omega)
  have hinside := bytesOf_lt (show k < session.frames by omega) hpos
  have hfull := le_bytesOf_frames session
  obtain ⟨hcounter, hpayload⟩ := later_fragment h arrival key hpos (by omega)
  rw [hk] at hnext
  have hdata : (receiving.copyIn arrival.env.now
      (segment 0xFF session.data (bytesOf k) 7)).data = session.data := by
    apply hnext.filled.eq_of_segment
    · rw [data_length, data_length, hnext.size_eq]
    · rw [data_length]
      exact hfull
  have hclose : (closeSession key (receiving.copyIn arrival.env.now
      (segment 0xFF session.data (bytesOf k) 7)) true).2 = [] := by
    unfold closeSession
    rw [hnext.callback_eq]
  unfold receiveFrame
  rw [if_neg hcounter, hpayload, if_neg (by rw [harrived.full_iff]; omega),
    if_pos (hnext.full_iff.mpr hfull), hclose, List.append_nil]
  unfold completedMessage
  rw [hdata]
  rfl

def ReceiverAt (session : FastPacketProtocolSession) (key : FastPacketKey) (k : Nat)
    (receiver : FastPacketProtocol) : Prop :=
  if k = 0 ∨ k = session.frames then receiver.activeSessions.lookup key = none
  else ∃ receiving, receiver.activeSessions.lookup key = some receiving ∧
    Arrived session k receiving

/-- What the receiver does when `k` frames arrived: it hands over the message behind the
last one. -/
def handOver (session : FastPacketProtocolSession) (key : FastPacketKey)
    (receiver : FastPacketProtocol) (arrivals : Nat → Arrival) (k : Nat) : List Event :=
  if k = session.frames then
    (wanted receiver key).map (.messageReceived · (arrivedMessage (arrivals (k - 1))
      (session.fragment key (k - 1)) session.data))
  else []

variable {receiver : FastPacketProtocol} {arrivals : Nat → Arrival}

theorem receiver_hears (h : session.Sendable) (hlistening : Listening receiver key arrivals)
    (hat : ReceiverAt session key k receiver) (hk : k < session.frames) :
    ReceiverAt session key (k + 1) (fastPacketProtocol.next receiver
        ((arrivals k).hears (session.fragment key k))) ∧
      fastPacketProtocol.emits receiver ((arrivals k).hears (session.fragment key k)) =
        handOver session key receiver arrivals (k + 1) := by
  have hheard := heardKey_message hlistening session k k
  have hcallbacks := matchingCallbacks_message hlistening (arrivals k) session k
  have htwo := h.two_le_frames
  unfold ReceiverAt handOver
  rw [lookup_next]
  unfold ReceiverAt at hat
  unfold Arrival.hears
  by_cases hzero : k = 0
  · subst hzero
    rw [if_pos (.inl rfl)] at hat
    obtain ⟨receiving, hopened, harrived⟩ := exists_arrived h (arrivals 0) key
    obtain ⟨hfate, hemits⟩ := fate_of_first hheard hat (frameCounter_message key (by omega))
    rw [hfate, hemits, hopened, if_neg (by omega), if_neg (by omega)]
    exact ⟨⟨receiving, rfl, harrived⟩, rfl⟩
  · rw [if_neg (by omega)] at hat
    obtain ⟨receiving, hlookup, harrived⟩ := hat
    obtain ⟨hfate, hemits⟩ := fate_of_heard hheard hlookup
    rw [hfate, hemits, hcallbacks]
    by_cases hlast : k + 1 = session.frames
    · rw [receiveFrame_last h harrived (by omega) hlast, if_pos (.inr hlast), if_pos hlast]
      exact ⟨rfl, rfl⟩
    · obtain ⟨receiving', hreceive, harrived'⟩ := receiveFrame_between (arrivals k) key h harrived
        (by omega) (show k + 1 < session.frames by omega) (wanted receiver key)
      rw [hreceive, if_neg (by omega), if_neg hlast]
      exact ⟨⟨receiving', rfl, harrived'⟩, rfl⟩

theorem listening_hears (hlistening : Listening receiver key arrivals) (arrival : Arrival)
    (frame : TransmitFrame) :
    Listening (fastPacketProtocol.next receiver (arrival.hears frame)) key arrivals ∧
      wanted (fastPacketProtocol.next receiver (arrival.hears frame)) key =
          wanted receiver key := by
  obtain ⟨hcallbacks, hany⟩ :
      (processMessage arrival.env
          (arrival.message frame) receiver).1.parameterGroupNumberCallbacks =
          receiver.parameterGroupNumberCallbacks ∧
        (processMessage arrival.env (arrival.message frame) receiver).1.allowAnyControlFunction =
          receiver.allowAnyControlFunction :=
    callbacks_processMessage _
  have hwanted : wanted (fastPacketProtocol.next receiver (arrival.hears frame)) key =
      wanted receiver key := by
    unfold wanted
    exact congrArg _ hcallbacks
  refine ⟨⟨hlistening.group_ge, hlistening.group_le, ?_, ?_⟩, hwanted⟩
  · rw [hwanted]
    exact hlistening.wanted_ne
  · rcases hlistening.ours with hall | hinternal
    · exact .inl (hany.trans hall)
    · exact .inr hinternal

def fragments (key : FastPacketKey) (session : FastPacketProtocolSession) (n : Nat) :
    List TransmitFrame :=
  (List.range n).map (session.fragment key)

theorem feed_succ (arrivals : Nat → Arrival) (n : Nat) :
    feed arrivals (fragments key session (n + 1)) =
      feed arrivals (fragments key session n) ++
        [(arrivals n).hears (session.fragment key n)] := by
  unfold feed fragments
  rw [List.range_succ, List.map_append, List.map_singleton, List.mapIdx_concat]
  simp

variable {n : Nat}

theorem receiver_fed (h : session.Sendable) (hlistening : Listening receiver key arrivals)
    (hclosed : receiver.activeSessions.lookup key = none) (hn : n ≤ session.frames) :
    Listening (fastPacketProtocol.run receiver (feed arrivals (fragments key session n))) key
        arrivals ∧
      wanted (fastPacketProtocol.run receiver (feed arrivals (fragments key session n))) key =
        wanted receiver key ∧
      ReceiverAt session key n
        (fastPacketProtocol.run receiver (feed arrivals (fragments key session n))) ∧
      fastPacketProtocol.outputs receiver (feed arrivals (fragments key session n)) =
        handOver session key receiver arrivals n := by
  have htwo := h.two_le_frames
  induction n with
  | zero =>
    refine ⟨hlistening, rfl, ?_, ?_⟩
    · unfold ReceiverAt
      rw [if_pos (.inl rfl)]
      exact hclosed
    · unfold handOver
      rw [if_neg (by omega)]
      rfl
  | succ n ih =>
    obtain ⟨hlistens, hwanted, hat, houtputs⟩ := ih (by omega)
    obtain ⟨hnext, hemits⟩ := receiver_hears h hlistens hat (show n < session.frames by omega)
    obtain ⟨hlistens', hwanted'⟩ := listening_hears hlistens (arrivals n) (session.fragment key n)
    rw [feed_succ, Machine.run_concat, Machine.outputs_append, houtputs]
    refine ⟨hlistens', hwanted'.trans hwanted, hnext, ?_⟩
    have hquiet : handOver session key receiver arrivals n = [] := by
      unfold handOver
      rw [if_neg (by omega)]
    rw [hquiet, Machine.outputs_cons, hemits, Machine.outputs_nil, List.append_nil,
      List.nil_append]
    unfold handOver
    rw [hwanted]

def sentFrame : Event → Option TransmitFrame
  | .frame frame true => some frame
  | _ => none

def framesOut (key : FastPacketKey) (events : List Event) : List TransmitFrame :=
  (events.filter (concerns key)).filterMap sentFrame

/-- An update that finds the session open finds both parties valid, and the driver refuses the next
frame no later than the timeout. -/
def Timely (key : FastPacketKey) (protocol : FastPacketProtocol) (input : Input) : Prop :=
  match input.call with
  | .update => ∀ session, protocol.activeSessions.lookup key = some session →
      endpointInvalid input.env key = false ∧
        (input.env.send (session.transferFrame key) = false →
          ¬input.env.timeElapsed session.timestamp > FP_TIMEOUT_MS)
  | _ => True

variable {input : Input} {time : UInt32}

def fragmentsBetween (key : FastPacketKey) (session : FastPacketProtocolSession) (k n : Nat) :
    List TransmitFrame :=
  (List.range (n - k)).map fun i => session.fragment key (k + i)

theorem filterMap_sentFrame_sentFrom (k n : Nat) :
    (sentFrom key session k n).filterMap sentFrame = fragmentsBetween key session k (k + n) := by
  unfold sentFrom fragmentsBetween
  rw [List.filterMap_map, Nat.add_sub_cancel_left]
  change (List.range n).filterMap (some ∘ fun i => session.fragment key (k + i)) = _
  rw [List.filterMap_eq_map]

theorem fragmentsBetween_append {k m : Nat} (hkn : k ≤ n) (hnm : n ≤ m) :
    fragmentsBetween key session k n ++ fragmentsBetween key session n m =
      fragmentsBetween key session k m := by
  unfold fragmentsBetween
  rw [show m - k = (n - k) + (m - n) by omega, List.range_add, List.map_append, List.map_map]
  congr 1
  apply List.map_congr_left
  intro i _
  rw [Function.comp_apply, show k + (n - k + i) = n + i by omega]

/-- The session of a message with `n` frames out: it is gone behind the last one. -/
def SenderAt (session : FastPacketProtocolSession) (n : Nat)
    (now : Option FastPacketProtocolSession) :
    Prop :=
  n ≤ session.frames ∧ if n = session.frames then now = none
    else ∃ time, now = some (session.after n time)

theorem sent_next (h : session.Sendable) (hk : k < session.frames)
    (hlookup : protocol.activeSessions.lookup key = some (session.after k time))
    (hapart : Apart key protocol input) (htimely : Timely key protocol input) :
    ∃ n, k ≤ n ∧ SenderAt session n (fate protocol input key).1 ∧
      (fate protocol input key).2.filterMap sentFrame = fragmentsBetween key session k n := by
  have hfate := fate_of_apart hapart
  rw [hlookup] at hfate
  by_cases hcall : input.call = .update
  · rw [hcall] at hfate
    dsimp only at hfate
    unfold Timely at htimely
    rw [hcall] at htimely
    obtain ⟨hvalid, hintime⟩ := htimely _ hlookup
    rw [h.transferFrame_after time hk] at hintime
    obtain ⟨outcome, hupdated, hupdate⟩ := update_after h input.env key time hk
    rw [hupdate, if_neg (by rw [hvalid]; decide)] at hfate
    rw [hfate]
    cases hupdated with
    | done n hpos heq hsend =>
      refine ⟨k + n, by omega, ⟨by omega, ?_⟩, ?_⟩
      · rw [if_pos heq]
      · have hclose : (closeSession key session true).2.filterMap sentFrame = [] := by
          unfold closeSession
          split <;> rfl
        rw [List.filterMap_append, filterMap_sentFrame_sentFrom, hclose, List.append_nil]
    | timedOut hsend hlate => exact absurd hlate (hintime hsend)
    | refused hsend hearly =>
      refine ⟨k, le_refl k, ⟨by omega, ?_⟩, ?_⟩
      · rw [if_neg (by omega)]
        exact ⟨time, rfl⟩
      · simp [fragmentsBetween, sentFrame]
    | sent n refusal hpos hlt hsend =>
      refine ⟨k + n, by omega, ⟨by omega, ?_⟩, ?_⟩
      · rw [if_neg (by omega)]
        exact ⟨_, rfl⟩
      · rw [List.filterMap_append, filterMap_sentFrame_sentFrom]
        cases refusal <;> simp [sentFrame]
  · have hidle : fate protocol input key = (some (session.after k time), []) := by
      rw [hfate]
      cases hc : input.call with
      | update => exact absurd hc hcall
      | _ => rfl
    rw [hidle]
    refine ⟨k, le_refl k, ⟨by omega, ?_⟩, ?_⟩
    · rw [if_neg (by omega)]
      exact ⟨time, rfl⟩
    · simp [fragmentsBetween]

theorem sent_run (h : session.Sendable) (hk : k < session.frames) (inputs : List Input)
    (hlookup : protocol.activeSessions.lookup key = some (session.after k time))
    (hapart : fastPacketProtocol.Along (Apart key) protocol inputs)
    (htimely : fastPacketProtocol.Along (Timely key) protocol inputs) :
    ∃ n, k ≤ n ∧
      SenderAt session n ((fastPacketProtocol.run protocol inputs).activeSessions.lookup key) ∧
      framesOut key (fastPacketProtocol.outputs protocol inputs) =
        fragmentsBetween key session k n := by
  induction inputs generalizing protocol k time with
  | nil =>
    refine ⟨k, le_refl k, ⟨by omega, ?_⟩, ?_⟩
    · rw [if_neg (by omega)]
      exact ⟨time, hlookup⟩
    · simp [framesOut, fragmentsBetween]
  | cons input rest ih =>
    obtain ⟨n, hkn, ⟨hn, hat⟩, hsent⟩ := sent_next h hk hlookup hapart.1 htimely.1
    have hsplit : framesOut key (fastPacketProtocol.outputs protocol (input :: rest)) =
        fragmentsBetween key session k n ++
          framesOut key (fastPacketProtocol.outputs (fastPacketProtocol.next protocol input)
            rest) := by
      unfold framesOut
      rw [Machine.outputs_cons, List.filter_append, List.filterMap_append,
        filter_concerns_emits hapart.1, hsent]
    rw [hsplit, Machine.run_cons]
    rw [← lookup_next] at hat
    split_ifs at hat with hlast
    · obtain ⟨hgone, hquiet⟩ := gone_of_apart rest hat hapart.2
      refine ⟨n, hkn, ⟨hn, by rw [if_pos hlast]; exact hgone⟩, ?_⟩
      unfold framesOut
      rw [hquiet]
      exact List.append_nil _
    · obtain ⟨time', hat⟩ := hat
      obtain ⟨m, hnm, hm, hrest⟩ := ih (by omega) hat hapart.2 htimely.2
      refine ⟨m, by omega, hm, ?_⟩
      rw [hrest, fragmentsBetween_append hkn hnm]

/-- The frames of a message on the bus: counted from zero, all with one sequence number. -/
structure Framed (sequenceId : Nat) (frames : List TransmitFrame) : Prop where
  counters : frames.map (fun frame => (counterOf frame).toNat) = List.range frames.length
  length_le : frames.length ≤ 32
  ids : ∀ frame ∈ frames, (sequenceIdOf frame).toNat = sequenceId

theorem framed_fragmentsBetween (h : session.Sendable) (key : FastPacketKey)
    (hn : n ≤ session.frames) :
    Framed (session.sequenceNumber.toNat % 8) (fragmentsBetween key session 0 n) := by
  have hle := h.frames_le
  have hlength : (fragmentsBetween key session 0 n).length = n := by simp [fragmentsBetween]
  refine ⟨?_, by omega, ?_⟩
  · rw [hlength]
    unfold fragmentsBetween
    rw [List.map_map, Nat.sub_zero]
    conv_rhs => rw [← List.map_id (List.range n)]
    apply List.map_congr_left
    intro i hi
    have hi' := List.mem_range.mp hi
    rw [Function.comp_apply, Nat.zero_add, counterOf_fragment key (by omega),
      UInt8.toNat_ofNat_of_lt' (by change i < 256; omega)]
    rfl
  · intro frame hframe
    obtain ⟨i, hi, rfl⟩ := List.mem_map.mp hframe
    have hi' := List.mem_range.mp hi
    exact sequenceIdOf_fragment (by omega)

/-- Frames that hand one message with these bytes to every callback that wants it, at any receiver
that listens and has no session for them. -/
def Delivers (key : FastPacketKey) (data : List UInt8) (frames : List TransmitFrame) : Prop :=
  ∀ receiver arrivals, Listening receiver key arrivals →
    receiver.activeSessions.lookup key = none →
    ∃ message, message.data = data ∧
      message.identifier.getParameterGroupNumber = key.parameterGroupNumber ∧
      fastPacketProtocol.outputs receiver (feed arrivals frames) =
        (wanted receiver key).map (.messageReceived · message)

def Withholds (key : FastPacketKey) (frames : List TransmitFrame) : Prop :=
  ∀ receiver arrivals, Listening receiver key arrivals →
    receiver.activeSessions.lookup key = none →
    fastPacketProtocol.outputs receiver (feed arrivals frames) = []

theorem fragmentsBetween_zero (n : Nat) :
    fragmentsBetween key session 0 n = fragments key session n := by
  simp [fragmentsBetween, fragments]

theorem delivers_fragmentsBetween (h : session.Sendable) (key : FastPacketKey) :
    Delivers key session.data (fragmentsBetween key session 0 session.frames) := by
  intro receiver arrivals hlistening hclosed
  obtain ⟨-, -, -, houtputs⟩ := receiver_fed h hlistening hclosed (le_refl session.frames)
  refine ⟨arrivedMessage (arrivals (session.frames - 1))
    (session.fragment key (session.frames - 1)) session.data, rfl, ?_, ?_⟩
  · exact getParameterGroupNumber_message _ session _ hlistening.group_ge hlistening.group_le
  · rw [fragmentsBetween_zero, houtputs, handOver, if_pos rfl]

theorem withholds_fragmentsBetween (h : session.Sendable) (key : FastPacketKey)
    (hn : n < session.frames) : Withholds key (fragmentsBetween key session 0 n) := by
  intro receiver arrivals hlistening hclosed
  obtain ⟨-, -, -, houtputs⟩ := receiver_fed h hlistening hclosed (le_of_lt hn)
  rw [fragmentsBetween_zero, houtputs, handOver, if_neg (by omega)]

/-- The three bits of the number that the next session for a request would take. -/
def newSequenceId (protocol : FastPacketProtocol) (env : Environment) (key : FastPacketKey) :
    Nat :=
  (getNewSequenceNumber (env.world key.source).controlFunctionNAME key.parameterGroupNumber
    protocol.sessionHistory).toNat % 8

theorem Opened.newSequenceId_eq {request : SendRequest}
    (h : Opened env protocol request key session) :
    session.sequenceNumber.toNat % 8 = newSequenceId protocol env key := by
  rw [h.sequenceNumber_eq, h.parameterGroupNumber_eq]
  rfl

/-- What becomes of an accepted message. -/
structure EndToEnd (protocol : FastPacketProtocol) (env : Environment) (request : SendRequest)
    (key : FastPacketKey) (data : List UInt8) : Prop where
  /-- In a timely run the frames are counted from zero under one sequence number, and they deliver
  the message exactly when its session is gone. -/
  delivered : ∀ inputs,
      fastPacketProtocol.Along (Apart key) (requested protocol env request) inputs →
    fastPacketProtocol.Along (Timely key) (requested protocol env request) inputs →
    Framed (newSequenceId protocol env key)
        (framesOut key (fastPacketProtocol.outputs (requested protocol env request) inputs)) ∧
      if (fastPacketProtocol.run (requested protocol env request)
          inputs).activeSessions.lookup key = none then
        Delivers key data
          (framesOut key (fastPacketProtocol.outputs (requested protocol env request) inputs))
      else Withholds key
        (framesOut key (fastPacketProtocol.outputs (requested protocol env request) inputs))
  finished : ∀ inputs : Nat → Input,
    (∀ n, Apart key (fastPacketProtocol.run (requested protocol env request)
      (upTo inputs n)) (inputs n)) →
    KeepsUpdating inputs →
    ∃ n, (fastPacketProtocol.run (requested protocol env request)
      (upTo inputs n)).activeSessions.lookup key = none
  /-- The next message of the NAME and group number that does not overlap with another has the next
  number. -/
  numbered : ∀ names inputs env' request' key',
    Successive names key protocol env request inputs env' key' →
    Accepts (fastPacketProtocol.run (requested protocol env request) inputs) env' request' →
    request'.sessionKey = some key' →
    newSequenceId (fastPacketProtocol.run (requested protocol env request) inputs) env' key' =
      (newSequenceId protocol env key + 1) % 8

theorem endToEnd (protocol : FastPacketProtocol) (env : Environment) (request : SendRequest)
    (key : FastPacketKey) (data : List UInt8) (haccepts : Accepts protocol env request)
    (hkey : request.sessionKey = some key) (hdata : request.messageData = some data) :
    EndToEnd protocol env request key data := by
  obtain ⟨k, session, hopened, hlookup⟩ := exists_opened haccepts
  obtain rfl : k = key := Option.some.inj (hopened.key_eq.symm.trans hkey)
  have hsendable := hopened.sendable
  have htwo := hsendable.two_le_frames
  have hsame : data = session.data := Option.some.inj (hdata.symm.trans hopened.data_eq)
  rw [← hopened.after_zero] at hlookup
  refine ⟨?_, ?_, ?_⟩
  · intro inputs hapart htimely
    obtain ⟨n, -, ⟨hn, hat⟩, hout⟩ :=
      sent_run hsendable (by omega) inputs hlookup hapart htimely
    rw [hout, ← hopened.newSequenceId_eq, hsame]
    refine ⟨framed_fragmentsBetween hsendable k hn, ?_⟩
    split_ifs at hat with hlast
    · subst hlast
      rw [if_pos hat]
      exact delivers_fragmentsBetween hsendable k
    · obtain ⟨time, hat⟩ := hat
      rw [if_neg (by rw [hat]; simp)]
      exact withholds_fragmentsBetween hsendable k (by omega)
  · intro inputs hapart hupdates
    have hstart : (fastPacketProtocol.run (requested protocol env request)
        (upTo inputs 0)).activeSessions.lookup k = some (session.after 0 0) := hlookup
    exact exists_gone hsendable hapart hupdates (by omega) hstart
  · intro names inputs env' request' key' hsuccessive haccepts' hkey'
    obtain ⟨k', session', hopened', -⟩ := exists_opened haccepts'
    obtain rfl : k' = key' := Option.some.inj (hopened'.key_eq.symm.trans hkey')
    have hnumber := sequenceNumber_of_successive hopened hsuccessive hopened'
    rw [← hopened'.newSequenceId_eq, ← hopened.newSequenceId_eq, hnumber, UInt8.toNat_add]
    change (session.sequenceNumber.toNat + 1) % 256 % 8 = _
    omega

theorem endToEnd_nine_bytes :
    EndToEnd idle ⟨900, twoNodes, fun _ => true⟩ nineBytes ⟨⟨1, none⟩, 0x1F801⟩
      [1, 2, 3, 4, 5, 6, 7, 8, 9] :=
  endToEnd idle ⟨900, twoNodes, fun _ => true⟩ nineBytes ⟨⟨1, none⟩, 0x1F801⟩
    [1, 2, 3, 4, 5, 6, 7, 8, 9] (by unfold Accepts; decide +kernel) (by decide) (by decide)

/-- An update at a time when the driver takes everything or nothing. -/
def updateAt (now : UInt32) (taken : Bool) : Input := ⟨⟨now, twoNodes, fun _ => taken⟩, .update⟩

def nineBytesToPartner : SendRequest := { nineBytes with destination := some 0 }

/-- The driver refuses the first frame a tenth of a second after the request, but the timestamp of
the session was zero and the session is gone. And two messages to different destinations, one after
the other, have one sequence number. -/
theorem not_endToEnd :
    (Accepts idle ⟨900, twoNodes, fun _ => true⟩ nineBytes ∧
      ¬Delivers ⟨⟨1, none⟩, 0x1F801⟩ [1, 2, 3, 4, 5, 6, 7, 8, 9]
        (framesOut ⟨⟨1, none⟩, 0x1F801⟩ (fastPacketProtocol.outputs
          (requested idle ⟨900, twoNodes, fun _ => true⟩ nineBytes)
          (updateAt 1000 false :: List.replicate 32 (updateAt 1010 true))))) ∧
    Accepts (requested idle ⟨900, twoNodes, fun _ => true⟩ nineBytes)
        ⟨900, twoNodes, fun _ => true⟩ nineBytesToPartner ∧
      newSequenceId (requested idle ⟨900, twoNodes, fun _ => true⟩ nineBytes)
          ⟨900, twoNodes, fun _ => true⟩ ⟨⟨1, some 0⟩, 0x1F801⟩ ≠
        (newSequenceId idle ⟨900, twoNodes, fun _ => true⟩ ⟨⟨1, none⟩, 0x1F801⟩ + 1) % 8 := by
  refine ⟨⟨by unfold Accepts; decide +kernel, ?_⟩, by unfold Accepts; decide +kernel,
    by decide +kernel⟩
  intro hdelivers
  have hlistening : Listening (fastPacketProtocol.next idle listening) ⟨⟨1, none⟩, 0x1F801⟩
      fun _ => ⟨⟨1010, twoNodes, fun _ => true⟩, twoNodes, 0⟩ :=
    ⟨by decide, by decide, by decide, .inr (by simp)⟩
  have hnothing : framesOut ⟨⟨1, none⟩, 0x1F801⟩ (fastPacketProtocol.outputs
      (requested idle ⟨900, twoNodes, fun _ => true⟩ nineBytes)
      (updateAt 1000 false :: List.replicate 32 (updateAt 1010 true))) = [] := by
    decide +kernel
  obtain ⟨message, -, -, houtputs⟩ := hdelivers _ _ hlistening (by decide)
  rw [hnothing] at houtputs
  have hlength := congrArg List.length houtputs
  rw [List.length_map] at hlength
  revert hlength
  decide +kernel

end Isobus.FastPacket
