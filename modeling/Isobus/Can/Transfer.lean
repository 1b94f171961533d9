import Isobus.Can.TransportProtocolBase
import Isobus.Lib.Link

namespace Isobus.Can

open Isobus.Lib

/-- What a turn brings along: the clock of the machine, and the time stamp that a
heard frame gets. -/
structure Moment where
  now : UInt32
  timestampUs : UInt64

/-- A message and its two ends. The sender owns the source and the receiver owns the destination, if
there is one. -/
structure Transfer where
  senderConfiguration : CANNetworkConfiguration
  receiverConfiguration : CANNetworkConfiguration
  senderWorld : World
  receiverWorld : World
  parameterGroupNumber : UInt32
  data : List UInt8
  source : CFRef
  destination : Option CFRef
  callback : CallbackRef
  parentPointer : PointerRef
  group_lt : parameterGroupNumber.toNat < 2 ^ 24
  source_valid_sender : (senderWorld source).getAddressValid = true
  source_valid_receiver : (receiverWorld source).getAddressValid = true
  source_internal : (senderWorld source).controlFunctionType = .internal
  destination_valid_sender : ∀ d ∈ destination, (senderWorld d).getAddressValid = true
  destination_valid_receiver : ∀ d ∈ destination, (receiverWorld d).getAddressValid = true
  destination_internal : ∀ d ∈ destination, (receiverWorld d).controlFunctionType = .internal

namespace Transfer

variable (T : Transfer)

def key : SessionKey := ⟨T.source, T.destination⟩

def request : TransmitRequest where
  parameterGroupNumber := T.parameterGroupNumber
  data := T.data
  source := T.source
  destination := T.destination
  sessionCompleteCallback := some T.callback
  parentPointer := T.parentPointer

/-- The completion callback as it is called at the end of the message. -/
def completion (successful : Bool) : Completion where
  callback := T.callback
  parameterGroupNumber := T.parameterGroupNumber
  dataLength := UInt32.ofNat T.data.length
  source := T.source
  destination := T.destination
  successful := successful
  parentPointer := T.parentPointer

def senderEnvironment (now : UInt32) : Environment := ⟨now, T.senderWorld, fun _ => true⟩

def receiverEnvironment (now : UInt32) : Environment := ⟨now, T.receiverWorld, fun _ => true⟩

@[simp] theorem send_senderEnvironment (now : UInt32) (frame : TransmitFrame) :
    (T.senderEnvironment now).send frame = true := rfl

@[simp] theorem send_receiverEnvironment (now : UInt32) (frame : TransmitFrame) :
    (T.receiverEnvironment now).send frame = true := rfl

@[simp] theorem now_senderEnvironment (now : UInt32) : (T.senderEnvironment now).now = now := rfl

@[simp] theorem now_receiverEnvironment (now : UInt32) :
    (T.receiverEnvironment now).now = now := rfl

def sentFrame : Event → Option TransmitFrame
  | .frame frame true => some frame
  | _ => none

def receivedMessage : Event → Option CANMessage
  | .messageReceived message => some message
  | _ => none

def completedTransmit : Event → Option Completion
  | .transmitComplete completion => some completion
  | _ => none

def sentEvents (frames : List TransmitFrame) : List Event := frames.map (.frame · true)

@[simp] theorem filterMap_sentFrame_sentEvents (frames : List TransmitFrame) :
    (sentEvents frames).filterMap sentFrame = frames := by
  rw [sentEvents, List.filterMap_map]
  exact List.filterMap_some

@[simp] theorem filterMap_completedTransmit_sentEvents (frames : List TransmitFrame) :
    (sentEvents frames).filterMap completedTransmit = [] := by
  rw [sentEvents, List.filterMap_map, List.filterMap_eq_nil_iff]
  exact fun _ _ => rfl

/-- Of a family of numbered frames, those after number `i`, up to `j`. -/
def framesBetween (frame : Nat → TransmitFrame) (i j : Nat) : List TransmitFrame :=
  (List.range' (i + 1) (j - i)).map frame

section framesBetween

variable (frame : Nat → TransmitFrame)

@[simp] theorem framesBetween_self (i : Nat) : framesBetween frame i i = [] := by
  simp [framesBetween]

theorem framesBetween_of_lt {i j : Nat} (h : i < j) :
    framesBetween frame i j = frame (i + 1) :: framesBetween frame (i + 1) j := by
  unfold framesBetween
  obtain ⟨d, hd⟩ : ∃ d, j - i = d + 1 := ⟨j - i - 1, by omega⟩
  rw [hd, List.range'_succ, List.map_cons, show j - (i + 1) = d by omega]

theorem framesBetween_append {i j k : Nat} (hij : i ≤ j) (hjk : j ≤ k) :
    framesBetween frame i j ++ framesBetween frame j k = framesBetween frame i k := by
  unfold framesBetween
  rw [← List.map_append, show k - i = (j - i) + (k - j) by omega, ← List.range'_append_1,
    show i + 1 + (j - i) = j + 1 by omega]

theorem framesBetween_eq_map_range (i count : Nat) :
    framesBetween frame i (i + count) = (List.range count).map fun n => frame (i + n + 1) := by
  rw [framesBetween, Nat.add_sub_cancel_left, List.range'_eq_map_range, List.map_map]
  apply List.map_congr_left
  intro n _
  rw [Function.comp_apply, Nat.add_right_comm]

end framesBetween

/-- Two managers joined by a link. -/
def wiring {σ : Type} (sender receiver : Machine σ Input Event) :
    Wiring σ σ Input Event TransmitFrame Moment where
  sender := sender
  receiver := receiver
  senderTick moment := ⟨T.senderEnvironment moment.now, .update⟩
  receiverTick moment := ⟨T.receiverEnvironment moment.now, .update⟩
  senderHears moment frame := ⟨T.senderEnvironment moment.now,
    .processMessage (frame.toMessage T.receiverWorld moment.timestampUs)⟩
  receiverHears moment frame := ⟨T.receiverEnvironment moment.now,
    .processMessage (frame.toMessage T.senderWorld moment.timestampUs)⟩
  sentFrame := sentFrame

/-- Two managers without sessions, right after the sender was given the message. -/
def start {σ : Type} (sender receiver : Machine σ Input Event) (idle : σ) (now : UInt32) :
    Link σ σ Event TransmitFrame :=
  (T.wiring sender receiver).callSender ⟨idle, idle, [], [], [], []⟩
    ⟨T.senderEnvironment now, .protocolTransmitMessage T.request⟩

/-- The message arrived once and unchanged, its sender was told so once, and both
sides forgot about it. -/
structure Done {β : Type} (link : Link (KeyedTable SessionKey β) (KeyedTable SessionKey β) Event
    TransmitFrame) : Prop where
  received : ∃ message, link.receiverLog.filterMap receivedMessage = [message] ∧
    message.data = T.data
  completed : link.senderLog.filterMap completedTransmit = [T.completion true]
  sender_closed : link.sender.lookup T.key = none
  receiver_closed : link.receiver.lookup T.key = none

variable {T} {β : Type}

/-- Where a link is that knows no other session: the two sessions, the frames on their way, the
messages handed over and the completions reported. -/
structure LinkAt (T : Transfer) (sender receiver : Option β)
    (toReceiver toSender : List TransmitFrame) (messages : List CANMessage)
    (completions : List Completion)
    (link : Link (KeyedTable SessionKey β) (KeyedTable SessionKey β) Event TransmitFrame) :
    Prop where
  sender_eq : link.sender = KeyedTable.single T.key sender
  receiver_eq : link.receiver = KeyedTable.single T.key receiver
  toReceiver_eq : link.toReceiver = toReceiver
  toSender_eq : link.toSender = toSender
  messages_eq : link.receiverLog.filterMap receivedMessage = messages
  completions_eq : link.senderLog.filterMap completedTransmit = completions

namespace LinkAt

variable {S R : Machine (KeyedTable SessionKey β) Input Event}
variable {sender sender' receiver receiver' : Option β} {toReceiver toSender : List TransmitFrame}
variable {messages : List CANMessage} {completions : List Completion}
variable {link : Link (KeyedTable SessionKey β) (KeyedTable SessionKey β) Event TransmitFrame}

variable {input : Input} {rest : List TransmitFrame}

theorem callSender {toReceiver' : List TransmitFrame} {completions' : List Completion}
    (h : T.LinkAt sender receiver toReceiver toSender messages completions link)
    {events : List Event}
    (hstep : S.step (KeyedTable.single T.key sender) input =
      (KeyedTable.single T.key sender', events))
    (hsent : toReceiver ++ events.filterMap sentFrame = toReceiver')
    (hcompleted : completions ++ events.filterMap completedTransmit = completions') :
    T.LinkAt sender' receiver toReceiver' toSender messages completions'
      ((T.wiring S R).callSender link input) where
  sender_eq := by
    change (S.step link.sender input).1 = _
    rw [h.sender_eq, hstep]
  receiver_eq := h.receiver_eq
  toReceiver_eq := by
    change link.toReceiver ++ (S.step link.sender input).2.filterMap sentFrame = _
    rw [h.sender_eq, hstep, h.toReceiver_eq, hsent]
  toSender_eq := h.toSender_eq
  messages_eq := h.messages_eq
  completions_eq := by
    change (link.senderLog ++ (S.step link.sender input).2).filterMap completedTransmit = _
    rw [List.filterMap_append, h.sender_eq, hstep, h.completions_eq, hcompleted]

theorem callReceiver {toSender' : List TransmitFrame} {messages' : List CANMessage}
    (h : T.LinkAt sender receiver toReceiver toSender messages completions link)
    {events : List Event}
    (hstep : R.step (KeyedTable.single T.key receiver) input =
      (KeyedTable.single T.key receiver', events))
    (hsent : toSender ++ events.filterMap sentFrame = toSender')
    (hreceived : messages ++ events.filterMap receivedMessage = messages') :
    T.LinkAt sender receiver' toReceiver toSender' messages' completions
      ((T.wiring S R).callReceiver link input) where
  sender_eq := h.sender_eq
  receiver_eq := by
    change (R.step link.receiver input).1 = _
    rw [h.receiver_eq, hstep]
  toReceiver_eq := h.toReceiver_eq
  toSender_eq := by
    change link.toSender ++ (R.step link.receiver input).2.filterMap sentFrame = _
    rw [h.receiver_eq, hstep, h.toSender_eq, hsent]
  messages_eq := by
    change (link.receiverLog ++ (R.step link.receiver input).2).filterMap receivedMessage = _
    rw [List.filterMap_append, h.receiver_eq, hstep, h.messages_eq, hreceived]
  completions_eq := h.completions_eq

theorem callSender_idle
    (h : T.LinkAt sender receiver toReceiver toSender messages completions link)
    (hstep : S.step (KeyedTable.single T.key sender) input = (KeyedTable.single T.key sender, [])) :
    T.LinkAt sender receiver toReceiver toSender messages completions
      ((T.wiring S R).callSender link input) :=
  h.callSender hstep (List.append_nil _) (List.append_nil _)

theorem callReceiver_idle
    (h : T.LinkAt sender receiver toReceiver toSender messages completions link)
    (hstep : R.step (KeyedTable.single T.key receiver) input =
      (KeyedTable.single T.key receiver, [])) :
    T.LinkAt sender receiver toReceiver toSender messages completions
      ((T.wiring S R).callReceiver link input) :=
  h.callReceiver hstep (List.append_nil _) (List.append_nil _)

theorem takeToReceiver {frame frame' : TransmitFrame} {rest' : List TransmitFrame}
    (h : T.LinkAt sender receiver (frame :: rest) toSender messages completions link)
    (hqueue : link.toReceiver = frame' :: rest') :
    frame' = frame ∧ T.LinkAt sender receiver rest toSender messages completions
      { link with toReceiver := rest' } := by
  obtain ⟨rfl, rfl⟩ := List.cons.inj (hqueue.symm.trans h.toReceiver_eq)
  exact ⟨rfl, h.sender_eq, h.receiver_eq, rfl, h.toSender_eq, h.messages_eq, h.completions_eq⟩

theorem takeToSender {frame frame' : TransmitFrame} {rest' : List TransmitFrame}
    (h : T.LinkAt sender receiver toReceiver (frame :: rest) messages completions link)
    (hqueue : link.toSender = frame' :: rest') :
    frame' = frame ∧ T.LinkAt sender receiver toReceiver rest messages completions
      { link with toSender := rest' } := by
  obtain ⟨rfl, rfl⟩ := List.cons.inj (hqueue.symm.trans h.toSender_eq)
  exact ⟨rfl, h.sender_eq, h.receiver_eq, h.toReceiver_eq, rfl, h.messages_eq, h.completions_eq⟩

theorem toReceiver_ne_nil {frame : TransmitFrame}
    (h : T.LinkAt sender receiver (frame :: rest) toSender messages completions link) :
    link.toReceiver ≠ [] := by
  simp [h.toReceiver_eq]

theorem toSender_ne_nil {frame : TransmitFrame}
    (h : T.LinkAt sender receiver toReceiver (frame :: rest) messages completions link) :
    link.toSender ≠ [] := by
  simp [h.toSender_eq]

theorem nil_toReceiver {frame : TransmitFrame}
    (h : T.LinkAt sender receiver [] toSender messages completions link) :
    link.toReceiver ≠ frame :: rest := by
  simp [h.toReceiver_eq]

theorem nil_toSender {frame : TransmitFrame}
    (h : T.LinkAt sender receiver toReceiver [] messages completions link) :
    link.toSender ≠ frame :: rest := by
  simp [h.toSender_eq]

end LinkAt

end Transfer

end Isobus.Can
