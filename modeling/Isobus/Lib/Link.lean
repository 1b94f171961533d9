import Isobus.Lib.Machine

/-!
# Two machines joined by a link

A sender and a receiver exchange frames over two queues.
-/

namespace Isobus.Lib

/-- How two machines are plugged together; `κ` is what a turn brings along, such as
the time. -/
structure Wiring (σ τ ι ω φ κ : Type) where
  sender : Machine σ ι ω
  receiver : Machine τ ι ω
  senderTick : κ → ι
  receiverTick : κ → ι
  senderHears : κ → φ → ι
  receiverHears : κ → φ → ι
  sentFrame : ω → Option φ

structure Link (σ τ ω φ : Type) where
  sender : σ
  receiver : τ
  toReceiver : List φ
  toSender : List φ
  senderLog : List ω
  receiverLog : List ω

inductive Turn (κ : Type)
  | senderTick (moment : κ)
  | receiverTick (moment : κ)
  | senderHears (moment : κ)
  | receiverHears (moment : κ)

namespace Wiring

variable {σ τ ι ω φ κ : Type} (W : Wiring σ τ ι ω φ κ)

def callSender (link : Link σ τ ω φ) (input : ι) : Link σ τ ω φ :=
  { link with
    sender := W.sender.next link.sender input
    toReceiver := link.toReceiver ++ (W.sender.emits link.sender input).filterMap W.sentFrame
    senderLog := link.senderLog ++ W.sender.emits link.sender input }

def callReceiver (link : Link σ τ ω φ) (input : ι) : Link σ τ ω φ :=
  { link with
    receiver := W.receiver.next link.receiver input
    toSender := link.toSender ++ (W.receiver.emits link.receiver input).filterMap W.sentFrame
    receiverLog := link.receiverLog ++ W.receiver.emits link.receiver input }

/-- One turn; a machine whose queue is empty hears nothing. -/
def turn (link : Link σ τ ω φ) : Turn κ → Link σ τ ω φ
  | .senderTick moment => W.callSender link (W.senderTick moment)
  | .receiverTick moment => W.callReceiver link (W.receiverTick moment)
  | .senderHears moment =>
    match link.toSender with
    | [] => link
    | frame :: rest => W.callSender { link with toSender := rest } (W.senderHears moment frame)
  | .receiverHears moment =>
    match link.toReceiver with
    | [] => link
    | frame :: rest =>
      W.callReceiver { link with toReceiver := rest } (W.receiverHears moment frame)

def machine : Machine (Link σ τ ω φ) (Turn κ) Empty where
  step link t := (W.turn link t, [])

/-- Nothing is on its way, and no call that the condition admits sends a frame. -/
structure Quiescent (senderOk : σ → κ → Prop) (receiverOk : τ → κ → Prop)
    (link : Link σ τ ω φ) : Prop where
  toReceiver : link.toReceiver = []
  toSender : link.toSender = []
  sender : ∀ moment, senderOk link.sender moment →
    (W.sender.emits link.sender (W.senderTick moment)).filterMap W.sentFrame = []
  receiver : ∀ moment, receiverOk link.receiver moment →
    (W.receiver.emits link.receiver (W.receiverTick moment)).filterMap W.sentFrame = []

/-- The turns in which a machine acts on its own account meet a condition. -/
def TickOk (senderOk : σ → κ → Prop) (receiverOk : τ → κ → Prop) (link : Link σ τ ω φ) :
    Turn κ → Prop
  | .senderTick moment => senderOk link.sender moment
  | .receiverTick moment => receiverOk link.receiver moment
  | _ => True

variable {W} {senderOk : σ → κ → Prop} {receiverOk : τ → κ → Prop}

theorem invariant_run {P : Link σ τ ω φ → Prop}
    (hsenderTick : ∀ link moment, P link → senderOk link.sender moment →
      P (W.callSender link (W.senderTick moment)))
    (hreceiverTick : ∀ link moment, P link → receiverOk link.receiver moment →
      P (W.callReceiver link (W.receiverTick moment)))
    (hsenderHears : ∀ link moment frame rest, P link → link.toSender = frame :: rest →
      P (W.callSender { link with toSender := rest } (W.senderHears moment frame)))
    (hreceiverHears : ∀ link moment frame rest, P link → link.toReceiver = frame :: rest →
      P (W.callReceiver { link with toReceiver := rest } (W.receiverHears moment frame)))
    {link : Link σ τ ω φ} (h : P link) (schedule : List (Turn κ))
    (hok : W.machine.Along (TickOk senderOk receiverOk) link schedule) :
    P (W.machine.run link schedule) := by
  refine W.machine.run_invariant_along ?_ h schedule hok
  intro link t hlink htick
  change P (W.turn link t)
  cases t with
  | senderTick moment => exact hsenderTick link moment hlink htick
  | receiverTick moment => exact hreceiverTick link moment hlink htick
  | senderHears moment =>
    unfold turn
    cases hqueue : link.toSender with
    | nil => exact hlink
    | cons frame rest => exact hsenderHears link moment frame rest hlink hqueue
  | receiverHears moment =>
    unfold turn
    cases hqueue : link.toReceiver with
    | nil => exact hlink
    | cons frame rest => exact hreceiverHears link moment frame rest hlink hqueue

/-- A rank that some admitted turn raises as long as the link is busy, and that is bounded: there is
an admitted schedule after which nothing more can happen. -/
theorem exists_quiescent {P : Nat → Link σ τ ω φ → Prop} {bound : Nat}
    (hbound : ∀ rank link, P rank link → rank ≤ bound)
    (hprogress : ∀ rank link, P rank link → ¬W.Quiescent senderOk receiverOk link →
      ∃ t rank', TickOk senderOk receiverOk link t ∧ rank < rank' ∧ P rank' (W.turn link t))
    {rank : Nat} {link : Link σ τ ω φ} (h : P rank link) :
    ∃ schedule, W.machine.Along (TickOk senderOk receiverOk) link schedule ∧
      W.Quiescent senderOk receiverOk (W.machine.run link schedule) := by
  obtain ⟨left, hleft⟩ : ∃ left, bound - rank = left := ⟨_, rfl⟩
  induction left using Nat.strongRecOn generalizing rank link with
  | ind left ih =>
    by_cases hquiet : W.Quiescent senderOk receiverOk link
    · exact ⟨[], trivial, hquiet⟩
    · obtain ⟨t, rank', hok, hlt, h'⟩ := hprogress rank link h hquiet
      have hle := hbound rank' _ h'
      obtain ⟨schedule, halong, hdone⟩ := ih (bound - rank') (by omega) h' rfl
      exact ⟨t :: schedule, ⟨hok, halong⟩, hdone⟩

theorem busy_cases {link : Link σ τ ω φ} (h : ¬W.Quiescent senderOk receiverOk link) :
    link.toReceiver ≠ [] ∨ link.toSender ≠ [] ∨
      (∃ moment, senderOk link.sender moment ∧
        (W.sender.emits link.sender (W.senderTick moment)).filterMap W.sentFrame ≠ []) ∨
      ∃ moment, receiverOk link.receiver moment ∧
        (W.receiver.emits link.receiver (W.receiverTick moment)).filterMap W.sentFrame ≠ [] := by
  by_contra hnone
  simp only [not_or, not_exists, not_and, not_not, ne_eq] at hnone
  obtain ⟨htoReceiver, htoSender, hsender, hreceiver⟩ := hnone
  exact h ⟨htoReceiver, htoSender, hsender, hreceiver⟩

end Wiring

end Isobus.Lib
