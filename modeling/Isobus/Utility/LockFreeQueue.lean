import Isobus.Lib.BoundedQueue
import Isobus.Lib.Machine
import Isobus.Lib.RingBuffer

/-!
# The queue without locks

`LockFreeQueue` of `thread_synchronization.hpp`, as the atomic loads and stores of one producer and
one consumer in any order.
-/

namespace Isobus.Utility

open Isobus.Lib

variable {α : Type} {capacity : Nat}

def nextIndex (current : Fin capacity) : Fin capacity :=
  ⟨(current + 1) % capacity, Nat.mod_lt _ current.pos⟩

/-- Where the producer stands, with the index it has loaded. -/
inductive Producer (α : Type) (capacity : Nat) where
  | idle
  | pushLoaded (item : α) (currentWriteIndex : Fin capacity)
  | pushChecked (item : α) (currentWriteIndex : Fin capacity)
  | pushStored (item : α) (currentWriteIndex : Fin capacity)
  -- The language leaves open which index `is_full` loads first.
  | isFullWrite (currentWriteIndex : Fin capacity)
  | isFullRead (currentReadIndex : Fin capacity)

inductive Consumer (capacity : Nat) where
  | idle
  | peekLoaded (currentReadIndex : Fin capacity)
  | peekChecked (currentReadIndex : Fin capacity)
  | popLoaded (currentReadIndex : Fin capacity)
  | popChecked (currentReadIndex : Fin capacity)
  | clearLoaded (currentWriteIndex : Fin capacity)

structure LockFreeQueue (α : Type) (capacity : Nat) where
  buffer : Nat → α
  readIndex : Fin capacity
  writeIndex : Fin capacity
  producer : Producer α capacity := .idle
  consumer : Consumer capacity := .idle

/-- A call, which performs its first load, or the next access of the call that is running. -/
inductive Action (α : Type) where
  | push (item : α)
  | isFull (writeFirst : Bool)
  | peek
  | pop
  | clear
  | producer
  | consumer

namespace LockFreeQueue

def create (buffer : Nat → α) (h : 0 < capacity) : LockFreeQueue α capacity where
  buffer := buffer
  readIndex := ⟨0, h⟩
  writeIndex := ⟨0, h⟩

variable (q : LockFreeQueue α capacity)

def ring : RingBuffer α where
  capacity := capacity
  buffer := q.buffer
  readIndex := q.readIndex
  writeIndex := q.writeIndex
  readIndex_lt := q.readIndex.isLt
  writeIndex_lt := q.writeIndex.isLt

/-- How many items there are in front of an index. -/
def distance (index : Fin capacity) : Nat := (index + capacity - q.readIndex) % capacity

def producerStep : LockFreeQueue α capacity × List (QueueEvent α) :=
  match q.producer with
  | .idle => (q, [])
  | .pushLoaded item index =>
    if nextIndex index = q.readIndex then ({ q with producer := .idle }, [.pushFailed])
    else ({ q with producer := .pushChecked item index }, [])
  | .pushChecked item index =>
    ({ q with buffer := Function.update q.buffer index item, producer := .pushStored item index },
      [])
  | .pushStored item index =>
    ({ q with writeIndex := nextIndex index, producer := .idle }, [.pushed item])
  | .isFullWrite index =>
    ({ q with producer := .idle }, [.fullness (nextIndex index = q.readIndex)])
  | .isFullRead index =>
    ({ q with producer := .idle }, [.fullness (nextIndex q.writeIndex = index)])

/-- `pop` does not read the item that it removes: it is the one at the read index. -/
def consumerStep : LockFreeQueue α capacity × List (QueueEvent α) :=
  match q.consumer with
  | .idle => (q, [])
  | .peekLoaded index =>
    if index = q.writeIndex then ({ q with consumer := .idle }, [.peekFailed])
    else ({ q with consumer := .peekChecked index }, [])
  | .peekChecked index =>
    ({ q with consumer := .idle }, [.peeked (q.buffer index)])
  | .popLoaded index =>
    if index = q.writeIndex then ({ q with consumer := .idle }, [.popFailed])
    else ({ q with consumer := .popChecked index }, [])
  | .popChecked index =>
    ({ q with readIndex := nextIndex index, consumer := .idle },
      [.popped (q.buffer q.readIndex)])
  | .clearLoaded index =>
    ({ q with readIndex := index, consumer := .idle },
      [.cleared (q.ring.contents.take (q.distance index))])

def beginProducer (producer : Producer α capacity) : LockFreeQueue α capacity :=
  match q.producer with
  | .idle => { q with producer := producer }
  | _ => q

def beginConsumer (consumer : Consumer capacity) (events : List (QueueEvent α)) :
    LockFreeQueue α capacity × List (QueueEvent α) :=
  match q.consumer with
  | .idle => ({ q with consumer := consumer }, events)
  | _ => (q, [])

def act : Action α → LockFreeQueue α capacity × List (QueueEvent α)
  | .push item => (q.beginProducer (.pushLoaded item q.writeIndex), [])
  | .isFull true => (q.beginProducer (.isFullWrite q.writeIndex), [])
  | .isFull false => (q.beginProducer (.isFullRead q.readIndex), [])
  | .peek => q.beginConsumer (.peekLoaded q.readIndex) []
  | .pop => q.beginConsumer (.popLoaded q.readIndex) []
  | .clear => q.beginConsumer (.clearLoaded q.writeIndex) [.clearing]
  | .producer => q.producerStep
  | .consumer => q.consumerStep

def machine (α : Type) (capacity : Nat) :
    Machine (LockFreeQueue α capacity) (Action α) (QueueEvent α) where
  step := act

/-- The items that the two indices enclose, and those that a running `clear` discards. -/
def bounded : BoundedQueue α where
  items := q.ring.contents
  doomed :=
    match q.consumer with
    | .clearLoaded index => q.distance index
    | _ => 0

/-- What the producer relies on: only it moves the write index, and the room can only grow. -/
def ProducerOk : Prop :=
  match q.producer with
  | .idle => True
  | .pushLoaded _ index | .isFullWrite index => index = q.writeIndex
  | .pushChecked _ index => index = q.writeIndex ∧ q.ring.length + 1 < capacity
  | .pushStored item index =>
    index = q.writeIndex ∧ q.ring.length + 1 < capacity ∧ q.buffer index = item
  | .isFullRead index => nextIndex q.writeIndex ≠ index → q.ring.length + 1 < capacity

/-- What the consumer relies on: only it moves the read index, and the items can only grow. -/
def ConsumerOk : Prop :=
  match q.consumer with
  | .idle => True
  | .peekLoaded index | .popLoaded index => index = q.readIndex
  | .peekChecked index | .popChecked index => index = q.readIndex ∧ 0 < q.ring.length
  | .clearLoaded index => q.distance index ≤ q.ring.length

structure Ok : Prop where
  producer : q.ProducerOk
  consumer : q.ConsumerOk

variable {q} {q' : LockFreeQueue α capacity}

theorem full_iff : nextIndex q.writeIndex = q.readIndex ↔ q.ring.length + 1 = capacity := by
  have hfull := q.ring.isFull_iff
  rw [RingBuffer.isFull, decide_eq_true_eq, RingBuffer.length_contents] at hfull
  rw [Fin.ext_iff]
  exact hfull

theorem room_of_ne (h : nextIndex q.writeIndex ≠ q.readIndex) : q.ring.length + 1 < capacity := by
  have hlt : q.ring.length < capacity := q.ring.length_lt
  have hne := mt full_iff.mpr h
  omega

theorem empty_iff : q.readIndex = q.writeIndex ↔ q.ring.contents = [] := by
  rw [q.ring.contents_eq_nil_iff, Fin.ext_iff]
  rfl

theorem length_pos_of_ne (h : q.readIndex ≠ q.writeIndex) : 0 < q.ring.length :=
  q.ring.length_pos (Fin.val_ne_iff.mpr h)

theorem head?_contents (h : 0 < q.ring.length) :
    q.ring.contents.head? = some (q.buffer q.readIndex) := by
  rw [← RingBuffer.peek_eq_head?, RingBuffer.peek, if_neg]
  · rfl
  · rw [← q.ring.contents_eq_nil_iff, ← List.length_eq_zero_iff, RingBuffer.length_contents]
    exact h.ne'

theorem readIndex_add_distance (index : Fin capacity) :
    (index : Nat) = (q.readIndex + q.distance index) % capacity := by
  have hread := q.readIndex.isLt
  rw [distance, Nat.add_mod_mod, show (q.readIndex : Nat) + (index + capacity - q.readIndex) =
    index + capacity by omega, Nat.add_mod_right, Nat.mod_eq_of_lt index.isLt]

theorem ConsumerOk.of_longer (h : q.ConsumerOk) (hconsumer : q'.consumer = q.consumer)
    (hread : q'.readIndex = q.readIndex) (hlength : q.ring.length ≤ q'.ring.length) :
    q'.ConsumerOk := by
  unfold ConsumerOk distance at h ⊢
  rw [hconsumer, hread]
  cases hstate : q.consumer <;> simp only [hstate] at h ⊢
  case peekLoaded | popLoaded => exact h
  case peekChecked | popChecked => exact ⟨h.1, h.2.trans_le hlength⟩
  case clearLoaded => exact h.trans hlength

theorem ProducerOk.of_shorter (h : q.ProducerOk) (hproducer : q'.producer = q.producer)
    (hwrite : q'.writeIndex = q.writeIndex) (hbuffer : q'.buffer = q.buffer)
    (hlength : q'.ring.length ≤ q.ring.length) : q'.ProducerOk := by
  unfold ProducerOk at h ⊢
  rw [hproducer, hwrite, hbuffer]
  cases hstate : q.producer <;> simp only [hstate] at h ⊢
  case pushLoaded | isFullWrite => exact h
  case pushChecked => exact ⟨h.1, by omega⟩
  case pushStored => exact ⟨h.1, by omega, h.2.2⟩
  case isFullRead =>
    intro hne
    have hroom := h hne
    omega

/-- What a step has to keep, and what it shows. -/
def Refines (q : LockFreeQueue α capacity)
    (result : LockFreeQueue α capacity × List (QueueEvent α)) : Prop :=
  result.1.Ok ∧ BoundedQueue.Run (capacity - 1) q.bounded result.2 result.1.bounded

theorem refines_self (h : q.Ok) : q.Refines (q, []) := ⟨h, rfl⟩

theorem refines_producer {producer : Producer α capacity} (h : q.Ok)
    (hproducer : ({ q with producer := producer } : LockFreeQueue α capacity).ProducerOk) :
    q.Refines ({ q with producer := producer }, []) :=
  ⟨⟨hproducer, h.consumer⟩, rfl⟩

theorem refines_answer {e : QueueEvent α} (h : q.Ok)
    (hstep : BoundedQueue.Step (capacity - 1) q.bounded e q.bounded) :
    q.Refines ({ q with producer := .idle }, [e]) :=
  ⟨⟨trivial, h.consumer⟩, hstep.run⟩

theorem refines_producerStep (h : q.Ok) : q.Refines q.producerStep := by
  have hlt : q.ring.length < capacity := q.ring.length_lt
  have hitems : q.bounded.items.length = q.ring.length := q.ring.length_contents
  have hok := h.producer
  unfold ProducerOk at hok
  unfold producerStep
  cases hstate : q.producer <;> simp only [hstate] at hok ⊢
  case idle => exact refines_self h
  case pushLoaded =>
    rw [hok]
    split_ifs with hfull
    · refine refines_answer h (.pushFailed ?_)
      have hlength := full_iff.mp hfull
      omega
    · exact refines_producer h ⟨rfl, room_of_ne hfull⟩
  case pushChecked item index =>
    obtain ⟨rfl, hroom⟩ := hok
    refine ⟨⟨⟨rfl, hroom, Function.update_self _ _ _⟩, h.consumer⟩, ?_⟩
    have hcontents := q.ring.contents_write item
    exact congrArg (fun items => ({ q.bounded with items := items } : BoundedQueue α)) hcontents
  case pushStored item index =>
    obtain ⟨rfl, hroom, rfl⟩ := hok
    have hcontents := q.ring.contents_advance hroom
    have hlength := congrArg List.length hcontents
    rw [List.length_append, RingBuffer.length_contents, RingBuffer.length_contents] at hlength
    refine ⟨⟨trivial, h.consumer.of_longer rfl rfl (hlength ▸ Nat.le_add_right _ _)⟩,
      _, .pushed (by omega), ?_⟩
    exact congrArg (fun items => ({ q.bounded with items := items } : BoundedQueue α)) hcontents
  case isFullWrite =>
    rw [hok]
    refine refines_answer h (.fullness fun hfull => ?_)
    have hroom := room_of_ne (of_decide_eq_false hfull)
    omega
  case isFullRead =>
    refine refines_answer h (.fullness fun hfull => ?_)
    have hroom := hok (of_decide_eq_false hfull)
    omega

theorem refines_consumer {consumer : Consumer capacity} {events : List (QueueEvent α)} (h : q.Ok)
    (hconsumer : ({ q with consumer := consumer } : LockFreeQueue α capacity).ConsumerOk)
    (hrun : BoundedQueue.Run (capacity - 1) q.bounded events
      ({ q with consumer := consumer } : LockFreeQueue α capacity).bounded) :
    q.Refines ({ q with consumer := consumer }, events) :=
  ⟨⟨h.producer, hconsumer⟩, hrun⟩

/-- Dropping the first items, which leaves the producer more room. -/
theorem refines_skip {index : Fin capacity} {k : Nat} {e : QueueEvent α} (h : q.Ok)
    (hk : k ≤ q.ring.length) (hindex : (index : Nat) = (q.readIndex + k) % capacity)
    (hstep : BoundedQueue.Step (capacity - 1) q.bounded e ⟨q.ring.contents.drop k, 0⟩) :
    q.Refines ({ q with readIndex := index, consumer := .idle }, [e]) := by
  have hcontents := q.ring.contents_skip hk index.isLt hindex
  have hlength := congrArg List.length hcontents
  rw [List.length_drop, RingBuffer.length_contents, RingBuffer.length_contents] at hlength
  exact ⟨⟨h.producer.of_shorter rfl rfl rfl (hlength ▸ Nat.sub_le _ _), trivial⟩, _, hstep,
    congrArg (BoundedQueue.mk · 0) hcontents⟩

theorem refines_consumerStep (h : q.Ok) : q.Refines q.consumerStep := by
  obtain ⟨buffer, readIndex, writeIndex, producer, consumer⟩ := q
  have hok := h.consumer
  cases consumer with
  | idle => exact refines_self h
  | peekLoaded index =>
    obtain rfl : index = readIndex := hok
    unfold consumerStep
    dsimp only
    split_ifs with hempty
    · exact refines_consumer h trivial (BoundedQueue.Step.peekFailed (empty_iff.mp hempty)).run
    · exact refines_consumer h ⟨rfl, length_pos_of_ne hempty⟩ rfl
  | peekChecked index =>
    obtain ⟨rfl, hpos⟩ := hok
    exact refines_consumer h trivial (BoundedQueue.Step.peeked (head?_contents hpos)).run
  | popLoaded index =>
    obtain rfl : index = readIndex := hok
    unfold consumerStep
    dsimp only
    split_ifs with hempty
    · exact refines_consumer h trivial (BoundedQueue.Step.popFailed (empty_iff.mp hempty)).run
    · exact refines_consumer h ⟨rfl, length_pos_of_ne hempty⟩ rfl
  | popChecked index =>
    obtain ⟨rfl, hpos⟩ := hok
    refine refines_skip h hpos rfl ?_
    rw [List.drop_one]
    exact .popped (head?_contents hpos)
  | clearLoaded index =>
    refine refines_skip h hok (readIndex_add_distance _) (.cleared ?_)
    exact hok.trans_eq (RingBuffer.length_contents _).symm

theorem refines_begin {producer : Producer α capacity} (h : q.Ok)
    (hproducer : ({ q with producer := producer } : LockFreeQueue α capacity).ProducerOk) :
    q.Refines (q.beginProducer producer, []) := by
  unfold beginProducer
  split
  · exact refines_producer h hproducer
  · exact refines_self h

theorem refines_act (h : q.Ok) (action : Action α) : q.Refines (q.act action) := by
  cases action with
  | push item => exact refines_begin h rfl
  | isFull writeFirst =>
    cases writeFirst with
    | true => exact refines_begin h rfl
    | false => exact refines_begin h room_of_ne
  | peek | pop =>
    obtain ⟨buffer, readIndex, writeIndex, producer, consumer⟩ := q
    cases consumer with
    | idle => exact refines_consumer h rfl rfl
    | _ => exact refines_self h
  | clear =>
    obtain ⟨buffer, readIndex, writeIndex, producer, consumer⟩ := q
    cases consumer with
    | idle =>
      refine refines_consumer h le_rfl ⟨_, .clearing, ?_⟩
      refine congrArg (BoundedQueue.mk _) (Eq.symm ?_)
      exact RingBuffer.length_contents _
    | _ => exact refines_self h
  | producer => exact refines_producerStep h
  | consumer => exact refines_consumerStep h

theorem refines_run (h : q.Ok) (actions : List (Action α)) :
    q.Refines ((machine α capacity).run q actions, (machine α capacity).outputs q actions) := by
  induction actions generalizing q with
  | nil => exact refines_self h
  | cons action actions ih =>
    obtain ⟨hok, hrun⟩ := refines_act h action
    obtain ⟨hok', hrun'⟩ := ih hok
    exact ⟨hok', hrun.append hrun'⟩

/-- In every interleaving the queue behaves as one that holds `capacity - 1` items: a push fails
only when it is full and a pop when it is empty, and what was pushed is popped, discarded or stored,
in order. -/
theorem refines_boundedQueue (buffer : Nat → α) (h : 0 < capacity) (actions : List (Action α)) :
    let q := (machine α capacity).run (create buffer h) actions
    let events := (machine α capacity).outputs (create buffer h) actions
    BoundedQueue.Run (capacity - 1) {} events q.bounded ∧
      ∃ fates : List (Bool × α),
        events.flatMap BoundedQueue.pushedBy = fates.map Prod.snd ++ q.ring.contents ∧
        events.flatMap BoundedQueue.poppedBy = (fates.filter Prod.fst).map Prod.snd ∧
        events.flatMap BoundedQueue.clearedBy = (fates.filter (!·.1)).map Prod.snd := by
  intro q events
  have hempty : (create buffer h).ring.contents = [] := empty_iff.mp rfl
  have hok : (create buffer h).Ok := ⟨trivial, trivial⟩
  have hrun := (refines_run hok actions).2
  rw [show (create buffer h).bounded = {} from congrArg (BoundedQueue.mk · 0) hempty] at hrun
  exact ⟨hrun, events.flatMap BoundedQueue.fates, hrun.accounts, BoundedQueue.popped_eq events,
    BoundedQueue.cleared_eq events⟩

/-- The second push finds the queue full, and the third item is pushed while the first is
popped. -/
def busy : List (Action Nat) :=
  [.push 7, .producer, .producer, .producer, .push 8, .producer, .pop, .consumer, .push 9,
    .consumer, .producer, .producer, .producer]

theorem busy_refines :
    let q := (machine Nat 2).run (create (fun _ => 0) Nat.two_pos) busy
    let events := (machine Nat 2).outputs (create (fun _ => 0) Nat.two_pos) busy
    BoundedQueue.Run 1 {} events q.bounded ∧
      ∃ fates : List (Bool × Nat),
        events.flatMap BoundedQueue.pushedBy = fates.map Prod.snd ++ q.ring.contents ∧
        events.flatMap BoundedQueue.poppedBy = (fates.filter Prod.fst).map Prod.snd ∧
        events.flatMap BoundedQueue.clearedBy = (fates.filter (!·.1)).map Prod.snd :=
  refines_boundedQueue (fun _ => 0) Nat.two_pos busy

end LockFreeQueue

end Isobus.Utility
