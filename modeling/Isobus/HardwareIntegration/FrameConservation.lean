import Isobus.HardwareIntegration.CanHardwareInterface
import Mathlib.Tactic

/-!
# Frames through the hardware interface

Every frame that was read is dispatched once and in order, and every accepted one is written and
reported once and in order, or it waits.
-/

namespace Isobus.HardwareIntegration

open Isobus.Lib

/-- The contents of the queues, and the channel whose oldest frame is with the callbacks. -/
@[ext]
structure View where
  received : Nat → List CANMessageFrame
  toTransmit : Nat → List CANMessageFrame
  inDispatch : Option Nat
  inReport : Option Nat

def CANMessageFrame.onChannel (frame : CANMessageFrame) (i : Nat) : CANMessageFrame :=
  { frame with channel := UInt8.ofNat i }

/-- The steps of the abstract interface. -/
inductive Effect : View → List HardwareEvent → View → Prop
  | quiet (v : View) : Effect v [] v
  | read (v : View) (i : Nat) (frame : CANMessageFrame) :
      Effect v [.read i frame]
        { v with received := Function.update v.received i (v.received i ++ [frame]) }
  | accepted (v : View) (frame : CANMessageFrame) :
      Effect v [.accepted frame]
        { v with
          toTransmit := Function.update v.toTransmit frame.channel.toNat
            (v.toTransmit frame.channel.toNat ++ [frame]) }
  | dispatched (v : View) {i : Nat} {frame : CANMessageFrame} (hfree : v.inDispatch = none)
      (hfirst : (v.received i).head? = some frame) (hi : i < 256) :
      Effect v [.dispatched (frame.onChannel i)] { v with inDispatch := some i }
  | dispatchDone (v : View) {i : Nat} (hbusy : v.inDispatch = some i) :
      Effect v []
        { v with
          received := Function.update v.received i (v.received i).tail
          inDispatch := none }
  | written (v : View) {i : Nat} {frame : CANMessageFrame} (hfree : v.inReport = none)
      (hfirst : (v.toTransmit i).head? = some frame) :
      Effect v [.written i frame, .reported frame] { v with inReport := some i }
  | reportDone (v : View) {i : Nat} (hbusy : v.inReport = some i) :
      Effect v []
        { v with
          toTransmit := Function.update v.toTransmit i (v.toTransmit i).tail
          inReport := none }

namespace HardwareEvent

def readOn (channel : Nat) : HardwareEvent → Option CANMessageFrame
  | .read i frame => if i = channel then some frame else none
  | _ => none

def dispatchedOn (channel : Nat) : HardwareEvent → Option CANMessageFrame
  | .dispatched frame => if frame.channel.toNat = channel then some frame else none
  | _ => none

def acceptedOn (channel : Nat) : HardwareEvent → Option CANMessageFrame
  | .accepted frame => if frame.channel.toNat = channel then some frame else none
  | _ => none

def writtenOn (channel : Nat) : HardwareEvent → Option CANMessageFrame
  | .written i frame => if i = channel then some frame else none
  | _ => none

def reportedOn (channel : Nat) : HardwareEvent → Option CANMessageFrame
  | .reported frame => if frame.channel.toNat = channel then some frame else none
  | _ => none

end HardwareEvent

namespace View

/-- The received frames that the callbacks have not been called for. -/
def waitingReceived (v : View) (channel : Nat) : List CANMessageFrame :=
  if v.inDispatch = some channel then (v.received channel).tail else v.received channel

def waitingToTransmit (v : View) (channel : Nat) : List CANMessageFrame :=
  if v.inReport = some channel then (v.toTransmit channel).tail else v.toTransmit channel

/-- A frame with the callbacks is still in its queue, and frames to transmit are in that of their
channel. -/
structure Sound (v : View) : Prop where
  inDispatch : ∀ i, v.inDispatch = some i → v.received i ≠ []
  inReport : ∀ i, v.inReport = some i → v.toTransmit i ≠ []
  channel : ∀ i, ∀ frame ∈ v.toTransmit i, frame.channel.toNat = i

end View

/-- Nothing is lost, doubled or reordered on a channel. -/
structure Conserved (v : View) (events : List HardwareEvent) (channel : Nat) : Prop where
  received : (events.filterMap (HardwareEvent.readOn channel)).map (·.onChannel channel) =
    events.filterMap (HardwareEvent.dispatchedOn channel) ++
      (v.waitingReceived channel).map (·.onChannel channel)
  transmitted : events.filterMap (HardwareEvent.acceptedOn channel) =
    events.filterMap (HardwareEvent.writtenOn channel) ++ v.waitingToTransmit channel
  reported : events.filterMap (HardwareEvent.reportedOn channel) =
    events.filterMap (HardwareEvent.writtenOn channel)

/-- What one step takes from the frames that wait and what it adds to them. -/
structure Balanced (before : View) (events : List HardwareEvent) (after : View) (channel : Nat) :
    Prop where
  received : (before.waitingReceived channel ++
      events.filterMap (HardwareEvent.readOn channel)).map (·.onChannel channel) =
    events.filterMap (HardwareEvent.dispatchedOn channel) ++
      (after.waitingReceived channel).map (·.onChannel channel)
  transmitted : before.waitingToTransmit channel ++
      events.filterMap (HardwareEvent.acceptedOn channel) =
    events.filterMap (HardwareEvent.writtenOn channel) ++ after.waitingToTransmit channel
  reported : events.filterMap (HardwareEvent.reportedOn channel) =
    events.filterMap (HardwareEvent.writtenOn channel)

variable {before after : View} {events : List HardwareEvent}

theorem Conserved.step {past : List HardwareEvent} {channel : Nat}
    (h : Conserved before past channel) (hstep : Balanced before events after channel) :
    Conserved after (past ++ events) channel := by
  refine ⟨?_, ?_, ?_⟩
  · rw [List.filterMap_append, List.map_append, h.received, List.append_assoc, ← List.map_append,
      hstep.received, List.filterMap_append, List.append_assoc]
  · rw [List.filterMap_append, h.transmitted, List.append_assoc, hstep.transmitted,
      List.filterMap_append, List.append_assoc]
  · rw [List.filterMap_append, h.reported, hstep.reported, List.filterMap_append]

theorem ne_nil_of_head? {frame : CANMessageFrame} {frames : List CANMessageFrame}
    (h : frames.head? = some frame) : frames ≠ [] := by
  rintro rfl
  cases h

theorem update_append_ne_nil {queues : Nat → List CANMessageFrame} {i j : Nat}
    (frame : CANMessageFrame) (h : queues j ≠ []) :
    Function.update queues i (queues i ++ [frame]) j ≠ [] := by
  by_cases hsame : j = i
  · rw [hsame, Function.update_self]
    exact List.append_ne_nil_of_right_ne_nil _ (List.cons_ne_nil _ _)
  · rw [Function.update_of_ne hsame]
    exact h

theorem Effect.sound (h : Effect before events after) (hsound : before.Sound) : after.Sound := by
  cases h with
  | quiet => exact hsound
  | read i frame =>
    exact ⟨fun j hj => update_append_ne_nil frame (hsound.inDispatch j hj), hsound.inReport,
      hsound.channel⟩
  | accepted frame =>
    refine ⟨hsound.inDispatch,
      fun j hj => update_append_ne_nil frame (hsound.inReport j hj), fun j other hother => ?_⟩
    change other ∈ Function.update before.toTransmit _ _ j at hother
    by_cases hsame : j = frame.channel.toNat
    · subst hsame
      rw [Function.update_self, List.mem_append, List.mem_singleton] at hother
      rcases hother with hold | rfl
      · exact hsound.channel _ other hold
      · rfl
    · rw [Function.update_of_ne hsame] at hother
      exact hsound.channel j other hother
  | dispatched hfree hfirst hi =>
    refine ⟨fun j hj => ?_, hsound.inReport, hsound.channel⟩
    obtain rfl := Option.some_inj.mp hj
    exact ne_nil_of_head? hfirst
  | dispatchDone hbusy =>
    refine ⟨fun j hj => ?_, hsound.inReport, hsound.channel⟩
    cases hj
  | written hfree hfirst =>
    refine ⟨hsound.inDispatch, fun j hj => ?_, hsound.channel⟩
    obtain rfl := Option.some_inj.mp hj
    exact ne_nil_of_head? hfirst
  | @reportDone i hbusy =>
    refine ⟨hsound.inDispatch, fun j hj => ?_, fun j frame hframe => ?_⟩
    · cases hj
    · change frame ∈ Function.update before.toTransmit i _ j at hframe
      by_cases hsame : j = i
      · rw [hsame, Function.update_self] at hframe
        rw [hsame]
        exact hsound.channel i frame (List.mem_of_mem_tail hframe)
      · rw [Function.update_of_ne hsame] at hframe
        exact hsound.channel j frame hframe

namespace UpdateStage

def locks : UpdateStage → Bool
  | receiving .. | dispatching .. | transmitting .. | reporting .. => true
  | _ => false

def dispatchChannel : UpdateStage → Option Nat
  | dispatching i _ => some i
  | _ => none

def reportChannel : UpdateStage → Option Nat
  | reporting i _ => some i
  | _ => none

end UpdateStage

namespace CANHardwareInterface

variable {interface : CANHardwareInterface} {thread : Nat} {stage : UpdateStage}

def current (interface : CANHardwareInterface) : UpdateStage :=
  match interface.hardwareChannelsMutex with
  | none => .idle
  | some thread => interface.stages thread

def view (interface : CANHardwareInterface) : View where
  received := fun i => (interface.hardwareChannels i).receivedMessagesQueue.contents
  toTransmit := fun i => (interface.hardwareChannels i).messagesToBeTransmittedQueue.contents
  inDispatch := interface.current.dispatchChannel
  inReport := interface.current.reportChannel

def Serialised (interface : CANHardwareInterface) : Prop :=
  ∀ thread, (interface.stages thread).locks = true ↔
    interface.hardwareChannelsMutex = some thread

theorem stages_setStage_self (interface : CANHardwareInterface) (thread : Nat)
    (stage : UpdateStage) : (interface.setStage thread stage).stages thread = stage := by
  simp [setStage]

theorem stages_setStage_of_ne (interface : CANHardwareInterface) (stage : UpdateStage)
    {thread other : Nat} (h : other ≠ thread) :
    (interface.setStage thread stage).stages other = interface.stages other := by
  simp [setStage, h]

theorem current_of_holder (interface : CANHardwareInterface)
    (h : interface.hardwareChannelsMutex = some thread) :
    interface.current = interface.stages thread := by
  rw [current, h]

theorem current_of_free (interface : CANHardwareInterface)
    (h : interface.hardwareChannelsMutex = none) : interface.current = .idle := by
  rw [current, h]

theorem Serialised.setStage (h : interface.Serialised)
    (hlocks : stage.locks = (interface.stages thread).locks) :
    (interface.setStage thread stage).Serialised := by
  intro other
  by_cases hsame : other = thread
  · subst hsame
    rw [stages_setStage_self, hlocks]
    exact h other
  · rw [stages_setStage_of_ne interface stage hsame]
    exact h other

theorem Serialised.lock (h : interface.Serialised) (thread : Nat) (hstage : stage.locks = true)
    (hidle : stage.dispatchChannel = none ∧ stage.reportChannel = none) :
    (interface.lock thread stage).Serialised ∧
      (interface.lock thread stage).view = interface.view := by
  unfold CANHardwareInterface.lock
  by_cases hfree : interface.hardwareChannelsMutex = none
  · rw [if_pos hfree]
    constructor
    · intro other
      by_cases hsame : other = thread
      · subst hsame
        exact iff_of_true ((congrArg UpdateStage.locks (stages_setStage_self _ _ _)).trans hstage)
          rfl
      · have hother := h other
        rw [hfree] at hother
        refine iff_of_false (fun hlocks => ?_) fun heq => hsame (Option.some_inj.mp heq).symm
        have hother : (interface.stages other).locks = true := by
          rwa [← stages_setStage_of_ne interface stage hsame]
        rw [h other, hfree] at hother
        cases hother
    · have hcurrent : CANHardwareInterface.current
          { interface.setStage thread stage with hardwareChannelsMutex := some thread } = stage :=
        stages_setStage_self interface thread stage
      rw [view, view, hcurrent, current_of_free interface hfree, hidle.1, hidle.2]
      rfl
  · rw [if_neg hfree]
    exact ⟨h, rfl⟩

theorem Serialised.unlock (h : interface.Serialised)
    (hholder : interface.hardwareChannelsMutex = some thread) (hstage : stage.locks = false)
    (hcurrent : (interface.stages thread).dispatchChannel = none ∧
      (interface.stages thread).reportChannel = none) :
    (interface.unlock thread stage).Serialised ∧
      (interface.unlock thread stage).view = interface.view := by
  constructor
  · intro other
    refine iff_of_false (fun hlocks => ?_) (Option.some_ne_none other).symm
    by_cases hsame : other = thread
    · subst hsame
      rw [show (interface.unlock other stage).stages other = stage from
        stages_setStage_self interface other stage, hstage] at hlocks
      cases hlocks
    · have hother : (interface.stages other).locks = true := by
        rwa [← stages_setStage_of_ne interface stage hsame]
      rw [h other, hholder, Option.some_inj] at hother
      exact hsame hother.symm
  · have hidle : (interface.unlock thread stage).current = .idle := rfl
    rw [view, view, hidle, current_of_holder interface hholder, hcurrent.1, hcurrent.2]
    rfl

def Refines (before : CANHardwareInterface)
    (result : CANHardwareInterface × List HardwareEvent) : Prop :=
  result.1.Serialised ∧ Effect before.view result.2 result.1.view

theorem refines_self (h : interface.Serialised) : Refines interface (interface, []) :=
  ⟨h, .quiet _⟩

end CANHardwareInterface

end Isobus.HardwareIntegration
