import Isobus.Lib.Machine
import Isobus.VirtualTerminalClient.UpdateHelper

namespace Isobus.VirtualTerminalClient

open Isobus.Can Isobus.Lib Isobus.VirtualTerminal

/-- A helper with its callback, and the terminal that its client is connected to. -/
structure Validator where
  tracker : StateTracker
  partner : CFRef
  callback : Option (UInt16 → UInt32 → Bool) := none

/-- What reaches a helper: a new callback, a call that sets a value, or a message, which the tracker
sees first or last. -/
inductive ValidatorInput
  | setCallbackValidateNumericValue (callback : Option (UInt16 → UInt32 → Bool))
  | setNumericValue (objectId : UInt16) (value : UInt32) (queued : Bool)
  | message (world : World) (message : CANMessage) (trackerFirst : Bool)

namespace Validator

variable (validator : Validator) (world : World) (message : CANMessage) (trackerFirst : Bool)

/-- The event that `VirtualTerminalClient::process_rx_message` makes of a message to all or from its
terminal. -/
def event : Option (UInt16 × UInt32) :=
  if CAN_DATA_LENGTH ≤ message.data.length ∧
      (message.destination = none ∨
        message.destination = validator.tracker.client ∧
          message.source = some validator.partner) ∧
      message.identifier.getParameterGroupNumber = VirtualTerminalToECU ∧
      message.getUint8At 0 = VTChangeNumericValueMessage then
    some (message.getUint16At 1, message.getUint32At 4)
  else none

def tracked : StateTracker := (validator.tracker.processRxOrTxMessage world message).tracker

def answer : Option HelperCommand :=
  (validator.event message).bind fun event =>
    (if trackerFirst then validator.tracked world message
      else validator.tracker).processNumericValueChangeEvent validator.callback event.1 event.2

def serve : Machine Validator ValidatorInput HelperCommand where
  step validator
    | .setCallbackValidateNumericValue callback => ({ validator with callback := callback }, [])
    | .setNumericValue objectId value queued =>
      let called := validator.tracker.setNumericValue (fun _ => queued) objectId value
      ({ validator with tracker := called.tracker }, called.command.toList)
    | .message world message trackerFirst =>
      ({ validator with tracker := validator.tracked world message },
        (validator.answer world message trackerFirst).toList)

def accepts (objectID : UInt16) (value : UInt32) : Bool :=
  validator.callback.all fun validate => validate objectID value

/-- The object, the value that the tracker holds for it and the new value, if it is another one. -/
def change : Option (UInt16 × UInt32 × UInt32) := do
  let (objectID, value) ← validator.event message
  let held ← validator.tracker.numericValueStates objectID
  if held = value then none else some (objectID, held, value)

/-- A change is answered by the new value if it is accepted, and by the old one if not; nothing else
is answered. -/
def AnswersAsDocumented : ValidatorInput → Prop
  | .message world message trackerFirst =>
    serve.emits validator (.message world message trackerFirst) =
      ((validator.change message).map fun (objectID, held, value) =>
        HelperCommand.changeNumericValue objectID
          (if validator.accepts objectID value then value else held)).toList
  | _ => True

def TrackerTakes : Prop :=
  message.hasValidSourceControlFunction world = true ∧ message.isBroadcast world = false ∧
    message.source = validator.tracker.server ∧ message.data.length = CAN_DATA_LENGTH

/-- There is no callback when a value changes, and the helper sees the new value before the tracker.
-/
def Unasked : ValidatorInput → Prop
  | .message world message trackerFirst =>
    (validator.change message).isSome →
      validator.callback = none ∧ (trackerFirst = true → ¬validator.TrackerTakes world message)
  | _ => True

variable {validator world message trackerFirst}

theorem tracked_eq (hgroup : message.identifier.getParameterGroupNumber = VirtualTerminalToECU)
    (hfunction : message.getUint8At 0 = VTChangeNumericValueMessage) (hdata : message.data ≠ []) :
    validator.tracked world message =
      if message.hasValidSourceControlFunction world = true ∧
          message.isBroadcast world = false ∧ message.source = validator.tracker.server then
        validator.tracker.processNumericValueChange message
      else validator.tracker := by
  have hstatus : message.getUint8At 0 ≠ VTStatusMessage := by
    rw [hfunction]
    decide
  have hclients : VirtualTerminalToECU ≠ ECUtoVirtualTerminal := by decide
  have hhandler : (validator.tracker.processMessageFromConnectedServer world message).tracker =
      validator.tracker.processNumericValueChange message := by
    rw [StateTracker.processMessageFromConnectedServer, hfunction]
    rfl
  rw [tracked, StateTracker.processRxOrTxMessage]
  by_cases hvalid : message.hasValidSourceControlFunction world = true
  · rw [if_pos ⟨hvalid, hdata⟩]
    simp only [hgroup, hstatus, hclients, and_false, if_false, and_true, hvalid, true_and]
    by_cases hfrom : message.isBroadcast world = false ∧ message.source = validator.tracker.server
    · rw [if_pos hfrom, if_pos ⟨hfrom.2, (Bool.not_eq_true' _).mpr hfrom.1⟩, hhandler]
    · rw [if_neg hfrom, if_neg fun h => hfrom ⟨(Bool.not_eq_true' _).mp h.2, h.1⟩]
  · rw [if_neg fun h => hvalid h.1, if_neg fun h => hvalid h.1]

variable {objectID : UInt16} {value : UInt32}

theorem numericValueStates_tracked (hevent : validator.event message = some (objectID, value))
    [Decidable (validator.TrackerTakes world message)] :
    (validator.tracked world message).numericValueStates objectID =
      (validator.tracker.numericValueStates objectID).map fun held =>
        if validator.TrackerTakes world message then value else held := by
  rw [event] at hevent
  split_ifs at hevent with hmessage
  obtain ⟨hlength, -, hgroup, hfunction⟩ := hmessage
  obtain ⟨hobject, hvalue⟩ := Prod.mk.inj (Option.some_inj.mp hevent)
  have hdata : message.data ≠ [] := by
    intro hempty
    rw [hempty] at hlength
    cases hlength
  rw [tracked_eq hgroup hfunction hdata]
  by_cases htakes : validator.TrackerTakes world message
  · rw [if_pos ⟨htakes.1, htakes.2.1, htakes.2.2.1⟩, StateTracker.processNumericValueChange,
      if_pos htakes.2.2.2, StateTracker.cacheNumericValue, hobject, hvalue]
    simp only [if_pos htakes]
    cases hheld : validator.tracker.numericValueStates objectID with
    | none => exact hheld
    | some held => exact Function.update_self _ _ _
  · have hsame : (validator.tracker.processNumericValueChange message) = validator.tracker ∨
        ¬(message.hasValidSourceControlFunction world = true ∧
          message.isBroadcast world = false ∧ message.source = validator.tracker.server) := by
      rw [or_iff_not_imp_right, not_not]
      rintro ⟨hvalid, hbroadcast, hsource⟩
      exact if_neg fun hexact => htakes ⟨hvalid, hbroadcast, hsource, hexact⟩
    simp only [if_neg htakes, Option.map_id']
    obtain hsame | hother := hsame
    · rw [hsame, ite_self]
    · rw [if_neg hother]

theorem processNumericValueChangeEvent_eq_none {tracker : StateTracker}
    {callback : Option (UInt16 → UInt32 → Bool)}
    (h : ∀ held ∈ tracker.numericValueStates objectID, held = value) :
    tracker.processNumericValueChangeEvent callback objectID value = none := by
  rw [StateTracker.processNumericValueChangeEvent]
  cases hheld : tracker.numericValueStates objectID with
  | none => rfl
  | some held => exact if_pos (h held hheld)

theorem change_eq_bind :
    validator.change message = (validator.event message).bind fun event =>
      (validator.tracker.numericValueStates event.1).bind fun held =>
        if held = event.2 then none else some (event.1, held, event.2) :=
  rfl

variable {held : UInt32}

theorem change_eq_some_iff :
    validator.change message = some (objectID, held, value) ↔
      validator.event message = some (objectID, value) ∧
        validator.tracker.numericValueStates objectID = some held ∧ held ≠ value := by
  rw [change_eq_bind]
  constructor
  · intro h
    simp only [Option.bind_eq_bind, Option.bind_eq_some_iff] at h
    obtain ⟨⟨objectID', value'⟩, hevent, held', hheld, hrest⟩ := h
    split_ifs at hrest with hsame
    cases hrest
    exact ⟨hevent, hheld, hsame⟩
  · rintro ⟨hevent, hheld, hne⟩
    rw [hevent, Option.bind_some, hheld, Option.bind_some, if_neg hne]

theorem answer_of_no_change (h : validator.change message = none) :
    validator.answer world message trackerFirst = none := by
  classical
  rw [answer]
  cases hevent : validator.event message with
  | none => rfl
  | some event =>
    obtain ⟨objectID, value⟩ := event
    have hsame : ∀ held ∈ validator.tracker.numericValueStates objectID, held = value := by
      intro held hheld
      by_contra hne
      exact Option.some_ne_none _ ((change_eq_some_iff.mpr ⟨hevent, hheld, hne⟩).symm.trans h)
    apply processNumericValueChangeEvent_eq_none
    cases trackerFirst with
    | false => exact hsame
    | true =>
      rw [if_pos rfl, numericValueStates_tracked hevent]
      intro held hheld
      obtain ⟨held', hheld', rfl⟩ := Option.map_eq_some_iff.mp hheld
      rw [hsame held' hheld', ite_self]

theorem answer_of_change (hchange : validator.change message = some (objectID, held, value))
    [Decidable (validator.TrackerTakes world message)] :
    validator.answer world message trackerFirst =
      if trackerFirst = true ∧ validator.TrackerTakes world message then none
      else
        some (.changeNumericValue objectID
          (if validator.callback.any fun validate => validate objectID value then held
            else value)) := by
  obtain ⟨hevent, hheld, hne⟩ := change_eq_some_iff.mp hchange
  have htracked : (validator.tracked world message).numericValueStates objectID = _ :=
    numericValueStates_tracked hevent
  rw [answer, hevent, Option.bind_some]
  cases trackerFirst with
  | false =>
    rw [if_neg Bool.false_ne_true, if_neg fun h => Bool.false_ne_true h.1,
      StateTracker.processNumericValueChangeEvent, hheld]
    exact if_neg hne
  | true =>
    rw [if_pos rfl, StateTracker.processNumericValueChangeEvent, htracked, hheld,
      Option.map_some]
    by_cases htakes : validator.TrackerTakes world message
    · rw [if_pos htakes, if_pos ⟨rfl, htakes⟩]
      exact if_pos rfl
    · rw [if_neg htakes, if_neg fun h => htakes h.2]
      exact if_neg hne

theorem target_eq_iff (hne : held ≠ value) :
    ((if validator.callback.any fun validate => validate objectID value then held else value) =
        if validator.accepts objectID value then value else held) ↔
      validator.callback = none := by
  rw [accepts]
  cases validator.callback with
  | none => exact iff_of_true rfl rfl
  | some validate =>
    apply iff_of_false _ (Option.some_ne_none validate)
    rw [Option.any_some, Option.all_some]
    cases validate objectID value with
    | true => exact hne
    | false => exact hne.symm

theorem answersAsDocumented_iff (input : ValidatorInput) :
    validator.AnswersAsDocumented input ↔ validator.Unasked input := by
  classical
  cases input with
  | setCallbackValidateNumericValue callback => exact Iff.rfl
  | setNumericValue objectId value queued => exact Iff.rfl
  | message world message trackerFirst =>
    change (validator.answer world message trackerFirst).toList = _ ↔ _
    rw [Unasked]
    cases hchange : validator.change message with
    | none =>
      rw [answer_of_no_change hchange]
      exact iff_of_true rfl fun h => absurd h Bool.false_ne_true
    | some change =>
      obtain ⟨objectID, held, value⟩ := change
      obtain ⟨-, -, hne⟩ := change_eq_some_iff.mp hchange
      rw [answer_of_change hchange, imp_iff_right Option.isSome_some]
      by_cases hsilent : trackerFirst = true ∧ validator.TrackerTakes world message
      · rw [if_pos hsilent]
        exact iff_of_false (List.cons_ne_nil _ _).symm fun h => h.2 hsilent.1 hsilent.2
      · rw [if_neg hsilent, Option.map_some, Option.toList_some, Option.toList_some,
          List.cons.injEq, and_iff_left rfl, HelperCommand.changeNumericValue.injEq,
          and_iff_right rfl, target_eq_iff hne]
        exact (and_iff_left (not_and.mp hsilent)).symm

/-- The helper answers as documented along a run exactly if it never comes to ask. -/
theorem answersAsDocumented_along_iff (validator : Validator) (inputs : List ValidatorInput) :
    serve.Along AnswersAsDocumented validator inputs ↔ serve.Along Unasked validator inputs :=
  serve.along_iff_of_kept (P := fun _ => True) (fun _ input _ => answersAsDocumented_iff input)
    (fun _ _ _ _ => trivial) trivial inputs

def changeMessage (objectID : UInt16) (value : UInt32) : CANMessage where
  identifier := .ofFields .extended VirtualTerminalToECU 6 0x80 0x26
  data := [VTChangeNumericValueMessage] ++ idBytes objectID ++ [0xFF] ++ valueBytes value
  source := some 1
  destination := some 0
  canPortIndex := 0
  timestampUs := 0

/-- A change from five to seven that the callback accepts is answered by five. -/
theorem acceptedChange_not_asDocumented :
    ¬serve.Along AnswersAsDocumented
      { tracker :=
          { client := some 0
            server := some 1
            numericValueStates := Function.update (fun _ => none) 100 (some 5) }
        partner := 1
        callback := some fun _ _ => true }
      [.message (fun _ => ⟨.external, 0, 0x26, 0⟩) (changeMessage 100 7) false] := by
  rintro ⟨h, -⟩
  revert h
  rw [AnswersAsDocumented]
  decide +kernel

end Validator

end Isobus.VirtualTerminalClient
