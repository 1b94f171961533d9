import Isobus.Lib.Machine
import Isobus.VirtualTerminalClient.UpdateHelper

namespace Isobus.VirtualTerminalClient

open Isobus.Can Isobus.Lib Isobus.VirtualTerminal

namespace StateTracker

variable {tracker tracker' tracker'' : StateTracker}

def masks (tracker : StateTracker) : UInt16 × List UInt16 × Nat :=
  (tracker.activeDataOrAlarmMask, tracker.dataAndAlarmMaskHistory,
    tracker.maxDataAndAlarmMaskHistorySize)

theorem masks_cacheActiveMask (maskId : UInt16) :
    (tracker.cacheActiveMask maskId).masks =
      if tracker.activeDataOrAlarmMask = maskId then tracker.masks
      else if tracker.activeDataOrAlarmMask = NULL_OBJECT_ID then
        (maskId, tracker.dataAndAlarmMaskHistory, tracker.maxDataAndAlarmMaskHistorySize)
      else (maskId, tracker.pushMask.dataAndAlarmMaskHistory,
        tracker.maxDataAndAlarmMaskHistorySize) := by
  by_cases hsame : tracker.activeDataOrAlarmMask = maskId
  · rw [cacheActiveMask, if_neg (not_not.mpr hsame), if_pos hsame]
  · rw [cacheActiveMask, if_pos hsame, if_neg hsame]
    by_cases hnull : tracker.activeDataOrAlarmMask = NULL_OBJECT_ID
    · rw [if_pos hnull, masks, if_neg (not_not.mpr hnull)]
    · rw [if_neg hnull, masks, if_pos hnull]
      rfl

theorem masks_cacheActiveMask_congr (h : tracker'.masks = tracker.masks) (maskId : UInt16) :
    (tracker'.cacheActiveMask maskId).masks = (tracker.cacheActiveMask maskId).masks := by
  have hfields := h
  simp only [masks, Prod.mk.injEq] at hfields
  obtain ⟨hactive, hhistory, hmax⟩ := hfields
  rw [masks_cacheActiveMask, masks_cacheActiveMask, pushMask, pushMask, h, hactive, hhistory, hmax]

theorem cacheActiveMask_self :
    tracker.cacheActiveMask tracker.activeDataOrAlarmMask = tracker :=
  if_neg fun h => h rfl

def Caches (tracker tracker' : StateTracker) : Prop :=
  ∃ maskId, tracker'.masks = (tracker.cacheActiveMask maskId).masks

theorem Caches.of_masks (h : tracker'.masks = tracker.masks) : Caches tracker tracker' :=
  ⟨tracker.activeDataOrAlarmMask, by rw [cacheActiveMask_self, h]⟩

theorem Caches.cacheActiveMask (h : tracker'.masks = tracker.masks) (maskId : UInt16) :
    Caches tracker (tracker'.cacheActiveMask maskId) :=
  ⟨maskId, masks_cacheActiveMask_congr h maskId⟩

theorem Caches.trans_masks (h : Caches tracker tracker')
    (hmasks : tracker''.masks = tracker'.masks) : Caches tracker tracker'' :=
  h.imp fun _ hcached => hmasks.trans hcached

theorem Caches.orThrow {α : Type} {read : Option α} {handle : α → Handled}
    (h : Caches tracker tracker') (hhandle : ∀ value, Caches tracker (handle value).tracker) :
    Caches tracker (tracker'.orThrow read handle).tracker := by
  cases read with
  | none => exact h
  | some value => exact hhandle value

theorem masks_cacheSoftKeyMask (maskId softKeyMaskId : UInt16) :
    (tracker.cacheSoftKeyMask maskId softKeyMaskId).masks = tracker.masks := by
  rw [cacheSoftKeyMask]
  split_ifs <;> rfl

theorem masks_cacheNumericValue (objectId : UInt16) (value : UInt32) :
    (tracker.cacheNumericValue objectId value).masks = tracker.masks := by
  rw [cacheNumericValue]
  split_ifs <;> rfl

variable (world : World) (message : CANMessage)

theorem caches_processStatusMessage :
    Caches tracker (tracker.processStatusMessage world message) := by
  simp only [processStatusMessage]
  split_ifs
  · apply Caches.trans_masks _ (masks_cacheSoftKeyMask _ _)
    apply Caches.cacheActiveMask
    rfl
  · exact .of_masks rfl
  · exact .of_masks rfl

theorem caches_processConnectedStatus :
    Caches tracker (tracker.processConnectedStatus world message).tracker := by
  simp only [processConnectedStatus]
  apply Caches.orThrow
  · exact .of_masks rfl
  intro address
  split_ifs
  · apply Caches.orThrow
    · exact .of_masks rfl
    intro maskId
    split_ifs
    · apply Caches.orThrow
      · apply Caches.cacheActiveMask
        rfl
      · intro softKeyMask
        refine Caches.trans_masks ?_ rfl
        apply Caches.cacheActiveMask
        rfl
    · apply Caches.cacheActiveMask
      rfl
  · exact .of_masks rfl

theorem caches_processChangeActiveMaskResponse :
    Caches tracker (tracker.processChangeActiveMaskResponse message).tracker := by
  apply Caches.orThrow (.of_masks rfl)
  intro errorCode
  dsimp only
  split_ifs
  · exact .cacheActiveMask rfl _
  · exact .of_masks rfl

theorem caches_processChangeSoftKeyMaskResponse :
    Caches tracker (tracker.processChangeSoftKeyMaskResponse message).tracker := by
  apply Caches.orThrow (.of_masks rfl)
  intro errorCode
  split_ifs
  · apply Caches.orThrow (.of_masks rfl)
    intro softKeyMask
    exact .of_masks (masks_cacheSoftKeyMask _ _)
  · exact .of_masks rfl

theorem caches_processChangeAttributeResponse :
    Caches tracker (tracker.processChangeAttributeResponse message).tracker := by
  rw [processChangeAttributeResponse]
  split_ifs
  · split
    · apply Caches.orThrow (.of_masks rfl)
      intro pending
      split_ifs
      · apply Caches.orThrow (.of_masks rfl)
        intro value
        exact .of_masks rfl
      · exact .of_masks rfl
    · exact .of_masks rfl
  · exact .of_masks rfl

theorem caches_processMessageFromConnectedServer :
    Caches tracker (tracker.processMessageFromConnectedServer world message).tracker := by
  simp only [processMessageFromConnectedServer]
  split_ifs
  · exact caches_processConnectedStatus world message
  · exact caches_processChangeActiveMaskResponse message
  · exact caches_processChangeSoftKeyMaskResponse message
  · rw [processChangeNumericValueResponse]
    split_ifs
    · exact .of_masks (masks_cacheNumericValue _ _)
    · exact .of_masks rfl
  · rw [processNumericValueChange]
    split_ifs
    · exact .of_masks (masks_cacheNumericValue _ _)
    · exact .of_masks rfl
  · exact caches_processChangeAttributeResponse message
  · exact .of_masks rfl

theorem masks_processMessageToConnectedServer :
    (tracker.processMessageToConnectedServer message).masks = tracker.masks := by
  rw [processMessageToConnectedServer]
  split_ifs
  · cases message.source <;> rfl
  · rfl

theorem caches_processRxOrTxMessage :
    Caches tracker (tracker.processRxOrTxMessage world message).tracker := by
  rw [processRxOrTxMessage]
  by_cases hvalid : message.hasValidSourceControlFunction world ∧ message.data ≠ []
  · rw [if_pos hvalid]
    cases hbroadcast : message.isBroadcast world with
    | true =>
      simp only [Bool.not_true, Bool.false_eq_true, false_and, and_false, if_false]
      split_ifs
      · exact caches_processStatusMessage world message
      · exact .of_masks rfl
    | false =>
      simp only [Bool.false_eq_true, false_and, if_false]
      split_ifs
      · exact caches_processMessageFromConnectedServer world message
      · exact .of_masks (masks_processMessageToConnectedServer message)
      · exact .of_masks rfl
  · rw [if_neg hvalid]
    exact .of_masks rfl

end StateTracker

/-- What reaches a helper: a message, or a call that changes the maximum or the active mask. -/
inductive MaskCall
  | processRxOrTxMessage (world : World) (message : CANMessage)
  | setMaxMaskHistorySize (size : Nat)
  | setActiveDataOrAlarmMask (workingSetId dataOrAlarmMaskId : UInt16) (queued : Bool)

def MaskCall.apply (tracker : StateTracker) : MaskCall → StateTracker
  | processRxOrTxMessage world message => (tracker.processRxOrTxMessage world message).tracker
  | setMaxMaskHistorySize size => tracker.setMaxMaskHistorySize size
  | setActiveDataOrAlarmMask workingSetId dataOrAlarmMaskId queued =>
    (tracker.setActiveDataOrAlarmMask (fun _ => queued) workingSetId dataOrAlarmMaskId).tracker

/-- A tracker with all masks that were active before the current one, newest first. -/
structure MaskRecord where
  tracker : StateTracker
  previous : List UInt16 := []

namespace MaskRecord

variable (record : MaskRecord)

def moveOn (tracker' : StateTracker) : MaskRecord where
  tracker := tracker'
  previous :=
    if tracker'.activeDataOrAlarmMask = record.tracker.activeDataOrAlarmMask ∨
        record.tracker.activeDataOrAlarmMask = NULL_OBJECT_ID then record.previous
    else record.tracker.activeDataOrAlarmMask :: record.previous

def follow : Machine MaskRecord MaskCall Unit where
  step record call := (record.moveOn (call.apply record.tracker), [])

/-- The history is the list of previous masks, as far as the maximum allows. -/
def Kept : Prop :=
  record.tracker.dataAndAlarmMaskHistory =
    record.previous.take record.tracker.maxDataAndAlarmMaskHistorySize

def KeepsHistory (call : MaskCall) : Prop :=
  let after := follow.next record call
  after.Kept ∧
    after.tracker.dataAndAlarmMaskHistory.length ≤ after.tracker.maxDataAndAlarmMaskHistorySize

/-- The maximum neither cuts off what is there nor asks for what is gone, and the helper changes the
mask only where the history stays. -/
def Harmless : MaskCall → Prop
  | .processRxOrTxMessage _ _ => True
  | .setMaxMaskHistorySize size =>
    size = record.tracker.maxDataAndAlarmMaskHistorySize ∨
      record.previous.length ≤ min size record.tracker.maxDataAndAlarmMaskHistorySize
  | .setActiveDataOrAlarmMask _ dataOrAlarmMaskId queued =>
    record.tracker.client.isSome → queued = true →
      record.tracker.activeDataOrAlarmMask ≠ dataOrAlarmMaskId →
        record.tracker.activeDataOrAlarmMask = NULL_OBJECT_ID ∨
          record.tracker.dataAndAlarmMaskHistory =
            List.replicate record.tracker.maxDataAndAlarmMaskHistorySize
              record.tracker.activeDataOrAlarmMask

variable {record}

theorem take_cons_eq_iff {α : Type} (a : α) (l : List α) (n : Nat) :
    (a :: l).take n = l.take n ↔ l.take n = List.replicate n a := by
  induction n generalizing a l with
  | zero => exact iff_of_true rfl rfl
  | succ n ih =>
    cases l with
    | nil => exact iff_of_false (List.cons_ne_nil a _) (List.cons_ne_nil a _).symm
    | cons b l =>
      rw [List.take_succ_cons, List.take_succ_cons, List.replicate_succ, List.cons.injEq,
        List.cons.injEq]
      constructor
      · rintro ⟨rfl, hrest⟩
        exact ⟨rfl, (ih a l).mp hrest⟩
      · rintro ⟨rfl, hrest⟩
        exact ⟨rfl, (ih b l).mpr hrest⟩

theorem keepsHistory_iff (call : MaskCall) :
    record.KeepsHistory call ↔ (follow.next record call).Kept := by
  apply and_iff_left_of_imp
  intro hhistory
  rw [hhistory]
  exact List.length_take_le _ _

theorem take_cons_take {α : Type} (a : α) (l : List α) (n : Nat) :
    (a :: l.take n).take n = (a :: l).take n := by
  cases n with
  | zero => rfl
  | succ n => rw [List.take_succ_cons, List.take_succ_cons, List.take_take, min_eq_left n.le_succ]

theorem history_pushMask (h : record.Kept) :
    record.tracker.pushMask.dataAndAlarmMaskHistory =
      (record.tracker.activeDataOrAlarmMask :: record.previous).take
        record.tracker.maxDataAndAlarmMaskHistorySize := by
  rw [Kept] at h
  rw [StateTracker.pushMask, h, ← take_cons_take]
  dsimp only
  split_ifs with hlong
  · -- The history was full, so it is one mask too long now.
    rw [List.dropLast_eq_take]
    apply congrArg (List.take · _)
    rw [List.length_cons, List.length_take] at hlong ⊢
    omega
  · exact (List.take_of_length_le (not_lt.mp hlong)).symm

theorem kept_moveOn_of_caches (h : record.Kept) {tracker' : StateTracker}
    (hcaches : StateTracker.Caches record.tracker tracker') : (record.moveOn tracker').Kept := by
  obtain ⟨maskId, hmasks⟩ := hcaches
  rw [StateTracker.masks_cacheActiveMask] at hmasks
  simp only [Kept, moveOn]
  split_ifs at hmasks with hsame hnull
  · simp only [StateTracker.masks, Prod.mk.injEq] at hmasks
    rw [if_pos (.inl hmasks.1), hmasks.2.1, hmasks.2.2]
    exact h
  · simp only [StateTracker.masks, Prod.mk.injEq] at hmasks
    rw [if_pos (.inr hnull), hmasks.2.1, hmasks.2.2]
    exact h
  · simp only [StateTracker.masks, Prod.mk.injEq] at hmasks
    rw [hmasks.1, if_neg, hmasks.2.1, hmasks.2.2]
    · exact history_pushMask h
    · rintro (heq | heq)
      · exact hsame heq.symm
      · exact hnull heq

theorem kept_setMaxMaskHistorySize_iff (h : record.Kept) (size : Nat) :
    (record.moveOn (record.tracker.setMaxMaskHistorySize size)).Kept ↔
      record.Harmless (.setMaxMaskHistorySize size) := by
  rw [Kept] at h
  have hprevious :
      (record.moveOn (record.tracker.setMaxMaskHistorySize size)).previous = record.previous :=
    if_pos (.inl rfl)
  rw [Kept, hprevious, Harmless]
  change record.tracker.dataAndAlarmMaskHistory = record.previous.take size ↔ _
  rw [h, List.take_eq_take_iff]
  omega

theorem kept_setActiveDataOrAlarmMask_iff (h : record.Kept)
    (workingSetId dataOrAlarmMaskId : UInt16) (queued : Bool) :
    (record.moveOn (record.tracker.setActiveDataOrAlarmMask (fun _ => queued) workingSetId
        dataOrAlarmMaskId).tracker).Kept ↔
      record.Harmless (.setActiveDataOrAlarmMask workingSetId dataOrAlarmMaskId queued) := by
  have hstays : (record.moveOn record.tracker).Kept := by
    rw [Kept, moveOn, if_pos (.inl rfl)]
    exact h
  rw [StateTracker.setActiveDataOrAlarmMask, StateTracker.tracker_change, Harmless]
  split_ifs with hchanges
  · obtain ⟨hclient, -, hother, hqueued⟩ := hchanges
    have hne : record.tracker.activeDataOrAlarmMask ≠ dataOrAlarmMaskId :=
      fun heq => hother (congrArg some heq)
    rw [imp_iff_right hclient, imp_iff_right hqueued, imp_iff_right hne, Kept, moveOn]
    by_cases hnull : record.tracker.activeDataOrAlarmMask = NULL_OBJECT_ID
    · rw [if_pos (.inr hnull)]
      exact iff_of_true h (.inl hnull)
    · rw [if_neg, or_iff_right hnull]
      · -- The history misses the mask that was active.
        change record.tracker.dataAndAlarmMaskHistory = _ ↔ _
        rw [Kept] at h
        rw [h, eq_comm, take_cons_eq_iff]
      · rintro (heq | heq)
        · exact hne heq.symm
        · exact hnull heq
  · apply iff_of_true hstays
    intro hclient hqueued hne
    exact absurd ⟨hclient, rfl, fun heq => hne (Option.some_inj.mp heq), hqueued⟩ hchanges

theorem keepsHistory_iff_harmless (h : record.Kept) (call : MaskCall) :
    record.KeepsHistory call ↔ record.Harmless call := by
  rw [keepsHistory_iff]
  cases call with
  | processRxOrTxMessage world message =>
    exact iff_of_true
      (kept_moveOn_of_caches h (StateTracker.caches_processRxOrTxMessage world message)) trivial
  | setMaxMaskHistorySize size => exact kept_setMaxMaskHistorySize_iff h size
  | setActiveDataOrAlarmMask workingSetId dataOrAlarmMaskId queued =>
    exact kept_setActiveDataOrAlarmMask_iff h workingSetId dataOrAlarmMaskId queued

/-- The history is kept along a run exactly if every call is harmless. -/
theorem keepsHistory_along_iff (client : Option CFRef)
    (numericValueStates : UInt16 → Option UInt32) (softKeyMasks : UInt16 → Option UInt16)
    (attributeStates : UInt16 → UInt8 → Option UInt32) (calls : List MaskCall) :
    follow.Along KeepsHistory
        ⟨{ client := client, numericValueStates := numericValueStates,
           softKeyMasks := softKeyMasks, attributeStates := attributeStates }, []⟩ calls ↔
      follow.Along Harmless
        ⟨{ client := client, numericValueStates := numericValueStates,
           softKeyMasks := softKeyMasks, attributeStates := attributeStates }, []⟩ calls := by
  apply follow.along_iff_of_kept (P := Kept)
  · exact fun _ call h => keepsHistory_iff_harmless h call
  · exact fun _ _ _ hkeeps => hkeeps.1
  · rfl

/-- A status that tells that this mask is active. -/
def statusMessage (maskId : UInt16) : CANMessage where
  identifier := .ofFields .extended VirtualTerminalToECU 6 BROADCAST_CAN_ADDRESS 0x26
  data := [VTStatusMessage, 0x80] ++ idBytes maskId ++ [0xFF, 0xFF, 0xFF, 0xFF]
  source := some 1
  destination := none
  canPortIndex := 0
  timestampUs := 0

/-- The client and the terminal. -/
def twoOnTheBus : World := fun controlFunction =>
  if controlFunction = 0 then ⟨.internal, 0, 0x80, 0⟩ else ⟨.partnered, 0, 0x26, 0⟩

/-- A helper that changes from a mask that the terminal told to another one. -/
theorem ownMask_not_kept :
    ¬follow.Along KeepsHistory ⟨{ client := some 0 }, []⟩
      [.processRxOrTxMessage twoOnTheBus (statusMessage 1000),
        .setActiveDataOrAlarmMask 1 2000 true] := by
  rintro ⟨-, ⟨h, -⟩, -⟩
  revert h
  rw [Kept]
  decide +kernel

end MaskRecord

end Isobus.VirtualTerminalClient
