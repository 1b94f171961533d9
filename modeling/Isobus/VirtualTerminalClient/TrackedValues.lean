import Isobus.VirtualTerminalClient.UpdateSession

namespace Isobus.VirtualTerminalClient

open Isobus.Can Isobus.Lib Isobus.VirtualTerminal

theorem shownValue_injective : Function.Injective shownValue := by
  intro shown shown' h
  cases shown <;> cases shown'
  · rfl
  · cases h
  · cases h
  · rfl

theorem toUInt32_injective : Function.Injective UInt16.toUInt32 := fun _ _ h =>
  UInt16.toUInt32_inj.mp h

namespace StateTracker

variable {tracker : StateTracker} {queue : HelperCommand → Bool}

theorem value_storeShown (objectId : UInt16) (shown : Bool) :
    (tracker.storeShown objectId shown).value =
      Function.update tracker.value (.shown objectId) (some (shownValue shown)) := by
  funext item
  by_cases h : item = .shown objectId
  · rw [h, Function.update_self]
    simp [storeShown, value]
  · rw [Function.update_of_ne h]
    cases item with
    | shown other =>
      have hne : other ≠ objectId := fun heq => h (congrArg Item.shown heq)
      simp [storeShown, value, Function.update_of_ne hne]
    | numericValue other => rfl
    | activeMask => rfl
    | softKeyMask other => rfl
    | attributeValue other attributeID => rfl

theorem value_storeNumericValue (objectId : UInt16) (newValue : UInt32) :
    (tracker.storeNumericValue objectId newValue).value =
      Function.update tracker.value (.numericValue objectId) (some newValue) := by
  funext item
  by_cases h : item = .numericValue objectId
  · rw [h, Function.update_self]
    simp [storeNumericValue, value]
  · rw [Function.update_of_ne h]
    cases item with
    | shown other => rfl
    | numericValue other =>
      have hne : other ≠ objectId := fun heq => h (congrArg Item.numericValue heq)
      simp [storeNumericValue, value, Function.update_of_ne hne]
    | activeMask => rfl
    | softKeyMask other => rfl
    | attributeValue other attributeID => rfl

theorem value_storeSoftKeyMask (maskId softKeyMaskId : UInt16) :
    (tracker.storeSoftKeyMask maskId softKeyMaskId).value =
      Function.update tracker.value (.softKeyMask maskId) (some softKeyMaskId.toUInt32) := by
  funext item
  by_cases h : item = .softKeyMask maskId
  · rw [h, Function.update_self]
    simp [storeSoftKeyMask, value]
  · rw [Function.update_of_ne h]
    cases item with
    | shown other => rfl
    | numericValue other => rfl
    | activeMask => rfl
    | softKeyMask other =>
      have hne : other ≠ maskId := fun heq => h (congrArg Item.softKeyMask heq)
      simp [storeSoftKeyMask, value, Function.update_of_ne hne]
    | attributeValue other attributeID => rfl

theorem value_storeAttribute (objectId : UInt16) (attributeID : UInt8) (newValue : UInt32) :
    (tracker.storeAttribute objectId attributeID newValue).value =
      Function.update tracker.value (.attributeValue objectId attributeID) (some newValue) := by
  funext item
  by_cases h : item = .attributeValue objectId attributeID
  · rw [h, Function.update_self]
    simp [storeAttribute, value]
  · rw [Function.update_of_ne h]
    cases item with
    | shown other => rfl
    | numericValue other => rfl
    | activeMask => rfl
    | softKeyMask other => rfl
    | attributeValue other otherID =>
      by_cases hobject : other = objectId
      · have hne : otherID ≠ attributeID := fun heq => h (by rw [hobject, heq])
        simp [storeAttribute, value, hobject, Function.update_of_ne hne]
      · simp [storeAttribute, value, Function.update_of_ne hobject]

theorem value_activeDataOrAlarmMask (maskId : UInt16) (history : List UInt16) :
    { tracker with activeDataOrAlarmMask := maskId, dataAndAlarmMaskHistory := history }.value =
      Function.update tracker.value .activeMask (some maskId.toUInt32) := by
  funext item
  cases item with
  | shown other => rfl
  | numericValue other => rfl
  | activeMask => rfl
  | softKeyMask other => rfl
  | attributeValue other attributeID => rfl

/-- Nothing is known of the item, it has the value, or the value is stored if the client accepts the
command. -/
inductive SetOutcome (tracker : StateTracker) (queue : HelperCommand → Bool)
    (command : HelperCommand) : Called → Prop
  | untracked (h : tracker.value command.item = none) :
      SetOutcome tracker queue command { tracker := tracker, retVal := false }
  | suppressed (h : tracker.value command.item = some command.value) :
      SetOutcome tracker queue command { tracker := tracker, retVal := true }
  | given (stored : StateTracker) (hsome : (tracker.value command.item).isSome)
      (hne : tracker.value command.item ≠ some command.value)
      (hvalue : stored.value =
        Function.update tracker.value command.item (some command.value))
      (hclient : stored.client = tracker.client) (hserver : stored.server = tracker.server) :
      SetOutcome tracker queue command
        { tracker := if queue command then stored else tracker
          retVal := queue command
          command := some command }

theorem setOutcome_change {α : Type} [DecidableEq α] {encode : α → UInt32}
    (hencode : Function.Injective encode) {held : Option α} {newValue : α} {command : HelperCommand}
    {stored : StateTracker}
    (hheld : tracker.value command.item = held.map encode) (hnew : command.value = encode newValue)
    (hvalue : stored.value =
      Function.update tracker.value command.item (some command.value))
    (hclient : stored.client = tracker.client) (hserver : stored.server = tracker.server)
    (hsome : tracker.client.isSome) :
    tracker.SetOutcome queue command (tracker.change queue held newValue command stored) := by
  have hknown : tracker.client ≠ none := Option.isSome_iff_ne_none.mp hsome
  rw [change, if_neg hknown]
  by_cases hnone : held = none
  · rw [if_pos hnone]
    rw [hnone, Option.map_none] at hheld
    exact .untracked hheld
  · rw [if_neg hnone]
    by_cases hsame : held = some newValue
    · rw [if_pos hsame]
      rw [hsame, Option.map_some, ← hnew] at hheld
      exact .suppressed hheld
    · rw [if_neg hsame]
      apply SetOutcome.given stored _ _ hvalue hclient hserver
      · rw [hheld, Option.isSome_map]
        exact Option.isSome_iff_ne_none.mpr hnone
      · rw [hheld, hnew, ← Option.map_some]
        exact fun heq => hsame (Option.map_injective hencode heq)

theorem setOutcome_set (hsome : tracker.client.isSome) (command : HelperCommand) :
    tracker.SetOutcome queue command (tracker.set queue command) := by
  cases command with
  | hideShowObject objectId shown =>
    exact setOutcome_change shownValue_injective rfl rfl (value_storeShown objectId shown) rfl rfl
      hsome
  | changeNumericValue objectId newValue =>
    have hheld : tracker.value (.numericValue objectId) =
        (tracker.numericValueStates objectId).map id := Option.map_id'.symm
    exact setOutcome_change Function.injective_id hheld rfl
      (value_storeNumericValue objectId newValue) rfl rfl hsome
  | changeActiveMask workingSetId newActiveMaskId =>
    exact setOutcome_change toUInt32_injective rfl rfl
      (value_activeDataOrAlarmMask newActiveMaskId tracker.dataAndAlarmMaskHistory) rfl rfl hsome
  | changeSoftkeyMask maskType maskId newSoftKeyMaskId =>
    exact setOutcome_change toUInt32_injective rfl rfl
      (value_storeSoftKeyMask maskId newSoftKeyMaskId) rfl rfl hsome
  | changeAttribute objectId attributeID newValue =>
    have hheld : tracker.value (.attributeValue objectId attributeID) =
        (tracker.attributeStates objectId attributeID).map id := Option.map_id'.symm
    exact setOutcome_change Function.injective_id hheld rfl
      (value_storeAttribute objectId attributeID newValue) rfl rfl hsome

end StateTracker

/-- The tracker takes messages that come from a valid address and go to one. -/
def Bus.hears (bus : Bus) : Bool :=
  (bus.world bus.terminal).getAddressValid && (bus.world bus.client).getAddressValid

/-- The value of an item is told again in the answer to its command, where it is read. -/
def Item.toldAgain : Item → Bool
  | numericValue _ => true
  | activeMask => true
  | _ => false

def Bus.confirms (bus : Bus) (item : Item) : Bool := bus.hears && item.toldAgain

/-- The tracker looks for the error code where the first byte of a soft key mask is. -/
def HelperCommand.NotMisread : HelperCommand → Prop
  | changeSoftkeyMask _ _ newSoftKeyMaskId => byteOf newSoftKeyMaskId.toUInt32 0 ≠ 0
  | _ => True

def Bus.learned (bus : Bus) (values : Item → Option UInt32) (answer : Answer) :
    Item → Option UInt32 :=
  if bus.confirms answer.command.item ∧ answer.reply = .errorCode 0 ∧
      (values answer.command.item).isSome then
    Function.update values answer.command.item (some answer.command.value)
  else values

variable {bus : Bus} {tracker : StateTracker} {answer : Answer}

theorem getParameterGroupNumber_message :
    (answer.message bus).identifier.getParameterGroupNumber = VirtualTerminalToECU :=
  CANIdentifier.getParameterGroupNumber_ofFields _ _ _ _ (by decide) (by decide) (by decide)

theorem head_data_ne_status : (answer.message bus).getUint8At 0 ≠ VTStatusMessage := by
  obtain ⟨command, reply⟩ := answer
  cases reply with
  | unsupportedFunction => exact (by decide : (0xFD : UInt8) ≠ 0xFE)
  | errorCode code =>
    cases command with
    | hideShowObject objectId shown => exact (by decide : (0xA0 : UInt8) ≠ 0xFE)
    | changeNumericValue objectId value => exact (by decide : (0xA8 : UInt8) ≠ 0xFE)
    | changeActiveMask workingSetId maskId => exact (by decide : (0xAD : UInt8) ≠ 0xFE)
    | changeSoftkeyMask maskType maskId softKeyMaskId =>
      exact (by decide : (0xAE : UInt8) ≠ 0xFE)
    | changeAttribute objectId attributeID value => exact (by decide : (0xAF : UInt8) ≠ 0xFE)

theorem length_data : (answer.message bus).data.length = CAN_DATA_LENGTH := by
  obtain ⟨command, reply⟩ := answer
  cases reply with
  | unsupportedFunction => rfl
  | errorCode code => cases command <;> rfl

theorem processRxOrTxMessage_message (hserver : tracker.server = some bus.terminal) :
    tracker.processRxOrTxMessage bus.world (answer.message bus) =
      if bus.hears then
        tracker.processMessageFromConnectedServer bus.world (answer.message bus)
      else { tracker := tracker } := by
  have hdata : (answer.message bus).data ≠ [] :=
    List.ne_nil_of_length_pos (length_data.symm ▸ by decide)
  have hclients : VirtualTerminalToECU ≠ ECUtoVirtualTerminal := by decide
  have hsource : (answer.message bus).hasValidSourceControlFunction bus.world =
      (bus.world bus.terminal).getAddressValid := rfl
  have hbroadcast : (answer.message bus).isBroadcast bus.world =
      !(bus.world bus.client).getAddressValid := by
    have hvalid : (bus.world bus.client).getAddressValid = true →
        (bus.world bus.client).address ≠ BROADCAST_CAN_ADDRESS := by
      intro h
      rw [ControlFunction.getAddressValid, Bool.and_eq_true, decide_eq_true_iff] at h
      exact h.1
    simp only [CANMessage.isBroadcast, CANMessage.hasValidDestinationControlFunction,
      Answer.message, Option.any_some]
    cases hclient : (bus.world bus.client).getAddressValid with
    | false => rfl
    | true => exact decide_eq_false (hvalid hclient)
  have hserver' : (answer.message bus).source = tracker.server := hserver.symm
  rw [StateTracker.processRxOrTxMessage, Bus.hears]
  by_cases hvalid : (bus.world bus.terminal).getAddressValid = true
  · rw [if_pos ⟨hsource.trans hvalid, hdata⟩]
    simp only [getParameterGroupNumber_message, head_data_ne_status, hclients, and_false, if_false,
      hserver', hbroadcast, hvalid, Bool.not_not, true_and, and_true, Bool.true_and]
  · have hnot : ¬((answer.message bus).hasValidSourceControlFunction bus.world = true ∧
        (answer.message bus).data ≠ []) := fun h => hvalid h.1
    rw [if_neg hnot, if_neg fun h => hvalid (Bool.and_eq_true_iff.mp h).1]

/-- The values are these, and the client and the terminal are known as before. -/
structure StateTracker.Keeps (tracker : StateTracker) (values : Item → Option UInt32)
    (tracker' : StateTracker) : Prop where
  value : tracker'.value = values
  client : tracker'.client = tracker.client
  server : tracker'.server = tracker.server

theorem StateTracker.Keeps.refl : tracker.Keeps tracker.value tracker := ⟨rfl, rfl, rfl⟩

theorem StateTracker.Keeps.of_iff {p q : Prop} [Decidable p] [Decidable q]
    {values values' : Item → Option UInt32} {tracker' : StateTracker}
    (h : tracker.Keeps (if p then values else values') tracker') (hiff : p ↔ q) :
    tracker.Keeps (if q then values else values') tracker' :=
  ⟨h.value.trans (if_congr hiff rfl rfl), h.client, h.server⟩

theorem keeps_cacheActiveMask (maskId : UInt16) :
    tracker.Keeps (Function.update tracker.value .activeMask (some maskId.toUInt32))
      (tracker.cacheActiveMask maskId) := by
  rw [StateTracker.cacheActiveMask]
  by_cases hsame : tracker.activeDataOrAlarmMask = maskId
  · rw [if_neg (not_not.mpr hsame)]
    refine ⟨?_, rfl, rfl⟩
    rw [← hsame]
    exact (Function.update_eq_self Item.activeMask tracker.value).symm
  · rw [if_pos hsame]
    dsimp only
    split_ifs
    · exact ⟨StateTracker.value_activeDataOrAlarmMask maskId _, rfl, rfl⟩
    · exact ⟨StateTracker.value_activeDataOrAlarmMask maskId _, rfl, rfl⟩

variable {world : World} {message : CANMessage}

theorem keeps_processMessageFromConnectedServer_numericValue (objectId : UInt16)
    (newValue : UInt32) (code : UInt8)
    (h : message.data = Server.sendChangeNumericValueResponse objectId newValue code) :
    tracker.Keeps
      (if code = 0 ∧ (tracker.value (.numericValue objectId)).isSome then
        Function.update tracker.value (.numericValue objectId) (some newValue)
      else tracker.value)
      (tracker.processMessageFromConnectedServer world message).tracker := by
  have hhandler : (tracker.processMessageFromConnectedServer world message).tracker =
      tracker.processChangeNumericValueResponse message := by
    simp only [StateTracker.processMessageFromConnectedServer, CANMessage.getUint8At, h]
    rfl
  have hlength : message.data.length = CAN_DATA_LENGTH := by
    rw [h]
    rfl
  have hcode : message.getUint8At 3 = code := by
    rw [CANMessage.getUint8At, h]
    rfl
  have hid : message.getUint16At 1 = objectId := by
    simp only [CANMessage.getUint16At, CANMessage.getUint8At, h]
    exact decode16_byteOf objectId
  have hvalue : message.getUint32At 4 = newValue := by
    simp only [CANMessage.getUint32At, CANMessage.getUint8At, h]
    exact decode32_byteOf newValue
  rw [hhandler, StateTracker.processChangeNumericValueResponse, hcode, hid, hvalue]
  by_cases hzero : code = 0
  · have hright : message.data.length = CAN_DATA_LENGTH ∧ code = 0 := ⟨hlength, hzero⟩
    rw [if_pos hright, StateTracker.cacheNumericValue]
    by_cases hsome : (tracker.numericValueStates objectId).isSome
    · have htaken : code = 0 ∧ (tracker.value (.numericValue objectId)).isSome := ⟨hzero, hsome⟩
      rw [if_pos hsome, if_pos htaken]
      exact ⟨StateTracker.value_storeNumericValue objectId newValue, rfl, rfl⟩
    · have hnot : ¬(code = 0 ∧ (tracker.value (.numericValue objectId)).isSome) :=
        fun hand => hsome hand.2
      rw [if_neg hsome, if_neg hnot]
      exact .refl
  · have hwrong : ¬(message.data.length = CAN_DATA_LENGTH ∧ code = 0) := fun hand => hzero hand.2
    have hnot : ¬(code = 0 ∧ (tracker.value (.numericValue objectId)).isSome) :=
      fun hand => hzero hand.1
    rw [if_neg hwrong, if_neg hnot]
    exact .refl

theorem keeps_processMessageFromConnectedServer_activeMask (maskId : UInt16) (code : UInt8)
    (h : message.data = Server.sendChangeActiveMaskResponse maskId code) :
    tracker.Keeps
      (if code = 0 then Function.update tracker.value .activeMask (some maskId.toUInt32)
      else tracker.value)
      (tracker.processMessageFromConnectedServer world message).tracker := by
  have hid : message.getUint16At 1 = maskId := by
    simp only [CANMessage.getUint16At, CANMessage.getUint8At, h]
    exact decode16_byteOf maskId
  have hhandler : (tracker.processMessageFromConnectedServer world message).tracker =
      (tracker.processChangeActiveMaskResponse message).tracker := by
    simp only [StateTracker.processMessageFromConnectedServer, CANMessage.getUint8At, h]
    rfl
  have hcode : Server.uint8At message.data 3 = some code := by
    rw [h]
    rfl
  rw [hhandler, StateTracker.processChangeActiveMaskResponse, hcode, StateTracker.orThrow, hid]
  split_ifs
  · exact keeps_cacheActiveMask maskId
  · exact .refl

theorem keeps_processMessageFromConnectedServer_softKeyMask (maskId softKeyMaskId : UInt16)
    (code : UInt8)
    (h : message.data = Server.sendChangeSoftKeyMaskResponse maskId softKeyMaskId code)
    (hread : byteOf softKeyMaskId.toUInt32 0 ≠ 0) :
    tracker.Keeps tracker.value
      (tracker.processMessageFromConnectedServer world message).tracker := by
  have hhandler : (tracker.processMessageFromConnectedServer world message).tracker =
      (tracker.processChangeSoftKeyMaskResponse message).tracker := by
    simp only [StateTracker.processMessageFromConnectedServer, CANMessage.getUint8At, h]
    rfl
  have hcode : Server.uint8At message.data 3 = some (byteOf softKeyMaskId.toUInt32 0) := by
    rw [h]
    rfl
  rw [hhandler, StateTracker.processChangeSoftKeyMaskResponse, hcode, StateTracker.orThrow]
  rw [if_neg hread]
  exact .refl

theorem keeps_processMessageFromConnectedServer_attribute (objectId : UInt16)
    (attributeID code : UInt8)
    (h : message.data = Server.sendChangeAttributeResponse objectId attributeID code) :
    tracker.Keeps tracker.value
      (tracker.processMessageFromConnectedServer world message).tracker := by
  have hhandler : (tracker.processMessageFromConnectedServer world message).tracker =
      (tracker.processChangeAttributeResponse message).tracker := by
    simp only [StateTracker.processMessageFromConnectedServer, CANMessage.getUint8At, h]
    rfl
  have hvalue : Server.uint32At message.data 5 = none := by
    rw [h]
    rfl
  rw [hhandler, StateTracker.processChangeAttributeResponse]
  split_ifs
  · split
    · cases message.source.bind tracker.pendingChangeAttributeCommands with
      | none => exact .refl
      | some pending =>
        simp only [StateTracker.orThrow, hvalue]
        split_ifs
        · exact .refl
        · exact ⟨rfl, rfl, rfl⟩
    · exact .refl
  · exact .refl

theorem keeps_processRxOrTxMessage (hserver : tracker.server = some bus.terminal)
    (hread : bus.hears = true → answer.command.NotMisread) :
    tracker.Keeps (bus.learned tracker.value answer)
      (tracker.processRxOrTxMessage bus.world (answer.message bus)).tracker := by
  rw [processRxOrTxMessage_message hserver, Bus.learned, Bus.confirms]
  cases hhears : bus.hears with
  | false =>
    have hnot : ¬((false && answer.command.item.toldAgain) = true ∧
        answer.reply = .errorCode 0 ∧ (tracker.value answer.command.item).isSome) :=
      fun hand => Bool.false_ne_true hand.1
    rw [if_neg Bool.false_ne_true, if_neg hnot]
    exact .refl
  | true =>
    rw [if_pos rfl, Bool.true_and]
    obtain ⟨command, reply⟩ := answer
    cases reply with
    | unsupportedFunction =>
      rw [if_neg fun hand => Reply.noConfusion hand.2.1]
      exact .refl
    | errorCode code =>
      simp only [Reply.errorCode.injEq]
      cases command with
      | hideShowObject objectId shown =>
        rw [if_neg fun hand => Bool.false_ne_true hand.1]
        exact .refl
      | changeNumericValue objectId newValue =>
        exact (keeps_processMessageFromConnectedServer_numericValue objectId newValue code
          rfl).of_iff (and_iff_right rfl).symm
      | changeActiveMask workingSetId maskId =>
        exact (keeps_processMessageFromConnectedServer_activeMask maskId code rfl).of_iff
          ((and_iff_right rfl).trans (and_iff_left rfl)).symm
      | changeSoftkeyMask maskType maskId softKeyMaskId =>
        rw [if_neg fun hand => Bool.false_ne_true hand.1]
        exact keeps_processMessageFromConnectedServer_softKeyMask maskId
          softKeyMaskId code rfl
          (hread hhears)
      | changeAttribute objectId attributeID newValue =>
        rw [if_neg fun hand => Bool.false_ne_true hand.1]
        exact keeps_processMessageFromConnectedServer_attribute objectId attributeID code rfl

end Isobus.VirtualTerminalClient
