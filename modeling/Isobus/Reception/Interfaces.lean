import Isobus.Guidance.Interface
import Isobus.MaintainPower.Interface
import Isobus.Nmea2000.Interface
import Isobus.Nmea2000.RoundTrip
import Isobus.Reception.ListKeeper
import Isobus.SpeedDistance.Exchange

namespace Isobus.Reception

open Isobus.Can Isobus.Lib

section Nmea2000

open Isobus.Nmea2000

def classWellFormed (kind : MessageClass) (message : CANMessage) : Bool :=
  match kind with
  | .datum => Datum.LENGTH_BYTES ≤ message.data.length
  | .gnssPositionData =>
    GNSSPositionData.MINIMUM_LENGTH_BYTES ≤ message.data.length ∧ ListsAll message
  | _ => message.data.length = CAN_DATA_LENGTH

def classRefreshes : MessageClass → Bool
  | .datum => false
  | _ => true

def classHeard? (message : CANMessage) : Option (MessageClass × CFRef) :=
  (messageClass? message.identifier.getParameterGroupNumber).bind fun kind =>
    message.source.map fun source => (kind, source)

theorem timestamp_deserializeSignals {δ : Type} [DecidableEq δ] (wellFormed : Bool)
    (timestamp : UInt32) (signals : δ) (old : Received δ) :
    (deserializeSignals wellFormed timestamp signals old).received.timestamp =
      if wellFormed then timestamp else old.timestamp := by
  cases wellFormed <;> rfl

theorem timestamp_deserialize_gnssPositionData (now : UInt32) (message : CANMessage)
    (old : Received GNSSPositionData) :
    (GNSSPositionData.deserialize now message old).received.timestamp =
      if GNSSPositionData.MINIMUM_LENGTH_BYTES ≤ message.data.length ∧ ListsAll message then now
      else old.timestamp := by
  by_cases hlong : GNSSPositionData.MINIMUM_LENGTH_BYTES ≤ message.data.length
  · by_cases hlists : ListsAll message
    · rw [GNSSPositionData.deserialize_of_listsAll now old hlong hlists, if_pos ⟨hlong, hlists⟩]
    · have hthrown := mt (GNSSPositionData.thrown_deserialize_iff now old).mp
        fun hall => hlists (hall hlong)
      rw [Bool.not_eq_false] at hthrown
      rw [if_neg fun hand => hlists hand.2]
      rw [GNSSPositionData.deserialize, if_pos hlong] at hthrown ⊢
      exact if_pos hthrown
  · rw [GNSSPositionData.deserialize_of_short now old (not_le.mp hlong),
      if_neg fun hand => hlong hand.1]

theorem timestamp_deserialize (kind : MessageClass) (now : UInt32) (message : CANMessage)
    (old : Received kind.Data) :
    (kind.deserialize now message old).received.timestamp =
      if classWellFormed kind message && classRefreshes kind then now else old.timestamp := by
  cases kind with
  | datum =>
    rw [classRefreshes, Bool.and_false, if_neg Bool.false_ne_true]
    exact (timestamp_deserializeSignals _ _ _ _).trans (ite_self _)
  | gnssPositionData =>
    simp only [classRefreshes, Bool.and_true]
    refine (timestamp_deserialize_gnssPositionData now message old).trans ?_
    simp only [classWellFormed, decide_eq_true_eq]
  | courseOverGroundSpeedOverGroundRapidUpdate =>
    simp only [classRefreshes, Bool.and_true]
    exact timestamp_deserializeSignals _ _ _ _
  | positionDeltaHighPrecisionRapidUpdate =>
    simp only [classRefreshes, Bool.and_true]
    exact timestamp_deserializeSignals _ _ _ _
  | positionRapidUpdate =>
    simp only [classRefreshes, Bool.and_true]
    exact timestamp_deserializeSignals _ _ _ _
  | rateOfTurn =>
    simp only [classRefreshes, Bool.and_true]
    exact timestamp_deserializeSignals _ _ _ _
  | vesselHeading =>
    simp only [classRefreshes, Bool.and_true]
    exact timestamp_deserializeSignals _ _ _ _

theorem processRxMessage_of_classHeard (env : Environment) {message : CANMessage}
    {interface : NMEA2000MessageInterface} {kind : MessageClass} {source : CFRef}
    (h : classHeard? message = some (kind, source)) :
    interface.processRxMessage env message = interface.receive env kind source message := by
  rw [classHeard?, Option.bind_eq_some_iff] at h
  obtain ⟨kind', hkind, hsource⟩ := h
  obtain ⟨source', hsource', hpair⟩ := Option.map_eq_some_iff.mp hsource
  cases hpair
  rw [NMEA2000MessageInterface.processRxMessage, hkind, hsource']

theorem processRxMessage_of_not_classHeard (env : Environment) {message : CANMessage}
    {interface : NMEA2000MessageInterface} (h : classHeard? message = none) :
    interface.processRxMessage env message = (interface, []) := by
  rw [NMEA2000MessageInterface.processRxMessage]
  rw [classHeard?] at h
  cases hkind : messageClass? message.identifier.getParameterGroupNumber with
  | none => rfl
  | some kind =>
    rw [hkind, Option.bind_some, Option.map_eq_none_iff] at h
    rw [h]

theorem receivedMessages_receive (env : Environment) (message : CANMessage)
    (interface : NMEA2000MessageInterface) (kind : MessageClass) (source : CFRef) :
    (interface.receive env kind source message).1.receivedMessages =
      Function.update interface.receivedMessages kind
        ((interface.receivedMessages kind).receive source kind.constructed fun _ =>
          (kind.deserialize env.now message
            ((interface.receivedMessages kind).entryOf source kind.constructed)).received) :=
  rfl

theorem stamp_receive (env : Environment) (message : CANMessage)
    (interface : NMEA2000MessageInterface) (kind : MessageClass) (source : CFRef)
    (kind' : MessageClass) (source' : CFRef) :
    ((interface.receive env kind source message).1.receivedMessages kind').stamp source' =
      if kind' = kind ∧ source' = source then
        some (if classWellFormed kind message && classRefreshes kind then env.now
          else ((interface.receivedMessages kind).stamp source).getD 0)
      else (interface.receivedMessages kind').stamp source' := by
  by_cases hkind : kind' = kind
  · subst hkind
    rw [receivedMessages_receive, Function.update_self]
    by_cases hsource : source' = source
    · subst hsource
      rw [ReceivedMessages.stamp_receive_self, timestamp_deserialize,
        ReceivedMessages.timestamp_entryOf,
        if_pos (⟨rfl, rfl⟩ : kind' = kind' ∧ source' = source')]
    · rw [ReceivedMessages.stamp_receive_ne _ _ hsource, if_neg fun hand => hsource hand.2]
  · rw [receivedMessages_receive, Function.update_of_ne hkind,
      if_neg fun hand => hkind hand.1]

def nmea2000Keeper : ListKeeper NMEA2000MessageInterface MessageClass where
  update env interface := (interface.update env).1
  processRxMessage env message interface := (interface.processRxMessage env message).1
  initialized := NMEA2000MessageInterface.initialized
  sources interface kind := (interface.receivedMessages kind).sources
  stamp interface kind source := (interface.receivedMessages kind).stamp source
  timeout kind := 3 * kind.getTimeout
  heard? := classHeard?
  wellFormed := classWellFormed
  refreshes := classRefreshes
  nodup_sources interface kind := (interface.receivedMessages kind).nodup
  mem_sources_iff interface kind source := (interface.receivedMessages kind).mem_sources_iff source
  initialized_update env interface := by
    rw [NMEA2000MessageInterface.update]
    split_ifs <;> rfl
  initialized_processRxMessage env message interface := by
    cases h : classHeard? message with
    | none => rw [processRxMessage_of_not_classHeard env h]
    | some heard =>
      rw [processRxMessage_of_classHeard env h]
      rfl
  stamp_update env interface kind source hinitialized := by
    rw [NMEA2000MessageInterface.update, if_pos hinitialized]
    exact ReceivedMessages.stamp_prune _ _ _ _
  stamp_heard env message interface kind source h := by
    rw [processRxMessage_of_classHeard env h, stamp_receive, if_pos ⟨rfl, rfl⟩]
  stamp_other env message interface kind source h := by
    cases hheard : classHeard? message with
    | none => rw [processRxMessage_of_not_classHeard env hheard]
    | some heard =>
      rw [processRxMessage_of_classHeard env hheard, stamp_receive]
      apply if_neg
      rintro ⟨rfl, rfl⟩
      exact h hheard

end Nmea2000

section SpeedDistance

open Isobus.SpeedDistance

theorem stamp_receive_speed (env : Environment) (message : CANMessage)
    (interface : SpeedMessagesInterface) (kind : SpeedMessage) (source : CFRef)
    (kind' : SpeedMessage) (source' : CFRef) :
    ((interface.receive env kind source message).1.receivedMessages kind').stamp source' =
      if kind' = kind ∧ source' = source then some env.now
      else (interface.receivedMessages kind').stamp source' := by
  rw [SpeedMessagesInterface.receive]
  dsimp only
  by_cases hkind : kind' = kind
  · subst hkind
    rw [Function.update_self]
    by_cases hsource : source' = source
    · subst hsource
      rw [ReceivedMessages.stamp_receive_self,
        if_pos (⟨rfl, rfl⟩ : kind' = kind' ∧ source' = source')]
    · rw [ReceivedMessages.stamp_receive_ne _ _ hsource, if_neg fun hand => hsource hand.2]
  · rw [Function.update_of_ne hkind, if_neg fun hand => hkind hand.1]

def speedKeeper : ListKeeper SpeedMessagesInterface SpeedMessage where
  update env interface := (interface.update env).1
  processRxMessage env message interface := (interface.processRxMessage env message).1
  initialized := SpeedMessagesInterface.initialized
  sources interface kind := (interface.receivedMessages kind).sources
  stamp interface kind source := (interface.receivedMessages kind).stamp source
  timeout _ := SPEED_DISTANCE_MESSAGE_RX_TIMEOUT_MS
  heard? := SpeedDistance.heard?
  wellFormed _ _ := true
  refreshes _ := true
  nodup_sources interface kind := (interface.receivedMessages kind).nodup
  mem_sources_iff interface kind source := (interface.receivedMessages kind).mem_sources_iff source
  initialized_update env interface := by
    rw [SpeedMessagesInterface.update]
    split_ifs <;> rfl
  initialized_processRxMessage env message interface := by
    cases h : SpeedDistance.heard? message with
    | none => rw [processRxMessage_of_not_heard h]
    | some heard =>
      rw [processRxMessage_of_heard h]
      rfl
  stamp_update env interface kind source hinitialized := by
    rw [receivedMessages_update, if_pos hinitialized, ReceivedMessages.stamp_prune]
  stamp_heard env message interface kind source h := by
    rw [processRxMessage_of_heard h, stamp_receive_speed, if_pos ⟨rfl, rfl⟩]
    rfl
  stamp_other env message interface kind source h := by
    cases hheard : SpeedDistance.heard? message with
    | none => rw [processRxMessage_of_not_heard hheard]
    | some heard =>
      rw [processRxMessage_of_heard hheard, stamp_receive_speed]
      apply if_neg
      rintro ⟨rfl, rfl⟩
      exact h hheard

end SpeedDistance

section Guidance

open Isobus.Guidance

inductive GuidanceList
  | machineInfo
  | systemCommand
  deriving DecidableEq

def guidanceSources (interface : AgriculturalGuidanceInterface) : GuidanceList → List CFRef
  | .machineInfo => interface.receivedGuidanceMachineInfoMessages.sources
  | .systemCommand => interface.receivedGuidanceSystemCommandMessages.sources

def guidanceStamp (interface : AgriculturalGuidanceInterface) :
    GuidanceList → CFRef → Option UInt32
  | .machineInfo => interface.receivedGuidanceMachineInfoMessages.stamp
  | .systemCommand => interface.receivedGuidanceSystemCommandMessages.stamp

def guidanceList? (parameterGroupNumber : UInt32) : Option GuidanceList :=
  if parameterGroupNumber = AGRICULTURAL_GUIDANCE_SYSTEM_COMMAND then some .systemCommand
  else if parameterGroupNumber = AGRICULTURAL_GUIDANCE_MACHINE_INFO then some .machineInfo
  else none

def guidanceHeard? (message : CANMessage) : Option (GuidanceList × CFRef) :=
  if message.data.length = CAN_DATA_LENGTH then
    (guidanceList? message.identifier.getParameterGroupNumber).bind fun kind =>
      message.source.map fun source => (kind, source)
  else none

def receiveGuidance (env : Environment) (interface : AgriculturalGuidanceInterface)
    (message : CANMessage) : GuidanceList × CFRef → AgriculturalGuidanceInterface
  | (.machineInfo, source) => (interface.processGuidanceMachineInfo env source message).1
  | (.systemCommand, source) => (interface.processGuidanceSystemCommand env source message).1

theorem processRxMessage_guidance (env : Environment) (interface : AgriculturalGuidanceInterface)
    (message : CANMessage) :
    (interface.processRxMessage env message).1 =
      ((guidanceHeard? message).map (receiveGuidance env interface message)).getD interface := by
  rw [AgriculturalGuidanceInterface.processRxMessage, guidanceHeard?, guidanceList?]
  split_ifs <;> cases message.source <;> rfl

theorem stamp_receiveGuidance (env : Environment) (interface : AgriculturalGuidanceInterface)
    (message : CANMessage) (heard : GuidanceList × CFRef) (kind : GuidanceList) (source : CFRef) :
    guidanceStamp (receiveGuidance env interface message heard) kind source =
      if heard = (kind, source) then some env.now else guidanceStamp interface kind source := by
  obtain ⟨kind', source'⟩ := heard
  by_cases hsource : source = source'
  · subst hsource
    cases kind <;> cases kind'
    case machineInfo.machineInfo | systemCommand.systemCommand =>
      rw [if_pos rfl]
      exact ReceivedMessages.stamp_receive_self _ _ _ _
    case machineInfo.systemCommand | systemCommand.machineInfo => rfl
  · rw [if_neg fun heq => hsource (congrArg Prod.snd heq).symm]
    cases kind <;> cases kind'
    case machineInfo.machineInfo | systemCommand.systemCommand =>
      exact ReceivedMessages.stamp_receive_ne _ _ hsource _ _
    case machineInfo.systemCommand | systemCommand.machineInfo => rfl

def guidanceKept (interface : AgriculturalGuidanceInterface) :
    Bool × ReceivedMessages GuidanceMachineInfo × ReceivedMessages GuidanceSystemCommand :=
  (interface.initialized, interface.receivedGuidanceMachineInfoMessages,
    interface.receivedGuidanceSystemCommandMessages)

theorem guidanceKept_update (env : Environment) (interface : AgriculturalGuidanceInterface)
    (hinitialized : interface.initialized = true) :
    guidanceKept (interface.update env).1 = guidanceKept (interface.pruneReceived env) := by
  have hcommand (i : AgriculturalGuidanceInterface) :
      guidanceKept (i.processSystemCommandFlag env).1 = guidanceKept i := by
    rw [AgriculturalGuidanceInterface.processSystemCommandFlag]
    split_ifs <;> rfl
  have hinfo (i : AgriculturalGuidanceInterface) :
      guidanceKept (i.processMachineInfoFlag env).1 = guidanceKept i := by
    rw [AgriculturalGuidanceInterface.processMachineInfoFlag]
    split_ifs <;> rfl
  have hscheduleCommand (i : AgriculturalGuidanceInterface) :
      guidanceKept (i.scheduleSystemCommand env) = guidanceKept i := by
    rw [AgriculturalGuidanceInterface.scheduleSystemCommand]
    split_ifs <;> rfl
  have hscheduleInfo (i : AgriculturalGuidanceInterface) :
      guidanceKept (i.scheduleMachineInfo env) = guidanceKept i := by
    rw [AgriculturalGuidanceInterface.scheduleMachineInfo]
    split_ifs <;> rfl
  rw [AgriculturalGuidanceInterface.update, if_pos hinitialized,
    AgriculturalGuidanceInterface.processFlags, hinfo, hcommand, hscheduleCommand, hscheduleInfo]

theorem guidanceStamp_of_kept {interface interface' : AgriculturalGuidanceInterface}
    (h : guidanceKept interface = guidanceKept interface') :
    guidanceStamp interface = guidanceStamp interface' := by
  obtain ⟨-, hlists⟩ := Prod.mk.inj h
  obtain ⟨hinfo, hcommand⟩ := Prod.mk.inj hlists
  funext kind
  cases kind with
  | machineInfo => exact congrArg ReceivedMessages.stamp hinfo
  | systemCommand => exact congrArg ReceivedMessages.stamp hcommand

def guidanceKeeper : ListKeeper AgriculturalGuidanceInterface GuidanceList where
  update env interface := (interface.update env).1
  processRxMessage env message interface := (interface.processRxMessage env message).1
  initialized := AgriculturalGuidanceInterface.initialized
  sources := guidanceSources
  stamp := guidanceStamp
  timeout _ := GUIDANCE_MESSAGE_TIMEOUT_MS
  heard? := guidanceHeard?
  wellFormed _ _ := true
  refreshes _ := true
  nodup_sources interface kind := by
    cases kind with
    | machineInfo => exact interface.receivedGuidanceMachineInfoMessages.nodup
    | systemCommand => exact interface.receivedGuidanceSystemCommandMessages.nodup
  mem_sources_iff interface kind source := by
    cases kind with
    | machineInfo => exact ReceivedMessages.mem_sources_iff _ _
    | systemCommand => exact ReceivedMessages.mem_sources_iff _ _
  initialized_update env interface := by
    cases hinitialized : interface.initialized with
    | true =>
      exact (congrArg Prod.fst (guidanceKept_update env interface hinitialized)).trans
        hinitialized
    | false =>
      rw [AgriculturalGuidanceInterface.update, hinitialized]
      exact hinitialized
  initialized_processRxMessage env message interface := by
    rw [processRxMessage_guidance]
    obtain _ | ⟨kind, source⟩ := guidanceHeard? message
    · rfl
    · cases kind <;> rfl
  stamp_update env interface kind source hinitialized := by
    rw [guidanceStamp_of_kept (guidanceKept_update env interface hinitialized)]
    cases kind with
    | machineInfo => exact ReceivedMessages.stamp_prune _ _ _ _
    | systemCommand => exact ReceivedMessages.stamp_prune _ _ _ _
  stamp_heard env message interface kind source h := by
    rw [processRxMessage_guidance, h]
    exact (stamp_receiveGuidance env interface message _ kind source).trans (if_pos rfl)
  stamp_other env message interface kind source h := by
    rw [processRxMessage_guidance]
    cases hheard : guidanceHeard? message with
    | none => rfl
    | some heard =>
      exact (stamp_receiveGuidance env interface message _ kind source).trans
        (if_neg fun heq => h (hheard.trans (congrArg some heq)))

end Guidance

section MaintainPower

open Isobus.MaintainPower

def maintainPowerHeard? (message : CANMessage) : Option (Unit × CFRef) :=
  if message.identifier.getParameterGroupNumber = MAINTAIN_POWER ∧
      message.data.length = CAN_DATA_LENGTH then
    message.source.map fun source => ((), source)
  else none

def maintainPowerKept (interface : MaintainPowerInterface) :
    Bool × ReceivedMessages MaintainPowerData :=
  (interface.initialized, interface.receivedMaintainPowerMessages)

theorem maintainPowerKept_processKeySwitchState (env : Environment)
    (interface : MaintainPowerInterface) (state : KeySwitchState) :
    maintainPowerKept (interface.processKeySwitchState env state).1 =
      maintainPowerKept interface := by
  cases state with
  | off =>
    rw [MaintainPowerInterface.processKeySwitchState]
    split_ifs <;> rfl
  | notOff =>
    rw [MaintainPowerInterface.processKeySwitchState]
    split_ifs <;> rfl
  | error => rfl
  | notAvailable => rfl

theorem maintainPowerStamp_of_kept {interface interface' : MaintainPowerInterface}
    (h : maintainPowerKept interface = maintainPowerKept interface') (source : CFRef) :
    interface.receivedMaintainPowerMessages.stamp source =
      interface'.receivedMaintainPowerMessages.stamp source := by
  obtain ⟨-, hlist⟩ := Prod.mk.inj h
  rw [hlist]

theorem maintainPowerKept_update (env : Environment) (interface : MaintainPowerInterface)
    (hinitialized : interface.initialized = true) :
    maintainPowerKept (interface.update env).1 =
      maintainPowerKept (interface.pruneReceived env) := by
  have hflags (i : MaintainPowerInterface) :
      maintainPowerKept (i.processFlags env).1 = maintainPowerKept i := by
    rw [MaintainPowerInterface.processFlags]
    split_ifs <;> rfl
  have hschedule (i : MaintainPowerInterface) :
      maintainPowerKept (i.schedule env) = maintainPowerKept i := by
    rw [MaintainPowerInterface.schedule]
    split_ifs <;> rfl
  rw [MaintainPowerInterface.update, if_pos hinitialized, hflags, hschedule]

theorem maintainPowerKept_processRxMessage (env : Environment) (message : CANMessage)
    (interface : MaintainPowerInterface) :
    maintainPowerKept (interface.processRxMessage env message).1 =
      match maintainPowerHeard? message with
      | none => maintainPowerKept interface
      | some (_, source) =>
        maintainPowerKept (interface.processMaintainPower env source message).1 := by
  rw [MaintainPowerInterface.processRxMessage, maintainPowerHeard?]
  by_cases hkey : message.identifier.getParameterGroupNumber = WHEEL_BASED_SPEED_AND_DISTANCE
  · have hother : ¬(message.identifier.getParameterGroupNumber = MAINTAIN_POWER ∧
        message.data.length = CAN_DATA_LENGTH) := by
      rw [hkey]
      exact fun hand => absurd hand.1 (by decide)
    rw [if_pos hkey, if_neg hother]
    split_ifs
    · exact maintainPowerKept_processKeySwitchState env interface _
    · rfl
  · rw [if_neg hkey]
    by_cases hgroup : message.identifier.getParameterGroupNumber = MAINTAIN_POWER
    · by_cases hlength : message.data.length = CAN_DATA_LENGTH
      · rw [if_pos hgroup, if_pos hlength, if_pos ⟨hgroup, hlength⟩]
        cases message.source <;> rfl
      · rw [if_pos hgroup, if_neg hlength, if_neg fun hand => hlength hand.2]
    · rw [if_neg hgroup, if_neg fun hand => hgroup hand.1]

def maintainPowerKeeper : ListKeeper MaintainPowerInterface Unit where
  update env interface := (interface.update env).1
  processRxMessage env message interface := (interface.processRxMessage env message).1
  initialized := MaintainPowerInterface.initialized
  sources interface _ := interface.receivedMaintainPowerMessages.sources
  stamp interface _ source := interface.receivedMaintainPowerMessages.stamp source
  timeout _ := MAINTAIN_POWER_TIMEOUT_MS
  heard? := maintainPowerHeard?
  wellFormed _ _ := true
  refreshes _ := true
  nodup_sources interface _ := interface.receivedMaintainPowerMessages.nodup
  mem_sources_iff interface _ source := ReceivedMessages.mem_sources_iff _ source
  initialized_update env interface := by
    cases hinitialized : interface.initialized with
    | true =>
      exact (congrArg Prod.fst (maintainPowerKept_update env interface hinitialized)).trans
        hinitialized
    | false =>
      rw [MaintainPowerInterface.update, hinitialized]
      exact hinitialized
  initialized_processRxMessage env message interface := by
    refine (congrArg Prod.fst (maintainPowerKept_processRxMessage env message interface)).trans ?_
    cases maintainPowerHeard? message <;> rfl
  stamp_update env interface kind source hinitialized := by
    rw [maintainPowerStamp_of_kept (maintainPowerKept_update env interface hinitialized)]
    exact ReceivedMessages.stamp_prune _ _ _ _
  stamp_heard env message interface kind source h := by
    have hkept := maintainPowerKept_processRxMessage env message interface
    rw [h] at hkept
    rw [maintainPowerStamp_of_kept hkept]
    exact ReceivedMessages.stamp_receive_self _ _ _ _
  stamp_other env message interface kind source h := by
    have hkept := maintainPowerKept_processRxMessage env message interface
    cases hheard : maintainPowerHeard? message with
    | none =>
      rw [hheard] at hkept
      exact maintainPowerStamp_of_kept hkept source
    | some heard =>
      obtain ⟨⟨⟩, source'⟩ := heard
      rw [hheard] at hkept h
      have hne : source ≠ source' := fun heq => h (congrArg (fun s => some ((), s)) heq.symm)
      rw [maintainPowerStamp_of_kept hkept]
      exact ReceivedMessages.stamp_receive_ne _ _ hne _ _

end MaintainPower

section Started

open Isobus.Nmea2000 Isobus.SpeedDistance Isobus.Guidance Isobus.MaintainPower

/-- The interfaces after `initialize`, as they are constructed with these senders. -/
def startedNmea2000 (sender : Option CFRef) (sendCyclically : MessageClass → Bool) :
    NMEA2000MessageInterface where
  sender := sender
  sendCyclically := sendCyclically
  initialized := true

def startedSpeed (sender : SpeedMessage → Option CFRef) : SpeedMessagesInterface where
  sender := sender
  initialized := true

def startedGuidance (commandSender machineInfoSender destination : Option CFRef) :
    AgriculturalGuidanceInterface where
  commandSender := commandSender
  machineInfoSender := machineInfoSender
  destinationControlFunction := destination
  initialized := true

def startedMaintainPower (sender : Option CFRef) : MaintainPowerInterface where
  sender := sender
  initialized := true

/-- Every list is exact along a run exactly if the clock tells at every update what is too old. -/
theorem exactLists_iff (sender : Option CFRef) (sendCyclically : MessageClass → Bool)
    (speedSender : SpeedMessage → Option CFRef)
    (commandSender machineInfoSender destination powerSender : Option CFRef) (time : Nat)
    (calls : List ReceptionCall) :
    (nmea2000Keeper.receive.Along nmea2000Keeper.Exact
        { state := startedNmea2000 sender sendCyclically, time := time } calls ∧
      speedKeeper.receive.Along speedKeeper.Exact
        { state := startedSpeed speedSender, time := time } calls ∧
      guidanceKeeper.receive.Along guidanceKeeper.Exact
        { state := startedGuidance commandSender machineInfoSender destination, time := time }
        calls ∧
      maintainPowerKeeper.receive.Along maintainPowerKeeper.Exact
        { state := startedMaintainPower powerSender, time := time } calls) ↔
    (nmea2000Keeper.receive.Along nmea2000Keeper.ClockTells
        { state := startedNmea2000 sender sendCyclically, time := time } calls ∧
      speedKeeper.receive.Along speedKeeper.ClockTells
        { state := startedSpeed speedSender, time := time } calls ∧
      guidanceKeeper.receive.Along guidanceKeeper.ClockTells
        { state := startedGuidance commandSender machineInfoSender destination, time := time }
        calls ∧
      maintainPowerKeeper.receive.Along maintainPowerKeeper.ClockTells
        { state := startedMaintainPower powerSender, time := time } calls) := by
  apply and_congr
  · exact ListKeeper.exact_along_iff (ListKeeper.allKept_start rfl (fun _ _ => rfl) time) calls
  apply and_congr
  · exact ListKeeper.exact_along_iff (ListKeeper.allKept_start rfl (fun _ _ => rfl) time) calls
  apply and_congr
  · refine ListKeeper.exact_along_iff (ListKeeper.allKept_start rfl ?_ time) calls
    intro kind source
    cases kind <;> rfl
  · exact ListKeeper.exact_along_iff (ListKeeper.allKept_start rfl (fun _ _ => rfl) time) calls

/-- A datum of twenty bytes. -/
def datumMessage : CANMessage where
  identifier := .ofFields .extended 0x1F814 6 BROADCAST_CAN_ADDRESS 0x80
  data := Datum.serialize {}
  source := some 1
  destination := none
  canPortIndex := 0
  timestampUs := 0

/-- A datum that came ten milliseconds ago, forty seconds after the clock started. -/
theorem datumMessage_not_exact :
    ¬nmea2000Keeper.receive.Along nmea2000Keeper.Exact
      { state := startedNmea2000 none fun _ => false, time := 0 }
      [⟨40000, fun _ => ⟨.external, 0, 0, 0⟩, fun _ => true, some datumMessage⟩,
        ⟨10, fun _ => ⟨.external, 0, 0, 0⟩, fun _ => true, none⟩] := by
  rintro ⟨-, ⟨-, hexact⟩, -⟩
  have hmem := (hexact rfl .datum 1).mpr ⟨40000, by decide +kernel, by decide +kernel⟩
  revert hmem
  decide +kernel

end Started

end Isobus.Reception
