import Isobus.Lib.Machine
import Isobus.MaintainPower.Interface

namespace Isobus.MaintainPower

open Isobus.Can Isobus.Lib

/-- What is known about the key switch and the messages, in real time. -/
structure Demand where
  /-- The key was not off when it was heard of last. -/
  notOff : Bool := false
  /-- When the key went from not off to off, if nothing else was heard since. -/
  keyOff : Option Nat := none
  /-- When a message was last tried to be sent since then. -/
  attempt : Option Nat := none

namespace Demand

variable (demand : Demand) (time : Nat)

def hear : KeySwitchState → Demand
  | .off => if demand.notOff then { keyOff := some time } else demand
  | .notOff => { notOff := true }
  | .error => {}
  | .notAvailable => demand

def Due (maintainPowerTime : UInt32) : Prop :=
  ∃ since ∈ demand.keyOff, time - since < maintainPowerTime.toNat

def Spaced : Prop :=
  ∀ last ∈ demand.attempt, MAINTAIN_POWER_TIMEOUT_MS.toNat / 2 ≤ time - last

end Demand

inductive MaintainPowerCall
  | update (send : TransmitFrame → Bool)
  | processRxMessage (message : CANMessage)
  | setMaintainPowerTime (timeToMaintainPower : UInt32)
  | setTransmitData (data : MaintainPowerData)

/-- A call so many milliseconds after the one before. -/
structure TimedCall where
  elapsed : Nat
  call : MaintainPowerCall

structure Watched where
  interface : MaintainPowerInterface
  time : Nat
  demand : Demand := {}

def keySwitchState? (message : CANMessage) : Option KeySwitchState :=
  if message.identifier.getParameterGroupNumber = WHEEL_BASED_SPEED_AND_DISTANCE ∧
      message.data.length = CAN_DATA_LENGTH ∧ message.source.isSome then
    some (MaintainPowerInterface.decodedKeySwitchState message)
  else none

def MaintainPowerEvent.isFrame : MaintainPowerEvent → Bool
  | .frame .. => true
  | _ => false

namespace Watched

variable (watched : Watched) (call : TimedCall)

def later : Nat := watched.time + call.elapsed

def environment : Environment where
  now := reading (watched.later call)
  world _ := ⟨.external, 0, 0, 0⟩
  send := match call.call with
    | .update send => send
    | _ => fun _ => false

def serve : MaintainPowerInterface × List MaintainPowerEvent :=
  match call.call with
  | .update _ => watched.interface.update (watched.environment call)
  | .processRxMessage message =>
    watched.interface.processRxMessage (watched.environment call) message
  | .setMaintainPowerTime timeToMaintainPower =>
    (watched.interface.setMaintainPowerTime timeToMaintainPower, [])
  | .setTransmitData data => ({ watched.interface with maintainPowerTransmitData := data }, [])

def demanded : Demand :=
  match call.call with
  | .update _ =>
    if (watched.serve call).2.any (·.isFrame) then
      { watched.demand with attempt := some (watched.later call) }
    else watched.demand
  | .processRxMessage message =>
    (keySwitchState? message).elim watched.demand (watched.demand.hear (watched.later call))
  | _ => watched.demand

end Watched

def watch : Machine Watched TimedCall MaintainPowerEvent where
  step watched call :=
    (⟨(watched.serve call).1, watched.later call, watched.demanded call⟩, (watched.serve call).2)

/-- A message is tried to be sent only while one is due, and then often enough; and the key event
fires exactly then. -/
def Watched.RequestsAsDue (watched : Watched) (call : TimedCall) : Prop :=
  let events := watch.emits watched call
  match call.call with
  | .update _ =>
    let due := watched.demand.Due (watched.later call) watched.interface.maintainPowerTime
    (events.any (·.isFrame) → due) ∧
      (due → watched.demand.Spaced (watched.later call) → events.any (·.isFrame)) ∧
      .keySwitchTransitionOff ∉ events
  | .processRxMessage message =>
    events.any (·.isFrame) = false ∧
      events.count .keySwitchTransitionOff =
        if watched.demand.notOff ∧ keySwitchState? message = some .off then 1 else 0
  | _ => events = []

/-- No flag is left from an earlier demand, no clock came round, and no time reads zero where it
is kept. -/
def Watched.Readable (watched : Watched) (call : TimedCall) : Prop :=
  let interface := watched.interface
  let time := watched.later call
  match call.call with
  | .update _ =>
    let due := watched.demand.Due time interface.maintainPowerTime
    (interface.sendMaintainPowerFlag → due) ∧ (due → interface.sender.isSome) ∧
      (∀ since ∈ watched.demand.keyOff, interface.maintainPowerTime.toNat ≤ time - since →
        interface.maintainPowerTime.toNat ≤ (time - since) % 2 ^ 32) ∧
      (due → ∀ last ∈ watched.demand.attempt,
        time - last + MAINTAIN_POWER_TIMEOUT_MS.toNat / 2 ≤ 2 ^ 32) ∧
      (interface.isTransmitDue (watched.environment call) → reading time ≠ 0)
  | .processRxMessage message =>
    (keySwitchState? message = some .notOff →
      interface.keyOffTimestamp ≠ 0 ∨ interface.keyNotOffTimestamp = 0 → reading time ≠ 0) ∧
      (keySwitchState? message = some .off →
        interface.keyNotOffTimestamp ≠ 0 → reading time ≠ 0)
  | _ => True

/-- When the last message was scheduled, between the key that went off and the last attempt, or at
the former. -/
structure Scheduled (watched : Watched) (since scheduled : Nat) : Prop where
  since_le : since ≤ scheduled
  le_time : scheduled ≤ watched.time
  timestamp : watched.interface.maintainPowerTransmitTimestamp = reading scheduled
  ne_zero : reading scheduled ≠ 0
  first : watched.demand.attempt = none →
    scheduled = since ∧ watched.interface.sendMaintainPowerFlag = true
  later : ∀ last ∈ watched.demand.attempt, scheduled ≤ last ∧
    last < scheduled + MAINTAIN_POWER_TIMEOUT_MS.toNat / 2 ∧ last ≤ watched.time

/-- The timestamps of the interface are those of what is due. -/
structure Consistent (watched : Watched) : Prop where
  initialized : watched.interface.initialized = true
  notOff : watched.interface.keyNotOffTimestamp ≠ 0 ↔ watched.demand.notOff = true
  idle : watched.demand.keyOff = none → watched.interface.maintainPowerTransmitTimestamp = 0
  keyOff : ∀ since ∈ watched.demand.keyOff,
    watched.interface.keyOffTimestamp = reading since ∧ reading since ≠ 0 ∧
      ∃ scheduled, Scheduled watched since scheduled

namespace Watched

variable {watched : Watched} {call : TimedCall}

theorem le_later : watched.time ≤ watched.later call := Nat.le_add_right _ _

theorem any_isFrame_update (interface : MaintainPowerInterface) (env : Environment)
    (h : interface.initialized = true) :
    (interface.update env).2.any (·.isFrame) =
      (interface.sendMaintainPowerFlag || interface.isTransmitDue env) := by
  have hdue : (interface.pruneReceived env).isTransmitDue env = interface.isTransmitDue env := rfl
  rw [MaintainPowerInterface.update, if_pos h, MaintainPowerInterface.schedule, hdue,
    MaintainPowerInterface.processFlags]
  cases interface.isTransmitDue env with
  | true => simp [MaintainPowerEvent.isFrame]
  | false =>
    cases hflag : interface.sendMaintainPowerFlag <;>
      simp [MaintainPowerInterface.pruneReceived, hflag, MaintainPowerEvent.isFrame]

/-- An update leaves the key alone, and notes when it scheduled a message. -/
structure Scheduling (env : Environment) (before after : MaintainPowerInterface) : Prop where
  initialized : after.initialized = before.initialized
  keyNotOffTimestamp : after.keyNotOffTimestamp = before.keyNotOffTimestamp
  keyOffTimestamp : after.keyOffTimestamp = before.keyOffTimestamp
  transmitTimestamp : after.maintainPowerTransmitTimestamp =
    if before.isTransmitDue env then env.now else before.maintainPowerTransmitTimestamp

theorem scheduling_update (interface : MaintainPowerInterface) (env : Environment)
    (h : interface.initialized = true) : Scheduling env interface (interface.update env).1 := by
  have hdue : (interface.pruneReceived env).isTransmitDue env = interface.isTransmitDue env := rfl
  rw [MaintainPowerInterface.update, if_pos h, MaintainPowerInterface.schedule, hdue,
    MaintainPowerInterface.processFlags]
  cases hscheduled : interface.isTransmitDue env with
  | true => exact ⟨rfl, rfl, rfl, by rw [hscheduled]; rfl⟩
  | false =>
    rw [if_neg Bool.false_ne_true]
    split_ifs
    · exact ⟨rfl, rfl, rfl, by rw [hscheduled]; rfl⟩
    · exact ⟨rfl, rfl, rfl, by rw [hscheduled]; rfl⟩

theorem isTransmitDue_iff {since scheduled : Nat} (h : Scheduled watched since scheduled)
    (hsince : watched.interface.keyOffTimestamp = reading since) :
    watched.interface.isTransmitDue (watched.environment call) = true ↔
      MAINTAIN_POWER_TIMEOUT_MS.toNat / 2 ≤ (watched.later call - scheduled) % 2 ^ 32 ∧
        (watched.later call - since) % 2 ^ 32 < watched.interface.maintainPowerTime.toNat ∧
        watched.interface.sender.isSome = true := by
  have hscheduled : scheduled ≤ watched.later call := h.le_time.trans le_later
  have hnow : (watched.environment call).now = reading (watched.later call) := rfl
  have hexpired := Environment.timeExpired_iff hnow hscheduled (MAINTAIN_POWER_TIMEOUT_MS / 2)
  have helapsed := Environment.timeElapsed_lt_iff hnow (h.since_le.trans hscheduled)
    watched.interface.maintainPowerTime
  have hne := h.ne_zero
  rw [MaintainPowerInterface.isTransmitDue, h.timestamp, hsince]
  simp only [Bool.and_eq_true, decide_eq_true_eq, hexpired, helapsed]
  change ((MAINTAIN_POWER_TIMEOUT_MS.toNat / 2 ≤ _ ∧ _) ∧ _) ∧ _ ↔ _
  tauto

theorem isTransmitDue_of_idle (h : watched.interface.maintainPowerTransmitTimestamp = 0) :
    watched.interface.isTransmitDue (watched.environment call) = false := by
  rw [MaintainPowerInterface.isTransmitDue, h]
  simp

variable {send : TransmitFrame → Bool}

theorem isTransmitDue_of_due (hcall : call.call = .update send) (hread : watched.Readable call)
    {since scheduled : Nat} (hsince : watched.demand.keyOff = some since)
    (h : Scheduled watched since scheduled)
    (htimestamp : watched.interface.keyOffTimestamp = reading since)
    (hdue : watched.later call - since < watched.interface.maintainPowerTime.toNat) :
    watched.interface.isTransmitDue (watched.environment call) = true ↔
      MAINTAIN_POWER_TIMEOUT_MS.toNat / 2 ≤ watched.later call - scheduled := by
  rw [Readable, hcall] at hread
  obtain ⟨-, hsender, -, hturn, -⟩ := hread
  have hDue : watched.demand.Due (watched.later call) watched.interface.maintainPowerTime :=
    ⟨since, hsince, hdue⟩
  have hbound := watched.interface.maintainPowerTime.toNat_lt
  have hsinceLe := h.since_le
  have hshort : watched.later call - scheduled < 2 ^ 32 := by
    cases hattempt : watched.demand.attempt with
    | none =>
      rw [(h.first hattempt).1]
      omega
    | some last =>
      have hlast := h.later last hattempt
      have hlastTurn := hturn hDue last hattempt
      omega
  rw [isTransmitDue_iff h htimestamp, Nat.mod_eq_of_lt hshort, Nat.mod_eq_of_lt (by omega)]
  exact ⟨fun hall => hall.1, fun hhalf => ⟨hhalf, hdue, hsender hDue⟩⟩

theorem due_of_attempt (hcall : call.call = .update send) (h : Consistent watched)
    (hread : watched.Readable call)
    (hattempt : watched.interface.sendMaintainPowerFlag = true ∨
      watched.interface.isTransmitDue (watched.environment call) = true) :
    watched.demand.Due (watched.later call) watched.interface.maintainPowerTime := by
  rw [Readable, hcall] at hread
  obtain ⟨hflag, -, hround, -, -⟩ := hread
  rcases hattempt with hset | hscheduled
  · exact hflag hset
  · cases hkey : watched.demand.keyOff with
    | none =>
      rw [isTransmitDue_of_idle (h.idle hkey)] at hscheduled
      cases hscheduled
    | some since =>
      obtain ⟨htimestamp, -, scheduled, hat⟩ := h.keyOff since hkey
      have helapsed := ((isTransmitDue_iff hat htimestamp).mp hscheduled).2.1
      refine ⟨since, hkey, Nat.not_le.mp fun hover => ?_⟩
      exact absurd (hround since hkey hover) (Nat.not_le.mpr helapsed)

theorem attempt_of_due (hcall : call.call = .update send) (h : Consistent watched)
    (hread : watched.Readable call)
    (hdue : watched.demand.Due (watched.later call) watched.interface.maintainPowerTime)
    (hspaced : watched.demand.Spaced (watched.later call)) :
    watched.interface.sendMaintainPowerFlag = true ∨
      watched.interface.isTransmitDue (watched.environment call) = true := by
  obtain ⟨since, hkey, helapsed⟩ := hdue
  obtain ⟨htimestamp, -, scheduled, hat⟩ := h.keyOff since hkey
  cases hattempt : watched.demand.attempt with
  | none => exact .inl (hat.first hattempt).2
  | some last =>
    have hlast := hat.later last hattempt
    have hhalf := hspaced last hattempt
    exact .inr ((isTransmitDue_of_due hcall hread hkey hat htimestamp helapsed).mpr (by omega))

theorem requestsAsDue_update (hcall : call.call = .update send) (h : Consistent watched)
    (hread : watched.Readable call) : watched.RequestsAsDue call := by
  have hemits : watch.emits watched call =
      (watched.interface.update (watched.environment call)).2 := by
    simp only [Machine.emits, watch, serve, hcall]
  have hattempt := any_isFrame_update watched.interface (watched.environment call) h.initialized
  rw [RequestsAsDue, hcall]
  dsimp only
  rw [hemits, hattempt, Bool.or_eq_true]
  refine ⟨due_of_attempt hcall h hread, attempt_of_due hcall h hread, ?_⟩
  rw [MaintainPowerInterface.update, if_pos h.initialized, MaintainPowerInterface.processFlags]
  split_ifs <;> simp

theorem consistent_update (hcall : call.call = .update send) (h : Consistent watched)
    (hread : watched.Readable call) :
    Consistent (watch.next watched call) := by
  have hattempt := any_isFrame_update watched.interface (watched.environment call) h.initialized
  have hserve : watched.serve call = watched.interface.update (watched.environment call) := by
    rw [serve, hcall]
  have hdemanded : watched.demanded call =
      if watched.interface.sendMaintainPowerFlag = true ∨
          watched.interface.isTransmitDue (watched.environment call) = true then
        { watched.demand with attempt := some (watched.later call) }
      else watched.demand := by
    rw [demanded, hcall]
    dsimp only
    rw [hserve, hattempt]
    simp only [Bool.or_eq_true]
  have hafter := scheduling_update watched.interface (watched.environment call) h.initialized
  simp only [Machine.next, watch, hserve, hdemanded]
  split_ifs with htried
  · -- There was an attempt, so a message was due.
    obtain ⟨since, hkey, helapsed⟩ := due_of_attempt hcall h hread htried
    obtain ⟨htimestamp, hne, scheduled, hat⟩ := h.keyOff since hkey
    refine ⟨hafter.initialized.trans h.initialized, hafter.keyNotOffTimestamp ▸ h.notOff,
      fun hnone => absurd hnone (by rw [hkey]; exact Option.some_ne_none since), ?_⟩
    intro since' hkey'
    obtain rfl : since = since' := Option.some.inj (hkey.symm.trans hkey')
    refine ⟨hafter.keyOffTimestamp.trans htimestamp, hne, ?_⟩
    have hiff := isTransmitDue_of_due hcall hread hkey hat htimestamp helapsed
    by_cases hscheduled : watched.interface.isTransmitDue (watched.environment call) = true
    · rw [Readable, hcall] at hread
      refine ⟨watched.later call, (hat.since_le.trans hat.le_time).trans le_later, le_rfl, ?_,
        hread.2.2.2.2 hscheduled, fun hnone => absurd hnone (Option.some_ne_none _), ?_⟩
      · rw [hafter.transmitTimestamp, if_pos hscheduled]
        rfl
      · rintro last ⟨⟩
        exact ⟨le_rfl, Nat.lt_add_of_pos_right (by decide), le_rfl⟩
    · refine ⟨scheduled, hat.since_le, hat.le_time.trans le_later, ?_, hat.ne_zero,
        fun hnone => absurd hnone (Option.some_ne_none _), ?_⟩
      · rw [hafter.transmitTimestamp, if_neg hscheduled]
        exact hat.timestamp
      · rintro last ⟨⟩
        have hhalf := mt hiff.mpr hscheduled
        have hle : scheduled ≤ watched.later call := hat.le_time.trans le_later
        exact ⟨hle, by omega, le_rfl⟩
  · -- Nothing was tried, so nothing changed.
    rw [not_or] at htried
    refine ⟨hafter.initialized.trans h.initialized, hafter.keyNotOffTimestamp ▸ h.notOff,
      fun hnone => ?_, fun since hkey => ?_⟩
    · rw [hafter.transmitTimestamp, if_neg htried.2]
      exact h.idle hnone
    · obtain ⟨htimestamp, hne, scheduled, hat⟩ := h.keyOff since hkey
      refine ⟨hafter.keyOffTimestamp.trans htimestamp, hne, scheduled, hat.since_le,
        hat.le_time.trans le_later, ?_, hat.ne_zero,
        fun hnone => absurd (hat.first hnone).2 htried.1, fun last hlast => ?_⟩
      · rw [hafter.transmitTimestamp, if_neg htried.2]
        exact hat.timestamp
      · obtain ⟨hle, hlt, htime⟩ := hat.later last hlast
        exact ⟨hle, hlt, htime.trans le_later⟩

end Watched

variable {watched : Watched} {call : TimedCall}

theorem processRxMessage_of_keySwitchState {message : CANMessage} {state : KeySwitchState}
    (h : keySwitchState? message = some state) (interface : MaintainPowerInterface)
    (env : Environment) :
    interface.processRxMessage env message = interface.processKeySwitchState env state := by
  rw [keySwitchState?] at h
  split_ifs at h with hmessage
  rw [MaintainPowerInterface.processRxMessage, if_pos hmessage.1, if_pos hmessage.2,
    Option.some.inj h]

theorem processRxMessage_of_no_keySwitchState {message : CANMessage}
    (h : keySwitchState? message = none) (interface : MaintainPowerInterface) (env : Environment) :
    ∃ messages, (interface.processRxMessage env message).1 =
        { interface with receivedMaintainPowerMessages := messages } ∧
      ∀ event ∈ (interface.processRxMessage env message).2,
        ∃ source data changed, event = .maintainPowerData source data changed := by
  rw [keySwitchState?] at h
  split_ifs at h with hmessage
  rw [MaintainPowerInterface.processRxMessage]
  split_ifs with hgroup hlength hother hdata
  · exact absurd ⟨hgroup, hlength⟩ hmessage
  · exact ⟨_, rfl, fun _ hevent => by cases hevent⟩
  · cases message.source with
    | none => exact ⟨_, rfl, fun _ hevent => by cases hevent⟩
    | some source =>
      exact ⟨_, rfl, fun _ hevent => ⟨_, _, _, List.mem_singleton.mp hevent⟩⟩
  · exact ⟨_, rfl, fun _ hevent => by cases hevent⟩
  · exact ⟨_, rfl, fun _ hevent => by cases hevent⟩

theorem Consistent.of_same (h : Consistent watched) {interface : MaintainPowerInterface}
    {time : Nat} (htime : watched.time ≤ time)
    (hinitialized : interface.initialized = watched.interface.initialized)
    (hnotOff : interface.keyNotOffTimestamp = watched.interface.keyNotOffTimestamp)
    (hoff : interface.keyOffTimestamp = watched.interface.keyOffTimestamp)
    (htransmit : interface.maintainPowerTransmitTimestamp =
      watched.interface.maintainPowerTransmitTimestamp)
    (hflag : interface.sendMaintainPowerFlag = watched.interface.sendMaintainPowerFlag) :
    Consistent ⟨interface, time, watched.demand⟩ := by
  refine ⟨hinitialized.trans h.initialized, hnotOff ▸ h.notOff,
    fun hnone => htransmit.trans (h.idle hnone), fun since hkey => ?_⟩
  obtain ⟨htimestamp, hne, scheduled, hat⟩ := h.keyOff since hkey
  refine ⟨hoff.trans htimestamp, hne, scheduled, hat.since_le, hat.le_time.trans htime,
    htransmit.trans hat.timestamp, hat.ne_zero,
    fun hnone => ⟨(hat.first hnone).1, hflag.trans (hat.first hnone).2⟩, fun last hlast => ?_⟩
  obtain ⟨hle, hlt, hlastTime⟩ := hat.later last hlast
  exact ⟨hle, hlt, hlastTime.trans htime⟩

theorem consistent_hear (h : Consistent watched) {state : KeySwitchState} {env : Environment}
    {time : Nat} (htime : watched.time ≤ time) (hnow : env.now = reading time)
    (hnotOff : state = .notOff → watched.interface.keyOffTimestamp ≠ 0 ∨
      watched.interface.keyNotOffTimestamp = 0 → reading time ≠ 0)
    (hoff : state = .off → watched.interface.keyNotOffTimestamp ≠ 0 → reading time ≠ 0) :
    Consistent ⟨(watched.interface.processKeySwitchState env state).1, time,
      watched.demand.hear time state⟩ := by
  cases state with
  | off =>
    rw [MaintainPowerInterface.processKeySwitchState, Demand.hear]
    by_cases hkey : watched.interface.keyNotOffTimestamp ≠ 0
    · rw [if_pos hkey, if_pos (h.notOff.mp hkey)]
      refine ⟨h.initialized, by simp, fun hnone => absurd hnone (Option.some_ne_none time), ?_⟩
      rintro since ⟨⟩
      exact ⟨hnow, hoff rfl hkey, time, le_rfl, le_rfl, hnow, hoff rfl hkey,
        fun _ => ⟨rfl, rfl⟩, fun last hlast => absurd hlast (Option.not_mem_none last)⟩
    · rw [if_neg hkey, if_neg (mt h.notOff.mpr hkey)]
      split_ifs with hzero
      · -- There is no demand that the timestamp could belong to.
        refine ⟨h.initialized, h.notOff, h.idle, fun since hsince => ?_⟩
        obtain ⟨htimestamp, hne, -⟩ := h.keyOff since hsince
        exact absurd (htimestamp.symm.trans hzero) hne
      · exact h.of_same htime rfl rfl rfl rfl rfl
  | notOff =>
    rw [MaintainPowerInterface.processKeySwitchState, Demand.hear]
    have hnone (since : Nat) (hsince : since ∈ (none : Option Nat)) : False :=
      Option.not_mem_none since hsince
    split_ifs with hkey hzero
    · have hne : env.now ≠ 0 := hnow ▸ hnotOff rfl (.inl hkey)
      exact ⟨h.initialized, iff_of_true hne rfl, fun _ => rfl,
        fun since hsince => (hnone since hsince).elim⟩
    · have hne : env.now ≠ 0 := hnow ▸ hnotOff rfl (.inr hzero)
      exact ⟨h.initialized, iff_of_true hne rfl, fun _ => rfl,
        fun since hsince => (hnone since hsince).elim⟩
    · exact ⟨h.initialized, iff_of_true hzero rfl, fun _ => rfl,
        fun since hsince => (hnone since hsince).elim⟩
  | error =>
    exact ⟨h.initialized, by simp [MaintainPowerInterface.processKeySwitchState, Demand.hear],
      fun _ => rfl, fun since hkey => absurd hkey (Option.not_mem_none since)⟩
  | notAvailable => exact h.of_same htime rfl rfl rfl rfl rfl

theorem events_processKeySwitchState (interface : MaintainPowerInterface) (env : Environment)
    (state : KeySwitchState) :
    (interface.processKeySwitchState env state).2 =
      if state = .off ∧ interface.keyNotOffTimestamp ≠ 0 then [.keySwitchTransitionOff]
      else [] := by
  cases state with
  | off =>
    rw [MaintainPowerInterface.processKeySwitchState]
    simp only [true_and]
    split_ifs <;> rfl
  | notOff =>
    have hoff : ¬(KeySwitchState.notOff = .off ∧ interface.keyNotOffTimestamp ≠ 0) :=
      fun hoff => by cases hoff.1
    rw [MaintainPowerInterface.processKeySwitchState, if_neg hoff]
    split_ifs <;> rfl
  | error => rfl
  | notAvailable => rfl

theorem consistent_next (h : Consistent watched) (hread : watched.Readable call) :
    Consistent (watch.next watched call) := by
  have hlater : watched.time ≤ watched.later call := Watched.le_later
  cases hcall : call.call with
  | update send => exact Watched.consistent_update hcall h hread
  | processRxMessage message =>
    simp only [Watched.Readable, hcall] at hread
    simp only [Machine.next, watch, Watched.serve, Watched.demanded, hcall]
    cases hstate : keySwitchState? message with
    | some state =>
      rw [hstate] at hread
      rw [processRxMessage_of_keySwitchState hstate]
      exact consistent_hear h hlater rfl (fun heq => hread.1 (congrArg some heq))
        fun heq => hread.2 (congrArg some heq)
    | none =>
      obtain ⟨messages, hinterface, -⟩ := processRxMessage_of_no_keySwitchState hstate
        watched.interface (watched.environment call)
      rw [hinterface]
      exact h.of_same hlater rfl rfl rfl rfl rfl
  | setMaintainPowerTime timeToMaintainPower =>
    simp only [Machine.next, watch, Watched.serve, Watched.demanded, hcall]
    exact h.of_same hlater rfl rfl rfl rfl rfl
  | setTransmitData data =>
    simp only [Machine.next, watch, Watched.serve, Watched.demanded, hcall]
    exact h.of_same hlater rfl rfl rfl rfl rfl

theorem requestsAsDue_of_readable (h : Consistent watched) (hread : watched.Readable call) :
    watched.RequestsAsDue call := by
  cases hcall : call.call with
  | update send => exact Watched.requestsAsDue_update hcall h hread
  | processRxMessage message =>
    simp only [Watched.RequestsAsDue, Machine.emits, watch, Watched.serve, hcall]
    cases hstate : keySwitchState? message with
    | some state =>
      rw [processRxMessage_of_keySwitchState hstate, events_processKeySwitchState]
      simp only [Option.some.injEq, ← h.notOff, and_comm]
      split_ifs <;> simp [MaintainPowerEvent.isFrame]
    | none =>
      obtain ⟨messages, -, hevents⟩ := processRxMessage_of_no_keySwitchState hstate
        watched.interface (watched.environment call)
      constructor
      · rw [List.any_eq_false]
        intro event hevent
        obtain ⟨source, data, changed, rfl⟩ := hevents event hevent
        exact Bool.false_ne_true
      · rw [if_neg fun hoff => Option.some_ne_none _ hoff.2.symm, List.count_eq_zero]
        intro hevent
        obtain ⟨source, data, changed, heq⟩ := hevents _ hevent
        cases heq
  | setMaintainPowerTime timeToMaintainPower =>
    simp only [Watched.RequestsAsDue, Machine.emits, watch, Watched.serve, hcall]
  | setTransmitData data =>
    simp only [Watched.RequestsAsDue, Machine.emits, watch, Watched.serve, hcall]

def MaintainPowerInterface.listening (sender : Option CFRef) : MaintainPowerInterface where
  sender := sender
  initialized := true

theorem consistent_listening (sender : Option CFRef) (time : Nat) :
    Consistent { interface := .listening sender, time := time } where
  initialized := rfl
  notOff := by simp [MaintainPowerInterface.listening]
  idle _ := rfl
  keyOff since hsince := absurd hsince (Option.not_mem_none since)

/-- Messages are sent as they are due in every run whose timestamps tell what is due. -/
theorem requestsAsDue_along (sender : Option CFRef) (time : Nat) (calls : List TimedCall)
    (hread : watch.Along Watched.Readable
      { interface := .listening sender, time := time } calls) :
    watch.Along Watched.RequestsAsDue { interface := .listening sender, time := time } calls :=
  watch.along_of_invariant_along (P := Consistent) (fun _ _ => consistent_next)
    (fun _ _ => requestsAsDue_of_readable) (consistent_listening sender time) calls hread

instance decidableDue (demand : Demand) (time : Nat) (maintainPowerTime : UInt32) :
    Decidable (demand.Due time maintainPowerTime) :=
  inferInstanceAs (Decidable (∃ since ∈ demand.keyOff, _))

instance decidableReadable (watched : Watched) (call : TimedCall) :
    Decidable (watched.Readable call) := by
  unfold Watched.Readable
  cases call.call <;> dsimp only <;> infer_instance

def keySwitchMessage (state : UInt8) : CANMessage where
  identifier := .ofFields .extended WHEEL_BASED_SPEED_AND_DISTANCE 3 BROADCAST_CAN_ADDRESS 0x80
  data := [0, 0, 0, 0, 0, 0, 0, state <<< 2]
  source := some 1
  destination := none
  canPortIndex := 0
  timestampUs := 0

/-- The key is switched off, and the power is requested for three seconds. -/
def keySwitchedOff : List TimedCall :=
  [⟨0, .setMaintainPowerTime 3000⟩, ⟨5, .processRxMessage (keySwitchMessage 1)⟩,
    ⟨100, .processRxMessage (keySwitchMessage 0)⟩, ⟨10, .update fun _ => false⟩,
    ⟨10, .update fun _ => true⟩, ⟨1000, .update fun _ => true⟩, ⟨3000, .update fun _ => true⟩]

theorem requestsAsDue_keySwitchedOff :
    watch.Along Watched.Readable { interface := .listening (some 0), time := 0 } keySwitchedOff ∧
      watch.Along Watched.RequestsAsDue { interface := .listening (some 0), time := 0 }
        keySwitchedOff := by
  have hread : watch.Along Watched.Readable { interface := .listening (some 0), time := 0 }
      keySwitchedOff :=
    watch.along_of_checks (fun _ _ h => of_decide_eq_true h)
      (by decide +kernel :
        watch.checks (fun watched call => decide (watched.Readable call))
          { interface := .listening (some 0), time := 0 } keySwitchedOff = true)
  exact ⟨hread, requestsAsDue_along (some 0) 0 keySwitchedOff hread⟩

/-- The message could not be sent while it was due, and is sent after the key went on again. -/
theorem retriedMessage_not_due :
    ¬watch.Along Watched.RequestsAsDue { interface := .listening (some 0), time := 0 }
      [⟨0, .setMaintainPowerTime 3000⟩, ⟨5, .processRxMessage (keySwitchMessage 1)⟩,
        ⟨100, .processRxMessage (keySwitchMessage 0)⟩, ⟨10, .update fun _ => false⟩,
        ⟨10, .processRxMessage (keySwitchMessage 1)⟩, ⟨10, .update fun _ => true⟩] := by
  intro h
  obtain ⟨-, -, -, -, -, hlast, -⟩ := h
  have hdue := hlast.1 (by decide +kernel)
  revert hdue
  decide +kernel

end Isobus.MaintainPower
