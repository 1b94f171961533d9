import Isobus.Diagnostics.Update

/-!
# Broadcasts are suspended as commanded

The protocol follows a commanded suspension as long as nobody names a duration, the commands for its
network are in the byte where it looks, and nothing but a hold comes in between.
-/

namespace Isobus.Diagnostics

open Isobus.Can Isobus.Lib

/-- A network has the pair of bits of its number, in all eight bytes. -/
def commandFor (networkType : NetworkType) (message : CANMessage) : StopStartCommand :=
  if networkType.number < 32 then
    .ofBits (((message.getUint8At (networkType.number / 4)).toNat >>>
      (DM13_BITS_PER_NETWORK * (networkType.number % 4))) &&& DM13_NETWORK_BITMASK)
  else .dontCareNoAction

def appliedCommand (networkType : NetworkType) (message : CANMessage) : StopStartCommand :=
  match commandFor .currentDataLink message with
  | .stopBroadcast => .stopBroadcast
  | .startBroadcast => .startBroadcast
  | _ => commandFor networkType message

/-- The hold signal stands above the suspend signal; its first two values hold. -/
def isHold (message : CANMessage) : Bool := message.getUint8At 3 >>> 4 < 2

def isTemporary (message : CANMessage) : Bool :=
  match SuspendSignalState.ofByte (message.getUint8At 3) with
  | .temporarySuspension | .partialTemporarySuspension => true
  | _ => false

def suspensionSeconds (message : CANMessage) : UInt16 := message.getUint16At 4

inductive Suspension
  | broadcasting
  | temporary (deadline : Nat)
  | indefinite (since : Nat)

namespace Suspension

def InForce (time : Nat) : Suspension → Prop
  | broadcasting => False
  | temporary deadline => time < deadline
  | indefinite since => time < since + DM13_TIMEOUT_MS.toNat

instance instDecidableInForce (time : Nat) (suspension : Suspension) :
    Decidable (suspension.InForce time) := by
  cases suspension <;> unfold InForce <;> infer_instance

/-- A number of seconds above the greatest valid one names no duration. -/
def forSeconds (time : Nat) (seconds : UInt16) : Suspension :=
  if seconds ≤ MAX_DM13_CUSTOM_SUSPEND_TIME_MS then temporary (time + 1000 * seconds.toNat)
  else indefinite time

def ofStop (time : Nat) (message : CANMessage) : Suspension :=
  if isTemporary message then forSeconds time (suspensionSeconds message) else indefinite time

def hold (time : Nat) (suspension : Suspension) : Suspension :=
  match suspension with
  | indefinite _ => if suspension.InForce time then indefinite time else suspension
  | _ => suspension

def obey (time : Nat) (networkType : NetworkType) (message : CANMessage)
    (suspension : Suspension) : Suspension :=
  match appliedCommand networkType message with
  | .stopBroadcast => ofStop time message
  | .startBroadcast => broadcasting
  | _ => if isHold message then suspension.hold time else suspension

end Suspension

namespace DiagnosticProtocol

def isSuspensionMessage (message : CANMessage) (protocol : DiagnosticProtocol) : Prop :=
  protocol.isAddressed message = true ∧
    message.identifier.getParameterGroupNumber = DIAGNOSTIC_MESSAGE_13 ∧
    message.data.length = CAN_DATA_LENGTH

instance instDecidableIsSuspensionMessage (message : CANMessage) (protocol : DiagnosticProtocol) :
    Decidable (protocol.isSuspensionMessage message) := inferInstanceAs (Decidable (_ ∧ _ ∧ _))

end DiagnosticProtocol

/-- A call so many milliseconds after the one before. -/
structure TimedCall where
  elapsed : Nat
  accepts : Nat → Bool
  call : Call

/-- The protocol at a moment, and the suspension commanded to it. -/
structure Watched where
  protocol : DiagnosticProtocol
  time : Nat
  suspension : Suspension

namespace Watched

variable (watched : Watched) (call : TimedCall)

def later : Nat := watched.time + call.elapsed

def input : Input := ⟨⟨UInt32.ofNat (watched.later call), call.accepts⟩, call.call⟩

def commanded : Suspension :=
  match call.call with
  | .suspendBroadcasts suspendTime => .forSeconds (watched.later call) suspendTime
  | .processMessage message =>
    if watched.protocol.isSuspensionMessage message then
      watched.suspension.obey (watched.later call) watched.protocol.networkType message
    else watched.suspension
  | _ => watched.suspension

end Watched

def watch : Machine Watched TimedCall Event where
  step watched call :=
    (⟨diagnosticProtocol.next watched.protocol (watched.input call), watched.later call,
      watched.commanded call⟩, diagnosticProtocol.emits watched.protocol (watched.input call))

def SuspendsAsCommanded (watched : Watched) (call : TimedCall) : Prop :=
  call.call = .update →
    ((watch.next watched call).protocol.broadcastState = false ↔
      (watch.next watched call).suspension.InForce (watch.next watched call).time)

/-- The message is read as it is meant: no duration is named, the command for its network is where
the protocol looks, and a message without one arrives as a hold, or while broadcasting. -/
def Watched.Readable (watched : Watched) (call : TimedCall) (message : CANMessage) : Prop :=
  match appliedCommand watched.protocol.networkType message with
  | .stopBroadcast => isTemporary message = true →
      MAX_DM13_CUSTOM_SUSPEND_TIME_MS ≤ message.getUint16At 3 ∧
        MAX_DM13_CUSTOM_SUSPEND_TIME_MS < suspensionSeconds message
  | .startBroadcast => commandFor .currentDataLink message = .startBroadcast ∨
      watched.protocol.networkType.number < 4
  | _ => watched.protocol.networkType.number < 4 ∧ (watched.protocol.broadcastState = false →
      isHold message = true ∧ watched.suspension.InForce (watched.later call))

/-- Nobody suspends the protocol from within, messages are readable, and no update of a suspended
protocol comes so late that its clock seems to have stood still. -/
def Watched.Follows (watched : Watched) (call : TimedCall) : Prop :=
  match call.call with
  | .suspendBroadcasts _ => False
  | .processMessage message =>
    watched.protocol.isSuspensionMessage message → watched.Readable call message
  | .update => ∀ since, watched.protocol.broadcastState = false →
      watched.suspension = .indefinite since →
      since + DM13_TIMEOUT_MS.toNat ≤ watched.later call →
      DM13_TIMEOUT_MS.toNat ≤ (watched.later call - since) % 2 ^ 32
  | _ => True

theorem networkCommand_of_lt {networkType : NetworkType} (message : CANMessage)
    (h : networkType.number < 4) :
    networkCommand networkType message = commandFor networkType message := by
  have hbyte : networkType.number / 4 = 0 := Nat.div_eq_of_lt h
  have hplace : networkType.number % 4 = networkType.number := Nat.mod_eq_of_lt h
  rw [networkCommand, commandFor, if_pos (h.trans (by decide)), hbyte, hplace,
    Nat.shiftRight_and_distrib, Nat.shiftLeft_shiftRight]

theorem networkCommand_of_ge {networkType : NetworkType} (message : CANMessage)
    (h : 4 ≤ networkType.number) : networkCommand networkType message = .stopBroadcast := by
  have hzero : (message.getUint8At 0).toNat >>>
      (DM13_BITS_PER_NETWORK * networkType.number) = 0 := by
    have hpow : 2 ^ 8 ≤ 2 ^ (DM13_BITS_PER_NETWORK * networkType.number) := by
      refine Nat.pow_le_pow_right Nat.zero_lt_two ?_
      rw [DM13_BITS_PER_NETWORK]
      omega
    rw [Nat.shiftRight_eq_div_pow]
    exact Nat.div_eq_of_lt (lt_of_lt_of_le (UInt8.toNat_lt _) hpow)
  rw [networkCommand, Nat.shiftRight_and_distrib, Nat.shiftLeft_shiftRight, hzero, Nat.zero_and]
  rfl

theorem networkCommand_currentDataLink (message : CANMessage) :
    networkCommand .currentDataLink message = commandFor .currentDataLink message :=
  networkCommand_of_lt message (by decide)

namespace DiagnosticProtocol

theorem stopBroadcast_eq {protocol : DiagnosticProtocol} {message : CANMessage}
    (hduration : protocol.customDM13SuspensionTime = 0)
    (h : isTemporary message = true → MAX_DM13_CUSTOM_SUSPEND_TIME_MS ≤ message.getUint16At 3) :
    protocol.stopBroadcast message = { protocol with broadcastState := false } := by
  rw [isTemporary] at h
  rw [stopBroadcast]
  cases hsignal : SuspendSignalState.ofByte (message.getUint8At 3) with
  | temporarySuspension =>
    have hlong := h (by rw [hsignal])
    dsimp only
    rw [if_neg (UInt16.not_lt.mpr hlong), ← hduration]
  | partialTemporarySuspension =>
    have hlong := h (by rw [hsignal])
    dsimp only
    rw [if_neg (UInt16.not_lt.mpr hlong), ← hduration]
  | indefiniteSuspension =>
    rw [← hduration]
  | partialIndefiniteSuspension =>
    rw [← hduration]
  | other => rfl

variable {protocol : DiagnosticProtocol} {message : CANMessage} (env : Environment)

theorem processMessage_of_isSuspensionMessage (h : protocol.isSuspensionMessage message) :
    protocol.processMessage message env =
      { (protocol.obeyNetworkCommand message).obeyCurrentDataLinkCommand message with
        lastDM13ReceivedTimestamp := env.now } := by
  rw [processMessage, if_pos h.1, if_pos h.2.1, processDiagnosticMessage13, if_pos h.2.2]

theorem obey_of_currentDataLink_start
    (h : commandFor .currentDataLink message = .startBroadcast)
    (hduration : protocol.customDM13SuspensionTime = 0) :
    (protocol.obeyNetworkCommand message).obeyCurrentDataLinkCommand message =
      { protocol with broadcastState := true } := by
  obtain ⟨_, _, hnetwork⟩ := protocol.exists_obeyNetworkCommand message
  rw [hnetwork, obeyCurrentDataLinkCommand, networkCommand_currentDataLink, h]
  rw [← hduration]

theorem exists_obeyNetworkCommand_of_readable
    (hduration : protocol.customDM13SuspensionTime = 0)
    (h : isTemporary message = true → MAX_DM13_CUSTOM_SUSPEND_TIME_MS ≤ message.getUint16At 3) :
    ∃ broadcastState, protocol.obeyNetworkCommand message =
      { protocol with broadcastState := broadcastState } := by
  rw [obeyNetworkCommand]
  cases networkCommand protocol.networkType message with
  | stopBroadcast => exact ⟨false, stopBroadcast_eq hduration h⟩
  | startBroadcast => exact ⟨_, rfl⟩
  | reserved => exact ⟨_, rfl⟩
  | dontCareNoAction => exact ⟨_, rfl⟩

theorem obey_of_currentDataLink_stop
    (h : commandFor .currentDataLink message = .stopBroadcast)
    (hduration : protocol.customDM13SuspensionTime = 0)
    (htime : isTemporary message = true → MAX_DM13_CUSTOM_SUSPEND_TIME_MS ≤ message.getUint16At 3) :
    (protocol.obeyNetworkCommand message).obeyCurrentDataLinkCommand message =
      { protocol with broadcastState := false } := by
  obtain ⟨_, hnetwork⟩ := exists_obeyNetworkCommand_of_readable hduration htime
  rw [hnetwork, obeyCurrentDataLinkCommand, networkCommand_currentDataLink, h]
  exact stopBroadcast_eq hduration htime

theorem obey_of_network
    (hstop : commandFor .currentDataLink message ≠ .stopBroadcast)
    (hstart : commandFor .currentDataLink message ≠ .startBroadcast) :
    (protocol.obeyNetworkCommand message).obeyCurrentDataLinkCommand message =
      protocol.obeyNetworkCommand message := by
  rw [obeyCurrentDataLinkCommand, networkCommand_currentDataLink]
  cases hcommand : commandFor .currentDataLink message with
  | stopBroadcast => exact absurd hcommand hstop
  | startBroadcast => exact absurd hcommand hstart
  | reserved => rfl
  | dontCareNoAction => rfl

theorem obey_of_stop (h : appliedCommand protocol.networkType message = .stopBroadcast)
    (hduration : protocol.customDM13SuspensionTime = 0)
    (htime : isTemporary message = true → MAX_DM13_CUSTOM_SUSPEND_TIME_MS ≤ message.getUint16At 3) :
    (protocol.obeyNetworkCommand message).obeyCurrentDataLinkCommand message =
      { protocol with broadcastState := false } := by
  have hnetwork (hcommand : commandFor protocol.networkType message = .stopBroadcast) :
      protocol.obeyNetworkCommand message = { protocol with broadcastState := false } := by
    have hread : networkCommand protocol.networkType message = .stopBroadcast := by
      by_cases hnumber : protocol.networkType.number < 4
      · rw [networkCommand_of_lt message hnumber, hcommand]
      · exact networkCommand_of_ge message (Nat.not_lt.mp hnumber)
    rw [obeyNetworkCommand, hread]
    exact stopBroadcast_eq hduration htime
  rw [appliedCommand] at h
  cases hlink : commandFor .currentDataLink message with
  | stopBroadcast => exact obey_of_currentDataLink_stop hlink hduration htime
  | startBroadcast =>
    rw [hlink] at h
    exact absurd h StopStartCommand.noConfusion
  | reserved =>
    rw [hlink] at h
    rw [obey_of_network (by rw [hlink]; decide) (by rw [hlink]; decide), hnetwork h]
  | dontCareNoAction =>
    rw [hlink] at h
    rw [obey_of_network (by rw [hlink]; decide) (by rw [hlink]; decide), hnetwork h]

theorem obey_of_start (h : appliedCommand protocol.networkType message = .startBroadcast)
    (hduration : protocol.customDM13SuspensionTime = 0)
    (hread : commandFor .currentDataLink message = .startBroadcast ∨
      protocol.networkType.number < 4) :
    (protocol.obeyNetworkCommand message).obeyCurrentDataLinkCommand message =
      { protocol with broadcastState := true } := by
  by_cases hstart : commandFor .currentDataLink message = .startBroadcast
  · exact obey_of_currentDataLink_start hstart hduration
  · have hnumber := hread.resolve_left hstart
    have hstop : commandFor .currentDataLink message ≠ .stopBroadcast := by
      intro hlink
      rw [appliedCommand, hlink] at h
      exact absurd h StopStartCommand.noConfusion
    have hcommand : commandFor protocol.networkType message = .startBroadcast := by
      rw [appliedCommand] at h
      cases hlink : commandFor .currentDataLink message with
      | stopBroadcast => exact absurd hlink hstop
      | startBroadcast => exact absurd hlink hstart
      | reserved => rwa [hlink] at h
      | dontCareNoAction => rwa [hlink] at h
    rw [obey_of_network hstop hstart, obeyNetworkCommand, networkCommand_of_lt message hnumber,
      hcommand]

theorem obey_of_none (hstop : appliedCommand protocol.networkType message ≠ .stopBroadcast)
    (hstart : appliedCommand protocol.networkType message ≠ .startBroadcast)
    (hnumber : protocol.networkType.number < 4) :
    (protocol.obeyNetworkCommand message).obeyCurrentDataLinkCommand message = protocol := by
  have hlinkStop : commandFor .currentDataLink message ≠ .stopBroadcast := by
    intro hlink
    rw [appliedCommand, hlink] at hstop
    exact hstop rfl
  have hlinkStart : commandFor .currentDataLink message ≠ .startBroadcast := by
    intro hlink
    rw [appliedCommand, hlink] at hstart
    exact hstart rfl
  have happlied : appliedCommand protocol.networkType message =
      commandFor protocol.networkType message := by
    rw [appliedCommand]
    cases hlink : commandFor .currentDataLink message with
    | stopBroadcast => exact absurd hlink hlinkStop
    | startBroadcast => exact absurd hlink hlinkStart
    | reserved => rfl
    | dontCareNoAction => rfl
  rw [obey_of_network hlinkStop hlinkStart, obeyNetworkCommand,
    networkCommand_of_lt message hnumber, ← happlied]
  cases hcommand : appliedCommand protocol.networkType message with
  | stopBroadcast => exact absurd hcommand hstop
  | startBroadcast => exact absurd hcommand hstart
  | reserved => rfl
  | dontCareNoAction => rfl

structure SameSuspension (protocol protocol' : DiagnosticProtocol) : Prop where
  state : protocol'.broadcastState = protocol.broadcastState
  duration : protocol'.customDM13SuspensionTime = protocol.customDM13SuspensionTime
  received : protocol'.lastDM13ReceivedTimestamp = protocol.lastDM13ReceivedTimestamp

theorem SameSuspension.refl (protocol : DiagnosticProtocol) : protocol.SameSuspension protocol :=
  ⟨rfl, rfl, rfl⟩

section

variable (protocol : DiagnosticProtocol)

theorem sameSuspension_clearActiveDiagnosticTroubleCodes :
    protocol.SameSuspension protocol.clearActiveDiagnosticTroubleCodes := by
  rw [clearActiveDiagnosticTroubleCodes]
  split_ifs <;> exact ⟨rfl, rfl, rfl⟩

theorem sameSuspension_setDiagnosticTroubleCodeActive (dtc : DiagnosticTroubleCode)
    (active : Bool) :
    protocol.SameSuspension (protocol.setDiagnosticTroubleCodeActive env dtc active) := by
  rw [setDiagnosticTroubleCodeActive]
  by_cases hactive : active = true
  · rw [if_pos hactive, activate]
    split_ifs
    · exact .refl protocol
    · cases protocol.inactiveDTCList.find? (·.sameCode dtc) with
      | some known => exact ⟨rfl, rfl, rfl⟩
      | none =>
        rw [announceNewCode]
        split_ifs <;> exact ⟨rfl, rfl, rfl⟩
  · rw [if_neg hactive, deactivate]
    split_ifs
    · exact .refl protocol
    · cases protocol.activeDTCList.find? (·.sameCode dtc) <;> exact ⟨rfl, rfl, rfl⟩

theorem sameSuspension_processDiagnosticMessage22 (message : CANMessage) :
    protocol.SameSuspension (protocol.processDiagnosticMessage22 message) := by
  rw [processDiagnosticMessage22]
  split_ifs
  · rw [requestToClearActive]
    cases protocol.activeDTCList.find? (isRequested message) <;> exact ⟨rfl, rfl, rfl⟩
  · rw [requestToClearPreviouslyActive]
    split_ifs <;> exact ⟨rfl, rfl, rfl⟩
  · exact .refl protocol
  · exact .refl protocol

theorem sameSuspension_processMessage {message : CANMessage}
    (h : ¬protocol.isSuspensionMessage message) :
    protocol.SameSuspension (protocol.processMessage message env) := by
  rw [processMessage]
  by_cases haddressed : protocol.isAddressed message = true
  · rw [if_pos haddressed]
    by_cases h13 : message.identifier.getParameterGroupNumber = DIAGNOSTIC_MESSAGE_13
    · rw [if_pos h13, processDiagnosticMessage13, if_neg fun hlength =>
        h ⟨haddressed, h13, hlength⟩]
      exact .refl protocol
    · rw [if_neg h13]
      split_ifs
      · exact protocol.sameSuspension_processDiagnosticMessage22 message
      · exact .refl protocol
  · rw [if_neg haddressed]
    exact .refl protocol

theorem sameSuspension_processParameterGroupNumberRequest (parameterGroupNumber : UInt32)
    (requester : Option CFRef) : protocol.SameSuspension
      (protocol.processParameterGroupNumberRequest parameterGroupNumber requester).1 := by
  cases requester with
  | none => exact .refl protocol
  | some requester =>
    unfold processParameterGroupNumberRequest
    dsimp only
    by_cases h11 : parameterGroupNumber = DIAGNOSTIC_MESSAGE_11
    · rw [h11]
      exact protocol.sameSuspension_clearActiveDiagnosticTroubleCodes
    · rw [if_neg h11]
      split_ifs <;> exact ⟨rfl, rfl, rfl⟩

theorem update_sameSuspension :
    (protocol.resumeBroadcasts env).SameSuspension (Turn.update env ⟨protocol, []⟩).protocol := by
  have hschedule : (protocol.resumeBroadcasts env).SameSuspension
      ((protocol.resumeBroadcasts env).scheduleDM1 env) := by
    rw [scheduleDM1]
    split_ifs <;> exact ⟨rfl, rfl, rfl⟩
  obtain ⟨_, _, _, _, hsent⟩ := Turn.processAllFlags_sendsOnly env
    ((⟨protocol, []⟩ : Turn).map fun protocol => (protocol.resumeBroadcasts env).scheduleDM1 env)
  rw [Turn.update, hsent]
  exact ⟨hschedule.state, hschedule.duration, hschedule.received⟩

end

end DiagnosticProtocol

/-- The protocol and the commanded suspension agree, as far as updates can tell. -/
structure Watched.Agrees (watched : Watched) : Prop where
  noDuration : watched.protocol.customDM13SuspensionTime = 0
  off : watched.protocol.broadcastState = false → ∃ since, watched.suspension = .indefinite since ∧
    since ≤ watched.time ∧ watched.protocol.lastDM13ReceivedTimestamp = UInt32.ofNat since
  on : watched.protocol.broadcastState = true → ¬watched.suspension.InForce watched.time

theorem Suspension.InForce.of_later {suspension : Suspension} {time time' : Nat} (h : time ≤ time')
    (hforce : suspension.InForce time') : suspension.InForce time := by
  cases suspension with
  | broadcasting => exact hforce
  | temporary deadline => exact lt_of_le_of_lt h hforce
  | indefinite since => exact lt_of_le_of_lt h hforce

namespace Watched

variable {watched : Watched} {call : TimedCall}

theorem Agrees.of_same (h : watched.Agrees) {protocol : DiagnosticProtocol}
    (hsame : watched.protocol.SameSuspension protocol) :
    Agrees ⟨protocol, watched.later call, watched.suspension⟩ := by
  have hlater : watched.time ≤ watched.later call := Nat.le_add_right _ _
  refine ⟨hsame.duration.trans h.noDuration, fun hoff => ?_, fun hon hforce => ?_⟩
  · obtain ⟨since, hsuspension, hsince, hreceived⟩ := h.off (hsame.state.symm.trans hoff)
    exact ⟨since, hsuspension, hsince.trans hlater, hsame.received.trans hreceived⟩
  · exact h.on (hsame.state.symm.trans hon) (hforce.of_later hlater)

theorem timeExpired_iff {now : Nat} {since : Nat} (accepts : Nat → Bool) (timeout : UInt32)
    (h : since ≤ now) :
    (⟨UInt32.ofNat now, accepts⟩ : Environment).timeExpired (UInt32.ofNat since) timeout = true ↔
      timeout.toNat ≤ (now - since) % 2 ^ 32 := by
  have helapsed : (UInt32.ofNat now - UInt32.ofNat since).toNat = (now - since) % 2 ^ 32 := by
    rw [UInt32.toNat_sub, UInt32.toNat_ofNat', UInt32.toNat_ofNat']
    omega
  rw [Environment.timeExpired, Environment.timeElapsed, decide_eq_true_iff]
  change timeout ≤ _ ↔ _
  rw [UInt32.le_iff_toNat_le, helapsed]

theorem Agrees.update (h : watched.Agrees) (hok : ∀ since, watched.protocol.broadcastState = false →
      watched.suspension = .indefinite since →
      since + DM13_TIMEOUT_MS.toNat ≤ watched.later call →
      DM13_TIMEOUT_MS.toNat ≤ (watched.later call - since) % 2 ^ 32) :
    let protocol := watched.protocol.resumeBroadcasts
      ⟨UInt32.ofNat (watched.later call), call.accepts⟩
    Agrees ⟨protocol, watched.later call, watched.suspension⟩ ∧
      (protocol.broadcastState = false ↔ watched.suspension.InForce (watched.later call)) := by
  have hlater : watched.time ≤ watched.later call := Nat.le_add_right _ _
  rw [DiagnosticProtocol.resumeBroadcasts, if_neg (not_not.mpr h.noDuration)]
  cases hstate : watched.protocol.broadcastState with
  | true =>
    have hnot : ¬watched.suspension.InForce (watched.later call) :=
      fun hforce => h.on hstate (hforce.of_later hlater)
    split_ifs
    · exact ⟨⟨h.noDuration, fun hoff => absurd hoff.symm Bool.false_ne_true, fun _ => hnot⟩,
        iff_of_false (by simp) hnot⟩
    · refine ⟨h.of_same (.refl _), iff_of_false ?_ hnot⟩
      rw [hstate]
      exact fun hoff => absurd hoff.symm Bool.false_ne_true
  | false =>
    obtain ⟨since, hsuspension, hsince, hreceived⟩ := h.off hstate
    have hexpired := timeExpired_iff call.accepts DM13_TIMEOUT_MS (hsince.trans hlater)
    have hready := hok since hstate hsuspension
    have hforce : watched.suspension.InForce (watched.later call) ↔
        watched.later call < since + DM13_TIMEOUT_MS.toNat := by
      rw [hsuspension]
      exact Iff.rfl
    rw [hreceived]
    split_ifs with htime
    · rw [hexpired] at htime
      have hnot : ¬watched.suspension.InForce (watched.later call) := by
        rw [hforce]
        omega
      exact ⟨⟨h.noDuration, fun hoff => absurd hoff.symm Bool.false_ne_true, fun _ => hnot⟩,
        iff_of_false (by simp) hnot⟩
    · rw [hexpired] at htime
      refine ⟨h.of_same (.refl _), iff_of_true hstate ?_⟩
      rw [hforce]
      by_contra hlate
      exact htime (hready (Nat.not_lt.mp hlate))

theorem Agrees.message (h : watched.Agrees) {message : CANMessage}
    (hmessage : watched.protocol.isSuspensionMessage message)
    (hok : watched.Readable call message) :
    Agrees ⟨watched.protocol.processMessage message
        ⟨UInt32.ofNat (watched.later call), call.accepts⟩, watched.later call,
      watched.suspension.obey (watched.later call) watched.protocol.networkType message⟩ := by
  have hlater : watched.time ≤ watched.later call := Nat.le_add_right _ _
  rw [DiagnosticProtocol.processMessage_of_isSuspensionMessage _ hmessage, Suspension.obey]
  rw [Readable] at hok
  have hnone (hstop : appliedCommand watched.protocol.networkType message ≠ .stopBroadcast)
      (hstart : appliedCommand watched.protocol.networkType message ≠ .startBroadcast)
      (hread : watched.protocol.networkType.number < 4 ∧
        (watched.protocol.broadcastState = false →
          isHold message = true ∧ watched.suspension.InForce (watched.later call))) :
      Agrees ⟨{ (watched.protocol.obeyNetworkCommand message).obeyCurrentDataLinkCommand
          message with
          lastDM13ReceivedTimestamp := UInt32.ofNat (watched.later call) }, watched.later call,
        if isHold message then watched.suspension.hold (watched.later call)
        else watched.suspension⟩ := by
    rw [DiagnosticProtocol.obey_of_none hstop hstart hread.1]
    refine ⟨h.noDuration, fun hoff => ?_, fun hon => ?_⟩
    · obtain ⟨since, hsuspension, -⟩ := h.off hoff
      obtain ⟨hhold, hforce⟩ := hread.2 hoff
      refine ⟨watched.later call, ?_, le_rfl, rfl⟩
      rw [hsuspension] at hforce ⊢
      rw [if_pos hhold, Suspension.hold, if_pos hforce]
    · have hnot : ¬watched.suspension.InForce (watched.later call) :=
        fun hforce => h.on hon (hforce.of_later hlater)
      have hkept : watched.suspension.hold (watched.later call) = watched.suspension := by
        cases hsuspension : watched.suspension with
        | broadcasting => rfl
        | temporary deadline => rfl
        | indefinite since =>
          rw [hsuspension] at hnot
          exact if_neg hnot
      rw [hkept, ite_self]
      exact hnot
  cases hcommand : appliedCommand watched.protocol.networkType message with
  | stopBroadcast =>
    rw [hcommand] at hok
    have hofStop : Suspension.ofStop (watched.later call) message =
        .indefinite (watched.later call) := by
      rw [Suspension.ofStop]
      split_ifs with htemporary
      · rw [Suspension.forSeconds, if_neg (UInt16.not_le.mpr (hok htemporary).2)]
      · rfl
    rw [DiagnosticProtocol.obey_of_stop hcommand h.noDuration
      (fun htemporary => (hok htemporary).1), hofStop]
    exact ⟨h.noDuration, fun _ => ⟨_, rfl, le_rfl, rfl⟩,
      fun hon => absurd hon Bool.false_ne_true⟩
  | startBroadcast =>
    rw [hcommand] at hok
    rw [DiagnosticProtocol.obey_of_start hcommand h.noDuration hok]
    exact ⟨h.noDuration, fun hoff => absurd hoff.symm Bool.false_ne_true, fun _ hforce => hforce⟩
  | reserved =>
    rw [hcommand] at hok
    exact hnone (by rw [hcommand]; decide) (by rw [hcommand]; decide) hok
  | dontCareNoAction =>
    rw [hcommand] at hok
    exact hnone (by rw [hcommand]; decide) (by rw [hcommand]; decide) hok

theorem Agrees.next (h : watched.Agrees) (hok : watched.Follows call) :
    (watch.next watched call).Agrees := by
  change Agrees ⟨(watched.protocol.serve _ call.call).protocol, watched.later call,
    watched.commanded call⟩
  rw [commanded]
  rw [Follows] at hok
  cases hcall : call.call with
  | update =>
    rw [hcall] at hok
    obtain ⟨hagrees, -⟩ := h.update hok
    have hsame := watched.protocol.update_sameSuspension
      ⟨UInt32.ofNat (watched.later call), call.accepts⟩
    exact ⟨hsame.duration.trans hagrees.noDuration,
      fun hoff => by
        obtain ⟨since, hsuspension, hsince, hreceived⟩ :=
            hagrees.off (hsame.state.symm.trans hoff)
        exact ⟨since, hsuspension, hsince, hsame.received.trans hreceived⟩,
      fun hon => hagrees.on (hsame.state.symm.trans hon)⟩
  | suspendBroadcasts suspendTime =>
    rw [hcall] at hok
    exact hok.elim
  | processMessage message =>
    rw [hcall] at hok
    dsimp only
    split_ifs with hmessage
    · exact h.message hmessage (hok hmessage)
    · exact h.of_same (watched.protocol.sameSuspension_processMessage _ hmessage)
  | clearActiveDiagnosticTroubleCodes =>
    exact h.of_same watched.protocol.sameSuspension_clearActiveDiagnosticTroubleCodes
  | setDiagnosticTroubleCodeActive dtc active =>
    exact h.of_same (watched.protocol.sameSuspension_setDiagnosticTroubleCodeActive _ dtc active)
  | onAddressViolation address =>
    refine h.of_same ?_
    rw [DiagnosticProtocol.serve, DiagnosticProtocol.onAddressViolation]
    split_ifs
    · exact watched.protocol.sameSuspension_setDiagnosticTroubleCodeActive _ _ true
    · exact .refl _
  | processParameterGroupNumberRequest parameterGroupNumber requester =>
    exact h.of_same
      (watched.protocol.sameSuspension_processParameterGroupNumberRequest _ requester)
  | setEcuIdField field value =>
    refine h.of_same ?_
    rw [DiagnosticProtocol.serve, DiagnosticProtocol.setEcuIdField]
    split_ifs <;> exact ⟨rfl, rfl, rfl⟩
  | setJ1939Mode value => exact h.of_same ⟨rfl, rfl, rfl⟩
  | clearInactiveDiagnosticTroubleCodes => exact h.of_same ⟨rfl, rfl, rfl⟩
  | setProductIdentificationCode value => exact h.of_same ⟨rfl, rfl, rfl⟩
  | setProductIdentificationBrand value => exact h.of_same ⟨rfl, rfl, rfl⟩
  | setProductIdentificationModel value => exact h.of_same ⟨rfl, rfl, rfl⟩
  | setSoftwareIdField index value => exact h.of_same ⟨rfl, rfl, rfl⟩
  | clearSoftwareIdFields => exact h.of_same ⟨rfl, rfl, rfl⟩

end Watched

theorem suspendsAsCommanded_of_agrees {watched : Watched} {call : TimedCall} (h : watched.Agrees)
    (hok : watched.Follows call) : SuspendsAsCommanded watched call := by
  intro hcall
  change (watched.protocol.serve _ call.call).protocol.broadcastState = false ↔
    (watched.commanded call).InForce (watched.later call)
  rw [Watched.Follows, hcall] at hok
  rw [Watched.commanded, hcall]
  obtain ⟨-, hiff⟩ := h.update hok
  have hsame := watched.protocol.update_sameSuspension
    ⟨UInt32.ofNat (watched.later call), call.accepts⟩
  rw [← hiff]
  exact iff_of_eq (congrArg (· = false) hsame.state)

/-- While the calls keep the protocol at its commands, every update finds broadcasting off exactly
if the commanded suspension is in force. -/
theorem suspendsAsCommanded_along {watched : Watched}
    (hstate : watched.protocol.broadcastState = true)
    (hduration : watched.protocol.customDM13SuspensionTime = 0)
    (hsuspension : watched.suspension = .broadcasting) (calls : List TimedCall)
    (hok : watch.Along Watched.Follows watched calls) :
    watch.Along SuspendsAsCommanded watched calls := by
  have hstart : watched.Agrees := by
    refine ⟨hduration, fun hoff => ?_, fun _ hforce => ?_⟩
    · rw [hstate] at hoff
      exact absurd hoff.symm Bool.false_ne_true
    · rw [hsuspension] at hforce
      exact hforce
  exact watch.along_of_invariant_along (fun _ _ h => Watched.Agrees.next h)
    (fun _ _ h => suspendsAsCommanded_of_agrees h) hstart calls hok

/-- A DM13 to everybody. -/
def suspensionMessage (networks signals low high : UInt8) : CANMessage where
  identifier := .ofFields .extended DIAGNOSTIC_MESSAGE_13 6 0xFF 0x26
  data := [networks, 0xFF, 0xFF, signals, low, high, 0xFF, 0xFF]
  source := some 1
  destination := none
  canPortIndex := 0
  timestampUs := 0

def broadcastingNode : Watched where
  protocol :=
    { myControlFunction := 0, networkType := .saeJ1939Network1PrimaryVehicleNetwork }
  time := 0
  suspension := .broadcasting

/-- An indefinite stop, a hold after five seconds, and updates around the timeout. -/
def heldSuspension : List TimedCall :=
  [⟨1000, fun _ => true, .processMessage (suspensionMessage 0xFC 0xF0 0xFF 0xFF)⟩,
    ⟨5000, fun _ => true, .update⟩,
    ⟨500, fun _ => true, .processMessage (suspensionMessage 0xFF 0x0F 0xFF 0xFF)⟩,
    ⟨5999, fun _ => true, .update⟩, ⟨1, fun _ => true, .update⟩]

theorem heldSuspension_as_commanded :
    watch.Along SuspendsAsCommanded broadcastingNode heldSuspension := by
  refine suspendsAsCommanded_along rfl rfl rfl heldSuspension ⟨fun _ htemporary => ?_,
    fun since _ hsince hlate => ?_, fun _ => ⟨by decide, fun _ => ⟨by decide, by decide⟩⟩,
    fun since _ hsince hlate => ?_, fun since _ hsince hlate => ?_, trivial⟩
  · exact absurd htemporary (by decide)
  · cases hsince
    exact absurd hlate (by decide)
  · cases hsince
    exact absurd hlate (by decide)
  · cases hsince
    decide

/-- Ten seconds are over after three: the duration is read one byte too early, and in
milliseconds. -/
theorem tenSeconds_not_as_commanded :
    ¬watch.Along SuspendsAsCommanded broadcastingNode
      [⟨1000, fun _ => true, .processMessage (suspensionMessage 0xFC 0xF2 0x0A 0x00)⟩,
        ⟨3000, fun _ => true, .update⟩] := by
  intro h
  have hoff := (h.2.1 rfl).mpr (by decide)
  cases hoff

end Isobus.Diagnostics
