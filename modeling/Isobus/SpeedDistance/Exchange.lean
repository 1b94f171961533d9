import Isobus.Lib.Machine
import Isobus.SpeedDistance.Interface

namespace Isobus.SpeedDistance

open Isobus.Can Isobus.Lib

def saidMachineSelectedSpeed (message : CANMessage) : MachineSelectedSpeedData :=
  { decodedMachineSelectedSpeed message with
    limitStatus := fieldOfByte 3 (message.getUint8At 7 >>> 5) }

namespace SpeedMessage

def said : (kind : SpeedMessage) → CANMessage → kind.Data
  | wheelBasedSpeed => decodedWheelBasedSpeed
  | machineSelectedSpeed => saidMachineSelectedSpeed
  | groundBasedSpeed => decodedGroundBasedSpeed
  | machineSelectedSpeedCommand => decodedMachineSelectedSpeedCommand

/-- The values that the getters return. -/
def shown : (kind : SpeedMessage) → kind.Data → kind.Data
  | wheelBasedSpeed => fun (data : WheelBasedMachineSpeedData) =>
    { data with
      wheelBasedMachineSpeed := shownSpeed data.wheelBasedMachineSpeed
      wheelBasedMachineDistance := shownDistance data.wheelBasedMachineDistance }
  | machineSelectedSpeed => fun (data : MachineSelectedSpeedData) =>
    { data with
      machineSelectedSpeed := shownSpeed data.machineSelectedSpeed
      machineSelectedSpeedDistance := shownDistance data.machineSelectedSpeedDistance }
  | groundBasedSpeed => fun (data : GroundBasedSpeedData) =>
    { data with
      groundBasedMachineSpeed := shownSpeed data.groundBasedMachineSpeed
      groundBasedMachineDistance := shownDistance data.groundBasedMachineDistance }
  | machineSelectedSpeedCommand => fun (data : MachineSelectedSpeedCommandData) =>
    { data with
      speedCommandedSetpoint := shownSpeed data.speedCommandedSetpoint
      speedSetpointLimit := shownSpeed data.speedSetpointLimit }

/-- The exit reason code is the only field that is narrower on the wire than its type. -/
def Fits : (kind : SpeedMessage) → kind.Data → Prop
  | machineSelectedSpeed => fun (data : MachineSelectedSpeedData) => data.exitReasonCode < 64
  | _ => fun _ => True

end SpeedMessage

def heard? (message : CANMessage) : Option (SpeedMessage × CFRef) :=
  if message.data.length = CAN_DATA_LENGTH then
    (speedMessage? message.identifier.getParameterGroupNumber).bind fun kind =>
      message.source.map fun source => (kind, source)
  else none

section Bytes

variable (d k i r : BitVec 2) (s l : BitVec 3)

theorem wheelBased_fields :
    let byte := byteOfField d ||| (byteOfField k <<< 2) ||| (byteOfField i <<< 4) |||
      (byteOfField r <<< 6)
    fieldOfByte 2 (byte &&& 0x03) = d ∧ fieldOfByte 2 ((byte >>> 2) &&& 0x03) = k ∧
      fieldOfByte 2 ((byte >>> 4) &&& 0x03) = i ∧ fieldOfByte 2 ((byte >>> 6) &&& 0x03) = r := by
  refine ⟨?_, ?_, ?_, ?_⟩ <;>
  · apply BitVec.eq_of_getLsbD_eq
    intro n hn
    interval_cases n <;> simp [fieldOfByte, byteOfField]

theorem machineSelected_fields :
    let byte := byteOfField d ||| (byteOfField s <<< 2) ||| (byteOfField l <<< 5)
    fieldOfByte 2 (byte &&& 0x03) = d ∧ fieldOfByte 3 ((byte >>> 2) &&& 0x07) = s ∧
      fieldOfByte 3 (byte >>> 5) = l := by
  refine ⟨?_, ?_, ?_⟩ <;>
  · apply BitVec.eq_of_getLsbD_eq
    intro n hn
    interval_cases n <;> simp [fieldOfByte, byteOfField]

theorem direction_field : fieldOfByte 2 ((0xFC ||| byteOfField d) &&& 0x03) = d := by
  apply BitVec.eq_of_getLsbD_eq
  intro n hn
  interval_cases n <;> simp [fieldOfByte, byteOfField]

end Bytes

theorem exitReasonCode_field {code : UInt8} (h : code < 64) :
    ((0xC0 : UInt8) ||| (code &&& 0x7F)) &&& 0x3F = code := by
  have hbits : ∀ bits : BitVec 8, bits < 64 → (0xC0 ||| (bits &&& 0x7F)) &&& 0x3F = bits := by
    decide +kernel
  exact UInt8.toBitVec_inj.mp (hbits code.toBitVec h)

theorem speedMessage?_parameterGroupNumber (kind : SpeedMessage) :
    speedMessage? kind.parameterGroupNumber = some kind := by
  cases kind <;> rfl

theorem length_buffer (kind : SpeedMessage) (data : kind.Data) :
    (kind.buffer data).length = CAN_DATA_LENGTH := by
  cases kind <;> rfl

theorem heard?_toMessage (interface : SpeedMessagesInterface) (kind : SpeedMessage)
    {source : CFRef} (hsender : interface.sender kind = some source) (world : World)
    (timestampUs : UInt64) :
    heard? ((interface.frame kind).toMessage world timestampUs) = some (kind, source) := by
  have hgroup :
      ((interface.frame kind).toMessage world timestampUs).identifier.getParameterGroupNumber =
        kind.parameterGroupNumber := by
    apply CANIdentifier.getParameterGroupNumber_ofFields_pdu2 kind.parameterGroupNumber
    · cases kind <;> rfl
    · cases kind <;> rfl
  rw [heard?, hgroup, speedMessage?_parameterGroupNumber]
  change (if (kind.buffer _).length = CAN_DATA_LENGTH then _ else _) = _
  rw [if_pos (length_buffer kind _)]
  change (interface.sender kind).map _ = _
  rw [hsender]
  rfl

theorem said_toMessage (interface : SpeedMessagesInterface) (kind : SpeedMessage)
    (hfits : kind.Fits (interface.transmitData kind)) (world : World) (timestampUs : UInt64) :
    kind.said ((interface.frame kind).toMessage world timestampUs) =
      kind.shown (interface.transmitData kind) := by
  cases kind with
  | wheelBasedSpeed =>
    let data : WheelBasedMachineSpeedData := interface.transmitData .wheelBasedSpeed
    obtain ⟨hd, hk, hi, hr⟩ := wheelBased_fields data.machineDirectionState data.keySwitchState
      data.implementStartStopOperationsState data.operatorDirectionReversedState
    rw [SpeedMessage.said, SpeedMessage.shown, decodedWheelBasedSpeed,
      WheelBasedMachineSpeedData.mk.injEq]
    exact ⟨decode32_byteOf _, decode16_byteOf _, rfl, hd, hk, hi, hr⟩
  | machineSelectedSpeed =>
    let data : MachineSelectedSpeedData := interface.transmitData .machineSelectedSpeed
    obtain ⟨hd, hs, hl⟩ := machineSelected_fields data.machineDirectionState data.source
      data.limitStatus
    rw [SpeedMessage.said, SpeedMessage.shown, saidMachineSelectedSpeed,
      decodedMachineSelectedSpeed, MachineSelectedSpeedData.mk.injEq]
    exact ⟨decode32_byteOf _, decode16_byteOf _, exitReasonCode_field hfits, hs, hl, hd⟩
  | groundBasedSpeed =>
    let data : GroundBasedSpeedData := interface.transmitData .groundBasedSpeed
    rw [SpeedMessage.said, SpeedMessage.shown, decodedGroundBasedSpeed,
      GroundBasedSpeedData.mk.injEq]
    exact ⟨decode32_byteOf _, decode16_byteOf _, direction_field data.machineDirectionState⟩
  | machineSelectedSpeedCommand =>
    let data : MachineSelectedSpeedCommandData :=
      interface.transmitData .machineSelectedSpeedCommand
    rw [SpeedMessage.said, SpeedMessage.shown, decodedMachineSelectedSpeedCommand,
      MachineSelectedSpeedCommandData.mk.injEq]
    exact ⟨decode16_byteOf _, decode16_byteOf _, direction_field data.machineDirectionCommand⟩

inductive SpeedCall
  | update
  | processRxMessage (message : CANMessage)

/-- A receiver, with what the last message of each kind and source said. -/
structure Listening where
  interface : SpeedMessagesInterface
  previous : (kind : SpeedMessage) → CFRef → Option kind.Data

namespace Listening

variable (listening : Listening) (input : Environment × SpeedCall)

def serve : SpeedMessagesInterface × List SpeedEvent :=
  match input.2 with
  | .update => listening.interface.update input.1
  | .processRxMessage message => listening.interface.processRxMessage input.1 message

def hear (message : CANMessage) : (kind : SpeedMessage) → CFRef → Option kind.Data :=
  match heard? message with
  | some (kind, source) =>
    Function.update listening.previous kind
      (Function.update (listening.previous kind) source (some (kind.said message)))
  | none => listening.previous

def heard : (kind : SpeedMessage) → CFRef → Option kind.Data :=
  match input.2 with
  | .update => listening.previous
  | .processRxMessage message => listening.hear message

end Listening

def listen : Machine Listening (Environment × SpeedCall) SpeedEvent where
  step listening input :=
    (⟨(listening.serve input).1, listening.heard input⟩, (listening.serve input).2)

/-- After a message, the entry of its source has the values it said, and the event tells whether
they changed. -/
def Listening.TellsAsSaid (listening : Listening) (input : Environment × SpeedCall) : Prop :=
  ∀ message, input.2 = .processRxMessage message → ∀ kind source,
    heard? message = some (kind, source) →
      ∃ received changed,
        ((listen.next listening input).interface.receivedMessages kind).lookup source =
          some received ∧
        received.data = kind.said message ∧
        listen.emits listening input = [.received kind source received changed] ∧
        ∀ previous ∈ listening.previous kind source,
          changed = true ↔ kind.said message ≠ previous

/-- The limit status fits two bits, a command repeats the one before it, and an entry removed in
between could as well have been kept. -/
def Listening.Comparable (listening : Listening) (input : Environment × SpeedCall) : Prop :=
  ∀ message, input.2 = .processRxMessage message → ∀ kind source,
    heard? message = some (kind, source) →
      (kind = .machineSelectedSpeed → message.getUint8At 7 >>> 5 < 4) ∧
      ∀ previous ∈ listening.previous kind source,
        if kind = .machineSelectedSpeedCommand then kind.said message = previous
        else (listening.interface.receivedMessages kind).lookup source = none →
          (kind.said message = kind.constructed ↔ kind.said message = previous)

def Remembers (listening : Listening) : Prop :=
  ∀ kind source received, (listening.interface.receivedMessages kind).lookup source =
    some received → listening.previous kind source = some received.data

theorem decoded_eq_said_iff (kind : SpeedMessage) (message : CANMessage) :
    kind.decoded message = kind.said message ↔
      (kind = .machineSelectedSpeed → message.getUint8At 7 >>> 5 < 4) := by
  cases kind with
  | wheelBasedSpeed => exact iff_of_true rfl fun h => absurd h (by decide)
  | groundBasedSpeed => exact iff_of_true rfl fun h => absurd h (by decide)
  | machineSelectedSpeedCommand => exact iff_of_true rfl fun h => absurd h (by decide)
  | machineSelectedSpeed =>
    have hbits : ∀ bits : BitVec 8,
        ((bits >>> 5 &&& 0x03).setWidth 3 = (bits >>> 5).setWidth 3) ↔ bits >>> 5 < 4 := by
      decide +kernel
    have hlimit : fieldOfByte 3 ((message.getUint8At 7 >>> 5) &&& 0x03) =
        fieldOfByte 3 (message.getUint8At 7 >>> 5) ↔ message.getUint8At 7 >>> 5 < 4 :=
      hbits (message.getUint8At 7).toBitVec
    rw [SpeedMessage.decoded, SpeedMessage.said, saidMachineSelectedSpeed,
      decodedMachineSelectedSpeed, MachineSelectedSpeedData.mk.injEq]
    simp only [true_and, and_true, hlimit, true_imp_iff]

variable {message : CANMessage} {kind : SpeedMessage} {source : CFRef}

theorem processRxMessage_of_heard (h : heard? message = some (kind, source))
    (interface : SpeedMessagesInterface) (env : Environment) :
    interface.processRxMessage env message = interface.receive env kind source message := by
  rw [heard?] at h
  split_ifs at h with hlength
  obtain ⟨kind', hkind, hsource⟩ := Option.bind_eq_some_iff.mp h
  obtain ⟨source', hsource', heq⟩ := Option.map_eq_some_iff.mp hsource
  cases heq
  rw [SpeedMessagesInterface.processRxMessage, hkind]
  simp only [hlength, if_true, hsource']

theorem processRxMessage_of_not_heard (h : heard? message = none)
    (interface : SpeedMessagesInterface) (env : Environment) :
    interface.processRxMessage env message = (interface, []) := by
  rw [SpeedMessagesInterface.processRxMessage]
  cases hkind : speedMessage? message.identifier.getParameterGroupNumber with
  | none => rfl
  | some kind =>
    rw [heard?, hkind, Option.bind_some] at h
    cases hsource : message.source with
    | none => exact ite_self _
    | some source =>
      rw [hsource] at h
      have hlength : ¬message.data.length = CAN_DATA_LENGTH := fun hlength => by
        rw [if_pos hlength] at h
        exact Option.some_ne_none _ h
      exact if_neg hlength

theorem step_of_heard {listening : Listening} {input : Environment × SpeedCall}
    (hmessage : input.2 = .processRxMessage message) (h : heard? message = some (kind, source)) :
    listen.step listening input =
      (⟨(listening.interface.receive input.1 kind source message).1,
        Function.update listening.previous kind
          (Function.update (listening.previous kind) source (some (kind.said message)))⟩,
        (listening.interface.receive input.1 kind source message).2) := by
  simp only [listen, Listening.serve, Listening.heard, Listening.hear, hmessage, h,
    processRxMessage_of_heard h]

theorem changed_iff {listening : Listening} (h : Remembers listening) {said previous : kind.Data}
    (hprevious : previous ∈ listening.previous kind source) :
    (kind.changed said
        ((listening.interface.receivedMessages kind).entryOf source kind.constructed).data = true ↔
        said ≠ previous) ↔
      if kind = .machineSelectedSpeedCommand then said = previous
      else (listening.interface.receivedMessages kind).lookup source = none →
        (said = kind.constructed ↔ said = previous) := by
  rw [SpeedMessage.changed, Bool.and_eq_true, decide_eq_true_iff, decide_eq_true_iff,
    ReceivedMessages.entryOf]
  split_ifs with hcommand
  · simp only [hcommand, ne_eq, not_true_eq_false, false_and, false_iff, not_not]
  · simp only [ne_eq, hcommand, not_false_eq_true, true_and]
    cases hlookup : (listening.interface.receivedMessages kind).lookup source with
    | none =>
      simp only [Option.getD_none, true_imp_iff]
      exact not_iff_not
    | some received =>
      have hsame : previous = received.data :=
        Option.some_inj.mp (hprevious.symm.trans (h kind source received hlookup))
      rw [hsame]
      exact iff_of_true Iff.rfl fun hnone => absurd hnone (Option.some_ne_none _)

theorem tellsAsSaid_iff_comparable {listening : Listening} (h : Remembers listening)
    (input : Environment × SpeedCall) :
    listening.TellsAsSaid input ↔ listening.Comparable input := by
  apply forall_congr'
  intro message
  apply forall_congr'
  intro hmessage
  apply forall_congr'
  intro kind
  apply forall_congr'
  intro source
  apply forall_congr'
  intro hheard
  rw [Machine.next, Machine.emits, step_of_heard hmessage hheard, ← decoded_eq_said_iff]
  simp only [SpeedMessagesInterface.receive, Function.update_self, ReceivedMessages.receive,
    KeyedTable.lookup_set_self, Option.some_inj, exists_and_left, exists_eq_left',
    List.cons.injEq, and_true, SpeedEvent.received.injEq, true_and, heq_eq_eq]
  apply and_congr_right
  intro hdecoded
  rw [hdecoded]
  apply forall_congr'
  intro previous
  exact forall_congr' fun hprevious => changed_iff h hprevious

theorem receivedMessages_update (interface : SpeedMessagesInterface) (env : Environment)
    (kind : SpeedMessage) :
    (interface.update env).1.receivedMessages kind =
      if interface.initialized then
        (interface.receivedMessages kind).prune env SPEED_DISTANCE_MESSAGE_RX_TIMEOUT_MS
      else interface.receivedMessages kind := by
  rw [SpeedMessagesInterface.update]
  split_ifs <;> rfl

theorem remembers_next {listening : Listening} (h : Remembers listening)
    (input : Environment × SpeedCall) (htells : listening.TellsAsSaid input) :
    Remembers (listen.next listening input) := by
  cases hcall : input.2 with
  | update =>
    intro kind source received hlookup
    simp only [Machine.next, listen, Listening.serve, Listening.heard, hcall,
      receivedMessages_update] at hlookup ⊢
    split_ifs at hlookup
    · exact h kind source received (ReceivedMessages.mem_lookup_prune_iff.mp hlookup).1
    · exact h kind source received hlookup
  | processRxMessage message =>
    cases hheard : heard? message with
    | none =>
      have hsame : listen.next listening input = listening := by
        simp only [Machine.next, listen, Listening.serve, Listening.heard, Listening.hear,
          hcall, hheard, processRxMessage_of_not_heard hheard]
      rwa [hsame]
    | some heard =>
      obtain ⟨kind, source⟩ := heard
      obtain ⟨received, changed, hentry, hsaid, -⟩ := htells message hcall kind source hheard
      have hstep : listen.step listening input = _ := step_of_heard hcall hheard
      have hnext : listen.next listening input = _ := congrArg Prod.fst hstep
      intro kind' source' received' hlookup
      obtain rfl | hkind := eq_or_ne kind' kind
      · obtain rfl | hsource := eq_or_ne source' source
        · -- The entry that was just read.
          rw [hentry, Option.some_inj] at hlookup
          rw [hnext, ← hlookup, hsaid]
          simp only [Function.update_self]
        · rw [hnext] at hlookup ⊢
          simp only [SpeedMessagesInterface.receive, Function.update_self,
            ReceivedMessages.receive, Function.update_of_ne hsource] at hlookup ⊢
          rw [KeyedTable.lookup_set_ne _ _ hsource] at hlookup
          exact h kind' source' received' hlookup
      · rw [hnext] at hlookup ⊢
        simp only [SpeedMessagesInterface.receive, Function.update_of_ne hkind] at hlookup ⊢
        exact h kind' source' received' hlookup

def Listening.start (sender : SpeedMessage → Option CFRef)
    (transmitData : (kind : SpeedMessage) → kind.Data) : Listening where
  interface := { sender := sender, transmitData := transmitData, initialized := true }
  previous _ _ := none

/-- Every frame says the values of its sender, and a receiver knows what was said last exactly as
long as it can be compared. -/
theorem exchange_iff (sender : SpeedMessage → Option CFRef)
    (transmitData : (kind : SpeedMessage) → kind.Data) (inputs : List (Environment × SpeedCall)) :
    ((∀ (sending : SpeedMessagesInterface) (kind : SpeedMessage) (source : CFRef) (world : World)
        (timestampUs : UInt64), sending.sender kind = some source →
        kind.Fits (sending.transmitData kind) →
        heard? ((sending.frame kind).toMessage world timestampUs) = some (kind, source) ∧
          kind.said ((sending.frame kind).toMessage world timestampUs) =
            kind.shown (sending.transmitData kind)) ∧
      listen.Along Listening.TellsAsSaid (.start sender transmitData) inputs) ↔
    listen.Along Listening.Comparable (.start sender transmitData) inputs := by
  have hsent (sending : SpeedMessagesInterface) (kind : SpeedMessage) (source : CFRef)
      (world : World) (timestampUs : UInt64) (hsender : sending.sender kind = some source)
      (hfits : kind.Fits (sending.transmitData kind)) :=
    And.intro (heard?_toMessage sending kind hsender world timestampUs)
      (said_toMessage sending kind hfits world timestampUs)
  have hstart : Remembers (.start sender transmitData) := by
    intro kind source received hlookup
    exact absurd hlookup.symm (Option.some_ne_none received)
  rw [and_iff_right hsent]
  exact listen.along_iff_of_kept (P := Remembers)
    (fun _ input h => tellsAsSaid_iff_comparable h input)
    (fun _ input h => remembers_next h input) hstart inputs

/-- A frame of a machine whose selected speed is not available, with this limit status. -/
def limitMessage (limitStatus : BitVec 3) : CANMessage :=
  let transmitData : (kind : SpeedMessage) → kind.Data
    | .machineSelectedSpeed =>
      ({ limitStatus := limitStatus, machineSelectedSpeed := 1000 } : MachineSelectedSpeedData)
    | kind => kind.constructed
  let sending : SpeedMessagesInterface :=
    { sender := fun _ => some 1, transmitData := transmitData }
  (sending.frame .machineSelectedSpeed).toMessage (fun _ => ⟨.external, 0, 0x80, 0⟩) 0

theorem limitMessage_not_asSaid :
    ¬listen.Along Listening.TellsAsSaid (.start (fun _ => none) SpeedMessage.constructed)
      [({ now := 0, world := fun _ => ⟨.external, 0, 0, 0⟩, send := fun _ => true },
        .processRxMessage (limitMessage 6))] := by
  rintro ⟨h, -⟩
  obtain ⟨received, changed, hlookup, hsaid, -, -⟩ :=
    h (limitMessage 6) rfl .machineSelectedSpeed 1 (by decide +kernel)
  have hdata := congrArg (Option.map Received.data) hlookup
  rw [Option.map_some, hsaid] at hdata
  revert hdata
  decide +kernel

end Isobus.SpeedDistance
