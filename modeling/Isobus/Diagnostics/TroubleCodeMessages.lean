import Isobus.Diagnostics.Update

namespace Isobus.Diagnostics

open Isobus.Can Isobus.Lib

/-- The nineteen bits of a parameter number, the upper three above the failure mode. -/
def parameterNumberOf (low middle high : UInt8) : UInt32 :=
  low.toUInt32 ||| middle.toUInt32 <<< 8 ||| ((high &&& 0xE0) >>> 5).toUInt32 <<< 16

def failureModeOf (high : UInt8) : UInt8 := high &&& 0x1F

def sharedByte (suspectParameterNumber : UInt32) (failureModeIdentifier : UInt8) : UInt8 :=
  ((suspectParameterNumber >>> 16) &&& 0xFF).toUInt8 <<< 5 ||| (failureModeIdentifier &&& 0x1F)

theorem toUInt8_and (value : UInt32) : (value &&& 0xFF).toUInt8 = value.toUInt8 := by
  rw [← UInt8.toNat_inj, UInt32.toNat_toUInt8, UInt32.toNat_toUInt8, UInt32.toNat_and]
  change (value.toNat &&& (2 ^ 8 - 1)) % 2 ^ 8 = _
  rw [Nat.and_two_pow_sub_one_eq_mod, Nat.mod_mod]

theorem shiftRight_sharedByte (spn : UInt32) (fmi : UInt8) :
    (sharedByte spn fmi &&& 0xE0) >>> 5 = (spn >>> 16).toUInt8 &&& 7 := by
  rw [sharedByte, toUInt8_and]
  generalize (spn >>> 16).toUInt8 = b
  rw [← UInt8.toBitVec_inj]
  apply BitVec.eq_of_getLsbD_eq
  intro i hi
  simp
  interval_cases i <;> simp

theorem failureModeOf_sharedByte {fmi : UInt8} (spn : UInt32) (h : fmi < 32) :
    failureModeOf (sharedByte spn fmi) = fmi := by
  have hhigh (k : Nat) (hk : 5 ≤ k) (hlt : k < 8) : fmi.toBitVec[k] = false :=
    Nat.testBit_lt_two_pow (lt_of_lt_of_le (UInt8.lt_iff_toNat_lt.mp h)
      (Nat.pow_le_pow_right Nat.zero_lt_two hk))
  rw [failureModeOf, sharedByte]
  generalize ((spn >>> 16) &&& 0xFF).toUInt8 = b
  rw [← UInt8.toBitVec_inj]
  apply BitVec.eq_of_getLsbD_eq
  intro i hi
  simp
  interval_cases i <;> simp
  · exact hhigh 5 (by decide) (by decide)
  · exact hhigh 6 (by decide) (by decide)
  · exact hhigh 7 (by decide) (by decide)

theorem parameterNumberOf_bytes {spn : UInt32} (fmi : UInt8) (h : spn.toNat < 2 ^ 19) :
    parameterNumberOf (spn &&& 0xFF).toUInt8 ((spn >>> 8) &&& 0xFF).toUInt8 (sharedByte spn fmi) =
      spn := by
  have hhigh (k : Nat) (hk : 19 ≤ k) (hlt : k < 32) : spn.toBitVec[k] = false :=
    Nat.testBit_lt_two_pow (lt_of_lt_of_le h (Nat.pow_le_pow_right Nat.zero_lt_two hk))
  rw [parameterNumberOf, shiftRight_sharedByte, toUInt8_and, toUInt8_and, ← UInt32.toBitVec_inj]
  apply BitVec.eq_of_getLsbD_eq
  intro i hi
  simp [-UInt32.toUInt32_toUInt8]
  interval_cases i <;> simp
  all_goals
    apply hhigh
    decide

/-- What a payload says about a code. -/
structure ReportedCode where
  suspectParameterNumber : UInt32
  failureModeIdentifier : UInt8
  occurrenceCount : Nat
  deriving DecidableEq

def reportedCodes : List UInt8 → List ReportedCode
  | low :: middle :: high :: count :: rest =>
    ⟨parameterNumberOf low middle high, failureModeOf high, count.toNat⟩ :: reportedCodes rest
  | _ => []

namespace DiagnosticTroubleCode

/-- The numbers fit their bits. -/
structure Fits (dtc : DiagnosticTroubleCode) : Prop where
  number : dtc.suspectParameterNumber.toNat < 2 ^ 19
  mode : dtc.failureModeIdentifier < 32

def reported (dtc : DiagnosticTroubleCode) : ReportedCode :=
  ⟨dtc.suspectParameterNumber, dtc.failureModeIdentifier, dtc.occurrenceCount.toNat % 128⟩

@[simp] theorem length_bytes (dtc : DiagnosticTroubleCode) : dtc.bytes.length = 4 := rfl

theorem bytes_eq (dtc : DiagnosticTroubleCode) :
    dtc.bytes = [(dtc.suspectParameterNumber &&& 0xFF).toUInt8,
      ((dtc.suspectParameterNumber >>> 8) &&& 0xFF).toUInt8,
      sharedByte dtc.suspectParameterNumber dtc.failureModeIdentifier,
      dtc.occurrenceCount &&& 0x7F] := rfl

end DiagnosticTroubleCode

theorem toNat_and_127 (count : UInt8) : (count &&& 0x7F).toNat = count.toNat % 128 := by
  rw [UInt8.toNat_and]
  exact Nat.and_two_pow_sub_one_eq_mod _ 7

theorem length_flatMap_bytes (dtcs : List DiagnosticTroubleCode) :
    (dtcs.flatMap DiagnosticTroubleCode.bytes).length = 4 * dtcs.length := by
  induction dtcs with
  | nil => rfl
  | cons dtc dtcs ih =>
    rw [List.flatMap_cons, List.length_append, ih, dtc.length_bytes, List.length_cons]
    omega

theorem reportedCodes_flatMap {dtcs : List DiagnosticTroubleCode} (h : ∀ dtc ∈ dtcs, dtc.Fits) :
    reportedCodes (dtcs.flatMap DiagnosticTroubleCode.bytes) =
      dtcs.map DiagnosticTroubleCode.reported := by
  induction dtcs with
  | nil => rfl
  | cons dtc dtcs ih =>
    obtain ⟨hdtc, hdtcs⟩ := List.forall_mem_cons.mp h
    rw [List.flatMap_cons, dtc.bytes_eq, List.map_cons, ← ih hdtcs]
    simp only [List.cons_append, List.nil_append, reportedCodes]
    rw [parameterNumberOf_bytes _ hdtc.number, failureModeOf_sharedByte _ hdtc.mode,
      toNat_and_127]
    rfl

namespace Buffer

theorem length_writeAll (start : Nat) (values : List UInt8) (buffer : Buffer) :
    (buffer.writeAll start values).bytes.length = buffer.bytes.length := by
  induction values generalizing start buffer with
  | nil => rfl
  | cons value values ih => rw [writeAll, ih, write, List.length_set]

theorem length_ofSize (size : Nat) : (ofSize size).bytes.length = size := List.length_replicate

theorem writeAll_replace {before old values : List UInt8} (h : old.length = values.length)
    (after : List UInt8) (inside : Bool) :
    (⟨before ++ (old ++ after), inside⟩ : Buffer).writeAll before.length values =
      ⟨before ++ (values ++ after), inside⟩ := by
  induction values generalizing before old with
  | nil => rw [List.length_eq_zero_iff.mp h, writeAll]
  | cons value values ih =>
    obtain ⟨first, old, rfl⟩ := List.exists_cons_of_length_eq_add_one h
    have hwrite : (⟨before ++ (first :: old ++ after), inside⟩ : Buffer).write
        before.length value =
        ⟨before ++ [value] ++ (old ++ after), inside⟩ := by
      simp [write]
    have hrest : (⟨before ++ [value] ++ (old ++ after), inside⟩ : Buffer).writeAll
          (before ++ [value]).length values =
        ⟨before ++ [value] ++ (values ++ after), inside⟩ := ih (Nat.succ.inj h)
    rw [List.length_append, List.length_singleton] at hrest
    rw [writeAll, hwrite, hrest]
    simp

end Buffer

theorem length_writeCodes (i : Nat) (dtcs : List DiagnosticTroubleCode) (buffer : Buffer) :
    (writeCodes i dtcs buffer).bytes.length = buffer.bytes.length := by
  induction dtcs generalizing i buffer with
  | nil => rfl
  | cons dtc dtcs ih => rw [writeCodes, ih, Buffer.length_writeAll]

theorem writeCodes_replace {i : Nat} {before old : List UInt8} {dtcs : List DiagnosticTroubleCode}
    (hbefore : before.length = 2 + DM_PAYLOAD_BYTES_PER_DTC * i)
    (hold : old.length = 4 * dtcs.length) (after : List UInt8) (inside : Bool) :
    writeCodes i dtcs ⟨before ++ (old ++ after), inside⟩ =
      ⟨before ++ (dtcs.flatMap DiagnosticTroubleCode.bytes ++ after), inside⟩ := by
  induction dtcs generalizing i before old with
  | nil => rw [List.length_eq_zero_iff.mp hold, writeCodes, List.flatMap_nil]
  | cons dtc dtcs ih =>
    rw [List.length_cons] at hold
    have hsplit := List.take_append_drop 4 old
    have htake : (old.take 4).length = dtc.bytes.length := by
      rw [List.length_take, dtc.length_bytes]
      omega
    rw [writeCodes, ← hbefore, ← hsplit, List.append_assoc, Buffer.writeAll_replace htake,
      ← List.append_assoc, ih _ _, List.flatMap_cons, List.append_assoc, List.append_assoc]
    · rw [List.length_append, dtc.length_bytes, hbefore, DM_PAYLOAD_BYTES_PER_DTC]
      omega
    · rw [List.length_drop]
      omega

/-- The two bytes in front of the codes. -/
def statusBytes (j1939Mode : Bool) (dtcs : List DiagnosticTroubleCode) : List UInt8 :=
  if j1939Mode then lampBytes dtcs else [0xFF, 0xFF]

theorem length_statusBytes (j1939Mode : Bool) (dtcs : List DiagnosticTroubleCode) :
    (statusBytes j1939Mode dtcs).length = 2 := by
  cases j1939Mode <;> rfl

theorem length_codesBuffer (j1939Mode : Bool) (payloadSize : UInt16)
    (dtcs : List DiagnosticTroubleCode) :
    (codesBuffer j1939Mode payloadSize dtcs).bytes.length = max 8 payloadSize.toNat := by
  unfold codesBuffer
  split_ifs <;> simp only [Buffer.length_writeAll, length_writeCodes, Buffer.length_ofSize] <;> rfl

/-- What follows the codes when there are less than two. -/
def paddingOf (dtcs : List DiagnosticTroubleCode) : List UInt8 :=
  if dtcs.length = 0 then [0x00, 0x00, 0x00, 0x00, 0xFF, 0xFF]
  else if dtcs.length = 1 then [0xFF, 0xFF]
  else []

theorem ofSize_eq (before behind : Nat) :
    Buffer.ofSize (before + behind) =
      ⟨List.replicate before 0 ++ List.replicate behind 0, true⟩ := by
  rw [Buffer.ofSize, List.replicate_append_replicate]

theorem codesBuffer_eq {j1939Mode : Bool} {payloadSize : UInt16}
    {dtcs : List DiagnosticTroubleCode} (h : payloadSize.toNat = 2 + 4 * dtcs.length) :
    codesBuffer j1939Mode payloadSize dtcs =
      ⟨statusBytes j1939Mode dtcs ++
        (dtcs.flatMap DiagnosticTroubleCode.bytes ++ paddingOf dtcs), true⟩ := by
  have hlength := length_statusBytes j1939Mode dtcs
  have hstatus (behind : Nat) :
      (Buffer.ofSize (2 + behind)).writeAll 0 (statusBytes j1939Mode dtcs) =
        ⟨statusBytes j1939Mode dtcs ++ List.replicate behind 0, true⟩ := by
    have hold : (List.replicate 2 (0 : UInt8)).length = (statusBytes j1939Mode dtcs).length :=
      hlength.symm
    rw [ofSize_eq]
    exact @Buffer.writeAll_replace [] _ _ hold (List.replicate behind 0) true
  have hcodes (behind : Nat) :
      writeCodes 0 dtcs ⟨statusBytes j1939Mode dtcs ++
          List.replicate (4 * dtcs.length + behind) 0, true⟩ =
        ⟨statusBytes j1939Mode dtcs ++
          (dtcs.flatMap DiagnosticTroubleCode.bytes ++ List.replicate behind 0), true⟩ := by
    rw [← List.replicate_append_replicate]
    exact writeCodes_replace hlength List.length_replicate _ _
  unfold codesBuffer
  rw [← statusBytes, h, CAN_DATA_LENGTH]
  by_cases hempty : dtcs = []
  · subst hempty
    have hreplace := @Buffer.writeAll_replace (statusBytes j1939Mode []) (List.replicate 6 0)
      [0x00, 0x00, 0x00, 0x00, 0xFF, 0xFF] rfl [] true
    rw [if_pos rfl, show max 8 (2 + 4 * List.length []) = 2 + 6 from rfl, hstatus, ← hlength]
    rw [List.append_nil] at hreplace
    exact hreplace
  · have hpos := List.length_pos_iff.mpr hempty
    rw [if_neg hempty]
    by_cases hone : dtcs.length = 1
    · have hreplace := @Buffer.writeAll_replace
        (statusBytes j1939Mode dtcs ++ dtcs.flatMap DiagnosticTroubleCode.bytes)
        (List.replicate 2 0) [0xFF, 0xFF] rfl [] true
      have hsize : max 8 (2 + 4 * dtcs.length) = 2 + (4 * dtcs.length + 2) := by omega
      rw [List.length_append, length_flatMap_bytes, hlength, hone] at hreplace
      rw [if_pos (by omega), hsize, hstatus, hcodes, paddingOf, if_neg (by omega), if_pos hone]
      simpa using hreplace
    · have hsize : max 8 (2 + 4 * dtcs.length) = 2 + (4 * dtcs.length + 0) := by omega
      rw [if_neg (by omega), hsize, hstatus, hcodes, paddingOf, if_neg (by omega), if_neg hone,
        List.replicate_zero]

def DiagnosticTroubleCode.commandsLamp (lamp : Lamps) (dtc : DiagnosticTroubleCode) : Bool :=
  dtc.lampState.command.any fun command => command.1 = lamp

theorem lampStateAndFlashState_on (lamp : Lamps) (dtcs : List DiagnosticTroubleCode) :
    (lampStateAndFlashState lamp dtcs).2 = dtcs.any (·.commandsLamp lamp) := by
  rw [lampStateAndFlashState]
  rw [show dtcs.any (·.commandsLamp lamp) =
    ((FlashState.solid, false).2 || dtcs.any (·.commandsLamp lamp)) from (Bool.false_or _).symm]
  generalize (FlashState.solid, false) = state
  induction dtcs generalizing state with
  | nil => rw [List.foldl_nil, List.any_nil, Bool.or_false]
  | cons dtc dtcs ih =>
    rw [List.foldl_cons, ih, List.any_cons, DiagnosticTroubleCode.commandsLamp]
    cases dtc.lampState.command with
    | none => rfl
    | some command =>
      obtain ⟨commanded, flash⟩ := command
      by_cases h : commanded = lamp
      · simp [h]
      · simp [h]

def Lamps.position : Lamps → UInt8
  | protectLamp => 0
  | amberWarningLamp => 2
  | redStopLamp => 4
  | malfunctionIndicatorLamp => 6

def lampBits (payload : List UInt8) (lamp : Lamps) : UInt8 :=
  (payload.getD 0 0 >>> lamp.position) &&& 3

theorem lampBits_lampBytes (dtcs : List DiagnosticTroubleCode) (lamp : Lamps)
    (behind : List UInt8) :
    lampBits (lampBytes dtcs ++ behind) lamp =
      if dtcs.any (·.commandsLamp lamp) then 1 else 0 := by
  rw [lampBits, lampBytes]
  simp only [lampStateAndFlashState_on, List.cons_append, List.getD_cons_zero]
  generalize hp : dtcs.any (·.commandsLamp .protectLamp) = p
  generalize ha : dtcs.any (·.commandsLamp .amberWarningLamp) = a
  generalize hr : dtcs.any (·.commandsLamp .redStopLamp) = r
  generalize hm : dtcs.any (·.commandsLamp .malfunctionIndicatorLamp) = m
  cases lamp with
  | malfunctionIndicatorLamp =>
    rw [hm]
    clear hp ha hr hm
    revert p a r m
    decide
  | redStopLamp =>
    rw [hr]
    clear hp ha hr hm
    revert p a r m
    decide
  | amberWarningLamp =>
    rw [ha]
    clear hp ha hr hm
    revert p a r m
    decide
  | protectLamp =>
    rw [hp]
    clear hp ha hr hm
    revert p a r m
    decide

/-- The list in a message of the right size, or nothing if it is too long for one. -/
structure EncodesList (env : Environment) (turn : Turn) (parameterGroupNumber : UInt32)
    (dtcs : List DiagnosticTroubleCode) (result : Turn × Bool) : Prop where
  fitting : 2 + 4 * dtcs.length ≤ 1785 → ∃ payload,
    result = (turn.offer env (turn.protocol.frame parameterGroupNumber payload none),
      turn.sent env) ∧
    payload.length = max 8 (2 + 4 * dtcs.length) ∧
    reportedCodes ((payload.drop 2).take (4 * dtcs.length)) = dtcs.map (·.reported) ∧
    (turn.protocol.j1939Mode → ∀ lamp, lampBits payload lamp =
      if dtcs.any (·.commandsLamp lamp) then 1 else 0)
  tooLong : 1785 < 2 + 4 * dtcs.length → result = (turn, false)

section

variable {env : Environment} {turn : Turn} {parameterGroupNumber : UInt32} {payloadSize : UInt16}
variable {dtcs : List DiagnosticTroubleCode}

theorem sendTroubleCodes_eq_of_le (h : payloadSize ≤ MAX_PAYLOAD_SIZE_BYTES)
    (hinside : (codesBuffer turn.protocol.j1939Mode payloadSize dtcs).inside = true) :
    turn.sendTroubleCodes env parameterGroupNumber payloadSize dtcs =
      (turn.offer env (turn.protocol.frame parameterGroupNumber
        (codesBuffer turn.protocol.j1939Mode payloadSize dtcs).bytes none), turn.sent env) := by
  have htake := List.take_of_length_le
    (length_codesBuffer turn.protocol.j1939Mode payloadSize dtcs).le
  rw [Turn.sendTroubleCodes, if_pos h]
  dsimp only
  rw [if_pos hinside, CAN_DATA_LENGTH, htake]

theorem encodesList_of_size (hfits : ∀ dtc ∈ dtcs, dtc.Fits)
    (hsize : payloadSize.toNat = 2 + 4 * dtcs.length) (hle : 2 + 4 * dtcs.length ≤ 1785) :
    EncodesList env turn parameterGroupNumber dtcs
      (turn.sendTroubleCodes env parameterGroupNumber payloadSize dtcs) := by
  have hbuffer := @codesBuffer_eq turn.protocol.j1939Mode _ _ hsize
  have hlength := length_codesBuffer turn.protocol.j1939Mode payloadSize dtcs
  have hpayload : payloadSize ≤ MAX_PAYLOAD_SIZE_BYTES := by
    rw [UInt16.le_iff_toNat_le, hsize]
    exact hle
  refine ⟨fun _ => ⟨_, sendTroubleCodes_eq_of_le hpayload (by rw [hbuffer]), ?_, ?_, ?_⟩,
    fun hlong => absurd hlong (by omega)⟩
  · rw [hlength, hsize]
  · rw [hbuffer, ← length_statusBytes turn.protocol.j1939Mode dtcs, List.drop_left,
      ← length_flatMap_bytes, List.take_left, reportedCodes_flatMap hfits]
  · intro hmode lamp
    rw [hbuffer, statusBytes, if_pos hmode]
    exact lampBits_lampBytes dtcs lamp _

theorem sendTroubleCodes_getLast? (h : payloadSize ≤ MAX_PAYLOAD_SIZE_BYTES) :
    ∃ sent, (turn.sendTroubleCodes env parameterGroupNumber payloadSize dtcs).1.events.getLast? =
      some (.message (turn.protocol.frame parameterGroupNumber
        (codesBuffer turn.protocol.j1939Mode payloadSize dtcs).bytes none) sent) := by
  have htake := List.take_of_length_le
    (length_codesBuffer turn.protocol.j1939Mode payloadSize dtcs).le
  rw [Turn.sendTroubleCodes, if_pos h]
  dsimp only
  rw [CAN_DATA_LENGTH, htake, Turn.offer, Turn.emit, List.getLast?_concat]
  exact ⟨_, rfl⟩

theorem length_le_events (h : payloadSize ≤ MAX_PAYLOAD_SIZE_BYTES) :
    turn.events.length <
      (turn.sendTroubleCodes env parameterGroupNumber payloadSize dtcs).1.events.length := by
  rw [Turn.sendTroubleCodes, if_pos h]
  dsimp only
  split_ifs
  · simp [Turn.offer, Turn.emit]
  · simp [Turn.offer, Turn.emit]

theorem size_of_encodesList (h : EncodesList env turn parameterGroupNumber dtcs
      (turn.sendTroubleCodes env parameterGroupNumber payloadSize dtcs))
    (hle : payloadSize ≤ MAX_PAYLOAD_SIZE_BYTES) :
    2 + 4 * dtcs.length ≤ 1785 ∧ max 8 payloadSize.toNat = max 8 (2 + 4 * dtcs.length) := by
  by_cases hfits : 2 + 4 * dtcs.length ≤ 1785
  · obtain ⟨payload, hresult, hlength, -⟩ := h.fitting hfits
    obtain ⟨sent, hlast⟩ :=
      @sendTroubleCodes_getLast? env turn parameterGroupNumber payloadSize dtcs hle
    rw [hresult, Turn.offer, Turn.emit, List.getLast?_concat] at hlast
    have hdata : payload = (codesBuffer turn.protocol.j1939Mode payloadSize dtcs).bytes :=
      congrArg TransmitFrame.data (Event.message.inj (Option.some.inj hlast)).1
    rw [hdata, length_codesBuffer] at hlength
    exact ⟨hfits, hlength⟩
  · have hmore := @length_le_events env turn parameterGroupNumber payloadSize dtcs hle
    rw [h.tooLong (by omega)] at hmore
    exact absurd hmore (lt_irrefl _)

theorem encodesList_of_refused (hlong : 1785 < 2 + 4 * dtcs.length)
    (hsize : ¬payloadSize ≤ MAX_PAYLOAD_SIZE_BYTES) :
    EncodesList env turn parameterGroupNumber dtcs
      (turn.sendTroubleCodes env parameterGroupNumber payloadSize dtcs) :=
  ⟨fun hfits => absurd hfits (by omega),
    fun _ => by rw [Turn.sendTroubleCodes, if_neg hsize]⟩

end

theorem toNat_sizeOfDiagnosticMessage1 (count : Nat) :
    (UInt16.ofNat (count * DM_PAYLOAD_BYTES_PER_DTC) + 2).toNat = 4 * (count % 16384) + 2 := by
  have hofNat : (UInt16.ofNat (count * DM_PAYLOAD_BYTES_PER_DTC)).toNat = 4 * (count % 16384) := by
    rw [UInt16.toNat_ofNat', DM_PAYLOAD_BYTES_PER_DTC]
    omega
  rw [UInt16.toNat_add, hofNat]
  change (4 * (count % 16384) + 2) % 2 ^ 16 = _
  omega

theorem toNat_sizeOfDiagnosticMessage2 (count : Nat) :
    ((UInt8.ofNat (count * DM_PAYLOAD_BYTES_PER_DTC)).toUInt16 + 2).toNat =
      4 * (count % 64) + 2 := by
  have hofNat : (UInt8.ofNat (count * DM_PAYLOAD_BYTES_PER_DTC)).toNat = 4 * (count % 64) := by
    rw [UInt8.toNat_ofNat', DM_PAYLOAD_BYTES_PER_DTC]
    omega
  rw [UInt16.toNat_add, UInt8.toNat_toUInt16, hofNat]
  change (4 * (count % 64) + 2) % 2 ^ 16 = _
  omega

theorem le_maxPayloadSize_iff {size : UInt16} :
    size ≤ MAX_PAYLOAD_SIZE_BYTES ↔ size.toNat ≤ 1785 := UInt16.le_iff_toNat_le

section

variable {turn : Turn} (env : Environment)

theorem diagnosticMessage1_iff (hfits : ∀ dtc ∈ turn.protocol.activeDTCList, dtc.Fits) :
    EncodesList env turn DIAGNOSTIC_MESSAGE_1 turn.protocol.activeDTCList
        (turn.sendDiagnosticMessage1 env) ↔
      turn.protocol.activeDTCList.length ≤ 445 ∨
        445 < turn.protocol.activeDTCList.length % 16384 := by
  have hsize := toNat_sizeOfDiagnosticMessage1 turn.protocol.activeDTCList.length
  rw [Turn.sendDiagnosticMessage1]
  constructor
  · intro h
    by_contra hnot
    have hle := size_of_encodesList h (le_maxPayloadSize_iff.mpr (by rw [hsize]; omega))
    omega
  · intro h
    by_cases hfew : turn.protocol.activeDTCList.length ≤ 445
    · exact encodesList_of_size hfits (by rw [hsize]; omega) (by omega)
    · refine encodesList_of_refused (by omega) fun hle => ?_
      rw [le_maxPayloadSize_iff, hsize] at hle
      omega

theorem diagnosticMessage2_iff (hfits : ∀ dtc ∈ turn.protocol.inactiveDTCList, dtc.Fits) :
    EncodesList env turn DIAGNOSTIC_MESSAGE_2 turn.protocol.inactiveDTCList
        (turn.sendDiagnosticMessage2 env) ↔
      turn.protocol.inactiveDTCList.length ≤ 63 := by
  have hsize := toNat_sizeOfDiagnosticMessage2 turn.protocol.inactiveDTCList.length
  rw [Turn.sendDiagnosticMessage2]
  constructor
  · intro h
    have hle := size_of_encodesList h (le_maxPayloadSize_iff.mpr (by rw [hsize]; omega))
    rw [hsize] at hle
    omega
  · intro h
    exact encodesList_of_size hfits (by rw [hsize]; omega) (by omega)

/-- Both messages hold their lists exactly while the sizes are not truncated. -/
theorem encodesLists_iff (hactive : ∀ dtc ∈ turn.protocol.activeDTCList, dtc.Fits)
    (hinactive : ∀ dtc ∈ turn.protocol.inactiveDTCList, dtc.Fits) :
    EncodesList env turn DIAGNOSTIC_MESSAGE_1 turn.protocol.activeDTCList
          (turn.sendDiagnosticMessage1 env) ∧
        EncodesList env turn DIAGNOSTIC_MESSAGE_2 turn.protocol.inactiveDTCList
          (turn.sendDiagnosticMessage2 env) ↔
      (turn.protocol.activeDTCList.length ≤ 445 ∨
          445 < turn.protocol.activeDTCList.length % 16384) ∧
        turn.protocol.inactiveDTCList.length ≤ 63 :=
  and_congr (diagnosticMessage1_iff env hactive) (diagnosticMessage2_iff env hinactive)

end

def inactiveCodesTurn (count : Nat) : Turn where
  protocol :=
    { myControlFunction := 0
      j1939Mode := true
      inactiveDTCList := (List.range count).map fun number =>
        { suspectParameterNumber := UInt32.ofNat number
          failureModeIdentifier := 3
          lampState := .redStopLampSolid
          occurrenceCount := 1 } }

theorem fits_inactiveCodesTurn {count : Nat} (h : count < 2 ^ 19) :
    ∀ dtc ∈ (inactiveCodesTurn count).protocol.inactiveDTCList, dtc.Fits := by
  intro dtc hdtc
  obtain ⟨number, hnumber, rfl⟩ := List.mem_map.mp hdtc
  rw [List.mem_range] at hnumber
  refine ⟨?_, (by decide : (3 : UInt8) < 32)⟩
  rw [UInt32.toNat_ofNat']
  exact lt_of_le_of_lt (Nat.mod_le _ _) (hnumber.trans h)

theorem length_inactiveCodesTurn (count : Nat) :
    (inactiveCodesTurn count).protocol.inactiveDTCList.length = count := by
  rw [inactiveCodesTurn, List.length_map, List.length_range]

theorem encodesLists_twoCodes :
    EncodesList ⟨0, fun _ => true⟩ (inactiveCodesTurn 2) DIAGNOSTIC_MESSAGE_1 []
        ((inactiveCodesTurn 2).sendDiagnosticMessage1 ⟨0, fun _ => true⟩) ∧
      EncodesList ⟨0, fun _ => true⟩ (inactiveCodesTurn 2) DIAGNOSTIC_MESSAGE_2
        (inactiveCodesTurn 2).protocol.inactiveDTCList
        ((inactiveCodesTurn 2).sendDiagnosticMessage2 ⟨0, fun _ => true⟩) :=
  (@encodesLists_iff (inactiveCodesTurn 2) ⟨0, fun _ => true⟩
    (fun _ hdtc => absurd hdtc List.not_mem_nil) (fits_inactiveCodesTurn (by decide))).mpr
    ⟨.inl (Nat.zero_le _), by rw [length_inactiveCodesTurn]; decide⟩

/-- Sixty-four codes would need 258 bytes, and their size is believed to be two. -/
theorem sixtyFourCodes_not_encoded :
    (∀ dtc ∈ (inactiveCodesTurn 64).protocol.inactiveDTCList, dtc.Fits) ∧
      2 + 4 * (inactiveCodesTurn 64).protocol.inactiveDTCList.length ≤ 1785 ∧
      ¬EncodesList ⟨0, fun _ => true⟩ (inactiveCodesTurn 64) DIAGNOSTIC_MESSAGE_2
        (inactiveCodesTurn 64).protocol.inactiveDTCList
        ((inactiveCodesTurn 64).sendDiagnosticMessage2 ⟨0, fun _ => true⟩) := by
  have hfits := fits_inactiveCodesTurn (by decide : 64 < 2 ^ 19)
  rw [diagnosticMessage2_iff _ hfits, length_inactiveCodesTurn]
  exact ⟨hfits, by decide, by decide⟩

end Isobus.Diagnostics
