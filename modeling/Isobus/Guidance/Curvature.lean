import Isobus.Guidance.Interface
import Mathlib.Tactic.Linarith
import Mathlib.Tactic.NormNum

namespace Isobus.Guidance

open Isobus.Can Isobus.Lib

def clampedCurvature (curvature : ℚ) : ℚ :=
  max (-CURVATURE_COMMAND_OFFSET_INVERSE_KM) (min curvature CURVATURE_COMMAND_MAX_INVERSE_KM)

def rawCurvature (curvature : ℚ) : UInt16 :=
  .ofNat ⌊scaledCurvature (clampedCurvature curvature)⌋.toNat

def MAX_RAW_CURVATURE : UInt16 := 64255

theorem le_roundf_iff {x : ℚ} {n : ℤ} (hn : 0 < n) : n ≤ roundf x ↔ (n : ℚ) - 1 / 2 ≤ x := by
  have hone : (1 : ℚ) ≤ n := by exact_mod_cast hn
  rw [roundf]
  split_ifs with hx
  · rw [Int.le_floor, sub_le_iff_le_add]
  · rw [not_le] at hx
    apply iff_of_false
    · rw [not_le, Int.ceil_lt_iff]
      linarith
    · linarith

theorem roundf_neg_iff {x : ℚ} : roundf x < 0 ↔ x ≤ -(1 / 2) := by
  rw [roundf]
  split_ifs with hx
  · apply iff_of_false
    · rw [not_lt, Int.floor_nonneg]
      linarith
    · linarith
  · rw [Int.ceil_lt_iff, Int.cast_zero]
    constructor <;> intro h <;> linarith

def quarters (curvature : ℚ) : ℤ := roundf (16 * (curvature + 8032))

theorem scaledCurvature_eq (curvature : ℚ) :
    scaledCurvature curvature = (quarters curvature : ℚ) / (4 : ℕ) := by
  have harg : 4 * ((curvature + CURVATURE_COMMAND_OFFSET_INVERSE_KM) /
      CURVATURE_COMMAND_RESOLUTION_PER_BIT) = 16 * (curvature + 8032) := by
    rw [CURVATURE_COMMAND_OFFSET_INVERSE_KM, CURVATURE_COMMAND_RESOLUTION_PER_BIT]
    ring
  rw [scaledCurvature, harg, quarters, Nat.cast_ofNat]

theorem floor_scaledCurvature (curvature : ℚ) :
    ⌊scaledCurvature curvature⌋ = quarters curvature / 4 := by
  rw [scaledCurvature_eq, Rat.floor_intCast_div_natCast]
  rfl

variable {curvature : ℚ}

theorem le_quarters_iff {n : ℤ} (hn : 0 < n) :
    n ≤ quarters curvature ↔ (n : ℚ) / 16 - 1 / 32 - 8032 ≤ curvature := by
  rw [quarters, le_roundf_iff hn]
  constructor <;> intro h <;> linarith

theorem quarters_neg_iff : quarters curvature < 0 ↔ curvature ≤ -8032 - 1 / 32 := by
  rw [quarters, roundf_neg_iff]
  constructor <;> intro h <;> linarith

theorem encodedCurvature_eq (tested curvature : ℚ) :
    encodedCurvature tested curvature =
      if tested > CURVATURE_COMMAND_MAX_INVERSE_KM then some MAX_RAW_CURVATURE
      else if quarters curvature < 0 then some 0
      else if quarters curvature < 4 * 2 ^ 16 then
        some (.ofNat (quarters curvature / 4).toNat)
      else none := by
  have hneg : scaledCurvature curvature < 0 ↔ quarters curvature < 0 := by
    rw [scaledCurvature_eq, Nat.cast_ofNat, div_lt_iff₀ (by norm_num), zero_mul, Int.cast_lt_zero]
  have hfit : quarters curvature / 4 < 2 ^ 16 ↔ quarters curvature < 4 * 2 ^ 16 := by omega
  rw [encodedCurvature, castUInt16, floor_scaledCurvature]
  simp only [hneg, hfit]
  rfl

theorem rawCurvature_eq (curvature : ℚ) :
    rawCurvature curvature = .ofNat (quarters (clampedCurvature curvature) / 4).toNat := by
  rw [rawCurvature, floor_scaledCurvature]

theorem clampedCurvature_of_le (hlow : -8032 ≤ curvature)
    (hhigh : curvature ≤ CURVATURE_COMMAND_MAX_INVERSE_KM) :
    clampedCurvature curvature = curvature := by
  rw [clampedCurvature, min_eq_left hhigh]
  exact max_eq_right hlow

theorem clampedCurvature_of_lt (hlow : curvature < -8032) :
    clampedCurvature curvature = -8032 := by
  rw [clampedCurvature, min_eq_left, CURVATURE_COMMAND_OFFSET_INVERSE_KM]
  · exact max_eq_left hlow.le
  · rw [CURVATURE_COMMAND_MAX_INVERSE_KM]
    linarith

theorem clampedCurvature_mem (curvature : ℚ) :
    -8032 ≤ clampedCurvature curvature ∧
      clampedCurvature curvature ≤ CURVATURE_COMMAND_MAX_INVERSE_KM := by
  refine ⟨le_max_left _ _, max_le ?_ (min_le_right _ _)⟩
  rw [CURVATURE_COMMAND_OFFSET_INVERSE_KM, CURVATURE_COMMAND_MAX_INVERSE_KM]
  norm_num

theorem quarters_mem (hlow : -8032 ≤ curvature)
    (hhigh : curvature ≤ CURVATURE_COMMAND_MAX_INVERSE_KM) :
    0 ≤ quarters curvature ∧ quarters curvature ≤ 4 * 64255 := by
  rw [CURVATURE_COMMAND_MAX_INVERSE_KM] at hhigh
  constructor
  · rw [← not_lt, quarters_neg_iff]
    linarith
  · rw [← not_lt]
    intro hmore
    have h := (le_quarters_iff (by norm_num : (0 : ℤ) < 4 * 64255 + 1)).mp hmore
    norm_num at h
    linarith

theorem toNat_rawCurvature (curvature : ℚ) :
    (rawCurvature curvature).toNat = (quarters (clampedCurvature curvature) / 4).toNat := by
  obtain ⟨hlow, hhigh⟩ := clampedCurvature_mem curvature
  have hmem := quarters_mem hlow hhigh
  rw [rawCurvature_eq, UInt16.toNat_ofNat']
  omega

theorem rawCurvature_eq_max_iff :
    rawCurvature curvature = MAX_RAW_CURVATURE ↔
      CURVATURE_COMMAND_MAX_INVERSE_KM - 1 / 32 ≤ curvature := by
  obtain ⟨hlow, hhigh⟩ := clampedCurvature_mem curvature
  have hmem := quarters_mem hlow hhigh
  have hclamped : 4 * 64255 ≤ quarters (clampedCurvature curvature) ↔
      CURVATURE_COMMAND_MAX_INVERSE_KM - 1 / 32 ≤ clampedCurvature curvature := by
    rw [le_quarters_iff (by norm_num), CURVATURE_COMMAND_MAX_INVERSE_KM]
    norm_num
  rw [← UInt16.toNat_inj, toNat_rawCurvature]
  calc (quarters (clampedCurvature curvature) / 4).toNat = 64255
      ↔ 4 * 64255 ≤ quarters (clampedCurvature curvature) := by omega
    _ ↔ CURVATURE_COMMAND_MAX_INVERSE_KM - 1 / 32 ≤ clampedCurvature curvature := hclamped
    _ ↔ CURVATURE_COMMAND_MAX_INVERSE_KM - 1 / 32 ≤ curvature := by
        rw [clampedCurvature, le_max_iff, le_min_iff]
        simp only [CURVATURE_COMMAND_MAX_INVERSE_KM, CURVATURE_COMMAND_OFFSET_INVERSE_KM]
        norm_num

theorem encodedCurvature_of_le {tested : ℚ} (htested : tested ≤ CURVATURE_COMMAND_MAX_INVERSE_KM) :
    encodedCurvature tested curvature = some (rawCurvature curvature) ↔
      curvature < CURVATURE_COMMAND_MAX_INVERSE_KM + 7 / 32 := by
  rw [encodedCurvature_eq, if_neg (not_lt.mpr htested)]
  obtain hlow | hlow := lt_or_ge curvature (-8032)
  · -- Below the range, the number is zero, whether or not it was rounded up to zero.
    have hless : quarters curvature < 1 := by
      rw [← not_le, le_quarters_iff one_pos]
      norm_num
      linarith
    have hzero : quarters (-8032) = 0 := by decide +kernel
    have hraw : rawCurvature curvature = 0 := by
      rw [rawCurvature_eq, clampedCurvature_of_lt hlow, hzero]
      rfl
    apply iff_of_true
    · split_ifs with hneg hfit
      · rw [hraw]
      · have hq : quarters curvature = 0 := by omega
        rw [hraw, hq]
        rfl
      · omega
    · rw [CURVATURE_COMMAND_MAX_INVERSE_KM]
      linarith
  · obtain hhigh | hhigh := le_or_gt curvature CURVATURE_COMMAND_MAX_INVERSE_KM
    · have hmem := quarters_mem hlow hhigh
      apply iff_of_true
      · rw [if_neg (by omega), if_pos (by omega), rawCurvature_eq,
          clampedCurvature_of_le hlow hhigh]
      · linarith
    · -- Above the range, the number is right as long as it is not a reserved one.
      have hmore : 4 * 64255 ≤ quarters curvature := by
        rw [CURVATURE_COMMAND_MAX_INVERSE_KM] at hhigh
        rw [le_quarters_iff (by norm_num)]
        norm_num
        linarith
      have hraw : rawCurvature curvature = MAX_RAW_CURVATURE :=
        rawCurvature_eq_max_iff.mpr (by linarith)
      have hreserved : curvature < CURVATURE_COMMAND_MAX_INVERSE_KM + 7 / 32 ↔
          quarters curvature < 4 * 64256 := by
        rw [← not_le, ← not_le, le_quarters_iff (by norm_num), CURVATURE_COMMAND_MAX_INVERSE_KM]
        norm_num
      rw [if_neg (by omega), hraw, hreserved]
      split_ifs with hfit
      · rw [Option.some_inj, ← UInt16.toNat_inj, UInt16.toNat_ofNat']
        change (quarters curvature / 4).toNat % 2 ^ 16 = 64255 ↔ _
        omega
      · exact iff_of_false id (by omega)

theorem encodedCurvature_of_gt {tested : ℚ} (htested : CURVATURE_COMMAND_MAX_INVERSE_KM < tested) :
    encodedCurvature tested curvature = some MAX_RAW_CURVATURE := by
  rw [encodedCurvature_eq, if_pos htested]

theorem encodedCurvature_self (curvature : ℚ) :
    encodedCurvature curvature curvature = some (rawCurvature curvature) := by
  obtain hle | hgt := le_or_gt curvature CURVATURE_COMMAND_MAX_INVERSE_KM
  · exact (encodedCurvature_of_le hle).mpr (by linarith)
  · rw [encodedCurvature_of_gt hgt, rawCurvature_eq_max_iff.mpr (by linarith)]

theorem abs_setCurvature_sub_le (old curvature : ℚ) :
    |setCurvature old curvature - curvature| ≤ floatEpsilon := by
  rw [setCurvature]
  split_ifs with h
  · rw [sub_self, abs_zero, floatEpsilon]
    norm_num
  · exact not_lt.mp h

theorem rawCurvature_of_close {raw : UInt16} (hraw : raw ≤ MAX_RAW_CURVATURE)
    (hclose : |curvature - decodedCurvature raw| ≤ 2 * floatEpsilon) :
    rawCurvature curvature = raw ∧ curvature < CURVATURE_COMMAND_MAX_INVERSE_KM + 7 / 32 := by
  have hle : (raw.toNat : ℚ) ≤ 64255 := by exact_mod_cast UInt16.le_iff_toNat_le.mp hraw
  rw [decodedCurvature, CURVATURE_COMMAND_RESOLUTION_PER_BIT, CURVATURE_COMMAND_OFFSET_INVERSE_KM,
    floatEpsilon, abs_le] at hclose
  obtain ⟨hlow, hhigh⟩ := hclose
  have hbelow : (raw.toNat : ℚ) / 4 - 8032 - 1 / 2 ^ 22 ≤ clampedCurvature curvature := by
    rw [clampedCurvature, le_max_iff, le_min_iff, CURVATURE_COMMAND_MAX_INVERSE_KM]
    right
    constructor <;> linarith
  have habove : clampedCurvature curvature ≤ (raw.toNat : ℚ) / 4 - 8032 + 1 / 2 ^ 22 := by
    rw [clampedCurvature, max_le_iff, min_le_iff, CURVATURE_COMMAND_OFFSET_INVERSE_KM]
    constructor
    · linarith
    · left
      linarith
  have hquarters : quarters (clampedCurvature curvature) = 4 * raw.toNat := by
    apply le_antisymm
    · rw [← Int.lt_add_one_iff, ← not_le, le_quarters_iff (by omega)]
      push_cast
      linarith
    · obtain hzero | hpos := Nat.eq_zero_or_pos raw.toNat
      · rw [hzero]
        exact (quarters_mem (clampedCurvature_mem _).1 (clampedCurvature_mem _).2).1
      · rw [le_quarters_iff (by omega)]
        push_cast
        linarith
  constructor
  · rw [← UInt16.toNat_inj, toNat_rawCurvature, hquarters]
    omega
  · rw [CURVATURE_COMMAND_MAX_INVERSE_KM]
    linarith

namespace AgriculturalGuidanceInterface

variable (interface : AgriculturalGuidanceInterface)

def SteersAsCommanded : Prop :=
  let command := interface.guidanceSystemCommandTransmitData
  interface.guidanceSystemCommandFrame =
    some {
      parameterGroupNumber := AGRICULTURAL_GUIDANCE_SYSTEM_COMMAND
      data := commandBuffer (rawCurvature command.commandedCurvature) command.commandedStatus
      source := interface.commandSender
      destination := interface.destinationControlFunction
      priority := Priority3 }

def ReportsAsEstimated : Prop :=
  let info := interface.guidanceMachineInfoTransmitData
  interface.guidanceMachineInfoFrame =
    some {
      parameterGroupNumber := AGRICULTURAL_GUIDANCE_MACHINE_INFO
      data := machineInfoBuffer (rawCurvature info.estimatedCurvature) info
      source := interface.machineInfoSender
      destination := interface.destinationControlFunction
      priority := Priority3 }

def commandCurvature (curvature : ℚ) : AgriculturalGuidanceInterface :=
  { interface with
    guidanceSystemCommandTransmitData :=
      interface.guidanceSystemCommandTransmitData.setCurvature curvature }

def estimateCurvature (curvature : ℚ) : AgriculturalGuidanceInterface :=
  { interface with
    guidanceMachineInfoTransmitData :=
      interface.guidanceMachineInfoTransmitData.setEstimatedCurvature curvature }

/-- To command what a receiver knows of a source sends the number again. -/
def RepeatsCommand (receiver : AgriculturalGuidanceInterface) (source : CFRef) (raw : UInt16) :
    Prop :=
  ∃ received ∈ receiver.receivedGuidanceSystemCommandMessages.lookup source,
    ((interface.commandCurvature received.data.commandedCurvature).guidanceSystemCommandFrame).map
      TransmitFrame.data =
        some (commandBuffer raw interface.guidanceSystemCommandTransmitData.commandedStatus)

def RepeatsEstimate (receiver : AgriculturalGuidanceInterface) (source : CFRef) (raw : UInt16) :
    Prop :=
  ∃ received ∈ receiver.receivedGuidanceMachineInfoMessages.lookup source,
    ((interface.estimateCurvature received.data.estimatedCurvature).guidanceMachineInfoFrame).map
      TransmitFrame.data =
        some (machineInfoBuffer raw interface.guidanceMachineInfoTransmitData)

def TestsAsCommanded (raw : UInt16) : Prop :=
  let estimated := interface.guidanceMachineInfoTransmitData.estimatedCurvature
  let commanded := interface.guidanceSystemCommandTransmitData.commandedCurvature
  (estimated ≤ CURVATURE_COMMAND_MAX_INVERSE_KM →
      commanded < CURVATURE_COMMAND_MAX_INVERSE_KM + 7 / 32) ∧
    (CURVATURE_COMMAND_MAX_INVERSE_KM < estimated →
      CURVATURE_COMMAND_MAX_INVERSE_KM - 1 / 32 ≤ commanded ∧ raw = MAX_RAW_CURVATURE)

end AgriculturalGuidanceInterface

/-- A well-formed message of the source, with a number that stands for a curvature. -/
structure Carries (message : CANMessage) (parameterGroupNumber : UInt32) (source : CFRef)
    (raw : UInt16) : Prop where
  group : message.identifier.getParameterGroupNumber = parameterGroupNumber
  length : message.data.length = CAN_DATA_LENGTH
  source : message.source = some source
  getUint16At : message.getUint16At 0 = raw
  raw_le : raw ≤ MAX_RAW_CURVATURE

theorem commandBuffer_inj {raw raw' : UInt16} {status : BitVec 2} :
    commandBuffer raw status = commandBuffer raw' status ↔ raw = raw' := by
  constructor
  · intro h
    simp only [commandBuffer, List.cons.injEq] at h
    rw [← decode16_byteOf raw, h.1, h.2.1, decode16_byteOf]
  · intro h
    rw [h]

namespace AgriculturalGuidanceInterface

variable {interface receiver : AgriculturalGuidanceInterface} {env : Environment}
  {message : CANMessage} {source : CFRef} {raw : UInt16}

theorem steersAsCommanded_iff_encodedCurvature :
    interface.SteersAsCommanded ↔
      encodedCurvature interface.guidanceMachineInfoTransmitData.estimatedCurvature
          interface.guidanceSystemCommandTransmitData.commandedCurvature =
        some (rawCurvature interface.guidanceSystemCommandTransmitData.commandedCurvature) := by
  rw [SteersAsCommanded, guidanceSystemCommandFrame]
  constructor
  · intro h
    obtain ⟨raw, hraw, hframe⟩ := Option.map_eq_some_iff.mp h
    rw [hraw, commandBuffer_inj.mp (congrArg TransmitFrame.data hframe)]
  · intro h
    rw [h]
    rfl

theorem reportsAsEstimated (interface : AgriculturalGuidanceInterface) :
    interface.ReportsAsEstimated := by
  rw [ReportsAsEstimated, guidanceMachineInfoFrame, encodedCurvature_self]
  rfl

theorem lookup_processRxMessage_command (receiver : AgriculturalGuidanceInterface)
    (env : Environment)
    (h : Carries message AGRICULTURAL_GUIDANCE_SYSTEM_COMMAND source raw) :
    ∃ received ∈ (receiver.processRxMessage env message).1.receivedGuidanceSystemCommandMessages
        |>.lookup source,
      |received.data.commandedCurvature - decodedCurvature raw| ≤ floatEpsilon := by
  rw [processRxMessage, if_pos h.group, if_pos h.length, h.source]
  refine ⟨_, KeyedTable.lookup_set_self _ _ _, ?_⟩
  rw [← h.getUint16At]
  exact abs_setCurvature_sub_le _ _

theorem lookup_processRxMessage_machineInfo (receiver : AgriculturalGuidanceInterface)
    (env : Environment)
    (h : Carries message AGRICULTURAL_GUIDANCE_MACHINE_INFO source raw) :
    ∃ received ∈ (receiver.processRxMessage env message).1.receivedGuidanceMachineInfoMessages
        |>.lookup source,
      |received.data.estimatedCurvature - decodedCurvature raw| ≤ floatEpsilon := by
  have hother : message.identifier.getParameterGroupNumber ≠
      AGRICULTURAL_GUIDANCE_SYSTEM_COMMAND := by
    rw [h.group]
    decide
  rw [processRxMessage, if_neg hother, if_pos h.group, if_pos h.length, h.source]
  refine ⟨_, KeyedTable.lookup_set_self _ _ _, ?_⟩
  rw [← h.getUint16At]
  exact abs_setCurvature_sub_le _ _

theorem rawCurvature_setCurvature (old : ℚ) {received : ℚ} (hraw : raw ≤ MAX_RAW_CURVATURE)
    (hreceived : |received - decodedCurvature raw| ≤ floatEpsilon) :
    rawCurvature (setCurvature old received) = raw ∧
      setCurvature old received < CURVATURE_COMMAND_MAX_INVERSE_KM + 7 / 32 := by
  apply rawCurvature_of_close hraw
  calc |setCurvature old received - decodedCurvature raw|
      ≤ |setCurvature old received - received| + |received - decodedCurvature raw| :=
        abs_sub_le _ _ _
    _ ≤ floatEpsilon + floatEpsilon := add_le_add (abs_setCurvature_sub_le _ _) hreceived
    _ = 2 * floatEpsilon := (two_mul _).symm

theorem repeatsEstimate (interface receiver : AgriculturalGuidanceInterface) (env : Environment)
    (h : Carries message AGRICULTURAL_GUIDANCE_MACHINE_INFO source raw) :
    interface.RepeatsEstimate (receiver.processRxMessage env message).1 source raw := by
  obtain ⟨received, hlookup, hclose⟩ := lookup_processRxMessage_machineInfo receiver env h
  refine ⟨received, hlookup, ?_⟩
  rw [reportsAsEstimated (interface.estimateCurvature received.data.estimatedCurvature)]
  simp only [estimateCurvature, GuidanceMachineInfo.setEstimatedCurvature,
    (rawCurvature_setCurvature _ h.raw_le hclose).1]
  rfl

theorem repeatsCommand_iff (interface receiver : AgriculturalGuidanceInterface) (env : Environment)
    (h : Carries message AGRICULTURAL_GUIDANCE_SYSTEM_COMMAND source raw) :
    interface.RepeatsCommand (receiver.processRxMessage env message).1 source raw ↔
      (CURVATURE_COMMAND_MAX_INVERSE_KM <
          interface.guidanceMachineInfoTransmitData.estimatedCurvature →
        raw = MAX_RAW_CURVATURE) := by
  obtain ⟨received, hlookup, hclose⟩ := lookup_processRxMessage_command receiver env h
  rw [Option.mem_def] at hlookup
  have hset := rawCurvature_setCurvature
    interface.guidanceSystemCommandTransmitData.commandedCurvature h.raw_le hclose
  have hrepeats : interface.RepeatsCommand (receiver.processRxMessage env message).1 source raw ↔
      encodedCurvature interface.guidanceMachineInfoTransmitData.estimatedCurvature
        (setCurvature interface.guidanceSystemCommandTransmitData.commandedCurvature
          received.data.commandedCurvature) = some raw := by
    simp only [RepeatsCommand, hlookup, Option.mem_def, Option.some_inj, exists_eq_left',
      commandCurvature, guidanceSystemCommandFrame, GuidanceSystemCommand.setCurvature,
      Option.map_map, Option.map_eq_some_iff, Function.comp_apply, commandBuffer_inj,
      exists_eq_right]
  rw [hrepeats]
  obtain hle | hgt := le_or_gt interface.guidanceMachineInfoTransmitData.estimatedCurvature
    CURVATURE_COMMAND_MAX_INVERSE_KM
  · rw [(encodedCurvature_of_le hle).mpr hset.2, hset.1]
    exact iff_of_true rfl fun hgt => absurd hgt (not_lt.mpr hle)
  · rw [encodedCurvature_of_gt hgt, Option.some_inj]
    exact ⟨fun hraw _ => hraw.symm, fun hraw => (hraw hgt).symm⟩

theorem steersAsCommanded_iff :
    interface.SteersAsCommanded ↔
      (interface.guidanceMachineInfoTransmitData.estimatedCurvature ≤
          CURVATURE_COMMAND_MAX_INVERSE_KM →
        interface.guidanceSystemCommandTransmitData.commandedCurvature <
          CURVATURE_COMMAND_MAX_INVERSE_KM + 7 / 32) ∧
      (CURVATURE_COMMAND_MAX_INVERSE_KM <
          interface.guidanceMachineInfoTransmitData.estimatedCurvature →
        CURVATURE_COMMAND_MAX_INVERSE_KM - 1 / 32 ≤
          interface.guidanceSystemCommandTransmitData.commandedCurvature) := by
  rw [steersAsCommanded_iff_encodedCurvature]
  obtain hle | hgt := le_or_gt interface.guidanceMachineInfoTransmitData.estimatedCurvature
    CURVATURE_COMMAND_MAX_INVERSE_KM
  · rw [encodedCurvature_of_le hle]
    exact ⟨fun h => ⟨fun _ => h, fun hgt => absurd hgt (not_lt.mpr hle)⟩, fun h => h.1 hle⟩
  · rw [encodedCurvature_of_gt hgt, Option.some_inj, eq_comm, rawCurvature_eq_max_iff]
    exact ⟨fun h => ⟨fun hle => absurd hle (not_le.mpr hgt), fun _ => h⟩, fun h => h.2 hgt⟩

end AgriculturalGuidanceInterface

/-- The command says what was commanded, and both messages repeat the received number, exactly if
the machine info does not decide about the command. -/
theorem saysAsCommanded_iff (interface receiver : AgriculturalGuidanceInterface)
    (env : Environment) {command info : CANMessage} {source : CFRef} {raw : UInt16}
    (hcommand : Carries command AGRICULTURAL_GUIDANCE_SYSTEM_COMMAND source raw)
    (hinfo : Carries info AGRICULTURAL_GUIDANCE_MACHINE_INFO source raw) :
    (interface.SteersAsCommanded ∧ interface.ReportsAsEstimated ∧
        interface.RepeatsCommand (receiver.processRxMessage env command).1 source raw ∧
        interface.RepeatsEstimate (receiver.processRxMessage env info).1 source raw) ↔
      interface.TestsAsCommanded raw := by
  rw [AgriculturalGuidanceInterface.steersAsCommanded_iff,
    AgriculturalGuidanceInterface.repeatsCommand_iff interface receiver env hcommand,
    AgriculturalGuidanceInterface.TestsAsCommanded]
  constructor
  · rintro ⟨⟨hle, hgt⟩, -, hrepeats, -⟩
    exact ⟨hle, fun h => ⟨hgt h, hrepeats h⟩⟩
  · rintro ⟨hle, hgt⟩
    exact ⟨⟨hle, fun h => (hgt h).1⟩, interface.reportsAsEstimated, fun h => (hgt h).2,
      interface.repeatsEstimate receiver env hinfo⟩

def straightOn (estimated : ℚ) : AgriculturalGuidanceInterface where
  commandSender := some 0
  machineInfoSender := none
  destinationControlFunction := none
  guidanceSystemCommandTransmitData := { commandedCurvature := 0, commandedStatus := 1 }
  guidanceMachineInfoTransmitData := { estimatedCurvature := estimated }

def straightOnMessage (parameterGroupNumber : UInt32) : CANMessage where
  identifier := .ofFields .extended parameterGroupNumber Priority3 BROADCAST_CAN_ADDRESS 0x80
  data := [0x80, 0x7D, 0xFF, 0xFF, 0xFF, 0xFF, 0xFF, 0xFF]
  source := some 1
  destination := none
  canPortIndex := 0
  timestampUs := 0

theorem saysAsCommanded_straightOn :
    (straightOn 0).TestsAsCommanded 32128 ∧ (straightOn 0).SteersAsCommanded := by
  have hcondition : (straightOn 0).TestsAsCommanded 32128 := by
    norm_num [AgriculturalGuidanceInterface.TestsAsCommanded, straightOn,
      CURVATURE_COMMAND_MAX_INVERSE_KM]
  have hcommand : Carries (straightOnMessage AGRICULTURAL_GUIDANCE_SYSTEM_COMMAND)
      AGRICULTURAL_GUIDANCE_SYSTEM_COMMAND 1 32128 := by
    constructor <;> decide
  have hinfo : Carries (straightOnMessage AGRICULTURAL_GUIDANCE_MACHINE_INFO)
      AGRICULTURAL_GUIDANCE_MACHINE_INFO 1 32128 := by
    constructor <;> decide
  have hsays := (saysAsCommanded_iff (straightOn 0) (straightOn 0)
    { now := 0, world := fun _ => ⟨.external, 0, 0, 0⟩, send := fun _ => true }
    hcommand hinfo).mpr hcondition
  exact ⟨hcondition, hsays.1⟩

/-- The sharpest turn is commanded because the machine estimates one. -/
theorem straightOn_not_asCommanded :
    ¬(straightOn 8032).SteersAsCommanded ∧
      (straightOn 8032).guidanceSystemCommandFrame.map TransmitFrame.data =
        some [0xFF, 0xFA, 0xFD, 0xFF, 0xFF, 0xFF, 0xFF, 0xFF] ∧
      (straightOn 0).guidanceSystemCommandFrame.map TransmitFrame.data =
        some [0x80, 0x7D, 0xFD, 0xFF, 0xFF, 0xFF, 0xFF, 0xFF] := by
  rw [AgriculturalGuidanceInterface.SteersAsCommanded]
  decide +kernel

end Isobus.Guidance
