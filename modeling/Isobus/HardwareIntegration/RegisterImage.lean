import Isobus.HardwareIntegration.Mcp2515
import Mathlib.Tactic

/-!
# The register image of a frame

What `read_frame` reads is what `write_frame` wrote, but for the format flag: it is set for an
extended frame and never cleared for a standard one.
-/

namespace Isobus.HardwareIntegration

theorem and_three (n : Nat) : n &&& 0x03 = n % 4 := Nat.and_two_pow_sub_one_eq_mod n 2

theorem and_highBits (n : Nat) : n &&& 0xE0 = 2 ^ 5 * (n / 2 ^ 5 % 2 ^ 3) := by
  refine Nat.eq_of_testBit_eq fun i => ?_
  rw [Nat.testBit_and, Nat.testBit_two_pow_mul, Nat.testBit_mod_two_pow, Nat.testBit_div_two_pow]
  rcases Nat.lt_or_ge i 8 with hi | hi
  · interval_cases i <;> simp [Nat.testBit]
  · have hmask : Nat.testBit 0xE0 i = false :=
      Nat.testBit_lt_two_pow (lt_of_lt_of_le (by decide) (Nat.pow_le_pow_right (by decide) hi))
    rw [hmask]
    simp
    omega

/-- SIDL of an extended frame: low bits of the standard identifier, the flag and two bits of the
extension. -/
theorem sidl_fields : ∀ (low : Fin 8) (extension : Fin 4),
    (UInt8.ofNat extension.val ||| UInt8.ofNat (32 * low.val) ||| 0x08).toNat =
      32 * low.val + 8 + extension.val ∧
    (UInt8.ofNat extension.val ||| UInt8.ofNat (32 * low.val) ||| 0x08) &&& 0x08 = 0x08 := by
  decide

theorem sidl_standard : ∀ low : Fin 8, UInt8.ofNat (32 * low.val) &&& 0x08 = 0 := by decide

theorem standard_toNat (sidh sidl : UInt8) :
    ((sidh.toUInt32 <<< 3) + (sidl.toUInt32 >>> 5) : UInt32).toNat =
      sidh.toNat * 8 + sidl.toNat / 32 := by
  have hsidh := sidh.toNat_lt
  have hsidl := sidl.toNat_lt
  simp [Nat.shiftRight_eq_div_pow, Nat.shiftLeft_eq]
  omega

theorem standard_toNat_lt (sidh sidl : UInt8) :
    ((sidh.toUInt32 <<< 3) + (sidl.toUInt32 >>> 5) : UInt32).toNat < 2 ^ 11 := by
  have hsidh := sidh.toNat_lt
  have hsidl := sidl.toNat_lt
  rw [standard_toNat]
  omega

theorem extended_toNat {standard : UInt32} (hstandard : standard.toNat < 2 ^ 11)
    (sidl eid8 eid0 : UInt8) :
    (((((standard <<< 2) + (sidl.toUInt32 &&& 0x03)) <<< 8) + eid8.toUInt32) <<< 8 +
        eid0.toUInt32 : UInt32).toNat =
      standard.toNat * 2 ^ 18 + sidl.toNat % 4 * 2 ^ 16 + eid8.toNat * 2 ^ 8 + eid0.toNat := by
  have heid8 := eid8.toNat_lt
  have heid0 := eid0.toNat_lt
  simp [and_three, Nat.shiftLeft_eq]
  omega

namespace CANMessageFrame

variable {canFrame : CANMessageFrame} {uninitialised : UInt8 × UInt8}

/-- A frame that the bus can carry. -/
structure IsClassical (canFrame : CANMessageFrame) : Prop where
  identifier :
    canFrame.identifier.toNat < if canFrame.isExtendedFrame then 2 ^ 29 else 2 ^ 11
  dataLength : canFrame.dataLength.toNat ≤ 8

def HeldAt (canFrame : CANMessageFrame) (uninitialised : UInt8 × UInt8) (registers : Registers)
    (sidh : Nat) : Prop :=
  ∀ k < 5 + canFrame.dataLength.toNat,
    registers (sidh + k) = (canFrame.image uninitialised).getD k 0

theorem length_image (hlength : canFrame.dataLength.toNat ≤ 8) :
    (canFrame.image uninitialised).length = 5 + canFrame.dataLength.toNat := by
  unfold image
  split <;> simp <;> omega

theorem image_dataLength : (canFrame.image uninitialised).getD 4 0 = canFrame.dataLength := by
  unfold image
  split <;> rfl

theorem image_data {k : Nat} (hk : k < canFrame.dataLength.toNat) (hk8 : k < 8) :
    (canFrame.image uninitialised).getD (5 + k) 0 = canFrame.data ⟨k, hk8⟩ := by
  have hheader : ∀ header : List UInt8, header.length = 4 →
      (header ++ [canFrame.dataLength] ++
        (List.ofFn canFrame.data).take canFrame.dataLength.toNat).getD (5 + k) 0 =
        canFrame.data ⟨k, hk8⟩ := by
    intro header hlength
    have hafter : 5 + k - (header ++ [canFrame.dataLength]).length = k := by
      simp [hlength]
    rw [List.getD_eq_getElem?_getD, List.getElem?_append_right (by simp [hlength]), hafter]
    rw [List.getElem?_take_of_lt hk, List.getElem?_ofFn, dif_pos hk8]
    rfl
  unfold image
  split
  · exact hheader _ rfl
  · exact hheader _ rfl

theorem dataLength_and_low (hlength : canFrame.dataLength.toNat ≤ 8) :
    canFrame.dataLength &&& 0x0F = canFrame.dataLength := by
  apply UInt8.toNat_inj.mp
  have hmask : ∀ n : Nat, n &&& 0x0F = n % 16 := fun n => Nat.and_two_pow_sub_one_eq_mod n 4
  simp [hmask]
  omega

theorem sidl_extended (identifier : UInt32) :
    (((identifier >>> 16) &&& 0x03).toUInt8 ||| ((identifier >>> 13) &&& 0xE0).toUInt8 |||
        0x08).toNat =
      32 * (identifier.toNat / 2 ^ 18 % 8) + 8 + identifier.toNat / 2 ^ 16 % 4 ∧
    (((identifier >>> 16) &&& 0x03).toUInt8 ||| ((identifier >>> 13) &&& 0xE0).toUInt8 |||
        0x08) &&& 0x08 = 0x08 := by
  have hextension : ((identifier >>> 16) &&& 0x03).toUInt8 =
      UInt8.ofNat (identifier.toNat / 2 ^ 16 % 4) := by
    apply UInt8.toNat_inj.mp
    simp [and_three, Nat.shiftRight_eq_div_pow]
    omega
  have hlow : ((identifier >>> 13) &&& 0xE0).toUInt8 =
      UInt8.ofNat (32 * (identifier.toNat / 2 ^ 18 % 8)) := by
    apply UInt8.toNat_inj.mp
    simp [and_highBits, Nat.shiftRight_eq_div_pow]
    omega
  rw [hextension, hlow]
  exact sidl_fields ⟨identifier.toNat / 2 ^ 18 % 8, Nat.mod_lt _ (by decide)⟩
    ⟨identifier.toNat / 2 ^ 16 % 4, Nat.mod_lt _ (by decide)⟩

theorem sidl_notExtended (identifier : UInt32) :
    ((identifier <<< 5) &&& 0xE0).toUInt8.toNat = 32 * (identifier.toNat % 8) ∧
    ((identifier <<< 5) &&& 0xE0).toUInt8 &&& 0x08 = 0 := by
  have hlow : ((identifier <<< 5) &&& 0xE0).toUInt8 =
      UInt8.ofNat (32 * (identifier.toNat % 8)) := by
    apply UInt8.toNat_inj.mp
    simp [and_highBits, Nat.shiftLeft_eq]
    omega
  rw [hlow]
  refine ⟨?_, sidl_standard ⟨identifier.toNat % 8, Nat.mod_lt _ (by decide)⟩⟩
  simp
  omega

theorem ofFn_take_eq {registers : Registers} {sidh : Nat}
    (hlength : canFrame.dataLength.toNat ≤ 8)
    (hheld : canFrame.HeldAt uninitialised registers sidh) :
    (List.range canFrame.dataLength.toNat).map (fun k => registers (sidh + 5 + k)) =
      (List.ofFn canFrame.data).take canFrame.dataLength.toNat := by
  apply List.ext_getElem
  · simp
    omega
  · intro k hk _
    have hk : k < canFrame.dataLength.toNat := by simpa using hk
    have hregister := hheld (5 + k) (by omega)
    rw [image_data hk (by omega), ← Nat.add_assoc] at hregister
    rw [List.getElem_map, List.getElem_range, hregister, List.getElem_take, List.getElem_ofFn]

theorem frameAt_eq_onBus {registers : Registers} {sidh : Nat}
    (hlength : canFrame.dataLength.toNat ≤ 8)
    (hheld : canFrame.HeldAt uninitialised registers sidh) :
    registers.frameAt sidh = canFrame.onBus := by
  have hdlc : registers (sidh + 4) = canFrame.dataLength := by
    rw [hheld 4 (by omega), image_dataLength]
  have hdata : (List.range (min (registers (sidh + 4) &&& 0x0F).toNat 8)).map
      (fun k => registers (sidh + 5 + k)) =
        (List.ofFn canFrame.data).take canFrame.dataLength.toNat := by
    rw [hdlc, dataLength_and_low hlength, Nat.min_eq_left hlength, ofFn_take_eq hlength hheld]
  have hregister : ∀ k < 4, registers (sidh + k) = (canFrame.image uninitialised).getD k 0 :=
    fun k hk => hheld k (by omega)
  have h0 := hregister 0 (by decide)
  have h1 := hregister 1 (by decide)
  have h2 := hregister 2 (by decide)
  have h3 := hregister 3 (by decide)
  cases hextended : canFrame.isExtendedFrame with
  | true =>
    obtain ⟨hsidl, hflag⟩ := sidl_extended canFrame.identifier
    simp only [image, hextended, if_true, List.cons_append, List.getD_cons_zero,
      List.getD_cons_succ, Nat.add_zero] at h0 h1 h2 h3
    rw [Registers.frameAt, onBus, hdata]
    simp only [h0, h1, h2, h3, hflag, hextended, if_true, decide_true, BusFrame.mk.injEq,
      and_self, and_true]
    apply UInt32.toNat_inj.mp
    rw [extended_toNat (standard_toNat_lt _ _), standard_toNat, hsidl]
    have hbus : ∀ n : Nat, n &&& 0x1FFFFFFF = n % 2 ^ 29 :=
      fun n => Nat.and_two_pow_sub_one_eq_mod n 29
    have hbyte : ∀ n : Nat, n &&& 0xFF = n % 2 ^ 8 :=
      fun n => Nat.and_two_pow_sub_one_eq_mod n 8
    simp [hbus, hbyte, Nat.shiftRight_eq_div_pow]
    omega
  | false =>
    obtain ⟨hsidl, hflag⟩ := sidl_notExtended canFrame.identifier
    simp only [image, hextended, Bool.false_eq_true, if_false, List.cons_append,
      List.getD_cons_zero, List.getD_cons_succ, Nat.add_zero] at h0 h1
    rw [Registers.frameAt, onBus, hdata]
    have hclear : ¬ (0 : UInt8) = 0x08 := by decide
    simp only [h0, h1, hflag, hextended, hclear, if_false, decide_false, Bool.false_eq_true,
      BusFrame.mk.injEq, and_self, and_true]
    apply UInt32.toNat_inj.mp
    rw [standard_toNat, hsidl]
    have hbus : ∀ n : Nat, n &&& 0x7FF = n % 2 ^ 11 :=
      fun n => Nat.and_two_pow_sub_one_eq_mod n 11
    simp [hbus, Nat.shiftRight_eq_div_pow]
    omega

end CANMessageFrame

abbrev RxBuffer := Fin 2

def RxBuffer.ctrl : RxBuffer → MCPRegister
  | 0 => .RXB0CTRL
  | 1 => .RXB1CTRL

def RxBuffer.data : RxBuffer → MCPRegister
  | 0 => .RXB0DATA
  | 1 => .RXB1DATA

def RxBuffer.flag : RxBuffer → UInt8
  | 0 => 0x01
  | 1 => 0x02

theorem RxBuffer.address_eq (buffer : RxBuffer) :
    buffer.ctrl.address = 0x60 + 0x10 * buffer.val ∧
      buffer.data.address = buffer.ctrl.address + 6 := by
  revert buffer
  decide

theorem RxBuffer.not_isStatus (buffer : RxBuffer) (k : Nat) :
    ¬ Controller.IsStatus (buffer.ctrl.address + k) := by
  rintro (h | ⟨other, h⟩)
  · rw [buffer.address_eq.1, MCPRegister.address] at h
    omega
  · rw [buffer.address_eq.1, other.address_eq.1] at h
    omega

theorem heldAt_of_writeFrameTo {link link' : Link} {txPriority : UInt8} {canFrame : CANMessageFrame}
    {uninitialised : UInt8 × UInt8} {buffer : TxBuffer}
    (hlength : canFrame.dataLength.toNat ≤ 8)
    (h : writeFrameTo link txPriority canFrame uninitialised buffer.ctrl buffer.sidh =
      (true, link')) :
    canFrame.HeldAt uninitialised link'.controller.registers buffer.sidh.address := by
  obtain ⟨loaded, hloaded, -, rfl⟩ := writeFrameTo_eq_true h
  intro k hk
  have hstatus := Controller.not_isStatus_sidh buffer (k := k) (by omega)
  have hctrl : buffer.sidh.address + k ≠ buffer.ctrl.address :=
    fun heq => hstatus (.inr ⟨buffer, heq⟩)
  calc ((loaded.access.2.controller.registers.modify buffer.ctrl.address _ _)
        (buffer.sidh.address + k))
      = loaded.access.2.controller.registers (buffer.sidh.address + k) :=
        Registers.modify_of_ne _ _ _ hctrl
    _ = loaded.controller.registers (buffer.sidh.address + k) :=
        loaded.registers_access hstatus
    _ = (canFrame.image uninitialised).getD k 0 := by
        rw [hloaded]
        exact Registers.write_of_lt _ (by rw [CANMessageFrame.length_image hlength]; exact hk)

/-- The bytes in the transmit registers have reached the receive registers. -/
def Arrived (sender : Registers) (tx : TxBuffer) (receiver : Registers) (rx : RxBuffer)
    (dataLength : Nat) : Prop :=
  ∀ k < 5 + dataLength,
    receiver (rx.ctrl.address + 1 + k) = sender (tx.sidh.address + k)

def Link.Reliable (link : Link) : Prop := ∀ access ∈ link.accesses, access.succeeds

theorem Link.Reliable.access {link : Link} (h : link.Reliable) :
    link.access.1 = true ∧ link.access.2.Reliable := by
  unfold Link.access
  split
  · exact ⟨rfl, h⟩
  · rename_i first rest heq
    rw [Reliable, heq] at h
    exact ⟨h first List.mem_cons_self, fun a ha => h a (List.mem_cons_of_mem _ ha)⟩

namespace CANMessageFrame

/-- What `read_frame` makes of a previous frame when it reads this one: the format flag is only
ever set. -/
def readInto (canFrame previous : CANMessageFrame) : CANMessageFrame :=
  { previous with
    identifier := canFrame.identifier
    isExtendedFrame := canFrame.isExtendedFrame || previous.isExtendedFrame
    dataLength := canFrame.dataLength
    data := fun k =>
      if k.val < canFrame.dataLength.toNat then canFrame.data k else previous.data k }

theorem onBus_identifier {canFrame : CANMessageFrame} (h : canFrame.IsClassical) :
    canFrame.onBus.identifier = canFrame.identifier := by
  have hbound := h.identifier
  apply UInt32.toNat_inj.mp
  unfold onBus
  split at hbound
  · have hmask : ∀ n : Nat, n &&& 0x1FFFFFFF = n % 2 ^ 29 :=
      fun n => Nat.and_two_pow_sub_one_eq_mod n 29
    simp [*]
    omega
  · have hmask : ∀ n : Nat, n &&& 0x7FF = n % 2 ^ 11 :=
      fun n => Nat.and_two_pow_sub_one_eq_mod n 11
    simp [*]
    omega

theorem decode_eq (previous : CANMessageFrame) (registers : Registers) (ctrl : Nat) :
    previous.decode (fun k => registers (ctrl + k)) =
      { previous with
        identifier := (registers.frameAt (ctrl + 1)).identifier
        isExtendedFrame :=
          (registers.frameAt (ctrl + 1)).isExtendedFrame || previous.isExtendedFrame
        dataLength := registers (ctrl + 5) &&& 0x0F } := by
  unfold decode Registers.frameAt
  by_cases hflag : registers (ctrl + 2) &&& 0x08 = 0x08
  · simp [hflag]
  · simp [hflag]

theorem decode_of_heldAt {canFrame previous : CANMessageFrame} {uninitialised : UInt8 × UInt8}
    {registers : Registers} {ctrl : Nat} (h : canFrame.IsClassical)
    (hheld : canFrame.HeldAt uninitialised registers (ctrl + 1)) :
    previous.decode (fun k => registers (ctrl + k)) =
      { previous with
        identifier := canFrame.identifier
        isExtendedFrame := canFrame.isExtendedFrame || previous.isExtendedFrame
        dataLength := canFrame.dataLength } := by
  have hdlc : registers (ctrl + 5) = canFrame.dataLength := by
    have hregister := hheld 4 (by omega)
    rwa [image_dataLength, Nat.add_assoc] at hregister
  rw [decode_eq, frameAt_eq_onBus h.dataLength hheld, onBus_identifier h, hdlc,
    dataLength_and_low h.dataLength]
  rfl

end CANMessageFrame

theorem Link.readRegisters_of_succeeds {link : Link} (hlink : link.access.1 = true)
    (address : MCPRegister) (data : Fin 8 → UInt8) {length : Nat} (hlength : length ≤ 8) :
    link.readRegisters address data length =
      some (true, fun k => if k.val < length then
        link.access.2.controller.registers (address.address + k.val) else data k,
        link.access.2) := by
  unfold readRegisters
  split
  · rename_i after heq
    rw [if_pos hlength, heq]
  · rename_i after heq
    rw [heq] at hlink
    cases hlink

theorem readFrameFrom_of_heldAt {canFrame : CANMessageFrame} (previous : CANMessageFrame)
    {uninitialised : UInt8 × UInt8} {receiver : Link} {buffer : RxBuffer} (h : canFrame.IsClassical)
    (hreliable : receiver.Reliable)
    (hheld : canFrame.HeldAt uninitialised receiver.controller.registers
      (buffer.ctrl.address + 1)) :
    ∃ receiver', readFrameFrom receiver previous buffer.ctrl buffer.data buffer.flag =
      some (true, canFrame.readInto previous, receiver') := by
  have hfirst : canFrame.HeldAt uninitialised receiver.access.2.controller.registers
      (buffer.ctrl.address + 1) := by
    intro k hk
    rw [Nat.add_assoc, receiver.registers_access (buffer.not_isStatus _), ← Nat.add_assoc]
    exact hheld k hk
  obtain ⟨hread, hreliable⟩ := hreliable.access
  rcases haccess : receiver.access with ⟨_ | _, first⟩
  · rw [haccess] at hread
    cases hread
  rw [haccess] at hfirst hreliable
  obtain ⟨hdata, hreliable⟩ := hreliable.access
  obtain ⟨hclear, -⟩ := hreliable.access
  have hsecond : ∀ k : Fin 8, k.val < canFrame.dataLength.toNat →
      first.access.2.controller.registers (buffer.data.address + k.val) = canFrame.data k := by
    intro k hk
    have hregister := hfirst (5 + k.val) (by omega)
    rw [CANMessageFrame.image_data hk k.isLt, Nat.add_assoc, ← Nat.add_assoc 1 5] at hregister
    rw [buffer.address_eq.2, Nat.add_assoc, first.registers_access (buffer.not_isStatus _)]
    exact hregister
  have hdataRead : (fun k : Fin 8 => if k.val < canFrame.dataLength.toNat then
      first.access.2.controller.registers (buffer.data.address + k.val) else previous.data k) =
      (canFrame.readInto previous).data := by
    funext k
    show _ = if k.val < canFrame.dataLength.toNat then canFrame.data k else previous.data k
    split
    · rename_i hk
      exact hsecond k hk
    · rfl
  have hclears : ∃ last, first.access.2.modifyRegister .CANINTF buffer.flag 0 = (true, last) := by
    unfold Link.modifyRegister
    split
    · exact ⟨_, rfl⟩
    · rename_i heq
      rw [heq] at hclear
      cases hclear
  obtain ⟨last, hlast⟩ := hclears
  refine ⟨last, ?_⟩
  simp only [readFrameFrom, haccess, CANMessageFrame.decode_of_heldAt h hfirst]
  rw [if_pos (show canFrame.dataLength.toNat ≤ Can.CAN_DATA_LENGTH from h.dataLength),
    Link.readRegisters_of_succeeds hdata _ _ h.dataLength, hdataRead]
  simp only [hlast]
  rfl

theorem readFrameFrom_ne_none (link : Link) (canFrame : CANMessageFrame)
    (ctrlRegister dataRegister : MCPRegister) (intfMask : UInt8) :
    readFrameFrom link canFrame ctrlRegister dataRegister intfMask ≠ none := by
  have hread : ∀ (link : Link) (data : Fin 8 → UInt8) {length : Nat}, length ≤ 8 →
      link.readRegisters dataRegister data length ≠ none := by
    intro link data length hlength
    unfold Link.readRegisters
    split
    · rw [if_pos hlength]
      exact Option.some_ne_none _
    · exact Option.some_ne_none _
  unfold readFrameFrom
  split
  · exact Option.some_ne_none _
  · dsimp only
    split
    · rename_i hlength
      split
      · rename_i hnone
        exact absurd hnone (hread _ _ hlength)
      · exact Option.some_ne_none _
      · exact Option.some_ne_none _
    · exact Option.some_ne_none _

theorem readRound_ne_none (driver : MCP2515CANInterface) (link : Link) (status : UInt8)
    (canFrame : CANMessageFrame) : driver.readRound link status canFrame ≠ none := by
  unfold MCP2515CANInterface.readRound
  split
  · exact Option.some_ne_none _
  · split
    · split
      · rename_i hnone
        exact absurd hnone (readFrameFrom_ne_none _ _ _ _ _)
      · exact Option.some_ne_none _
    · split
      · split
        · rename_i hnone
          exact absurd hnone (readFrameFrom_ne_none _ _ _ _ _)
        · exact Option.some_ne_none _
      · exact Option.some_ne_none _

theorem readFrame_ne_none (driver : MCP2515CANInterface) (link : Link) (status : UInt8)
    (canFrame : CANMessageFrame) (rounds : Nat) :
    driver.readFrame link status canFrame rounds ≠ none := by
  induction rounds generalizing driver link status canFrame with
  | zero => exact Option.some_ne_none _
  | succ rounds ih =>
    unfold MCP2515CANInterface.readFrame
    split
    · rename_i hnone
      exact absurd hnone (readRound_ne_none driver link status canFrame)
    · exact Option.some_ne_none _
    · exact ih _ _ _ _

namespace CANMessageFrame

/-- Identifier, format flag, length and the data of that length agree. -/
structure SameContent (a b : CANMessageFrame) : Prop where
  identifier : a.identifier = b.identifier
  isExtendedFrame : a.isExtendedFrame = b.isExtendedFrame
  dataLength : a.dataLength = b.dataLength
  data : ∀ k : Fin 8, k.val < b.dataLength.toNat → a.data k = b.data k

theorem sameContent_readInto_iff (canFrame previous : CANMessageFrame) :
    (canFrame.readInto previous).SameContent canFrame ↔
      (canFrame.isExtendedFrame ∨ ¬ previous.isExtendedFrame) := by
  have hflag : (canFrame.isExtendedFrame || previous.isExtendedFrame) = canFrame.isExtendedFrame ↔
      (canFrame.isExtendedFrame ∨ ¬ previous.isExtendedFrame) := by
    cases canFrame.isExtendedFrame <;> cases previous.isExtendedFrame <;> decide
  rw [← hflag]
  constructor
  · intro h
    exact h.isExtendedFrame
  · intro h
    exact ⟨rfl, h, rfl, fun k hk => if_pos hk⟩

end CANMessageFrame

/-- The receiver reads what arrived into the previous frame, and no read writes beyond the data of
its frame. -/
def ReadsBack (canFrame previous : CANMessageFrame) (receiver : Link) (buffer : RxBuffer) : Prop :=
  (∃ result receiver',
    readFrameFrom receiver previous buffer.ctrl buffer.data buffer.flag =
      some (true, result, receiver') ∧ result.SameContent canFrame) ∧
  (∀ (link : Link) (canFrame : CANMessageFrame) (ctrlRegister dataRegister : MCPRegister)
    (intfMask : UInt8), readFrameFrom link canFrame ctrlRegister dataRegister intfMask ≠ none) ∧
  ∀ (driver : MCP2515CANInterface) (link : Link) (status : UInt8) (canFrame : CANMessageFrame)
    (rounds : Nat), driver.readFrame link status canFrame rounds ≠ none

/-- A frame is read back as it was written exactly if it is extended or was not read into an
extended one. -/
theorem readsBack_iff {canFrame : CANMessageFrame} (previous : CANMessageFrame)
    (h : canFrame.IsClassical) {sender sender' receiver : Link} {txPriority : UInt8}
    {uninitialised : UInt8 × UInt8} {tx : TxBuffer} {rx : RxBuffer}
    (hwrite : writeFrameTo sender txPriority canFrame uninitialised tx.ctrl tx.sidh =
      (true, sender'))
    (harrived : Arrived sender'.controller.registers tx receiver.controller.registers rx
      canFrame.dataLength.toNat)
    (hreliable : receiver.Reliable) :
    ReadsBack canFrame previous receiver rx ↔
      (canFrame.isExtendedFrame ∨ ¬ previous.isExtendedFrame) := by
  have hsent := heldAt_of_writeFrameTo h.dataLength hwrite
  have hheld : canFrame.HeldAt uninitialised receiver.controller.registers
      (rx.ctrl.address + 1) := by
    intro k hk
    rw [harrived k hk]
    exact hsent k hk
  obtain ⟨receiver', hread⟩ := readFrameFrom_of_heldAt previous h hreliable hheld
  rw [← CANMessageFrame.sameContent_readInto_iff]
  constructor
  · rintro ⟨⟨result, last, hresult, hsame⟩, -, -⟩
    rw [hread] at hresult
    obtain ⟨rfl, -⟩ : _ ∧ _ := by simpa using hresult
    exact hsame
  · intro hsame
    exact ⟨⟨_, receiver', hread, hsame⟩, readFrameFrom_ne_none, readFrame_ne_none⟩

def Controller.idle : Controller where
  registers := fun _ => 0
  sent := []

/-- A controller whose first receive buffer holds what is in the last transmit buffer of the
sender. -/
def relayed (sender : Link) : Link where
  controller :=
    { registers := fun k => sender.controller.registers (0x51 + (k - 0x61))
      sent := [] }
  accesses := []

theorem arrived_relayed (sender : Link) (dataLength : Nat) :
    Arrived sender.controller.registers 2 (relayed sender).controller.registers 0 dataLength := by
  intro k _
  show sender.controller.registers (0x51 + (0x61 + k - 0x61)) = _
  rw [Nat.add_sub_cancel_left]
  rfl

def standardFrame : CANMessageFrame where
  timestampUs := 0
  identifier := 0x123
  channel := 0
  data := fun k => UInt8.ofNat (0x11 * k.val)
  dataLength := 3
  isExtendedFrame := false

def extendedFrame : CANMessageFrame :=
  { standardFrame with identifier := 0x18EAFFFE, isExtendedFrame := true }

theorem standardFrame_isClassical : standardFrame.IsClassical := ⟨by decide, by decide⟩

/-- A standard frame read into the frame of an extended one comes out as extended. -/
theorem standard_frame_not_read_back :
    ∃ sender' : Link,
      writeFrameTo ⟨Controller.idle, []⟩ 3 standardFrame (0, 0) (TxBuffer.ctrl 2)
        (TxBuffer.sidh 2) = (true, sender') ∧
      Arrived sender'.controller.registers 2 (relayed sender').controller.registers 0 3 ∧
      (relayed sender').Reliable ∧
      ¬ ReadsBack standardFrame extendedFrame (relayed sender') 0 := by
  obtain ⟨sender', hwrite⟩ : ∃ sender', writeFrameTo ⟨Controller.idle, []⟩ 3 standardFrame (0, 0)
      (TxBuffer.ctrl 2) (TxBuffer.sidh 2) = (true, sender') :=
    ⟨_, rfl⟩
  have hreliable : (relayed sender').Reliable := by
    intro access haccess
    cases haccess
  refine ⟨sender', hwrite, arrived_relayed sender' 3, hreliable, ?_⟩
  rintro ⟨⟨result, last, hresult, hsame⟩, -, -⟩
  have hheld : standardFrame.HeldAt (0, 0) (relayed sender').controller.registers
      ((RxBuffer.ctrl 0).address + 1) := by
    intro k hk
    rw [arrived_relayed sender' 3 k hk]
    exact heldAt_of_writeFrameTo (by decide) hwrite k hk
  obtain ⟨receiver', hread⟩ :=
    readFrameFrom_of_heldAt extendedFrame standardFrame_isClassical hreliable hheld
  rw [hread] at hresult
  obtain ⟨rfl, -⟩ : _ ∧ _ := by simpa using hresult
  exact absurd hsame.isExtendedFrame (by decide)

theorem standard_frame_read_back :
    ∃ sender' : Link,
      writeFrameTo ⟨Controller.idle, []⟩ 3 standardFrame (0, 0) (TxBuffer.ctrl 2)
        (TxBuffer.sidh 2) = (true, sender') ∧
      ReadsBack standardFrame standardFrame (relayed sender') 0 := by
  obtain ⟨sender', hwrite⟩ : ∃ sender', writeFrameTo ⟨Controller.idle, []⟩ 3 standardFrame (0, 0)
      (TxBuffer.ctrl 2) (TxBuffer.sidh 2) = (true, sender') :=
    ⟨_, rfl⟩
  refine ⟨sender', hwrite, ?_⟩
  exact (readsBack_iff standardFrame standardFrame_isClassical hwrite (arrived_relayed sender' 3)
    (by intro access haccess; cases haccess)).mpr (.inr (by decide))

end Isobus.HardwareIntegration
