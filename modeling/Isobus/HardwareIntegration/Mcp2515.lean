import Isobus.Can.Identifier
import Isobus.HardwareIntegration.CanMessageFrame

/-!
# The driver of the MCP2515 controller

How frames pass through the registers of the controller (`mcp2515_can_interface.cpp`), which sends
the frame with the highest priority first and, on ties, the one in the highest buffer. Before every
register access it may send any number of its frames, and an access that fails does not reach the
registers.
-/

namespace Isobus.HardwareIntegration

open Isobus.Can (CAN_DATA_LENGTH)

inductive MCPRegister where
  | CANINTF
  | TXB0CTRL
  | TXB0SIDH
  | TXB1CTRL
  | TXB1SIDH
  | TXB2CTRL
  | TXB2SIDH
  | RXB0CTRL
  | RXB0DATA
  | RXB1CTRL
  | RXB1DATA
  deriving DecidableEq

def MCPRegister.address : MCPRegister → Nat
  | CANINTF => 0x2C
  | TXB0CTRL => 0x30
  | TXB0SIDH => 0x31
  | TXB1CTRL => 0x40
  | TXB1SIDH => 0x41
  | TXB2CTRL => 0x50
  | TXB2SIDH => 0x51
  | RXB0CTRL => 0x60
  | RXB0DATA => 0x66
  | RXB1CTRL => 0x70
  | RXB1DATA => 0x76

abbrev TxBuffer := Fin 3

theorem TxBuffer.neZero : NeZero 3 := ⟨by decide⟩

attribute [local instance] TxBuffer.neZero

def TxBuffer.ctrl : TxBuffer → MCPRegister
  | 0 => .TXB0CTRL
  | 1 => .TXB1CTRL
  | 2 => .TXB2CTRL

def TxBuffer.sidh : TxBuffer → MCPRegister
  | 0 => .TXB0SIDH
  | 1 => .TXB1SIDH
  | 2 => .TXB2SIDH

theorem TxBuffer.address_eq (buffer : TxBuffer) :
    buffer.ctrl.address = 0x30 + 0x10 * buffer.val ∧
      buffer.sidh.address = 0x31 + 0x10 * buffer.val := by
  revert buffer
  decide

abbrev Registers := Nat → UInt8

def Registers.write (registers : Registers) (address : Nat) (bytes : List UInt8) : Registers :=
  fun k =>
    if address ≤ k ∧ k < address + bytes.length then bytes.getD (k - address) 0 else registers k

def Registers.modify (registers : Registers) (address : Nat) (mask data : UInt8) : Registers :=
  registers.write address [(registers address &&& ~~~mask) ||| (data &&& mask)]

variable {address k : Nat}

theorem Registers.write_of_lt (registers : Registers) {bytes : List UInt8}
    (hk : k < bytes.length) : registers.write address bytes (address + k) = bytes.getD k 0 := by
  rw [Registers.write, if_pos (by omega), Nat.add_sub_cancel_left]

theorem Registers.write_of_outside (registers : Registers) {bytes : List UInt8}
    (hk : k < address ∨ address + bytes.length ≤ k) :
    registers.write address bytes k = registers k := by
  rw [Registers.write, if_neg (by omega)]

@[simp] theorem Registers.modify_self (registers : Registers) (address : Nat)
    (mask data : UInt8) :
    registers.modify address mask data address =
      (registers address &&& ~~~mask) ||| (data &&& mask) :=
  registers.write_of_lt (k := 0) (by decide : 0 < 1)

theorem Registers.modify_of_ne (registers : Registers) (mask data : UInt8) (hk : k ≠ address) :
    registers.modify address mask data k = registers k :=
  registers.write_of_outside (by simp; omega)

structure BusFrame where
  identifier : UInt32
  isExtendedFrame : Bool
  data : List UInt8
  deriving DecidableEq

/-- The frame that a buffer holds from the given address on: identifier, length and data. -/
def Registers.frameAt (registers : Registers) (sidh : Nat) : BusFrame :=
  let standard : UInt32 :=
    ((registers sidh).toUInt32 <<< 3) + ((registers (sidh + 1)).toUInt32 >>> 5)
  let extended : UInt32 := (standard <<< 2) + ((registers (sidh + 1)).toUInt32 &&& 0x03)
  let extended : UInt32 := (extended <<< 8) + (registers (sidh + 2)).toUInt32
  let extended : UInt32 := (extended <<< 8) + (registers (sidh + 3)).toUInt32
  { identifier := if registers (sidh + 1) &&& 0x08 = 0x08 then extended else standard
    isExtendedFrame := registers (sidh + 1) &&& 0x08 = 0x08
    data := (List.range (min (registers (sidh + 4) &&& 0x0F).toNat 8)).map
      fun k => registers (sidh + 5 + k) }

/-- The registers and the frames that went out on the bus. -/
structure Controller where
  registers : Registers
  sent : List BusFrame

namespace Controller

def setRegisters (controller : Controller) (registers : Registers) : Controller :=
  { controller with registers := registers }

def modify (controller : Controller) (address : Nat) (mask data : UInt8) : Controller :=
  controller.setRegisters (controller.registers.modify address mask data)

def pending (controller : Controller) (buffer : TxBuffer) : Bool :=
  controller.registers buffer.ctrl.address &&& 0x08 ≠ 0

def priority (controller : Controller) (buffer : TxBuffer) : UInt8 :=
  controller.registers buffer.ctrl.address &&& 0x03

def frame (controller : Controller) (buffer : TxBuffer) : BusFrame :=
  controller.registers.frameAt buffer.sidh.address

def Beats (controller : Controller) (a b : TxBuffer) : Prop :=
  controller.priority b < controller.priority a ∨
    controller.priority b = controller.priority a ∧ b < a

instance (controller : Controller) (a b : TxBuffer) : Decidable (controller.Beats a b) :=
  inferInstanceAs (Decidable (_ ∨ _))

def nextToSend (controller : Controller) : Option TxBuffer :=
  [2, 1, 0].find? fun buffer => controller.pending buffer &&
    [2, 1, 0].all fun other =>
      !controller.pending other || other == buffer || controller.Beats buffer other

/-- A frame has gone out: its request is cleared and its interrupt flag set. -/
def transmitNext (controller : Controller) : Controller :=
  match controller.nextToSend with
  | none => controller
  | some buffer =>
    let flag : UInt8 := 0x04 <<< UInt8.ofNat buffer.val
    { (controller.modify buffer.ctrl.address 0x08 0).modify MCPRegister.CANINTF.address flag
        flag with sent := controller.sent ++ [controller.frame buffer] }

def drain (controller : Controller) : Nat → Controller
  | 0 => controller
  | n + 1 => drain controller.transmitNext n

def interrupt (controller : Controller) (flag : UInt8) : Bool :=
  controller.registers MCPRegister.CANINTF.address &&& flag ≠ 0

/-- The answer to the instruction READ_STATUS. -/
def readStatus (controller : Controller) : UInt8 :=
  let bit : Bool → UInt8 → UInt8 := fun isSet mask => if isSet then mask else 0
  bit (controller.interrupt 0x01) 0x01 ||| bit (controller.interrupt 0x02) 0x02 |||
    bit (controller.pending 0) 0x04 ||| bit (controller.interrupt 0x04) 0x08 |||
    bit (controller.pending 1) 0x10 ||| bit (controller.interrupt 0x08) 0x20 |||
    bit (controller.pending 2) 0x40 ||| bit (controller.interrupt 0x10) 0x80

/-- The registers that sending changes: the flags and the control registers. -/
def IsStatus (address : Nat) : Prop :=
  address = MCPRegister.CANINTF.address ∨ ∃ buffer : TxBuffer, address = buffer.ctrl.address

theorem registers_transmitNext (controller : Controller) {address : Nat}
    (haddress : ¬ IsStatus address) :
    controller.transmitNext.registers address = controller.registers address := by
  unfold transmitNext
  split
  · rfl
  · rename_i buffer _
    calc ((controller.modify buffer.ctrl.address 0x08 0).registers.modify
          MCPRegister.CANINTF.address _ _) address
        = (controller.registers.modify buffer.ctrl.address 0x08 0) address :=
          Registers.modify_of_ne _ _ _ fun h => haddress (.inl h)
      _ = controller.registers address :=
          Registers.modify_of_ne _ _ _ fun h => haddress (.inr ⟨buffer, h⟩)

theorem registers_drain (controller : Controller) {address : Nat}
    (haddress : ¬ IsStatus address) (n : Nat) :
    (controller.drain n).registers address = controller.registers address := by
  induction n generalizing controller with
  | zero => rfl
  | succ n ih => rw [drain, ih, registers_transmitNext controller haddress]

theorem not_isStatus_sidh (buffer : TxBuffer) {k : Nat} (hk : k < 13) :
    ¬ IsStatus (buffer.sidh.address + k) := by
  rintro (h | ⟨other, h⟩)
  · rw [buffer.address_eq.2, MCPRegister.address] at h
    omega
  · rw [buffer.address_eq.2, other.address_eq.1] at h
    omega

end Controller

/-- What happens around one access: frames sent before it, and whether it succeeds. -/
structure Access where
  drained : Nat
  succeeds : Bool
  deriving DecidableEq

/-- The controller behind the SPI, with the accesses to come; those after the list are quiet and
succeed. -/
structure Link where
  controller : Controller
  accesses : List Access

namespace Link

def access (link : Link) : Bool × Link :=
  match link.accesses with
  | [] => (true, link)
  | access :: rest =>
    (access.succeeds, { controller := link.controller.drain access.drained, accesses := rest })

theorem access_drains (link : Link) :
    ∃ n, link.access.2.controller = link.controller.drain n := by
  unfold access
  split
  · exact ⟨0, rfl⟩
  · exact ⟨_, rfl⟩

theorem registers_access (link : Link) {address : Nat}
    (haddress : ¬ Controller.IsStatus address) :
    link.access.2.controller.registers address = link.controller.registers address := by
  obtain ⟨n, hn⟩ := link.access_drains
  rw [hn, Controller.registers_drain _ haddress]

def setRegisters (link : Link) (registers : Registers) : Link :=
  { link with controller := link.controller.setRegisters registers }

def modify (link : Link) (address : Nat) (mask data : UInt8) : Link :=
  { link with controller := link.controller.modify address mask data }

def getReadStatus (link : Link) (status : UInt8) : Bool × UInt8 × Link :=
  match link.access with
  | (true, link) => (true, link.controller.readStatus, link)
  | (false, link) => (false, status, link)

def readRegister (link : Link) (address : MCPRegister) (data : UInt8) : Bool × UInt8 × Link :=
  match link.access with
  | (true, link) => (true, link.controller.registers address.address, link)
  | (false, link) => (false, data, link)

/-- Reads into the data of a frame; `none` is a write beyond the array. -/
def readRegisters (link : Link) (address : MCPRegister) (data : Fin 8 → UInt8) (length : Nat) :
    Option (Bool × (Fin 8 → UInt8) × Link) :=
  match link.access with
  | (true, link) =>
    if length ≤ 8 then
      some (true, fun k =>
        if k.val < length then link.controller.registers (address.address + k.val) else data k,
        link)
    else none
  | (false, link) => some (false, data, link)

def modifyRegister (link : Link) (address : MCPRegister) (mask data : UInt8) : Bool × Link :=
  match link.access with
  | (true, link) => (true, link.modify address.address mask data)
  | (false, link) => (false, link)

def writeRegisters (link : Link) (address : MCPRegister) (bytes : List UInt8) : Bool × Link :=
  match link.access with
  | (true, link) =>
    (true, link.setRegisters (link.controller.registers.write address.address bytes))
  | (false, link) => (false, link)

end Link

/-- The members of the driver; the configuration bytes matter only to `open`. -/
structure MCP2515CANInterface where
  rxIndex : UInt8 := 0
  txIndex : TxBuffer := 2
  txPriority : UInt8 := 3
  deriving DecidableEq

namespace CANMessageFrame

/-- What `read_frame` takes from the six bytes from the control register on. -/
def decode (canFrame : CANMessageFrame) (buffer : Nat → UInt8) : CANMessageFrame :=
  let canFrame : CANMessageFrame := { canFrame with
    identifier := ((buffer 1).toUInt32 <<< 3) + ((buffer 2).toUInt32 >>> 5) }
  let canFrame :=
    if buffer 2 &&& 0x08 = 0x08 then
      let identifier : UInt32 := (canFrame.identifier <<< 2) + ((buffer 2).toUInt32 &&& 0x03)
      let identifier : UInt32 := (identifier <<< 8) + (buffer 3).toUInt32
      let identifier : UInt32 := (identifier <<< 8) + (buffer 4).toUInt32
      { canFrame with identifier := identifier, isExtendedFrame := true }
    else canFrame
  { canFrame with dataLength := buffer 5 &&& 0x0F }

end CANMessageFrame

/-- `read_frame` on one receive buffer; `none` is a write beyond the data of the frame. -/
def readFrameFrom (link : Link) (canFrame : CANMessageFrame)
    (ctrlRegister dataRegister : MCPRegister) (intfMask : UInt8) :
    Option (Bool × CANMessageFrame × Link) :=
  match link.access with
  | (false, link) => some (false, canFrame, link)
  | (true, link) =>
    let canFrame :=
      canFrame.decode fun k => link.controller.registers (ctrlRegister.address + k)
    if canFrame.dataLength.toNat ≤ CAN_DATA_LENGTH then
      match link.readRegisters dataRegister canFrame.data canFrame.dataLength.toNat with
      | none => none
      | some (false, data, link) => some (false, { canFrame with data := data }, link)
      | some (true, data, link) =>
        let (cleared, link) := link.modifyRegister .CANINTF intfMask 0
        some (cleared, { canFrame with data := data }, link)
    else some (false, canFrame, link)

namespace MCP2515CANInterface

/-- One round of the loop of `read_frame`; as long as there is no answer the loop goes on. -/
def readRound (driver : MCP2515CANInterface) (link : Link) (status : UInt8)
    (canFrame : CANMessageFrame) :
    Option (Option Bool × MCP2515CANInterface × UInt8 × CANMessageFrame × Link) :=
  match link.getReadStatus status with
  | (false, status, link) => some (none, driver, status, canFrame, link)
  | (true, status, link) =>
    if status &&& 0x01 ≠ 0 ∧ driver.rxIndex = 0 then
      match readFrameFrom link canFrame .RXB0CTRL .RXB0DATA 0x01 with
      | none => none
      | some (retVal, canFrame, link) =>
        let (_, status, link) := link.getReadStatus status
        some (some retVal,
          if status &&& 0x02 ≠ 0 then { driver with rxIndex := 1 } else driver,
          status, canFrame, link)
    else if status &&& 0x02 ≠ 0 then
      match readFrameFrom link canFrame .RXB1CTRL .RXB1DATA 0x02 with
      | none => none
      | some (retVal, canFrame, link) =>
        some (some retVal, { driver with rxIndex := 0 }, status, canFrame, link)
    else some (none, driver, status, canFrame, link)

def readFrame (driver : MCP2515CANInterface) (link : Link) (status : UInt8)
    (canFrame : CANMessageFrame) :
    Nat → Option (Option Bool × MCP2515CANInterface × CANMessageFrame × Link)
  | 0 => some (none, driver, canFrame, link)
  | rounds + 1 =>
    match driver.readRound link status canFrame with
    | none => none
    | some (some retVal, driver, _, canFrame, link) => some (some retVal, driver, canFrame, link)
    | some (none, driver, status, canFrame, link) =>
      readFrame driver link status canFrame rounds

end MCP2515CANInterface

namespace CANMessageFrame

/-- The bytes for the registers from SIDH on. Those of an extended identifier stay uninitialised in
a standard frame, and at most eight bytes of data are copied. -/
def image (canFrame : CANMessageFrame) (uninitialised : UInt8 × UInt8) : List UInt8 :=
  let header : List UInt8 :=
    if canFrame.isExtendedFrame then
      [((canFrame.identifier >>> 21) &&& 0xFF).toUInt8,
        ((canFrame.identifier >>> 16) &&& 0x03).toUInt8 |||
          ((canFrame.identifier >>> 13) &&& 0xE0).toUInt8 ||| 0x08,
        ((canFrame.identifier >>> 8) &&& 0xFF).toUInt8,
        (canFrame.identifier &&& 0xFF).toUInt8]
    else
      [(canFrame.identifier >>> 3).toUInt8,
        ((canFrame.identifier <<< 5) &&& 0xE0).toUInt8,
        uninitialised.1,
        uninitialised.2]
  header ++ [canFrame.dataLength] ++ (List.ofFn canFrame.data).take canFrame.dataLength.toNat

def onBus (canFrame : CANMessageFrame) : BusFrame where
  identifier :=
    if canFrame.isExtendedFrame then canFrame.identifier &&& 0x1FFFFFFF
    else canFrame.identifier &&& 0x7FF
  isExtendedFrame := canFrame.isExtendedFrame
  data := (List.ofFn canFrame.data).take canFrame.dataLength.toNat

end CANMessageFrame

/-- `write_frame` on one transmit buffer. -/
def writeFrameTo (link : Link) (txPriority : UInt8) (canFrame : CANMessageFrame)
    (uninitialised : UInt8 × UInt8) (ctrlRegister sidhRegister : MCPRegister) : Bool × Link :=
  match link.readRegister ctrlRegister 0 with
  | (false, _, link) => (false, link)
  | (true, ctrl, link) =>
    if ctrl &&& 0x08 = 0 then
      match link.writeRegisters sidhRegister (canFrame.image uninitialised) with
      | (false, link) => (false, link)
      | (true, link) =>
        link.modifyRegister ctrlRegister (0x08 ||| 0x03) (0x08 ||| txPriority)
    else (false, link)

theorem writeFrameTo_eq_true {link link' : Link} {txPriority : UInt8} {canFrame : CANMessageFrame}
    {uninitialised : UInt8 × UInt8} {ctrlRegister sidhRegister : MCPRegister}
    (h : writeFrameTo link txPriority canFrame uninitialised ctrlRegister sidhRegister =
      (true, link')) :
    ∃ loaded : Link, loaded = link.access.2.access.2.setRegisters
        (link.access.2.access.2.controller.registers.write sidhRegister.address
          (canFrame.image uninitialised)) ∧
      link.access.2.controller.registers ctrlRegister.address &&& 0x08 = 0 ∧
      link' =
        loaded.access.2.modify ctrlRegister.address (0x08 ||| 0x03) (0x08 ||| txPriority) := by
  unfold writeFrameTo Link.readRegister at h
  rcases hread : link.access with ⟨_ | _, first⟩
  · simp [hread] at h
  simp only [hread] at h
  split at h
  · rename_i hempty
    unfold Link.writeRegisters at h
    rcases hwrite : first.access with ⟨_ | _, second⟩
    · simp [hwrite] at h
    simp only [hwrite] at h
    refine ⟨_, rfl, hempty, ?_⟩
    unfold Link.modifyRegister at h
    split at h
    · rename_i third hthird
      simp only [hthird]
      exact (Prod.mk.inj h).2.symm
    · simp at h
  · simp at h

namespace MCP2515CANInterface

/-- Before a frame goes into the last buffer while others wait: a lower priority for it, or a higher
one for them. -/
def giveWay (driver : MCP2515CANInterface) (link : Link) : MCP2515CANInterface × Link :=
  if driver.txPriority > 0 then ({ driver with txPriority := driver.txPriority - 1 }, link)
  else
    let (_, link) := link.modifyRegister .TXB1CTRL 0x03 0x03
    let (_, link) := link.modifyRegister .TXB0CTRL 0x03 0x03
    ({ driver with txPriority := 2 }, link)

/-- One round of the retries of `write_frame`. -/
def writeAttempt (driver : MCP2515CANInterface) (link : Link) (status : UInt8)
    (canFrame : CANMessageFrame) (uninitialised : UInt8 × UInt8) :
    Bool × MCP2515CANInterface × UInt8 × Link :=
  let (_, status, link) := link.getReadStatus status
  if status &&& 0x04 = 0 ∧ driver.txIndex = 0 then
    let (retVal, link) :=
      writeFrameTo link driver.txPriority canFrame uninitialised .TXB0CTRL .TXB0SIDH
    (retVal, if retVal then { driver with txIndex := 2 } else driver, status, link)
  else if status &&& 0x10 = 0 ∧ driver.txIndex = 1 then
    let (retVal, link) :=
      writeFrameTo link driver.txPriority canFrame uninitialised .TXB1CTRL .TXB1SIDH
    (retVal, if retVal then { driver with txIndex := 0 } else driver, status, link)
  else if status &&& 0x40 = 0 ∧ driver.txIndex = 2 then
    let (driver, link) :=
      if status &&& (0x10 ||| 0x04) ≠ 0 then driver.giveWay link else (driver, link)
    let (retVal, link) :=
      writeFrameTo link driver.txPriority canFrame uninitialised .TXB2CTRL .TXB2SIDH
    (retVal, if retVal then { driver with txIndex := 1 } else driver, status, link)
  else (false, driver, status, link)

/-- The rounds that are left; `uninitialised` is what the buffer of each round happens to hold. -/
def writeRounds (driver : MCP2515CANInterface) (link : Link) (status : UInt8)
    (canFrame : CANMessageFrame) (uninitialised : Nat → UInt8 × UInt8) :
    Nat → Bool × MCP2515CANInterface × Link
  | 0 => (false, driver, link)
  | retries + 1 =>
    match driver.writeAttempt link status canFrame (uninitialised retries) with
    | (true, driver, _, link) => (true, driver, link)
    | (false, driver, status, link) =>
      writeRounds driver link status canFrame uninitialised retries

/-- `write_frame`; `status` is what the uninitialised variable happens to hold. -/
def writeFrame (driver : MCP2515CANInterface) (link : Link) (status : UInt8)
    (canFrame : CANMessageFrame) (uninitialised : Nat → UInt8 × UInt8) :
    Bool × MCP2515CANInterface × Link :=
  driver.writeRounds link status canFrame uninitialised 100

end MCP2515CANInterface

end Isobus.HardwareIntegration
