import Isobus.HardwareIntegration.RegisterImage
import Isobus.Lib.Machine

/-!
# The order in which frames leave the controller

`write_frame` fills the three transmit buffers from the last to the first and starts over.
-/

namespace Isobus.HardwareIntegration

attribute [local instance] TxBuffer.neZero

open Isobus.Lib

theorem modified_and (register mask data field : UInt8) :
    ((register &&& ~~~mask) ||| (data &&& mask)) &&& field =
      (register &&& (~~~mask &&& field)) ||| (data &&& (mask &&& field)) := by
  apply UInt8.toBitVec_inj.mp
  simp only [UInt8.toBitVec_and, UInt8.toBitVec_or, BitVec.and_or_distrib_right, BitVec.and_assoc]

theorem request_fields {priority : UInt8} (h : priority ≤ 3) :
    (0x08 ||| priority) &&& 0x03 = priority ∧ (0x08 ||| priority) &&& 0x08 = 0x08 := by
  have hpriority : ∀ p : Fin 4, (0x08 ||| UInt8.ofNat p.val) &&& 0x03 = UInt8.ofNat p.val ∧
      (0x08 ||| UInt8.ofNat p.val) &&& 0x08 = 0x08 := by decide
  have hlt : priority.toNat < 4 := Nat.lt_succ_of_le (UInt8.le_iff_toNat_le.mp h)
  have hfields := hpriority ⟨priority.toNat, hlt⟩
  rwa [UInt8.ofNat_toNat] at hfields

theorem Registers.frameAt_congr {a b : Registers} {sidh : Nat}
    (h : ∀ k < 13, a (sidh + k) = b (sidh + k)) : a.frameAt sidh = b.frameAt sidh := by
  have h0 := h 0 (by decide)
  have h1 := h 1 (by decide)
  have h2 := h 2 (by decide)
  have h3 := h 3 (by decide)
  have h4 := h 4 (by decide)
  rw [Nat.add_zero] at h0
  have hdata : ∀ n : Nat, (List.range (min n 8)).map (fun k => a (sidh + 5 + k)) =
      (List.range (min n 8)).map fun k => b (sidh + 5 + k) := by
    intro n
    apply List.map_congr_left
    intro k hk
    have hk : k < min n 8 := List.mem_range.mp hk
    rw [Nat.add_assoc]
    exact h (5 + k) (by omega)
  simp only [Registers.frameAt, h0, h1, h2, h3, h4, hdata]

namespace Controller

variable (controller : Controller) (buffer : TxBuffer)

theorem ctrl_ne {other : TxBuffer} (h : other ≠ buffer) :
    other.ctrl.address ≠ buffer.ctrl.address := by
  rw [other.address_eq.1, buffer.address_eq.1]
  intro heq
  exact h (Fin.ext (by omega))

theorem buffers_modify {address : Nat} (mask data : UInt8) {other : TxBuffer}
    (hctrl : other.ctrl.address ≠ address) :
    (controller.modify address mask data).pending other = controller.pending other ∧
      (controller.modify address mask data).priority other = controller.priority other := by
  have hregister : (controller.modify address mask data).registers other.ctrl.address =
      controller.registers other.ctrl.address :=
    Registers.modify_of_ne _ _ _ hctrl
  rw [pending, priority, hregister]
  exact ⟨rfl, rfl⟩

theorem frame_modify {address : Nat} (haddress : IsStatus address) (mask data : UInt8)
    (other : TxBuffer) :
    (controller.modify address mask data).frame other = controller.frame other := by
  apply Registers.frameAt_congr
  intro k hk
  apply Registers.modify_of_ne
  intro heq
  exact not_isStatus_sidh other hk (heq ▸ haddress)

theorem buffers_write {bytes : List UInt8} (hlength : bytes.length ≤ 13) (other : TxBuffer) :
    let after := controller.setRegisters (controller.registers.write buffer.sidh.address bytes)
    after.pending other = controller.pending other ∧
      after.priority other = controller.priority other ∧
      (other ≠ buffer → after.frame other = controller.frame other) := by
  intro after
  have hregister : after.registers other.ctrl.address =
      controller.registers other.ctrl.address := by
    apply Registers.write_of_outside
    rw [other.address_eq.1, buffer.address_eq.2]
    omega
  refine ⟨?_, ?_, ?_⟩
  · rw [pending, hregister]
    rfl
  · rw [priority, hregister]
    rfl
  · intro hother
    apply Registers.frameAt_congr
    intro k hk
    apply Registers.write_of_outside
    rw [other.address_eq.2, buffer.address_eq.2]
    have hne : other.val ≠ buffer.val := fun h => hother (Fin.ext h)
    omega

theorem registers_modify_self (address : Nat) (mask data field : UInt8) :
    (controller.modify address mask data).registers address &&& field =
      (controller.registers address &&& (~~~mask &&& field)) ||| (data &&& (mask &&& field)) := by
  rw [← modified_and]
  exact congrArg (· &&& field) (Registers.modify_self _ _ _ _)

theorem request_self {txPriority : UInt8} (h : txPriority ≤ 3) :
    let after := controller.modify buffer.ctrl.address (0x08 ||| 0x03) (0x08 ||| txPriority)
    after.pending buffer = true ∧ after.priority buffer = txPriority := by
  obtain ⟨hfield, hflag⟩ := request_fields h
  constructor
  · rw [pending, registers_modify_self,
      show (~~~(0x08 ||| 0x03) : UInt8) &&& 0x08 = 0 from rfl,
      show ((0x08 ||| 0x03) : UInt8) &&& 0x08 = 0x08 from rfl, hflag, UInt8.and_zero]
    rfl
  · rw [priority, registers_modify_self,
      show (~~~(0x08 ||| 0x03) : UInt8) &&& 0x03 = 0 from rfl,
      show ((0x08 ||| 0x03) : UInt8) &&& 0x03 = 0x03 from rfl, hfield, UInt8.and_zero,
      UInt8.zero_or]

theorem raise_self :
    let after := controller.modify buffer.ctrl.address 0x03 0x03
    after.pending buffer = controller.pending buffer ∧ after.priority buffer = 3 := by
  constructor
  · rw [pending, registers_modify_self,
      show (~~~(0x03) : UInt8) &&& 0x08 = 0x08 from rfl,
      show (0x03 : UInt8) &&& (0x03 &&& 0x08) = 0 from rfl, UInt8.or_zero]
    rfl
  · rw [priority, registers_modify_self, show (~~~(0x03) : UInt8) &&& 0x03 = 0 from rfl,
      UInt8.and_zero, UInt8.zero_or]
    rfl

theorem clear_self :
    let after := controller.modify buffer.ctrl.address 0x08 0
    after.pending buffer = false ∧ after.priority buffer = controller.priority buffer := by
  constructor
  · rw [pending, registers_modify_self, show (~~~(0x08) : UInt8) &&& 0x08 = 0 from rfl,
      UInt8.and_zero, UInt8.zero_and, UInt8.or_zero]
    rfl
  · rw [priority, registers_modify_self, show (~~~(0x08) : UInt8) &&& 0x03 = 0x03 from rfl,
      UInt8.zero_and, UInt8.or_zero]
    rfl

theorem transmitNext_of_some {controller : Controller} {buffer : TxBuffer}
    (h : controller.nextToSend = some buffer) :
    controller.transmitNext.sent = controller.sent ++ [controller.frame buffer] ∧
      ∀ other,
        controller.transmitNext.pending other = (controller.pending other && other != buffer) ∧
        controller.transmitNext.priority other = controller.priority other ∧
        controller.transmitNext.frame other = controller.frame other := by
  obtain ⟨flag, heq⟩ : ∃ flag, controller.transmitNext =
      { (controller.modify buffer.ctrl.address 0x08 0).modify MCPRegister.CANINTF.address flag
          flag with sent := controller.sent ++ [controller.frame buffer] } := by
    rw [transmitNext, h]
    exact ⟨_, rfl⟩
  rw [heq]
  refine ⟨rfl, fun other => ?_⟩
  have hflag : other.ctrl.address ≠ MCPRegister.CANINTF.address := by
    rw [other.address_eq.1, MCPRegister.address]
    omega
  obtain ⟨hpending, hpriority⟩ :=
    (controller.modify buffer.ctrl.address 0x08 0).buffers_modify flag flag hflag
  have hframe : ((controller.modify buffer.ctrl.address 0x08 0).modify
      MCPRegister.CANINTF.address flag flag).frame other = controller.frame other := by
    rw [frame_modify _ (.inl rfl), frame_modify _ (.inr ⟨buffer, rfl⟩)]
  refine ⟨hpending.trans ?_, hpriority.trans ?_, hframe⟩
  · by_cases hother : other = buffer
    · subst hother
      simp [(controller.clear_self other).1]
    · rw [(controller.buffers_modify 0x08 0 (ctrl_ne buffer hother)).1]
      simp [hother]
  · by_cases hother : other = buffer
    · subst hother
      exact (controller.clear_self other).2
    · exact (controller.buffers_modify 0x08 0 (ctrl_ne buffer hother)).2

theorem transmitNext_of_none {controller : Controller} (h : controller.nextToSend = none) :
    controller.transmitNext = controller := by
  rw [transmitNext, h]

end Controller

def TxBuffer.next : TxBuffer → TxBuffer
  | 0 => 2
  | 1 => 0
  | 2 => 1

/-- The buffers from the one that was filled longest ago, when this one is filled next. -/
def TxBuffer.oldestFirst (buffer : TxBuffer) : List TxBuffer :=
  [buffer, buffer.next, buffer.next.next]

theorem TxBuffer.nodup_oldestFirst : ∀ buffer : TxBuffer, buffer.oldestFirst.Nodup := by decide

theorem TxBuffer.mem_oldestFirst : ∀ buffer other : TxBuffer, other ∈ buffer.oldestFirst := by
  decide

namespace Controller

def waiting (controller : Controller) (txIndex : TxBuffer) : List TxBuffer :=
  txIndex.oldestFirst.filter controller.pending

theorem mem_waiting (controller : Controller) (txIndex : TxBuffer) {buffer : TxBuffer} :
    buffer ∈ controller.waiting txIndex ↔ controller.pending buffer = true := by
  rw [waiting, List.mem_filter]
  exact and_iff_right (txIndex.mem_oldestFirst buffer)

theorem Beats.asymm {controller : Controller} {a b : TxBuffer} (h : controller.Beats a b) :
    ¬ controller.Beats b a := by
  rintro (hback | ⟨heq, hback⟩)
  · rcases h with h | ⟨heq, -⟩
    · exact absurd (UInt8.lt_trans h hback) (UInt8.lt_irrefl _)
    · rw [heq] at hback
      exact UInt8.lt_irrefl _ hback
  · rcases h with h | ⟨-, h⟩
    · rw [heq] at h
      exact UInt8.lt_irrefl _ h
    · exact absurd (lt_trans h hback) (lt_irrefl _)

theorem nextToSend_of_beats {controller : Controller} {buffer : TxBuffer}
    (hpending : controller.pending buffer = true)
    (hbeats : ∀ other, controller.pending other = true → other ≠ buffer →
      controller.Beats buffer other) :
    controller.nextToSend = some buffer := by
  have hall : ∀ other : TxBuffer, other ∈ ([2, 1, 0] : List TxBuffer) := by decide
  rcases hnext : controller.nextToSend with _ | first
  · rw [nextToSend, List.find?_eq_none] at hnext
    refine absurd ?_ (hnext buffer (hall buffer))
    rw [hpending, Bool.true_and, List.all_eq_true]
    intro other _
    by_cases hwaits : controller.pending other = true
    · by_cases hsame : other = buffer
      · simp [hsame]
      · simp [hbeats other hwaits hsame]
    · simp [hwaits]
  · have hfirst := List.find?_some hnext
    rw [Bool.and_eq_true, List.all_eq_true] at hfirst
    by_cases hsame : first = buffer
    · rw [hsame]
    · have hbest := hfirst.2 buffer (hall buffer)
      have hne : ¬ buffer = first := fun h => hsame h.symm
      have hback : controller.Beats first buffer := by simpa [hpending, hne] using hbest
      exact absurd hback (hbeats first hfirst.1 hsame).asymm

end Controller

/-- The accepted frames are those sent, then those that wait, and what waits is sent before the
younger ones. -/
structure InOrder (driver : MCP2515CANInterface) (controller : Controller)
    (accepted : List BusFrame) : Prop where
  accepted_eq :
    accepted = controller.sent ++ (controller.waiting driver.txIndex).map controller.frame
  beats : (controller.waiting driver.txIndex).Pairwise controller.Beats
  above : ∀ buffer, controller.pending buffer = true →
    driver.txPriority ≤ controller.priority buffer
  bounded : driver.txPriority ≤ 3
  yields : driver.txIndex = 1 → controller.pending 0 = true →
    driver.txPriority < controller.priority 0

theorem filter_ne_head {α : Type} [DecidableEq α] {p : α → Bool} {l : List α} {a : α} {as : List α}
    (hnodup : l.Nodup) (h : l.filter p = a :: as) :
    l.filter (fun x => p x && x != a) = as := by
  have hfiltered : (a :: as).Nodup := h ▸ hnodup.filter p
  calc l.filter (fun x => p x && x != a)
      = (l.filter p).filter (· != a) := by
        rw [List.filter_filter]
        exact congrArg (l.filter ·) (funext fun x => Bool.and_comm _ _)
    _ = as := by
        rw [h, List.filter_cons_of_neg (by simp), List.filter_eq_self]
        intro x hx
        have hne : x ≠ a := fun heq => (List.nodup_cons.mp hfiltered).1 (heq ▸ hx)
        simpa using hne

theorem Controller.Beats.congr {a b : Controller}
    (h : ∀ buffer, a.priority buffer = b.priority buffer) {x y : TxBuffer} (hbeats : b.Beats x y) :
    a.Beats x y := by
  rw [Controller.Beats, h, h]
  exact hbeats

namespace InOrder

variable {driver : MCP2515CANInterface} {controller : Controller} {accepted : List BusFrame}

theorem transmitNext (h : InOrder driver controller accepted) :
    InOrder driver controller.transmitNext accepted := by
  rcases hwaiting : controller.waiting driver.txIndex with _ | ⟨buffer, rest⟩
  · have hnone : controller.nextToSend = none := by
      rw [Controller.nextToSend, List.find?_eq_none]
      intro buffer _ hbest
      have hpending := (Bool.and_eq_true_iff.mp hbest).1
      rw [← Controller.mem_waiting controller driver.txIndex, hwaiting] at hpending
      cases hpending
    rwa [Controller.transmitNext_of_none hnone]
  · have hbeats := h.beats
    rw [hwaiting, List.pairwise_cons] at hbeats
    have hsome : controller.nextToSend = some buffer := by
      apply Controller.nextToSend_of_beats
      · rw [← Controller.mem_waiting controller driver.txIndex, hwaiting]
        exact List.mem_cons_self
      · intro other hother hne
        rw [← Controller.mem_waiting controller driver.txIndex, hwaiting] at hother
        exact hbeats.1 other ((List.mem_cons.mp hother).resolve_left hne)
    obtain ⟨hsent, hrest⟩ := Controller.transmitNext_of_some hsome
    have hpending : ∀ other, controller.transmitNext.pending other = true →
        controller.pending other = true := by
      intro other hother
      rw [(hrest other).1] at hother
      exact (Bool.and_eq_true_iff.mp hother).1
    have hafter : controller.transmitNext.waiting driver.txIndex = rest := by
      rw [Controller.waiting, funext fun other => (hrest other).1]
      exact filter_ne_head driver.txIndex.nodup_oldestFirst hwaiting
    have hframes : rest.map controller.transmitNext.frame = rest.map controller.frame :=
      List.map_congr_left fun other _ => (hrest other).2.2
    refine ⟨?_, ?_, ?_, h.bounded, ?_⟩
    · rw [h.accepted_eq, hwaiting, hafter, hsent, hframes, List.map_cons, List.append_assoc]
      rfl
    · rw [hafter]
      exact hbeats.2.imp (Controller.Beats.congr fun other => (hrest other).2.1)
    · intro other hother
      rw [(hrest other).2.1]
      exact h.above other (hpending other hother)
    · intro hindex hother
      rw [(hrest 0).2.1]
      exact h.yields hindex (hpending 0 hother)

theorem drain (h : InOrder driver controller accepted) (n : Nat) :
    InOrder driver (controller.drain n) accepted := by
  induction n generalizing controller with
  | zero => exact h
  | succ n ih => exact ih h.transmitNext

theorem access {link : Link} (h : InOrder driver link.controller accepted) :
    InOrder driver link.access.2.controller accepted := by
  obtain ⟨n, hn⟩ := link.access_drains
  rw [hn]
  exact h.drain n

theorem congr (h : InOrder driver controller accepted) (after : Controller)
    (hsent : after.sent = controller.sent)
    (hsame : ∀ buffer, after.pending buffer = controller.pending buffer ∧
      after.priority buffer = controller.priority buffer ∧
      (controller.pending buffer = true → after.frame buffer = controller.frame buffer)) :
    InOrder driver after accepted := by
  have hwaiting : after.waiting driver.txIndex = controller.waiting driver.txIndex := by
    rw [Controller.waiting, funext fun buffer => (hsame buffer).1]
    rfl
  have hframes : (controller.waiting driver.txIndex).map after.frame =
      (controller.waiting driver.txIndex).map controller.frame :=
    List.map_congr_left fun buffer hbuffer =>
      (hsame buffer).2.2 ((Controller.mem_waiting _ _).mp hbuffer)
  refine ⟨?_, ?_, ?_, h.bounded, ?_⟩
  · rw [hsent, hwaiting, hframes, h.accepted_eq]
  · rw [hwaiting]
    exact h.beats.imp (Controller.Beats.congr fun buffer => (hsame buffer).2.1)
  · intro buffer hbuffer
    rw [(hsame buffer).1] at hbuffer
    rw [(hsame buffer).2.1]
    exact h.above buffer hbuffer
  · intro hindex hpending
    rw [(hsame 0).1] at hpending
    rw [(hsame 0).2.1]
    exact h.yields hindex hpending

end InOrder

/-- A frame that is put into the next buffer is sent after all that wait. -/
def Yields (driver : MCP2515CANInterface) (controller : Controller) : Prop :=
  ∀ buffer, controller.pending buffer = true → buffer ≠ driver.txIndex →
    driver.txPriority < controller.priority buffer ∨
      driver.txPriority = controller.priority buffer ∧ driver.txIndex < buffer

theorem InOrder.yields_of_ne_two {driver : MCP2515CANInterface} {controller : Controller}
    {accepted : List BusFrame} (h : InOrder driver controller accepted)
    (hindex : driver.txIndex ≠ 2) : Yields driver controller := by
  intro buffer hpending hne
  rcases UInt8.lt_or_eq_of_le (h.above buffer hpending) with hlt | heq
  · exact .inl hlt
  by_cases hlast : driver.txIndex < buffer
  · exact .inr ⟨heq, hlast⟩
  · -- the last buffer was filled in this round, so only the first can be older
    have hcases : ∀ index other : TxBuffer, index ≠ 2 → other ≠ index → ¬ index < other →
        index = 1 ∧ other = 0 := by decide
    obtain ⟨hone, rfl⟩ := hcases _ _ hindex hne hlast
    exact .inl (h.yields hone hpending)

theorem InOrder.fill {driver : MCP2515CANInterface} {controller : Controller}
    {accepted : List BusFrame} (h : InOrder driver controller accepted) (after : Controller)
    (hyields : Yields driver controller) (hempty : controller.pending driver.txIndex = false)
    (hsent : after.sent = controller.sent)
    (hother : ∀ buffer, buffer ≠ driver.txIndex →
      after.pending buffer = controller.pending buffer ∧
      after.priority buffer = controller.priority buffer ∧
      after.frame buffer = controller.frame buffer)
    (hself : after.pending driver.txIndex = true ∧
      after.priority driver.txIndex = driver.txPriority) :
    InOrder { driver with txIndex := driver.txIndex.next } after
      (accepted ++ [after.frame driver.txIndex]) := by
  have hcycle : ∀ buffer : TxBuffer, buffer.next ≠ buffer ∧ buffer.next.next ≠ buffer ∧
      buffer.next.next.next = buffer := by decide
  obtain ⟨hnext, hnextNext, hback⟩ := hcycle driver.txIndex
  have hwaiting : after.waiting driver.txIndex.next =
      controller.waiting driver.txIndex ++ [driver.txIndex] := by
    simp only [Controller.waiting, TxBuffer.oldestFirst, hback, List.filter_cons, hempty, hself.1,
      (hother _ hnext).1, (hother _ hnextNext).1]
    cases controller.pending driver.txIndex.next <;>
      cases controller.pending driver.txIndex.next.next <;> rfl
  have hne : ∀ buffer ∈ controller.waiting driver.txIndex, buffer ≠ driver.txIndex := by
    intro buffer hbuffer heq
    rw [heq, Controller.mem_waiting, hempty] at hbuffer
    cases hbuffer
  refine ⟨?_, ?_, ?_, h.bounded, ?_⟩
  · have hframes : (controller.waiting driver.txIndex).map after.frame =
        (controller.waiting driver.txIndex).map controller.frame :=
      List.map_congr_left fun buffer hbuffer => (hother buffer (hne buffer hbuffer)).2.2
    rw [hwaiting, List.map_append, hframes, hsent, ← List.append_assoc, ← h.accepted_eq]
    rfl
  · rw [hwaiting, List.pairwise_append]
    refine ⟨?_, List.pairwise_singleton _ _, ?_⟩
    · apply List.Pairwise.imp_of_mem _ h.beats
      intro a b ha hb hbeats
      rw [Controller.Beats, (hother a (hne a ha)).2.1, (hother b (hne b hb)).2.1]
      exact hbeats
    · intro buffer hbuffer last hlast
      obtain rfl := List.mem_singleton.mp hlast
      have hpending := (Controller.mem_waiting _ _).mp hbuffer
      rw [Controller.Beats, hself.2, (hother buffer (hne buffer hbuffer)).2.1]
      exact hyields buffer hpending (hne buffer hbuffer)
  · intro buffer hpending
    by_cases hsame : buffer = driver.txIndex
    · rw [hsame, hself.2]
      exact UInt8.le_refl _
    · rw [(hother buffer hsame).1] at hpending
      rw [(hother buffer hsame).2.1]
      exact h.above buffer hpending
  · -- the next buffer is the second one: this one was the last
    intro hindex hpending
    have htwo : driver.txIndex = 2 := by
      revert hindex
      exact (by decide : ∀ buffer : TxBuffer, buffer.next = 1 → buffer = 2) _
    have hzero : (0 : TxBuffer) ≠ driver.txIndex := by
      rw [htwo]
      decide
    rw [(hother 0 hzero).1] at hpending
    rw [(hother 0 hzero).2.1]
    rcases hyields 0 hpending hzero with hlt | ⟨-, hlt⟩
    · exact hlt
    · rw [htwo] at hlt
      cases hlt

def Controller.Shrinks (before after : Controller) : Prop :=
  ∀ buffer, (after.pending buffer = true → before.pending buffer = true) ∧
    after.priority buffer = before.priority buffer

namespace Controller.Shrinks

theorem refl (controller : Controller) : controller.Shrinks controller :=
  fun _ => ⟨id, rfl⟩

theorem trans {a b c : Controller} (hab : a.Shrinks b) (hbc : b.Shrinks c) : a.Shrinks c :=
  fun buffer => ⟨fun h => (hab buffer).1 ((hbc buffer).1 h), (hbc buffer).2.trans (hab buffer).2⟩

theorem transmitNext (controller : Controller) : controller.Shrinks controller.transmitNext := by
  rcases hnext : controller.nextToSend with _ | first
  · rw [transmitNext_of_none hnext]
    exact refl controller
  · intro buffer
    obtain ⟨hpending, hpriority, -⟩ := (transmitNext_of_some hnext).2 buffer
    refine ⟨fun h => ?_, hpriority⟩
    rw [hpending] at h
    exact (Bool.and_eq_true_iff.mp h).1

theorem drain (controller : Controller) (n : Nat) : controller.Shrinks (controller.drain n) := by
  induction n generalizing controller with
  | zero => exact refl controller
  | succ n ih => exact (transmitNext controller).trans (ih _)

theorem access (link : Link) : link.controller.Shrinks link.access.2.controller := by
  obtain ⟨n, hn⟩ := link.access_drains
  rw [hn]
  exact drain _ n

theorem empty {before after : Controller} (h : before.Shrinks after) {buffer : TxBuffer}
    (hempty : before.pending buffer = false) : after.pending buffer = false := by
  by_contra hpending
  rw [Bool.not_eq_false] at hpending
  rw [(h buffer).1 hpending] at hempty
  cases hempty

theorem yields {driver : MCP2515CANInterface} {before after : Controller} (h : before.Shrinks after)
    (hyields : Yields driver before) : Yields driver after := by
  intro buffer hpending hne
  rw [(h buffer).2]
  exact hyields buffer ((h buffer).1 hpending) hne

end Controller.Shrinks

theorem Controller.Shrinks.load (controller : Controller) (buffer : TxBuffer) {bytes : List UInt8}
    (hbytes : bytes.length ≤ 13) :
    controller.Shrinks
      (controller.setRegisters (controller.registers.write buffer.sidh.address bytes)) := by
  intro other
  obtain ⟨hpending, hpriority, -⟩ := controller.buffers_write buffer hbytes other
  rw [hpending, hpriority]
  exact ⟨id, rfl⟩

theorem InOrder.load {driver : MCP2515CANInterface} {controller : Controller}
    {accepted : List BusFrame} (h : InOrder driver controller accepted) {buffer : TxBuffer}
    (hempty : controller.pending buffer = false) {bytes : List UInt8}
    (hbytes : bytes.length ≤ 13) :
    InOrder driver
      (controller.setRegisters (controller.registers.write buffer.sidh.address bytes))
      accepted := by
  refine h.congr (controller.setRegisters _) rfl ?_
  intro other
  obtain ⟨hpending, hpriority, hframe⟩ := controller.buffers_write buffer hbytes other
  refine ⟨hpending, hpriority, fun hwaits => hframe fun heq => ?_⟩
  rw [heq, hempty] at hwaits
  cases hwaits

theorem InOrder.request {driver : MCP2515CANInterface} {controller : Controller}
    {accepted : List BusFrame} (h : InOrder driver controller accepted)
    (hyields : Yields driver controller) (hempty : controller.pending driver.txIndex = false)
    {frame : BusFrame} (hframe : controller.frame driver.txIndex = frame) :
    InOrder { driver with txIndex := driver.txIndex.next }
      (controller.modify driver.txIndex.ctrl.address (0x08 ||| 0x03) (0x08 ||| driver.txPriority))
      (accepted ++ [frame]) := by
  have hsame := controller.frame_modify (.inr ⟨driver.txIndex, rfl⟩) (0x08 ||| 0x03)
    (0x08 ||| driver.txPriority)
  rw [← hframe, ← hsame driver.txIndex]
  refine h.fill (controller.modify _ _ _) hyields hempty rfl ?_
    (controller.request_self driver.txIndex h.bounded)
  intro buffer hbuffer
  obtain ⟨hpending, hpriority⟩ := controller.buffers_modify (0x08 ||| 0x03)
    (0x08 ||| driver.txPriority) (Controller.ctrl_ne driver.txIndex hbuffer)
  exact ⟨hpending, hpriority, hsame buffer⟩

namespace MCP2515CANInterface

def advance (driver : MCP2515CANInterface) (accepted : Bool) : MCP2515CANInterface :=
  if accepted then { driver with txIndex := driver.txIndex.next } else driver

end MCP2515CANInterface

def CANMessageFrame.ifAccepted (canFrame : CANMessageFrame) (accepted : Bool) : List BusFrame :=
  if accepted then [canFrame.onBus] else []

theorem InOrder.writeFrameTo {driver : MCP2515CANInterface} {link : Link}
    {accepted : List BusFrame} (h : InOrder driver link.controller accepted)
    (hyields : Yields driver link.controller) {canFrame : CANMessageFrame}
    (hlength : canFrame.dataLength.toNat ≤ 8) (uninitialised : UInt8 × UInt8) :
    let written := HardwareIntegration.writeFrameTo link driver.txPriority canFrame uninitialised
      driver.txIndex.ctrl driver.txIndex.sidh
    InOrder (driver.advance written.1) written.2.controller
      (accepted ++ canFrame.ifAccepted written.1) := by
  intro written
  have hrefused : ∀ {after : Link}, written = (false, after) →
      InOrder driver after.controller accepted →
      InOrder (driver.advance written.1) written.2.controller
        (accepted ++ canFrame.ifAccepted written.1) := by
    intro after hwritten hafter
    rw [hwritten, CANMessageFrame.ifAccepted, if_neg Bool.false_ne_true, List.append_nil]
    exact hafter
  have hread := h.access
  rcases hfirst : link.access with ⟨_ | _, first⟩
  · rw [hfirst] at hread
    apply hrefused _ hread
    simp [written, HardwareIntegration.writeFrameTo, Link.readRegister, hfirst]
  rw [hfirst] at hread
  by_cases hctrl : first.controller.registers driver.txIndex.ctrl.address &&& 0x08 = 0
  swap
  · apply hrefused _ hread
    simp [written, HardwareIntegration.writeFrameTo, Link.readRegister, hfirst, hctrl]
  have hempty : first.controller.pending driver.txIndex = false := by
    simp [Controller.pending, hctrl]
  have hwrite := hread.access
  rcases hsecond : first.access with ⟨_ | _, second⟩
  · rw [hsecond] at hwrite
    apply hrefused _ hwrite
    simp [written, HardwareIntegration.writeFrameTo, Link.readRegister, Link.writeRegisters, hfirst,
      hctrl, hsecond]
  rw [hsecond] at hwrite
  have hsecondEmpty : second.controller.pending driver.txIndex = false := by
    have hshrinks := Controller.Shrinks.access first
    rw [hsecond] at hshrinks
    exact hshrinks.empty hempty
  obtain ⟨loaded, hloaded⟩ : ∃ loaded, loaded = second.setRegisters
      (second.controller.registers.write driver.txIndex.sidh.address
        (canFrame.image uninitialised)) := ⟨_, rfl⟩
  have hbytes : (canFrame.image uninitialised).length ≤ 13 := by
    rw [CANMessageFrame.length_image hlength]
    omega
  have hshrinks : second.controller.Shrinks loaded.controller := by
    rw [hloaded]
    exact Controller.Shrinks.load _ _ hbytes
  have hheld : InOrder driver loaded.controller accepted := by
    rw [hloaded]
    exact hwrite.load hsecondEmpty hbytes
  have hrequest := hheld.access
  rcases hthird : loaded.access with ⟨_ | _, third⟩
  · rw [hthird] at hrequest
    apply hrefused _ hrequest
    simp [written, HardwareIntegration.writeFrameTo, Link.readRegister, Link.writeRegisters,
      Link.modifyRegister, hfirst, hctrl, hsecond, ← hloaded, hthird]
  rw [hthird] at hrequest
  have hlast : second.controller.Shrinks third.controller := by
    have hthree := Controller.Shrinks.access loaded
    rw [hthird] at hthree
    exact hshrinks.trans hthree
  have hall : link.controller.Shrinks third.controller := by
    have hone := Controller.Shrinks.access link
    have htwo := Controller.Shrinks.access first
    rw [hfirst] at hone
    rw [hsecond] at htwo
    exact (hone.trans htwo).trans hlast
  have hwritten : written = (true, third.modify driver.txIndex.ctrl.address (0x08 ||| 0x03)
      (0x08 ||| driver.txPriority)) := by
    simp [written, HardwareIntegration.writeFrameTo, Link.readRegister, Link.writeRegisters,
      Link.modifyRegister, hfirst, hctrl, hsecond, ← hloaded, hthird]
  have hframe : third.controller.frame driver.txIndex = canFrame.onBus := by
    rw [← third.controller.frame_modify (.inr ⟨driver.txIndex, rfl⟩) (0x08 ||| 0x03)
      (0x08 ||| driver.txPriority)]
    exact CANMessageFrame.frameAt_eq_onBus hlength (heldAt_of_writeFrameTo hlength hwritten)
  rw [hwritten]
  exact hrequest.request (hall.yields hyields) (hlast.empty hsecondEmpty) hframe

theorem Link.getReadStatus_link (link : Link) (status : UInt8) :
    (link.getReadStatus status).2.2 = link.access.2 := by
  unfold getReadStatus
  split <;> rename_i heq <;> rw [heq]

/-- The access that raises the priority of a buffer succeeds, or the buffer is empty by then. -/
def Link.reaches (link : Link) (buffer : TxBuffer) : Bool :=
  link.access.1 || !link.access.2.controller.pending buffer

/-- Both buffers that may wait are raised. -/
def Link.raises (link : Link) : Bool :=
  link.reaches 1 && (link.modifyRegister .TXB1CTRL 0x03 0x03).2.reaches 0

theorem Controller.priority_le (controller : Controller) (buffer : TxBuffer) :
    controller.priority buffer ≤ 3 := by
  rw [UInt8.le_iff_toNat_le, priority, UInt8.toNat_and]
  exact Nat.and_le_right

section GivingWay

variable {driver : MCP2515CANInterface} {accepted : List BusFrame}

theorem pairwise_oldestFirst_two : (TxBuffer.oldestFirst 2).Pairwise fun a b => b < a := by decide

theorem InOrder.raise {controller : Controller} (h : InOrder driver controller accepted)
    (hindex : driver.txIndex = 2) (hpriority : driver.txPriority = 0) {buffer : TxBuffer}
    (habove : ∀ other, buffer < other → controller.pending other = true →
      controller.priority other = 3) :
    InOrder driver (controller.modify buffer.ctrl.address 0x03 0x03) accepted := by
  obtain ⟨hpending, hraised⟩ := controller.raise_self buffer
  have hsame : ∀ other, (controller.modify buffer.ctrl.address 0x03 0x03).pending other =
      controller.pending other := by
    intro other
    by_cases heq : other = buffer
    · rw [heq, hpending]
    · exact (controller.buffers_modify 0x03 0x03 (Controller.ctrl_ne buffer heq)).1
  have hkept : ∀ other, other ≠ buffer →
      (controller.modify buffer.ctrl.address 0x03 0x03).priority other =
        controller.priority other :=
    fun other hother => (controller.buffers_modify 0x03 0x03 (Controller.ctrl_ne buffer hother)).2
  have hwaiting : (controller.modify buffer.ctrl.address 0x03 0x03).waiting driver.txIndex =
      controller.waiting driver.txIndex := by
    rw [Controller.waiting, funext hsame]
    rfl
  have hframes : (controller.modify buffer.ctrl.address 0x03 0x03).frame = controller.frame :=
    funext (controller.frame_modify (.inr ⟨buffer, rfl⟩) 0x03 0x03)
  refine ⟨?_, ?_, ?_, h.bounded, ?_⟩
  · rw [hwaiting, hframes]
    exact h.accepted_eq
  · rw [hwaiting]
    have hdescending : (controller.waiting driver.txIndex).Pairwise fun a b => b < a := by
      rw [hindex]
      exact pairwise_oldestFirst_two.filter _
    refine List.Pairwise.imp_of_mem ?_ (hdescending.and h.beats)
    rintro a b ha - ⟨hlt, hbeats⟩
    rw [Controller.Beats]
    by_cases hfirst : a = buffer
    · rw [hfirst, hraised]
      have hne : b ≠ buffer := fun heq => absurd hlt (by rw [hfirst, heq]; exact lt_irrefl _)
      rw [hkept b hne]
      exact (UInt8.lt_or_eq_of_le (controller.priority_le b)).imp_right fun heq =>
        ⟨heq, hfirst ▸ hlt⟩
    · rw [hkept a hfirst]
      by_cases hsecond : b = buffer
      · have hthree := habove a (hsecond ▸ hlt) ((Controller.mem_waiting _ _).mp ha)
        rw [hsecond, hraised, hthree]
        exact .inr ⟨rfl, hsecond ▸ hlt⟩
      · rw [hkept b hsecond]
        exact hbeats
  · intro other _
    rw [hpriority]
    exact UInt8.zero_le
  · intro hone
    rw [hindex] at hone
    cases hone

theorem InOrder.modifyRegister {link : Link} (h : InOrder driver link.controller accepted)
    (hindex : driver.txIndex = 2) (hpriority : driver.txPriority = 0) {buffer : TxBuffer}
    (habove : ∀ other, buffer < other → link.controller.pending other = true →
      link.controller.priority other = 3)
    (hreaches : link.reaches buffer = true) :
    InOrder driver (link.modifyRegister buffer.ctrl 0x03 0x03).2.controller accepted ∧
      ∀ other, buffer ≤ other →
        (link.modifyRegister buffer.ctrl 0x03 0x03).2.controller.pending other = true →
        (link.modifyRegister buffer.ctrl 0x03 0x03).2.controller.priority other = 3 := by
  have haccess := h.access
  have hshrinks := Controller.Shrinks.access link
  have habove' : ∀ other, buffer < other → link.access.2.controller.pending other = true →
      link.access.2.controller.priority other = 3 := by
    intro other hother hpending
    rw [(hshrinks other).2]
    exact habove other hother ((hshrinks other).1 hpending)
  rcases heq : link.access with ⟨_ | _, after⟩
  · have hempty : after.controller.pending buffer = false := by
      simpa [Link.reaches, heq] using hreaches
    have hresult : (link.modifyRegister buffer.ctrl 0x03 0x03).2 = after := by
      simp [Link.modifyRegister, heq]
    rw [heq] at haccess habove'
    rw [hresult]
    refine ⟨haccess, fun other hother hpending => ?_⟩
    rcases lt_or_eq_of_le hother with hlt | hsame
    · exact habove' other hlt hpending
    · rw [← hsame, hempty] at hpending
      cases hpending
  · have hresult : (link.modifyRegister buffer.ctrl 0x03 0x03).2 =
        after.modify buffer.ctrl.address 0x03 0x03 := by
      simp [Link.modifyRegister, heq]
    rw [heq] at haccess habove'
    rw [hresult]
    refine ⟨haccess.raise hindex hpriority habove', fun other hother hpending => ?_⟩
    by_cases hsame : other = buffer
    · rw [hsame]
      exact (after.controller.raise_self buffer).2
    · obtain ⟨hpendingSame, hprioritySame⟩ :=
        after.controller.buffers_modify 0x03 0x03 (Controller.ctrl_ne buffer hsame)
      have hlt := lt_of_le_of_ne hother fun heq => hsame heq.symm
      have hwaits : after.controller.pending other = true := hpendingSame.symm.trans hpending
      exact hprioritySame.trans (habove' other hlt hwaits)

theorem InOrder.giveWay {link : Link} (h : InOrder driver link.controller accepted)
    (hindex : driver.txIndex = 2)
    (hraises : driver.txPriority > 0 ∨
      link.controller.pending 2 = false ∧ link.raises = true) :
    let after := driver.giveWay link
    after.1.txIndex = 2 ∧ InOrder after.1 after.2.controller accepted ∧
      Yields after.1 after.2.controller := by
  intro after
  by_cases hpriority : driver.txPriority > 0
  · have hafter : after = ({ driver with txPriority := driver.txPriority - 1 }, link) :=
      if_pos hpriority
    rw [hafter]
    have hlower : driver.txPriority - 1 < driver.txPriority := by
      have hpositive := UInt8.lt_iff_toNat_lt.mp hpriority
      rw [UInt8.lt_iff_toNat_lt, UInt8.toNat_sub_of_le _ _
        (UInt8.le_iff_toNat_le.mpr (show (1 : UInt8).toNat ≤ _ from hpositive))]
      exact Nat.sub_lt hpositive (by decide)
    have hbelow : ∀ buffer, link.controller.pending buffer = true →
        driver.txPriority - 1 < link.controller.priority buffer :=
      fun buffer hpending => UInt8.lt_of_lt_of_le hlower (h.above buffer hpending)
    refine ⟨hindex, ⟨h.accepted_eq, h.beats, fun buffer hpending => ?_, ?_, fun hone => ?_⟩,
      fun buffer hpending _ => .inl (hbelow buffer hpending)⟩
    · exact UInt8.le_of_lt (hbelow buffer hpending)
    · exact UInt8.le_trans (UInt8.le_of_lt hlower) h.bounded
    · rw [show driver.txIndex = 1 from hone] at hindex
      cases hindex
  · obtain ⟨hempty, hreaches⟩ := hraises.resolve_left hpriority
    have hzero : driver.txPriority = 0 := by
      apply UInt8.toNat_inj.mp
      rw [gt_iff_lt, UInt8.lt_iff_toNat_lt] at hpriority
      exact Nat.eq_zero_of_not_pos hpriority
    have hafter : after = ({ driver with txPriority := 2 },
        ((link.modifyRegister (TxBuffer.ctrl 1) 0x03 0x03).2.modifyRegister (TxBuffer.ctrl 0)
          0x03 0x03).2) :=
      if_neg hpriority
    rw [hafter]
    rw [Link.raises, Bool.and_eq_true] at hreaches
    have htwo : ∀ other : TxBuffer, 1 < other → other = 2 := by decide
    obtain ⟨hfirst, hraisedFirst⟩ := h.modifyRegister hindex hzero
      (fun other hother hpending => by
        rw [htwo other hother, hempty] at hpending
        cases hpending) hreaches.1
    have hone : ∀ other : TxBuffer, 0 < other → 1 ≤ other := by decide
    obtain ⟨hsecond, hraised⟩ := hfirst.modifyRegister hindex hzero
      (fun other hother => hraisedFirst other (hone other hother)) hreaches.2
    have hthree : ∀ buffer, _ → _ := fun buffer => hraised buffer (Fin.zero_le buffer)
    refine ⟨hindex, ⟨hsecond.accepted_eq, hsecond.beats, fun buffer hpending => ?_,
      (by decide : (2 : UInt8) ≤ 3), fun hone => ?_⟩, fun buffer hpending _ => ?_⟩
    · rw [hthree buffer hpending]
      exact (by decide : (2 : UInt8) ≤ 3)
    · rw [show driver.txIndex = 1 from hone] at hindex
      cases hindex
    · rw [hthree buffer hpending]
      exact .inl (by decide : (2 : UInt8) < 3)

end GivingWay

/-- What the round goes by when the last buffer is next: the status is right or harmless, and
priorities that have to be raised are raised. -/
def orderlyRound (driver : MCP2515CANInterface) (link : Link) (status : UInt8) : Bool :=
  let (_, status, link) := link.getReadStatus status
  if driver.txIndex = 2 ∧ status &&& 0x40 = 0 then
    if status &&& (0x10 ||| 0x04) = 0 then
      [0, 1].all fun buffer =>
        !link.controller.pending buffer || driver.txPriority < link.controller.priority buffer
    else driver.txPriority > 0 || !link.controller.pending 2 && link.raises
  else true

def orderlyRounds (driver : MCP2515CANInterface) (link : Link) (status : UInt8)
    (canFrame : CANMessageFrame) (uninitialised : Nat → UInt8 × UInt8) : Nat → Bool
  | 0 => true
  | retries + 1 =>
    orderlyRound driver link status &&
      match driver.writeAttempt link status canFrame (uninitialised retries) with
      | (true, _, _, _) => true
      | (false, driver, status, link) =>
        orderlyRounds driver link status canFrame uninitialised retries

section Rounds

variable {driver : MCP2515CANInterface} {link : Link} {accepted : List BusFrame}
  {canFrame : CANMessageFrame}

theorem InOrder.writeBuffer (h : InOrder driver link.controller accepted)
    (hyields : Yields driver link.controller) {buffer : TxBuffer} (hindex : driver.txIndex = buffer)
    (hlength : canFrame.dataLength.toNat ≤ 8) (uninitialised : UInt8 × UInt8) :
    let written := HardwareIntegration.writeFrameTo link driver.txPriority canFrame uninitialised
      buffer.ctrl buffer.sidh
    InOrder (if written.1 then { driver with txIndex := buffer.next } else driver)
      written.2.controller (accepted ++ canFrame.ifAccepted written.1) := by
  subst hindex
  exact h.writeFrameTo hyields hlength uninitialised

theorem InOrder.writeAttempt {status : UInt8} (h : InOrder driver link.controller accepted)
    (hok : orderlyRound driver link status = true) (hlength : canFrame.dataLength.toNat ≤ 8)
    (uninitialised : UInt8 × UInt8) :
    let after := driver.writeAttempt link status canFrame uninitialised
    InOrder after.2.1 after.2.2.2.controller (accepted ++ canFrame.ifAccepted after.1) := by
  intro after
  have hread := h.access
  rw [← link.getReadStatus_link status] at hread
  rcases hstatus : link.getReadStatus status with ⟨ok, status', link'⟩
  rw [hstatus] at hread
  unfold orderlyRound at hok
  simp only [hstatus] at hok
  by_cases hzero : status' &&& 0x04 = 0 ∧ driver.txIndex = 0
  · have hyields := hread.yields_of_ne_two (by rw [hzero.2]; decide)
    have hafter := hread.writeBuffer hyields hzero.2 hlength uninitialised
    simp only [after, MCP2515CANInterface.writeAttempt, hstatus, if_pos hzero]
    exact hafter
  by_cases hone : status' &&& 0x10 = 0 ∧ driver.txIndex = 1
  · have hyields := hread.yields_of_ne_two (by rw [hone.2]; decide)
    have hafter := hread.writeBuffer hyields hone.2 hlength uninitialised
    simp only [after, MCP2515CANInterface.writeAttempt, hstatus, if_neg hzero, if_pos hone]
    exact hafter
  by_cases htwo : status' &&& 0x40 = 0 ∧ driver.txIndex = 2
  · rw [if_pos ⟨htwo.2, htwo.1⟩] at hok
    by_cases hothers : status' &&& (0x10 ||| 0x04) = 0
    · rw [if_pos hothers, List.all_eq_true] at hok
      have hyields : Yields driver link'.controller := by
        intro buffer hpending hne
        have hmem : buffer ∈ ([0, 1] : List TxBuffer) := by
          rw [htwo.2] at hne
          revert hne
          exact (by decide : ∀ b : TxBuffer, b ≠ 2 → b ∈ ([0, 1] : List TxBuffer)) buffer
        have hlower := hok buffer hmem
        rw [hpending, Bool.not_true, Bool.false_or, decide_eq_true_eq] at hlower
        exact .inl hlower
      have hafter := hread.writeBuffer hyields htwo.2 hlength uninitialised
      simp only [after, MCP2515CANInterface.writeAttempt, hstatus, if_neg hzero, if_neg hone,
        if_pos htwo, hothers, ne_eq, not_true_eq_false, if_false]
      exact hafter
    · rw [if_neg hothers] at hok
      have hraises : driver.txPriority > 0 ∨
          link'.controller.pending 2 = false ∧ link'.raises = true := by
        simpa using hok
      obtain ⟨hindex, hway, hyields⟩ := hread.giveWay htwo.2 hraises
      have hafter := hway.writeBuffer hyields hindex hlength uninitialised
      simp only [after, MCP2515CANInterface.writeAttempt, hstatus, if_neg hzero, if_neg hone,
        if_pos htwo, ne_eq, hothers, not_false_eq_true, if_true]
      exact hafter
  · have hafter : after = (false, driver, status', link') := by
      simp only [after, MCP2515CANInterface.writeAttempt, hstatus, if_neg hzero, if_neg hone,
        if_neg htwo]
    rw [hafter, CANMessageFrame.ifAccepted, if_neg Bool.false_ne_true, List.append_nil]
    exact hread

theorem InOrder.writeRounds (retries : Nat) {status : UInt8}
    {uninitialised : Nat → UInt8 × UInt8} (h : InOrder driver link.controller accepted)
    (hlength : canFrame.dataLength.toNat ≤ 8)
    (hok : orderlyRounds driver link status canFrame uninitialised retries = true) :
    let after := driver.writeRounds link status canFrame uninitialised retries
    InOrder after.2.1 after.2.2.controller (accepted ++ canFrame.ifAccepted after.1) := by
  induction retries generalizing driver link status with
  | zero =>
    show InOrder driver link.controller (accepted ++ [])
    rw [List.append_nil]
    exact h
  | succ retries ih =>
    unfold orderlyRounds at hok
    obtain ⟨hround, hrest⟩ := Bool.and_eq_true_iff.mp hok
    have hafter := h.writeAttempt hround hlength (uninitialised retries)
    unfold MCP2515CANInterface.writeRounds
    rcases hattempt : driver.writeAttempt link status canFrame (uninitialised retries) with
      ⟨_ | _, driver', status', link'⟩
    · rw [hattempt] at hafter hrest
      have hkept : InOrder driver' link'.controller (accepted ++ []) := hafter
      rw [List.append_nil] at hkept
      exact ih hkept hrest
    · rw [hattempt] at hafter
      exact hafter

end Rounds

structure Rig where
  driver : MCP2515CANInterface
  controller : Controller

/-- The controller sends a frame, or the stack writes one of at most eight bytes. -/
inductive RigEvent where
  | drain
  | write (canFrame : CANMessageFrame) (hlength : canFrame.dataLength.toNat ≤ 8)
      (accesses : List Access) (status : UInt8) (uninitialised : Nat → UInt8 × UInt8)

def rigMachine : Machine Rig RigEvent BusFrame where
  step rig event :=
    match event with
    | .drain => ({ rig with controller := rig.controller.transmitNext }, [])
    | .write canFrame _ accesses status uninitialised =>
      let (accepted, driver, link) :=
        rig.driver.writeFrame ⟨rig.controller, accesses⟩ status canFrame uninitialised
      ({ driver := driver, controller := link.controller }, canFrame.ifAccepted accepted)

def OrderlyEvent (rig : Rig) : RigEvent → Prop
  | .drain => True
  | .write canFrame _ accesses status uninitialised =>
    orderlyRounds rig.driver ⟨rig.controller, accesses⟩ status canFrame uninitialised 100 = true

instance (rig : Rig) : (event : RigEvent) → Decidable (OrderlyEvent rig event)
  | .drain => inferInstanceAs (Decidable True)
  | .write .. => inferInstanceAs (Decidable (_ = true))

/-- The frames on the bus are the accepted ones, each once and in order, but for the youngest ones,
which wait in the buffers. -/
def LeavesInOrder (controller : Controller) (accepted : List BusFrame) : Prop :=
  ∃ kept : List TxBuffer, kept.Nodup ∧
    (∀ buffer, buffer ∈ kept ↔ controller.pending buffer = true) ∧
    accepted = controller.sent ++ kept.map controller.frame

theorem InOrder.leavesInOrder {driver : MCP2515CANInterface} {controller : Controller}
    {accepted : List BusFrame} (h : InOrder driver controller accepted) :
    LeavesInOrder controller accepted :=
  ⟨controller.waiting driver.txIndex, driver.txIndex.nodup_oldestFirst.filter _,
    fun _ => Controller.mem_waiting _ _, h.accepted_eq⟩

theorem InOrder.step {rig : Rig} {accepted : List BusFrame} (event : RigEvent)
    (h : InOrder rig.driver rig.controller accepted) (hok : OrderlyEvent rig event) :
    InOrder (rigMachine.next rig event).driver (rigMachine.next rig event).controller
      (accepted ++ rigMachine.emits rig event) := by
  cases event with
  | drain =>
    rw [show rigMachine.emits rig .drain = [] from rfl, List.append_nil]
    exact h.transmitNext
  | write canFrame hlength accesses status uninitialised =>
    have hlink : InOrder rig.driver (Link.mk rig.controller accesses).controller accepted := h
    exact InOrder.writeRounds 100 hlink hlength hok

/-- A controller that has just been reset, under a driver that has just been created. -/
structure Rig.Fresh (rig : Rig) : Prop where
  driver : rig.driver = {}
  empty : ∀ buffer, rig.controller.pending buffer = false
  sent : rig.controller.sent = []

theorem InOrder.of_fresh {rig : Rig} (h : rig.Fresh) : InOrder rig.driver rig.controller [] := by
  have hwaiting : ∀ txIndex, rig.controller.waiting txIndex = [] := by
    intro txIndex
    rw [Controller.waiting, List.filter_eq_nil_iff]
    intro buffer _
    rw [h.empty]
    decide
  refine ⟨?_, ?_, fun buffer hpending => ?_, ?_, fun _ hpending => ?_⟩
  · rw [hwaiting, h.sent]
    rfl
  · rw [hwaiting]
    exact List.Pairwise.nil
  · rw [h.empty] at hpending
    cases hpending
  · rw [h.driver]
    exact (by decide : (3 : UInt8) ≤ 3)
  · rw [h.empty] at hpending
    cases hpending

/-- In every run whose calls are orderly the frames leave in the order in which they were accepted.
-/
theorem leaves_in_order_along {rig : Rig} (h : rig.Fresh) (events : List RigEvent)
    (hok : rigMachine.Along OrderlyEvent rig events) {past : List RigEvent}
    (hpast : past <+: events) :
    LeavesInOrder (rigMachine.run rig past).controller (rigMachine.outputs rig past) := by
  obtain ⟨rest, rfl⟩ := hpast
  have hrun := rigMachine.run_outputs_invariant_along
    (P := fun rig accepted => InOrder rig.driver rig.controller accepted)
    (fun rig accepted event => InOrder.step event) (InOrder.of_fresh h) past
    ((rigMachine.along_append _ _ _ _).mp hok).1
  exact hrun.leavesInOrder

theorem sent_prefix {controller : Controller} {accepted : List BusFrame}
    (h : LeavesInOrder controller accepted) : controller.sent <+: accepted := by
  obtain ⟨kept, -, -, heq⟩ := h
  exact ⟨_, heq.symm⟩

def freshRig : Rig where
  driver := {}
  controller := Controller.idle

theorem freshRig_fresh : freshRig.Fresh := ⟨rfl, by decide, rfl⟩

def numberedFrame (n : UInt32) : CANMessageFrame :=
  { standardFrame with identifier := n, dataLength := 0 }

def numberedWrite (n : UInt32) (failing : Bool) : RigEvent :=
  .write (numberedFrame n) (by show (0 : UInt8).toNat ≤ 8; decide)
    (if failing then [{ drained := 0, succeeds := false }] else []) 0 fun _ => (0, 0)

/-- The status of the fourth call is never read: its frame overtakes the second and the third. -/
theorem fourth_frame_overtakes :
    ∃ rig events, rig.Fresh ∧
      ¬ LeavesInOrder (rigMachine.run rig events).controller (rigMachine.outputs rig events) := by
  refine ⟨freshRig, [numberedWrite 1 false, numberedWrite 2 false, numberedWrite 3 false, .drain,
    numberedWrite 4 true, .drain], freshRig_fresh, fun h => ?_⟩
  have hprefix := sent_prefix h
  revert hprefix
  decide +kernel

/-- The same calls with all accesses succeeding. -/
theorem four_frames_leave_in_order :
    LeavesInOrder
      (rigMachine.run freshRig [numberedWrite 1 false, numberedWrite 2 false,
        numberedWrite 3 false, .drain, numberedWrite 4 false, .drain]).controller
      (rigMachine.outputs freshRig [numberedWrite 1 false, numberedWrite 2 false,
        numberedWrite 3 false, .drain, numberedWrite 4 false, .drain]) := by
  refine leaves_in_order_along freshRig_fresh _ ?_ (List.prefix_refl _)
  have hchecks : ∀ rig event, decide (OrderlyEvent rig event) = true → OrderlyEvent rig event :=
    fun _ _ => of_decide_eq_true
  exact rigMachine.along_of_checks hchecks (by decide +kernel)

end Isobus.HardwareIntegration
