import Isobus.VirtualTerminal.MacroExecution
import Isobus.VirtualTerminal.PoolRecords

namespace Isobus.VirtualTerminal.Server

open Isobus.Lib Isobus.Lib.Reader

variable {objects : ClientObjects} {version : UInt8} {macroID : UInt16}

theorem outline_perform {task : Task} {led : ClientObjects × List Task}
    (h : (terminal version).perform objects task = some led) :
    led.1.outline = objects.outline := by
  cases task with
  | executeMacro macroID =>
    cases h
    exact ClientObjects.outline_touch _ _
  | receive commandPacket =>
    obtain ⟨decoded, -, h⟩ := Option.bind_eq_some_iff.mp h
    cases decoded with
    | none =>
      cases h
      rfl
    | some command => exact (leads_execute h).outline
  | respond response =>
    cases h
    rfl

variable {data : List UInt8}

instance finiteUInt16 : Finite UInt16 :=
    Finite.of_injective UInt16.toFin fun _ _ => UInt16.toFin_inj.mp

end Isobus.VirtualTerminal.Server
