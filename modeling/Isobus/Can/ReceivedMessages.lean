import Isobus.Can.Message
import Isobus.Lib.KeyedTable
import Isobus.Lib.WrappingClock

namespace Isobus.Can

open Isobus.Lib

/-- What a source said last, and when. -/
structure Received (δ : Type) where
  timestamp : UInt32 := 0
  data : δ
  deriving DecidableEq

abbrev ReceivedMessages (δ : Type) := KeyedTable CFRef (Received δ)

def Environment.timeExpired (env : Environment) (timestamp timeout : UInt32) : Bool :=
  env.timeElapsed timestamp ≥ timeout

namespace Environment

variable {env : Environment} {now since : Nat}

theorem timeExpired_iff (hnow : env.now = reading now) (h : since ≤ now) (timeout : UInt32) :
    env.timeExpired (reading since) timeout = true ↔ timeout.toNat ≤ (now - since) % 2 ^ 32 := by
  rw [timeExpired, decide_eq_true_iff, timeElapsed, hnow]
  exact le_reading_sub_iff h

theorem timeElapsed_lt_iff (hnow : env.now = reading now) (h : since ≤ now) (timeout : UInt32) :
    env.timeElapsed (reading since) < timeout ↔ (now - since) % 2 ^ 32 < timeout.toNat := by
  rw [timeElapsed, hnow]
  exact reading_sub_lt_iff h

end Environment

namespace ReceivedMessages

variable {δ : Type} (messages : ReceivedMessages δ) (source : CFRef)

def entryOf (constructed : δ) : Received δ :=
  (messages.lookup source).getD { data := constructed }

def receive (constructed : δ) (read : Received δ → Received δ) : ReceivedMessages δ :=
  messages.set source (read (messages.entryOf source constructed))

def prune (env : Environment) (timeout : UInt32) : ReceivedMessages δ :=
  messages.update fun _ received =>
    if env.timeExpired received.timestamp timeout then none else some received

def sources : List CFRef := messages.entries.map Prod.fst

def stamp : Option UInt32 := (messages.lookup source).map Received.timestamp

theorem mem_sources_iff : source ∈ messages.sources ↔ (messages.stamp source).isSome := by
  rw [stamp, Option.isSome_map, Option.isSome_iff_ne_none, ne_eq, KeyedTable.lookup_eq_none_iff,
    not_not, sources]

theorem timestamp_entryOf (constructed : δ) :
    (messages.entryOf source constructed).timestamp = (messages.stamp source).getD 0 := by
  rw [entryOf, stamp]
  cases messages.lookup source <;> rfl

theorem stamp_prune (env : Environment) (timeout : UInt32) :
    (messages.prune env timeout).stamp source =
      (messages.stamp source).filter fun timestamp => !env.timeExpired timestamp timeout := by
  rw [stamp, stamp, prune, KeyedTable.lookup_update]
  cases messages.lookup source with
  | none => rfl
  | some received =>
    rw [Option.bind_some, Option.map_some, Option.filter_some]
    cases env.timeExpired received.timestamp timeout <;> rfl

theorem stamp_receive_self (constructed : δ) (read : Received δ → Received δ) :
    (messages.receive source constructed read).stamp source =
      some (read (messages.entryOf source constructed)).timestamp := by
  rw [stamp, receive, KeyedTable.lookup_set_self, Option.map_some]

theorem stamp_receive_ne {source' : CFRef} (h : source' ≠ source) (constructed : δ)
    (read : Received δ → Received δ) :
    (messages.receive source constructed read).stamp source' = messages.stamp source' := by
  rw [stamp, receive, KeyedTable.lookup_set_ne _ _ h, stamp]

theorem mem_lookup_prune_iff {messages : ReceivedMessages δ} {env : Environment}
    {timeout : UInt32} {source : CFRef} {received : Received δ} :
    received ∈ (messages.prune env timeout).lookup source ↔
      received ∈ messages.lookup source ∧ env.timeExpired received.timestamp timeout = false := by
  rw [prune, KeyedTable.lookup_update, Option.mem_def, Option.bind_eq_some_iff]
  constructor
  · rintro ⟨kept, hlookup, hkept⟩
    split_ifs at hkept with hexpired
    cases hkept
    exact ⟨hlookup, Bool.eq_false_iff.mpr hexpired⟩
  · rintro ⟨hlookup, hfresh⟩
    exact ⟨received, hlookup, if_neg (Bool.eq_false_iff.mp hfresh)⟩

end ReceivedMessages

end Isobus.Can
