import Isobus.Can.ReceivedMessages
import Isobus.Lib.Machine

/-!
# Interfaces that keep lists of their sources

Lists of the sources that messages came from, in which each entry has a timestamp and is removed
once it is too old, compared with what was received in real time.
-/

namespace Isobus.Reception

open Isobus.Can Isobus.Lib

/-- An interface with lists of one kind each. -/
structure ListKeeper (σ κ : Type) where
  update : Environment → σ → σ
  processRxMessage : Environment → CANMessage → σ → σ
  initialized : σ → Bool
  sources : σ → κ → List CFRef
  stamp : σ → κ → CFRef → Option UInt32
  timeout : κ → UInt32
  heard? : CANMessage → Option (κ × CFRef)
  wellFormed : κ → CANMessage → Bool
  /-- A well-formed message sets the timestamp. -/
  refreshes : κ → Bool
  nodup_sources : ∀ s kind, (sources s kind).Nodup
  mem_sources_iff : ∀ s kind source, source ∈ sources s kind ↔ (stamp s kind source).isSome
  initialized_update : ∀ env s, initialized (update env s) = initialized s
  initialized_processRxMessage : ∀ env message s,
    initialized (processRxMessage env message s) = initialized s
  stamp_update : ∀ env s kind source, initialized s →
    stamp (update env s) kind source =
      (stamp s kind source).filter fun timestamp => !env.timeExpired timestamp (timeout kind)
  stamp_heard : ∀ env message s kind source, heard? message = some (kind, source) →
    stamp (processRxMessage env message s) kind source =
      some (if wellFormed kind message && refreshes kind then env.now
        else (stamp s kind source).getD 0)
  stamp_other : ∀ env message s kind source, heard? message ≠ some (kind, source) →
    stamp (processRxMessage env message s) kind source = stamp s kind source

/-- A call so many milliseconds after the one before, of `update` if there is no message. -/
structure ReceptionCall where
  elapsed : Nat
  world : World
  send : TransmitFrame → Bool
  message : Option CANMessage

/-- An interface with the time, and for each list and source the time of the last well-formed
message and the one that the timestamp of its entry stands for. -/
structure Listener (σ κ : Type) where
  state : σ
  time : Nat
  last : κ → CFRef → Option Nat := fun _ _ => none
  since : κ → CFRef → Option Nat := fun _ _ => none

namespace ListKeeper

variable {σ κ : Type} (keeper : ListKeeper σ κ) (listener : Listener σ κ) (call : ReceptionCall)

def later : Nat := listener.time + call.elapsed

def environment : Environment where
  now := reading (later listener call)
  world := call.world
  send := call.send

def served : σ :=
  match call.message with
  | none => keeper.update (environment listener call) listener.state
  | some message =>
    keeper.processRxMessage (environment listener call) message listener.state

def Brings (kind : κ) (source : CFRef) : Prop :=
  ∃ message ∈ call.message, keeper.heard? message = some (kind, source) ∧
    keeper.wellFormed kind message = true

/-- The last well-formed message of the source came within the timeout. -/
def Fresh (last : Option Nat) (time : Nat) (kind : κ) : Prop :=
  ∃ received ∈ last, time - received < (keeper.timeout kind).toNat

/-- At an update, no timestamp looks fresh because the clock came round, and where none was set the
clock tells whether the last message is too old. -/
def ClockTells : Prop :=
  call.message = none → ∀ kind source, source ∈ keeper.sources listener.state kind →
    (∀ since ∈ listener.since kind source,
      (keeper.timeout kind).toNat ≤ later listener call - since →
        (keeper.timeout kind).toNat ≤ (later listener call - since) % 2 ^ 32) ∧
    (listener.since kind source = none →
      (keeper.timeout kind ≤ reading (later listener call) ↔
        ¬keeper.Fresh (listener.last kind source) (later listener call) kind))

/-- The timestamp of an entry, and what is known about its source. -/
structure Kept (kind : κ) (time : Nat) (stamp : Option UInt32) (last since : Option Nat) :
    Prop where
  since_le : ∀ received ∈ since, received ≤ time
  absent : stamp = none → since = none ∧ ¬keeper.Fresh last time kind
  set : ∀ received ∈ since, stamp = some (reading received) ∧ last = some received
  constructed : since = none → ∀ timestamp ∈ stamp, timestamp = 0
  unset : keeper.refreshes kind = false → since = none

def AllKept : Prop :=
  keeper.initialized listener.state = true ∧ ∀ kind source,
    keeper.Kept kind listener.time (keeper.stamp listener.state kind source)
      (listener.last kind source) (listener.since kind source)

section Update

variable {keeper listener call} {kind : κ} {source : CFRef}

theorem le_later : listener.time ≤ later listener call := Nat.le_add_right _ _

variable {last : Option Nat} {time time' : Nat}

theorem Fresh.mono (htime : time ≤ time') (h : keeper.Fresh last time' kind) :
    keeper.Fresh last time kind := by
  obtain ⟨received, hlast, hfresh⟩ := h
  exact ⟨received, hlast, by omega⟩

theorem not_brings_of_update (hcall : call.message = none) : ¬keeper.Brings call kind source := by
  rintro ⟨message, hmessage, -⟩
  rw [hcall] at hmessage
  exact Option.not_mem_none message hmessage

theorem stamp_served_update (hinitialized : keeper.initialized listener.state = true)
    (hcall : call.message = none) :
    keeper.stamp (keeper.served listener call) kind source =
      (keeper.stamp listener.state kind source).filter fun timestamp =>
        !(environment listener call).timeExpired timestamp (keeper.timeout kind) := by
  rw [served, hcall]
  exact keeper.stamp_update _ _ _ _ hinitialized

theorem isSome_filter_some {α : Type} {p : α → Bool} {a : α} :
    ((some a).filter p).isSome ↔ p a = true := by
  rw [Option.filter_some]
  split_ifs with h
  · exact iff_of_true rfl h
  · exact iff_of_false Bool.false_ne_true h

theorem isSome_stamp_served_of_set (h : keeper.AllKept listener) (hcall : call.message = none)
    {since : Nat} (hsince : listener.since kind source = some since) :
    (keeper.stamp (keeper.served listener call) kind source).isSome ↔
      (later listener call - since) % 2 ^ 32 < (keeper.timeout kind).toNat := by
  have hle : since ≤ later listener call := ((h.2 kind source).since_le since hsince).trans le_later
  rw [stamp_served_update h.1 hcall, ((h.2 kind source).set since hsince).1, isSome_filter_some,
    Bool.not_eq_true', ← Bool.not_eq_true, Environment.timeExpired_iff rfl hle, not_le]

theorem isSome_stamp_served_of_constructed (h : keeper.AllKept listener)
    (hcall : call.message = none) (hpresent : (keeper.stamp listener.state kind source).isSome)
    (hsince : listener.since kind source = none) :
    (keeper.stamp (keeper.served listener call) kind source).isSome ↔
      ¬keeper.timeout kind ≤ reading (later listener call) := by
  obtain ⟨timestamp, hstamp⟩ := Option.isSome_iff_exists.mp hpresent
  rw [stamp_served_update h.1 hcall, hstamp, (h.2 kind source).constructed hsince timestamp hstamp,
    isSome_filter_some, Bool.not_eq_true', Environment.timeExpired, decide_eq_false_iff_not,
    Environment.timeElapsed, UInt32.sub_zero]
  rfl

theorem isSome_stamp_served_iff (h : keeper.AllKept listener) (hcall : call.message = none)
    (kind : κ) (source : CFRef) :
    ((keeper.stamp (keeper.served listener call) kind source).isSome ↔
        keeper.Fresh (listener.last kind source) (later listener call) kind) ↔
      (source ∈ keeper.sources listener.state kind →
        (∀ since ∈ listener.since kind source,
          (keeper.timeout kind).toNat ≤ later listener call - since →
            (keeper.timeout kind).toNat ≤ (later listener call - since) % 2 ^ 32) ∧
        (listener.since kind source = none →
          (keeper.timeout kind ≤ reading (later listener call) ↔
            ¬keeper.Fresh (listener.last kind source) (later listener call) kind))) := by
  rw [keeper.mem_sources_iff]
  cases hstamp : keeper.stamp listener.state kind source with
  | none =>
    have hstale : ¬keeper.Fresh (listener.last kind source) (later listener call) kind :=
      fun hfresh => ((h.2 kind source).absent hstamp).2 (hfresh.mono le_later)
    rw [stamp_served_update h.1 hcall, hstamp]
    exact iff_of_true (iff_of_false Bool.false_ne_true hstale)
      fun hmem => absurd hmem Bool.false_ne_true
  | some timestamp =>
    have hpresent : (keeper.stamp listener.state kind source).isSome := by
      rw [hstamp]
      rfl
    rw [Option.isSome_some, imp_iff_right rfl]
    cases hsince : listener.since kind source with
    | none =>
      rw [isSome_stamp_served_of_constructed h hcall hpresent hsince]
      constructor
      · intro hiff
        exact ⟨fun since hmem => absurd hmem (Option.not_mem_none since),
          fun _ => not_iff_comm.mp hiff |>.symm⟩
      · rintro ⟨-, hiff⟩
        exact not_iff_comm.mp (hiff rfl).symm
    | some since =>
      have hlast := ((h.2 kind source).set since hsince).2
      have hfresh : keeper.Fresh (listener.last kind source) (later listener call) kind ↔
          later listener call - since < (keeper.timeout kind).toNat := by
        rw [Fresh, hlast]
        exact ⟨fun ⟨_, hmem, hlt⟩ => Option.mem_some_iff.mp hmem ▸ hlt,
          fun hlt => ⟨since, rfl, hlt⟩⟩
      rw [isSome_stamp_served_of_set h hcall hsince, hfresh]
      have hmod := Nat.mod_le (later listener call - since) (2 ^ 32)
      constructor
      · intro hiff
        refine ⟨?_, fun hnone => absurd hnone (Option.some_ne_none since)⟩
        rintro since' ⟨⟩ hold
        exact not_lt.mp (mt hiff.mp (not_lt.mpr hold))
      · rintro ⟨hold, -⟩
        have hturn := hold since rfl
        constructor
        · intro hlt
          by_contra hge
          exact absurd (hturn (not_lt.mp hge)) (not_le.mpr hlt)
        · intro hlt
          exact hmod.trans_lt hlt

theorem initialized_served :
    keeper.initialized (keeper.served listener call) = keeper.initialized listener.state := by
  rw [served]
  cases call.message with
  | none => exact keeper.initialized_update _ _
  | some message => exact keeper.initialized_processRxMessage _ _ _

theorem stamp_served_heard {message : CANMessage} {kind : κ} {source : CFRef}
    (hcall : call.message = some message) (hheard : keeper.heard? message = some (kind, source)) :
    keeper.stamp (keeper.served listener call) kind source =
      some (if keeper.wellFormed kind message && keeper.refreshes kind then
          reading (later listener call)
        else (keeper.stamp listener.state kind source).getD 0) := by
  rw [served, hcall]
  exact keeper.stamp_heard _ _ _ _ _ hheard

theorem brings_iff {message : CANMessage} {kind : κ} {source : CFRef}
    (hcall : call.message = some message) :
    keeper.Brings call kind source ↔
      keeper.heard? message = some (kind, source) ∧ keeper.wellFormed kind message = true := by
  simp only [Brings, hcall, Option.mem_def, Option.some_inj, exists_eq_left']

theorem Kept.of_subset {stamp stamp' : Option UInt32} {since : Option Nat}
    (h : keeper.Kept kind time stamp last since) (htime : time ≤ time')
    (hsubset : ∀ timestamp ∈ stamp', timestamp ∈ stamp)
    (hstale : stamp' = none → ¬keeper.Fresh last time' kind) :
    keeper.Kept kind time' stamp' last (if stamp'.isSome then since else none) := by
  cases stamp' with
  | none =>
    exact ⟨fun received hmem => absurd hmem (Option.not_mem_none received),
      fun _ => ⟨rfl, hstale rfl⟩, fun received hmem => absurd hmem (Option.not_mem_none received),
      fun _ timestamp hmem => absurd hmem (Option.not_mem_none timestamp), fun _ => rfl⟩
  | some timestamp =>
    have hbefore : stamp = some timestamp := hsubset timestamp rfl
    rw [hbefore] at h
    exact ⟨fun received hmem => (h.since_le received hmem).trans htime,
      fun hnone => absurd hnone (Option.some_ne_none timestamp), h.set, h.constructed, h.unset⟩

theorem Kept.of_getD {stamp : Option UInt32} {last' since : Option Nat}
    (h : keeper.Kept kind time stamp last since) (htime : time ≤ time')
    (hlast : last' = last ∨ keeper.refreshes kind = false) :
    keeper.Kept kind time' (some (stamp.getD 0)) last' since := by
  constructor
  · exact fun received hmem => (h.since_le received hmem).trans htime
  · exact fun hnone => absurd hnone (Option.some_ne_none _)
  · intro received hmem
    obtain ⟨hstamp, hset⟩ := h.set received hmem
    obtain hsame | hunset := hlast
    · rw [hstamp, hsame]
      exact ⟨rfl, hset⟩
    · exact absurd ((h.unset hunset).symm.trans hmem) (Option.some_ne_none received).symm
  · intro hnone timestamp hmem
    rw [← Option.some_inj.mp hmem]
    cases hstamp : stamp with
    | none => rfl
    | some before => exact h.constructed hnone before hstamp
  · exact h.unset

theorem Kept.of_set (time : Nat) (hrefreshes : keeper.refreshes kind = true) :
    keeper.Kept kind time (some (reading time)) (some time) (some time) := by
  constructor
  · exact fun received hmem => (Option.some_inj.mp hmem).ge
  · exact fun hnone => absurd hnone (Option.some_ne_none _)
  · intro received hmem
    rw [Option.some_inj.mp hmem]
    exact ⟨rfl, rfl⟩
  · exact fun hnone => absurd hnone (Option.some_ne_none time)
  · exact fun hunset => absurd hrefreshes (Bool.eq_false_iff.mp hunset)

end Update

section Run

variable {σ κ : Type} [DecidableEq κ] (keeper : ListKeeper σ κ) (listener : Listener σ κ)
  (call : ReceptionCall)

instance decidableBrings (kind : κ) (source : CFRef) :
    Decidable (keeper.Brings call kind source) :=
  inferInstanceAs (Decidable (∃ message ∈ call.message, _))

def lastAfter (kind : κ) (source : CFRef) : Option Nat :=
  if keeper.Brings call kind source then some (later listener call)
  else listener.last kind source

def sinceAfter (kind : κ) (source : CFRef) : Option Nat :=
  if keeper.Brings call kind source ∧ keeper.refreshes kind then some (later listener call)
  else if (keeper.stamp (keeper.served listener call) kind source).isSome then
    listener.since kind source
  else none

def receive : Machine (Listener σ κ) ReceptionCall Unit where
  step listener call :=
    (⟨keeper.served listener call, later listener call, keeper.lastAfter listener call,
      keeper.sinceAfter listener call⟩, [])

/-- No list has two entries of a source, and an update leaves the sources heard of within the
timeout. -/
def Exact : Prop :=
  let after := keeper.receive.next listener call
  (∀ kind, (keeper.sources after.state kind).Nodup) ∧
    (call.message = none → ∀ kind source, source ∈ keeper.sources after.state kind ↔
      keeper.Fresh (after.last kind source) after.time kind)

variable {keeper listener call}

theorem exact_iff_clockTells (h : keeper.AllKept listener) :
    keeper.Exact listener call ↔ keeper.ClockTells listener call := by
  rw [Exact, and_iff_right fun kind => keeper.nodup_sources _ kind, ClockTells]
  apply forall_congr'
  intro hcall
  apply forall_congr'
  intro kind
  apply forall_congr'
  intro source
  rw [keeper.mem_sources_iff, ← isSome_stamp_served_iff h hcall kind source]
  simp only [Machine.next, receive, lastAfter, if_neg (not_brings_of_update hcall)]

theorem allKept_next (h : keeper.AllKept listener) (hexact : keeper.Exact listener call) :
    keeper.AllKept (keeper.receive.next listener call) := by
  refine ⟨initialized_served.trans h.1, fun kind source => ?_⟩
  have hkept := h.2 kind source
  have hlater : listener.time ≤ later listener call := le_later
  change keeper.Kept kind (later listener call)
    (keeper.stamp (keeper.served listener call) kind source)
    (keeper.lastAfter listener call kind source) (keeper.sinceAfter listener call kind source)
  have hlast (hnot : ¬keeper.Brings call kind source) :
      keeper.lastAfter listener call kind source = listener.last kind source :=
    if_neg hnot
  have hsince (hnot : ¬(keeper.Brings call kind source ∧ keeper.refreshes kind)) :
      keeper.sinceAfter listener call kind source =
        if (keeper.stamp (keeper.served listener call) kind source).isSome then
          listener.since kind source
        else none :=
    if_neg hnot
  cases hcall : call.message with
  | none =>
    have hnot : ¬keeper.Brings call kind source := not_brings_of_update hcall
    rw [hlast hnot, hsince fun hand => hnot hand.1]
    apply hkept.of_subset hlater
    · intro timestamp hmem
      rw [stamp_served_update h.1 hcall] at hmem
      exact (Option.mem_filter_iff.mp hmem).1
    · intro hnone hfresh
      have hmem := (hexact.2 hcall kind source).mpr (by
        change keeper.Fresh (keeper.lastAfter listener call kind source) _ kind
        rwa [hlast hnot])
      have hpresent : (keeper.stamp (keeper.served listener call) kind source).isSome = true :=
        (keeper.mem_sources_iff _ _ _).mp hmem
      rw [hnone] at hpresent
      exact Bool.false_ne_true hpresent
  | some message =>
    by_cases hheard : keeper.heard? message = some (kind, source)
    · have hbrings : keeper.Brings call kind source ↔ keeper.wellFormed kind message = true :=
        (brings_iff hcall).trans (and_iff_right hheard)
      rw [stamp_served_heard hcall hheard] at hsince ⊢
      cases hformed : keeper.wellFormed kind message with
      | false =>
        have hnot : ¬keeper.Brings call kind source :=
          fun hbrings' => Bool.false_ne_true (hformed.symm.trans (hbrings.mp hbrings'))
        rw [hlast hnot, hsince fun hand => hnot hand.1]
        exact hkept.of_getD hlater (.inl rfl)
      | true =>
        have hyes := hbrings.mpr hformed
        have hnow : keeper.lastAfter listener call kind source =
            some (later listener call) := if_pos hyes
        cases hrefreshes : keeper.refreshes kind with
        | false =>
          rw [hnow, hsince fun hand => Bool.false_ne_true (hrefreshes.symm.trans hand.2)]
          exact hkept.of_getD hlater (.inr hrefreshes)
        | true =>
          have hset : keeper.sinceAfter listener call kind source =
              some (later listener call) := if_pos ⟨hyes, hrefreshes⟩
          rw [hnow, hset]
          exact .of_set _ hrefreshes
    · have hnot : ¬keeper.Brings call kind source :=
        fun hbrings => hheard ((brings_iff hcall).mp hbrings).1
      have hstamp : keeper.stamp (keeper.served listener call) kind source =
          keeper.stamp listener.state kind source := by
        rw [served, hcall]
        exact keeper.stamp_other _ _ _ _ _ hheard
      rw [hlast hnot, hsince fun hand => hnot hand.1, hstamp]
      exact hkept.of_subset hlater (fun _ hmem => hmem)
        fun hnone hfresh => (hkept.absent hnone).2 (hfresh.mono hlater)

theorem allKept_start {s : σ} (hinitialized : keeper.initialized s = true)
    (hempty : ∀ kind source, keeper.stamp s kind source = none) (time : Nat) :
    keeper.AllKept ⟨s, time, fun _ _ => none, fun _ _ => none⟩ := by
  refine ⟨hinitialized, fun kind source => ?_⟩
  change keeper.Kept kind time (keeper.stamp s kind source) none none
  rw [hempty]
  constructor
  · exact fun received hmem => absurd hmem (Option.not_mem_none received)
  · exact fun _ => ⟨rfl, fun ⟨received, hmem, _⟩ => absurd hmem (Option.not_mem_none received)⟩
  · exact fun received hmem => absurd hmem (Option.not_mem_none received)
  · exact fun _ timestamp hmem => absurd hmem (Option.not_mem_none timestamp)
  · exact fun _ => rfl

theorem exact_along_iff (h : keeper.AllKept listener) (calls : List ReceptionCall) :
    keeper.receive.Along keeper.Exact listener calls ↔
      keeper.receive.Along keeper.ClockTells listener calls :=
  keeper.receive.along_iff_of_kept (P := keeper.AllKept)
    (fun _ _ hkept => exact_iff_clockTells hkept) (fun _ _ => allKept_next) h calls

end Run

end ListKeeper

end Isobus.Reception
