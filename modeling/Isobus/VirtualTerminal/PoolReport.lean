import Isobus.VirtualTerminal.PoolTransfer

/-!
# Reports of parsing runs

A parsing run that is over stands in the processing state until the next update joins its
thread, so that what was reported and what stands there make up all runs.
-/

namespace Isobus.VirtualTerminal.Server

open Isobus.Lib

def Event.outcomeOf (client : Nat) : Event → Option Bool
  | .completed other parsingRun => if other = client then some parsingRun.success else Option.none
  | _ => Option.none

def Event.reportOf (client : Nat) : Event → Option Bool
  | .endOfObjectPoolResponse other success _ => if other = client then some success else Option.none
  | _ => Option.none

/-- Whether the parsing runs of a client were successful, in order. -/
def outcomes (client : Nat) (events : List Event) : List Bool :=
  events.filterMap (Event.outcomeOf client)

def reports (client : Nat) (events : List Event) : List Bool :=
  events.filterMap (Event.reportOf client)

theorem outcomes_append (client : Nat) (events events' : List Event) :
    outcomes client (events ++ events') = outcomes client events ++ outcomes client events' :=
  List.filterMap_append ..

theorem reports_append (client : Nat) (events events' : List Event) :
    reports client (events ++ events') = reports client events ++ reports client events' :=
  List.filterMap_append ..

def ManagedWorkingSet.pending (ws : ManagedWorkingSet) : List Bool :=
  match ws.processingState with
  | .success => [true]
  | .fail => [false]
  | _ => []

def pendingOf : Option ManagedWorkingSet → List Bool
  | some ws => ws.pending
  | Option.none => []

/-- The processing state shows an outcome exactly while the thread is at its end. -/
structure ManagedWorkingSet.Ready (ws : ManagedWorkingSet) : Prop where
  ended : ws.objectPoolProcessingThread = some .ended ↔
    ws.processingState = .success ∨ ws.processingState = .fail
  pools : ws.objectPoolProcessingThread ≠ Option.none → ws.iopFilesRawData ≠ []
  parsed : ∀ count, ws.objectPoolProcessingThread = some (.parsing count) →
    count ≤ ws.iopFilesRawData.length

/-- What a handler other than an update does to a working set. -/
structure Continues (client : Nat) (ws : ManagedWorkingSet)
    (outcome : ManagedWorkingSet × List Event) : Prop where
  ready : outcome.1.Ready
  pending : outcome.1.pending = ws.pending ++ outcomes client outcome.2
  reports : reports client outcome.2 = []
  others : ∀ other, other ≠ client →
    outcomes other outcome.2 = [] ∧ Server.reports other outcome.2 = []
  inactive : ∀ other, .activated other ∉ outcome.2

def PoolServer.Ready (server : PoolServer) : Prop :=
  ∀ client ws, server.managedWorkingSetList.lookup client = some ws → ws.Ready

def PoolServer.pendingOf (server : PoolServer) (client : Nat) : List Bool :=
  Server.pendingOf (server.managedWorkingSetList.lookup client)

/-- What a step other than an update does to the runs of every client. -/
structure Carries (server : PoolServer) (outcome : PoolServer × List Event) : Prop where
  ready : outcome.1.Ready
  pending : ∀ client,
    outcome.1.pendingOf client = server.pendingOf client ++ outcomes client outcome.2
  reports : ∀ client, reports client outcome.2 = []
  inactive : ∀ client, .activated client ∉ outcome.2

theorem reportParsing_eq (sent : Nat → Bool) (client : Nat) {ws : ManagedWorkingSet}
    (h : ws.Ready) :
    (reportParsing sent client ws).1.Ready ∧ (reportParsing sent client ws).1.pending = [] ∧
      (∀ other, outcomes other (reportParsing sent client ws).2 = []) ∧
      (∀ other, other ≠ client → reports other (reportParsing sent client ws).2 = []) ∧
      reports client (reportParsing sent client ws).2 =
        (if sent client then ws.pending.map fun _ => true else []) ∧
      ∀ other, .activated other ∉ (reportParsing sent client ws).2 := by
  have hjoined : ws.joinParsingThread.Ready :=
    ⟨iff_of_false nofun fun hs => hs.elim nofun nofun, fun h => absurd rfl h, nofun⟩
  have hsent (faultingObjectID : UInt16) :
      (∀ other, outcomes other (if sent client then
        [Event.endOfObjectPoolResponse client true faultingObjectID] else []) = []) ∧
      (∀ other, other ≠ client → reports other (if sent client then
        [Event.endOfObjectPoolResponse client true faultingObjectID] else []) = []) ∧
      reports client (if sent client then
        [Event.endOfObjectPoolResponse client true faultingObjectID] else []) =
        (if sent client then [true] else []) ∧
      ∀ other, .activated other ∉ (if sent client then
        [Event.endOfObjectPoolResponse client true faultingObjectID] else []) := by
    split_ifs
    · exact ⟨fun _ => rfl, fun other hne => List.filterMap_cons_none (if_neg (Ne.symm hne)),
        List.filterMap_cons_some (if_pos rfl), by simp⟩
    · exact ⟨fun _ => rfl, fun _ _ => rfl, rfl, fun _ => List.not_mem_nil⟩
  unfold reportParsing ManagedWorkingSet.pending
  cases hstate : ws.processingState with
  | success => exact ⟨hjoined, rfl, hsent NULL_OBJECT_ID⟩
  | fail => exact ⟨hjoined, rfl, hsent ws.base.faultingObjectID⟩
  | none =>
    exact ⟨h, by rw [hstate], fun _ => rfl, fun _ _ => rfl, by simp [reports],
      fun _ => List.not_mem_nil⟩
  | running =>
    exact ⟨h, by rw [hstate], fun _ => rfl, fun _ _ => rfl, by simp [reports],
      fun _ => List.not_mem_nil⟩
  | joined =>
    exact ⟨h, by rw [hstate], fun _ => rfl, fun _ _ => rfl, by simp [reports],
      fun _ => List.not_mem_nil⟩

theorem mem_activate {address : Nat → UInt8} {active : ActiveWorkingSet}
    {entries : List (Nat × ManagedWorkingSet)} {e : Event}
    (h : e ∈ (activate address active entries).2) :
    ∃ client ws, e = .activated client ∧ (client, ws) ∈ entries ∧
      ws.processingState = .success := by
  induction entries generalizing active with
  | nil => exact absurd h List.not_mem_nil
  | cons entry entries ih =>
    obtain ⟨client, ws⟩ := entry
    unfold activate at h
    split_ifs at h with hactive
    · rcases List.mem_cons.mp h with rfl | h
      · exact ⟨client, ws, rfl, List.mem_cons_self, hactive.1⟩
      · obtain ⟨other, ws', he, hmem, hs⟩ := ih h
        exact ⟨other, ws', he, List.mem_cons_of_mem _ hmem, hs⟩
    · obtain ⟨other, ws', he, hmem, hs⟩ := ih h
      exact ⟨other, ws', he, List.mem_cons_of_mem _ hmem, hs⟩

/-- What an update does to the runs of every client. -/
structure Reports (sent : Nat → Bool) (server : PoolServer)
    (outcome : PoolServer × List Event) : Prop where
  ready : outcome.1.Ready
  pending : ∀ client, outcome.1.pendingOf client = []
  outcomes : ∀ client, outcomes client outcome.2 = []
  reports : ∀ client, reports client outcome.2 =
    if sent client then (server.pendingOf client).map fun _ => true else []
  active : ∀ client, .activated client ∈ outcome.2 → server.pendingOf client = [true]

theorem outcomes_activations {client : Nat} {events : List Event}
    (h : ∀ e ∈ events, ∃ other, e = .activated other) :
    outcomes client events = [] ∧ reports client events = [] := by
  constructor
  · refine List.filterMap_eq_nil_iff.mpr fun e he => ?_
    obtain ⟨other, rfl⟩ := h e he
    rfl
  · refine List.filterMap_eq_nil_iff.mpr fun e he => ?_
    obtain ⟨other, rfl⟩ := h e he
    rfl

theorem reports_update {server : PoolServer} (h : server.Ready) (address : Nat → UInt8)
    (sent : Nat → Bool) : Reports sent server (server.update address sent) := by
  let f : Nat → ManagedWorkingSet → Option ManagedWorkingSet × List Event := fun client ws =>
    (some (reportParsing sent client ws).1, (reportParsing sent client ws).2)
  have hlookup (client : Nat) :
      (server.update address sent).1.managedWorkingSetList.lookup client =
        (server.managedWorkingSetList.lookup client).bind fun ws => (f client ws).1 :=
    KeyedTable.lookup_sweep _ f client
  have hevents : (server.update address sent).2 =
      (server.managedWorkingSetList.sweep f).2 ++
        (activate address server.active server.managedWorkingSetList.entries).2 := rfl
  have hactivations (client : Nat) :
      outcomes client (activate address server.active server.managedWorkingSetList.entries).2 =
          [] ∧
        reports client (activate address server.active server.managedWorkingSetList.entries).2 =
          [] :=
    outcomes_activations fun e he => by
      obtain ⟨other, -, heq, -⟩ := mem_activate he
      exact ⟨other, heq⟩
  have hreporting (client : Nat) (ws : ManagedWorkingSet)
      (hws : server.managedWorkingSetList.lookup client = some ws) :=
    reportParsing_eq sent client (h client ws hws)
  refine ⟨fun client ws' hws' => ?_, fun client => ?_, fun client => ?_, fun client => ?_,
    fun client hmem => ?_⟩
  · rw [hlookup] at hws'
    obtain ⟨ws, hws, heq⟩ := Option.bind_eq_some_iff.mp hws'
    cases heq
    exact (hreporting client ws hws).1
  · rw [PoolServer.pendingOf, hlookup]
    cases hws : server.managedWorkingSetList.lookup client with
    | none => rfl
    | some ws => exact (hreporting client ws hws).2.1
  · rw [hevents, outcomes_append, (hactivations client).1, List.append_nil, outcomes,
      List.filterMap_eq_nil_iff]
    intro e he
    obtain ⟨other, ws, hws, he⟩ := KeyedTable.mem_sweep.mp he
    exact List.filterMap_eq_nil_iff.mp ((hreporting other ws hws).2.2.1 client) e he
  · have hothers : ∀ other ws, server.managedWorkingSetList.lookup other = some ws →
        other ≠ client → (f other ws).2.filterMap (Event.reportOf client) = [] :=
      fun other ws hws hne => (hreporting other ws hws).2.2.2.1 client (Ne.symm hne)
    rw [hevents, reports_append, (hactivations client).2, List.append_nil, reports,
      KeyedTable.filterMap_sweep _ f _ client hothers, PoolServer.pendingOf]
    cases hws : server.managedWorkingSetList.lookup client with
    | none => simp [pendingOf]
    | some ws => exact (hreporting client ws hws).2.2.2.2.1
  · rw [hevents] at hmem
    rcases List.mem_append.mp hmem with hmem | hmem
    · obtain ⟨other, ws, hws, he⟩ := KeyedTable.mem_sweep.mp hmem
      exact absurd he ((hreporting other ws hws).2.2.2.2.2 client)
    · obtain ⟨other, ws, heq, hentry, hstate⟩ := mem_activate hmem
      obtain rfl := Event.activated.inj heq
      rw [PoolServer.pendingOf, KeyedTable.lookup_of_mem hentry, pendingOf,
        ManagedWorkingSet.pending, hstate]

def Settles (server : PoolServer) : Input → Prop
  | .update _ sent => ∀ client ws, server.managedWorkingSetList.lookup client = some ws →
      ws.processingState ≠ .fail ∧ (ws.processingState = .success → sent client = true)
  | _ => True

end Isobus.VirtualTerminal.Server
