import Isobus.Lib.Machine

/-!
# The event dispatcher

`event_dispatcher.hpp`, with the calls that listeners make while they run. A callback counts by its
handle only, and every call names the order in which it walks over the map.
-/

namespace Isobus.Utility

open Isobus.Lib

inductive Modification where
  | add (id : UInt64)
  | remove (id : UInt64)
  | clear
  deriving DecidableEq

def Modification.apply (callbacks : List UInt64) : Modification → List UInt64
  | .add id => if id ∈ callbacks then callbacks else callbacks ++ [id]
  | .remove id => callbacks.filter (· ≠ id)
  | .clear => []

/-- A call that walks over the map; the listener that it invoked last is running. -/
structure Iteration where
  /-- The listeners when the outermost call began. -/
  registered : List UInt64
  invoked : List UInt64
  remaining : List UInt64

structure EventDispatcher where
  callbacks : List UInt64 := []
  isExecuting : Bool := false
  modifications : List Modification := []
  nextId : UInt64 := 0
  /-- The calls that are running, the innermost first. -/
  iterations : List Iteration := []

namespace EventDispatcher

/-- What the program does, outside of all calls or in the listener that is running. -/
inductive Operation where
  | addListener
  | removeListener (id : UInt64)
  | clearListeners
  | call (order : List UInt64)
  /-- The running listener returns. -/
  | proceed

inductive Event where
  | requested (modification : Modification)
  | modified (whileIterating : Bool)
  | returned (registered invoked : List UInt64)
  deriving DecidableEq

variable {d : EventDispatcher} {events : List Event}

def request (d : EventDispatcher) (modification : Modification) :
    EventDispatcher × List Event :=
  if d.isExecuting then
    ({ d with modifications := d.modifications ++ [modification] }, [.requested modification])
  else
    ({ d with callbacks := modification.apply d.callbacks },
      [.requested modification, .modified (!d.iterations.isEmpty)])

/-- The innermost call invokes its next listener, or it returns and applies what is pending. -/
def advance (d : EventDispatcher) : EventDispatcher × List Event :=
  match d.iterations with
  | [] => (d, [])
  | ⟨registered, invoked, id :: remaining⟩ :: outer =>
    ({ d with iterations := ⟨registered, invoked ++ [id], remaining⟩ :: outer }, [])
  | ⟨registered, invoked, []⟩ :: outer =>
    ({ d with
        isExecuting := false
        callbacks := d.modifications.foldl Modification.apply d.callbacks
        modifications := []
        iterations := outer },
      d.modifications.map (fun _ => .modified (!outer.isEmpty)) ++ [.returned registered invoked])

/-- The listeners when the outermost call began, for a call that begins now. -/
def registered (d : EventDispatcher) : List UInt64 :=
  (d.iterations.head?.map (·.registered)).getD d.callbacks

def begin (d : EventDispatcher) (order : List UInt64) : EventDispatcher :=
  { d with isExecuting := true, iterations := ⟨d.registered, [], order⟩ :: d.iterations }

def perform (d : EventDispatcher) : Operation → EventDispatcher × List Event
  | .addListener => { d with nextId := d.nextId + 1 }.request (.add d.nextId)
  | .removeListener id => d.request (.remove id)
  | .clearListeners => d.request .clear
  | .call order => if order.Perm d.callbacks then (d.begin order).advance else (d, [])
  | .proceed => d.advance

def machine : Machine EventDispatcher Operation Event where
  step := perform

def requests : Event → List Modification
  | .requested modification => [modification]
  | _ => []

/-- The listeners that the requests leave, in the order in which they were made. -/
def requestedCallbacks (events : List Event) : List UInt64 :=
  (events.flatMap requests).foldl Modification.apply []

structure InOrder (events : List Event) (d : EventDispatcher) : Prop where
  executing : d.isExecuting = true → d.iterations ≠ []
  pending : d.isExecuting = false → d.modifications = []
  account : d.modifications.foldl Modification.apply d.callbacks = requestedCallbacks events

theorem requestedCallbacks_append (events more : List Event) :
    requestedCallbacks (events ++ more) =
      (more.flatMap requests).foldl Modification.apply (requestedCallbacks events) := by
  simp [requestedCallbacks]

theorem inOrder_request (h : InOrder events d) (modification : Modification) :
    InOrder (events ++ (d.request modification).2) (d.request modification).1 := by
  have haccount := h.account
  rw [request]
  split
  case isTrue hexecuting =>
    refine ⟨h.executing, by simp [hexecuting], ?_⟩
    rw [requestedCallbacks_append, ← haccount]
    simp [requests]
  case isFalse hexecuting =>
    have hpending := h.pending (by simpa using hexecuting)
    refine ⟨h.executing, h.pending, ?_⟩
    rw [requestedCallbacks_append, ← haccount]
    simp [requests, hpending]

theorem inOrder_advance (h : InOrder events d) :
    InOrder (events ++ d.advance.2) d.advance.1 := by
  rw [advance]
  split
  · simpa using h
  · exact ⟨by simp, h.pending, by simpa using h.account⟩
  case h_3 outer _ =>
    refine ⟨by simp, by simp, ?_⟩
    have hnone : (d.modifications.map fun _ => Event.modified !outer.isEmpty).flatMap requests =
        [] := by
      rw [List.flatMap_map]
      exact List.flatMap_eq_nil_iff.mpr fun _ _ => rfl
    rw [requestedCallbacks_append, ← h.account, List.flatMap_append, hnone]
    rfl

theorem inOrder_begin (h : InOrder events d) (order : List UInt64) :
    InOrder events (d.begin order) :=
  ⟨by simp [begin], by simp [begin], h.account⟩

theorem inOrder_perform (h : InOrder events d) (operation : Operation) :
    InOrder (events ++ (d.perform operation).2) (d.perform operation).1 := by
  cases operation with
  | addListener => exact inOrder_request (d := { d with nextId := d.nextId + 1 }) ⟨h.1, h.2, h.3⟩ _
  | removeListener id => exact inOrder_request h _
  | clearListeners => exact inOrder_request h _
  | call order =>
    rw [perform]
    split
    · exact inOrder_advance (inOrder_begin h order)
    · simpa using h
  | proceed => exact inOrder_advance h

theorem inOrder_run (operations : List Operation) :
    InOrder (machine.outputs {} operations) (machine.run {} operations) := by
  have h : InOrder ([] ++ machine.outputs {} operations) (machine.run {} operations) :=
    machine.run_outputs_invariant_along (P := fun d events => InOrder events d)
      (fun _ _ operation h (_ : True) => inOrder_perform h operation) ⟨by simp, by simp, rfl⟩
      operations (machine.along_of_forall (fun _ _ => trivial) _ _)
  exact h

theorem InOrder.callbacks_eq (h : InOrder events d) (hsettled : d.iterations = []) :
    d.callbacks = requestedCallbacks events := by
  have hidle : d.isExecuting = false := by
    simpa using fun hexecuting => h.executing hexecuting hsettled
  have haccount := h.account
  rwa [h.pending hidle] at haccount

/-- Whatever the listeners do, no request is lost or overtaken. -/
theorem callbacks_eq_requested (operations : List Operation)
    (h : (machine.run {} operations).iterations = []) :
    (machine.run {} operations).callbacks =
      requestedCallbacks (machine.outputs {} operations) := by
  exact (inOrder_run operations).callbacks_eq h

/-- No call walks over a map that is modified, and every call invokes the listeners that were there
when the outermost call began. -/
structure Protects (events : List Event) : Prop where
  unmodified : .modified true ∉ events
  invokes : ∀ registered invoked, .returned registered invoked ∈ events → invoked.Perm registered

/-- A listener calls the dispatcher only while nothing is pending, and modifies it only as long as
no listener has called it. -/
def Unmixed (d : EventDispatcher) : Operation → Prop
  | .call _ => d.modifications = []
  | .proceed => True
  | _ => d.iterations.length = if d.isExecuting then 1 else 0

structure Orderly (events : List Event) (d : EventDispatcher) : Prop where
  alone : d.modifications ≠ [] → d.iterations.length = 1
  walks : ∀ iteration ∈ d.iterations, iteration.registered = d.callbacks ∧
    (iteration.invoked ++ iteration.remaining).Perm d.callbacks
  protects : Protects events

theorem Protects.append {more : List Event} (h : Protects events) (h' : Protects more) :
    Protects (events ++ more) :=
  ⟨by simpa using ⟨h.unmodified, h'.unmodified⟩, fun registered invoked hmem =>
    (List.mem_append.mp hmem).elim (h.invokes registered invoked) (h'.invokes registered invoked)⟩

theorem orderly_request (h : Orderly events d) (modification : Modification)
    (hunmixed : d.iterations.length = if d.isExecuting then 1 else 0) :
    Orderly (events ++ (d.request modification).2) (d.request modification).1 := by
  rw [request]
  split
  case isTrue hexecuting =>
    rw [if_pos hexecuting] at hunmixed
    exact ⟨fun _ => hunmixed, h.walks, h.protects.append ⟨by simp, by simp⟩⟩
  case isFalse hexecuting =>
    rw [if_neg hexecuting, List.length_eq_zero_iff] at hunmixed
    exact ⟨h.alone, by simp [hunmixed], h.protects.append ⟨by simp [hunmixed], by simp⟩⟩

theorem orderly_advance (h : Orderly events d) :
    Orderly (events ++ d.advance.2) d.advance.1 := by
  rw [advance]
  split
  · simpa using h
  case _ registered invoked id remaining outer hiterations =>
    have hwalks := h.walks
    simp only [hiterations, List.forall_mem_cons] at hwalks
    exact ⟨by simpa [hiterations] using h.alone, by simpa using hwalks, by simpa using h.protects⟩
  case _ registered invoked outer hiterations =>
    have hwalks := h.walks
    have halone := h.alone
    simp only [hiterations, List.forall_mem_cons, List.append_nil] at hwalks
    rw [hiterations, List.length_cons] at halone
    have hinvoked : invoked.Perm registered := by
      rw [hwalks.1.1]
      exact hwalks.1.2
    by_cases hpending : d.modifications = []
    · exact ⟨by simp, by simpa [hpending] using hwalks.2,
        h.protects.append ⟨by simp [hpending], by simpa [hpending] using hinvoked⟩⟩
    · have houter : outer = [] := by simpa using halone hpending
      exact ⟨by simp, by simp [houter],
        h.protects.append ⟨by simp [houter], by simpa using hinvoked⟩⟩

theorem orderly_begin (h : Orderly events d) {order : List UInt64}
    (hunmixed : d.modifications = []) (horder : order.Perm d.callbacks) :
    Orderly events (d.begin order) := by
  have hregistered : d.registered = d.callbacks := by
    rw [registered]
    cases hiterations : d.iterations with
    | nil => rfl
    | cons iteration outer => exact (h.walks iteration (by simp [hiterations])).1
  refine ⟨by simp [begin, hunmixed], ?_, h.protects⟩
  rw [begin, List.forall_mem_cons]
  exact ⟨⟨hregistered, horder⟩, h.walks⟩

theorem orderly_perform (h : Orderly events d) (operation : Operation)
    (hunmixed : d.Unmixed operation) :
    Orderly (events ++ (d.perform operation).2) (d.perform operation).1 := by
  cases operation with
  | addListener =>
    exact orderly_request (d := { d with nextId := d.nextId + 1 }) ⟨h.1, h.2, h.3⟩ _ hunmixed
  | removeListener id => exact orderly_request h _ hunmixed
  | clearListeners => exact orderly_request h _ hunmixed
  | call order =>
    rw [perform]
    split
    · rename_i horder
      exact orderly_advance (orderly_begin h hunmixed horder)
    · simpa using h
  | proceed => exact orderly_advance h

theorem protects_of_unmixed (operations : List Operation)
    (h : machine.Along Unmixed {} operations) :
    Protects (machine.outputs {} operations) ∧
      ((machine.run {} operations).iterations = [] →
        (machine.run {} operations).callbacks =
          requestedCallbacks (machine.outputs {} operations)) := by
  have hrun : Orderly ([] ++ machine.outputs {} operations) (machine.run {} operations) :=
    machine.run_outputs_invariant_along (P := fun d events => Orderly events d)
      (fun _ _ operation h hunmixed => orderly_perform h operation hunmixed)
      ⟨by simp, by simp, by simp, by simp⟩ operations h
  exact ⟨hrun.protects, (inOrder_run operations).callbacks_eq⟩

def nestedCall : List Operation :=
  [.addListener, .call [0], .call [0], .proceed, .proceed, .call [0], .removeListener 0, .proceed]

theorem nestedCall_protects : Protects (machine.outputs {} nestedCall) :=
  (protects_of_unmixed nestedCall
    ⟨rfl, rfl, rfl, trivial, trivial, rfl, rfl, trivial, trivial⟩).1

theorem nestedCall_settles : (machine.run {} nestedCall).callbacks =
    requestedCallbacks (machine.outputs {} nestedCall) :=
  callbacks_eq_requested nestedCall rfl

/-- The listener adds another one and calls the dispatcher, whose return modifies the map. -/
theorem pendingCall_modifies :
    ¬Protects (machine.outputs {} [.addListener, .call [0], .addListener, .call [0], .proceed]) :=
  fun h => h.unmodified (by decide)

end EventDispatcher

end Isobus.Utility
