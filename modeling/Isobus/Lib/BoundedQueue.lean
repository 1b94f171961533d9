import Mathlib.Data.List.Basic

/-!
# Bounded queues as their two ends see them

What a producer and a consumer may observe of a first-in first-out queue.
-/

namespace Isobus.Lib

variable {α : Type}

inductive QueueEvent (α : Type) where
  | pushed (item : α)
  | pushFailed
  | fullness (full : Bool)
  | peeked (item : α)
  | peekFailed
  | popped (item : α)
  | popFailed
  | clearing
  | cleared (items : List α)

structure BoundedQueue (α : Type) where
  items : List α := []
  /-- How many items the consumer is about to discard. -/
  doomed : Nat := 0

namespace BoundedQueue

inductive Step (bound : Nat) (q : BoundedQueue α) : QueueEvent α → BoundedQueue α → Prop
  | pushed {item : α} (h : q.items.length < bound) :
      Step bound q (.pushed item) { q with items := q.items ++ [item] }
  | pushFailed (h : q.items.length = bound) : Step bound q .pushFailed q
  | fullness {full : Bool} (h : full = false → q.items.length < bound) :
      Step bound q (.fullness full) q
  | peeked {item : α} (h : q.items.head? = some item) : Step bound q (.peeked item) q
  | peekFailed (h : q.items = []) : Step bound q .peekFailed q
  | popped {item : α} (h : q.items.head? = some item) :
      Step bound q (.popped item) { q with items := q.items.tail }
  | popFailed (h : q.items = []) : Step bound q .popFailed q
  | clearing : Step bound q .clearing { q with doomed := q.items.length }
  | cleared (h : q.doomed ≤ q.items.length) :
      Step bound q (.cleared (q.items.take q.doomed)) { items := q.items.drop q.doomed }

/-- These events, in this order, lead from one queue to the other. -/
def Run (bound : Nat) (q : BoundedQueue α) : List (QueueEvent α) → BoundedQueue α → Prop
  | [], q' => q' = q
  | e :: es, q' => ∃ next, Step bound q e next ∧ Run bound next es q'

def pushedBy : QueueEvent α → List α
  | .pushed item => [item]
  | _ => []

def poppedBy : QueueEvent α → List α
  | .popped item => [item]
  | _ => []

def clearedBy : QueueEvent α → List α
  | .cleared items => items
  | _ => []

/-- The items that leave, and whether they are popped. -/
def fates : QueueEvent α → List (Bool × α)
  | .popped item => [(true, item)]
  | .cleared items => items.map (Prod.mk false)
  | _ => []

variable {bound : Nat} {q q' q'' : BoundedQueue α} {e : QueueEvent α} {es es' : List (QueueEvent α)}

theorem Run.append (h : Run bound q es q') (h' : Run bound q' es' q'') :
    Run bound q (es ++ es') q'' := by
  induction es generalizing q with
  | nil => rwa [show q' = q from h] at h'
  | cons e es ih =>
    obtain ⟨next, hstep, hrun⟩ := h
    exact ⟨next, hstep, ih hrun⟩

theorem Step.run (h : Step bound q e q') : Run bound q [e] q' := ⟨q', h, rfl⟩

theorem Step.accounts (h : Step bound q e q') :
    q.items ++ pushedBy e = (fates e).map Prod.snd ++ q'.items := by
  cases h with
  | popped h =>
    obtain ⟨rest, hrest⟩ := List.head?_eq_some_iff.mp h
    simp [pushedBy, fates, hrest]
  | cleared h => simp [pushedBy, fates, Function.comp_def]
  | _ => simp [pushedBy, fates]

/-- What was pushed has left, in this order, or is still there. -/
theorem Run.accounts (h : Run bound q es q') :
    q.items ++ es.flatMap pushedBy = (es.flatMap fates).map Prod.snd ++ q'.items := by
  induction es generalizing q with
  | nil =>
    rw [show q' = q from h]
    simp
  | cons e es ih =>
    obtain ⟨next, hstep, hrun⟩ := h
    rw [List.flatMap_cons, List.flatMap_cons, List.map_append, ← List.append_assoc,
      hstep.accounts, List.append_assoc, ih hrun, List.append_assoc]

theorem popped_eq (es : List (QueueEvent α)) :
    es.flatMap poppedBy = ((es.flatMap fates).filter Prod.fst).map Prod.snd := by
  induction es with
  | nil => rfl
  | cons e es ih => cases e <;> simp [poppedBy, fates, ih]

theorem cleared_eq (es : List (QueueEvent α)) :
    es.flatMap clearedBy = ((es.flatMap fates).filter (!·.1)).map Prod.snd := by
  induction es with
  | nil => rfl
  | cons e es ih => cases e <;> simp [clearedBy, fates, ih, List.filter_map, Function.comp_def]

end BoundedQueue

end Isobus.Lib
