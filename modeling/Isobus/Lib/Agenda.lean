import Mathlib.Data.Fintype.Card
import Mathlib.Logic.Relation

/-!
# Agendas

A worker performs the first task of an agenda and puts what the task leads to in its place, so
that a task is over when everything that it led to is.
-/

namespace Isobus.Lib

/-- Performing a task changes the state and leads to tasks, unless it is undefined. -/
structure Worker (σ τ : Type) where
  perform : σ → τ → Option (σ × List τ)

namespace Worker

variable {σ τ : Type} (W : Worker σ τ)

/-- What is left after so many tasks; nothing if one of them is undefined. -/
def run : Nat → σ → List τ → Option (σ × List τ)
  | 0, s, ts => some (s, ts)
  | _ + 1, s, [] => some (s, [])
  | n + 1, s, t :: ts => (W.perform s t).bind fun led => run n led.1 (led.2 ++ ts)

def EndsIn (n : Nat) (s : σ) (ts : List τ) : Prop :=
  ∀ left, W.run n s ts = some left → left.2 = []

def Ends (s : σ) (ts : List τ) : Prop := ∃ n, W.EndsIn n s ts

def Completes (s : σ) (ts : List τ) (s' : σ) : Prop := ∃ n, W.run n s ts = some (s', [])

variable {W}

variable {s s' : σ} {ts : List τ}

/-- In every state of a kind the task is worked off and leaves a state of the kind. -/
def Settles (W : Worker σ τ) (P : σ → Prop) (t : τ) : Prop :=
  ∀ s ts, P s → (∀ s', P s' → W.Ends s' ts) → W.Ends s (t :: ts)

theorem run_nil (n : Nat) (s : σ) : W.run n s [] = some (s, []) := by
  cases n <;> rfl

theorem completes_nil : W.Completes s [] s' ↔ s' = s := by
  constructor
  · rintro ⟨n, h⟩
    rw [run_nil] at h
    exact (Prod.mk.inj (Option.some.inj h)).1.symm
  · rintro rfl
    exact ⟨0, rfl⟩

theorem completes_cons {t : τ} :
    W.Completes s (t :: ts) s' ↔
      ∃ led, W.perform s t = some led ∧ W.Completes led.1 (led.2 ++ ts) s' := by
  constructor
  · rintro ⟨n, h⟩
    cases n with
    | zero => exact absurd (Prod.mk.inj (Option.some.inj h)).2 (List.cons_ne_nil t ts)
    | succ n =>
      obtain ⟨led, hperform, hled⟩ := Option.bind_eq_some_iff.mp h
      exact ⟨led, hperform, n, hled⟩
  · rintro ⟨led, hperform, n, h⟩
    refine ⟨n + 1, ?_⟩
    rw [run, hperform]
    exact h

theorem run_append {n : Nat} {us : List τ} (h : W.run n s (ts ++ us) = some (s', [])) :
    ∃ m ≤ n, ∃ s₁, W.Completes s ts s₁ ∧ W.run m s₁ us = some (s', []) := by
  induction n generalizing s ts with
  | zero =>
    obtain ⟨rfl, happend⟩ := Prod.mk.inj (Option.some.inj h)
    obtain ⟨rfl, rfl⟩ := List.append_eq_nil_iff.mp happend
    exact ⟨0, le_rfl, s, completes_nil.mpr rfl, rfl⟩
  | succ n ih =>
    cases ts with
    | nil => exact ⟨n + 1, le_rfl, s, completes_nil.mpr rfl, h⟩
    | cons t ts =>
      obtain ⟨led, hperform, hled⟩ := Option.bind_eq_some_iff.mp h
      rw [List.append_eq, ← List.append_assoc] at hled
      obtain ⟨m, hm, s₁, hfirst, hsecond⟩ := ih hled
      exact ⟨m, by omega, s₁, completes_cons.mpr ⟨led, hperform, hfirst⟩, hsecond⟩

theorem completes_append {us : List τ} :
    W.Completes s (ts ++ us) s' ↔ ∃ s₁, W.Completes s ts s₁ ∧ W.Completes s₁ us s' := by
  constructor
  · rintro ⟨n, h⟩
    obtain ⟨m, -, s₁, hfirst, hsecond⟩ := run_append h
    exact ⟨s₁, hfirst, m, hsecond⟩
  · rintro ⟨s₁, ⟨n, h⟩, hsecond⟩
    induction n generalizing s ts with
    | zero =>
      cases h
      exact hsecond
    | succ n ih =>
      cases ts with
      | nil =>
        cases h
        exact hsecond
      | cons t ts =>
        obtain ⟨led, hperform, hled⟩ := Option.bind_eq_some_iff.mp h
        rw [List.cons_append, completes_cons]
        refine ⟨led, hperform, ?_⟩
        rw [← List.append_assoc]
        exact ih hled

end Worker

end Isobus.Lib
