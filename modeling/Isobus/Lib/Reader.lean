import Mathlib.Data.List.Infix
import Mathlib.Data.UInt
import Mathlib.Tactic.Common

/-!
# Readers of a byte string

A reader takes what it wants from the front of a byte string.
-/

namespace Isobus.Lib

/-- A value and the bytes behind it, a refusal, or a byte that is not there. -/
inductive Reading (α : Type)
  | done (value : α) (rest : List UInt8)
  | refused
  | outside
  deriving DecidableEq

def Reader (α : Type) : Type := List UInt8 → Reading α

namespace Reader

variable {α β γ : Type}

def bind (r : Reader α) (f : α → Reader β) : Reader β := fun bytes =>
  match r bytes with
  | .done a rest => f a rest
  | .refused => .refused
  | .outside => .outside

instance : Monad Reader where
  pure a := fun bytes => .done a bytes
  bind := bind

def demand (p : Prop) [Decidable p] : Reader Unit := fun bytes =>
  if p then .done () bytes else .refused

def atLeast (count : Nat) : Reader Unit := fun bytes =>
  if count ≤ bytes.length then .done () bytes else .refused

def take (count : Nat) : Reader (List UInt8) := fun bytes =>
  if count ≤ bytes.length then .done (bytes.take count) (bytes.drop count) else .outside

def times (count : Nat) (r : Reader α) : Reader (List α) :=
  match count with
  | 0 => pure []
  | count + 1 => do
      let a ← r
      let as ← times count r
      return a :: as

variable {r : Reader α} {f : α → Reader β} {bytes rest : List UInt8}

@[simp] theorem pure_eq (a : α) (bytes : List UInt8) :
    (pure a : Reader α) bytes = .done a bytes := rfl

theorem bind_eq (r : Reader α) (f : α → Reader β) (bytes : List UInt8) :
    (r >>= f) bytes = match r bytes with
      | .done a rest => f a rest
      | .refused => .refused
      | .outside => .outside := rfl

theorem bind_of_done {a : α} (h : r bytes = .done a rest) : (r >>= f) bytes = f a rest := by
  rw [bind_eq, h]

theorem bind_of_refused (h : r bytes = .refused) : (r >>= f) bytes = .refused := by
  rw [bind_eq, h]

theorem bind_of_outside (h : r bytes = .outside) : (r >>= f) bytes = .outside := by
  rw [bind_eq, h]

theorem bind_eq_done {b : β} :
    (r >>= f) bytes = .done b rest ↔
      ∃ a middle, r bytes = .done a middle ∧ f a middle = .done b rest := by
  rw [bind_eq]
  cases r bytes with
  | done a middle => simp
  | refused => simp
  | outside => simp

theorem bind_eq_outside :
    (r >>= f) bytes = .outside ↔
      r bytes = .outside ∨ ∃ a middle, r bytes = .done a middle ∧ f a middle = .outside := by
  rw [bind_eq]
  cases r bytes with
  | done a middle => simp
  | refused => simp
  | outside => simp

variable {p : Prop} {count n : Nat}

theorem demand_eq_done [Decidable p] :
    demand p bytes = .done () rest ↔ p ∧ rest = bytes := by
  rw [demand]
  split_ifs with h <;> simp [h, eq_comm]

theorem demand_of [Decidable p] (h : p) : demand p bytes = .done () bytes := if_pos h

theorem demand_of_not [Decidable p] (h : ¬p) : demand p bytes = .refused := if_neg h

theorem demand_ne_outside [Decidable p] : demand p bytes ≠ .outside := by
  rw [demand]
  split_ifs <;> simp

theorem atLeast_eq_done :
    atLeast count bytes = .done () rest ↔ count ≤ bytes.length ∧ rest = bytes := by
  rw [atLeast]
  split_ifs with h <;> simp [h, eq_comm]

theorem atLeast_of (h : count ≤ bytes.length) :
    atLeast count bytes = .done () bytes := if_pos h

theorem atLeast_of_lt (h : bytes.length < count) :
    atLeast count bytes = .refused := if_neg (by omega)

theorem atLeast_ne_outside : atLeast count bytes ≠ .outside := by
  rw [atLeast]
  split_ifs <;> simp

theorem take_eq_done {taken : List UInt8} :
    take count bytes = .done taken rest ↔ taken.length = count ∧ bytes = taken ++ rest := by
  rw [take]
  split_ifs with h
  · rw [Reading.done.injEq]
    constructor
    · rintro ⟨rfl, rfl⟩
      exact ⟨by rw [List.length_take, Nat.min_eq_left h], (List.take_append_drop count bytes).symm⟩
    · rintro ⟨rfl, rfl⟩
      exact ⟨List.take_left, List.drop_left⟩
  · refine iff_of_false (by simp) ?_
    rintro ⟨rfl, rfl⟩
    exact h (by simp)

theorem take_append {taken : List UInt8} (h : taken.length = n) :
    take n (taken ++ rest) = .done taken rest := take_eq_done.mpr ⟨h, rfl⟩

theorem take_eq_outside : take count bytes = .outside ↔ bytes.length < count := by
  rw [take]
  split_ifs with h
  · exact iff_of_false (by simp) (by omega)
  · exact iff_of_true rfl (by omega)

/-- The reader takes exactly so many bytes and looks at nothing else. -/
def Takes (r : Reader α) (size : Nat) : Prop :=
  ∃ f : List UInt8 → α, ∀ bytes, r bytes =
    if size ≤ bytes.length then .done (f (bytes.take size)) (bytes.drop size) else .outside

theorem takes_pure (a : α) : Takes (pure a : Reader α) 0 :=
  ⟨fun _ => a, fun bytes => by simp⟩

theorem takes_take (count : Nat) : Takes (take count) count := ⟨id, fun _ => rfl⟩

theorem Takes.bind {m : Nat} (h : Takes r n) (hf : ∀ a, Takes (f a) m) :
    Takes (r >>= f) (n + m) := by
  obtain ⟨g, hg⟩ := h
  choose g' hg' using hf
  refine ⟨fun taken => g' (g (taken.take n)) (taken.drop n), fun bytes => ?_⟩
  rw [bind_eq, hg]
  by_cases hn : n ≤ bytes.length
  · rw [if_pos hn]
    dsimp only
    rw [hg', List.length_drop, List.take_take, Nat.min_eq_left (by omega), List.drop_drop,
      List.drop_take, Nat.add_sub_cancel_left]
    by_cases hm : m ≤ bytes.length - n
    · rw [if_pos hm, if_pos (by omega)]
    · rw [if_neg hm, if_neg (by omega)]
  · rw [if_neg hn, if_neg (by omega)]

theorem Takes.times (h : Takes r n) (count : Nat) : Takes (r.times count)
    (count * n) := by
  induction count with
  | zero =>
    rw [Nat.zero_mul]
    exact takes_pure []
  | succ count ih =>
    have hsize : (count + 1) * n = n + (count * n + 0) := by
      rw [Nat.succ_mul]
      omega
    rw [hsize]
    exact h.bind fun a => ih.bind fun as => takes_pure (a :: as)

theorem Takes.eq_outside (h : Takes r n) : r bytes = .outside ↔ bytes.length < n := by
  obtain ⟨f, hf⟩ := h
  rw [hf]
  split_ifs with hn
  · exact iff_of_false (by simp) (by omega)
  · exact iff_of_true rfl (by omega)

theorem Takes.append (h : Takes r n) {taken : List UInt8} (htaken : taken.length = n) :
    ∃ a, ∀ rest, r (taken ++ rest) = .done a rest := by
  obtain ⟨f, hf⟩ := h
  refine ⟨f taken, fun rest => ?_⟩
  rw [hf, if_pos (by rw [List.length_append]; omega), ← htaken, List.take_left, List.drop_left]

theorem Takes.of_done (h : Takes r n) {a : α} (hdone : r bytes = .done a rest) :
    ∃ taken : List UInt8, taken.length = n ∧ bytes = taken ++ rest := by
  obtain ⟨f, hf⟩ := h
  rw [hf] at hdone
  split_ifs at hdone with hn
  · rw [Reading.done.injEq] at hdone
    exact ⟨bytes.take n, by rw [List.length_take, Nat.min_eq_left hn], by
      rw [← hdone.2, List.take_append_drop]⟩

def Consumes (r : Reader α) : Prop :=
  ∀ ⦃bytes a rest⦄, r bytes = .done a rest → ∃ taken, bytes = taken ++ rest

theorem consumes_pure (a : α) : Consumes (pure a : Reader α) := by
  intro bytes b rest h
  obtain ⟨rfl, rfl⟩ := Reading.done.inj h
  exact ⟨[], rfl⟩

theorem consumes_demand (p : Prop) [Decidable p] : Consumes (demand p) := by
  intro bytes _ rest h
  obtain ⟨-, rfl⟩ := demand_eq_done.mp h
  exact ⟨[], rfl⟩

theorem consumes_atLeast (count : Nat) : Consumes (atLeast count) := by
  intro bytes _ rest h
  obtain ⟨-, rfl⟩ := atLeast_eq_done.mp h
  exact ⟨[], rfl⟩

theorem Takes.consumes (h : Takes r n) : Consumes r := by
  intro bytes a rest hdone
  obtain ⟨taken, -, htaken⟩ := h.of_done hdone
  exact ⟨taken, htaken⟩

theorem Consumes.bind (h : Consumes r) (hf : ∀ a, Consumes (f a)) : Consumes (r >>= f) := by
  intro bytes b rest hdone
  obtain ⟨a, middle, hr, hf'⟩ := bind_eq_done.mp hdone
  obtain ⟨taken, rfl⟩ := h hr
  obtain ⟨taken', rfl⟩ := hf a hf'
  exact ⟨taken ++ taken', by rw [List.append_assoc]⟩

end Reader

end Isobus.Lib
