import Mathlib.Data.List.Range
import Mathlib.Logic.Function.Iterate

/-!
# Loops that stop at the first refusal

A loop that offers one item after the other and gives up when one is refused.
-/

namespace Isobus.Lib

variable {σ ω : Type}

def offerLoop (accepts : σ → Bool) (next : σ → σ) (output : σ → Bool → ω) :
    Nat → σ → σ × List ω
  | 0, s => (s, [])
  | n + 1, s =>
    if accepts s then
      let rest := offerLoop accepts next output n (next s)
      (rest.1, output s true :: rest.2)
    else (s, [output s false])

/-- Of at most `n` items `taken` were taken, and the next one was refused unless the
loop was over. -/
structure Offers (accepts : σ → Bool) (next : σ → σ) (output : σ → Bool → ω) (n : Nat) (s : σ)
    (taken : Nat) : Prop where
  le : taken ≤ n
  accepted : ∀ i < taken, accepts (next^[i] s) = true
  refused : taken < n → accepts (next^[taken] s) = false
  state_eq : (offerLoop accepts next output n s).1 = next^[taken] s
  outputs_eq : (offerLoop accepts next output n s).2 =
    (List.range taken).map (fun i => output (next^[i] s) true) ++
      if taken < n then [output (next^[taken] s) false] else []

theorem exists_offers (accepts : σ → Bool) (next : σ → σ) (output : σ → Bool → ω) (n : Nat)
    (s : σ) : ∃ taken, Offers accepts next output n s taken := by
  induction n generalizing s with
  | zero => exact ⟨0, Nat.le_refl 0, by simp, by simp, rfl, by simp [offerLoop]⟩
  | succ n ih =>
    by_cases haccepts : accepts s = true
    · obtain ⟨taken, hle, haccepted, hrefused, hstate, houtputs⟩ := ih (next s)
      refine ⟨taken + 1, by omega, ?_, fun h => hrefused (by omega), ?_, ?_⟩
      · intro i hi
        cases i with
        | zero => exact haccepts
        | succ i => exact haccepted i (by omega)
      · rw [offerLoop, if_pos haccepts, hstate]
        rfl
      · rw [offerLoop, if_pos haccepts, List.range_succ_eq_map]
        dsimp only
        rw [houtputs]
        simp [Function.comp_def]
    · have hfalse : accepts s = false := by simpa using haccepts
      refine ⟨0, by omega, by simp, fun _ => hfalse, ?_, ?_⟩
      · rw [offerLoop, if_neg haccepts]
        rfl
      · rw [offerLoop, if_neg haccepts]
        simp

end Isobus.Lib
