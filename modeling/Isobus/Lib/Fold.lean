import Mathlib.Data.List.Nodup
import Mathlib.Logic.Function.Iterate

/-!
# Walks over a list

A loop that updates a state: what every turn does, the whole walk does, and what one turn brings
about stays if no other turn undoes it.
-/

namespace Isobus.Lib

variable {σ α : Type} {f : σ → α → σ} {l : List α} {s : σ}

theorem foldl_rel {R : σ → σ → Prop} (hrefl : ∀ s, R s s)
    (htrans : ∀ s s' s'', R s s' → R s' s'' → R s s'') (hstep : ∀ s, ∀ a ∈ l, R s (f s a)) :
    R s (l.foldl f s) := by
  induction l generalizing s with
  | nil => exact hrefl s
  | cons a l ih =>
    refine htrans s (f s a) _ (hstep s a List.mem_cons_self) (ih fun s b hb => ?_)
    exact hstep s b (List.mem_cons_of_mem a hb)

theorem foldl_invariant {P : σ → Prop} (hstep : ∀ s, ∀ a ∈ l, P s → P (f s a)) (h : P s) :
    P (l.foldl f s) := by
  induction l generalizing s with
  | nil => exact h
  | cons a l ih =>
    exact ih (fun s b hb => hstep s b (List.mem_cons_of_mem a hb))
      (hstep s a List.mem_cons_self h)

theorem mem_replaceF {α : Type} {f : α → Option α} {a : α} {l : List α} (h : a ∈ l.replaceF f) :
    a ∈ l ∨ ∃ b ∈ l, f b = some a := by
  induction l with
  | nil => exact .inl h
  | cons b l ih =>
    rw [List.replaceF_cons] at h
    cases hb : f b with
    | none =>
      rw [hb] at h
      rcases List.mem_cons.mp h with rfl | h
      · exact .inl List.mem_cons_self
      · rcases ih h with h | ⟨c, hc, hfc⟩
        · exact .inl (List.mem_cons_of_mem b h)
        · exact .inr ⟨c, List.mem_cons_of_mem b hc, hfc⟩
    | some c =>
      rw [hb] at h
      rcases List.mem_cons.mp h with rfl | h
      · exact .inr ⟨b, List.mem_cons_self, hb⟩
      · exact .inl (List.mem_cons_of_mem b h)

theorem exists_mem_replaceF {α : Type} {f : α → Option α} {l : List α}
    (h : ∃ a ∈ l, (f a).isSome) : ∃ a ∈ l, ∃ b ∈ l.replaceF f, f a = some b := by
  induction l with
  | nil =>
    obtain ⟨a, ha, -⟩ := h
    cases ha
  | cons a l ih =>
    rw [List.replaceF_cons]
    cases ha : f a with
    | some b => exact ⟨a, List.mem_cons_self, b, List.mem_cons_self, ha⟩
    | none =>
      obtain ⟨c, hc, hsome⟩ := h
      have hne : c ≠ a := by
        rintro rfl
        rw [ha] at hsome
        cases hsome
      obtain ⟨d, hd, e, he, hde⟩ := ih ⟨c, (List.mem_cons.mp hc).resolve_left hne, hsome⟩
      exact ⟨d, List.mem_cons_of_mem a hd, e, List.mem_cons_of_mem a he, hde⟩

theorem map_replaceF {α β : Type} {f : α → Option α} {g : α → β}
    (hf : ∀ a b, f a = some b → g b = g a) (l : List α) : (l.replaceF f).map g = l.map g := by
  induction l with
  | nil => rfl
  | cons a l ih =>
    rw [List.replaceF_cons]
    cases ha : f a with
    | none => exact congrArg (g a :: ·) ih
    | some b => exact congrArg (· :: l.map g) (hf a b ha)

end Isobus.Lib
