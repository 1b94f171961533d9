import Mathlib.Data.List.Induction

/-!
# Deterministic machines with outputs

A machine reads one input at a time, moves to its next state and emits outputs.
-/

namespace Isobus.Lib

/-- One step maps a state and an input to the next state and the outputs. -/
structure Machine (σ ι ω : Type) where
  step : σ → ι → σ × List ω

namespace Machine

variable {σ ι ω : Type} (M : Machine σ ι ω)

def next (s : σ) (i : ι) : σ := (M.step s i).1

def emits (s : σ) (i : ι) : List ω := (M.step s i).2

def run (s : σ) : List ι → σ
  | [] => s
  | i :: is => run (M.next s i) is

def outputs (s : σ) : List ι → List ω
  | [] => []
  | i :: is => M.emits s i ++ outputs (M.next s i) is

/-- Every step of the run meets the condition in the state it is taken in. -/
def Along (ok : σ → ι → Prop) (s : σ) : List ι → Prop
  | [] => True
  | i :: is => ok s i ∧ Along ok (M.next s i) is

@[simp] theorem run_nil (s : σ) : M.run s [] = s := rfl

@[simp] theorem run_cons (s : σ) (i : ι) (is : List ι) :
    M.run s (i :: is) = M.run (M.next s i) is := rfl

@[simp] theorem outputs_nil (s : σ) : M.outputs s [] = [] := rfl

@[simp] theorem outputs_cons (s : σ) (i : ι) (is : List ι) :
    M.outputs s (i :: is) = M.emits s i ++ M.outputs (M.next s i) is := rfl

theorem run_append (s : σ) (is js : List ι) :
    M.run s (is ++ js) = M.run (M.run s is) js := by
  induction is generalizing s with
  | nil => rfl
  | cons i is ih => exact ih _

theorem run_concat (s : σ) (is : List ι) (i : ι) :
    M.run s (is ++ [i]) = M.next (M.run s is) i := by
  rw [run_append]
  rfl

theorem outputs_append (s : σ) (is js : List ι) :
    M.outputs s (is ++ js) = M.outputs s is ++ M.outputs (M.run s is) js := by
  induction is generalizing s with
  | nil => rfl
  | cons i is ih =>
    rw [List.cons_append, outputs_cons, outputs_cons, ih, run_cons, List.append_assoc]

theorem along_append (ok : σ → ι → Prop) (s : σ) (is js : List ι) :
    M.Along ok s (is ++ js) ↔ M.Along ok s is ∧ M.Along ok (M.run s is) js := by
  induction is generalizing s with
  | nil => simp [Along]
  | cons i is ih => simp [Along, ih, and_assoc]

theorem run_invariant {P : σ → Prop} (hstep : ∀ s i, P s → P (M.next s i)) {s : σ}
    (h : P s) (is : List ι) : P (M.run s is) := by
  induction is generalizing s with
  | nil => exact h
  | cons i is ih => exact ih (hstep s i h)

theorem run_invariant_along {P : σ → Prop} {ok : σ → ι → Prop}
    (hstep : ∀ s i, P s → ok s i → P (M.next s i)) {s : σ} (h : P s) (is : List ι)
    (hok : M.Along ok s is) : P (M.run s is) := by
  induction is generalizing s with
  | nil => exact h
  | cons i is ih => exact ih (hstep s i h hok.1) hok.2

theorem run_outputs_invariant_along {P : σ → List ω → Prop} {ok : σ → ι → Prop}
    (hstep : ∀ s sent i, P s sent → ok s i → P (M.next s i) (sent ++ M.emits s i)) {s : σ}
    {sent : List ω} (h : P s sent) (is : List ι) (hok : M.Along ok s is) :
    P (M.run s is) (sent ++ M.outputs s is) := by
  induction is generalizing s sent with
  | nil => simpa using h
  | cons i is ih =>
    rw [outputs_cons, ← List.append_assoc]
    exact ih (hstep s sent i h hok.1) hok.2

theorem run_invariant_of_mem {P : σ → Prop} {valid : ι → Prop}
    (hstep : ∀ s i, P s → valid i → P (M.next s i)) {s : σ} (h : P s) (is : List ι)
    (hvalid : ∀ i ∈ is, valid i) : P (M.run s is) := by
  induction is generalizing s with
  | nil => exact h
  | cons i is ih =>
    exact ih (hstep s i h (hvalid i List.mem_cons_self))
      fun j hj => hvalid j (List.mem_cons_of_mem i hj)

theorem along_of_forall {ok : σ → ι → Prop} (h : ∀ s i, ok s i) (s : σ) (is : List ι) :
    M.Along ok s is := by
  induction is generalizing s with
  | nil => trivial
  | cons i is ih => exact ⟨h s i, ih _⟩

theorem along_of_mem {valid : ι → Prop} (s : σ) (is : List ι) (h : ∀ i ∈ is, valid i) :
    M.Along (fun _ i => valid i) s is := by
  induction is generalizing s with
  | nil => trivial
  | cons i is ih =>
    exact ⟨h i List.mem_cons_self, ih _ fun j hj => h j (List.mem_cons_of_mem i hj)⟩

def checks (ok : σ → ι → Bool) (s : σ) : List ι → Bool
  | [] => true
  | i :: is => ok s i && checks ok (M.next s i) is

theorem along_of_checks {A : σ → ι → Prop} {ok : σ → ι → Bool} (hok : ∀ s i, ok s i → A s i)
    {s : σ} {is : List ι} (h : M.checks ok s is) : M.Along A s is := by
  induction is generalizing s with
  | nil => trivial
  | cons i is ih =>
    obtain ⟨hi, hrest⟩ := Bool.and_eq_true_iff.mp h
    exact ⟨hok s i hi, ih hrest⟩

theorem along_mono {A B : σ → ι → Prop} (h : ∀ s i, A s i → B s i) {s : σ} {is : List ι}
    (halong : M.Along A s is) : M.Along B s is := by
  induction is generalizing s with
  | nil => trivial
  | cons i is ih => exact ⟨h s i halong.1, ih halong.2⟩

theorem along_of_invariant_along {P : σ → Prop} {ok A : σ → ι → Prop}
    (hstep : ∀ s i, P s → ok s i → P (M.next s i)) (hA : ∀ s i, P s → ok s i → A s i) {s : σ}
    (h : P s) (is : List ι) (hok : M.Along ok s is) : M.Along A s is := by
  induction is generalizing s with
  | nil => trivial
  | cons i is ih => exact ⟨hA s i h hok.1, ih (hstep s i h hok.1) hok.2⟩

theorem along_congr {P : σ → Prop} {ok A B : σ → ι → Prop}
    (hstep : ∀ s i, P s → ok s i → P (M.next s i))
    (hiff : ∀ s i, P s → ok s i → (A s i ↔ B s i)) {s : σ} (h : P s) (is : List ι)
    (hok : M.Along ok s is) : M.Along A s is ↔ M.Along B s is := by
  induction is generalizing s with
  | nil => exact Iff.rfl
  | cons i is ih => exact and_congr (hiff s i h hok.1) (ih (hstep s i h hok.1) hok.2)

theorem along_iff_of_kept {P : σ → Prop} {A B : σ → ι → Prop} (hiff : ∀ s i, P s → (A s i ↔ B s i))
    (hkeep : ∀ s i, P s → A s i → P (M.next s i)) {s : σ} (h : P s) (is : List ι) :
    M.Along A s is ↔ M.Along B s is := by
  induction is generalizing s with
  | nil => exact Iff.rfl
  | cons i is ih =>
    constructor
    · rintro ⟨hA, hrest⟩
      exact ⟨(hiff s i h).mp hA, (ih (hkeep s i h hA)).mp hrest⟩
    · rintro ⟨hB, hrest⟩
      have hA := (hiff s i h).mpr hB
      exact ⟨hA, (ih (hkeep s i h hA)).mpr hrest⟩

theorem along_emits_iff {good : ω → Prop} (s : σ) (is : List ι) :
    M.Along (fun s i => ∀ o ∈ M.emits s i, good o) s is ↔ ∀ o ∈ M.outputs s is, good o := by
  induction is generalizing s with
  | nil => simp [Along]
  | cons i is ih =>
    rw [outputs_cons, List.forall_mem_append]
    exact and_congr Iff.rfl (ih _)

theorem along_iff_outputs {P : σ → Prop} {valid : ι → Prop} {ok : σ → ι → Prop} {good : ω → Prop}
    (hstep : ∀ s i, P s → valid i → P (M.next s i))
    (hok : ∀ s i, P s → valid i → (ok s i ↔ ∀ o ∈ M.emits s i, good o)) {s : σ} (h : P s)
    (is : List ι) (hvalid : ∀ i ∈ is, valid i) :
    M.Along ok s is ↔ ∀ o ∈ M.outputs s is, good o := by
  induction is generalizing s with
  | nil => simp [Along]
  | cons i is ih =>
    have hi := hvalid i List.mem_cons_self
    rw [outputs_cons, List.forall_mem_append]
    exact and_congr (hok s i h hi)
      (ih (hstep s i h hi) fun j hj => hvalid j (List.mem_cons_of_mem i hj))

/-- A property that a valid step keeps exactly under a condition holds all along a valid run exactly
if every step meets the condition. -/
theorem forall_prefix_iff_of_along {P : σ → Prop} {valid ok : σ → ι → Prop}
    (hstep : ∀ s i, P s → valid s i → (P (M.next s i) ↔ ok s i)) {s : σ} (h : P s) (is : List ι)
    (hvalid : M.Along valid s is) :
    (∀ past, past <+: is → P (M.run s past)) ↔ M.Along ok s is := by
  induction is generalizing s with
  | nil =>
    refine iff_of_true (fun past hpast => ?_) trivial
    rw [List.prefix_nil.mp hpast]
    exact h
  | cons i is ih =>
    constructor
    · intro hall
      have hnext : P (M.next s i) := hall [i] (List.cons_prefix_cons.mpr ⟨rfl, List.nil_prefix⟩)
      exact ⟨(hstep s i h hvalid.1).mp hnext, (ih hnext hvalid.2).mp fun past hpast =>
        hall (i :: past) (List.cons_prefix_cons.mpr ⟨rfl, hpast⟩)⟩
    · rintro ⟨hok, hrest⟩ past hpast
      obtain rfl | ⟨tail, rfl, htail⟩ := List.prefix_cons_iff.mp hpast
      · exact h
      · exact (ih ((hstep s i h hvalid.1).mpr hok) hvalid.2).mpr hrest tail htail

theorem forall_prefix_iff {P : σ → Prop} {ok : σ → ι → Prop}
    (hstep : ∀ s i, P s → (P (M.next s i) ↔ ok s i)) {s : σ} (h : P s) (is : List ι) :
    (∀ past, past <+: is → P (M.run s past)) ↔ M.Along ok s is :=
  M.forall_prefix_iff_of_along (fun s i h _ => hstep s i h) h is
    (M.along_of_forall (fun _ _ => trivial) s is)

theorem run_filter {p : ι → Bool} {s : σ} (is : List ι)
    (h : M.Along (fun s i => p i → M.step s i = (s, [])) s is) :
    M.run s (is.filter (!p ·)) = M.run s is := by
  induction is generalizing s with
  | nil => rfl
  | cons i is ih =>
    rw [run_cons, List.filter_cons, ← ih h.2]
    cases hi : p i with
    | true => rw [next, h.1 hi, Bool.not_true, if_neg Bool.false_ne_true]
    | false => rw [Bool.not_false, if_pos rfl, run_cons]

theorem outputs_filter {p : ι → Bool} {s : σ} (is : List ι)
    (h : M.Along (fun s i => p i → M.step s i = (s, [])) s is) :
    M.outputs s (is.filter (!p ·)) = M.outputs s is := by
  induction is generalizing s with
  | nil => rfl
  | cons i is ih =>
    rw [outputs_cons, List.filter_cons, ← ih h.2]
    cases hi : p i with
    | true => rw [next, emits, h.1 hi, Bool.not_true, if_neg Bool.false_ne_true, List.nil_append]
    | false => rw [Bool.not_false, if_pos rfl, outputs_cons]

theorem run_history {P : List ι → σ → Prop} {s : σ} (h : P [] s)
    (hstep : ∀ past i, P past (M.run s past) → P (past ++ [i]) (M.next (M.run s past) i))
    (is : List ι) : P is (M.run s is) := by
  induction is using List.reverseRecOn with
  | nil => exact h
  | append_singleton is i ih =>
    rw [run_concat]
    exact hstep is i ih

variable {ρ : Type} (note : ρ → σ → ι → ρ)

/-- The machine, with a record beside its state that notes every step. -/
def recording : Machine (σ × ρ) ι ω where
  step s i := ((M.next s.1 i, note s.2 s.1 i), M.emits s.1 i)

theorem recording_next (s : σ × ρ) (i : ι) :
    (M.recording note).next s i = (M.next s.1 i, note s.2 s.1 i) := rfl

theorem recording_run_fst (s : σ × ρ) (is : List ι) :
    ((M.recording note).run s is).1 = M.run s.1 is := by
  induction is generalizing s with
  | nil => rfl
  | cons i is ih => exact ih _

theorem recording_along_iff {ok : σ → ι → Prop} (s : σ × ρ) (is : List ι) :
    (M.recording note).Along (fun s i => ok s.1 i) s is ↔ M.Along ok s.1 is := by
  induction is generalizing s with
  | nil => exact Iff.rfl
  | cons i is ih => exact and_congr Iff.rfl (ih _)

end Machine

end Isobus.Lib
