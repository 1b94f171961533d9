import Mathlib.Init

/-!
# Threads that share a state

A thread asks the state for answers, one access at a time, and goes on by them.
-/

namespace Isobus.Lib

/-- A thread that has returned, or its next access and how it goes on. -/
inductive Thread {A : Type} (R : A → Type) (α : Type) where
  | done (result : α)
  | access (a : A) (next : R a → Thread R α)

namespace Thread

variable {A S σ : Type} {R : A → Type} {α β : Type}

def bind : Thread R α → (α → Thread R β) → Thread R β
  | done result, rest => rest result
  | access a next, rest => access a fun answer => (next answer).bind rest

instance : Monad (Thread R) where
  pure := done
  bind := bind

def ask (a : A) : Thread R (R a) := access a done

/-- An access that gets no answer waits. -/
def step (serve : σ → (a : A) → Option (R a × σ)) : Thread R α → σ → Thread R α × σ
  | done result, s => (done result, s)
  | access a next, s =>
    match serve s a with
    | none => (access a next, s)
    | some (answer, s') => (next answer, s')

/-- What is known of the state, which accesses it allows, and what their answers make known. -/
structure View (R : A → Type) (S : Type) where
  allowed : A → S → Prop
  answers : (a : A) → S → R a → S → Prop

variable {V : View R S}

/-- All accesses are allowed, and what is known at the end is as described. -/
def Ensures (V : View R S) (post : α → S → Prop) : Thread R α → S → Prop
  | done result, x => post result x
  | access a next, x =>
    V.allowed a x ∧ ∀ answer x', V.answers a x answer x' → (next answer).Ensures V post x'

variable {post : α → S → Prop} {x : S}

@[simp] theorem ensures_done (result : α) :
    (done result : Thread R α).Ensures V post x ↔ post result x := Iff.rfl

@[simp] theorem ensures_pure (result : α) :
    (pure result : Thread R α).Ensures V post x ↔ post result x := Iff.rfl

@[simp] theorem ensures_access (a : A) (next : R a → Thread R α) :
    (access a next).Ensures V post x ↔
      V.allowed a x ∧ ∀ answer x', V.answers a x answer x' → (next answer).Ensures V post x' :=
  Iff.rfl

@[simp] theorem ensures_bind (t : Thread R α) (rest : α → Thread R β) {post : β → S → Prop} :
    (t >>= rest).Ensures V post x ↔
      t.Ensures V (fun result x' => (rest result).Ensures V post x') x := by
  induction t generalizing x with
  | done result => exact Iff.rfl
  | access a next ih =>
    exact and_congr Iff.rfl (forall_congr' fun answer => forall_congr' fun x' =>
      imp_congr_right fun _ => ih answer)

theorem Ensures.mono {t : Thread R α} {post' : α → S → Prop} (h : t.Ensures V post x)
    (hpost : ∀ result x', post result x' → post' result x') : t.Ensures V post' x := by
  induction t generalizing x with
  | done result => exact hpost result x h
  | access a next ih => exact ⟨h.1, fun answer x' hanswer => ih answer (h.2 answer x' hanswer)⟩

/-- If the state answers as the view has it, a step keeps what is known of it. -/
theorem Ensures.step {t : Thread R α} (serve : σ → (a : A) → Option (R a × σ))
    (Knows : σ → S → Prop) {s : σ} (h : t.Ensures V post x) (hs : Knows s x)
    (hserve : ∀ a answer s', V.allowed a x → serve s a = some (answer, s') →
      ∃ x', V.answers a x answer x' ∧ Knows s' x') :
    ∃ x', Knows (t.step serve s).2 x' ∧ (t.step serve s).1.Ensures V post x' := by
  cases t with
  | done result => exact ⟨x, hs, h⟩
  | access a next =>
    rw [Thread.step]
    split
    case h_1 => exact ⟨x, hs, h⟩
    case h_2 answer s' hanswer =>
      obtain ⟨x', hview, hs'⟩ := hserve a answer s' h.1 hanswer
      exact ⟨x', hs', h.2 answer x' hview⟩

end Thread

end Isobus.Lib
