import Isobus.Lib.KeyedTable
import Isobus.Lib.Machine

/-!
# The life of a value

A live value stays and does only quiet things, or it ends with the outputs that mark an end, after
which nothing is heard of it.
-/

namespace Isobus.Lib

/-- Which values are live, when one is still the same, what it may do while it stays, and what when
it ends. -/
structure Life (β ω : Type) where
  live : β → Prop
  same : β → β → Prop
  quiet : ω → Prop
  ended : β → List ω → Prop

namespace Life

variable {β ω : Type} {L : Life β ω} {b b' b'' : Option β} {es es' : List ω}

def Dead (L : Life β ω) (b : Option β) : Prop := ∀ v, b = some v → ¬L.live v

inductive Lives (L : Life β ω) : Option β → Option β → List ω → Prop
  | stays {v v' : β} {es : List ω} (hv : L.live v) (hv' : L.live v') (hsame : L.same v v')
      (hquiet : ∀ e ∈ es, L.quiet e) : Lives L (some v) (some v') es
  | ends {v : β} {b' : Option β} {es : List ω} (hv : L.live v) (hdead : L.Dead b')
      (hended : L.ended v es) : Lives L (some v) b' es
  | dead {b b' : Option β} (hb : L.Dead b) (hb' : L.Dead b') : Lives L b b' []

/-- Being the same value is a preorder, and an end may have quiet outputs before it. -/
structure Composes (L : Life β ω) : Prop where
  refl : ∀ v, L.same v v
  trans : ∀ {u v w}, L.same u v → L.same v w → L.same u w
  prepend : ∀ {v v' front es}, L.same v v' → (∀ e ∈ front, L.quiet e) → L.ended v' es →
    L.ended v (front ++ es)

theorem dead_none : L.Dead none := by simp [Dead]

theorem Composes.lives_self (hL : L.Composes) (b : Option β) : L.Lives b b [] := by
  cases b with
  | none => exact .dead dead_none dead_none
  | some v =>
    by_cases hv : L.live v
    · exact .stays hv hv (hL.refl v) (by simp)
    · have hdead : L.Dead (some v) := by
        rintro v' ⟨rfl⟩
        exact hv
      exact .dead hdead hdead

theorem Lives.of_dead (h : L.Lives b b' es) (hb : L.Dead b) : L.Dead b' ∧ es = [] := by
  cases h with
  | stays hv => exact absurd hv (hb _ rfl)
  | ends hv => exact absurd hv (hb _ rfl)
  | dead _ hb' => exact ⟨hb', rfl⟩

theorem Composes.lives_trans (hL : L.Composes) (h : L.Lives b b' es) (h' : L.Lives b' b'' es') :
    L.Lives b b'' (es ++ es') := by
  cases h with
  | stays hv hv' hsame hquiet =>
    cases h' with
    | stays _ hv'' hsame' hquiet' =>
      refine .stays hv hv'' (hL.trans hsame hsame') fun e he => ?_
      exact (List.mem_append.mp he).elim (hquiet e) (hquiet' e)
    | ends _ hdead hended => exact .ends hv hdead (hL.prepend hsame hquiet hended)
    | dead hb => exact absurd hv' (hb _ rfl)
  | ends hv hdead hended =>
    obtain ⟨hdead', rfl⟩ := h'.of_dead hdead
    rw [List.append_nil]
    exact .ends hv hdead' hended
  | dead hb hb' =>
    obtain ⟨hdead, rfl⟩ := h'.of_dead hb'
    exact .dead hb hdead

theorem Lives.mono {L' : Life β ω} (h : L.Lives b b' es) (hlive : ∀ v, L'.live v ↔ L.live v)
    (hsame : ∀ v v', L.same v v' → L'.same v v') (hquiet : ∀ e, L.quiet e → L'.quiet e)
    (hended : ∀ v es, L.ended v es → L'.ended v es) : L'.Lives b b' es := by
  have hdead {b : Option β} (hb : L.Dead b) : L'.Dead b :=
    fun v hv hlive' => hb v hv ((hlive v).mp hlive')
  cases h with
  | stays hv hv' hs hq =>
    exact .stays ((hlive _).mpr hv) ((hlive _).mpr hv') (hsame _ _ hs)
      fun e he => hquiet e (hq e he)
  | ends hv hd he => exact .ends ((hlive _).mpr hv) (hdead hd) (hended _ _ he)
  | dead hb hb' => exact .dead (hdead hb) (hdead hb')

variable {σ ι : Type} (M : Machine σ ι ω)

variable {κ : Type} [DecidableEq κ] {t : KeyedTable κ β} {k : κ} {p : ω → Bool}

theorem Composes.lives_dispatch (hL : L.Composes) {k' : κ} {f : β → Option β × List ω}
    (hself : ∀ v, k' = k → t.lookup k = some v →
      L.Lives (some v) (f v).1 ((f v).2.filter p))
    (hother : ∀ v, k' ≠ k → t.lookup k' = some v → (f v).2.filter p = []) :
    L.Lives (t.lookup k) ((t.dispatch k' f).1.lookup k) ((t.dispatch k' f).2.filter p) := by
  cases hlookup : t.lookup k' with
  | none =>
    rw [KeyedTable.dispatch_of_lookup_none f hlookup]
    exact hL.lives_self _
  | some v =>
    rw [KeyedTable.dispatch_of_lookup_some f hlookup]
    by_cases heq : k' = k
    · subst heq
      rw [KeyedTable.lookup_alter_self, hlookup]
      exact hself v rfl hlookup
    · rw [KeyedTable.lookup_alter_ne _ _ fun h => heq h.symm, hother v heq hlookup]
      exact hL.lives_self _

theorem Composes.lives_push (hL : L.Composes) {k' : κ} {v : β}
    (h : k' = k → L.Dead (t.lookup k) ∧ ¬L.live v) :
    L.Lives (t.lookup k) ((t.push k' v).lookup k) [] := by
  by_cases heq : k' = k
  · subst heq
    rw [KeyedTable.lookup_push_self]
    refine .dead (h rfl).1 ?_
    rintro v' ⟨rfl⟩
    exact (h rfl).2
  · rw [KeyedTable.lookup_push_ne _ _ fun h => heq h.symm]
    exact hL.lives_self _

theorem Composes.lives_sweep (hL : L.Composes) {f : κ → β → Option β × List ω}
    (hself : ∀ v, t.lookup k = some v → L.Lives (some v) (f k v).1 ((f k v).2.filter p))
    (hother : ∀ k' v, t.lookup k' = some v → k' ≠ k → (f k' v).2.filter p = []) :
    L.Lives (t.lookup k) ((t.sweep f).1.lookup k) ((t.sweep f).2.filter p) := by
  have houtputs := KeyedTable.filterMap_sweep t f (Option.guard (p ·)) k
    (by simpa only [List.filterMap_eq_filter] using hother)
  simp only [List.filterMap_eq_filter] at houtputs
  rw [KeyedTable.lookup_sweep, houtputs]
  cases hlookup : t.lookup k with
  | none => exact hL.lives_self _
  | some v => exact hself v hlookup

theorem Composes.lives_sweepBack (hL : L.Composes) {f : κ → β → Option β × List ω}
    (hself : ∀ v, t.lookup k = some v → L.Lives (some v) (f k v).1 ((f k v).2.filter p))
    (hother : ∀ k' v, t.lookup k' = some v → k' ≠ k → (f k' v).2.filter p = []) :
    L.Lives (t.lookup k) ((t.sweepBack f).1.lookup k) ((t.sweepBack f).2.filter p) := by
  have houtputs := KeyedTable.filterMap_sweepBack t f (Option.guard (p ·)) k
    (by simpa only [List.filterMap_eq_filter] using hother)
  simp only [List.filterMap_eq_filter] at houtputs
  rw [KeyedTable.lookup_sweepBack, houtputs]
  cases hlookup : t.lookup k with
  | none => exact hL.lives_self _
  | some v => exact hself v hlookup

end Life

end Isobus.Lib
