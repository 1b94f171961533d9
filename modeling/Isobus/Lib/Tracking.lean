import Isobus.Lib.KeyedTable

/-!
# What handlers may do to the entries of a table

`Admits` says which successors and outputs a handler allows itself, and `Tracks` what a step between
two tables means for the entry of one key.
-/

namespace Isobus.Lib

variable {κ β ω : Type}

/-- A successor with the property `P` is related to the value, and every output is
of the kind `Q`. -/
structure Admits (P : β → Prop) (R : β → β → Prop) (Q : ω → Prop) (b : β)
    (outcome : Option β × List ω) : Prop where
  value : ∀ b', outcome.1 = some b' → P b' → R b b'
  outputs : ∀ e ∈ outcome.2, Q e

variable {P : β → Prop} {R : β → β → Prop} {Q : ω → Prop} {b : β}

theorem admits_none {outputs : List ω} (h : ∀ e ∈ outputs, Q e) :
    Admits P R Q b (none, outputs) where
  value := by simp
  outputs := h

theorem admits_some {b' : β} {outputs : List ω} (hb : P b' → R b b')
    (h : ∀ e ∈ outputs, Q e) : Admits P R Q b (some b', outputs) where
  value := by
    rintro b'' heq hP
    cases heq
    exact hb hP
  outputs := h

theorem forall_mem_nil : ∀ e ∈ ([] : List ω), Q e := by simp

theorem forall_mem_singleton {e : ω} (h : Q e) : ∀ e' ∈ [e], Q e' := by
  intro e' he'
  rw [List.mem_singleton.mp he']
  exact h

theorem forall_mem_append {l l' : List ω} (h : ∀ e ∈ l, Q e) (h' : ∀ e ∈ l', Q e) :
    ∀ e ∈ l ++ l', Q e := by
  intro e he
  rcases List.mem_append.mp he with he | he
  · exact h e he
  · exact h' e he

namespace KeyedTable

variable [DecidableEq κ] {k : κ} {t u v : KeyedTable κ β}

/-- What the later table has under the key with the property `P` comes from what the
earlier one had there. -/
def Tracks (P : β → Prop) (R : β → β → Prop) (k : κ) (t u : KeyedTable κ β) : Prop :=
  ∀ b', u.lookup k = some b' → P b' → ∃ b, t.lookup k = some b ∧ R b b'

theorem tracks_of_lookup_eq (hrefl : ∀ b, P b → R b b) (h : u.lookup k = t.lookup k) :
    Tracks P R k t u :=
  fun b' hb' hP => ⟨b', h ▸ hb', hrefl b' hP⟩

theorem tracks_refl (hrefl : ∀ b, P b → R b b) : Tracks P R k t t :=
  tracks_of_lookup_eq hrefl rfl

theorem Tracks.trans (hP : ∀ a b, R a b → P a) (htrans : ∀ a b c, R a b → R b c → R a c)
    (h : Tracks P R k t u) (h' : Tracks P R k u v) : Tracks P R k t v := by
  intro b'' hv hb''
  obtain ⟨b', hu, hR'⟩ := h' b'' hv hb''
  obtain ⟨b, ht, hR⟩ := h b' hu (hP b' b'' hR')
  exact ⟨b, ht, htrans b b' b'' hR hR'⟩

/-- A step between two tables together with its outputs. -/
structure AdmitsAt (P : β → Prop) (R : β → β → Prop) (Q : ω → Prop) (k : κ)
    (t : KeyedTable κ β) (reply : KeyedTable κ β × List ω) : Prop where
  tracks : Tracks P R k t reply.1
  outputs : ∀ e ∈ reply.2, Q e

theorem admitsAt_idle (hrefl : ∀ b, P b → R b b) {outputs : List ω} (h : ∀ e ∈ outputs, Q e) :
    AdmitsAt P R Q k t (t, outputs) :=
  ⟨tracks_refl hrefl, h⟩

theorem AdmitsAt.trans (hP : ∀ a b, R a b → P a) (htrans : ∀ a b c, R a b → R b c → R a c)
    {outputs outputs' : List ω} (h : AdmitsAt P R Q k t (u, outputs))
    (h' : AdmitsAt P R Q k u (v, outputs')) : AdmitsAt P R Q k t (v, outputs ++ outputs') :=
  ⟨h.tracks.trans hP htrans h'.tracks, forall_mem_append h.outputs h'.outputs⟩

theorem admitsAt_dispatch {k' : κ} {f : β → Option β × List ω} (hrefl : ∀ b, P b → R b b)
    (h : ∀ b, t.lookup k' = some b → Admits P R Q b (f b)) :
    AdmitsAt P R Q k t (t.dispatch k' f) where
  tracks := by
    intro b' hb' hP
    rw [lookup_dispatch] at hb'
    split_ifs at hb' with hk
    · obtain ⟨b, hlookup, hsome⟩ := Option.bind_eq_some_iff.mp hb'
      exact ⟨b, hk ▸ hlookup, (h b hlookup).value b' hsome hP⟩
    · exact ⟨b', hb', hrefl b' hP⟩
  outputs := by
    intro e he
    obtain ⟨b, hlookup, he⟩ := mem_dispatch.mp he
    exact (h b hlookup).outputs e he

theorem admitsAt_dispatch_of_ne {k' : κ} {f : β → Option β × List ω}
    (hrefl : ∀ b, P b → R b b) (hne : k ≠ k') (h : ∀ b, ∀ e ∈ (f b).2, Q e) :
    AdmitsAt P R Q k t (t.dispatch k' f) where
  tracks := tracks_of_lookup_eq hrefl (by rw [lookup_dispatch, if_neg hne])
  outputs := by
    intro e he
    obtain ⟨b, -, he⟩ := mem_dispatch.mp he
    exact h b e he

theorem admitsAt_sweepBack {f : κ → β → Option β × List ω}
    (h : ∀ k b, t.lookup k = some b → Admits P R Q b (f k b)) :
    AdmitsAt P R Q k t (t.sweepBack f) where
  tracks := by
    intro b' hb' hP
    rw [lookup_sweepBack] at hb'
    obtain ⟨b, hlookup, hsome⟩ := Option.bind_eq_some_iff.mp hb'
    exact ⟨b, hlookup, (h k b hlookup).value b' hsome hP⟩
  outputs := by
    intro e he
    obtain ⟨k, b, hlookup, he⟩ := mem_sweepBack.mp he
    exact (h k b hlookup).outputs e he

theorem admitsAt_push_dispatch {k' : κ} {b : β} {f : β → Option β × List ω}
    (hrefl : ∀ b, P b → R b b) (hnew : k = k' → ∀ b', (f b).1 = some b' → ¬P b')
    (h : ∀ e ∈ (f b).2, Q e) : AdmitsAt P R Q k t ((t.push k' b).dispatch k' f) where
  tracks := by
    intro b' hb' hP
    rw [lookup_dispatch, lookup_push_self] at hb'
    split_ifs at hb' with hk
    · exact absurd hP (hnew hk b' hb')
    · rw [lookup_push_ne _ _ hk] at hb'
      exact ⟨b', hb', hrefl b' hP⟩
  outputs := by
    intro e he
    obtain ⟨b', hlookup, he⟩ := mem_dispatch.mp he
    rw [lookup_push_self] at hlookup
    cases hlookup
    exact h e he

end KeyedTable

end Isobus.Lib
