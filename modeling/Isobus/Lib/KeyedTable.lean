import Mathlib.Data.List.Basic
import Mathlib.Data.List.Nodup

/-!
# Ordered tables with distinct keys

An association list that keeps its order and carries the proof that no key occurs twice.
-/

namespace Isobus.Lib

/-- A list of key and value pairs in insertion order, no two with one key. -/
structure KeyedTable (κ β : Type) where
  entries : List (κ × β)
  nodup : (entries.map Prod.fst).Nodup

namespace KeyedTable

variable {κ β : Type}

variable {t : KeyedTable κ β} {k k' : κ} {b : β}

@[ext] theorem ext {u : KeyedTable κ β} (h : t.entries = u.entries) : t = u := by
  cases t
  cases u
  cases h
  rfl

def empty : KeyedTable κ β := ⟨[], by simp⟩

def size (t : KeyedTable κ β) : Nat := t.entries.length

theorem map_fst_filterMap (f : κ → β → Option β) (l : List (κ × β)) :
    (l.filterMap fun e => (f e.1 e.2).map fun b => (e.1, b)).map Prod.fst =
      (l.filter fun e => (f e.1 e.2).isSome).map Prod.fst := by
  induction l with
  | nil => rfl
  | cons e l ih =>
    cases hf : f e.1 e.2 with
    | none => simp [hf, ih]
    | some b => simp [hf, ih]

def update (t : KeyedTable κ β) (f : κ → β → Option β) : KeyedTable κ β where
  entries := t.entries.filterMap fun e => (f e.1 e.2).map fun b => (e.1, b)
  nodup := by
    rw [map_fst_filterMap]
    exact t.nodup.sublist (List.filter_sublist.map Prod.fst)

variable [DecidableEq κ]

def lookup (t : KeyedTable κ β) (k : κ) : Option β :=
  (t.entries.find? fun e => e.1 = k).map Prod.snd

theorem mem_of_lookup (h : t.lookup k = some b) : (k, b) ∈ t.entries := by
  simp only [lookup, Option.map_eq_some_iff] at h
  obtain ⟨⟨k', b'⟩, hfind, rfl⟩ := h
  have hkey := List.find?_some hfind
  simp only [decide_eq_true_eq] at hkey
  subst hkey
  exact List.mem_of_find?_eq_some hfind

theorem lookup_of_mem (h : (k, b) ∈ t.entries) : t.lookup k = some b := by
  obtain ⟨l, hn⟩ := t
  simp only [lookup] at h ⊢
  induction l with
  | nil => simp at h
  | cons e l ih =>
    rw [List.map_cons, List.nodup_cons] at hn
    rcases List.mem_cons.mp h with rfl | hmem
    · simp
    · have hne : e.1 ≠ k := by
        rintro rfl
        exact hn.1 (List.mem_map.mpr ⟨_, hmem, rfl⟩)
      rw [List.find?_cons_of_neg (by simpa using hne)]
      exact ih hn.2 hmem

theorem mem_iff_lookup :
    (k, b) ∈ t.entries ↔ t.lookup k = some b :=
  ⟨lookup_of_mem, mem_of_lookup⟩

theorem lookup_eq_none_iff :
    t.lookup k = none ↔ k ∉ t.entries.map Prod.fst := by
  simp only [lookup, Option.map_eq_none_iff, List.find?_eq_none, decide_eq_true_eq,
    List.mem_map, not_exists, not_and]

theorem lookup_congr {u : KeyedTable κ β} (h : ∀ b, (k, b) ∈ t.entries ↔ (k, b) ∈ u.entries) :
    t.lookup k = u.lookup k := by
  apply Option.ext
  intro b
  rw [← mem_iff_lookup, ← mem_iff_lookup]
  exact h b

@[simp] theorem lookup_empty (k : κ) : (empty : KeyedTable κ β).lookup k = none := rfl

@[simp] theorem lookup_update (t : KeyedTable κ β) (f : κ → β → Option β) (k : κ) :
    (t.update f).lookup k = (t.lookup k).bind (f k) := by
  apply Option.ext
  intro b
  rw [← mem_iff_lookup]
  simp only [update, List.mem_filterMap, Option.map_eq_some_iff, Prod.mk.injEq,
    Option.bind_eq_some_iff]
  constructor
  · rintro ⟨⟨k', a⟩, hmem, b', hf, rfl, rfl⟩
    exact ⟨a, lookup_of_mem hmem, hf⟩
  · rintro ⟨a, ha, hf⟩
    exact ⟨(k, a), mem_of_lookup ha, b, hf, rfl, rfl⟩

/-- Rewrite the value of one key; `none` removes its entry, and an absent key
changes nothing. -/
def alter (t : KeyedTable κ β) (k : κ) (f : β → Option β) : KeyedTable κ β :=
  t.update fun k' b => if k' = k then f b else some b

@[simp] theorem lookup_alter_self (t : KeyedTable κ β) (k : κ) (f : β → Option β) :
    (t.alter k f).lookup k = (t.lookup k).bind f := by
  simp [alter]

theorem lookup_alter_ne (t : KeyedTable κ β) (f : β → Option β) (h : k' ≠ k) :
    (t.alter k f).lookup k' = t.lookup k' := by
  simp [alter, h]

theorem lookup_alter (t : KeyedTable κ β) (k k' : κ) (f : β → Option β) :
    (t.alter k f).lookup k' = if k' = k then (t.lookup k).bind f else t.lookup k' := by
  split_ifs with h
  · subst h
    exact lookup_alter_self t k' f
  · exact lookup_alter_ne t f h

theorem entries_alter_some (t : KeyedTable κ β) (k : κ) (f : β → β) :
    (t.alter k fun b => some (f b)).entries =
      t.entries.map fun e => (e.1, if e.1 = k then f e.2 else e.2) := by
  change t.entries.filterMap _ = _
  rw [← List.filterMap_eq_map]
  refine List.filterMap_congr fun e _ => ?_
  dsimp only [Function.comp]
  split_ifs <;> rfl

theorem map_fst_alter_some (t : KeyedTable κ β) (k : κ) (f : β → β) :
    (t.alter k fun b => some (f b)).entries.map Prod.fst = t.entries.map Prod.fst := by
  rw [entries_alter_some, List.map_map]
  rfl

theorem ext_lookup {u : KeyedTable κ β} (hkeys : t.entries.map Prod.fst = u.entries.map Prod.fst)
    (hlookup : ∀ k, t.lookup k = u.lookup k) : t = u := by
  apply KeyedTable.ext
  have hvalue : ∀ {v : KeyedTable κ β} {e : κ × β}, e ∈ v.entries → v.lookup e.1 = some e.2 :=
    fun h => lookup_of_mem h
  apply List.ext_getElem
  · simpa using congrArg List.length hkeys
  · intro i ht hu
    have hkey : t.entries[i].1 = u.entries[i].1 := by
      have := congrArg (fun l : List κ => l[i]?) hkeys
      simpa [ht, hu] using this
    have hleft := hvalue (List.getElem_mem ht)
    have hright := hvalue (List.getElem_mem hu)
    rw [hkey, hlookup, hright, Option.some_inj] at hleft
    exact Prod.ext hkey hleft.symm

def erase (t : KeyedTable κ β) (k : κ) : KeyedTable κ β := t.alter k fun _ => none

theorem entries_erase (t : KeyedTable κ β) (k : κ) :
    (t.erase k).entries = t.entries.filter fun e => e.1 ≠ k := by
  change t.entries.filterMap _ = _
  rw [← List.filterMap_eq_filter]
  refine List.filterMap_congr fun e _ => ?_
  by_cases he : e.1 = k
  · simp [he, Option.guard]
  · simp [he, Option.guard]

@[simp] theorem lookup_erase_self (t : KeyedTable κ β) (k : κ) :
    (t.erase k).lookup k = none := by
  simp [erase]

theorem lookup_erase_ne (t : KeyedTable κ β) (h : k' ≠ k) :
    (t.erase k).lookup k' = t.lookup k' :=
  lookup_alter_ne t _ h

def insert (t : KeyedTable κ β) (k : κ) (b : β) (h : t.lookup k = none) : KeyedTable κ β where
  entries := t.entries ++ [(k, b)]
  nodup := by
    rw [List.map_append, List.nodup_append]
    refine ⟨t.nodup, by simp, ?_⟩
    intro a ha c hc
    have hc' : c = k := by simpa using hc
    subst hc'
    rintro rfl
    exact lookup_eq_none_iff.mp h ha

@[simp] theorem lookup_insert_self (t : KeyedTable κ β) (k : κ) (b : β)
    (h : t.lookup k = none) : (t.insert k b h).lookup k = some b := by
  apply lookup_of_mem
  simp [insert]

theorem lookup_insert_ne (t : KeyedTable κ β) (b : β) (h : t.lookup k = none) (hne : k' ≠ k) :
    (t.insert k b h).lookup k' = t.lookup k' := by
  apply lookup_congr
  intro c
  simp [insert, hne]

theorem lookup_insert (t : KeyedTable κ β) (k k' : κ) (b : β) (h : t.lookup k = none) :
    (t.insert k b h).lookup k' = if k' = k then some b else t.lookup k' := by
  split_ifs with heq
  · subst heq
    exact lookup_insert_self t k' b h
  · exact lookup_insert_ne t b h heq

/-- Append an entry, after the removal of what the key may still have. -/
def push (t : KeyedTable κ β) (k : κ) (b : β) : KeyedTable κ β :=
  (t.erase k).insert k b (lookup_erase_self t k)

@[simp] theorem lookup_push_self (t : KeyedTable κ β) (k : κ) (b : β) :
    (t.push k b).lookup k = some b :=
  lookup_insert_self _ k b _

theorem lookup_push_ne (t : KeyedTable κ β) (b : β) (h : k' ≠ k) :
    (t.push k b).lookup k' = t.lookup k' := by
  rw [push, lookup_insert_ne _ b _ h, lookup_erase_ne t h]

def back (t : KeyedTable κ β) : Option κ := t.entries.getLast?.map Prod.fst

def alterBack (t : KeyedTable κ β) (f : β → β) : KeyedTable κ β :=
  match t.back with
  | none => t
  | some k => t.alter k fun b => some (f b)

theorem alterBack_of_back (f : β → β) (h : t.back = some k) :
    t.alterBack f = t.alter k fun b => some (f b) := by
  rw [alterBack, h]

theorem back_alter_some (t : KeyedTable κ β) (k : κ) (f : β → β) :
    (t.alter k fun b => some (f b)).back = t.back := by
  rw [back, back, ← List.getLast?_map, map_fst_alter_some, List.getLast?_map]

def set (t : KeyedTable κ β) (k : κ) (b : β) : KeyedTable κ β :=
  if h : t.lookup k = none then t.insert k b h else t.alter k fun _ => some b

@[simp] theorem lookup_set_self (t : KeyedTable κ β) (k : κ) (b : β) :
    (t.set k b).lookup k = some b := by
  unfold set
  split_ifs with h
  · exact lookup_insert_self t k b h
  · obtain ⟨b', hb'⟩ := Option.ne_none_iff_exists'.mp h
    rw [lookup_alter_self, hb']
    rfl

theorem lookup_set_ne (t : KeyedTable κ β) (b : β) (h : k' ≠ k) :
    (t.set k b).lookup k' = t.lookup k' := by
  unfold set
  split_ifs with hnone
  · exact lookup_insert_ne t b hnone h
  · exact lookup_alter_ne t _ h

variable {ω : Type}

/-- Hand the value of one key to a handler, which says what is left of it and
what it did meanwhile. -/
def dispatch (t : KeyedTable κ β) (k : κ) (f : β → Option β × List ω) :
    KeyedTable κ β × List ω :=
  match t.lookup k with
  | none => (t, [])
  | some b => (t.alter k fun _ => (f b).1, (f b).2)

theorem dispatch_of_lookup_none (f : β → Option β × List ω) (h : t.lookup k = none) :
    t.dispatch k f = (t, []) := by
  rw [dispatch, h]

theorem dispatch_of_lookup_some (f : β → Option β × List ω) (h : t.lookup k = some b) :
    t.dispatch k f = (t.alter k fun _ => (f b).1, (f b).2) := by
  rw [dispatch, h]

theorem lookup_dispatch (t : KeyedTable κ β) (k k' : κ) (f : β → Option β × List ω) :
    (t.dispatch k f).1.lookup k' =
      if k' = k then (t.lookup k).bind fun b => (f b).1 else t.lookup k' := by
  cases h : t.lookup k with
  | none =>
    rw [dispatch_of_lookup_none f h]
    split_ifs with heq
    · rw [heq, h]
      rfl
    · rfl
  | some b =>
    rw [dispatch_of_lookup_some f h, lookup_alter, h]
    rfl

theorem lookup_dispatch_removed (t : KeyedTable κ β) (k : κ) {f : β → Option β × List ω}
    (h : ∀ b, (f b).1 = none) : (t.dispatch k f).1.lookup k = none := by
  rw [lookup_dispatch, if_pos rfl]
  cases t.lookup k with
  | none => rfl
  | some b => exact h b

theorem mem_dispatch {f : β → Option β × List ω} {e : ω} :
    e ∈ (t.dispatch k f).2 ↔ ∃ b, t.lookup k = some b ∧ e ∈ (f b).2 := by
  cases h : t.lookup k with
  | none => simp [dispatch_of_lookup_none f h]
  | some b => simp [dispatch_of_lookup_some f h]

def sweep (t : KeyedTable κ β) (f : κ → β → Option β × List ω) : KeyedTable κ β × List ω :=
  (t.update fun k b => (f k b).1, t.entries.flatMap fun e => (f e.1 e.2).2)

def sweepBack (t : KeyedTable κ β) (f : κ → β → Option β × List ω) : KeyedTable κ β × List ω :=
  (t.update fun k b => (f k b).1, t.entries.reverse.flatMap fun e => (f e.1 e.2).2)

theorem lookup_sweep (t : KeyedTable κ β) (f : κ → β → Option β × List ω) (k : κ) :
    (t.sweep f).1.lookup k = (t.lookup k).bind fun b => (f k b).1 :=
  lookup_update t _ k

theorem lookup_sweepBack (t : KeyedTable κ β) (f : κ → β → Option β × List ω) (k : κ) :
    (t.sweepBack f).1.lookup k = (t.lookup k).bind fun b => (f k b).1 :=
  lookup_update t _ k

theorem mem_sweep {f : κ → β → Option β × List ω} {e : ω} :
    e ∈ (t.sweep f).2 ↔ ∃ k b, t.lookup k = some b ∧ e ∈ (f k b).2 := by
  simp only [sweep, List.mem_flatMap, Prod.exists, mem_iff_lookup]

theorem mem_sweepBack {f : κ → β → Option β × List ω} {e : ω} :
    e ∈ (t.sweepBack f).2 ↔ ∃ k b, t.lookup k = some b ∧ e ∈ (f k b).2 := by
  simp only [sweepBack, List.mem_flatMap, List.mem_reverse, Prod.exists, mem_iff_lookup]

private theorem filterMap_flatMap_entries {l : List (κ × β)} {δ : Type}
    (hn : (l.map Prod.fst).Nodup) (g : κ × β → List ω) (p : ω → Option δ) (k : κ)
    (hother : ∀ e ∈ l, e.1 ≠ k → (g e).filterMap p = []) :
    (l.flatMap g).filterMap p =
      ((l.find? fun e => e.1 = k).map fun e => (g e).filterMap p).getD [] := by
  induction l with
  | nil => rfl
  | cons e l ih =>
    rw [List.map_cons, List.nodup_cons] at hn
    rw [List.flatMap_cons, List.filterMap_append,
      ih hn.2 fun e he => hother e (List.mem_cons_of_mem _ he)]
    by_cases he : e.1 = k
    · have hrest : (l.find? fun e => e.1 = k) = none := by
        rw [List.find?_eq_none]
        intro e' he' heq
        rw [decide_eq_true_eq, ← he] at heq
        exact hn.1 (List.mem_map.mpr ⟨e', he', heq⟩)
      rw [hrest, List.find?_cons_of_pos (by simpa using he)]
      simp
    · rw [hother e List.mem_cons_self he, List.find?_cons_of_neg (by simpa using he)]
      rfl

theorem filterMap_sweep {δ : Type} (t : KeyedTable κ β) (f : κ → β → Option β × List ω)
    (p : ω → Option δ) (k : κ)
    (hother : ∀ k' b, t.lookup k' = some b → k' ≠ k → (f k' b).2.filterMap p = []) :
    (t.sweep f).2.filterMap p =
      ((t.lookup k).map fun b => (f k b).2.filterMap p).getD [] := by
  rw [sweep, filterMap_flatMap_entries t.nodup _ p k fun e he => hother e.1 e.2 (lookup_of_mem he),
    lookup]
  cases hfind : t.entries.find? fun e => decide (e.1 = k) with
  | none => rfl
  | some e =>
    have hkey : e.1 = k := by simpa using List.find?_some hfind
    simp [hkey]

theorem filterMap_sweepBack {δ : Type} (t : KeyedTable κ β) (f : κ → β → Option β × List ω)
    (p : ω → Option δ) (k : κ)
    (hother : ∀ k' b, t.lookup k' = some b → k' ≠ k → (f k' b).2.filterMap p = []) :
    (t.sweepBack f).2.filterMap p =
      ((t.lookup k).map fun b => (f k b).2.filterMap p).getD [] := by
  have hn : (t.entries.reverse.map Prod.fst).Nodup := by
    rw [List.map_reverse]
    exact List.nodup_reverse.mpr t.nodup
  let u : KeyedTable κ β := ⟨t.entries.reverse, hn⟩
  have hlookup (k' : κ) : u.lookup k' = t.lookup k' := lookup_congr fun b => List.mem_reverse
  rw [← hlookup]
  exact filterMap_sweep u f p k fun k' b hb => hother k' b (hlookup k' ▸ hb)

def single (k : κ) : Option β → KeyedTable κ β
  | none => empty
  | some b => ⟨[(k, b)], by simp⟩

omit [DecidableEq κ] in
@[simp] theorem single_none (k : κ) : (single k none : KeyedTable κ β) = empty := rfl

@[simp] theorem lookup_single_self (k : κ) (o : Option β) : (single k o).lookup k = o := by
  cases o <;> simp [single, lookup, empty]

theorem alter_single (k : κ) (o : Option β) (f : β → Option β) :
    (single k o).alter k f = single k (o.bind f) := by
  apply ext
  cases o with
  | none => rfl
  | some b => cases h : f b <;> simp [single, alter, update, empty, h]

theorem dispatch_single (k : κ) (o : Option β) (f : β → Option β × List ω) :
    (single k o).dispatch k f =
      (single k (o.bind fun b => (f b).1), (o.map fun b => (f b).2).getD []) := by
  cases o with
  | none => rfl
  | some b =>
    rw [dispatch_of_lookup_some f (lookup_single_self k _), alter_single]
    rfl

omit [DecidableEq κ] in
theorem sweep_single (k : κ) (o : Option β) (f : κ → β → Option β × List ω) :
    (single k o).sweep f =
      (single k (o.bind fun b => (f k b).1), (o.map fun b => (f k b).2).getD []) := by
  cases o with
  | none => rfl
  | some b =>
    refine Prod.ext ?_ (by simp [sweep, single])
    apply ext
    cases h : (f k b).1 <;> simp [sweep, single, update, empty, h]

omit [DecidableEq κ] in
theorem sweepBack_single (k : κ) (o : Option β) (f : κ → β → Option β × List ω) :
    (single k o).sweepBack f =
      (single k (o.bind fun b => (f k b).1), (o.map fun b => (f k b).2).getD []) := by
  cases o with
  | none => rfl
  | some b =>
    refine Prod.ext ?_ (by simp [sweepBack, single])
    apply ext
    cases h : (f k b).1 <;> simp [sweepBack, single, update, empty, h]

theorem push_single (k : κ) (o : Option β) (b : β) :
    (single k o).push k b = single k (some b) := by
  apply ext
  cases o <;> simp [push, insert, erase, alter, update, single, empty]

end KeyedTable

end Isobus.Lib
