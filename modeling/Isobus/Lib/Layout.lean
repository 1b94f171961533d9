import Mathlib.Data.List.Basic
import Mathlib.Tactic.Ring

/-!
# Records in a byte string

Checked access to the bytes of a record, and layouts: a record is a sequence of fields,
some of which begin with a count that says how long they are.
-/

namespace Isobus.Lib

theorem isSome_bind_iff {α β : Type} {o : Option α} {f : α → Option β}
    (hf : ∀ a, o = some a → (f a).isSome) : (o >>= f).isSome ↔ o.isSome := by
  cases o with
  | none => exact Iff.rfl
  | some a => simpa using hf a rfl

theorem isSome_bind {α β : Type} {o : Option α} {f : α → Option β} (ho : o.isSome)
    (hf : ∀ a, o = some a → (f a).isSome) : (o >>= f).isSome :=
  (isSome_bind_iff hf).mpr ho

theorem mapM_isSome {α β : Type} {f : α → Option β} (l : List α)
    (h : ∀ a ∈ l, (f a).isSome) : (l.mapM f).isSome := by
  induction l with
  | nil => rfl
  | cons a l ih =>
    rw [List.mapM_cons]
    exact isSome_bind (h a List.mem_cons_self) fun _ _ =>
      isSome_bind (ih fun b hb => h b (List.mem_cons_of_mem a hb)) fun _ _ => rfl

theorem mapM_congr_left {α β : Type} {f g : α → Option β} {l : List α} (h : ∀ a ∈ l, f a = g a) :
    l.mapM f = l.mapM g := by
  induction l with
  | nil => rfl
  | cons a l ih =>
    obtain ⟨ha, hl⟩ := List.forall_mem_cons.mp h
    rw [List.mapM_cons, List.mapM_cons, ha, ih hl]

theorem length_of_mapM {α β : Type} {f : α → Option β} {l : List α} {l' : List β}
    (h : l.mapM f = some l') : l'.length = l.length := by
  induction l generalizing l' with
  | nil =>
    cases h
    rfl
  | cons a l ih =>
    rw [List.mapM_cons] at h
    simp only [Option.bind_eq_bind, Option.bind_eq_some_iff] at h
    obtain ⟨b, -, bs, h₂, h₃⟩ := h
    rw [← Option.some.inj h₃, List.length_cons, List.length_cons, ih h₂]

theorem getElem?_isSome {bytes : List UInt8} {i : Nat} (h : i < bytes.length) :
    (bytes[i]?).isSome := by
  rw [List.getElem?_eq_getElem h]
  rfl

/-- So many bytes from a position on, each of which has to be there. -/
def readBytes (bytes : List UInt8) (start count : Nat) : Option (List UInt8) :=
  (List.range count).mapM fun i => bytes[start + i]?

theorem readBytes_succ (bytes : List UInt8) (start count : Nat) :
    readBytes bytes start (count + 1) =
      (bytes[start]?).bind fun b => (readBytes bytes (start + 1) count).map (b :: ·) := by
  unfold readBytes
  rw [List.range_succ_eq_map, List.mapM_cons, List.mapM_map]
  have hshift : (fun i => bytes[start + 1 + i]?) = (fun i => bytes[start + i]?) ∘ Nat.succ := by
    funext i
    simp only [Function.comp_apply]
    congr 1
    omega
  rw [hshift]
  cases bytes[start]? with
  | none => rfl
  | some b => cases List.mapM ((fun i => bytes[start + i]?) ∘ Nat.succ) (List.range count) <;> rfl

theorem readBytes_eq_some {bytes : List UInt8} {start count : Nat}
    (h : start + count ≤ bytes.length) :
    readBytes bytes start count = some ((bytes.drop start).take count) := by
  induction count generalizing start with
  | zero => rfl
  | succ count ih =>
    have hstart : start < bytes.length := by omega
    rw [readBytes_succ, ih (by omega), List.getElem?_eq_getElem hstart,
      List.drop_eq_getElem_cons hstart]
    rfl

theorem readBytes_isSome {bytes : List UInt8} {start count : Nat}
    (h : start + count ≤ bytes.length) : (readBytes bytes start count).isSome := by
  rw [readBytes_eq_some h]
  rfl

def StandsAt (bytes : List UInt8) (start : Nat) (text : List UInt8) : Prop :=
  text <+: bytes.drop start

theorem standsAt_zero (text after : List UInt8) : StandsAt (text ++ after) 0 text :=
  List.prefix_append text after

theorem standsAt_append {bytes text text' : List UInt8} {start : Nat} :
    StandsAt bytes start (text ++ text') ↔
      StandsAt bytes start text ∧ StandsAt bytes (start + text.length) text' := by
  constructor
  · rintro ⟨after, h⟩
    refine ⟨⟨text' ++ after, by rw [← h, List.append_assoc]⟩, after, ?_⟩
    rw [← List.drop_drop, ← h, List.append_assoc, List.drop_left]
  · rintro ⟨⟨after, h⟩, after', h'⟩
    refine ⟨after', ?_⟩
    rw [← List.drop_drop, ← h, List.drop_left] at h'
    rw [List.append_assoc, h', h]

theorem standsAt_cons {bytes text : List UInt8} {b : UInt8} {start : Nat} :
    StandsAt bytes start (b :: text) ↔ bytes[start]? = some b ∧
        StandsAt bytes (start + 1) text := by
  rw [← List.singleton_append, standsAt_append, List.length_singleton]
  refine and_congr_left fun _ => ?_
  rw [StandsAt, List.singleton_prefix_iff_head?_eq_some, List.head?_drop]

theorem StandsAt.readBytes {bytes text : List UInt8} {start count index : Nat}
    (h : StandsAt bytes start text) (hindex : index = start) (hcount : count = text.length) :
    readBytes bytes index count = some text := by
  subst hindex hcount
  induction text generalizing index with
  | nil => rfl
  | cons b text ih =>
    obtain ⟨hb, htext⟩ := standsAt_cons.mp h
    rw [List.length_cons, readBytes_succ, hb, ih htext]
    rfl

theorem length_of_readBytes {bytes text : List UInt8} {start count : Nat}
    (h : readBytes bytes start count = some text) : text.length = count := by
  rw [length_of_mapM h, List.length_range]

inductive Field
  | fixed (size : Nat)
  /-- A little-endian count of so many bytes, and then so many bytes for each item. -/
  | counted (width unit : Nat)
  deriving DecidableEq

def readCount (bytes : List UInt8) : Nat → Nat → Option Nat
  | _, 0 => some 0
  | start, width + 1 => do
      let low ← bytes[start]?
      let high ← readCount bytes (start + 1) width
      return low.toNat + 256 * high

def recordEnd (bytes : List UInt8) : List Field → Nat → Option Nat
  | [], position => some position
  | .fixed size :: fields, position => recordEnd bytes fields (position + size)
  | .counted width unit :: fields, position => do
      let count ← readCount bytes position width
      recordEnd bytes fields (position + width + unit * count)

theorem readCount_one {bytes : List UInt8} {start : Nat} {b : UInt8}
    (h : bytes[start]? = some b) : readCount bytes start 1 = some b.toNat := by
  simp [readCount, h]

theorem readCount_two {bytes : List UInt8} {start : Nat} {low high : UInt8}
    (hlow : bytes[start]? = some low) (hhigh : bytes[start + 1]? = some high) :
    readCount bytes start 2 = some (low.toNat + 256 * high.toNat) := by
  simp [readCount, hlow, hhigh]

theorem recordEnd_counted {bytes : List UInt8} {width unit position count : Nat}
    {fields : List Field} (h : readCount bytes position width = some count) :
    recordEnd bytes (.counted width unit :: fields) position =
      recordEnd bytes fields (position + width + unit * count) := by
  rw [recordEnd, h]
  rfl

theorem recordEnd_append (bytes : List UInt8) (fields fields' : List Field) (position : Nat) :
    recordEnd bytes (fields ++ fields') position =
      (recordEnd bytes fields position).bind (recordEnd bytes fields') := by
  induction fields generalizing position with
  | nil => rfl
  | cons field fields ih =>
    cases field with
    | fixed size => exact ih _
    | counted width unit =>
      rw [List.cons_append, recordEnd, recordEnd]
      cases readCount bytes position width with
      | none => rfl
      | some count => exact ih _

theorem le_of_recordEnd {bytes : List UInt8} {fields : List Field} {position stop : Nat}
    (h : recordEnd bytes fields position = some stop) : position ≤ stop := by
  induction fields generalizing position with
  | nil => exact (Option.some.inj h).le
  | cons field fields ih =>
    cases field with
    | fixed size =>
      have hrest := ih h
      omega
    | counted width unit =>
      obtain ⟨count, -, hrest⟩ := Option.bind_eq_some_iff.mp h
      have hle := ih hrest
      omega

/-! The next position in the form in which a reader of the record knows it. -/

theorem recordEnd_fixed {bytes : List UInt8} {size position : Nat} {fields : List Field}
    (next : Nat) (hnext : next = position + size) :
    recordEnd bytes (.fixed size :: fields) position = recordEnd bytes fields next := by
  rw [recordEnd, hnext]

theorem recordEnd_text {bytes : List UInt8} {position : Nat} {b : UInt8} {fields : List Field}
    (next : Nat) (h : bytes[position]? = some b) (hnext : next = position + 1 + b.toNat) :
    recordEnd bytes (.counted 1 1 :: fields) position = recordEnd bytes fields next := by
  rw [recordEnd_counted (readCount_one h), hnext, Nat.one_mul]

end Isobus.Lib
