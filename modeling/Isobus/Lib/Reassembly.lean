import Mathlib.Data.List.Basic
import Mathlib.Data.List.GetD

/-!
# Cutting a message into segments and putting it together again

The sender of a segmented transfer reads fixed-size windows of the message and pads the last one;
the receiver copies each into a buffer.
-/

namespace Isobus.Lib

variable {α : Type}

/-- The elements `start .. start + size` of `data`, padded behind its end. -/
def segment (pad : α) (data : List α) (start size : Nat) : List α :=
  (List.range size).map fun j => data.getD (start + j) pad

/-- Write `chunk` over the elements of `buf` from position `offset` on; the
length of the buffer never changes. -/
def overwrite (buf : List α) (offset : Nat) (chunk : List α) : List α :=
  (buf.take offset ++ chunk ++ buf.drop (offset + chunk.length)).take buf.length

def Filled (received buf : List α) : Prop :=
  ∀ i, i < received.length → i < buf.length → buf[i]? = received[i]?

@[simp] theorem length_segment (pad : α) (data : List α) (start size : Nat) :
    (segment pad data start size).length = size := by
  simp [segment]

theorem getElem?_segment (pad : α) (data : List α) (start size i : Nat) (h : i < size) :
    (segment pad data start size)[i]? = some (data.getD (start + i) pad) := by
  simp [segment, h]

@[simp] theorem segment_zero (pad : α) (data : List α) (start : Nat) :
    segment pad data start 0 = [] := rfl

theorem segment_append (pad : α) (data : List α) (start a b : Nat) :
    segment pad data start a ++ segment pad data (start + a) b =
      segment pad data start (a + b) := by
  simp only [segment, List.range_add, List.map_append, List.map_map]
  congr 1
  apply List.map_congr_left
  intro j _
  simp [Nat.add_assoc]

theorem take_segment_zero (pad : α) (data : List α) (size : Nat) (h : data.length ≤ size) :
    (segment pad data 0 size).take data.length = data := by
  apply List.ext_getElem?
  intro i
  rw [List.getElem?_take]
  split_ifs with hi
  · rw [getElem?_segment pad data 0 size i (by omega), Nat.zero_add,
      List.getD_eq_getElem data pad hi, List.getElem?_eq_getElem hi]
  · exact (List.getElem?_eq_none (by omega)).symm

@[simp] theorem length_overwrite (buf : List α) (offset : Nat) (chunk : List α) :
    (overwrite buf offset chunk).length = buf.length := by
  simp only [overwrite, List.length_take, List.length_append, List.length_drop]
  omega

theorem getElem?_overwrite_lt (buf : List α) (offset : Nat) (chunk : List α) (i : Nat)
    (h : i < offset) : (overwrite buf offset chunk)[i]? = buf[i]? := by
  by_cases hbuf : i < buf.length
  · rw [overwrite, List.getElem?_take_of_lt hbuf, List.append_assoc,
      List.getElem?_append_left (by rw [List.length_take]; omega), List.getElem?_take_of_lt h]
  · rw [List.getElem?_eq_none (by rw [length_overwrite]; omega), List.getElem?_eq_none (by omega)]

theorem getElem?_overwrite_mem (buf : List α) (offset : Nat) (chunk : List α) (i : Nat)
    (hlo : offset ≤ i) (hhi : i < offset + chunk.length) (hbuf : i < buf.length) :
    (overwrite buf offset chunk)[i]? = chunk[i - offset]? := by
  have htake : (buf.take offset).length = offset := by
    rw [List.length_take]
    omega
  rw [overwrite, List.getElem?_take_of_lt hbuf,
    List.getElem?_append_left (by rw [List.length_append, htake]; omega),
    List.getElem?_append_right (by omega), htake]

@[simp] theorem filled_nil (buf : List α) : Filled [] buf := by
  intro i hi
  simp at hi

/-- Copying the next chunk, cut to the space that is left, keeps the buffer
filled with what was received. -/
theorem Filled.overwrite {received buf : List α} (h : Filled received buf)
    (chunk : List α) (n : Nat) (hn : n = min chunk.length (buf.length - received.length)) :
    Filled (received ++ chunk) (overwrite buf received.length (chunk.take n)) := by
  intro i hi hbuf
  rw [length_overwrite] at hbuf
  by_cases hlt : i < received.length
  · rw [getElem?_overwrite_lt _ _ _ _ hlt, List.getElem?_append_left hlt]
    exact h i hlt hbuf
  · rw [List.length_append] at hi
    have hin : i - received.length < n := by omega
    have htake : (chunk.take n).length = n := by
      rw [List.length_take]
      omega
    rw [getElem?_overwrite_mem _ _ _ _ (by omega) (by omega) hbuf,
      List.getElem?_append_right (by omega), List.getElem?_take_of_lt hin]

theorem Filled.eq_take {received buf : List α} (h : Filled received buf)
    (hlen : buf.length ≤ received.length) : buf = received.take buf.length := by
  apply List.ext_getElem?
  intro i
  rw [List.getElem?_take]
  split_ifs with hi
  · exact h i (by omega) hi
  · exact List.getElem?_eq_none (by omega)

/-- A buffer filled with all the segments of a message of its own length is
that message. -/
theorem Filled.eq_of_segment {pad : α} {data buf : List α} {size : Nat}
    (h : Filled (segment pad data 0 size) buf) (hlen : buf.length = data.length)
    (hsize : data.length ≤ size) : buf = data := by
  have htake := h.eq_take (by rw [length_segment]; omega)
  rw [htake, hlen, take_segment_zero pad data size hsize]

/-- In a list of chunks of length `n` the element `i` of the concatenation is the element `i % n` of
chunk `i / n`. -/
theorem getElem?_flatten_of_length {chunks : List (List α)} {n : Nat} (hn : 0 < n)
    (hlen : ∀ c ∈ chunks, c.length = n) (i : Nat) :
    chunks.flatten[i]? = (chunks[i / n]?).bind fun chunk => chunk[i % n]? := by
  induction chunks generalizing i with
  | nil => simp
  | cons c cs ih =>
    have hc : c.length = n := hlen c (by simp)
    have hcs : ∀ d ∈ cs, d.length = n := fun d hd => hlen d (by simp [hd])
    rw [List.flatten_cons]
    by_cases hi : i < n
    · rw [List.getElem?_append_left (by omega), Nat.div_eq_of_lt hi, Nat.mod_eq_of_lt hi]
      rfl
    · have hsub : i = (i - n) + n := by omega
      have hdiv : i / n = (i - n) / n + 1 := by
        rw [hsub, Nat.add_div_right _ hn]
        simp
      have hmod : i % n = (i - n) % n := by
        rw [hsub, Nat.add_mod_right]
        simp
      rw [List.getElem?_append_right (by omega), hc, ih hcs, hdiv, hmod]
      rfl

theorem length_flatten_of_length {chunks : List (List α)} {n : Nat}
    (hlen : ∀ c ∈ chunks, c.length = n) : chunks.flatten.length = n * chunks.length := by
  induction chunks with
  | nil => simp
  | cons c cs ih =>
    rw [List.flatten_cons, List.length_append, hlen c (by simp),
      ih fun d hd => hlen d (by simp [hd]), List.length_cons, Nat.mul_succ]
    omega

/-- The state of a reassembly: packets `1 .. m` of `n` elements each are in the
buffer, in order. -/
structure Assembled (n : Nat) (packets : List (Nat × List α)) (buf : List α) : Prop where
  numbers : packets.map Prod.fst = List.range' 1 packets.length
  sizes : ∀ p ∈ packets, p.2.length = n
  filled : Filled (packets.map Prod.snd).flatten buf

/-- The result of a reassembly: `length` elements of the packets `1 .. ⌈length / n⌉`, received in
order, and nothing else. -/
structure Intact (n length : Nat) (packets : List (Nat × List α)) (data : List α) : Prop where
  numbers : packets.map Prod.fst = List.range' 1 ((length + (n - 1)) / n)
  length_eq : data.length = length
  bytes : ∀ k < length, data[k]? = packets[k / n]?.bind fun p => p.2[k % n]?

namespace Assembled

variable {n : Nat} {packets : List (Nat × List α)} {buf : List α}

theorem nil (n : Nat) (buf : List α) : Assembled n [] buf where
  numbers := rfl
  sizes := by simp
  filled := filled_nil buf

theorem length_flatten (h : Assembled n packets buf) :
    (packets.map Prod.snd).flatten.length = n * packets.length := by
  have hsizes : ∀ c ∈ packets.map Prod.snd, c.length = n := by
    intro c hc
    obtain ⟨p, hp, rfl⟩ := List.mem_map.mp hc
    exact h.sizes p hp
  rw [length_flatten_of_length hsizes, List.length_map]

theorem concat (h : Assembled n packets buf) {payload : List α} (hlen : payload.length = n) :
    Assembled n (packets ++ [(packets.length + 1, payload)])
      (overwrite buf (n * packets.length)
        (payload.take (min n (buf.length - n * packets.length)))) where
  numbers := by
    rw [List.map_append, h.numbers, List.length_append, List.length_singleton,
      List.range'_1_concat, Nat.add_comm 1]
    rfl
  sizes := by
    intro p hp
    rcases List.mem_append.mp hp with hp | hp
    · exact h.sizes p hp
    · obtain rfl := List.mem_singleton.mp hp
      exact hlen
  filled := by
    have hfilled := h.filled.overwrite payload
      (min n (buf.length - n * packets.length)) (by rw [hlen, h.length_flatten])
    rw [h.length_flatten] at hfilled
    rw [List.map_append, List.flatten_append]
    simpa using hfilled

theorem eq_take (h : Assembled n packets buf) (hn : 0 < n)
    (hcount : packets.length = (buf.length + (n - 1)) / n) :
    buf = (packets.map Prod.snd).flatten.take buf.length := by
  apply h.filled.eq_take
  have hdiv := Nat.div_add_mod (buf.length + (n - 1)) n
  have hmod := Nat.mod_lt (buf.length + (n - 1)) hn
  rw [h.length_flatten, hcount]
  omega

theorem intact (h : Assembled n packets buf) (hn : 0 < n)
    (hcount : packets.length = (buf.length + (n - 1)) / n) :
    Intact n buf.length packets buf where
  numbers := by rw [h.numbers, hcount]
  length_eq := rfl
  bytes := by
    intro k hk
    have hcover : buf.length ≤ n * packets.length := by
      have hdiv := Nat.div_add_mod (buf.length + (n - 1)) n
      have hmod := Nat.mod_lt (buf.length + (n - 1)) hn
      rw [hcount]
      omega
    have hsizes : ∀ c ∈ packets.map Prod.snd, c.length = n := by
      intro c hc
      obtain ⟨p, hp, rfl⟩ := List.mem_map.mp hc
      exact h.sizes p hp
    rw [h.filled k (by rw [h.length_flatten]; omega) hk,
      getElem?_flatten_of_length hn hsizes, List.getElem?_map]
    cases packets[k / n]? <;> rfl

end Assembled

theorem Intact.length_packets {n length : Nat} {packets : List (Nat × List α)} {data : List α}
    (h : Intact n length packets data) : packets.length = (length + (n - 1)) / n := by
  have hlen := congrArg List.length h.numbers
  simpa using hlen

end Isobus.Lib
