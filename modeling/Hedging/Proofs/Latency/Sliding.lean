import Mathlib.Data.List.Rotate
import Hedging.Latency.Window

/-!
# The ring of samples is a sliding window

A window grows by appending and then overwrites the slot of its oldest sample. `Slides` says where
a window stands after a history of insertions without a word about the ring: the samples held are the
end of the history, and the sums are what `exchanges`, the list of insertions with the value that
each takes out, adds and takes away.

> `slides_over_history`: whatever was inserted into a fresh window with room for `c > 0` samples, the
> window holds the last `c` values in order, its head is the number of insertions modulo `c` and
> points into the ring, and every insertion took the value inserted `c` insertions earlier out of
> both sums, if there is one, and put its own value in.

Growth, the moment at which the ring is full and every later turn are one step lemma, `Slides.add`:
read from the head on, a full ring is the list of its slots rotated by the head, and overwriting the
slot at the head and moving on is dropping the first of that list and appending to it (`rotate_set`).
-/

namespace Hedging

/-- Overwriting the slot at which a rotated list starts, and starting one slot later, drops the
first of the list and appends the new value. -/
theorem rotate_set {α : Type} {slots : List α} {h : Nat} (hh : h < slots.length) (a : α) :
    (slots.set h a).rotate (h + 1) = (slots.rotate h).tail ++ [a] := by
  rw [List.rotate_eq_drop_append_take (by rw [List.length_set]; exact hh),
    List.rotate_eq_drop_append_take (Nat.le_of_lt hh)]
  have dropped : (slots.set h a).drop (h + 1) = slots.drop (h + 1) :=
    List.drop_set_of_lt (Nat.lt_succ_self h)
  have taken : (slots.set h a).take (h + 1) = slots.take h ++ [a] := by
    rw [List.take_set, List.take_add_one, List.getElem?_eq_getElem hh]
    have : (slots.take h).length = h := List.length_take_of_le (Nat.le_of_lt hh)
    rw [List.set_append_right _ _ (by omega)]
    simp [this]
  have tail : (slots.drop h ++ slots.take h).tail = slots.drop (h + 1) ++ slots.take h := by
    rw [List.drop_eq_getElem_cons hh]
    rfl
  rw [dropped, taken, tail, List.append_assoc]

namespace Window

variable {F : Type}

/-! ## Reading the ring -/

/-- A growing ring is read from its first slot on. -/
theorem held_of_room {w : Window F} (room : w.size < w.capacity) :
    w.held = w.samples.toList :=
  if_pos room

/-- A full ring is read from its head on. -/
theorem held_of_full {w : Window F} (full : ¬ w.size < w.capacity)
    (inside : w.head < w.samples.size) : w.held = w.samples.toList.rotate w.head := by
  have cut : w.held = w.samples.toList.drop w.head ++ w.samples.toList.take w.head := if_neg full
  rw [cut, List.rotate_eq_drop_append_take (by simpa using Nat.le_of_lt inside)]

/-- Nothing goes out of a window that still grows. -/
theorem evicted_of_room {w : Window F} (room : w.size < w.capacity) : w.evicted = none :=
  if_pos room

/-- What goes out of a full window is the oldest sample held. -/
theorem evicted_of_full {w : Window F} (full : ¬ w.size < w.capacity)
    (inside : w.head < w.samples.size) : w.evicted = w.held.head? := by
  have slot : w.evicted = w.samples[w.head]? := if_neg full
  rw [held_of_full full inside, slot,
    List.rotate_eq_drop_append_take (by simpa using Nat.le_of_lt inside),
    List.drop_eq_getElem_cons (by simpa using inside)]
  simp [inside]

/-- The slot in which the `i`-th of the samples held lies. -/
def slot (w : Window F) (i : Nat) : Nat :=
  if w.size < w.capacity then i else (i + w.head) % w.capacity

/-- Slot by slot, what a window holds. -/
theorem getElem?_slot {w : Window F} (exact : ¬ w.size < w.capacity → w.samples.size = w.capacity)
    (inside : ¬ w.size < w.capacity → w.head < w.samples.size) {i : Nat} (hi : i < w.size) :
    w.samples[w.slot i]? = w.held[i]? := by
  by_cases room : w.size < w.capacity
  · rw [slot, if_pos room, held_of_room room, Array.getElem?_toList]
  · have there : i < w.samples.toList.length := by rw [Array.length_toList]; exact hi
    rw [slot, if_neg room, held_of_full room (inside room), List.getElem?_rotate there,
      Array.length_toList, exact room, Array.getElem?_toList]

variable [Arithmetic F]

open Arithmetic (ofNat sub mul)

/-! ## What an insertion does to a sum -/

/-- A sum after an insertion: what goes out is taken away first, then what comes in is added. -/
def exchange (weight : UInt32 → F) (total : F) : Option UInt32 × UInt32 → F
  | (none, new) => Arithmetic.add total (weight new)
  | (some old, new) => Arithmetic.add (sub total (weight old)) (weight new)

/-- A sample as it enters the sum. -/
def plain (value : UInt32) : F := ofNat value.toNat

/-- A sample as it enters the sum of squares. -/
def square (value : UInt32) : F := mul (plain value) (plain value)

/-- The insertions of a history: each value with the one that it takes out of a window with room for
`c`, the value inserted `c` insertions earlier. -/
def exchanges (c : Nat) (values : List UInt32) : List (Option UInt32 × UInt32) :=
  (List.replicate c none ++ values.map some).zip values

/-- What the insertion after a history takes out of a window with room for `c`. -/
def leaving (c : Nat) (values : List UInt32) : Option UInt32 :=
  if values.length < c then none else values[values.length - c]?

theorem exchanges_append {c : Nat} (hc : 0 < c) (values : List UInt32) (value : UInt32) :
    exchanges c (values ++ [value]) = exchanges c values ++ [(leaving c values, value)] := by
  -- one more value can only be paired with what is already in front of it, as `c` is not zero
  have there : (List.replicate c none ++ values.map some)[values.length]?
      = some (leaving c values) := by
    rw [List.getElem?_append, leaving]
    by_cases hn : values.length < c
    · simp [hn]
    · have : values.length - c < values.length := by omega
      simp [hn, this]
  apply List.ext_getElem?
  intro i
  rw [exchanges, exchanges, List.getElem?_append, List.length_zip]
  have len : min (List.replicate c none ++ values.map some).length values.length
      = values.length := by simp
  rw [len, List.map_append, ← List.append_assoc]
  rcases Nat.lt_trichotomy i values.length with hi | rfl | hi
  · rw [if_pos hi]
    simp only [List.zip, List.getElem?_zipWith]
    rw [List.getElem?_append_left (by simp; omega), List.getElem?_append_left hi]
  · rw [if_neg (Nat.lt_irrefl _)]
    simp only [List.zip, List.getElem?_zipWith]
    rw [List.getElem?_append_left (by simp; omega), there]
    simp
  · rw [if_neg (by omega), List.getElem?_eq_none (by simp; omega),
      List.getElem?_eq_none (by simp; omega)]

/-- Every value is put in once, in order. -/
theorem exchanges_map_snd (c : Nat) (values : List UInt32) :
    (exchanges c values).map Prod.snd = values := by
  rw [exchanges, List.map_snd_zip (by simp)]

/-- All but the last `c` values are taken out once, in order. -/
theorem exchanges_filterMap_fst {c : Nat} (hc : 0 < c) (values : List UInt32) :
    (exchanges c values).filterMap Prod.fst = values.take (values.length - c) := by
  induction values using List.reverseRecOn with
  | nil => simp [exchanges]
  | append_singleton values value ih =>
    rw [exchanges_append hc, List.filterMap_append, ih, List.length_append, List.length_singleton,
      leaving]
    split
    · next hn => simp [show values.length - c = 0 by omega, show values.length + 1 - c = 0 by omega]
    · next hn =>
      have hlt : values.length - c < values.length := by omega
      rw [List.getElem?_eq_getElem hlt, show values.length + 1 - c = values.length - c + 1 by omega,
        List.take_append_of_le_length (by omega), List.take_add_one, List.getElem?_eq_getElem hlt]
      simp

/-! ## Where a window stands after a history -/

/-- The window `w` with room for `c` samples, after the insertions `values`. -/
structure Slides (c : Nat) (values : List UInt32) (w : Window F) : Prop where
  capacity : w.capacity = c
  size : w.size = min values.length c
  head : w.head = values.length % c
  /-- The slot that a full window is about to overwrite lies in the ring. -/
  inBounds : w.size = c → w.head < w.samples.size
  /-- Read from the oldest on, the ring is the end of the history. -/
  held : w.held = values.drop (values.length - c)
  evicted : w.evicted = leaving c values
  sum : w.sum = (exchanges c values).foldl (exchange plain) (ofNat 0)
  sumSquares : w.sumSquares = (exchanges c values).foldl (exchange square) (ofNat 0)

/-- With its head in the ring, a window moves its sums by what it says it takes out. -/
theorem sums_add {w : Window F} (inside : ¬ w.size < w.capacity → w.head < w.samples.size)
    (value : UInt32) :
    (w.add value).sum = exchange plain w.sum (w.evicted, value) ∧
      (w.add value).sumSquares = exchange square w.sumSquares (w.evicted, value) := by
  by_cases room : w.samples.size < w.capacity
  · simp [add, evicted, room, exchange, plain, square]
  · have bound := inside room
    simp [add, evicted, room, exchange, plain, square, bound]

/-- A fresh window. -/
theorem Slides.empty {c : Nat} (hc : 0 < c) : Slides c [] (Window.empty c : Window F) where
  capacity := rfl
  size := by simp [Window.empty, Window.size]
  head := by simp [Window.empty]
  inBounds := by simp [Window.empty, Window.size, Nat.ne_of_lt hc]
  held := by simp [Window.empty, Window.held, hc]
  evicted := by simp [Window.empty, Window.evicted, leaving, hc]
  sum := by simp [Window.empty, exchanges]
  sumSquares := by simp [Window.empty, exchanges]

/-- A window that still grows appends. -/
theorem held_add_of_room {w : Window F} (room : w.size < w.capacity)
    (head : w.head = w.size % w.capacity) (value : UInt32) :
    (w.add value).held = w.held ++ [value] := by
  have pushed : (w.add value).samples = w.samples.push value := by
    simp [add, show w.samples.size < w.capacity from room]
  have appended : (w.add value).samples.toList = w.held ++ [value] := by
    rw [pushed, held_of_room room, Array.toList_push]
  by_cases still : (w.add value).size < (w.add value).capacity
  · rw [held_of_room still, appended]
  · -- the ring has just become full, and the head is back at the first slot
    have last : w.size + 1 = w.capacity := by
      rw [size_add, if_pos room, capacity_add] at still
      omega
    have first : (w.add value).head = 0 := by
      rw [head_add, head, Nat.mod_eq_of_lt room, last, Nat.mod_self]
    rw [held_of_full still (by rw [first, pushed, Array.size_push]; exact Nat.succ_pos _), first,
      List.rotate_zero, appended]

/-- A full window gives up its oldest sample and appends. -/
theorem held_add_of_full {w : Window F} (full : ¬ w.size < w.capacity)
    (exact : w.samples.size = w.capacity) (inside : w.head < w.samples.size) (value : UInt32) :
    (w.add value).held = w.held.tail ++ [value] := by
  have inList : w.head < w.samples.toList.length := by simpa using inside
  have overwritten : (w.add value).samples.toList = w.samples.toList.set w.head value := by
    simp [add, show ¬ w.samples.size < w.capacity from full]
  have turned : (w.add value).head = (w.head + 1) % (w.add value).samples.toList.length := by
    rw [overwritten, head_add, List.length_set, Array.length_toList, exact]
  have size : (w.add value).samples.size = w.samples.size := by
    simp [add, show ¬ w.samples.size < w.capacity from full]
  rw [held_of_full full inside, held_of_full (by simpa [Window.size, size] using full)
    (by rw [turned, Array.length_toList]; exact Nat.mod_lt _ (by omega)), turned, List.rotate_mod,
    overwritten, rotate_set inList]

section
variable {c : Nat} {values : List UInt32} {w : Window F}

/-- A window that does not grow is full. -/
theorem Slides.exact (h : Slides c values w) (full : ¬ w.size < w.capacity) :
    w.samples.size = w.capacity := by
  have size := h.size
  rw [Window.size] at size full
  rw [h.capacity] at full ⊢
  omega

theorem Slides.inside (h : Slides c values w) (full : ¬ w.size < w.capacity) :
    w.head < w.samples.size :=
  h.inBounds ((h.exact full).trans h.capacity)

/-- One insertion. -/
theorem Slides.add (hc : 0 < c) (h : Slides c values w) (value : UInt32) :
    Slides c (values ++ [value]) (w.add value) := by
  have size : (w.add value).size = min (values ++ [value]).length c := by
    rw [size_add, h.size, h.capacity, List.length_append, List.length_singleton]
    split <;> omega
  have head : (w.add value).head = (values ++ [value]).length % c := by
    rw [head_add, h.head, h.capacity, Nat.mod_add_mod, List.length_append, List.length_singleton]
  have inBounds : (w.add value).size = c → (w.add value).head < (w.add value).samples.size := by
    intro full
    have bound := Nat.mod_lt (w.head + 1) hc
    rw [head_add, h.capacity]
    exact Nat.lt_of_lt_of_eq bound full.symm
  have held : (w.add value).held
      = (values ++ [value]).drop ((values ++ [value]).length - c) := by
    rw [List.length_append, List.length_singleton]
    by_cases room : w.size < w.capacity
    · have few : values.length < c := by
        rw [h.size, h.capacity] at room
        omega
      rw [held_add_of_room room (by rw [h.head, h.capacity, h.size, Nat.min_eq_left few.le]),
        h.held, show values.length - c = 0 by omega, show values.length + 1 - c = 0 by omega]
      rfl
    · have many : c ≤ values.length := by
        rw [h.size, h.capacity] at room
        omega
      rw [held_add_of_full room (h.exact room) (h.inside room), h.held, List.tail_drop,
        List.drop_append_of_le_length (by omega),
        show values.length + 1 - c = values.length - c + 1 by omega]
  refine ⟨by rw [capacity_add, h.capacity], size, head, inBounds, held, ?_, ?_, ?_⟩
  · by_cases room : (w.add value).size < (w.add value).capacity
    · have few : (values ++ [value]).length < c := by
        rw [size, capacity_add, h.capacity] at room
        omega
      rw [evicted_of_room room, leaving, if_pos few]
    · have many : ¬ (values ++ [value]).length < c := by
        rw [size, capacity_add, h.capacity] at room
        omega
      have full : (w.add value).size = c := by omega
      rw [evicted_of_full room (inBounds full), held, List.head?_drop, leaving, if_neg many]
  · rw [(sums_add h.inside value).1, h.sum, h.evicted, exchanges_append hc, List.foldl_append]
    rfl
  · rw [(sums_add h.inside value).2, h.sumSquares, h.evicted, exchanges_append hc, List.foldl_append]
    rfl

end

/-- Any number of insertions into a fresh window. -/
theorem Slides.addAll {c : Nat} (hc : 0 < c) (values : List UInt32) :
    Slides c values ((Window.empty c : Window F).addAll values) := by
  induction values using List.reverseRecOn with
  | nil => exact Slides.empty hc
  | append_singleton values value ih =>
    have last : (Window.empty c : Window F).addAll (values ++ [value])
        = ((Window.empty c : Window F).addAll values).add value := by
      simp [Window.addAll]
    rw [last]
    exact ih.add hc value

/-- **A window slides over its history.** After any insertions into a fresh window with room for
`c > 0` samples: as many samples are held as were inserted, at most `c`; the head is the number of
insertions modulo `c`, and the slot of the sample that a full window gives up exists; slot by slot
from the oldest on, the ring is the end of the history. The next insertion takes the value inserted
`c` insertions earlier out of both sums, in front of putting its own in, and nothing out if there is
none; so all values were put in once, in order, and all but the last `c` were taken out once. -/
theorem slides_over_history {c : Nat} (hc : 0 < c) (values : List UInt32) :
    Slides c values ((Window.empty c : Window F).addAll values) ∧
    ((Window.empty c : Window F).addAll values).head < c ∧
    (∀ i < ((Window.empty c : Window F).addAll values).size,
      ((Window.empty c : Window F).addAll values).samples[
          ((Window.empty c : Window F).addAll values).slot i]? = values[values.length - c + i]?) ∧
    (∀ value,
      (((Window.empty c : Window F).addAll values).add value).sum
          = exchange plain ((Window.empty c : Window F).addAll values).sum
              (if values.length < c then none else values[values.length - c]?, value) ∧
      (((Window.empty c : Window F).addAll values).add value).sumSquares
          = exchange square ((Window.empty c : Window F).addAll values).sumSquares
              (if values.length < c then none else values[values.length - c]?, value)) ∧
    (exchanges c values).map Prod.snd = values ∧
    (exchanges c values).filterMap Prod.fst = values.take (values.length - c) := by
  have h : Slides c values ((Window.empty c : Window F).addAll values) := Slides.addAll hc values
  refine ⟨h, ?_, ?_, ?_, exchanges_map_snd c values, exchanges_filterMap_fst hc values⟩
  · rw [h.head]
    exact Nat.mod_lt _ hc
  · intro i hi
    rw [getElem?_slot h.exact h.inside hi, h.held, List.getElem?_drop]
  · intro value
    rw [(sums_add h.inside value).1, (sums_add h.inside value).2, h.evicted]
    exact ⟨rfl, rfl⟩

/-- Seven insertions into a window of three turn its ring twice. -/
theorem slides_over_seven :
    0 < 3 ∧ Slides 3 [10, 20, 30, 40, 50, 60, 70]
        ((Window.empty 3 : Window Float).addAll [10, 20, 30, 40, 50, 60, 70]) ∧
      ((Window.empty 3 : Window Float).addAll [10, 20, 30, 40, 50, 60, 70]).samples
        = #[70, 50, 60] ∧
      ((Window.empty 3 : Window Float).addAll [10, 20, 30, 40, 50, 60, 70]).head = 1 ∧
      exchanges 3 [10, 20, 30, 40, 50, 60, 70]
        = [(none, 10), (none, 20), (none, 30), (some 10, 40), (some 20, 50), (some 30, 60),
          (some 40, 70)] :=
  ⟨by decide, (slides_over_history (by decide) _).1, by rfl, by rfl, by decide⟩

end Window

end Hedging
