import Hedging.Number.Arithmetic

/-!
# A sliding window of latency samples

The window holds the last `capacity` samples in a ring and keeps their sum and the sum of their
squares, so that mean and deviation cost the same whatever is held. A full window first takes the
oldest sample out of both sums and then adds the new one, in that order.

The memory of a window is reserved at once, so there is no window too large for one block of it
(`reserve?_eq_some_iff`).

`held` reads the ring from the oldest sample on; `size_add_le` says that the ring never outgrows its
capacity.
-/

namespace Hedging

/-- A ring of the most recent samples with running sums. -/
structure Window (F : Type) where
  capacity : Nat
  samples : Array UInt32
  /-- The slot written next; in a full window it holds the oldest sample. -/
  head : Nat
  sum : F
  sumSquares : F

namespace Window

variable {F : Type} [Arithmetic F]

open Arithmetic (ofNat sub mul div sqrt positivePart)

/-- The number of samples a window holds unless told otherwise. -/
def defaultCapacity : Nat := 256

/-- A window without samples. -/
def empty (capacity : Nat) : Window F :=
  { capacity, samples := #[], head := 0, sum := ofNat 0, sumSquares := ofNat 0 }

/-- The greatest number of bytes one block of memory can have. -/
def maxBlock : Nat := 0x7fffffffffffffff

/-- Can the samples of a window, four bytes each, lie in one block of memory? -/
def fits (capacity : Nat) : Bool := 4 * capacity ≤ maxBlock

/-- What is said of a window that is too large. -/
def overflowMessage : String := "capacity overflow"

/-- A window without samples and the memory for it, if there can be such a block. -/
def reserve? (capacity : Nat) : Option (Window F) :=
  if fits capacity then some (empty capacity) else none

theorem reserve?_eq_some_iff {capacity : Nat} {w : Window F} :
    reserve? capacity = some w ↔ 4 * capacity ≤ maxBlock ∧ w = empty capacity := by
  by_cases h : 4 * capacity ≤ maxBlock <;> simp [reserve?, fits, h, eq_comm]

/-- Number of samples held. -/
def size (w : Window F) : Nat := w.samples.size

/-- Has no sample been recorded yet? -/
def isEmpty (w : Window F) : Bool := w.samples.isEmpty

/-- The samples held, the oldest first. -/
def held (w : Window F) : List UInt32 :=
  if w.samples.size < w.capacity then w.samples.toList
  else w.samples.toList.drop w.head ++ w.samples.toList.take w.head

/-- The sample that the next insertion takes out. -/
def evicted (w : Window F) : Option UInt32 :=
  if w.samples.size < w.capacity then none else w.samples[w.head]?

/-- Inserts a sample; a full window gives up its oldest one. -/
def add (w : Window F) (value : UInt32) : Window F :=
  let v : F := ofNat value.toNat
  let next := (w.head + 1) % w.capacity
  if w.samples.size < w.capacity then
    { w with
      samples := w.samples.push value
      head := next
      sum := Arithmetic.add w.sum v
      sumSquares := Arithmetic.add w.sumSquares (mul v v) }
  else
    let old : F := ofNat (w.samples.getD w.head 0).toNat
    { w with
      samples := w.samples.setIfInBounds w.head value
      head := next
      sum := Arithmetic.add (sub w.sum old) v
      sumSquares := Arithmetic.add (sub w.sumSquares (mul old old)) (mul v v) }

/-- Inserts samples one after another. -/
def addAll (w : Window F) (values : List UInt32) : Window F := values.foldl add w

/-- Mean of the samples held, zero if there are none. -/
def mean (w : Window F) : F :=
  if w.isEmpty then ofNat 0 else div w.sum (ofNat w.size)

/-- Population standard deviation of the samples held, zero if there are none. Rounding can push the
variance a little below zero, which counts as zero. -/
def stdev (w : Window F) : F :=
  if w.isEmpty then ofNat 0
  else sqrt (positivePart (sub (div w.sumSquares (ofNat w.size)) (mul w.mean w.mean)))

@[simp] theorem capacity_add (w : Window F) (value : UInt32) :
    (w.add value).capacity = w.capacity := by
  unfold add
  split <;> rfl

/-- A sample makes the ring longer exactly while there is room. -/
theorem size_add (w : Window F) (value : UInt32) :
    (w.add value).size = if w.size < w.capacity then w.size + 1 else w.size := by
  unfold add size
  split <;> simp

theorem size_add_le {w : Window F} (h : w.size ≤ w.capacity) (value : UInt32) :
    (w.add value).size ≤ w.capacity := by
  rw [size_add]
  split <;> omega

@[simp] theorem head_add (w : Window F) (value : UInt32) :
    (w.add value).head = (w.head + 1) % w.capacity := by
  unfold add
  split <;> rfl

end Window

end Hedging
