import Hedging.Number.Binary64

/-!
# Percentiles

The percentile of some values is the one at a rank in their order. The rank is a share of the last
index, rounded to the nearest whole number; percentages outside of 0 to 100 lead to the first or the
last value.
-/

namespace Hedging

/-- The rank of a percentile among `n` values, counted from zero and not yet capped. -/
def percentileRank (percent : Float) (n : Nat) : Nat :=
  (exact (percent / 100 * Float.ofNat (n - 1))).nearest

/-- The percentile of values in their order, and a default if there are none. -/
def percentileOf {α : Type} (sorted : List α) (percent : Float) (default : α) : α :=
  sorted.getD (min (percentileRank percent sorted.length) (sorted.length - 1)) default

/-- If there are values, a percentile is one of them. -/
theorem percentileOf_mem {α : Type} {sorted : List α} (h : sorted ≠ []) (percent : Float)
    (default : α) : percentileOf sorted percent default ∈ sorted := by
  have hlen := List.length_pos_iff.mpr h
  rw [percentileOf, List.getD_eq_getElem?_getD,
    List.getElem?_eq_getElem (Nat.lt_of_le_of_lt (Nat.min_le_right _ _) (by omega))]
  exact List.getElem_mem _

end Hedging
