import Hedging.Time
import Hedging.Number.Powers
import Hedging.Number.Rounding

/-!
# Durations in units

A duration is written in the greatest of seconds, milliseconds, microseconds and nanoseconds that it
reaches, as a decimal number with the unit behind it: with all its places, or with a fixed number of
them. `unit_le` says that the number in front of the unit is at least one, the empty span apart.
-/

namespace Hedging.Duration

/-- The unit of a duration: its name, and how many nanoseconds it has. -/
def unit (d : Duration) : String × Nat :=
  if 1000000000 ≤ d.nanos then ("s", 1000000000)
  else if 1000000 ≤ d.nanos then ("ms", 1000000)
  else if 1000 ≤ d.nanos then ("µs", 1000)
  else ("ns", 1)

theorem unit_le {d : Duration} (h : d ≠ .zero) : d.unit.2 ≤ d.nanos := by
  have hpos : d.nanos ≠ 0 := by
    intro hz
    apply h
    cases d
    simpa [zero] using hz
  unfold unit
  split
  · assumption
  · split
    · assumption
    · split
      · assumption
      · exact Nat.one_le_iff_ne_zero.mpr hpos

/-- A duration with so many places, the exact value rounded and a half taken to the even digit. -/
def inUnits (places : Nat) (d : Duration) : String :=
  let (name, nanos) := d.unit
  let ds := digitsPadded (places + 1) (roundHalfEven (d.nanos * tenTo places) nanos)
  let whole := ds.take (ds.length - places)
  let part := ds.drop (ds.length - places)
  String.ofList (if places = 0 then whole else whole ++ '.' :: part) ++ name

/-- The places that a duration needs to be written exactly. -/
def neededPlaces (d : Duration) : Nat :=
  ((List.range 9).find? fun places => d.nanos * tenTo places % d.unit.2 = 0).getD 9

/-- A duration with as many places as it needs. -/
def inUnitsExact (d : Duration) : String := d.inUnits d.neededPlaces

end Hedging.Duration
