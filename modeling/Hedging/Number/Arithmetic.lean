import Hedging.Number.Binary64

/-!
# The arithmetic of statistics

The operations that means and deviations are computed with, over any number type. Programs run with
`Float`; statements that need only a few laws of the operations hold for every number type that has
them.
-/

namespace Hedging

/-- Numbers that sums, means and deviations are computed with. -/
class Arithmetic (F : Type) where
  ofNat : Nat → F
  add : F → F → F
  sub : F → F → F
  mul : F → F → F
  div : F → F → F
  sqrt : F → F
  /-- The number itself if it is above zero, else zero. -/
  positivePart : F → F
  /-- The nearest whole number, halves away from zero, kept within the 64-bit words. -/
  nearest : F → Nat

instance : Arithmetic Float where
  ofNat := Float.ofNat
  add := Float.add
  sub := Float.sub
  mul := Float.mul
  div := Float.div
  sqrt := Float.sqrt
  positivePart x := if 0 < x then x else 0
  nearest x := (exact x).nearest

end Hedging
