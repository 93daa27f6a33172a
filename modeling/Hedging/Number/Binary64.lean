import Hedging.Number.Powers

/-!
# Binary64 numbers, read exactly

`Binary64` keeps a number by its bit pattern, so that nothing is lost on the way in or out: a NaN
keeps its sign, and `order` sorts every pattern, NaNs and signed zeros included. `exact` reads a
pattern as what it stands for, a whole number times a power of two; from there on rounding is
arithmetic of natural numbers. `nearest_le` and `truncated_le` say that a conversion never leaves
the 64-bit words.
-/

namespace Hedging

/-- A binary64 number, by its bit pattern. -/
structure Binary64 where
  bits : UInt64
deriving DecidableEq, Repr, Inhabited

/-- What a bit pattern stands for: no number, an infinity, or `mantissa * 2 ^ exponent` with a
sign. -/
inductive Exact
  | nan
  | infinite (negative : Bool)
  | finite (negative : Bool) (mantissa : Nat) (exponent : Int)
deriving DecidableEq, Repr

namespace Exact

/-- The least exponent of a binary64 number whose mantissa is whole. -/
def leastExponent : Int := -1074

/-- The least mantissa of a number that is written with the hidden bit: the 52nd power of two. -/
def leastNormal : Nat := 0x10000000000000

/-- Reads the three fields of a pattern: sign, eleven bits of exponent, fifty-two of fraction. -/
def ofBits (bits : UInt64) : Exact :=
  let negative := bits >>> 63 == 1
  let biased := ((bits >>> 52) &&& 0x7ff).toNat
  let fraction := (bits &&& 0xfffffffffffff).toNat
  if biased = 0x7ff then
    if fraction = 0 then .infinite negative else .nan
  else if biased = 0 then .finite negative fraction leastExponent
  else .finite negative (leastNormal + fraction) ((biased : Int) - 1075)

/-- The value `mantissa * 2 ^ exponent` as a numerator over a denominator. -/
def ratio (mantissa : Nat) (exponent : Int) : Nat × Nat :=
  (mantissa * twoTo exponent.toNat, twoTo (-exponent).toNat)

theorem ratio_den_pos (mantissa : Nat) (exponent : Int) : 0 < (ratio mantissa exponent).2 :=
  twoTo_pos _

/-- The nearest whole number, halves away from zero, kept within the 64-bit words; zero for a NaN
and for everything negative. -/
def nearest : Exact → Nat
  | .nan => 0
  | .infinite negative => if negative then 0 else maxWord64
  | .finite negative mantissa exponent =>
    let (num, den) := ratio mantissa exponent
    if negative then 0 else min ((2 * num + den) / (2 * den)) maxWord64

/-- The whole part, kept within the 64-bit words; zero for a NaN and for everything negative. -/
def truncated : Exact → Nat
  | .nan => 0
  | .infinite negative => if negative then 0 else maxWord64
  | .finite negative mantissa exponent =>
    let (num, den) := ratio mantissa exponent
    if negative then 0 else min (num / den) maxWord64

theorem nearest_le (x : Exact) : x.nearest ≤ maxWord64 := by
  cases x with
  | nan => exact Nat.zero_le _
  | infinite negative => cases negative <;> simp [nearest]
  | finite negative mantissa exponent =>
    cases negative with
    | true => exact Nat.zero_le _
    | false => exact Nat.min_le_right ..

theorem truncated_le (x : Exact) : x.truncated ≤ maxWord64 := by
  cases x with
  | nan => exact Nat.zero_le _
  | infinite negative => cases negative <;> simp [truncated]
  | finite negative mantissa exponent =>
    cases negative with
    | true => exact Nat.zero_le _
    | false => exact Nat.min_le_right ..

end Exact

/-- What a float stands for. -/
def exact (x : Float) : Exact := .ofBits x.toBits

namespace Binary64

/-- The float with this pattern. -/
def toFloat (b : Binary64) : Float := Float.ofBits b.bits

/-- The pattern of a float. -/
def ofFloat (x : Float) : Binary64 := ⟨x.toBits⟩

/-- What a pattern stands for. -/
def exact (b : Binary64) : Exact := .ofBits b.bits

/-- The bit that is set in the patterns of negative numbers: the 63rd power of two. -/
def signBit : Nat := 0x8000000000000000

/-- The place of a pattern in the total order: negative NaNs, negative numbers down to `-0`, then
`0`, the positive numbers and the positive NaNs. -/
def order (b : Binary64) : Int :=
  if b.bits.toNat < signBit then b.bits.toNat else 0x7fffffffffffffff - (b.bits.toNat : Int)

theorem order_of_lt {b : Binary64} (h : b.bits.toNat < signBit) : b.order = b.bits.toNat :=
  if_pos h

theorem order_of_le {b : Binary64} (h : signBit ≤ b.bits.toNat) :
    b.order = 0x7fffffffffffffff - (b.bits.toNat : Int) :=
  if_neg (Nat.not_lt.mpr h)

/-- No two patterns share a place. -/
theorem order_injective {a b : Binary64} (h : a.order = b.order) : a = b := by
  have hsign : signBit = 0x8000000000000000 := rfl
  have hbits : a.bits.toNat = b.bits.toNat := by
    rcases Nat.lt_or_ge a.bits.toNat signBit with ha | ha <;>
      rcases Nat.lt_or_ge b.bits.toNat signBit with hb | hb
    · rw [order_of_lt ha, order_of_lt hb] at h
      omega
    · rw [order_of_lt ha, order_of_le hb] at h
      omega
    · rw [order_of_le ha, order_of_lt hb] at h
      omega
    · rw [order_of_le ha, order_of_le hb] at h
      omega
  cases a
  cases b
  simpa [UInt64.toNat_inj] using hbits

end Binary64

end Hedging
