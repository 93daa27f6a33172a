import Mathlib
import Hedging.Number.Binary64

/-!
# Bit patterns and unpacked floats

`exact` reads the three fields of a bit pattern as a number. The operations on floats are defined on
unpacked floats instead, which keep the special values apart from the finite ones. The two readings
say the same of every float, so that what is computed or compared can be said of the number that a
float stands for.

> `exact_eq`: a float stands for what its unpacked form says.
> `exact_atLeastZero_iff`: the floats that are finite and not below zero are the numbers from zero on
> and the negative zero; neither an infinity nor a NaN is one of them.
-/

namespace Hedging

open Float.Model (Format UnpackedFloat)
open Float.Model.UnpackedFloat

namespace Exact

/-- What an unpacked float stands for. -/
def ofUnpacked : UnpackedFloat → Exact
  | .notANumber => .nan
  | .infinity sign => .infinite (sign == .negative)
  | .zero sign => .finite (sign == .negative) 0 leastExponent
  | .finite sign mantissa exponent _ => .finite (sign == .negative) mantissa exponent

/-! ## The three fields -/

theorem toNat_unpackExponent (bits : UInt64) :
    (@unpackExponent .binary64 bits.toBitVec).toNat = ((bits >>> 52) &&& 0x7ff).toNat := by
  have mask : (0x7ff : Nat) = 2 ^ 11 - 1 := rfl
  simp only [unpackExponent, UInt64.toNat_and, UInt64.toNat_shiftRight, UInt64.reduceToNat, mask,
    Nat.and_two_pow_sub_one_eq_mod, BitVec.toNat_cast, BitVec.extractLsb_toNat]
  rfl

theorem toNat_unpackMantissa (bits : UInt64) :
    (@unpackMantissa .binary64 bits.toBitVec).toNat = (bits &&& 0xfffffffffffff).toNat := by
  have mask : (0xfffffffffffff : Nat) = 2 ^ 52 - 1 := rfl
  simp only [unpackMantissa, UInt64.toNat_and, UInt64.reduceToNat, mask,
    Nat.and_two_pow_sub_one_eq_mod, BitVec.toNat_cast, BitVec.extractLsb_toNat]
  rfl

theorem toNat_unpackSign (bits : UInt64) :
    (@unpackSign .binary64 bits.toBitVec).toNat = (bits >>> 63).toNat := by
  have bound := bits.toNat_lt
  simp only [unpackSign, UInt64.toNat_shiftRight, UInt64.reduceToNat, BitVec.toNat_cast,
    BitVec.extractLsb_toNat]
  show (bits.toNat >>> 63) % 2 ^ 1 = bits.toNat >>> 63
  rw [Nat.shiftRight_eq_div_pow]
  omega

theorem isNegative_unpackSign (bits : UInt64) :
    (Sign.ofBitVec (@unpackSign .binary64 bits.toBitVec) == .negative) =
      (bits >>> 63 == 1) := by
  have top := toNat_unpackSign bits
  have bit := (@unpackSign .binary64 bits.toBitVec).isLt
  rw [Sign.ofBitVec]
  split
  next hzero =>
    rw [hzero] at top
    have hne : bits >>> 63 ≠ 1 := by
      intro hone
      rw [hone] at top
      exact absurd top (by decide)
    rw [beq_eq_false_iff_ne.mpr hne]
    rfl
  next hone =>
    have hne : (@unpackSign .binary64 bits.toBitVec).toNat ≠ 0 := fun h =>
      hone (BitVec.eq_of_toNat_eq h)
    have heq : bits >>> 63 = 1 := by
      refine UInt64.toNat_inj.mp ?_
      rw [← top]
      simp only [UInt64.reduceToNat]
      omega
    rw [heq]
    rfl

/-- The hidden bit stands in front of the fraction. -/
theorem toNat_hidden (fraction : BitVec 52) :
    (1#1 ++ fraction).toNat = leastNormal + fraction.toNat := by
  rw [BitVec.toNat_append, ← Nat.shiftLeft_add_eq_or_of_lt fraction.isLt]
  rfl

/-! ## The two readings -/

theorem ofBits_eq (bits : UInt64) :
    Exact.ofBits bits = .ofUnpacked (unpack .binary64 bits.toBitVec) := by
  have hexponent := toNat_unpackExponent bits
  have hmantissa := toNat_unpackMantissa bits
  have full : @unpackExponent .binary64 bits.toBitVec = (-1#_) ↔
      ((bits >>> 52) &&& 0x7ff).toNat = 0x7ff := by
    rw [← hexponent, ← BitVec.toNat_inj]
    rfl
  have bare : @unpackExponent .binary64 bits.toBitVec = 0#_ ↔
      ((bits >>> 52) &&& 0x7ff).toNat = 0 := by
    rw [← hexponent, ← BitVec.toNat_inj]
    rfl
  have none : @unpackMantissa .binary64 bits.toBitVec = 0#_ ↔
      (bits &&& 0xfffffffffffff).toNat = 0 := by
    rw [← hmantissa, ← BitVec.toNat_inj]
    rfl
  have bias : (Format.binary64.exponentBias : Int) + (52 : Nat) = 1075 := rfl
  simp only [ofBits, unpack, full, bare, none, hexponent, ← isNegative_unpackSign bits, bias]
  split
  next => split <;> rfl
  next =>
    split
    next hbare =>
      -- below the hidden bit; only a zero is unpacked as a case of its own
      split
      next hnone =>
        rw [hnone]
        rfl
      next =>
        rw [ofUnpacked, hmantissa, hbare]
        rfl
    next => rw [ofUnpacked, toNat_hidden, hmantissa]

end Exact

/-- A float stands for what its unpacked form says. -/
theorem exact_eq (x : Float) : exact x = .ofUnpacked x.toModel.unpack := Exact.ofBits_eq x.toBits

/-! ## From zero on -/

/-- A number that is finite and not below zero. The negative zero is not below zero. -/
inductive Exact.AtLeastZero : Exact → Prop
  | positive (mantissa : Nat) (exponent : Int) : AtLeastZero (.finite false mantissa exponent)
  | negativeZero (exponent : Int) : AtLeastZero (.finite true 0 exponent)

theorem lt_zero_iff (x : Float) : x < 0 ↔ x.toModel.unpack.compare (.zero .positive) = some .lt := by
  have zero : (0 : Float).toModel.unpack = .zero .positive := rfl
  rw [← zero, ← beq_iff_eq]
  exact decide_eq_true_iff

theorem exact_atLeastZero_iff (x : Float) :
    (exact x).AtLeastZero ↔ x.isFinite = true ∧ ¬ x < 0 := by
  rw [exact_eq, lt_zero_iff]
  show _ ↔ x.toModel.unpack.isFinite = true ∧ _
  cases x.toModel.unpack with
  | notANumber => exact ⟨nofun, fun h => nomatch h.1⟩
  | infinity sign => exact ⟨nofun, fun h => nomatch h.1⟩
  | zero sign =>
    cases sign with
    | negative => exact ⟨fun _ => ⟨rfl, nofun⟩, fun _ => .negativeZero _⟩
    | positive => exact ⟨fun _ => ⟨rfl, nofun⟩, fun _ => .positive ..⟩
  | finite sign mantissa exponent pos =>
    cases sign with
    | negative =>
      refine ⟨fun h => ?_, fun h => absurd rfl h.2⟩
      cases h
      exact absurd pos (Nat.lt_irrefl 0)
    | positive => exact ⟨fun _ => ⟨rfl, nofun⟩, fun _ => .positive ..⟩

end Hedging
