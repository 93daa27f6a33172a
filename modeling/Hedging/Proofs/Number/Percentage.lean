import Hedging.Number.Percentile
import Hedging.Proofs.Number.Whole

/-!
# The ends of the scale of percentages

The rank of a percentile is computed with floats that round, so what can be told of it without
computing it are the two ends: nothing that is not above zero leads beyond the first rank, and
nothing from a hundred on falls short of the last.

> `percentileRank_eq_zero`: a NaN and all up to zero lead to the first rank. No rounding changes the
> side of zero (`OnSide`).
> `le_percentileRank`: everything from a hundred on leads to the last rank or beyond, as long as the
> last rank is a float itself. What is no less than such a number is not rounded to less
> (`IsAtLeast`).
-/

namespace Hedging

open Float.Model (Format UnpackedFloat totalExponent)
open Float.Model.UnpackedFloat
open Whole

namespace Percentage

variable {x y : UnpackedFloat} {s t : Sign} {k m a b : Nat} {e : Int}

/-! ## The sides of zero -/

/-- A float that is not on the other side of zero. -/
inductive OnSide (s : Sign) : UnpackedFloat → Prop
  | notANumber : OnSide s .notANumber
  | infinity : OnSide s (.infinity s)
  | zero (sign : Sign) : OnSide s (.zero sign)
  | finite (m : Nat) (e : Int) (pos : 0 < m) : OnSide s (.finite s m e pos)

theorem onSide_round (s : Sign) (m : Nat) (e : Int) (accuracy : Accuracy) :
    OnSide s (roundWithAccuracy .binary64 s m e accuracy) := by
  unfold roundWithAccuracy
  simp only
  split
  · exact .zero s
  · exact .finite ..

theorem OnSide.div (hx : OnSide s x) (t : Sign) (pos : 0 < m) :
    OnSide (s / t) (UnpackedFloat.div .binary64 x (.finite t m e pos)) := by
  cases hx with
  | notANumber => exact .notANumber
  | infinity => exact .infinity
  | zero => exact .zero _
  | finite => exact onSide_round ..

theorem OnSide.mul (hx : OnSide s x) (hy : OnSide t y) :
    OnSide (s * t) (UnpackedFloat.mul .binary64 x y) := by
  cases hx with
  | notANumber => exact .notANumber
  | infinity =>
    cases hy with
    | notANumber => exact .notANumber
    | infinity => exact .infinity
    | zero => exact .notANumber
    | finite => exact .infinity
  | zero =>
    cases hy with
    | notANumber => exact .notANumber
    | infinity => exact .notANumber
    | zero => exact .zero _
    | finite => exact .zero _
  | finite =>
    cases hy with
    | notANumber => exact .notANumber
    | infinity => exact .infinity
    | zero => exact .zero _
    | finite => exact onSide_round ..

/-- Whatever the other bits are, the sign bit comes out as it went in. -/
theorem onSide_components (s : Sign) (exponent : BitVec 11) (mantissa : BitVec 52) :
    OnSide s (unpack .binary64 (packComponents .binary64 s exponent mantissa)) := by
  simp only [unpack, unpackSign_packComponents, Sign.ofBitVec_toBitVec]
  repeat' split
  · exact .infinity
  · exact .notANumber
  · exact .zero s
  · exact .finite ..
  · exact .finite ..

theorem OnSide.unpack_pack (h : OnSide s x) :
    OnSide s (unpack .binary64 (pack .binary64 x)) := by
  cases h with
  | notANumber => exact .notANumber
  | infinity => exact onSide_components ..
  | zero sign => cases sign <;> exact .zero _
  | finite m e pos =>
    unfold pack
    simp only
    split
    · exact onSide_components ..
    · split
      · exact onSide_components ..
      · exact onSide_components ..

theorem onSide_of_isWhole (h : IsWhole k x) : OnSide .positive x := by
  cases h with
  | zero => exact .zero _
  | normal => exact .finite ..

/-- No whole number is below zero, however large it is. -/
theorem onSide_ofNat (n : Nat) : OnSide .positive (Float.ofNat n).toModel.unpack := by
  rcases Nat.lt_or_ge n (2 ^ 53) with small | large
  · exact onSide_of_isWhole (isWhole_ofNat (Nat.le_of_lt small))
  · have hn : n ≠ 0 := by omega
    have slow : Float.ofNat n = .ofModel (.ofScientific n 0) := by
      show Float.ofScientific n false 0 = _
      rw [Float.ofScientific, dif_neg (by omega)]
      rfl
    have scaled : OnSide (.positive * .positive) (UnpackedFloat.ofScientific .binary64 n 0) := by
      have notTiny : ¬ (0 : Int) < -((2 ^ 11 : Int) + n.log2) := by omega
      rw [UnpackedFloat.ofScientific, dif_neg hn, if_neg (by decide), if_neg notTiny,
        if_pos (by decide)]
      exact (OnSide.finite ..).mul (.finite ..)
    rw [slow]
    exact scaled.unpack_pack

theorem onSide_of {percent : Float} (h : percent.isNaN = true ∨ percent ≤ 0) :
    OnSide .negative percent.toModel.unpack := by
  have hnan : percent.isNaN = percent.toModel.unpack.isNaN := rfl
  have hle : percent ≤ 0 ↔
      (percent.toModel.unpack.compare (.zero .positive)).any (·.isLE) = true := decide_eq_true_iff
  rw [hnan, hle] at h
  cases hx : percent.toModel.unpack with
  | notANumber => exact .notANumber
  | zero sign => exact .zero sign
  | infinity sign =>
    rw [hx] at h
    cases sign with
    | negative => exact .infinity
    | positive => exact h.elim nofun nofun
  | finite sign m e pos =>
    rw [hx] at h
    cases sign with
    | negative => exact .finite ..
    | positive => exact h.elim nofun nofun

theorem nearest_zero (e : Int) : (Exact.finite false 0 e).nearest = 0 := by
  have pos := Exact.ratio_den_pos 0 e
  have num : (Exact.ratio 0 e).1 = 0 := Nat.zero_mul _
  simp only [Exact.nearest, num]
  rw [Nat.div_eq_of_lt (by omega)]
  rfl

theorem OnSide.nearest_eq (h : OnSide .negative x) : (Exact.ofUnpacked x).nearest = 0 := by
  cases h with
  | notANumber => rfl
  | infinity => rfl
  | finite => rfl
  | zero sign =>
    cases sign with
    | negative => rfl
    | positive => exact nearest_zero _

/-! ## No less than a whole number -/

/-- What a mantissa and an exponent stand for is no less than `k`. -/
def AtLeast (k m : Nat) (e : Int) : Prop := k * 2 ^ (-e).toNat ≤ m * 2 ^ e.toNat

theorem atLeast_iff : AtLeast k m ((b : Int) - a) ↔ k * 2 ^ a ≤ m * 2 ^ b := by
  unfold AtLeast
  rw [show (-((b : Int) - a)).toNat = a - min a b by omega,
    show ((b : Int) - a).toNat = b - min a b by omega]
  have cut : ∀ c, min a b ≤ c → 2 ^ c = 2 ^ (c - min a b) * 2 ^ min a b := by
    intro c hc
    rw [← Nat.pow_add, Nat.sub_add_cancel hc]
  rw [cut a (Nat.min_le_left a b), cut b (Nat.min_le_right a b), ← Nat.mul_assoc, ← Nat.mul_assoc]
  exact (Nat.mul_le_mul_right_iff (Nat.two_pow_pos _)).symm

/-- Floats no less than `k`, with their leading bit in place. -/
inductive IsAtLeast (k : Nat) : UnpackedFloat → Prop
  | infinity : IsAtLeast k (.infinity .positive)
  | finite {m : Nat} {e : Int} (hm : Normal m) (low : -1074 ≤ e) (h : AtLeast k m e) :
    IsAtLeast k (.finite .positive m e hm.pos)

/-- Bits shifted out are bits divided by. -/
theorem mantissa_shiftRight (em : ExtendedMantissa) (d : Nat) :
    (em >>> d).mantissa = em.mantissa / 2 ^ d := by
  show (d.repeat ExtendedMantissa.shiftRightOne em).mantissa = _
  induction d with
  | zero => exact (Nat.div_one _).symm
  | succ d ih =>
    rw [Nat.repeat, ExtendedMantissa.shiftRightOne, ih, Nat.div_div_eq_div_mul, Nat.pow_succ]

/-- Bringing the leading bit into its place cuts off bits, but none that a whole number up to the 53rd
power of two would have. -/
theorem shift_atLeast (hm : 2 ^ 52 ≤ m) (hk : k ≤ 2 ^ 53) (pos : 0 < k) (h : AtLeast k m e)
    (accuracy : Accuracy) :
    ∃ em f, shiftToTargetExponent .binary64 m e accuracy = (em, f) ∧ Normal em.mantissa ∧
      -1074 ≤ f ∧ AtLeast k em.mantissa f := by
  have hne : m ≠ 0 := by omega
  have hlog : 52 ≤ m.log2 := (Nat.le_log2 hne).mpr hm
  obtain ⟨d, hd⟩ := Nat.exists_eq_add_of_le hlog
  have above : -52 ≤ e + d := by
    by_contra below
    obtain ⟨c, rfl⟩ : ∃ c : Nat, e = ((0 : Nat) : Int) - c := ⟨(-e).toNat, by omega⟩
    rw [atLeast_iff, Nat.pow_zero, Nat.mul_one] at h
    have hlt : m < 2 ^ (m.log2 + 1) := Nat.lt_log2_self
    have hle : 2 ^ (m.log2 + 1) ≤ 2 ^ c := Nat.pow_le_pow_right (by decide) (by omega)
    have hmul : 2 ^ c ≤ k * 2 ^ c := Nat.le_mul_of_pos_left _ pos
    omega
  have target : Format.binary64.targetExponent (totalExponent m e) = e + d :=
    targetExponent_eq (by omega) (by omega)
  have amount : (e + (d : Int) - e).toNat = d := by omega
  have kept : ∀ accuracy, (ExtendedMantissa.ofMantissaAndAccuracy m accuracy).mantissa = m := by
    intro accuracy
    cases accuracy with
    | exact => rfl
    | inexact relative => cases relative <;> rfl
  refine ⟨_, _, rfl, ?_⟩
  simp only [target, amount, mantissa_shiftRight, kept]
  have low : 2 ^ 52 ≤ m / 2 ^ d := by
    rw [Nat.le_div_iff_mul_le (Nat.two_pow_pos d), ← Nat.pow_add, ← hd]
    exact Nat.log2_self_le hne
  have high : m / 2 ^ d < 2 ^ 53 := by
    rw [Nat.div_lt_iff_lt_mul (Nat.two_pow_pos d), ← Nat.pow_add,
      show 53 + d = m.log2 + 1 by omega]
    exact Nat.lt_log2_self
  refine ⟨⟨low, high⟩, by omega, ?_⟩
  rcases lt_or_ge 0 (e + d) with large | small
  · -- what is left is twice the 52nd power of two at least
    obtain ⟨c, hc⟩ : ∃ c : Nat, e + d = ((c + 1 : Nat) : Int) - (0 : Nat) :=
      ⟨(e + d - 1).toNat, by omega⟩
    rw [hc, atLeast_iff, Nat.pow_zero, Nat.mul_one]
    calc k ≤ 2 ^ 52 * 2 := hk
      _ ≤ m / 2 ^ d * 2 ^ (c + 1) :=
        Nat.mul_le_mul low (Nat.le_self_pow (Nat.succ_ne_zero c) 2)
  · -- the bits cut off are worth less than one
    obtain ⟨c, hc⟩ : ∃ c : Nat, e = ((0 : Nat) : Int) - (c + d : Nat) := ⟨(-(e + d)).toNat, by omega⟩
    have hshifted : e + d = ((0 : Nat) : Int) - c := by omega
    rw [hc, atLeast_iff, Nat.pow_zero, Nat.mul_one, Nat.pow_add, ← Nat.mul_assoc] at h
    rw [hshifted, atLeast_iff, Nat.pow_zero, Nat.mul_one]
    exact (Nat.le_div_iff_mul_le (Nat.two_pow_pos d)).mpr h

theorem le_roundedMantissa (em : ExtendedMantissa) : em.mantissa ≤ em.roundedMantissa := by
  unfold ExtendedMantissa.roundedMantissa
  cases em.accuracy with
  | exact => exact Nat.le_refl _
  | inexact relative =>
    cases relative with
    | lt => exact Nat.le_refl _
    | eq => exact Nat.le_add_right ..
    | gt => exact Nat.le_add_right ..

/-- **Rounding does not fall below** a whole number up to the 53rd power of two. -/
theorem round_atLeast (hm : 2 ^ 52 ≤ m) (hk : k ≤ 2 ^ 53) (pos : 0 < k) (h : AtLeast k m e)
    (accuracy : Accuracy) :
    IsAtLeast k (roundWithAccuracy .binary64 .positive m e accuracy) := by
  obtain ⟨em, f, first, hnormal, -, hem⟩ := shift_atLeast hm hk pos h accuracy
  have hrounded : AtLeast k em.roundedMantissa f :=
    Nat.le_trans hem (Nat.mul_le_mul_right _ (le_roundedMantissa em))
  obtain ⟨em', f', second, hnormal', low, hem'⟩ :=
    shift_atLeast (Nat.le_trans hnormal.low (le_roundedMantissa em)) hk pos hrounded .exact
  simp only [roundWithAccuracy, first, second]
  rw [dif_neg hnormal'.pos.ne']
  exact .finite hnormal' low hem'

theorem IsAtLeast.unpack_pack (h : IsAtLeast k x) :
    IsAtLeast k (unpack .binary64 (pack .binary64 x)) := by
  cases h with
  | infinity => exact .infinity
  | @finite m e hm low hle =>
    rcases lt_or_ge 971 e with large | fits
    · have full : 2 ^ Format.binary64.exponentBits ≤
          (e + Format.binary64.exponentBias +
            Format.binary64.mantissaBitsWithoutImplicit).toNat + 1 := by
        show 2048 ≤ (e + 1023 + 52).toNat + 1
        omega
      simp only [pack]
      rw [if_pos full]
      exact .infinity
    · rw [hm.unpack_pack low fits]
      exact .finite hm low hle

theorem IsAtLeast.le_nearest (h : IsAtLeast k x) (hk : k ≤ maxWord64) :
    k ≤ (Exact.ofUnpacked x).nearest := by
  cases h with
  | infinity => exact hk
  | @finite m e hm low hle =>
    have hle : k * twoTo (-e).toNat ≤ m * twoTo e.toNat := hle
    have pos := twoTo_pos (-e).toNat
    refine Nat.le_min.mpr ⟨?_, hk⟩
    rw [Nat.le_div_iff_mul_le (by omega)]
    have double : k * (2 * twoTo (-e).toNat) = 2 * (k * twoTo (-e).toNat) := by ring
    omega

/-! ## From a hundred on -/

theorem normal_hundred : Normal (100 * 2 ^ 46) := ⟨by decide, by decide⟩

theorem unpack_hundred :
    (100 : Float).toModel.unpack = .finite .positive (100 * 2 ^ 46) (-46) normal_hundred.pos :=
  (isWhole_ofNat (n := 100) (by decide)).unique (.normal (k := 6) normal_hundred (by decide) rfl)

/-- The leading bit of every float is in place, unless its exponent is the least there is. -/
theorem normal_of_unpack {bits : BitVec 64} {pos : 0 < m}
    (h : unpack .binary64 bits = .finite s m e pos) (he : -1074 < e) : Normal m := by
  unfold unpack at h
  simp only at h
  split at h
  · split at h <;> cases h
  · split at h
    next bare =>
      split at h
      · cases h
      · injection h with _ _ hexponent
        rw [bare] at hexponent
        have least : ((0#11).toNat : Int) - (1023 + 52) + 1 = e := hexponent
        rw [BitVec.toNat_ofNat] at least
        omega
    next =>
      injection h with _ hmantissa _
      have hidden := Exact.toNat_hidden (@unpackMantissa .binary64 bits)
      have bound := (@unpackMantissa .binary64 bits).isLt
      rw [← hmantissa]
      constructor
      · rw [hidden, Exact.leastNormal]
        omega
      · rw [hidden, Exact.leastNormal]
        omega

theorem isAtLeast_hundred {percent : Float} (h : 100 ≤ percent) :
    IsAtLeast 100 percent.toModel.unpack := by
  have hle : 100 ≤ percent ↔
      ((100 : Float).toModel.unpack.compare percent.toModel.unpack).any (·.isLE) = true :=
    decide_eq_true_iff
  rw [hle, unpack_hundred] at h
  cases hx : percent.toModel.unpack with
  | notANumber =>
    rw [hx] at h
    cases h
  | infinity sign =>
    rw [hx] at h
    cases sign with
    | negative => cases h
    | positive => exact .infinity
  | zero sign =>
    rw [hx] at h
    cases h
  | finite sign m e pos =>
    rw [hx] at h
    cases sign with
    | negative => cases h
    | positive =>
      -- floats are compared by their exponents first
      have order : -46 < e ∨ -46 = e ∧ 100 * 2 ^ 46 ≤ m := by
        have h : ((compare (-46) e).then (compare (100 * 2 ^ 46) m)).isLE = true := h
        rcases Int.lt_trichotomy (-46) e with hlt | heq | hgt
        · exact .inl hlt
        · rw [Int.compare_eq_eq.mpr heq, Ordering.eq_then, Nat.isLE_compare] at h
          exact .inr ⟨heq, h⟩
        · rw [Int.compare_eq_gt.mpr hgt] at h
          cases h
      have hm := normal_of_unpack hx (by omega)
      refine .finite hm (by omega) ?_
      obtain ⟨c, hc⟩ : ∃ c : Nat, e = (c : Int) - (46 : Nat) := ⟨(e + 46).toNat, by omega⟩
      rw [hc, atLeast_iff]
      rcases order with hlt | ⟨rfl, hle⟩
      · calc 100 * 2 ^ 46 ≤ 2 ^ 52 * 2 := by decide
          _ ≤ m * 2 ^ c := Nat.mul_le_mul hm.low (Nat.le_self_pow (by omega) 2)
      · exact Nat.le_trans hle (Nat.le_mul_of_pos_right m (Nat.two_pow_pos c))

/-- A hundredth of a number from a hundred on is one at least. -/
theorem IsAtLeast.div_hundred (h : IsAtLeast 100 x) :
    IsAtLeast 1 (UnpackedFloat.div .binary64 x (100 : Float).toModel.unpack) := by
  rw [unpack_hundred]
  cases h with
  | infinity => exact .infinity
  | @finite m e hm low hle =>
    have above : -46 ≤ e := by
      by_contra below
      obtain ⟨c, hc⟩ : ∃ c : Nat, e = ((0 : Nat) : Int) - (c : Nat) := ⟨(-e).toNat, by omega⟩
      rw [hc, atLeast_iff, Nat.pow_zero, Nat.mul_one] at hle
      have hpow : 2 ^ 47 ≤ 2 ^ c := Nat.pow_le_pow_right (by decide) (by omega)
      have high := hm.high
      omega
    -- the quotient is computed with seven bits more than a mantissa has
    let divided := divCore .binary64 m e (100 * 2 ^ 46) (-46)
    have core : divided =
        (m <<< 53 / (100 * 2 ^ 46), e - 7,
          accuracyOfFraction (m <<< 53 % (100 * 2 ^ 46)) (100 * 2 ^ 46)) := by
      have target : Format.binary64.targetExponent
          (totalExponent m e - totalExponent (100 * 2 ^ 46) (-46)) = e - 7 := by
        have bits : (Format.binary64.mantissaBits : Int) = 53 := rfl
        have least : Format.binary64.minExponent = -1074 := rfl
        rw [Format.targetExponent, totalExponent, totalExponent, hm.log2, normal_hundred.log2, bits,
          least]
        omega
      have smaller : min (e - -46) (e - 7) = e - 7 := by omega
      have amount : (e - -46 - (e - 7)).toNat = 53 := by omega
      simp only [divided, divCore, target, smaller, amount]
    have quotient : m <<< 53 / (100 * 2 ^ 46) = m * 128 / 100 := by
      rw [Nat.shiftLeft_eq, show m * 2 ^ 53 = m * 128 * 2 ^ 46 by ring,
        Nat.mul_div_mul_right _ _ (Nat.two_pow_pos 46)]
    have large : 2 ^ 52 ≤ m * 128 / 100 := by
      have low := hm.low
      omega
    show IsAtLeast 1 (roundWithAccuracy .binary64 .positive divided.1 divided.2.1 divided.2.2)
    rw [core, quotient]
    refine round_atLeast large (by decide) Nat.one_pos ?_ _
    rcases lt_or_ge 0 e with positive | small
    · obtain ⟨c, hc⟩ : ∃ c : Nat, e - 7 = (c : Int) - (7 : Nat) := ⟨e.toNat, by omega⟩
      rw [hc, atLeast_iff]
      calc 1 * 2 ^ 7 ≤ m * 128 / 100 := Nat.le_trans (by decide) large
        _ ≤ m * 128 / 100 * 2 ^ c := Nat.le_mul_of_pos_right _ (Nat.two_pow_pos c)
    · obtain ⟨c, hc⟩ : ∃ c : Nat, e = ((0 : Nat) : Int) - (c : Nat) := ⟨(-e).toNat, by omega⟩
      have hshifted : e - 7 = ((0 : Nat) : Int) - (c + 7 : Nat) := by omega
      rw [hc, atLeast_iff, Nat.pow_zero, Nat.mul_one] at hle
      rw [hshifted, atLeast_iff, Nat.pow_zero, Nat.mul_one, Nat.pow_add]
      omega

/-- A number from one on times a whole number is that whole number at least. -/
theorem IsAtLeast.mul_whole (h : IsAtLeast 1 x) (hy : IsWhole k y) (pos : 0 < k) (hk : k ≤ 2 ^ 53) :
    IsAtLeast k (UnpackedFloat.mul .binary64 x y) := by
  cases hy with
  | zero => exact absurd pos (Nat.lt_irrefl 0)
  | @normal _ m' j hm' hj value =>
    cases h with
    | infinity => exact .infinity
    | @finite m e hm low hle =>
      have large : 2 ^ 52 ≤ m * m' := Nat.le_trans hm.low (Nat.le_mul_of_pos_right m hm'.pos)
      refine round_atLeast large hk pos ?_ .exact
      obtain ⟨b, a, rfl⟩ : ∃ b a : Nat, e = (b : Int) - a := ⟨e.toNat, (-e).toNat, by omega⟩
      rw [show (b : Int) - a + ((j : Int) - 52) = ((b + j : Nat) : Int) - (a + 52 : Nat) by omega,
        atLeast_iff]
      rw [atLeast_iff, Nat.one_mul] at hle
      calc k * 2 ^ (a + 52) = 2 ^ a * (k * 2 ^ 52) := by ring
        _ ≤ m * 2 ^ b * (m' * 2 ^ j) := Nat.mul_le_mul hle (Nat.le_of_eq value)
        _ = m * m' * 2 ^ (b + j) := by ring

end Percentage

open Percentage

/-- **Up to zero** every percentage leads to the first rank, and so does a NaN. -/
theorem percentileRank_eq_zero {percent : Float} (h : percent.isNaN = true ∨ percent ≤ 0) (n : Nat) :
    percentileRank percent n = 0 := by
  have quotient := ((onSide_of h).div (m := 100 * 2 ^ 46) (e := -46) .positive
    normal_hundred.pos).unpack_pack
  rw [← unpack_hundred] at quotient
  have product := (quotient.mul (onSide_ofNat (n - 1))).unpack_pack
  rw [percentileRank, exact_eq]
  exact product.nearest_eq

/-- **From a hundred on** every percentage leads to the last rank or beyond. -/
theorem le_percentileRank {percent : Float} (h : 100 ≤ percent) {n : Nat} (hn : n ≤ 2 ^ 53) :
    n - 1 ≤ percentileRank percent n := by
  rcases Nat.eq_zero_or_pos (n - 1) with first | pos
  · rw [first]
    exact Nat.zero_le _
  · have hle : n - 1 ≤ 2 ^ 53 := Nat.le_trans (Nat.sub_le ..) hn
    have quotient := (isAtLeast_hundred h).div_hundred.unpack_pack
    have product := (quotient.mul_whole (isWhole_ofNat hle) pos hle).unpack_pack
    rw [percentileRank, exact_eq]
    exact product.le_nearest (Nat.le_trans hle (by decide))

end Hedging
