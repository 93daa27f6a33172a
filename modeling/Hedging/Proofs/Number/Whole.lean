import Hedging.Number.Arithmetic
import Hedging.Proofs.Number.Unpacked

/-!
# Whole numbers as floats

Arithmetic of floats rounds, but a whole number up to the 53rd power of two is a float itself, and a
sum, a difference or a product of such numbers that is one of them again comes out as it is.
`ExactUpTo` says this of any number type; it is all that exact sums need.

> `exactUpTo_float`: the arithmetic of floats is exact up to the 53rd power of two.

An operation works on mantissas and exponents and then rounds. Its result before rounding has the
value of a whole number that fits (`IsWhole`), so all that rounding does is to bring the leading bit
into its place (`round_eq`), and each value has only one form with the leading bit in place
(`IsWhole.unique`).
-/

namespace Hedging

/-- Sums, differences and products of whole numbers up to `bound` are exact where they are no greater
than `bound` themselves. -/
structure Arithmetic.ExactUpTo (F : Type) [Arithmetic F] (bound : Nat) : Prop where
  add : ∀ {a b : Nat}, a + b ≤ bound →
    Arithmetic.add (Arithmetic.ofNat a : F) (Arithmetic.ofNat b) = Arithmetic.ofNat (a + b)
  sub : ∀ {a b : Nat}, a ≤ bound → b ≤ a →
    Arithmetic.sub (Arithmetic.ofNat a : F) (Arithmetic.ofNat b) = Arithmetic.ofNat (a - b)
  mul : ∀ {a b : Nat}, a ≤ bound → b ≤ bound → a * b ≤ bound →
    Arithmetic.mul (Arithmetic.ofNat a : F) (Arithmetic.ofNat b) = Arithmetic.ofNat (a * b)

open Float.Model (Format UnpackedFloat totalExponent)
open Float.Model.UnpackedFloat

namespace Whole

/-! ## Rounding what needs no rounding -/

/-- A mantissa with its leading bit in place. -/
structure Normal (m : Nat) : Prop where
  low : 2 ^ 52 ≤ m
  high : m < 2 ^ 53

theorem Normal.pos {m : Nat} (h : Normal m) : 0 < m := Nat.lt_of_lt_of_le (by decide) h.low

theorem Normal.log2 {m : Nat} (h : Normal m) : m.log2 = 52 :=
  (Nat.log2_eq_iff h.pos.ne').mpr ⟨h.low, h.high⟩

theorem log2_mul_two_pow {n : Nat} (hn : 0 < n) (d : Nat) : (n * 2 ^ d).log2 = n.log2 + d := by
  refine (Nat.log2_eq_iff (Nat.mul_pos hn (Nat.two_pow_pos d)).ne').mpr ⟨?_, ?_⟩
  · rw [Nat.pow_add]
    exact Nat.mul_le_mul_right _ (Nat.log2_self_le hn.ne')
  · rw [show n.log2 + d + 1 = n.log2 + 1 + d by omega, Nat.pow_add]
    exact Nat.mul_lt_mul_of_pos_right Nat.lt_log2_self (Nat.two_pow_pos d)

theorem eq_mul_two_pow {m n j d : Nat} (h : n * 2 ^ j = m * 2 ^ (j + d)) : n = m * 2 ^ d := by
  rw [Nat.pow_add, Nat.mul_comm (2 ^ j), ← Nat.mul_assoc] at h
  exact Nat.eq_of_mul_eq_mul_right (Nat.two_pow_pos j) h

/-- The exponent at which a number has its leading bit in place. -/
theorem targetExponent_eq {n : Nat} {e t : Int} (h : n.log2 + e = 52 + t) (ht : -1074 ≤ t) :
    Format.binary64.targetExponent (totalExponent n e) = t := by
  have bits : (Format.binary64.mantissaBits : Int) = 53 := rfl
  have least : Format.binary64.minExponent = -1074 := rfl
  rw [Format.targetExponent, totalExponent, bits, least]
  omega

/-- Zeros shifted out leave nothing behind. -/
theorem shiftRight_mul (m d : Nat) :
    (⟨m * 2 ^ d, false, false⟩ : ExtendedMantissa) >>> d = ⟨m, false, false⟩ := by
  show d.repeat ExtendedMantissa.shiftRightOne _ = _
  induction d generalizing m with
  | zero => simp [Nat.repeat]
  | succ d ih =>
    rw [Nat.repeat, show m * 2 ^ (d + 1) = m * 2 * 2 ^ d by ring, ih]
    simp [ExtendedMantissa.shiftRightOne]

theorem shiftToTargetExponent_eq {m : Nat} (hm : Normal m) (d : Nat) {e : Int}
    (he : -1074 ≤ e + d) :
    shiftToTargetExponent .binary64 (m * 2 ^ d) e .exact = (⟨m, false, false⟩, e + d) := by
  have target : Format.binary64.targetExponent (totalExponent (m * 2 ^ d) e) = e + d := by
    refine targetExponent_eq ?_ he
    rw [log2_mul_two_pow hm.pos, hm.log2]
    omega
  have amount : (e + (d : Int) - e).toNat = d := by omega
  rw [shiftToTargetExponent, target, shiftToExponent, amount,
    ExtendedMantissa.ofMantissaAndAccuracy, shiftRight_mul]

/-- Rounding shifts twice, and the second time there is nothing left to shift. -/
theorem roundWithAccuracy_eq {m : Nat} (hm : Normal m) (d : Nat) {e : Int} (he : -1074 ≤ e + d)
    (sign : Sign) :
    roundWithAccuracy .binary64 sign (m * 2 ^ d) e .exact = .finite sign m (e + d) hm.pos := by
  have first := shiftToTargetExponent_eq hm d he
  have second := shiftToTargetExponent_eq hm 0 (e := e + d) (by omega)
  rw [Nat.pow_zero, Nat.mul_one, Int.natCast_zero, Int.add_zero] at second
  have rounded : (⟨m, false, false⟩ : ExtendedMantissa).roundedMantissa = m := rfl
  simp only [roundWithAccuracy, first, rounded, second]
  rw [dif_neg hm.pos.ne']

/-- What has the value of a mantissa with its leading bit in place is rounded to just that. -/
theorem round_eq {m n : Nat} (hm : Normal m) (hn : 0 < n) {j k : Nat}
    (h : n * 2 ^ j = m * 2 ^ k) {s : Nat} (hs : s ≤ 1074) (sign : Sign) :
    UnpackedFloat.round .binary64 sign n ((j : Int) - s) = .finite sign m ((k : Int) - s) hm.pos := by
  have target : Format.binary64.targetExponent (totalExponent n ((j : Int) - s)) = (k : Int) - s := by
    refine targetExponent_eq ?_ (by omega)
    have hlog := congrArg Nat.log2 h
    rw [log2_mul_two_pow hn, log2_mul_two_pow hm.pos, hm.log2] at hlog
    omega
  rw [UnpackedFloat.round, target, decreaseExponent]
  rcases Nat.le_total k j with hkj | hjk
  · obtain ⟨d, rfl⟩ := Nat.exists_eq_add_of_le hkj
    have amount : (((k + d : Nat) : Int) - s - (k - s)).toNat = d := by omega
    have mantissa : n * 2 ^ d = m := (eq_mul_two_pow h.symm).symm
    have final := roundWithAccuracy_eq hm 0 (e := (k : Int) - s) (by omega) sign
    simp only [amount, Nat.shiftLeft_eq, mantissa]
    rw [Nat.pow_zero, Nat.mul_one] at final
    convert final using 2 <;> omega
  · obtain ⟨d, rfl⟩ := Nat.exists_eq_add_of_le hjk
    have amount : ((j : Int) - s - ((j + d : Nat) - s)).toNat = 0 := by omega
    have mantissa : n = m * 2 ^ d := eq_mul_two_pow h
    have final := roundWithAccuracy_eq hm d (e := (j : Int) - s) (by omega) sign
    simp only [amount, Nat.shiftLeft_zero, mantissa]
    convert final using 2 <;> omega

/-! ## Whole numbers, unpacked -/

/-- The unpacked form of a whole number up to the 53rd power of two. -/
inductive IsWhole : Nat → UnpackedFloat → Prop
  | zero : IsWhole 0 (.zero .positive)
  | normal {n m k : Nat} (hm : Normal m) (hk : k ≤ 53) (value : n * 2 ^ 52 = m * 2 ^ k) :
    IsWhole n (.finite .positive m ((k : Int) - 52) hm.pos)

theorem exists_normal {n : Nat} (hn : 0 < n) (h : n ≤ 2 ^ 53) :
    ∃ m k, Normal m ∧ k ≤ 53 ∧ n * 2 ^ 52 = m * 2 ^ k := by
  rcases Nat.lt_or_eq_of_le h with hlt | rfl
  · have hlog : n.log2 ≤ 52 := Nat.lt_succ_iff.mp ((Nat.log2_lt hn.ne').mpr hlt)
    obtain ⟨d, hd⟩ := Nat.exists_eq_add_of_le hlog
    have hm := (Nat.log2_eq_iff (Nat.mul_pos hn (Nat.two_pow_pos d)).ne').mp
      ((log2_mul_two_pow hn d).trans hd.symm)
    refine ⟨n * 2 ^ d, n.log2, ⟨hm.1, hm.2⟩, by omega, ?_⟩
    rw [hd, Nat.add_comm, Nat.pow_add, Nat.mul_assoc]
  · exact ⟨2 ^ 52, 53, ⟨Nat.le_refl _, by decide⟩, Nat.le_refl _, Nat.mul_comm ..⟩

theorem Normal.value_pos {n m k : Nat} (hm : Normal m) (value : n * 2 ^ 52 = m * 2 ^ k) : 0 < n := by
  rcases Nat.eq_zero_or_pos n with rfl | hn
  · have hpos := Nat.mul_pos hm.pos (Nat.two_pow_pos k)
    rw [← value, Nat.zero_mul] at hpos
    exact absurd hpos (Nat.lt_irrefl 0)
  · exact hn

theorem IsWhole.unique {n : Nat} {x y : UnpackedFloat} (hx : IsWhole n x) (hy : IsWhole n y) :
    x = y := by
  cases hx with
  | zero =>
    cases hy with
    | zero => rfl
    | normal hm hk value => exact absurd (hm.value_pos value) (Nat.lt_irrefl 0)
  | @normal _ m k hm hk value =>
    cases hy with
    | zero => exact absurd (hm.value_pos value) (Nat.lt_irrefl 0)
    | @normal _ m' k' hm' hk' value' =>
      have same := value.symm.trans value'
      have hlog := congrArg Nat.log2 same
      rw [log2_mul_two_pow hm.pos, log2_mul_two_pow hm'.pos, hm.log2, hm'.log2] at hlog
      obtain rfl : k = k' := by omega
      obtain rfl : m = m' := Nat.eq_of_mul_eq_mul_right (Nat.two_pow_pos k) same
      rfl

theorem isWhole_normalize {n r j : Nat} (hn : n ≤ 2 ^ 53) (value : r * 2 ^ j = n * 2 ^ 52) :
    IsWhole n (UnpackedFloat.normalize .binary64 r ((j : Int) - 52) .positive) := by
  rcases Nat.eq_zero_or_pos n with rfl | hpos
  · have hr : r = 0 := by
      have := Nat.two_pow_pos j
      rw [Nat.zero_mul] at value
      exact (Nat.mul_eq_zero.mp value).resolve_right this.ne'
    rw [hr]
    exact .zero
  · obtain ⟨m, k, hm, hk, hvalue⟩ := exists_normal hpos hn
    have hr : 0 < r := by
      refine Nat.pos_of_ne_zero fun hzero => ?_
      rw [hzero, Nat.zero_mul] at value
      exact (Nat.mul_pos hpos (Nat.two_pow_pos 52)).ne value
    have above : compare (r : Int) 0 = .gt := Int.compare_eq_gt.mpr (by omega)
    have rounded := round_eq hm hr (value.trans hvalue) (s := 52) (by decide) .positive
    simp only [UnpackedFloat.normalize, above, Int.toNat_natCast]
    rw [show ((j : Int) - 52) = (j : Int) - (52 : Nat) from rfl, rounded]
    exact .normal hm hk hvalue

theorem isWhole_normalized {n : Nat} (hn : n ≤ 2 ^ 53) :
    IsWhole n (UnpackedFloat.ofNat .binary64 n) :=
  isWhole_normalize (j := 52) hn rfl

/-- A mantissa counted in a smaller unit has the same value. -/
theorem decreaseExponent_eq (m : Nat) {k j : Nat} (h : j ≤ k) :
    (decreaseExponent m ((k : Int) - 52) ((j : Int) - 52)).1 * 2 ^ j = m * 2 ^ k := by
  obtain ⟨d, rfl⟩ := Nat.exists_eq_add_of_le h
  have amount : (((j + d : Nat) : Int) - 52 - (j - 52)).toNat = d := by omega
  simp only [decreaseExponent, amount, Nat.shiftLeft_eq]
  rw [Nat.mul_assoc, ← Nat.pow_add, Nat.add_comm d]

theorem min_exponent (k l : Nat) :
    min ((k : Int) - 52) ((l : Int) - 52) = ((min k l : Nat) : Int) - 52 := by omega

theorem IsWhole.add {a b : Nat} {x y : UnpackedFloat} (hx : IsWhole a x) (hy : IsWhole b y)
    (h : a + b ≤ 2 ^ 53) : IsWhole (a + b) (UnpackedFloat.add .binary64 x y) := by
  cases hx with
  | zero =>
    rw [Nat.zero_add]
    cases hy with
    | zero => exact .zero
    | normal hm hk value => exact .normal hm hk value
  | @normal _ m k hm hk value =>
    cases hy with
    | zero => exact .normal hm hk value
    | @normal _ m' k' hm' hk' value' =>
      simp only [UnpackedFloat.add, min_exponent, Sign.apply, ← Int.natCast_add]
      refine isWhole_normalize h ?_
      rw [Nat.add_mul, decreaseExponent_eq m (Nat.min_le_left ..),
        decreaseExponent_eq m' (Nat.min_le_right ..), ← value, ← value', Nat.add_mul]

theorem IsWhole.sub {a b : Nat} {x y : UnpackedFloat} (hx : IsWhole a x) (hy : IsWhole b y)
    (ha : a ≤ 2 ^ 53) (h : b ≤ a) : IsWhole (a - b) (UnpackedFloat.sub .binary64 x y) := by
  cases hy with
  | zero =>
    cases hx with
    | zero => exact .zero
    | normal hm hk value => exact .normal hm hk value
  | @normal _ m' k' hm' hk' value' =>
    cases hx with
    | zero => exact absurd (Nat.lt_of_lt_of_le (hm'.value_pos value') h) (Nat.lt_irrefl 0)
    | @normal _ m k hm hk value =>
      have left := decreaseExponent_eq m (Nat.min_le_left k k')
      have right := decreaseExponent_eq m' (Nat.min_le_right k k')
      have le : (decreaseExponent m' ((k' : Int) - 52) ((min k k' : Nat) - 52)).1
          ≤ (decreaseExponent m ((k : Int) - 52) ((min k k' : Nat) - 52)).1 := by
        refine Nat.le_of_mul_le_mul_right ?_ (Nat.two_pow_pos (min k k'))
        rw [left, right, ← value, ← value']
        exact Nat.mul_le_mul_right _ h
      simp only [UnpackedFloat.sub, min_exponent, Sign.apply, ← Int.ofNat_sub le]
      refine isWhole_normalize (Nat.le_trans (Nat.sub_le ..) ha) ?_
      rw [Nat.sub_mul, left, right, ← value, ← value', Nat.sub_mul]

theorem IsWhole.mul {a b : Nat} {x y : UnpackedFloat} (hx : IsWhole a x) (hy : IsWhole b y)
    (h : a * b ≤ 2 ^ 53) : IsWhole (a * b) (UnpackedFloat.mul .binary64 x y) := by
  cases hx with
  | zero =>
    rw [Nat.zero_mul]
    cases hy with
    | zero => exact .zero
    | normal hm hk value => exact .zero
  | @normal _ m k hm hk value =>
    cases hy with
    | zero => exact .zero
    | @normal _ m' k' hm' hk' value' =>
      obtain ⟨M, K, hM, hK, hvalue⟩ :=
        exists_normal (Nat.mul_pos (hm.value_pos value) (hm'.value_pos value')) h
      have same : m * m' * 2 ^ (k + k') = M * 2 ^ (K + 52) := by
        rw [Nat.pow_add, Nat.pow_add, ← Nat.mul_assoc M, ← hvalue]
        calc m * m' * (2 ^ k * 2 ^ k') = (m * 2 ^ k) * (m' * 2 ^ k') := by ring
          _ = (a * 2 ^ 52) * (b * 2 ^ 52) := by rw [value, value']
          _ = a * b * 2 ^ 52 * 2 ^ 52 := by ring
      -- the product of the two mantissas has more bits than its rounding
      have hlog := congrArg Nat.log2 same
      have low : 52 ≤ (m * m').log2 := (Nat.le_log2 (Nat.mul_pos hm.pos hm'.pos).ne').mpr
        (Nat.le_trans hm.low (Nat.le_mul_of_pos_right m hm'.pos))
      rw [log2_mul_two_pow (Nat.mul_pos hm.pos hm'.pos), log2_mul_two_pow hM.pos, hM.log2] at hlog
      obtain ⟨d, hd⟩ := Nat.exists_eq_add_of_le (show k + k' ≤ K + 52 by omega)
      rw [hd] at same
      have mantissa : m * m' = M * 2 ^ d := eq_mul_two_pow same
      have exponent : (k : Int) - 52 + (k' - 52) + d = K - 52 := by omega
      have rounded := roundWithAccuracy_eq hM d (e := (k : Int) - 52 + (k' - 52)) (by omega) .positive
      show IsWhole (a * b) (roundWithAccuracy .binary64 .positive (m * m') _ .exact)
      rw [mantissa, rounded]
      simp only [exponent]
      exact .normal hM hK hvalue

/-! ## Packing -/

theorem Normal.toNat_hidden {m : Nat} (h : Normal m) : (1#1 ++ BitVec.ofNat 52 m).toNat = m := by
  have low := h.low
  have high := h.high
  rw [Exact.toNat_hidden, BitVec.toNat_ofNat, Exact.leastNormal]
  omega

/-- With its leading bit in place and an exponent that there is room for, a number comes out of its
bits as it went in. -/
theorem Normal.unpack_pack {m : Nat} (hm : Normal m) {e : Int} (low : -1074 ≤ e) (high : e ≤ 971)
    (sign : Sign) :
    unpack .binary64 (pack .binary64 (.finite sign m e hm.pos)) = .finite sign m e hm.pos := by
  obtain ⟨k, hk⟩ : ∃ k : Nat, e = (k : Int) - 1075 := ⟨(e + 1075).toNat, by omega⟩
  have biased : (e + Format.binary64.exponentBias +
      Format.binary64.mantissaBitsWithoutImplicit).toNat = k := by
    show (e + 1023 + 52).toNat = _
    omega
  have field : (BitVec.ofNat 11 k).toNat = k := by
    rw [BitVec.toNat_ofNat]
    omega
  have notFull : BitVec.ofNat 11 k ≠ -1#11 := by
    intro h
    have := congrArg BitVec.toNat h
    rw [field] at this
    simp at this
    omega
  have notBare : BitVec.ofNat 11 k ≠ 0#11 := by
    intro h
    have := congrArg BitVec.toNat h
    rw [field] at this
    simp at this
    omega
  have packed : pack .binary64 (.finite sign m e hm.pos) =
      packComponents .binary64 sign (BitVec.ofNat 11 k) (BitVec.ofNat 52 m) := by
    have bits : 52 + 1 = Format.binary64.mantissaBits := rfl
    simp only [pack, biased, hm.log2]
    rw [if_neg (by omega), if_pos bits]
  rw [packed]
  simp only [unpack, unpackExponent_packComponents, unpackMantissa_packComponents,
    unpackSign_packComponents, Sign.ofBitVec_toBitVec]
  rw [if_neg notFull, if_neg notBare]
  simp only [hm.toNat_hidden, field]
  have exponent : (k : Int) - (Format.binary64.exponentBias + (52 : Nat)) = e := by
    show (k : Int) - 1075 = _
    omega
  simp only [exponent]

theorem IsWhole.unpack_pack {n : Nat} {x : UnpackedFloat} (h : IsWhole n x) :
    unpack .binary64 (pack .binary64 x) = x := by
  cases h with
  | zero => rfl
  | normal hm hk value => exact hm.unpack_pack (by omega) (by omega) .positive

/-! ## Whole numbers as floats -/

theorem ofModel_pack {n : Nat} {x : UnpackedFloat} (h : IsWhole n x) (hn : n ≤ 2 ^ 53) :
    Float.ofModel (.pack x) = Float.ofModel (.ofNat n) :=
  congrArg (fun u => Float.ofModel (.pack u)) (h.unique (isWhole_normalized hn))

theorem isWhole_ofModel {n : Nat} (hn : n ≤ 2 ^ 53) :
    IsWhole n (Float.ofModel (.ofNat n)).toModel.unpack := by
  have h := isWhole_normalized hn
  rw [← h.unpack_pack] at h
  exact h

/-- A number of up to 53 bits is turned into a float and then multiplied by one. -/
theorem ofNat_eq {n : Nat} (hn : n ≤ 2 ^ 53) : Float.ofNat n = .ofModel (.ofNat n) := by
  rcases Nat.lt_or_eq_of_le hn with hlt | rfl
  · have one : Float.ofBits 0x3FF0000000000000 = .ofModel (.ofNat 1) := by decide +kernel
    have word : n.toUInt64.toFloat = .ofModel (.ofNat n) := by
      show Float.ofModel (.ofNat n.toUInt64.toNat) = _
      rw [Nat.toUInt64, UInt64.toNat_ofNat_of_lt' (Nat.lt_trans hlt (by decide))]
    have quick : Float.ofNat n = Float.mul n.toUInt64.toFloat (.ofBits 0x3FF0000000000000) := by
      show Float.ofScientific n false 0 = _
      rw [Float.ofScientific, dif_pos ⟨hlt, by decide⟩]
      rfl
    have product := (isWhole_ofModel hn).mul (isWhole_ofModel (n := 1) (by decide))
      (by rw [Nat.mul_one]; exact hn)
    rw [Nat.mul_one] at product
    rw [quick, one, word]
    exact ofModel_pack product hn
  · decide +kernel

theorem isWhole_ofNat {n : Nat} (hn : n ≤ 2 ^ 53) : IsWhole n (Float.ofNat n).toModel.unpack := by
  rw [ofNat_eq hn]
  exact isWhole_ofModel hn

theorem IsWhole.pack_eq {n : Nat} {x : UnpackedFloat} (h : IsWhole n x) (hn : n ≤ 2 ^ 53) :
    Float.ofModel (.pack x) = Float.ofNat n := by
  rw [ofNat_eq hn]
  exact ofModel_pack h hn

end Whole

open Whole in
/-- **Floats are exact on whole numbers** up to the 53rd power of two. -/
theorem exactUpTo_float : Arithmetic.ExactUpTo Float (2 ^ 53) where
  add {a b} h := by
    have ha : a ≤ 2 ^ 53 := Nat.le_trans (Nat.le_add_right ..) h
    have hb : b ≤ 2 ^ 53 := Nat.le_trans (Nat.le_add_left ..) h
    exact ((isWhole_ofNat ha).add (isWhole_ofNat hb) h).pack_eq h
  sub ha h :=
    ((isWhole_ofNat ha).sub (isWhole_ofNat (Nat.le_trans h ha)) ha h).pack_eq
      (Nat.le_trans (Nat.sub_le ..) ha)
  mul ha hb h := ((isWhole_ofNat ha).mul (isWhole_ofNat hb) h).pack_eq h

end Hedging
