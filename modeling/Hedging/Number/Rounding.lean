/-!
# Quotients of natural numbers, rounded

`roundHalfEven` takes a quotient to the nearest whole number and a half to the even neighbour.
Main statement: `roundHalfEven_near` (the result is within half a unit) and `roundHalfEven_tie`
(a half goes to the even side).
-/

namespace Hedging

/-- The whole number nearest to `num / den`; of two equally near ones the even one. -/
def roundHalfEven (num den : Nat) : Nat :=
  let q := num / den
  let twice := 2 * (num % den)
  if twice < den then q
  else if den < twice then q + 1
  else if q % 2 = 0 then q else q + 1

theorem roundHalfEven_near (num : Nat) {den : Nat} (h : 0 < den) :
    2 * num ≤ (2 * roundHalfEven num den + 1) * den ∧
      (2 * roundHalfEven num den) * den ≤ 2 * num + den := by
  have hdiv := Nat.div_add_mod num den
  have hmod := Nat.mod_lt num h
  have hq : (2 * (num / den) + 1) * den = 2 * (den * (num / den)) + den := by
    rw [Nat.add_mul, Nat.mul_assoc, Nat.mul_comm (num / den), Nat.one_mul]
  have hq1 : (2 * (num / den + 1) + 1) * den = 2 * (den * (num / den)) + 3 * den := by
    rw [show 2 * (num / den + 1) + 1 = 2 * (num / den) + 3 by omega, Nat.add_mul, Nat.mul_assoc,
      Nat.mul_comm (num / den)]
  have hr : 2 * (num / den) * den = 2 * (den * (num / den)) := by
    rw [Nat.mul_assoc, Nat.mul_comm (num / den)]
  have hr1 : 2 * (num / den + 1) * den = 2 * (den * (num / den)) + 2 * den := by
    rw [Nat.mul_add, Nat.add_mul, hr]
  simp only [roundHalfEven]
  split
  · omega
  · split
    · omega
    · split <;> omega

theorem roundHalfEven_tie (num den : Nat) (h : 2 * (num % den) = den) :
    roundHalfEven num den % 2 = 0 := by
  simp only [roundHalfEven, h, Nat.lt_irrefl, if_false]
  split <;> omega

/-- The decimal digits of `n`, filled up with zeros on the left to at least `width`. -/
def digitsPadded (width n : Nat) : List Char :=
  let ds := Nat.toDigits 10 n
  List.replicate (width - ds.length) '0' ++ ds

end Hedging
