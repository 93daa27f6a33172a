/-!
# Natural numbers in decimal text

`read limit` takes an optional plus sign and one or more of the ten ASCII digits, and refuses a
number above `limit`. Reading goes from left to right, so the first fault met is the one reported.
Main statement: `readDigits_eq_ok_iff`, which says that a text is read exactly when all its
characters are digits and their value fits.
-/

namespace Hedging.Natural

/-- Why a text is not a natural number within the limit. -/
inductive Problem
  | empty
  | invalidDigit
  | tooLarge
deriving DecidableEq, Repr

/-- The wording of a problem. -/
def Problem.message : Problem → String
  | .empty => "cannot parse integer from empty string"
  | .invalidDigit => "invalid digit found in string"
  | .tooLarge => "number too large to fit in target type"

/-- The value of an ASCII digit. -/
def digit? (c : Char) : Option Nat :=
  if 48 ≤ c.toNat ∧ c.toNat ≤ 57 then some (c.toNat - 48) else none

/-- Appends digits to the number read so far. -/
def readDigits (limit : Nat) : Nat → List Char → Except Problem Nat
  | n, [] => .ok n
  | n, c :: cs =>
    match digit? c with
    | none => .error .invalidDigit
    | some d => if limit < 10 * n + d then .error .tooLarge else readDigits limit (10 * n + d) cs

/-- Reads a natural number of at most `limit`. -/
def read (limit : Nat) : List Char → Except Problem Nat
  | [] => .error .empty
  | ['+'] => .error .invalidDigit
  | '+' :: c :: cs => readDigits limit 0 (c :: cs)
  | c :: cs => readDigits limit 0 (c :: cs)

/-- The number that digits stand for, after the digits of `n`; other characters count as zeros. -/
def value : Nat → List Char → Nat
  | n, [] => n
  | n, c :: cs => value (10 * n + (digit? c).getD 0) cs

theorem le_value (n : Nat) (cs : List Char) : n ≤ value n cs := by
  induction cs generalizing n with
  | nil => exact Nat.le_refl n
  | cons c cs ih => exact Nat.le_trans (by omega) (ih _)

/-- Digits are read exactly when there is nothing else and their value is within the limit. -/
theorem readDigits_eq_ok_iff {limit n v : Nat} (hn : n ≤ limit) (cs : List Char) :
    readDigits limit n cs = .ok v ↔
      (∀ c ∈ cs, (digit? c).isSome) ∧ value n cs = v ∧ v ≤ limit := by
  induction cs generalizing n with
  | nil =>
    simp only [readDigits, value, Except.ok.injEq, List.not_mem_nil, false_implies, implies_true,
      true_and]
    omega
  | cons c cs ih =>
    cases hd : digit? c with
    | none => simp [readDigits, hd]
    | some d =>
      by_cases hl : limit < 10 * n + d
      · have := le_value (10 * n + d) cs
        simp only [readDigits, hd, if_pos hl, value, List.mem_cons, Option.getD_some]
        constructor
        · intro h
          cases h
        · intro h
          omega
      · simp only [readDigits, hd, if_neg hl, value, Option.getD_some]
        rw [ih (by omega)]
        simp [hd]

end Hedging.Natural
