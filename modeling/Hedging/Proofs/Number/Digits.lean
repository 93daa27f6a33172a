import Mathlib.Data.List.Basic
import Hedging.Number.Natural

/-!
# Which texts are whole numbers

A text stands for a natural number if it is one or more ASCII digits with that decimal value, with a
plus sign in front or without. `Natural.read` goes over the digits from left to right and looks at
the limit after every one of them; since the number read so far never gets smaller, what it says of
the limit at some digit is what is to be said of the whole number.

> `read_eq_ok_iff`: what is read is exactly what stands for a number within the limit.
> `read_of_large`: what stands for a number above the limit is refused as too large.
-/

namespace Hedging.Natural

/-- One or more ASCII digits of the decimal value `n`. -/
structure Digits (n : Nat) (ds : List Char) : Prop where
  ne_nil : ds ≠ []
  isDigit : ∀ c ∈ ds, c.isDigit = true
  value : Nat.ofDigitChars 10 ds 0 = n

/-- Digits, with a plus sign in front of them or without. -/
inductive Stands (n : Nat) : List Char → Prop
  | bare {ds : List Char} (h : Digits n ds) : Stands n ds
  | signed {ds : List Char} (h : Digits n ds) : Stands n ('+' :: ds)

variable {limit n m : Nat} {c : Char} {cs ds : List Char}

/-! ## Digits -/

theorem isDigit_iff : c.isDigit = true ↔ 48 ≤ c.toNat ∧ c.toNat ≤ 57 := by
  simp only [Char.isDigit, Bool.and_eq_true, decide_eq_true_eq, ge_iff_le, UInt32.le_iff_toNat_le]
  rfl

theorem digit?_of_isDigit (h : c.isDigit = true) : digit? c = some (c.toNat - '0'.toNat) :=
  if_pos (isDigit_iff.mp h)

theorem digit?_isSome_iff : (digit? c).isSome = true ↔ c.isDigit = true := by
  rw [isDigit_iff]
  unfold digit?
  split
  next h => exact iff_of_true rfl h
  next h => exact iff_of_false nofun h

theorem value_of_isDigit (n : Nat) (h : ∀ c ∈ ds, c.isDigit = true) :
    value n ds = Nat.ofDigitChars 10 ds n := by
  induction ds generalizing n with
  | nil => rfl
  | cons d ds ih =>
    obtain ⟨hd, hds⟩ := List.forall_mem_cons.mp h
    rw [value, digit?_of_isDigit hd, Option.getD_some, ih _ hds, Nat.ofDigitChars_cons]

/-- Digits whose value is above the limit are refused at the first digit at which it is passed. -/
theorem readDigits_of_large (hn : n ≤ limit) (hds : ∀ c ∈ ds, c.isDigit = true)
    (large : limit < value n ds) : readDigits limit n ds = .error .tooLarge := by
  induction ds generalizing n with
  | nil => exact absurd large (Nat.not_lt.mpr hn)
  | cons d ds ih =>
    obtain ⟨hd, hds⟩ := List.forall_mem_cons.mp hds
    rw [value, digit?_of_isDigit hd, Option.getD_some] at large
    rw [readDigits, digit?_of_isDigit hd]
    by_cases passed : limit < 10 * n + (d.toNat - '0'.toNat)
    · exact if_pos passed
    · exact (if_neg passed).trans (ih (Nat.not_lt.mp passed) hds large)

/-! ## The sign -/

theorem ne_plus_of_isDigit (h : c.isDigit = true) : c ≠ '+' := by
  rintro rfl
  exact absurd h (by decide)

theorem read_bare (hne : ds ≠ []) (hplus : ∀ c ∈ ds.head?, c ≠ '+') :
    read limit ds = readDigits limit 0 ds := by
  cases ds with
  | nil => exact absurd rfl hne
  | cons d ds =>
    have hd : d ≠ '+' := hplus d rfl
    simp [read, hd]

theorem read_signed (hne : ds ≠ []) : read limit ('+' :: ds) = readDigits limit 0 ds := by
  cases ds with
  | nil => exact absurd rfl hne
  | cons d ds => rfl

theorem Digits.read_eq (h : Digits n ds) : read limit ds = readDigits limit 0 ds := by
  refine read_bare h.ne_nil fun c hc => ?_
  exact ne_plus_of_isDigit (h.isDigit c (List.mem_of_mem_head? hc))

/-- The sign makes no difference. -/
theorem Stands.read_eq (h : Stands n cs) :
    ∃ ds, Digits n ds ∧ read limit cs = readDigits limit 0 ds := by
  cases h with
  | bare h => exact ⟨_, h, h.read_eq⟩
  | signed h => exact ⟨_, h, read_signed h.ne_nil⟩

/-! ## Reading -/

theorem readDigits_eq_ok_iff_digits (hne : ds ≠ []) :
    readDigits limit 0 ds = .ok n ↔ Digits n ds ∧ n ≤ limit := by
  rw [readDigits_eq_ok_iff (Nat.zero_le limit)]
  simp only [digit?_isSome_iff]
  constructor
  · rintro ⟨hds, hvalue, hle⟩
    exact ⟨⟨hne, hds, (value_of_isDigit 0 hds).symm.trans hvalue⟩, hle⟩
  · rintro ⟨h, hle⟩
    exact ⟨h.isDigit, (value_of_isDigit 0 h.isDigit).trans h.value, hle⟩

/-- **What is read** is what stands for a number within the limit. -/
theorem read_eq_ok_iff : read limit cs = .ok n ↔ Stands n cs ∧ n ≤ limit := by
  constructor
  · intro h
    rcases cs with - | ⟨c, cs⟩
    · cases h
    by_cases hplus : c = '+'
    · subst hplus
      by_cases hne : cs = []
      · subst hne
        cases h
      · rw [read_signed hne, readDigits_eq_ok_iff_digits hne] at h
        exact ⟨.signed h.1, h.2⟩
    · have hhead : ∀ d ∈ (c :: cs).head?, d ≠ '+' := by
        rintro d ⟨⟩
        exact hplus
      rw [read_bare (List.cons_ne_nil c cs) hhead,
        readDigits_eq_ok_iff_digits (List.cons_ne_nil c cs)] at h
      exact ⟨.bare h.1, h.2⟩
  · rintro ⟨h, hle⟩
    obtain ⟨ds, hds, hread⟩ := h.read_eq
    rw [hread, readDigits_eq_ok_iff_digits hds.ne_nil]
    exact ⟨hds, hle⟩

/-- What stands for a number above the limit is refused for that reason. -/
theorem read_of_large (h : Stands n cs) (large : limit < n) : read limit cs = .error .tooLarge := by
  obtain ⟨ds, hds, hread⟩ := h.read_eq
  rw [hread]
  refine readDigits_of_large (Nat.zero_le limit) hds.isDigit ?_
  rwa [value_of_isDigit 0 hds.isDigit, hds.value]

example : read 9 ['-', '0'] = .error .invalidDigit := rfl
example : read 9 ['+', '+', '1'] = .error .invalidDigit := rfl

/-! ## Writing -/

/-- The decimal digits of a number behind some zeros, with a plus sign or without. -/
def decimal (plus : Bool) (zeros n : Nat) : List Char :=
  (if plus then ['+'] else []) ++ (List.replicate zeros '0' ++ Nat.toDigits 10 n)

theorem digits_toDigits (zeros n : Nat) :
    Digits n (List.replicate zeros '0' ++ Nat.toDigits 10 n) where
  ne_nil := List.append_ne_nil_of_right_ne_nil _ Nat.toDigits_ne_nil
  isDigit c hc := by
    rcases List.mem_append.mp hc with hzero | hdigit
    · rw [List.eq_of_mem_replicate hzero]
      rfl
    · exact Nat.isDigit_of_mem_toDigits (by decide) (by decide) hdigit
  value := by
    rw [Nat.ofDigitChars_append, Nat.ofDigitChars_replicate_zero, Nat.mul_zero,
      Nat.ofDigitChars_ten_toDigits]

theorem stands_decimal (plus : Bool) (zeros n : Nat) : Stands n (decimal plus zeros n) := by
  cases plus with
  | false => exact .bare (digits_toDigits zeros n)
  | true => exact .signed (digits_toDigits zeros n)

end Hedging.Natural
