import Hedging.Number.Binary64
import Hedging.Number.Rounding

/-!
# Binary64 numbers in decimal digits

Two ways of writing a number: with the fewest digits that read back to it (`shortest`), and with a
fixed count of places after the point (`fixed`). Neither uses an exponent. Both work on the exact
ratio a number stands for, so there is no second rounding.

The numbers that round to a given one fill an interval around it. On the decimal grid of a given
count of digits, if any point lies in that interval, so does one of the two neighbours of the number
itself; the first grid with such a neighbour gives the fewest digits.
-/

namespace Hedging.Decimal

/-- The numbers that round to one binary64 number, over one denominator: the number itself, and the
ends of the interval, which belong to it if `closed`. -/
structure Span where
  low : Nat
  value : Nat
  high : Nat
  den : Nat
  closed : Bool

/-- The span of `mantissa * 2 ^ exponent`. Below a power of two the numbers lie twice as dense, and
ties of the reading go to even mantissas. -/
def Span.of (mantissa : Nat) (exponent : Int) : Span :=
  let unit := twoTo exponent.toNat
  let below := if mantissa = Exact.leastNormal ∧ Exact.leastExponent < exponent then 1 else 2
  { low := (4 * mantissa - below) * unit
    value := 4 * mantissa * unit
    high := (4 * mantissa + 2) * unit
    den := 4 * twoTo (-exponent).toNat
    closed := mantissa % 2 = 0 }

/-- Does `num / den` round to the number of the span? -/
def Span.contains (s : Span) (num den : Nat) : Bool :=
  let x := num * s.den
  if s.closed then s.low * den ≤ x && x ≤ s.high * den else s.low * den < x && x < s.high * den

/-- A positive decimal number: `digits * 10 ^ exponent`. -/
structure Digits where
  digits : Nat
  exponent : Int
deriving DecidableEq, Repr

/-- The value `digits * 10 ^ exponent` as a numerator over a denominator. -/
def Digits.ratio (d : Digits) : Nat × Nat :=
  (d.digits * tenTo d.exponent.toNat, tenTo (-d.exponent).toNat)

/-- How many times `num / den` has to be multiplied by ten to reach one, at most `fuel` times. -/
def zerosAfterPoint : (fuel num den : Nat) → Nat
  | 0, _, _ => 0
  | fuel + 1, num, den => if den ≤ num then 0 else zerosAfterPoint fuel (10 * num) den + 1

/-- The exponent of ten of the first digit of `num / den`. -/
def leadingExponent (num den : Nat) : Int :=
  if den ≤ num then (Nat.toDigits 10 (num / den)).length - 1
  else -(zerosAfterPoint 400 num den : Int)

/-- The neighbour with `count` digits that is in the span: of two the nearer, and of two equally
near the greater. -/
def Span.neighbour? (s : Span) (first : Int) (count : Nat) : Option Digits :=
  let step : Int := first - count + 1
  let (num, den) := Digits.ratio ⟨1, step⟩
  let down := s.value * den / (s.den * num)
  let ratioAt (k : Nat) := Digits.ratio ⟨k, step⟩
  let fits (k : Nat) := s.contains (ratioAt k).1 (ratioAt k).2
  if fits down then
    if fits (down + 1) && (2 * down + 1) * (s.den * num) ≤ 2 * s.value * den then
      some ⟨down + 1, step⟩
    else some ⟨down, step⟩
  else if fits (down + 1) then some ⟨down + 1, step⟩
  else none

/-- The fewest digits that read back, and of those the nearest. Seventeen digits always do. -/
def shortestDigits (mantissa : Nat) (exponent : Int) : Digits :=
  let s := Span.of mantissa exponent
  let first := leadingExponent s.value s.den
  ((List.range 17).findSome? fun i => s.neighbour? first (i + 1)).getD ⟨0, 0⟩

/-- A positive decimal written out without an exponent. -/
def Digits.positional (d : Digits) : List Char :=
  let ds := Nat.toDigits 10 d.digits
  if 0 ≤ d.exponent then ds ++ List.replicate d.exponent.toNat '0'
  else
    let places := (-d.exponent).toNat
    let padded := digitsPadded (places + 1) d.digits
    let whole := padded.take (padded.length - places)
    let part := (padded.drop (padded.length - places)).reverse.dropWhile (· == '0') |>.reverse
    if part.isEmpty then whole else whole ++ '.' :: part

/-- The sign in front of a number. -/
def sign (negative : Bool) : List Char := if negative then ['-'] else []

/-- A number with the fewest digits that read back to it, never with an exponent. -/
def shortest (x : Float) : String :=
  match exact x with
  | .nan => "NaN"
  | .infinite negative => String.ofList (sign negative ++ "inf".toList)
  | .finite negative 0 _ => String.ofList (sign negative ++ ['0'])
  | .finite negative mantissa exponent =>
    String.ofList (sign negative ++ (shortestDigits mantissa exponent).positional)

/-- A number with exactly `places` digits after the point, the exact value rounded and a half taken
to the even digit. The sign stays even where only zeros are left. -/
def fixed (places : Nat) (x : Float) : String :=
  match exact x with
  | .nan => "NaN"
  | .infinite negative => String.ofList (sign negative ++ "inf".toList)
  | .finite negative mantissa exponent =>
    let (num, den) := Exact.ratio mantissa exponent
    let ds := digitsPadded (places + 1) (roundHalfEven (num * tenTo places) den)
    let whole := ds.take (ds.length - places)
    let part := ds.drop (ds.length - places)
    String.ofList (sign negative ++ if places = 0 then whole else whole ++ '.' :: part)

end Hedging.Decimal
