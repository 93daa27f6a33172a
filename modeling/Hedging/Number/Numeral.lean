import Hedging.Number.Binary64
import Hedging.Number.Rounding
import Hedging.Number.Natural

/-!
# Numerals: the texts of binary64 numbers

A numeral is an optional sign followed by `inf`, `infinity` or `nan` in any case, or by decimal
digits with at most one point among them and an optional exponent. There must be a digit before the
exponent. The value is rounded once, from the exact ratio, with ties to even.
-/

namespace Hedging.Numeral

/-- Why a text is not a numeral. -/
inductive Problem
  | empty
  | invalid
deriving DecidableEq, Repr

/-- The wording of a problem. -/
def Problem.message : Problem → String
  | .empty => "cannot parse float from empty string"
  | .invalid => "invalid float literal"

/-- The pattern of infinity. -/
def infinityBits : Nat := 0x7ff0000000000000

/-- The exponent of two that brings `num / den` to at least `2 ^ 52` and below `2 ^ 53`, or the least
exponent there is. -/
def binaryExponent (num den : Nat) : Int :=
  let guess : Int := (Nat.log2 num : Int) - Nat.log2 den - 52
  let scaled := num * twoTo (-guess).toNat
  let exponent :=
    if scaled < Exact.leastNormal * (den * twoTo guess.toNat) then guess - 1 else guess
  max exponent Exact.leastExponent

/-- The pattern of the number nearest to `num / den`, of two the one with the even mantissa. A
mantissa rounded up to `2 ^ 53` carries into the exponent of the pattern by itself. -/
def roundedBits (num den : Nat) : Nat :=
  if num = 0 then 0
  else
    let exponent := binaryExponent num den
    let mantissa := roundHalfEven (num * twoTo (-exponent).toNat) (den * twoTo exponent.toNat)
    min ((exponent - Exact.leastExponent).toNat * Exact.leastNormal + mantissa) infinityBits

/-- The pattern of `digits * 10 ^ exponent`. Far outside the range of the numbers the power is not
computed. -/
def decimalBits (digits : Nat) (exponent : Int) : Nat :=
  if digits = 0 then 0
  else
    let magnitude := ((Nat.toDigits 10 digits).length : Int) + exponent
    if 400 < magnitude then infinityBits
    else if magnitude < -400 then 0
    else roundedBits (digits * tenTo exponent.toNat) (tenTo (-exponent).toNat)

/-- An exponent: a sign and at least one digit. -/
def readExponent (cs : List Char) : Option Int :=
  let (negative, ds) :=
    match cs with
    | '-' :: ds => (true, ds)
    | '+' :: ds => (false, ds)
    | ds => (false, ds)
  if ds.isEmpty || !ds.all Char.isDigit then none
  else
    let n := (Natural.value 0 ds : Int)
    some (if negative then -n else n)

/-- The pattern of an unsigned decimal. -/
def readDecimal (cs : List Char) : Option Nat :=
  let whole := cs.takeWhile Char.isDigit
  let rest := cs.dropWhile Char.isDigit
  let (part, rest) :=
    match rest with
    | '.' :: more => (more.takeWhile Char.isDigit, more.dropWhile Char.isDigit)
    | _ => ([], rest)
  if whole.isEmpty && part.isEmpty then none
  else
    let bits (exponent : Int) := decimalBits (Natural.value 0 (whole ++ part)) (exponent - part.length)
    match rest with
    | [] => some (bits 0)
    | 'e' :: ex => (readExponent ex).map bits
    | 'E' :: ex => (readExponent ex).map bits
    | _ => none

/-- The pattern of an unsigned numeral. -/
def readUnsigned (cs : List Char) : Option Nat :=
  let word := String.ofList (cs.map Char.toLower)
  if word = "inf" || word = "infinity" then some infinityBits
  else if word = "nan" then some 0x7ff8000000000000
  else readDecimal cs

/-- Reads a numeral. -/
def read (cs : List Char) : Except Problem Float :=
  let (negative, rest) :=
    match cs with
    | '-' :: rest => (true, rest)
    | '+' :: rest => (false, rest)
    | rest => (false, rest)
  match cs, readUnsigned rest with
  | [], _ => .error .empty
  | _, none => .error .invalid
  | _, some bits => .ok (Float.ofBits (UInt64.ofNat (if negative then Binary64.signBit + bits else bits)))

end Hedging.Numeral
