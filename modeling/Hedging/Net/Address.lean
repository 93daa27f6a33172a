/-!
# Internet addresses

Addresses of both families, read from their literals and written in canonical form. A version 4
literal has four decimal octets without leading zeros. A version 6 literal has eight groups of up to
four hexadecimal digits; `::` stands for one or more groups of zeros, and the last two groups may be
written as a version 4 literal. The canonical form shortens the longest run of at least two zero
groups, of equally long ones the first.
-/

namespace Hedging

/-- An internet address: four octets or eight groups of sixteen bits. -/
inductive Address
  | v4 (octets : List UInt8)
  | v6 (groups : List UInt16)
deriving DecidableEq, Repr

namespace Address

/-- The parts of a text between the separators. -/
def splitAt (separator : Char) : List Char → List (List Char)
  | [] => [[]]
  | c :: cs =>
    match splitAt separator cs with
    | [] => [[c]]
    | part :: parts => if c = separator then [] :: part :: parts else (c :: part) :: parts

/-- The value of a hexadecimal digit. -/
def hexDigit? (c : Char) : Option Nat :=
  if '0' ≤ c && c ≤ '9' then some (c.toNat - 48)
  else if 'a' ≤ c && c ≤ 'f' then some (c.toNat - 87)
  else if 'A' ≤ c && c ≤ 'F' then some (c.toNat - 55)
  else none

/-- The value of digits to a base, if they are all digits. -/
def digitsValue? (base : Nat) (digit? : Char → Option Nat) (cs : List Char) : Option Nat :=
  cs.foldlM (fun n c => (digit? c).map (base * n + ·)) 0

/-- An octet: up to three digits, not above 255, without leading zeros. -/
def octet? (cs : List Char) : Option UInt8 := do
  let decimalDigit? (c : Char) := if c.isDigit then some (c.toNat - 48) else none
  guard (!cs.isEmpty && cs.length ≤ 3 && (cs.length == 1 || cs.head? != some '0'))
  let n ← digitsValue? 10 decimalDigit? cs
  guard (n ≤ 255)
  return UInt8.ofNat n

/-- The octets of a version 4 literal. -/
def octets? (cs : List Char) : Option (List UInt8) := do
  let octets ← (splitAt '.' cs).mapM octet?
  guard (octets.length == 4)
  return octets

/-- A group: one to four hexadecimal digits. -/
def group? (cs : List Char) : Option UInt16 := do
  guard (!cs.isEmpty && cs.length ≤ 4)
  return UInt16.ofNat (← digitsValue? 16 hexDigit? cs)

/-- The sixteen bits of two octets. -/
def pair (high low : UInt8) : UInt16 := UInt16.ofNat (256 * high.toNat + low.toNat)

/-- The groups of the last part of a literal: one group, or a version 4 literal for two. -/
def lastGroups? (cs : List Char) : Option (List UInt16) :=
  match group? cs with
  | some g => some [g]
  | none =>
    match octets? cs with
    | some [a, b, c, d] => some [pair a b, pair c d]
    | _ => none

/-- Groups with colons between them. -/
def groups? (embedded : Bool) (cs : List Char) : Option (List UInt16) := do
  let parts := splitAt ':' cs
  let front ← parts.dropLast.mapM group?
  let back ← parts.getLast?.bind fun part =>
    if embedded then lastGroups? part else (group? part).map ([·])
  return front ++ back

/-- The texts in front of and behind the first `::`. -/
def splitAtGap : List Char → Option (List Char × List Char)
  | ':' :: ':' :: cs => some ([], cs)
  | c :: cs => (splitAtGap cs).map fun (front, back) => (c :: front, back)
  | [] => none

/-- The groups of a version 6 literal. -/
def allGroups? (cs : List Char) : Option (List UInt16) :=
  match splitAtGap cs with
  | none => do
    let groups ← groups? true cs
    guard (groups.length == 8)
    return groups
  | some (front, back) => do
    let head ← if front.isEmpty then some [] else groups? false front
    let tail ← if back.isEmpty then some [] else groups? true back
    guard (head.length + tail.length ≤ 7)
    return head ++ List.replicate (8 - head.length - tail.length) 0 ++ tail

/-- Reads an address literal. -/
def read? (s : String) : Option Address :=
  match octets? s.toList with
  | some octets => some (.v4 octets)
  | none => (allGroups? s.toList).map .v6

/-- Octets with points between them. -/
def dotted (octets : List UInt8) : String :=
  ".".intercalate (octets.map fun o => toString o.toNat)

/-- Groups with colons between them. -/
def colons (groups : List UInt16) : String :=
  ":".intercalate (groups.map fun g => String.ofList (Nat.toDigits 16 g.toNat))

/-- Length of the run of zeros at the front. -/
def zeroRun (groups : List UInt16) : Nat := (groups.takeWhile (· == 0)).length

/-- Start and length of the longest run of zeros, of equally long ones the first. -/
def longestZeroRun (groups : List UInt16) : Nat × Nat :=
  (List.range groups.length).foldl (fun best start =>
    let length := zeroRun (groups.drop start)
    if best.2 < length then (start, length) else best) (0, 0)

/-- The octets of a version 4 address that is mapped into version 6. -/
def mapped? : List UInt16 → Option (List UInt8)
  | [0, 0, 0, 0, 0, 0xffff, a, b] =>
    some [(a >>> 8).toUInt8, a.toUInt8, (b >>> 8).toUInt8, b.toUInt8]
  | _ => none

/-- An address in canonical form. -/
def render : Address → String
  | .v4 octets => dotted octets
  | .v6 groups =>
    match mapped? groups with
    | some octets => "::ffff:" ++ dotted octets
    | none =>
      let (start, length) := longestZeroRun groups
      if length < 2 then colons groups
      else colons (groups.take start) ++ "::" ++ colons (groups.drop (start + length))

/-- Some addresses, in brackets. -/
def renderList (addresses : List Address) : String :=
  "[" ++ ", ".intercalate (addresses.map render) ++ "]"

end Address

end Hedging
