import Hedging.Text.Printable

/-!
# Syllables of Hangul

A syllable is written with a block of its own, or with its parts one after another: consonants at its
front, vowels, and consonants at its end. The vowels of Kirat Rai join each other in the same way. The
property `Hangul_Syllable_Type`.
-/

namespace Hedging.Text

/-- A part of a syllable. -/
inductive SyllablePart
  /-- A consonant at the front. -/
  | lead
  | vowel
  /-- A consonant at the end. -/
  | tail
  /-- A block that a vowel may still follow. -/
  | openBlock
  /-- A block with a consonant at its end. -/
  | closedBlock
deriving DecidableEq, Repr

namespace SyllablePart

/-- Consonants at the front of a syllable. -/
def leadRanges : List (Nat × Nat) := [(0x1100, 0x115f), (0xa960, 0xa97c)]

/-- Vowels. -/
def vowelRanges : List (Nat × Nat) := [
  (0x1160, 0x11a7), (0xd7b0, 0xd7c6), (0x16d63, 0x16d63), (0x16d67, 0x16d6a)]

/-- Consonants at the end of a syllable. -/
def tailRanges : List (Nat × Nat) := [(0x11a8, 0x11ff), (0xd7cb, 0xd7fb)]

/-- The blocks of whole syllables. -/
def blockRanges : List (Nat × Nat) := [(0xac00, 0xd7a3)]

/-- Blocks that differ only in the consonant at the end lie together, the one without it first. -/
def blocksPerVowel : Nat := 28

/-- What a character is to a syllable. -/
def ofChar? (c : Char) : Option SyllablePart :=
  let n := c.toNat
  if inRanges leadRanges n then some .lead
  else if inRanges vowelRanges n then some .vowel
  else if inRanges tailRanges n then some .tail
  else if inRanges blockRanges n then
    if (n - 0xac00) % blocksPerVowel = 0 then some .openBlock else some .closedBlock
  else none

/-- Can the second part go on with the syllable that the first one belongs to? -/
def continues : SyllablePart → SyllablePart → Bool
  | .lead, .lead | .lead, .vowel | .lead, .openBlock | .lead, .closedBlock => true
  | .openBlock, .vowel | .openBlock, .tail | .vowel, .vowel | .vowel, .tail => true
  | .closedBlock, .tail | .tail, .tail => true
  | _, _ => false

end SyllablePart

/-- Do two neighbours belong to one syllable? -/
def inOneSyllable (c d : Char) : Bool :=
  match SyllablePart.ofChar? c, SyllablePart.ofChar? d with
  | some p, some q => p.continues q
  | _, _ => false

end Hedging.Text
