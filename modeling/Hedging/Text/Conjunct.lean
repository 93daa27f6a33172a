import Hedging.Text.Combining

/-!
# Conjuncts

In many scripts of India and of the lands around it, a sign between two consonants stacks them or runs
them together into one shape. Marks may stand between the consonants as well, but not the character
that keeps its neighbours apart. The property `Indic_Conjunct_Break` in version 17 of the character
database.
-/

namespace Hedging.Text

/-- The character that joins its neighbours. -/
def joiner : Char := '\u200d'

/-- The character that keeps its neighbours apart. -/
def nonJoiner : Char := '\u200c'

/-- Signs that join the consonants on their two sides: the property value `Linker`. -/
def linkers : List Nat := [
  0x94d, 0x9cd, 0xacd, 0xb4d, 0xc4d, 0xd4d, 0x1039, 0x17d2, 0x1a60, 0x1b44, 0x1bab, 0xa9c0, 0xaaf6,
  0x10a3f, 0x11133, 0x113d0, 0x1193e, 0x11a47, 0x11a99, 0x11f42]

/-- Consonants that can be joined, and the vowels that count as such in scripts that stack their
letters: the property value `Consonant`. -/
def consonantRanges : List (Nat × Nat) := [
  (0x915, 0x939), (0x958, 0x95f), (0x978, 0x97f), (0x995, 0x9a8), (0x9aa, 0x9b0), (0x9b2, 0x9b2),
  (0x9b6, 0x9b9), (0x9dc, 0x9dd), (0x9df, 0x9df), (0x9f0, 0x9f1), (0xa95, 0xaa8), (0xaaa, 0xab0),
  (0xab2, 0xab3), (0xab5, 0xab9), (0xaf9, 0xaf9), (0xb15, 0xb28), (0xb2a, 0xb30), (0xb32, 0xb33),
  (0xb35, 0xb39), (0xb5c, 0xb5d), (0xb5f, 0xb5f), (0xb71, 0xb71), (0xc15, 0xc28), (0xc2a, 0xc39),
  (0xc58, 0xc5a), (0xd15, 0xd3a), (0x1000, 0x102a), (0x103f, 0x103f), (0x1050, 0x1055),
  (0x105a, 0x105d), (0x1061, 0x1061), (0x1065, 0x1066), (0x106e, 0x1070), (0x1075, 0x1081),
  (0x108e, 0x108e), (0x1780, 0x17b3), (0x1a20, 0x1a54), (0x1b0b, 0x1b0c), (0x1b13, 0x1b33),
  (0x1b45, 0x1b4c), (0x1b83, 0x1ba0), (0x1bae, 0x1baf), (0x1bbb, 0x1bbd), (0xa989, 0xa98b),
  (0xa98f, 0xa9b2), (0xa9e0, 0xa9e4), (0xa9e7, 0xa9ef), (0xa9fa, 0xa9fe), (0xaa60, 0xaa6f),
  (0xaa71, 0xaa73), (0xaa7a, 0xaa7a), (0xaa7e, 0xaa7f), (0xaae0, 0xaaea), (0xabc0, 0xabda),
  (0x10a00, 0x10a00), (0x10a10, 0x10a13), (0x10a15, 0x10a17), (0x10a19, 0x10a35),
  (0x11103, 0x11126), (0x11144, 0x11144), (0x11147, 0x11147), (0x11380, 0x11389),
  (0x1138b, 0x1138b), (0x1138e, 0x1138e), (0x11390, 0x113b5), (0x11900, 0x11906),
  (0x11909, 0x11909), (0x1190c, 0x11913), (0x11915, 0x11916), (0x11918, 0x1192f),
  (0x11a00, 0x11a00), (0x11a0b, 0x11a32), (0x11a50, 0x11a50), (0x11a5c, 0x11a83),
  (0x11f04, 0x11f10), (0x11f12, 0x11f33)]

/-- Does the sign join the consonants on its two sides? -/
def isLinker (c : Char) : Bool := linkers.contains c.toNat

/-- Is the character a consonant that can be joined? -/
def isConsonant (c : Char) : Bool := inRanges consonantRanges c.toNat

/-- Can the character stand between two joined consonants? -/
def isConjunctMark (c : Char) : Bool := isLinker c || c = joiner || (isCombining c && c != nonJoiner)

/-- Is a consonant joined to what stands before it? That is given with its last character first. -/
def endsInLinker (before : List Char) : Bool :=
  (before.takeWhile isConjunctMark).any isLinker &&
    (before.dropWhile isConjunctMark).head?.any isConsonant

/-- A consonant that nothing separates from the one before is not joined to it. -/
theorem endsInLinker_cons_of_not_mark {c : Char} (h : isConjunctMark c = false)
    (before : List Char) : endsInLinker (c :: before) = false := by
  simp [endsInLinker, h]

end Hedging.Text
