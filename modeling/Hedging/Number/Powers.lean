/-!
# Powers and words

Powers of two and of ten, and the greatest numbers that fit into a word.
-/

namespace Hedging

/-- The `n`-th power of two. -/
def twoTo (n : Nat) : Nat := Nat.pow 2 n

/-- The `n`-th power of ten. -/
def tenTo (n : Nat) : Nat := Nat.pow 10 n

theorem twoTo_pos (n : Nat) : 0 < twoTo n := Nat.pow_pos (by decide)

theorem tenTo_pos (n : Nat) : 0 < tenTo n := Nat.pow_pos (by decide)

/-- The greatest number of 32 bits. -/
def maxWord32 : Nat := 0xffffffff

/-- The greatest number of 64 bits. -/
def maxWord64 : Nat := 0xffffffffffffffff

end Hedging
