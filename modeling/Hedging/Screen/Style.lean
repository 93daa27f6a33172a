/-!
# Colours and styles

How a character on the screen looks.
-/

namespace Hedging

/-- A colour by its three parts. -/
structure Color where
  red : UInt8
  green : UInt8
  blue : UInt8
deriving DecidableEq, Repr

/-- How characters look. Without a colour of its own, the terminal's is used. -/
structure Style where
  foreground : Option Color
  background : Option Color
  bold : Bool
  underlined : Bool
deriving DecidableEq, Repr

namespace Style

/-- Nothing special. -/
def plain : Style := ⟨none, none, false, false⟩

/-- Characters in a colour. -/
def colored (c : Color) : Style := { plain with foreground := some c }

/-- Bold characters in a colour. -/
def strong (c : Color) : Style := { colored c with bold := true }

end Style

end Hedging
