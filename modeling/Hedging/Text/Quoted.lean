import Hedging.Text.Printable
import Hedging.Text.Combining
import Hedging.Text.Ignorable

/-!
# Quoted text

A text between double quotes, so written that every character can be told: the quote, the backslash
and the usual control characters behind a backslash, and whatever has no ink of its own by its code
point in hexadecimal. A character that attaches to the one before it counts as having none, and so
does one that a display passes over, and every blank but the ASCII space. The halfwidth sound marks of
Katakana are written as they are: they attach to a syllable, but have the form of a letter.
-/

namespace Hedging.Text

/-- Is it one of the two halfwidth sound marks of Katakana? -/
def isSoundMark (c : Char) : Bool := c = '\uff9e' || c = '\uff9f'

/-- Has the character a form by which it can be told from all others? -/
def isLegible (c : Char) : Bool :=
  isPrintable c && (!isCombining c || isSoundMark c) && !isIgnorable c

/-- One character inside quotes. -/
def escape (c : Char) : List Char :=
  match c with
  | '\t' => ['\\', 't']
  | '\r' => ['\\', 'r']
  | '\n' => ['\\', 'n']
  | '"' => ['\\', '"']
  | '\\' => ['\\', '\\']
  | '\x00' => ['\\', '0']
  | c =>
    if isLegible c then [c]
    else '\\' :: 'u' :: '\x7b' :: Nat.toDigits 16 c.toNat ++ ['\x7d']

/-- A text in quotes. -/
def quoted (s : String) : String := String.ofList ('"' :: s.toList.flatMap escape ++ ['"'])

end Hedging.Text
