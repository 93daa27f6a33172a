/-!
# Texts of a width

Blanks are added until a text has as many characters as its column is wide; longer texts stay whole.
-/

namespace Hedging.Text

/-- A text at the left of its column. -/
def padRight (width : Nat) (s : String) : String :=
  s ++ String.ofList (List.replicate (width - s.length) ' ')

/-- A text at the right of its column. -/
def padLeft (width : Nat) (s : String) : String :=
  String.ofList (List.replicate (width - s.length) ' ') ++ s

theorem length_padRight (width : Nat) (s : String) :
    (padRight width s).length = max width s.length := by
  simp only [padRight, String.length_append, String.length_ofList, List.length_replicate]
  omega

theorem length_padLeft (width : Nat) (s : String) :
    (padLeft width s).length = max width s.length := by
  simp only [padLeft, String.length_append, String.length_ofList, List.length_replicate]
  omega

/-- The text of an optional value. -/
def optional (shown : Option String) : String := shown.elim "None" fun s => s!"Some({s})"

end Hedging.Text
