import Hedging.Number.Binary64
import Hedging.Screen.Cells

/-!
# Charts made of characters

Three ways to show numbers in a row of characters: a bar for a share, a sparkline for the most recent
of some values, and a gauge with a label across it. `length_barOf`, `length_sparkline_le` and
`length_gauge` give their widths.
-/

namespace Hedging.Chart

/-- A share kept between zero and one. -/
def clampShare (share : Float) : Float := if share < 0 then 0 else if 1 < share then 1 else share

/-- How many of `width` characters a share fills. -/
def filledOf (share : Float) (width : Nat) : Nat :=
  (exact (clampShare share * Float.ofNat width)).truncated

/-- A bar between brackets whose first `filled` of `width` characters are full. -/
def barOf (filled width : Nat) : List Char :=
  '[' :: List.replicate filled '█' ++ List.replicate (width - filled) '░' ++ [']']

theorem length_barOf {filled width : Nat} (h : filled ≤ width) :
    (barOf filled width).length = width + 2 := by
  simp only [barOf, List.cons_append, List.length_cons, List.length_append, List.length_replicate,
    List.length_nil]
  omega

/-- A bar that shows a share. -/
def bar (share : Float) (width : Nat) : List Char := barOf (filledOf share width) width

/-- The steps of a sparkline, the lowest one first. -/
def steps : List Char := ['▁', '▂', '▃', '▄', '▅', '▆', '▇', '█']

/-- Values shown by a sparkline. -/
def sparklineWidth : Nat := 11

/-- The greatest of some values. -/
def greatest (values : List Nat) : Nat := values.foldl max 0

/-- The least of some values. -/
def least : List Nat → Nat
  | [] => 0
  | v :: values => values.foldl min v

/-- The step for a value between the least and the greatest. -/
def stepOf (low range value : Nat) : Char :=
  let height := (exact (Float.ofNat (value - low) / Float.ofNat range * 7)).truncated
  steps.getD (min height 7) '█'

/-- The most recent values, scaled to the range of all of them. Without values there is a line. -/
def sparkline (values : List Nat) : List Char :=
  if values.isEmpty then List.replicate sparklineWidth '─'
  else
    let low := least values
    let range := max (greatest values - low) 1
    (values.drop (values.length - sparklineWidth)).map (stepOf low range)

theorem length_sparkline_le (values : List Nat) :
    (sparkline values).length ≤ sparklineWidth := by
  unfold sparkline
  split
  · simp
  · simp only [List.length_map, List.length_drop]
    omega

/-- One column of a gauge. Full columns under the label, and the one after it, are left empty and swap
their colours, so that the label can be read. -/
def gaugeCell (filled start : Nat) (label : List Char) (style : Style) (column : Nat) : Cell :=
  let inverse := { style with foreground := style.background, background := style.foreground }
  let ground : Cell :=
    if column < filled then
      if start ≤ column ∧ column ≤ start + label.length then .blankOf inverse else ⟨['█'], style⟩
    else .blankOf style
  if start ≤ column then
    match label[column - start]? with
    | some c => { ground with glyph := [c] }
    | none => ground
  else ground

/-- A gauge that is full to a percentage, rounded to whole columns, with a label in its middle. -/
def gauge (width percent : Nat) (label : List Char) (style : Style) : List Cell :=
  (List.range width).map
    (gaugeCell ((2 * width * percent + 100) / 200) ((width - label.length) / 2) label style)

theorem length_gauge (width percent : Nat) (label : List Char) (style : Style) :
    (gauge width percent label style).length = width := by
  simp [gauge]

end Hedging.Chart
