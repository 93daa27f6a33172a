import Hedging.Screen.Style
import Hedging.Text.Width

/-!
# Rows of cells

A cell is one position of the screen: a character with what attaches to it, and a style. Styled text
is laid out cluster by cluster; `fit` cuts or fills a row to a width. For reading a row back, `runs`
joins neighbours of equal style; `runs_text` says that no character is lost on the way, and
`style_ne_of_infix_runs` that neighbouring runs differ in style.
-/

namespace Hedging

/-- Text in one style. -/
structure Styled where
  text : String
  style : Style
deriving DecidableEq, Repr

/-- One position of the screen. -/
structure Cell where
  /-- A cluster of characters. -/
  glyph : List Char
  style : Style
deriving DecidableEq, Repr

namespace Cell

/-- A blank of a style. -/
def blankOf (style : Style) : Cell := ⟨[' '], style⟩

/-- A blank without a style. -/
def blank : Cell := blankOf .plain

/-- The cells of a cluster: the first one holds it, and the others are plain. -/
def ofCluster (style : Style) (cluster : List Char) : List Cell :=
  match Text.width cluster with
  | 0 => []
  | n + 1 => ⟨cluster, style⟩ :: List.replicate n blank

/-- A cluster has as many cells as it takes places. -/
theorem length_ofCluster (style : Style) (cluster : List Char) :
    (ofCluster style cluster).length = Text.width cluster := by
  unfold ofCluster
  split <;> simp [*]

/-- The cells of a styled text, cluster by cluster. -/
def ofStyled (t : Styled) : List Cell := (Text.clusters t.text.toList).flatMap (ofCluster t.style)

/-- The cells of styled texts one after another. -/
def row (line : List Styled) : List Cell := line.flatMap ofStyled

/-- Cuts or fills a row to a width. -/
def fit (width : Nat) (filler : Cell) (cells : List Cell) : List Cell :=
  cells.take width ++ List.replicate (width - cells.length) filler

@[simp] theorem length_fit (width : Nat) (filler : Cell) (cells : List Cell) :
    (fit width filler cells).length = width := by
  simp only [fit, List.length_append, List.length_take, List.length_replicate]
  omega

/-- A row without the plain blanks at its end. -/
def trimRight (cells : List Cell) : List Cell :=
  (cells.reverse.dropWhile (· == blank)).reverse

/-- Joins neighbours of equal style. -/
def runs : List Cell → List (List Char × Style)
  | [] => []
  | c :: cells =>
    match runs cells with
    | [] => [(c.glyph, c.style)]
    | (text, style) :: rest =>
      if c.style = style then (c.glyph ++ text, style) :: rest
      else (c.glyph, c.style) :: (text, style) :: rest

/-- The runs hold the characters of the row in their order. -/
theorem runs_text (cells : List Cell) :
    (runs cells).flatMap (·.1) = cells.flatMap (·.glyph) := by
  induction cells with
  | nil => rfl
  | cons c cells ih =>
    rw [List.flatMap_cons, ← ih, runs]
    split
    · simp [*]
    · split <;> simp [*]

/-- Neighbouring runs differ in style. -/
theorem style_ne_of_infix_runs {cells : List Cell} {a b : List Char × Style}
    (h : [a, b] <:+: runs cells) : a.2 ≠ b.2 := by
  induction cells generalizing a b with
  | nil => simp [runs] at h
  | cons c cells ih =>
    simp only [runs] at h
    split at h
    · simp [List.infix_cons_iff, List.cons_prefix_cons] at h
    · rename_i text style rest hrest
      rw [hrest] at ih
      split at h
      · rw [List.infix_cons_iff, List.cons_prefix_cons] at h
        rcases h with ⟨rfl, h⟩ | h
        · exact @ih (text, style) b
            (List.infix_cons_iff.mpr (.inl (List.cons_prefix_cons.mpr ⟨rfl, h⟩)))
        · exact ih (List.infix_cons_iff.mpr (.inr h))
      · rw [List.infix_cons_iff, List.cons_prefix_cons, List.cons_prefix_cons] at h
        rcases h with ⟨rfl, rfl, _⟩ | h
        · assumption
        · exact ih h

end Cell

end Hedging
