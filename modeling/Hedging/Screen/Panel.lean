import Hedging.Screen.Cells

/-!
# Panels on a screen

A panel is a box with a title and rows of cells inside. A screen is covered by panels that do not
overlap; each of its positions belongs to the first panel whose frame contains it.
-/

namespace Hedging

/-- A rectangle of the screen. -/
structure Frame where
  x : Nat
  y : Nat
  width : Nat
  height : Nat
deriving DecidableEq, Repr

/-- Does a position lie in a rectangle? -/
def Frame.contains (f : Frame) (x y : Nat) : Bool :=
  f.x ≤ x && x < f.x + f.width && f.y ≤ y && y < f.y + f.height

/-- A titled box. -/
structure Panel where
  title : Styled
  border : Style
  frame : Frame
  rows : List (List Cell)

namespace Panel

/-- Columns inside the box. -/
def innerWidth (p : Panel) : Nat := p.frame.width - 2

/-- Rows inside the box. -/
def innerHeight (p : Panel) : Nat := p.frame.height - 2

/-- What is seen inside the box. -/
def inside (p : Panel) : List (List Cell) :=
  (p.rows.take p.innerHeight).map (Cell.fit p.innerWidth .blank)

/-- The upper edge, with the title one column after the corner. -/
def top (p : Panel) : List Cell :=
  let dash : Cell := ⟨['─'], p.border⟩
  ⟨['┌'], p.border⟩ :: Cell.fit p.innerWidth dash (Cell.ofStyled p.title) ++ [⟨['┐'], p.border⟩]

/-- The lower edge. -/
def bottom (p : Panel) : List Cell :=
  ⟨['└'], p.border⟩ :: List.replicate p.innerWidth ⟨['─'], p.border⟩ ++ [⟨['┘'], p.border⟩]

/-- One row between the edges. -/
def enclose (p : Panel) (row : List Cell) : List Cell :=
  ⟨['│'], p.border⟩ :: Cell.fit p.innerWidth .blank row ++ [⟨['│'], p.border⟩]

/-- The whole box, row by row. -/
def box (p : Panel) : List (List Cell) :=
  p.top :: (List.range p.innerHeight).map (fun i => p.enclose (p.inside.getD i [])) ++ [p.bottom]

/-- Every row of a box is as wide as the box. -/
theorem length_of_mem_box {p : Panel} (h : 2 ≤ p.frame.width) {row : List Cell} (hrow : row ∈ p.box) :
    row.length = p.frame.width := by
  simp only [box, List.cons_append, List.mem_cons, List.mem_append, List.mem_map,
    List.not_mem_nil, or_false] at hrow
  rcases hrow with rfl | ⟨i, _, rfl⟩ | rfl
  · simp only [top, innerWidth, List.cons_append, List.length_cons, List.length_append,
      Cell.length_fit, List.length_nil]
    omega
  · simp only [enclose, innerWidth, List.cons_append, List.length_cons, List.length_append,
      Cell.length_fit, List.length_nil]
    omega
  · simp only [bottom, innerWidth, List.cons_append, List.length_cons, List.length_append,
      List.length_replicate, List.length_nil]
    omega

end Panel

/-- The cell of a box at a position of the screen. -/
def cellIn (boxes : List (Frame × Array (Array Cell))) (x y : Nat) : Cell :=
  match boxes.find? (·.1.contains x y) with
  | some (frame, rows) => (rows.getD (y - frame.y) #[]).getD (x - frame.x) .blank
  | none => .blank

/-- A screen covered by panels, row by row. -/
def screenRows (width height : Nat) (panels : List Panel) : List (List Cell) :=
  let boxes := panels.map fun p => (p.frame, (p.box.map List.toArray).toArray)
  (List.range height).map fun y => (List.range width).map fun x => cellIn boxes x y

/-- The characters of a row, without the blanks at its end. -/
def rowText (row : List Cell) : String :=
  String.ofList (((row.flatMap (·.glyph)).reverse.dropWhile (· == ' ')).reverse)

end Hedging
