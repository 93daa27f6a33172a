/-!
# White space

The characters with the property `White_Space`, and trimming. Main statement: `trim_surrounded`, which
says that blanks around a text that has none at its ends are taken off and nothing else is.
-/

namespace Hedging.Text

/-- Is the character white space? -/
def isBlank (c : Char) : Bool :=
  let n := c.toNat
  (9 ≤ n && n ≤ 13) || n == 0x20 || n == 0x85 || n == 0xa0 || n == 0x1680 ||
    (0x2000 ≤ n && n ≤ 0x200a) || n == 0x2028 || n == 0x2029 || n == 0x202f || n == 0x205f ||
    n == 0x3000

/-- All that counts as a blank in ASCII text is white space. -/
theorem isBlank_of_isWhitespace {c : Char} (h : c.isWhitespace = true) : isBlank c = true := by
  simp only [Char.isWhitespace, Bool.or_eq_true, decide_eq_true_eq] at h
  rcases h with ((rfl | rfl) | rfl) | rfl <;> decide

/-- Takes the blanks off both ends. -/
def trim (cs : List Char) : List Char :=
  ((cs.dropWhile isBlank).reverse.dropWhile isBlank).reverse

/-- Leading blanks go. -/
theorem dropWhile_isBlank_append {left : List Char} (h : ∀ c ∈ left, isBlank c = true)
    (cs : List Char) : (left ++ cs).dropWhile isBlank = cs.dropWhile isBlank := by
  induction left with
  | nil => rfl
  | cons c left ih =>
    simp only [List.mem_cons, forall_eq_or_imp] at h
    simp [h.1, ih h.2]

/-- Blanks around a text that neither starts nor ends with one are all that trimming takes off. -/
theorem trim_surrounded {left right cs : List Char} (hl : ∀ c ∈ left, isBlank c = true)
    (hr : ∀ c ∈ right, isBlank c = true) (hhead : ∀ c ∈ cs.head?, isBlank c = false)
    (hlast : ∀ c ∈ cs.getLast?, isBlank c = false) : trim (left ++ cs ++ right) = cs := by
  have hstart : ∀ ds : List Char, (∀ c ∈ ds.head?, isBlank c = false) →
      ds.dropWhile isBlank = ds := by
    intro ds hds
    cases ds with
    | nil => rfl
    | cons d ds => simp [List.dropWhile, hds d (by simp)]
  cases cs with
  | nil =>
    have hall : ∀ c ∈ left ++ right, isBlank c = true := by
      intro c hc
      rcases List.mem_append.mp hc with h | h
      · exact hl c h
      · exact hr c h
    have := dropWhile_isBlank_append hall []
    simp only [List.append_nil, List.dropWhile_nil] at this
    simp [trim, this]
  | cons c cs =>
    have hfront : (left ++ c :: cs ++ right).dropWhile isBlank = c :: cs ++ right := by
      rw [List.append_assoc, dropWhile_isBlank_append hl, hstart]
      simpa using hhead
    have hback : ∀ d ∈ right.reverse, isBlank d = true := by
      intro d hd
      exact hr d (List.mem_reverse.mp hd)
    rw [trim, hfront, List.reverse_append, dropWhile_isBlank_append hback, hstart,
      List.reverse_reverse]
    intro d hd
    rw [List.head?_reverse] at hd
    exact hlast d hd

end Hedging.Text
