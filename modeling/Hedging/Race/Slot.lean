/-!
# A slot that is written once

The first completion of a slot is the only one that counts; `complete_of_isResolved` says that later
ones are refused and change nothing.
-/

namespace Hedging

/-- The destination of a single outcome. -/
structure Slot (α : Type) where
  value : Option α
deriving DecidableEq, Repr

namespace Slot

variable {α : Type}

/-- A slot that waits for its value. -/
def vacant : Slot α := ⟨none⟩

/-- Has a value been stored? -/
def isResolved (s : Slot α) : Bool := s.value.isSome

/-- The stored value. -/
def get? (s : Slot α) : Option α := s.value

/-- Stores a value if the slot is still open, and says whether it did. -/
def complete (s : Slot α) (value : α) : Bool × Slot α :=
  match s.value with
  | none => (true, ⟨some value⟩)
  | some _ => (false, s)

/-- Takes the value out, which leaves an open slot. -/
def take (s : Slot α) : Option α × Slot α := (s.value, vacant)

@[simp] theorem isResolved_complete (s : Slot α) (value : α) :
    (s.complete value).2.isResolved = true := by
  cases s with
  | mk v => cases v <;> rfl

/-- A slot that is open takes what it is given. -/
theorem complete_of_not_isResolved {s : Slot α} (h : s.isResolved = false) (value : α) :
    s.complete value = (true, ⟨some value⟩) := by
  cases s with
  | mk v =>
    cases v with
    | none => rfl
    | some a => cases h

/-- A slot that is resolved stays as it is. -/
theorem complete_of_isResolved {s : Slot α} (h : s.isResolved = true) (value : α) :
    s.complete value = (false, s) := by
  cases s with
  | mk v =>
    cases v with
    | none => cases h
    | some a => rfl

end Slot

end Hedging
