import Hedging.Race.Outcome

/-!
# Lanes and modes

A lookup is answered through one of three lanes: by the primary or the backup of a hedged request, or
directly by the service. `PerLane` keeps a value for each lane; `get_update` says that updating one
lane leaves the others alone.
-/

namespace Hedging

/-- How lookups are sent. -/
inductive Mode
  /-- Through the hedged resolver. -/
  | hedged
  /-- Straight to the service, never hedged. -/
  | direct
deriving DecidableEq, Repr

namespace Mode

/-- The other mode. -/
def other : Mode → Mode
  | .hedged => .direct
  | .direct => .hedged

/-- A mode as the dashboard shows it. -/
def label : Mode → String
  | .hedged => "Hedged"
  | .direct => "Direct (no hedging)"

end Mode

/-- Which way a lookup was answered. -/
inductive Lane
  | primary
  | backup
  | direct
deriving DecidableEq, Repr

namespace Lane

/-- All lanes, in the order they are shown. -/
def all : List Lane := [.primary, .backup, .direct]

/-- Short lower-case name. -/
def name : Lane → String
  | .primary => "primary"
  | .backup => "backup"
  | .direct => "direct"

/-- The lane of a call of a hedged request. -/
def ofBranch : Branch → Lane
  | .primary => .primary
  | .backup => .backup

end Lane

/-- A value for each lane. -/
structure PerLane (α : Type) where
  primary : α
  backup : α
  direct : α
deriving DecidableEq, Repr

namespace PerLane

variable {α : Type}

/-- The same value for every lane. -/
def const (a : α) : PerLane α := ⟨a, a, a⟩

/-- The value of a lane. -/
def get (p : PerLane α) : Lane → α
  | .primary => p.primary
  | .backup => p.backup
  | .direct => p.direct

/-- Changes the value of a lane. -/
def update (p : PerLane α) (lane : Lane) (f : α → α) : PerLane α :=
  match lane with
  | .primary => { p with primary := f p.primary }
  | .backup => { p with backup := f p.backup }
  | .direct => { p with direct := f p.direct }

@[simp] theorem get_const (a : α) (lane : Lane) : (const a).get lane = a := by
  cases lane <;> rfl

theorem get_update (p : PerLane α) (lane other : Lane) (f : α → α) :
    (p.update lane f).get other = if other = lane then f (p.get other) else p.get other := by
  cases lane <;> cases other <;> rfl

end PerLane

end Hedging
