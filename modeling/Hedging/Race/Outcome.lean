import Hedging.Time

/-!
# Outcomes of a hedged request

A request is answered by one of two calls, the primary or its backup. It ends with the value of the
call that finished first, with that call's error, or cancelled.
-/

namespace Hedging

/-- Which call of a request. -/
inductive Branch
  /-- The call issued as soon as the request arrives. -/
  | primary
  /-- The call issued after the hedge delay. -/
  | backup
deriving DecidableEq, Repr

/-- Short lower-case name. -/
def Branch.name : Branch → String
  | .primary => "primary"
  | .backup => "backup"

/-- The other call of the request. -/
def Branch.other : Branch → Branch
  | .primary => .backup
  | .backup => .primary

/-- A successful hedged lookup. -/
structure Hedged (α : Type) where
  value : α
  /-- The call that produced the value. -/
  branch : Branch
  /-- Time from the arrival of the request to its end. -/
  latency : Duration
deriving DecidableEq, Repr

/-- Why a request has no value. -/
inductive HedgeError (ε : Type)
  /-- The call that settled the request failed. -/
  | failed (branch : Branch) (error : ε)
  /-- Every call issued for the request was cancelled. -/
  | cancelled
deriving DecidableEq, Repr

namespace HedgeError

variable {ε : Type}

/-- The wording of an error; the failure itself is told by its cause. -/
def message : HedgeError ε → String
  | .failed branch _ => s!"resolution failed on the {branch.name} call"
  | .cancelled => "resolution cancelled"

/-- Was the request cancelled rather than failed? -/
def isCancelled : HedgeError ε → Bool
  | .cancelled => true
  | .failed .. => false

/-- The call whose failure settled the request. -/
def branch? : HedgeError ε → Option Branch
  | .failed branch _ => some branch
  | .cancelled => none

/-- The failure of that call, which is also the cause of the error. -/
def failure? : HedgeError ε → Option ε
  | .failed _ error => some error
  | .cancelled => none

end HedgeError

/-- How a request ends. -/
abbrev Result (α ε : Type) := Except (HedgeError ε) (Hedged α)

end Hedging
