import Hedging.Call
import Hedging.Race.Slot
import Hedging.Race.Outcome

/-!
# The race of one request

A race waits for three sources at once: the primary call, the hedge timer and, once there is one, the
backup call. `Race.step` takes the race from one event to the next and lists what the resolver has to
do about it, in order. Nothing here knows the time or the budget: whether the timer was granted is
part of the event.

Cancelled calls are the delicate part. A call that was cancelled settles the race only when no other
call is outstanding, and a race whose primary was cancelled never sends a backup any more.
-/

namespace Hedging

/-- One request's calls and the slot that they race for. -/
structure Race (ρ α ε : Type) where
  primary : Option CallId
  backup : Option CallId
  slot : Slot (Branch × Completion α ε)
  timerArmed : Bool
  /-- The request itself, kept as long as a backup may need it. -/
  spare : Option ρ
deriving DecidableEq, Repr

namespace Race

variable {ρ α ε : Type}

/-- What a race can wait for. -/
inductive Event (α ε : Type)
  /-- A call has come to its end. -/
  | completed (branch : Branch) (completion : Completion α ε)
  /-- The hedge timer went off and the budget granted a backup or refused one. -/
  | timer (granted : Bool)
  /-- There is nothing left to wait for. -/
  | exhausted
deriving DecidableEq, Repr

/-- What the resolver has to do about an event. -/
inductive Action (ρ : Type)
  /-- Feed the latency of a call to the estimator. -/
  | sample (call : CallId)
  /-- Count a backup. -/
  | hedge
  /-- Issue the backup call. -/
  | issue (payload : ρ)
  /-- Count a refusal. -/
  | deny
  /-- Note a timer that has lost its purpose. -/
  | staleTimer
  /-- Note that a backup settled the request. -/
  | backupWon (call : CallId)
  /-- Abort a call. -/
  | cancel (call : CallId)
deriving DecidableEq, Repr

/-- A race at its start: the primary is under way, and the timer is armed if there is a delay. -/
def start (payload : ρ) (primary : CallId) (hedged : Bool) : Race ρ α ε :=
  { primary := some primary, backup := none, slot := .vacant, timerArmed := hedged,
    spare := some payload }

/-- The call of a branch, while it is waited for. -/
def call (r : Race ρ α ε) : Branch → Option CallId
  | .primary => r.primary
  | .backup => r.backup

/-- No longer waits for the call of a branch. -/
def without (r : Race ρ α ε) : Branch → Race ρ α ε
  | .primary => { r with primary := none }
  | .backup => { r with backup := none }

/-- The calls waited for, the backup first. -/
def calls (r : Race ρ α ε) : List CallId := r.backup.toList ++ r.primary.toList

/-- Has the race been decided? -/
def isResolved (r : Race ρ α ε) : Bool := r.slot.isResolved

/-- A timer has lost its purpose when there is no primary left to hedge. -/
def timerIsStale (r : Race ρ α ε) : Bool := r.isResolved || r.primary.isNone

/-- Which events can come next. A race that is decided waits for nothing. -/
def enabled (r : Race ρ α ε) : Event α ε → Bool
  | .completed branch _ => !r.isResolved && (r.call branch).isSome
  | .timer _ => !r.isResolved && r.timerArmed
  | .exhausted => !r.isResolved && r.primary.isNone && !r.timerArmed && r.backup.isNone

/-- Puts an outcome into the slot, unless there is one. -/
def settle (r : Race ρ α ε) (branch : Branch) (completion : Completion α ε) : Race ρ α ε :=
  { r with slot := (r.slot.complete (branch, completion)).2 }

/-- The primary has come to its end. -/
def primaryCompleted (r : Race ρ α ε) (completion : Completion α ε) :
    Race ρ α ε × List (Action ρ) :=
  let rest := r.without .primary
  if completion.isCancelled then
    if r.backup.isNone then ({ rest.settle .primary completion with timerArmed := false }, [])
    else (rest, [])
  else
    let stored := (r.slot.complete (.primary, completion)).1
    ({ rest.settle .primary completion with timerArmed := r.timerArmed && !stored },
      r.primary.toList.map .sample)

/-- The timer went off. The next call to be issued gets the number `fresh`. -/
def timerFired (fresh : CallId) (r : Race ρ α ε) (granted : Bool) : Race ρ α ε × List (Action ρ) :=
  let rest := { r with timerArmed := false }
  if r.timerIsStale then (rest, [.staleTimer])
  else if granted then
    match r.spare with
    | some payload => ({ rest with spare := none, backup := some fresh }, [.hedge, .issue payload])
    | none => (rest, [.hedge])
  else (rest, [.deny])

/-- The backup has come to its end. If it settles the race, the primary is aborted and only the
backup's own latency is sampled. -/
def backupCompleted (r : Race ρ α ε) (completion : Completion α ε) :
    Race ρ α ε × List (Action ρ) :=
  let rest := r.without .backup
  if completion.isCancelled then
    if r.primary.isNone then (rest.settle .backup completion, []) else (rest, [])
  else if (r.slot.complete (.backup, completion)).1 then
    ((rest.settle .backup completion).without .primary,
      r.backup.toList.map .backupWon ++ r.primary.toList.map .cancel ++ r.backup.toList.map .sample)
  else (rest, [])

/-- The race after an event, and what there is to do about it. -/
def step (fresh : CallId) (r : Race ρ α ε) : Event α ε → Race ρ α ε × List (Action ρ)
  | .completed .primary completion => r.primaryCompleted completion
  | .timer granted => r.timerFired fresh granted
  | .completed .backup completion => r.backupCompleted completion
  | .exhausted => (r.settle .primary .cancelled, [])

/-- A bound on the events still to come: one for each call, one for the timer, and one for the
backup that the timer may add. -/
def potential (r : Race ρ α ε) : Nat :=
  (if r.primary.isSome then 1 else 0) + (if r.backup.isSome then 1 else 0) +
    (if r.timerArmed then 2 else 0)

end Race

end Hedging
