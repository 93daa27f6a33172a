import Hedging.Time

/-!
# Calls to a service

A service answers calls: for each it decides, when the call is issued, how long the call takes and
what comes of it. A `Call` is one such lookup on the ledger of all calls ever issued. It runs until
its due instant unless it is dropped before, and whichever comes first is final: `finish_drop` and
`drop_finish` say so.
-/

namespace Hedging

/-- Final state of a single call. -/
inductive Completion (α ε : Type)
  | succeeded (value : α)
  /-- Failing is a legitimate outcome of a lookup. -/
  | failed (error : ε)
  /-- The call was aborted before it had an outcome. -/
  | cancelled
deriving DecidableEq, Repr

/-- Was the call aborted? -/
def Completion.isCancelled {α ε : Type} : Completion α ε → Bool
  | .cancelled => true
  | _ => false

/-- What comes of a call that runs to its end. -/
inductive Reply (α ε : Type)
  | value (a : α)
  | error (e : ε)
  /-- The service itself breaks down, with a message. -/
  | crash (message : String)
deriving DecidableEq, Repr

/-- What a service will do with a call that nobody aborts. -/
structure Plan (α ε : Type) where
  lasts : Duration
  reply : Reply α ε
deriving DecidableEq, Repr

/-- Something that performs lookups. Issuing a call may change its state, nothing else does. -/
structure Service (σ ρ α ε : Type) where
  issue : σ → ρ → Plan α ε × σ

/-- Where a call stands. -/
inductive CallState
  | running
  | finished
  | dropped
deriving DecidableEq, Repr

/-- One lookup. -/
structure Call (ρ α ε : Type) where
  payload : ρ
  issued : Instant
  due : Instant
  reply : Reply α ε
  state : CallState
deriving DecidableEq, Repr

namespace Call

variable {ρ α ε : Type}

/-- A call issued at `now`. -/
def start (now : Instant) (payload : ρ) (plan : Plan α ε) : Call ρ α ε :=
  { payload, issued := now, due := now.after plan.lasts, reply := plan.reply, state := .running }

/-- The call reaches its end, unless it was dropped. -/
def finish (c : Call ρ α ε) : Call ρ α ε :=
  match c.state with
  | .running => { c with state := .finished }
  | _ => c

/-- The call is aborted, unless it has finished. -/
def drop (c : Call ρ α ε) : Call ρ α ε :=
  match c.state with
  | .running => { c with state := .dropped }
  | _ => c

/-- Time since the call was issued. -/
def elapsed (c : Call ρ α ε) (now : Instant) : Duration := now.since c.issued

/-- Is the call still under way? -/
def isRunning (c : Call ρ α ε) : Bool := c.state == .running

theorem finish_drop (c : Call ρ α ε) : c.drop.finish = c.drop := by
  unfold drop
  split
  · rfl
  · unfold finish
    split <;> simp_all

theorem drop_finish (c : Call ρ α ε) : c.finish.drop = c.finish := by
  unfold finish
  split
  · rfl
  · unfold drop
    split <;> simp_all

end Call

/-- The number of a call on its ledger, in the order of issue. -/
abbrev CallId := Nat

/-- All calls issued to a service, the first one first. -/
abbrev Ledger (ρ α ε : Type) := List (Call ρ α ε)

namespace Ledger

variable {ρ α ε : Type}

/-- Enters a call. -/
def issue (calls : Ledger ρ α ε) (now : Instant) (payload : ρ) (plan : Plan α ε) : Ledger ρ α ε :=
  calls ++ [Call.start now payload plan]

/-- A call reaches its end. -/
def finish (calls : Ledger ρ α ε) (id : CallId) : Ledger ρ α ε := calls.modify id Call.finish

/-- A call is aborted. -/
def drop (calls : Ledger ρ α ε) (id : CallId) : Ledger ρ α ε := calls.modify id Call.drop

/-- Every call due by `now` reaches its end. -/
def finishDue (calls : Ledger ρ α ε) (now : Instant) : Ledger ρ α ε :=
  calls.map fun c => if c.due ≤ now then c.finish else c

/-- Number of calls aborted before they finished. -/
def droppedCount (calls : Ledger ρ α ε) : Nat := calls.countP (·.state == .dropped)

/-- The calls under way. -/
def inFlight (calls : Ledger ρ α ε) : List (Call ρ α ε) := calls.filter Call.isRunning

/-- What was asked for, call by call. -/
def payloads (calls : Ledger ρ α ε) : List ρ := calls.map (·.payload)

@[simp] theorem length_issue (calls : Ledger ρ α ε) (now : Instant) (payload : ρ)
    (plan : Plan α ε) : (calls.issue now payload plan).length = calls.length + 1 := by
  simp [issue]

@[simp] theorem length_finish (calls : Ledger ρ α ε) (id : CallId) :
    (calls.finish id).length = calls.length := by
  simp [finish]

@[simp] theorem length_drop (calls : Ledger ρ α ε) (id : CallId) :
    (calls.drop id).length = calls.length := by
  simp [drop]

end Ledger

end Hedging
