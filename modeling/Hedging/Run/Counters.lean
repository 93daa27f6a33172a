import Hedging.Race.Outcome

/-!
# What a resolver counts and logs

Counters only ever grow, one at a time. `Counters.ends` sums the ways a request can settle; each
result adds one to exactly one of them (`ends_settle`).
-/

namespace Hedging

/-- Hedging activity so far. -/
structure Counters where
  /-- Requests received. -/
  requests : Nat := 0
  /-- Backup calls issued. -/
  backupsIssued : Nat := 0
  /-- Hedge timers that went off but were refused by the budget. -/
  backupsDenied : Nat := 0
  /-- Requests answered by their primary call. -/
  primaryWins : Nat := 0
  /-- Requests answered by their backup call. -/
  backupWins : Nat := 0
  /-- Requests that settled with a failure. -/
  failures : Nat := 0
  /-- Requests that settled as cancelled. -/
  cancellations : Nat := 0
  /-- Latencies fed to the estimator. -/
  samples : Nat := 0
deriving DecidableEq, Repr, Inhabited

namespace Counters

/-- Requests that have settled, in whatever way. -/
def ends (c : Counters) : Nat := c.primaryWins + c.backupWins + c.failures + c.cancellations

/-- Counts how a request settled. -/
def settle {α ε : Type} (c : Counters) : Result α ε → Counters
  | .ok ⟨_, .primary, _⟩ => { c with primaryWins := c.primaryWins + 1 }
  | .ok ⟨_, .backup, _⟩ => { c with backupWins := c.backupWins + 1 }
  | .error (.failed ..) => { c with failures := c.failures + 1 }
  | .error .cancelled => { c with cancellations := c.cancellations + 1 }

theorem ends_settle {α ε : Type} (c : Counters) (result : Result α ε) :
    (c.settle result).ends = c.ends + 1 := by
  unfold settle
  split <;> simp only [ends] <;> omega

end Counters

/-- A snapshot of a resolver: its counters, the delay that the next request would hedge after, and
the tokens of a budget that counts them. -/
structure Stats where
  counters : Counters
  currentDelay : Option Duration
  tokens : Option UInt32
deriving DecidableEq, Repr, Inhabited

/-- How important a log entry is. -/
inductive LogLevel
  | trace
  | debug
deriving DecidableEq, Repr

/-- What a resolver notes in its log, with the milliseconds that belong to it. -/
inductive LogEntry
  | sampled (latencyMillis : Nat)
  | hedged (delayMillis : Option Nat)
  | denied
  | staleTimer
  | backupWon (latencyMillis : Nat)
deriving DecidableEq, Repr

namespace LogEntry

/-- Whole milliseconds, kept in a 64-bit word. -/
def millisWord (d : Duration) : Nat := d.millis % 0x10000000000000000

/-- Decisions that add load are more important than what happens to every request. -/
def level : LogEntry → LogLevel
  | .hedged _ | .backupWon _ => .debug
  | .sampled _ | .denied | .staleTimer => .trace

/-- The wording of an entry. -/
def message : LogEntry → String
  | .sampled _ => "recording latency sample"
  | .hedged _ => "primary is slow, sending backup request"
  | .denied => "hedge budget exhausted, waiting on primary"
  | .staleTimer => "stale hedge timer"
  | .backupWon _ => "backup won the race"

end LogEntry

end Hedging
