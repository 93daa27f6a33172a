import Hedging.Config
import Hedging.Number.Decimal
import Hedging.Number.Percentile
import Hedging.Service.Simulated
import Hedging.Run
import Hedging.Settings
import Hedging.Text.Padding
import Hedging.Time.Units

/-!
# A report that compares hedged with direct lookups

Two runners make the same number of lookups of a service with a long tail, up to 64 of them at a time:
one through a hedged resolver, the other one without hedging. The report puts percentiles of their
latencies side by side.

A runner that does not hedge is a resolver without a delay.
-/

namespace Hedging.Comparison

/-- Lookups that are under way at most. -/
def maxInFlight : Nat := 64

/-- The service: 10 to 15 milliseconds, and 250 more for some of the lookups. -/
def profile (tailPercent : UInt32) : SimProfile :=
  ⟨.ofMillis 10, .ofMillis 5, .ofMillis 250, tailPercent, 0⟩

section Runner

variable {δ β : Type} [DelayEstimator δ] [AdmissionBudget β]

/-- A resolver over the service. -/
abbrev Runner (δ β : Type) := Run δ β Simulated String (List Address) SimFailure

/-- Lookups that have not ended yet. -/
def inFlight (run : Runner δ β) : Nat := run.requests.countP (·.isRacing)

/-- Makes lookups, each as soon as there is room for it, and waits for all of them. -/
def runAll (draws : Nat → Draw) : Nat → Runner δ β → Runner δ β
  | 0, run => run.drive (Simulated.service draws) (Due.noLaterThan none) fun _ => true
  | left + 1, run =>
    let svc := Simulated.service draws
    let run := run.drive svc (Due.noLaterThan none) fun run => decide (maxInFlight ≤ inFlight run)
    runAll draws left (run.start svc (toString run.requests.length) false)

/-- How long a request took, once it has ended. -/
def latency? (r : Request String (List Address) SimFailure) : Option Duration :=
  match r.stage with
  | .settled ended _ => some (Instant.since ended r.started)
  | _ => none

/-- The latencies of a runner, the shortest one first. -/
def latencies (run : Runner δ β) : List Duration :=
  (run.requests.filterMap latency?).mergeSort fun a b => a.nanos ≤ b.nanos

/-- A duration in a column of its own. -/
def column (name : String) (d : Duration) : String := name ++ "=" ++ Text.padLeft 7 (d.inUnits 1)

/-- The line of a runner. -/
def row (name : String) (run : Runner δ β) : String :=
  let sorted := latencies run
  let atRank (percent : Float) := percentileOf sorted percent .zero
  Text.padRight 7 name ++ s!" calls={sorted.length} backup_wins=" ++
    Text.padRight 4 (toString run.counters.backupWins) ++ " " ++ column "p50" (atRank 50) ++ " " ++
    column "p90" (atRank 90) ++ " " ++ column "p99" (atRank 99) ++ " " ++
    column "max" (sorted.getLast?.getD .zero)

/-- What the hedged runner has spent on backups. -/
def summary (run : Runner δ β) : String :=
  let c := run.counters
  let share := Float.ofNat c.backupsIssued / Float.ofNat (max c.requests 1) * 100
  s!"hedged: backups issued={c.backupsIssued} denied={c.backupsDenied} (" ++
    Decimal.fixed 1 share ++ "% of requests), delay=" ++
    Text.optional (run.stats.currentDelay.map Duration.inUnitsExact)

end Runner

/-- How many lookups are made, and which share of them is slow. -/
structure Scale where
  calls : Nat
  tailPercent : UInt32
deriving DecidableEq, Repr

/-- A number in a variable, without blanks around it, and a default if there is none. -/
def readOr (env : Environment) (limit : Nat) (key : String) (default : Nat) : Nat :=
  match env key with
  | .text raw => ((Natural.read limit raw.toList).toOption).getD default
  | _ => default

/-- The scale that the environment asks for: `CALLS` and `TAIL_PERCENT`, or 5000 lookups with three
percent of them slow. -/
def Scale.ofEnvironment (env : Environment) : Scale :=
  ⟨readOr env maxWord64 "CALLS" 5000,
    UInt32.ofNat (readOr env maxWord32 "TAIL_PERCENT" 3)⟩

/-- The hedged runner before its first lookup: an aggressive strategy and no samples. -/
def hedged (scale : Scale) : Runner (SpreadEstimator Float) TokenBudget :=
  let c := Config.aggressive
  .new (.new (profile scale.tailPercent)) (.new c.multiplier c.windowCapacity.toNat)
    (.new c.deposit c.withdraw c.maxTokens c.initialTokens)

/-- The runner that does not hedge, before its first lookup. -/
def direct (scale : Scale) : Runner ConstantEstimator ClosedBudget :=
  .new (.new (profile scale.tailPercent)) .never {}

/-- The whole report. The two runners have chances of their own. -/
def report (hedgedDraws directDraws : Nat → Draw) (scale : Scale) : List String :=
  let hedgedRun := runAll hedgedDraws scale.calls (hedged scale)
  let directRun := runAll directDraws scale.calls (direct scale)
  [s!"{scale.calls} lookups per runner, {scale.tailPercent.toNat}% of them +250ms, " ++
      s!"{maxInFlight} in flight",
    "", "=== comparison ===", row "hedged" hedgedRun, row "direct" directRun, "",
    summary hedgedRun]

end Hedging.Comparison
