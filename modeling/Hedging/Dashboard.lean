import Hedging.Config
import Hedging.Number.Decimal
import Hedging.Run
import Hedging.Service.Simulated
import Hedging.Dashboard.Lane

/-!
# The state of the dashboard

A dashboard watches a hedged resolver over a simulated service. It keeps what the lookups brought since
the last reset: totals, a tally for each lane, and the most recent latencies. In batch mode it runs a
given number of lookups and then stops by itself; the number can be changed while a batch is running.

`Dashboard.record` is the one place where a result enters all of this.
-/

namespace Hedging

/-- A hedged resolver over the simulated service. -/
abbrev SimRun := Run Estimator Budget Simulated String (List Address) SimFailure

/-- What one lane brought. -/
structure LaneTally where
  wins : Nat
  /-- Average latency of the wins, in milliseconds. -/
  average : Float
  errors : Nat

/-- A lane that brought nothing. -/
def LaneTally.zero : LaneTally := ⟨0, 0, 0⟩

/-- Counts a result. The average follows the wins. -/
def LaneTally.add (t : LaneTally) (latency : Float) (ok : Bool) : LaneTally :=
  if ok then
    let total := t.average * Float.ofNat t.wins
    { t with wins := t.wins + 1, average := (total + latency) / Float.ofNat (t.wins + 1) }
  else { t with errors := t.errors + 1 }

/-- A batch of lookups. -/
structure Batch where
  on : Bool
  /-- Lookups to run. -/
  count : Nat
  /-- Results since the batch was started. -/
  done : Nat
deriving DecidableEq, Repr

/-- The greatest count there can be, one of 64 bits. -/
def Batch.maxCount : Nat := 0xffffffffffffffff

/-- Why the dashboard breaks down. -/
inductive DashboardFault
  /-- A count leaves its 64 bits. -/
  | countOverflow
  /-- An instant lies before the first one that the clock has. -/
  | instantOverflow
deriving DecidableEq, Repr

/-- What is said of a breakdown. -/
def DashboardFault.message : DashboardFault → String
  | .countOverflow => "attempt to add with overflow"
  | .instantOverflow => "overflow when subtracting duration from instant"

/-- Adds at the end and forgets what is older than the last `limit` entries. -/
def pushRecent {α : Type} (limit : Nat) (xs : List α) (x : α) : List α :=
  (xs ++ [x]).drop (xs.length + 1 - limit)

/-- The last entries stay the last entries. -/
theorem pushRecent_drop {α : Type} (limit : Nat) (xs : List α) (x : α) :
    pushRecent limit (xs.drop (xs.length - limit)) x =
      (xs ++ [x]).drop ((xs ++ [x]).length - limit) := by
  have hle : xs.length - limit ≤ xs.length := Nat.sub_le ..
  rw [pushRecent, ← List.drop_append_of_le_length hle, List.drop_drop, List.length_drop,
    List.length_append, List.length_singleton]
  congr 1
  omega

/-- What comes of a lookup. -/
inductive LookupWork
  /-- A request of the hedged resolver. -/
  | hedged (request : RequestId)
  /-- A call of the service that ends at a known instant. -/
  | direct (ended : Instant) (reply : Reply (List Address) SimFailure)

/-- Does the lookup go through the hedged resolver? -/
def LookupWork.isHedged : LookupWork → Bool
  | .hedged _ => true
  | .direct .. => false

/-- A lookup that the dashboard has started. -/
structure Lookup where
  host : String
  work : LookupWork

/-- The result of a lookup. -/
structure LookupEvent where
  lane : Option Lane
  ok : Bool
  message : String
deriving DecidableEq, Repr

/-- The dashboard and the resolver that it watches. -/
structure Dashboard where
  run : SimRun
  config : Config
  host : String
  mode : Mode
  message : String
  lastLane : Option Lane
  lastLatency : Option Binary64
  lanes : PerLane (Option LaneTally)
  /-- The resolver's statistics when they were last looked at. -/
  hedge : Stats
  batch : Batch
  /-- Whole seconds since the session began. -/
  uptime : Nat
  calls : Nat
  successes : Nat
  errors : Nat
  /-- The last hundred latencies of each lane, in whole milliseconds. -/
  history : PerLane (List Nat)
  /-- The last thousand results, by the whole seconds since each came in. -/
  callAges : List Nat
  /-- The last thousand latencies. -/
  recent : List Binary64
  /-- The lookups that have not handed over a result yet. -/
  lookups : List Lookup
  /-- The results that wait to be taken in. -/
  inbox : List LookupEvent

namespace Dashboard

/-- Latencies kept for each lane. -/
def historyLimit : Nat := 100

/-- Latencies and instants kept over all lanes. -/
def recentLimit : Nat := 1000

/-- A dashboard that has just been opened. -/
def new (run : SimRun) (config : Config) (host : String) : Dashboard :=
  { run, config, host, mode := .hedged
    message := "Ready. Press 'r' to run a lookup or 'b' for batch mode"
    lastLane := none, lastLatency := none, lanes := .const none, hedge := run.stats
    batch := ⟨false, 100, 0⟩, uptime := 0, calls := 0, successes := 0, errors := 0
    history := .const [], callAges := [], recent := [], lookups := []
    inbox := [] }

/-- The service that the resolver and the direct lookups use. -/
def simulated (d : Dashboard) : Simulated := d.run.service

/-- Sends lookups the other way from now on. -/
def toggleMode (d : Dashboard) : Dashboard := { d with mode := d.mode.other }

/-- Starts a batch from its beginning, or stops it. -/
def toggleBatch (d : Dashboard) : Dashboard :=
  if d.batch.on then { d with batch := { d.batch with on := false }, message := "Batch mode OFF" }
  else
    { d with
      batch := { d.batch with on := true, done := 0 }
      message := s!"Batch mode ON: {d.batch.count} lookups queued" }

/-- Sets the number of lookups of a batch. -/
def setBatchCount (d : Dashboard) (count : Nat) : Dashboard :=
  { d with batch := { d.batch with count } }

/-- Ten lookups more in a batch, a thousand at most. The sum is formed first, so it has to be a
number that a count can be. -/
def moreBatch (d : Dashboard) : Except DashboardFault Dashboard :=
  let count := d.batch.count + 10
  if Batch.maxCount < count then .error .countOverflow else .ok (d.setBatchCount (min count 1000))

/-- Ten lookups fewer in a batch, ten at least. -/
def fewerBatch (d : Dashboard) : Dashboard := d.setBatchCount (max (d.batch.count - 10) 10)

/-- Sets the share of slow lookups. -/
def setTail (d : Dashboard) (percent : Nat) : Dashboard :=
  { d with run := { d.run with service := d.run.service.setTailPercent percent } }

/-- One percent more slow lookups. -/
def moreTail (d : Dashboard) : Dashboard := d.setTail (d.simulated.tailPercent + 1)

/-- One percent fewer slow lookups. -/
def lessTail (d : Dashboard) : Dashboard := d.setTail (d.simulated.tailPercent - 1)

/-- The greatest age that a session can have: the clock counts seconds in signed words of 64 bits. -/
def maxUptime : Nat := 0x8000000000000000

/-- Lets the session have begun some seconds ago. -/
def setUptime (d : Dashboard) (seconds : Nat) : Except DashboardFault Dashboard :=
  if maxUptime < seconds then .error .instantOverflow else .ok { d with uptime := seconds }

/-- Looks at the resolver's statistics. -/
def refresh (d : Dashboard) : Dashboard := { d with hedge := d.run.stats }

/-- Forgets the results. The resolver keeps its estimator and budget, and the dashboard keeps the
instants at which results came in. -/
def reset (d : Dashboard) : Dashboard :=
  { d with
    lanes := .const none, history := .const [], recent := [], calls := 0, successes := 0
    errors := 0, message := "Stats reset" }

/-- Counts a result for its lane. -/
def tally (d : Dashboard) (lane : Option Lane) (latency : Float) (ok : Bool) : Dashboard :=
  match lane with
  | none => d
  | some lane =>
    { d with lanes := d.lanes.update lane fun t => some ((t.getD .zero).add latency ok) }

/-- Takes a result into the totals and the latencies kept. -/
def count (d : Dashboard) (lane : Option Lane) (latency : Binary64) (ok : Bool) : Dashboard :=
  { d with
    lastLane := lane
    lastLatency := some latency
    calls := d.calls + 1
    successes := if ok then d.successes + 1 else d.successes
    errors := if ok then d.errors else d.errors + 1
    history :=
      match lane with
      | none => d.history
      | some lane => d.history.update lane (pushRecent historyLimit · latency.exact.truncated)
    recent := pushRecent recentLimit d.recent latency
    callAges := pushRecent recentLimit d.callAges 0 }

/-- Tells of a result. -/
def announce (d : Dashboard) (latency : Binary64) (ok : Bool) (message : String) : Dashboard :=
  let status := if ok then "✓" else "✗"
  { d with
    message := s!"{status} {message} (" ++ Decimal.fixed 0 latency.toFloat ++ " ms)" }

/-- Counts a result towards the batch, which stops by itself when it has done its count. -/
def advanceBatch (d : Dashboard) : Dashboard :=
  if d.batch.on then
    let done := d.batch.done + 1
    if d.batch.count ≤ done then
      { d with
        batch := { d.batch with done, on := false }
        message := s!"Batch complete! {d.batch.count} lookups finished" }
    else { d with batch := { d.batch with done } }
  else d

/-- Takes in the result of a lookup. -/
def record (d : Dashboard) (lane : Option Lane) (latency : Binary64) (ok : Bool)
    (message : String) : Dashboard :=
  ((((d.tally lane latency.toFloat ok).count lane latency ok).announce latency ok
    message).advanceBatch).refresh

/-- Is there another lookup of the batch to run? -/
def shouldRunCall (d : Dashboard) : Bool := d.batch.on && decide (d.batch.done < d.batch.count)

/-- Lets the oldest `n` results be ten seconds older. -/
def age (d : Dashboard) (n : Nat) : Dashboard :=
  { d with callAges := (d.callAges.take n).map (· + 10) ++ d.callAges.drop n }

end Dashboard

end Hedging
