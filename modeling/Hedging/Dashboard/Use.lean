import Hedging.Dashboard.Lookup

/-!
# Using a dashboard

What can be done with a dashboard, one operation at a time. Time moves only while something is waited
for, and everything due at an instant is finished before the next operation.
-/

namespace Hedging

/-- What can be done with a dashboard. -/
inductive DashboardOp
  | toggleMode
  | toggleBatch
  | moreBatch
  | fewerBatch
  | setBatchCount (count : Nat)
  | moreTail
  | lessTail
  | setTail (percent : Nat)
  | refresh
  | reset
  /-- Counts a result for its lane alone. -/
  | tally (lane : Option Lane) (latency : Binary64) (ok : Bool)
  /-- Takes in a result. -/
  | record (lane : Option Lane) (latency : Binary64) (ok : Bool) (message : String)
  /-- Starts a lookup, waits for the next result and takes it in. -/
  | lookup
  /-- Starts a lookup. -/
  | spawnLookup
  | sleep (span : Duration)
  /-- Takes in the results of the lookups that have ended, each with the same latency. -/
  | drain (latency : Binary64)
  | setUptime (seconds : Nat)
  /-- The oldest results become ten seconds older. -/
  | age (count : Nat)
deriving DecidableEq, Repr

namespace Dashboard

/-- Carries out one operation. The first part of the answer lists the lookups whose results were taken
in. -/
def act (draws : Nat → Draw) (d : Dashboard) :
    DashboardOp → Except DashboardFault (List LookupEvent × Dashboard)
  | .toggleMode => .ok ([], d.toggleMode)
  | .toggleBatch => .ok ([], d.toggleBatch)
  | .moreBatch => d.moreBatch.map ([], ·)
  | .fewerBatch => .ok ([], d.fewerBatch)
  | .setBatchCount count => .ok ([], d.setBatchCount count)
  | .moreTail => .ok ([], d.moreTail)
  | .lessTail => .ok ([], d.lessTail)
  | .setTail percent => .ok ([], d.setTail percent)
  | .refresh => .ok ([], d.refresh)
  | .reset => .ok ([], d.reset)
  | .tally lane latency ok => .ok ([], d.tally lane latency.toFloat ok)
  | .record lane latency ok message => .ok ([], d.record lane latency ok message)
  | .lookup =>
    let (event, d) := d.lookup draws
    .ok (event.toList, d)
  | .spawnLookup => .ok ([], d.spawnLookup draws)
  | .sleep span => .ok ([], d.sleep draws span)
  | .drain latency => .ok (d.drain latency)
  | .setUptime seconds => (d.setUptime seconds).map ([], ·)
  | .age count => .ok ([], d.age count)

/-- Carries out one operation and everything that is due by then. -/
def step (draws : Nat → Draw) (d : Dashboard) (op : DashboardOp) :
    Except DashboardFault (List LookupEvent × Dashboard) :=
  (d.act draws op).map fun (events, d) => (events, d.flush draws)

end Dashboard

end Hedging
