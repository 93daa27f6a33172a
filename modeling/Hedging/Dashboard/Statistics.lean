import Hedging.Number.Percentile
import Hedging.Dashboard

/-!
# Figures of the dashboard

Rates, averages and percentiles of what a dashboard keeps. Percentiles are order statistics of the
latencies in the total order of binary64 patterns, so they exist whatever the latencies are.
-/

namespace Hedging

/-- How much of a batch is done, in whole percent and a hundred at most. -/
def Batch.percent (b : Batch) : Nat :=
  if b.count = 0 then 0
  else
    let share := Float.ofNat b.done / Float.ofNat b.count * 100
    (exact (if 100 < share then 100 else share)).truncated

namespace Dashboard

/-- Share of lookups that succeeded, in percent. -/
def successRate (d : Dashboard) : Float :=
  if d.calls = 0 then 0 else Float.ofNat d.successes / Float.ofNat d.calls * 100

/-- Results that came in within the last second. -/
def callsPerSecond (d : Dashboard) : Float := Float.ofNat (d.callAges.countP (· < 1))

/-- Average of the latencies kept, summed up in the order in which they came. -/
def averageLatency (d : Dashboard) : Float :=
  if d.recent.isEmpty then 0
  else d.recent.foldl (fun sum x => sum + x.toFloat) (-0.0) / Float.ofNat d.recent.length

/-- Latencies in their total order. -/
def sortedLatencies (latencies : List Binary64) : List Binary64 :=
  latencies.mergeSort fun a b => a.order ≤ b.order

/-- The percentile of some latencies: the value of its rank in the total order, zero if there are no
latencies. -/
def latencyPercentileOf (latencies : List Binary64) (percent : Float) : Binary64 :=
  percentileOf (sortedLatencies latencies) percent ⟨0⟩

/-- Latency below which `percent` percent of the recent lookups came back. -/
def latencyPercentile (d : Dashboard) (percent : Float) : Binary64 :=
  latencyPercentileOf d.recent percent

/-- Share of requests that triggered a backup, in percent. -/
def hedgeRate (d : Dashboard) : Float :=
  let c := d.hedge.counters
  if c.requests = 0 then 0 else Float.ofNat c.backupsIssued / Float.ofNat c.requests * 100

end Dashboard

end Hedging
