import Hedging.Dashboard.Opening
import Hedging.Dashboard.Panels
import Hedging.Report.Comparison
import Hedging.Report.Rounds

/-!
# The command line

Without arguments, the dashboard that the environment asks for is opened and its first screen shown; a
refusal is reported on standard error. `rounds` reports on rounds of lookups of the names that follow,
and `compare` on hedged and direct lookups.
-/

namespace Hedging.Program

/-- The variables that are read. -/
def keys : List String :=
  ["HEDGE_MULTIPLIER", "HEDGE_WINDOW", "HEDGE_DEPOSIT", "HEDGE_WITHDRAW", "HEDGE_MAX_TOKENS",
    "SIM_BASE_MS", "SIM_JITTER_MS", "SIM_TAIL_MS", "SIM_TAIL_PERCENT", "SIM_FAILURE_PERCENT",
    "HEDGE_HOST", "CALLS", "TAIL_PERCENT"]

/-- Reads the environment. -/
def environment : IO Environment := do
  let values ← keys.mapM fun key => return (key, ← IO.getEnv key)
  return fun key => ((values.lookup key).join).elim .unset .text

/-- Rolls dice for so many calls. -/
def rollDice (calls : Nat) : IO (Nat → Draw) := do
  let draws ← (List.range calls).mapM fun _ => do
    return (⟨← IO.rand 0 maxWord32, ← IO.rand 0 99, ← IO.rand 0 99⟩ : Draw)
  let table := draws.toArray
  return fun i => table.getD i ⟨0, 0, 0⟩

/-- Shows lines. -/
def showLines (lines : List String) : IO Unit := lines.forM IO.println

/-- Tells why nothing was opened, the outermost reason first. -/
def refuse (reasons : List String) : IO UInt32 := do
  IO.eprintln "Error:"
  for (reason, i) in reasons.zipIdx do
    IO.eprintln s!"   {i}: {reason}"
  return 1

/-- Opens the dashboard. -/
def openDashboard (env : Environment) : IO UInt32 := do
  match env.resolver with
  | .error refusal => refuse refusal.reasons
  | .ok (run, settings) =>
    showLines (Dashboard.new run settings.config settings.host).refresh.screen
    return 0

end Hedging.Program

def main (args : List String) : IO UInt32 := do
  let env ← Hedging.Program.environment
  match args with
  | "rounds" :: hosts =>
    Hedging.Program.showLines (Hedging.Rounds.report hosts)
    return 0
  | ["compare"] =>
    let scale := Hedging.Comparison.Scale.ofEnvironment env
    let hedged ← Hedging.Program.rollDice (2 * scale.calls)
    let direct ← Hedging.Program.rollDice scale.calls
    Hedging.Program.showLines (Hedging.Comparison.report hedged direct scale)
    return 0
  | _ => Hedging.Program.openDashboard env
