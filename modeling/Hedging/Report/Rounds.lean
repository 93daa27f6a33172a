import Hedging.Config
import Hedging.Session
import Hedging.Service.Literals
import Hedging.Text.Padding
import Hedging.Time.Units

/-!
# A report of rounds of lookups

Some names are looked up three times over, one after the other, through a hedged resolver with the
default strategy. There is a line for each lookup, and a summary at the end. `length_report` counts the
lines.
-/

namespace Hedging.Rounds

/-- The resolver of the report. -/
abbrev Resolver := Run (SpreadEstimator Float) TokenBudget Unit String (List Address) Unit

/-- How often all names are looked up. -/
def rounds : Nat := 3

/-- What is told about one lookup. -/
def line (round : Nat) (host : String) (answer : SessionAnswer (List Address) Unit) : String :=
  let start := s!"[round {round}] " ++ Text.padRight 16 host ++ " "
  match answer with
  | .detailed h =>
    start ++ "branch=" ++ Text.padRight 7 h.branch.name ++ " latency=" ++ h.latency.inUnitsExact ++
      " addrs=" ++ Address.renderList h.value
  | .failed e => start ++ "error=" ++ e.message
  | .crashed message => start ++ "error=" ++ message
  | _ => start

/-- Looks one name up. -/
def lookUp (resolver : Resolver) (round : Nat) (host : String) : String × Resolver :=
  let (answer, resolver) := Session.resolveIn Literals.service resolver host none
  (line round host answer, resolver)

/-- Looks names up one after the other. -/
def lookUpAll (resolver : Resolver) : List (Nat × String) → List String × Resolver
  | [] => ([], resolver)
  | (round, host) :: rest =>
    let (told, resolver) := lookUp resolver round host
    let (lines, resolver) := lookUpAll resolver rest
    (told :: lines, resolver)

theorem length_lookUpAll (resolver : Resolver) (names : List (Nat × String)) :
    (lookUpAll resolver names).1.length = names.length := by
  induction names generalizing resolver with
  | nil => rfl
  | cons n names ih =>
    rw [lookUpAll, List.length_cons, List.length_cons, ih]

/-- All lookups in their order: the names of a round, round by round. -/
def schedule (hosts : List String) : List (Nat × String) :=
  (List.range rounds).flatMap fun round => hosts.map fun host => (round, host)

/-- What a resolver has done. -/
def summary (s : Stats) : String :=
  let c := s.counters
  s!"requests={c.requests} backups={c.backupsIssued} denied={c.backupsDenied} " ++
    s!"primary_wins={c.primaryWins} backup_wins={c.backupWins} " ++
    "delay=" ++ Text.optional (s.currentDelay.map Duration.inUnitsExact) ++
    " tokens=" ++ Text.optional (s.tokens.map fun t => toString t.toNat)

/-- The resolver before the first lookup: the default strategy and no samples. -/
def fresh : Resolver :=
  let c := Config.default
  .new () (.new c.multiplier c.windowCapacity.toNat)
    (.new c.deposit c.withdraw c.maxTokens c.initialTokens)

/-- The whole report. -/
def report (hosts : List String) : List String :=
  let (lines, resolver) := lookUpAll fresh (schedule hosts)
  lines ++ ["", summary resolver.stats]

theorem length_report (hosts : List String) :
    (report hosts).length = rounds * hosts.length + 2 := by
  simp only [report, List.length_append, length_lookUpAll, schedule, List.length_flatMap,
    List.length_map, List.length_cons, List.length_nil]
  simp [rounds, List.range_succ]
  omega

end Hedging.Rounds
