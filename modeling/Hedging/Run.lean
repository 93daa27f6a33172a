import Hedging.Budget
import Hedging.Latency.Estimator
import Hedging.Race
import Hedging.Run.Counters

/-!
# A run of a hedged resolver

A `Run` is a hedged resolver together with its clock: estimator, budget, counters and log, all calls
ever issued, and all requests ever received. A request starts at the present instant; from then on it
only moves when one of its events is due, so a run goes from event to event. `Run.fire` carries out
one event, `Run.drive` the events up to a limit in the order of their instants.

Every request is kept, so what became of it can be read off at any later time. A request that is
racing owns the calls that its race waits for; ending it, in whatever way, drops them.
-/

namespace Hedging

/-- Where a request stands. -/
inductive Stage (ρ α ε : Type)
  | racing (race : Race ρ α ε)
  | settled (ended : Instant) (result : Result α ε)
  /-- A call of the request broke down. -/
  | crashed (ended : Instant) (message : String)
  /-- Nobody wants the answer any more. -/
  | abandoned (ended : Instant)
deriving Repr

/-- One request, from its arrival on. -/
structure Request (ρ α ε : Type) where
  payload : ρ
  /-- Is the request driven by the one who waits for it, without a task of its own? -/
  inPlace : Bool
  started : Instant
  /-- The hedge delay at the start of the request. -/
  delay : Option Duration
  stage : Stage ρ α ε

/-- The number of a request, in the order of arrival. -/
abbrev RequestId := Nat

/-- What an event of a request comes from. -/
inductive Source
  | call (branch : Branch)
  | timer
deriving DecidableEq, Repr

/-- An event that lies ahead. -/
structure Due where
  instant : Instant
  request : RequestId
  source : Source
  /-- When its turn comes among the events of one instant. -/
  turn : Nat
deriving DecidableEq, Repr

namespace Due

/-- Does an event come before another? -/
def isBefore (d e : Due) : Bool :=
  d.instant < e.instant || (d.instant == e.instant && decide (d.turn < e.turn))

/-- Does an event come no later than `limit`? -/
def noLaterThan (limit : Option Instant) (d : Due) : Bool := limit.all (d.instant ≤ ·)

/-- Does an event come in time for someone who waits for a request until `limit`? At the limit itself
the waiting ends before the end of a call of that request is heard of; its hedge timer still goes
off. -/
def inTime (id : RequestId) (limit : Option Instant) (d : Due) : Bool :=
  limit.all fun t =>
    d.instant < t || (d.instant == t && (d.request != id || d.source == .timer))

end Due

/-- The earliest of some events; where none comes before the others, the first of them. -/
def earliest : List Due → Option Due
  | [] => none
  | d :: ds =>
    match earliest ds with
    | none => some d
    | some e => if e.isBefore d then some e else some d

namespace Request

variable {ρ α ε : Type}

/-- The instant at which the hedge timer goes off, if there is one. -/
def timer (r : Request ρ α ε) : Option Instant := r.delay.map r.started.after

/-- Has the request not ended yet? -/
def isRacing (r : Request ρ α ε) : Bool :=
  match r.stage with
  | .racing _ => true
  | _ => false

/-- When the turn of the hedge timer comes: that of a request driven in place goes off first. -/
def timerTurn (r : Request ρ α ε) : Nat := if r.inPlace then 0 else 1

/-- When the turn of the end of a call comes: after all timers, in the order in which the calls were
issued. A request driven in place hears of its calls after all others. -/
def callTurn (r : Request ρ α ε) (calls : Ledger ρ α ε) (id : CallId) : Nat :=
  2 + id + (if r.inPlace then calls.length else 0)

/-- The end of the call of a branch, if it lies ahead. -/
def pendingCall (r : Request ρ α ε) (calls : Ledger ρ α ε) (id : RequestId) (race : Race ρ α ε)
    (branch : Branch) : Option Due :=
  (race.call branch).bind fun c =>
    (calls[c]?).map fun call => ⟨call.due, id, .call branch, r.callTurn calls c⟩

/-- The events that lie ahead of a request. -/
def pending (r : Request ρ α ε) (calls : Ledger ρ α ε) (id : RequestId) : List Due :=
  match r.stage with
  | .racing race =>
    (if race.timerArmed then r.timer.toList.map (⟨·, id, .timer, r.timerTurn⟩) else []) ++
      (r.pendingCall calls id race .primary).toList ++ (r.pendingCall calls id race .backup).toList
  | _ => []

/-- A bound on the events that lie ahead of a request. -/
def potential (r : Request ρ α ε) : Nat :=
  match r.stage with
  | .racing race => race.potential
  | _ => 0

end Request

/-- A hedged resolver and its clock. -/
structure Run (δ β σ ρ α ε : Type) where
  now : Instant
  service : σ
  estimator : δ
  budget : β
  counters : Counters
  calls : Ledger ρ α ε
  requests : List (Request ρ α ε)
  /-- The latencies fed to the estimator. -/
  fed : Array Duration
  log : Array LogEntry

namespace Run

variable {δ β σ ρ α ε : Type} [DelayEstimator δ] [AdmissionBudget β]

/-- A resolver that has not been used yet. -/
def new (service : σ) (estimator : δ) (budget : β) : Run δ β σ ρ α ε :=
  { now := 0, service, estimator, budget, counters := {}, calls := [], requests := [],
    fed := #[], log := #[] }

/-- Hedging activity and the present state of estimator and budget. -/
def stats (run : Run δ β σ ρ α ε) : Stats :=
  ⟨run.counters, DelayEstimator.currentDelay run.estimator, AdmissionBudget.tokens run.budget⟩

/-- Notes an entry in the log. -/
def note (run : Run δ β σ ρ α ε) (entry : LogEntry) : Run δ β σ ρ α ε :=
  { run with log := run.log.push entry }

/-- Sends a call to the service. -/
def issue (svc : Service σ ρ α ε) (run : Run δ β σ ρ α ε) (payload : ρ) : Run δ β σ ρ α ε :=
  let (plan, service) := svc.issue run.service payload
  { run with service, calls := run.calls.issue run.now payload plan }

/-- Aborts a call. -/
def dropCall (run : Run δ β σ ρ α ε) (id : CallId) : Run δ β σ ρ α ε :=
  { run with calls := run.calls.drop id }

/-- Aborts what a race still waits for. -/
def dropCalls (run : Run δ β σ ρ α ε) (race : Race ρ α ε) : Run δ β σ ρ α ε :=
  race.calls.foldl dropCall run

/-- Time since a call was issued. -/
def latencyOf (run : Run δ β σ ρ α ε) (id : CallId) : Duration :=
  (run.calls[id]?).elim .zero (·.elapsed run.now)

/-- Feeds a latency to the estimator. -/
def sample (run : Run δ β σ ρ α ε) (latency : Duration) : Run δ β σ ρ α ε :=
  { run.note (.sampled (LogEntry.millisWord latency)) with
    estimator := DelayEstimator.addSample run.estimator latency
    counters := { run.counters with samples := run.counters.samples + 1 }
    fed := run.fed.push latency }

/-- Puts a request into a new stage. -/
def setStage (run : Run δ β σ ρ α ε) (id : RequestId) (stage : Stage ρ α ε) : Run δ β σ ρ α ε :=
  { run with requests := run.requests.modify id fun r => { r with stage } }

/-- A request arrives. It funds the budget, its primary is issued at once, and the delay that the
estimator has now decides whether and when its timer goes off. -/
def start (svc : Service σ ρ α ε) (run : Run δ β σ ρ α ε) (payload : ρ) (inPlace : Bool) :
    Run δ β σ ρ α ε :=
  let primary := run.calls.length
  let delay := DelayEstimator.currentDelay run.estimator
  let issued := run.issue svc payload
  { issued with
    counters := { run.counters with requests := run.counters.requests + 1 }
    budget := AdmissionBudget.fund run.budget
    requests := run.requests ++
      [{ payload, inPlace, started := run.now, delay
         stage := .racing (.start payload primary delay.isSome) }] }

/-- Carries out one thing that a race asks for. -/
def perform (svc : Service σ ρ α ε) (delay : Option Duration) (run : Run δ β σ ρ α ε) :
    Race.Action ρ → Run δ β σ ρ α ε
  | .sample id => run.sample (run.latencyOf id)
  | .hedge =>
    { run.note (.hedged (delay.map LogEntry.millisWord)) with
      counters := { run.counters with backupsIssued := run.counters.backupsIssued + 1 } }
  | .issue payload => run.issue svc payload
  | .deny =>
    { run.note .denied with
      counters := { run.counters with backupsDenied := run.counters.backupsDenied + 1 } }
  | .staleTimer => run.note .staleTimer
  | .backupWon id => run.note (.backupWon (LogEntry.millisWord (run.latencyOf id)))
  | .cancel id => run.dropCall id

/-- What a decided race means for the request. An undecided one counts as cancelled. -/
def resultOf (latency : Duration) : Option (Branch × Completion α ε) → Result α ε
  | some (branch, .succeeded value) => .ok ⟨value, branch, latency⟩
  | some (branch, .failed error) => .error (.failed branch error)
  | some (_, .cancelled) => .error .cancelled
  | none => .error .cancelled

/-- Ends a request whose race is decided. -/
def settle (run : Run δ β σ ρ α ε) (id : RequestId) (started : Instant) (race : Race ρ α ε) :
    Run δ β σ ρ α ε :=
  let result := resultOf (run.now.since started) race.slot.get?
  let run := run.dropCalls race
  { run.setStage id (.settled run.now result) with counters := run.counters.settle result }

/-- Takes a race over one event. -/
def deliver (svc : Service σ ρ α ε) (run : Run δ β σ ρ α ε) (id : RequestId)
    (request : Request ρ α ε) (race : Race ρ α ε) (event : Race.Event α ε) : Run δ β σ ρ α ε :=
  let (race, actions) := race.step run.calls.length event
  let run := actions.foldl (perform svc request.delay) run
  if race.isResolved then run.settle id request.started race
  else run.setStage id (.racing race)

/-- The hedge timer of a request goes off. A timer that has lost its purpose does not ask the
budget. -/
def fireTimer (svc : Service σ ρ α ε) (run : Run δ β σ ρ α ε) (id : RequestId)
    (request : Request ρ α ε) (race : Race ρ α ε) : Run δ β σ ρ α ε :=
  if race.timerIsStale then run.deliver svc id request race (.timer false)
  else
    let (granted, budget) := AdmissionBudget.tryConsume run.budget
    deliver svc { run with budget } id request race (.timer granted)

/-- A call of a request comes to its end. A call that breaks down ends the request with it. -/
def fireCall (svc : Service σ ρ α ε) (run : Run δ β σ ρ α ε) (id : RequestId)
    (request : Request ρ α ε) (race : Race ρ α ε) (branch : Branch) : Run δ β σ ρ α ε :=
  match (race.call branch).bind fun c => (run.calls[c]?).map fun call => (c, call) with
  | none => run
  | some (c, call) =>
    let run := { run with calls := run.calls.finish c }
    match call.reply with
    | .value a => run.deliver svc id request race (.completed branch (.succeeded a))
    | .error e => run.deliver svc id request race (.completed branch (.failed e))
    | .crash message => (run.dropCalls race).setStage id (.crashed run.now message)

/-- Carries out an event at its instant. -/
def fire (svc : Service σ ρ α ε) (run : Run δ β σ ρ α ε) (due : Due) : Run δ β σ ρ α ε :=
  let run := { run with now := max run.now due.instant }
  match run.requests[due.request]? with
  | none => run
  | some request =>
    match request.stage, due.source with
    | .racing race, .timer => run.fireTimer svc due.request request race
    | .racing race, .call branch => run.fireCall svc due.request request race branch
    | _, _ => run

/-- Gives a request up: its calls are aborted, and nothing is counted. A request that has ended
stays as it is. -/
def abandon (run : Run δ β σ ρ α ε) (id : RequestId) : Run δ β σ ρ α ε :=
  match run.requests[id]? with
  | none => run
  | some request =>
    match request.stage with
    | .racing race => (run.dropCalls race).setStage id (.abandoned run.now)
    | _ => run

/-- Has a request not ended yet? -/
def isRacing (run : Run δ β σ ρ α ε) (id : RequestId) : Bool :=
  (run.requests[id]?).any (·.isRacing)

/-- All events that lie ahead. -/
def pending (run : Run δ β σ ρ α ε) : List Due :=
  run.requests.zipIdx.flatMap fun (request, id) => request.pending run.calls id

/-- The event that comes next. -/
def next? (run : Run δ β σ ρ α ε) : Option Due := earliest run.pending

/-- A bound on the events that lie ahead. -/
def potential (run : Run δ β σ ρ α ε) : Nat := run.requests.foldr (fun r total => r.potential + total) 0

/-- Carries out events in their order, as long as `waiting` holds and they are `allowed`, and at most
`fuel` of them. -/
def driveFuel (svc : Service σ ρ α ε) (allowed : Due → Bool)
    (waiting : Run δ β σ ρ α ε → Bool) : Nat → Run δ β σ ρ α ε → Run δ β σ ρ α ε
  | 0, run => run
  | fuel + 1, run =>
    if waiting run then
      match run.next? with
      | none => run
      | some due =>
        if allowed due then driveFuel svc allowed waiting fuel (run.fire svc due)
        else run
    else run

/-- Carries out events in their order, as long as `waiting` holds and they are `allowed`. Each event
takes one off the potential, so there is fuel enough. -/
def drive (svc : Service σ ρ α ε) (allowed : Due → Bool) (waiting : Run δ β σ ρ α ε → Bool)
    (run : Run δ β σ ρ α ε) : Run δ β σ ρ α ε :=
  driveFuel svc allowed waiting run.potential run

/-- Moves the clock forward, if `t` is ahead. -/
def wind (run : Run δ β σ ρ α ε) (t : Instant) : Run δ β σ ρ α ε :=
  { run with now := max run.now t }

/-- Lets time pass until `t`. -/
def passTo (svc : Service σ ρ α ε) (run : Run δ β σ ρ α ε) (t : Instant) : Run δ β σ ρ α ε :=
  (run.drive svc (Due.noLaterThan (some t)) fun _ => true).wind t

/-- Waits for a request to end before `limit`. -/
def await (svc : Service σ ρ α ε) (run : Run δ β σ ρ α ε) (id : RequestId)
    (limit : Option Instant) : Run δ β σ ρ α ε :=
  let run := run.drive svc (Due.inTime id limit) (·.isRacing id)
  if run.isRacing id then limit.elim run run.wind else run

end Run

end Hedging
