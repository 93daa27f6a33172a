import Hedging.Session

/-!
# Shutting down in the middle of a request

When the machinery under a resolver is shut down, every task is cancelled. A request that is driven in
place sees its calls end as cancelled, one after the other, and settles as cancelled after the last; a
spawned request is cancelled as a whole and counts as nothing. A request that is driven in place is
under way as soon as it is made, while a spawned one needs a moment to begin: a shutdown that leaves no
time at all comes before it. At the instant of the shutdown nothing is done any more, but for the hedge
timer of a request that is driven in place.
-/

namespace Hedging

/-- What became of a request that a shutdown may have cut off. -/
structure ShutdownReport (δ β σ ρ α ε : Type) where
  /-- Had the request ended by the time of the shutdown? -/
  settledBefore : Bool
  answer : SessionAnswer α ε
  run : Run δ β σ ρ α ε

namespace Run

variable {δ β σ ρ α ε : Type} [DelayEstimator δ] [AdmissionBudget β]

/-- The call of a branch is cancelled under the request that waits for it. -/
def cancelBranch (svc : Service σ ρ α ε) (run : Run δ β σ ρ α ε) (id : RequestId)
    (branch : Branch) : Run δ β σ ρ α ε :=
  match run.requests[id]? with
  | some request =>
    match request.stage with
    | .racing race =>
      match race.call branch with
      | some c => (run.dropCall c).deliver svc id request race (.completed branch .cancelled)
      | none => run
    | _ => run
  | none => run

/-- Cancels all tasks while a request is driven in place. Which of its calls is seen to end first is
not determined. -/
def cancelInPlace (svc : Service σ ρ α ε) (run : Run δ β σ ρ α ε) (id : RequestId)
    (first : Branch) : Run δ β σ ρ α ε :=
  (run.cancelBranch svc id first).cancelBranch svc id first.other

/-- Makes one request, shuts down after `runFor`, and asks for the answer. -/
def shutdownAfter (svc : Service σ ρ α ε) (run : Run δ β σ ρ α ε) (payload : ρ) (runFor : Duration)
    (spawned : Bool) (first : Branch) : ShutdownReport δ β σ ρ α ε :=
  let id := run.requests.length
  let limit := run.now.within runFor
  if spawned && limit = run.now then ⟨false, .failed .cancelled, run⟩
  else
    let inTime : Due → Bool :=
      if spawned then fun due => decide (due.instant < limit) else Due.inTime id (some limit)
    let run := ((run.start svc payload !spawned).drive svc inTime (·.isRacing id)).wind limit
    let settledBefore := !run.isRacing id
    let run := if spawned then run.abandon id else run.cancelInPlace svc id first
    ⟨settledBefore, Session.answerOf run id, run⟩

end Run

end Hedging
