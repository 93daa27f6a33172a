import Hedging.Call

/-!
# Calls under names

A board holds a service, a clock and calls that are known by name. An operation works on the call
that bears the name, and time moves only while something is waited for. Every call due by the
present instant has finished before the next operation starts.
-/

namespace Hedging

/-- Named calls to one service. -/
structure Board (σ ρ α ε : Type) where
  now : Instant
  service : σ
  calls : Ledger ρ α ε
  names : List (String × CallId)

namespace Board

variable {σ ρ α ε : Type}

/-- What can be done with named calls. -/
inductive Op (ρ : Type)
  /-- Issues a call under a name; an older call of that name is dropped. -/
  | issue (name : String) (payload : ρ)
  /-- Waits for a call and forgets its name. -/
  | wait (name : String)
  | cancel (name : String)
  /-- Aborts a call and forgets its name. -/
  | drop (name : String)
  | elapsed (name : String)
  | sleep (d : Duration)

/-- What an operation answers. -/
inductive Answer (α ε : Type)
  | done
  | completed (completion : Completion α ε) (elapsed : Duration)
  | crashed (message : String)
  /-- Time since the issue, and when that was. -/
  | elapsed (elapsed started : Duration)
  | noSuchCall

/-- A board without calls, at the start of time. -/
def new (service : σ) : Board σ ρ α ε := ⟨0, service, [], []⟩

/-- The call that bears a name. -/
def find? (b : Board σ ρ α ε) (name : String) : Option (CallId × Call ρ α ε) := do
  let id ← b.names.lookup name
  let call ← b.calls[id]?
  return (id, call)

/-- Forgets a name. -/
def forget (b : Board σ ρ α ε) (name : String) : Board σ ρ α ε :=
  { b with names := b.names.filter (·.1 != name) }

/-- Aborts a call. -/
def abort (b : Board σ ρ α ε) (id : CallId) : Board σ ρ α ε := { b with calls := b.calls.drop id }

/-- Lets time pass; the clock never runs back. -/
def passTo (b : Board σ ρ α ε) (t : Instant) : Board σ ρ α ε :=
  let now := max b.now t
  { b with now, calls := b.calls.finishDue now }

/-- What a call that has come to its end tells those who wait for it. -/
def ending (call : Call ρ α ε) (elapsed : Duration) : Answer α ε :=
  if call.state = .dropped then .completed .cancelled elapsed
  else
    match call.reply with
    | .value a => .completed (.succeeded a) elapsed
    | .error e => .completed (.failed e) elapsed
    | .crash message => .crashed message

/-- Issues a call under a name. -/
def issue (svc : Service σ ρ α ε) (b : Board σ ρ α ε) (name : String) (payload : ρ) :
    Board σ ρ α ε :=
  let (plan, service) := svc.issue b.service payload
  let id := b.calls.length
  let replaced := (b.names.lookup name).elim b.calls b.calls.drop
  { b with
    service
    calls := replaced.issue b.now payload plan
    names := (name, id) :: b.names.filter (·.1 != name) }

/-- Carries out one operation. -/
def act (svc : Service σ ρ α ε) (b : Board σ ρ α ε) : Op ρ → Answer α ε × Board σ ρ α ε
  | .issue name payload => (.done, b.issue svc name payload)
  | .wait name =>
    match b.find? name with
    | none => (.noSuchCall, b)
    | some (_, call) =>
      let b := if call.isRunning then b.passTo call.due else b
      (ending call (call.elapsed b.now), b.forget name)
  | .cancel name =>
    match b.find? name with
    | none => (.noSuchCall, b)
    | some (id, _) => (.done, b.abort id)
  | .drop name =>
    match b.find? name with
    | none => (.noSuchCall, b)
    | some (id, _) => (.done, (b.abort id).forget name)
  | .elapsed name =>
    match b.find? name with
    | none => (.noSuchCall, b)
    | some (_, call) => (.elapsed (call.elapsed b.now) (.ofMillis call.issued), b)
  | .sleep d => (.done, b.passTo (b.now.after d))

/-- Carries out one operation and lets everything due at that instant finish. -/
def step (svc : Service σ ρ α ε) (b : Board σ ρ α ε) (op : Op ρ) : Answer α ε × Board σ ρ α ε :=
  let (answer, b) := b.act svc op
  (answer, b.passTo b.now)

end Board

end Hedging
