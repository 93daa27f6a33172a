import Hedging.Run

/-!
# Using a resolver

A session is a run together with the handles that its user holds. Requests are made in place, with or
without a limit on the time, or spawned under a handle that is waited for later. Time moves only while
something is waited for, and everything due at an instant is finished before the next operation.

Clones of a resolver share everything, so which of them an operation goes through makes no
difference, and operations do not name one; a session only counts them.
-/

namespace Hedging

/-- What can be done with a resolver and the handles to its requests. -/
inductive SessionOp (ρ : Type)
  /-- Makes a request and waits for its value. -/
  | resolve (payload : ρ) (timeout : Option Duration)
  /-- Makes a request and waits for its value, the call that produced it and the time it took. -/
  | resolveDetailed (payload : ρ) (timeout : Option Duration)
  /-- Makes a request under a handle; an older handle of that name is dropped. -/
  | spawn (handle : String) (payload : ρ)
  /-- Waits for the request of a handle and gives the handle up. -/
  | wait (handle : String)
  /-- Cancels the request of a handle, which stays. -/
  | cancel (handle : String)
  /-- Drops a handle, which cancels its request. -/
  | drop (handle : String)
  | sleep (d : Duration)
  | clone
deriving DecidableEq, Repr

/-- What an operation answers. -/
inductive SessionAnswer (α ε : Type)
  | done
  | value (a : α)
  | detailed (h : Hedged α)
  | failed (e : HedgeError ε)
  /-- A call of the request broke down. -/
  | crashed (message : String)
  | timedOut
  /-- Whether there was a handle to drop. -/
  | dropped (existed : Bool)
  | noSuchHandle
deriving DecidableEq, Repr

/-- The value alone, where an answer has details. -/
def SessionAnswer.withoutDetails {α ε : Type} : SessionAnswer α ε → SessionAnswer α ε
  | .detailed h => .value h.value
  | answer => answer

/-- What a request tells those who wait for it; one that has not ended has run out of time. -/
def Stage.answer {ρ α ε : Type} : Stage ρ α ε → SessionAnswer α ε
  | .racing _ => .timedOut
  | .settled _ (.ok h) => .detailed h
  | .settled _ (.error e) => .failed e
  | .crashed _ message => .crashed message
  | .abandoned _ => .failed .cancelled

/-- A run and the handles to its requests. -/
structure Session (δ β σ ρ α ε : Type) where
  run : Run δ β σ ρ α ε
  handles : List (String × RequestId)
  clones : Nat

namespace Session

variable {δ β σ ρ α ε : Type} [DelayEstimator δ] [AdmissionBudget β]

/-- A session that nothing has happened in. -/
def new (service : σ) (estimator : δ) (budget : β) : Session δ β σ ρ α ε :=
  ⟨.new service estimator budget, [], 0⟩

/-- What a request answers now. -/
def answerOf (run : Run δ β σ ρ α ε) (id : RequestId) : SessionAnswer α ε :=
  (run.requests[id]?).elim .noSuchHandle (·.stage.answer)

/-- Makes a request and waits for it. If the time runs out first, or at the same instant, the request
is given up. -/
def resolveIn (svc : Service σ ρ α ε) (run : Run δ β σ ρ α ε) (payload : ρ)
    (timeout : Option Duration) : SessionAnswer α ε × Run δ β σ ρ α ε :=
  let id := run.requests.length
  let limit := timeout.map run.now.within
  let run := (run.start svc payload true).await svc id limit
  (answerOf run id, if run.isRacing id then run.abandon id else run)

/-- Gives a handle up. -/
def forget (s : Session δ β σ ρ α ε) (handle : String) : Session δ β σ ρ α ε :=
  { s with handles := s.handles.filter (·.1 != handle) }

/-- Drops the handle of a name, if there is one. -/
def dropHandle (s : Session δ β σ ρ α ε) (handle : String) : Session δ β σ ρ α ε :=
  match s.handles.lookup handle with
  | none => s
  | some id => { s with run := s.run.abandon id }.forget handle

/-- Carries out one operation. -/
def act (svc : Service σ ρ α ε) (s : Session δ β σ ρ α ε) :
    SessionOp ρ → SessionAnswer α ε × Session δ β σ ρ α ε
  | .resolve payload timeout =>
    let (answer, run) := resolveIn svc s.run payload timeout
    (answer.withoutDetails, { s with run })
  | .resolveDetailed payload timeout =>
    let (answer, run) := resolveIn svc s.run payload timeout
    (answer, { s with run })
  | .spawn handle payload =>
    let s := s.dropHandle handle
    let id := s.run.requests.length
    (.done, { s with run := s.run.start svc payload false, handles := (handle, id) :: s.handles })
  | .wait handle =>
    match s.handles.lookup handle with
    | none => (.noSuchHandle, s)
    | some id =>
      let run := s.run.await svc id none
      (answerOf run id, { s with run }.forget handle)
  | .cancel handle =>
    match s.handles.lookup handle with
    | none => (.noSuchHandle, s)
    | some id => (.done, { s with run := s.run.abandon id })
  | .drop handle => (.dropped (s.handles.lookup handle).isSome, s.dropHandle handle)
  | .sleep d => (.done, { s with run := s.run.passTo svc (s.run.now.after d) })
  | .clone => (.done, { s with clones := s.clones + 1 })

/-- Lets everything finish that is due at the present instant. -/
def flush (svc : Service σ ρ α ε) (s : Session δ β σ ρ α ε) : Session δ β σ ρ α ε :=
  { s with run := s.run.passTo svc s.run.now }

/-- Carries out one operation and everything that is due by then. -/
def step (svc : Service σ ρ α ε) (s : Session δ β σ ρ α ε) (op : SessionOp ρ) :
    SessionAnswer α ε × Session δ β σ ρ α ε :=
  let (answer, s) := s.act svc op
  (answer, s.flush svc)

/-- Carries out operations one after another. -/
def steps (svc : Service σ ρ α ε) (s : Session δ β σ ρ α ε) :
    List (SessionOp ρ) → List (SessionAnswer α ε) × Session δ β σ ρ α ε
  | [] => ([], s)
  | op :: ops =>
    let (answer, s) := s.step svc op
    let (answers, s) := s.steps svc ops
    (answer :: answers, s)

end Session

end Hedging
