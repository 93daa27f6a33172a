import Hedging.Proofs.Run.Change
import Hedging.Service.Script

/-!
# Every request is accounted for

The stage of a request tells its `Fate`, so every request has exactly one. What the counters say is
the number of requests of each fate, for every run and however its moves are mixed: a counter is
only bumped when a racing request gets the fate that it counts, and such a request never gets
another.

> `accounts`: the accounts of a run balance, and a request that has ended never ends again.
-/

namespace Hedging

/-- What has become of a request. -/
inductive Fate
  | waiting
  | primaryWin
  | backupWin
  | failure
  | cancellation
  /-- Nobody wants the answer any more, or a call broke down. -/
  | givenUp
deriving DecidableEq, Repr

/-- Does a request of this fate have an answer? -/
def Fate.isSettled : Fate → Bool
  | .waiting | .givenUp => false
  | _ => true

/-- What the stage of a request means for it. -/
def Stage.fate {ρ α ε : Type} : Stage ρ α ε → Fate
  | .racing _ => .waiting
  | .settled _ (.ok ⟨_, .primary, _⟩) => .primaryWin
  | .settled _ (.ok ⟨_, .backup, _⟩) => .backupWin
  | .settled _ (.error (.failed ..)) => .failure
  | .settled _ (.error .cancelled) => .cancellation
  | .crashed .. | .abandoned _ => .givenUp

/-- What is counted of the requests with an answer. -/
def Counters.count (c : Counters) : Fate → Nat
  | .primaryWin => c.primaryWins
  | .backupWin => c.backupWins
  | .failure => c.failures
  | .cancellation => c.cancellations
  | .waiting | .givenUp => 0

/-- A request is settled under its fate, and under no other. -/
theorem Counters.count_settle {α ε : Type} (ρ : Type) (c : Counters) (t : Instant)
    (result : Result α ε) (fate : Fate) :
    (c.settle result).count fate =
      c.count fate + ((Stage.settled t result : Stage ρ α ε).fate == fate).toNat := by
  unfold Counters.settle Stage.fate
  split <;> cases fate <;> rfl

theorem Counters.requests_settle {α ε : Type} (c : Counters) (result : Result α ε) :
    (c.settle result).requests = c.requests := by
  unfold settle
  split <;> rfl

theorem Counters.samples_settle {α ε : Type} (c : Counters) (result : Result α ε) :
    (c.settle result).samples = c.samples := by
  unfold settle
  split <;> rfl

/-- Counting after one entry of a list was changed. -/
theorem countP_modify {γ : Type} {p : γ → Bool} {l : List γ} {i : Nat} {x : γ} (f : γ → γ)
    (h : l[i]? = some x) :
    (l.modify i f).countP p + (p x).toNat = l.countP p + (p (f x)).toNat := by
  induction l generalizing i with
  | nil => cases h
  | cons y rest ih =>
    cases i with
    | zero =>
      obtain rfl : y = x := Option.some.inj h
      rw [List.modify_zero_cons, List.countP_cons, List.countP_cons]
      cases p y <;> cases p (f y) <;> simp
    | succ i =>
      have hrest := ih h
      rw [List.modify_succ_cons, List.countP_cons, List.countP_cons]
      omega

namespace Run

section Tally

variable {δ β σ ρ α ε : Type} {run run' : Run δ β σ ρ α ε} {fate : Fate}

/-! ## Tallies -/

/-- The number of requests of one fate. -/
def tally (run : Run δ β σ ρ α ε) (fate : Fate) : Nat :=
  run.requests.countP (·.stage.fate == fate)

theorem length_eq_fates (requests : List (Request ρ α ε)) :
    requests.length =
      requests.countP (·.stage.fate == .primaryWin) +
      requests.countP (·.stage.fate == .backupWin) +
      requests.countP (·.stage.fate == .failure) +
      requests.countP (·.stage.fate == .cancellation) +
      requests.countP (·.stage.fate == .waiting) +
      requests.countP (·.stage.fate == .givenUp) := by
  induction requests with
  | nil => rfl
  | cons request rest ih =>
    simp only [List.countP_cons, List.length_cons]
    cases request.stage.fate <;> simp <;> omega

/-- Every request has exactly one fate. -/
theorem length_eq_tallies (run : Run δ β σ ρ α ε) :
    run.requests.length =
      run.tally .primaryWin + run.tally .backupWin + run.tally .failure +
        run.tally .cancellation + run.tally .waiting + run.tally .givenUp :=
  length_eq_fates run.requests

theorem tally_start (svc : Service σ ρ α ε) (payload : ρ) (inPlace : Bool) [DelayEstimator δ]
    [AdmissionBudget β] (h : fate.isSettled = true) :
    (run.start svc payload inPlace).tally fate = run.tally fate := by
  have hnew : (Fate.waiting == fate) = false := by
    cases fate <;> first | rfl | cases h
  unfold tally start
  rw [List.countP_append, List.countP_singleton]
  simp [Stage.fate, hnew]

/-- A racing request takes on the fate of its new stage. -/
theorem tally_of_stage {id : RequestId} {request : Request ρ α ε} {race : Race ρ α ε}
    {stage : Stage ρ α ε} (there : run.requests[id]? = some request)
    (racing : request.stage = .racing race)
    (hrequests : run'.requests = run.requests.modify id fun r => { r with stage })
    (h : fate.isSettled = true) :
    run'.tally fate = run.tally fate + (stage.fate == fate).toNat := by
  have hcount := countP_modify (p := fun r => r.stage.fate == fate)
    (fun r : Request ρ α ε => { r with stage }) there
  -- the request is taken out of those that wait, which no counter tells of
  have hwaiting : (request.stage.fate == fate) = false := by
    rw [racing]
    cases fate <;> first | rfl | cases h
  unfold tally
  rw [hrequests]
  simp only [hwaiting, Bool.toNat_false, Nat.add_zero] at hcount
  exact hcount

end Tally

section Counted

variable {δ β σ ρ α ε : Type} [DelayEstimator δ] {estimator : δ} {run run' : Run δ β σ ρ α ε}

/-! ## What the counters say -/

/-- What the counters of a run say is true of its requests, and of what the estimator was fed. -/
structure Counted (estimator : δ) (run : Run δ β σ ρ α ε) : Prop where
  received : run.counters.requests = run.requests.length
  settled : ∀ fate, fate.isSettled = true → run.counters.count fate = run.tally fate
  sampled : run.counters.samples =
    run.counters.primaryWins + run.counters.backupWins + run.counters.failures
  fed : run.counters.samples = run.fed.size
  learnt : run.estimator = run.fed.foldl DelayEstimator.addSample estimator

theorem new_counted (service : σ) (estimator : δ) (budget : β) :
    (Run.new service estimator budget : Run δ β σ ρ α ε).Counted estimator :=
  { received := rfl
    settled := fun fate _ => by cases fate <;> rfl
    sampled := rfl
    fed := rfl
    learnt := rfl }

/-- A request that goes on, or is given up, changes none of the counters that tell of an end. -/
theorem Counted.of_unsettled (h : run.Counted estimator) {id : RequestId}
    {request : Request ρ α ε} {race : Race ρ α ε} {stage : Stage ρ α ε} {issued denied : Nat}
    (there : run.requests[id]? = some request) (racing : request.stage = .racing race)
    (unsettled : stage.fate.isSettled = false)
    (hrequests : run'.requests = run.requests.modify id fun r => { r with stage })
    (hcounters : run'.counters =
      { run.counters with backupsIssued := issued, backupsDenied := denied })
    (hfed : run'.fed = run.fed) (hestimator : run'.estimator = run.estimator) :
    run'.Counted estimator := by
  refine ⟨?_, ?_, ?_, ?_, ?_⟩
  · rw [hcounters, hrequests, List.length_modify]
    exact h.received
  · intro fate hfate
    have hne : (stage.fate == fate) = false := by
      rw [beq_eq_false_iff_ne]
      intro heq
      rw [heq, hfate] at unsettled
      cases unsettled
    have hcount : run'.counters.count fate = run.counters.count fate := by
      rw [hcounters]
      cases fate <;> rfl
    rw [hcount, tally_of_stage there racing hrequests hfate, hne, h.settled fate hfate]
    rfl
  · rw [hcounters]
    exact h.sampled
  · rw [hcounters, hfed]
    exact h.fed
  · rw [hestimator, hfed]
    exact h.learnt

/-- A request that is settled is counted once, under its fate. -/
theorem Counted.settled_settle (h : run.Counted estimator) {id : RequestId}
    {request : Request ρ α ε} {race : Race ρ α ε} {t : Instant} {result : Result α ε}
    {samples : Nat} (there : run.requests[id]? = some request)
    (racing : request.stage = .racing race)
    (hrequests : run'.requests = run.requests.modify id fun r => { r with
      stage := .settled t result }) {fate : Fate} (hfate : fate.isSettled = true) :
    ({ run.counters with samples := samples }.settle result).count fate = run'.tally fate := by
  have hcount : ({ run.counters with samples := samples } : Counters).count fate =
      run.counters.count fate := by
    cases fate <;> rfl
  rw [Counters.count_settle ρ _ t result fate, hcount, h.settled fate hfate,
    tally_of_stage there racing hrequests hfate]

/-- What a call has answered is counted and fed to the estimator, once each. -/
theorem Counted.answer (h : run.Counted estimator) {id : RequestId} {request : Request ρ α ε}
    {race : Race ρ α ε} (there : run.requests[id]? = some request)
    (racing : request.stage = .racing race) (branch : Branch) (latency : Duration)
    {completion : Completion α ε} (ended : completion.isCancelled = false) :
    (run.answer id request race branch latency completion).Counted estimator := by
  refine ⟨?_, ?_, ?_, ?_, ?_⟩
  · rw [counters_answer, requests_answer, List.length_modify, Counters.requests_settle]
    exact h.received
  · intro fate hfate
    rw [counters_answer]
    exact h.settled_settle there racing (requests_answer ..) hfate
  · -- a win or a failure goes with the one sample
    have hsampled := h.sampled
    rw [counters_answer]
    cases completion with
    | succeeded value =>
      cases branch <;> simp only [resultOf, Counters.settle] <;> omega
    | failed error =>
      simp only [resultOf, Counters.settle]
      omega
    | cancelled => cases ended
  · rw [counters_answer, fed_answer, Counters.samples_settle, Array.size_push, h.fed]
  · rw [estimator_answer, fed_answer, Array.foldl_push, h.learnt]

end Counted

section Accounts

variable {δ β σ ρ α ε : Type} [DelayEstimator δ] [AdmissionBudget β] {svc : Service σ ρ α ε}
  {estimator : δ} {run run' : Run δ β σ ρ α ε} {subject : Option RequestId}

theorem Counted.start (h : run.Counted estimator) (svc : Service σ ρ α ε) (payload : ρ)
    (inPlace : Bool) : (run.start svc payload inPlace).Counted estimator := by
  refine ⟨?_, ?_, h.sampled, h.fed, h.learnt⟩
  · show run.counters.requests + 1 = (run.requests ++ [_]).length
    rw [List.length_append, List.length_singleton, h.received]
  · intro fate hfate
    rw [tally_start svc payload inPlace hfate]
    have hcount : (run.start svc payload inPlace).counters.count fate =
        run.counters.count fate := by
      cases fate <;> rfl
    rw [hcount]
    exact h.settled fate hfate

/-- The accounts stay right through every change. -/
theorem Change.counted (hc : Change svc run subject run') (h : run.Counted estimator) :
    run'.Counted estimator := by
  cases hc with
  | started payload inPlace => exact h.start svc payload inPlace
  | wound _ t => exact ⟨h.received, h.settled, h.sampled, h.fed, h.learnt⟩
  | hedged there racing => exact h.of_unsettled there racing rfl rfl rfl rfl rfl
  | denied there racing => exact h.of_unsettled there racing rfl rfl rfl rfl rfl
  | @answered t _ _ _ _ c _ _ there racing waited held said =>
    have hended : Counted estimator { run.wind t with calls := run.calls.finish c } :=
      ⟨h.received, h.settled, h.sampled, h.fed, h.learnt⟩
    exact hended.answer there racing _ _ (Reply.isCancelled_of_completion? said)
  | crashed there racing =>
    rw [dropCalls_eq]
    exact h.of_unsettled there racing rfl rfl rfl rfl rfl
  | bereft there racing => exact h.of_unsettled there racing rfl rfl rfl rfl rfl
  | lost there racing =>
    refine ⟨?_, ?_, h.sampled, h.fed, h.learnt⟩
    · show run.counters.requests = (run.requests.modify _ _).length
      rw [List.length_modify]
      exact h.received
    · intro fate hfate
      exact h.settled_settle there racing rfl hfate
  | abandoned there racing =>
    rw [dropCalls_eq]
    exact h.of_unsettled there racing rfl rfl rfl rfl rfl

theorem Reaches.counted {service : σ} {budget : β}
    (hr : Reaches svc (.new service estimator budget) run) : run.Counted estimator :=
  hr.invariant_of_change (new_sound service estimator budget) (fun _ _ _ hc => hc.counted)
    (new_counted ..)

/-! ## The accounts -/

/-- The accounts of a run that began with this estimator. -/
structure Accounts (svc : Service σ ρ α ε) (estimator : δ) (run : Run δ β σ ρ α ε) : Prop where
  received : run.counters.requests = run.requests.length
  balance : run.counters.requests =
    run.counters.primaryWins + run.counters.backupWins + run.counters.failures +
      run.counters.cancellations + run.tally .waiting + run.tally .givenUp
  primaryWins : run.counters.primaryWins = run.tally .primaryWin
  backupWins : run.counters.backupWins = run.tally .backupWin
  failures : run.counters.failures = run.tally .failure
  cancellations : run.counters.cancellations = run.tally .cancellation
  /-- A request is never forgotten. -/
  kept : ∀ later, Reaches svc run later → ∀ (id : RequestId) (request : Request ρ α ε),
    run.requests[id]? = some request →
      ∃ stage, later.requests[id]? = some { request with stage }
  /-- A request that waits no longer stays as it is for ever. -/
  final : ∀ later, Reaches svc run later → ∀ (id : RequestId) (request : Request ρ α ε),
    run.requests[id]? = some request → request.stage.fate ≠ .waiting →
      later.requests[id]? = some request
  samples : run.counters.samples =
    run.counters.primaryWins + run.counters.backupWins + run.counters.failures
  fed : run.counters.samples = run.fed.size
  /-- The estimator was fed these latencies and nothing else. -/
  learnt : run.estimator = run.fed.foldl DelayEstimator.addSample estimator

theorem isRacing_of_fate {request : Request ρ α ε} (h : request.stage.fate ≠ .waiting) :
    request.isRacing = false := by
  unfold Request.isRacing
  split
  next race racing =>
    rw [racing] at h
    exact absurd rfl h
  next => rfl

/-- **The accounts of every run balance**, whatever happens to its requests and in whatever
order. -/
theorem accounts {service : σ} {budget : β}
    (hr : Reaches svc (.new service estimator budget) run) : Accounts svc estimator run := by
  have hs := hr.sound (new_sound service estimator budget)
  have h : run.Counted estimator := hr.counted
  have hlength := run.length_eq_tallies
  have hprimary : run.counters.primaryWins = _ := h.settled .primaryWin rfl
  have hbackup : run.counters.backupWins = _ := h.settled .backupWin rfl
  have hfailure : run.counters.failures = _ := h.settled .failure rfl
  have hcancellation : run.counters.cancellations = _ := h.settled .cancellation rfl
  exact
    { received := h.received
      balance := by rw [h.received, hlength, hprimary, hbackup, hfailure, hcancellation]
      primaryWins := hprimary
      backupWins := hbackup
      failures := hfailure
      cancellations := hcancellation
      kept := fun later hlater id request there => hlater.request hs there
      final := fun later hlater id request there hfate =>
        hlater.request_of_ended hs there (isRacing_of_fate hfate)
      samples := h.sampled
      fed := h.fed
      learnt := h.learnt }

/-- A backup answers the first of three requests; the second is given up, the third waits. -/
theorem accounts_of_script :
    let script : Script :=
      ⟨[⟨50, .value, none⟩, ⟨30, .value, none⟩, ⟨5, .value, none⟩], ⟨40, .error, none⟩⟩
    let new : Run ConstantEstimator UnlimitedBudget Script String String String :=
      .new script ⟨some (.ofMillis 10)⟩ ⟨⟩
    let moves : List (Move String) :=
      [.start "a" true, .start "b" false, .fire ⟨10, 0, .timer, 0⟩, .abandon 1, .start "c" false,
        .fire ⟨15, 0, .call .backup, 8⟩]
    let run := new.play Script.service moves
    Accounts Script.service ⟨some (.ofMillis 10)⟩ run ∧ run.counters.requests = 3 ∧
      run.counters.backupWins = 1 ∧ run.tally .givenUp = 1 ∧ run.tally .waiting = 1 := by
  intro script new moves run
  have hreach : Reaches Script.service new run := ⟨moves, by decide, rfl⟩
  exact ⟨accounts hreach, by decide, by decide, by decide, by decide⟩

end Accounts

end Run

end Hedging
