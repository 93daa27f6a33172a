import Hedging.Proofs.Run.Moves

/-!
# What a move can change

A move goes through the race of its request, the actions that the race asks for, and the end of the
request. `Change` says what comes out of it, without that machinery: one case for each way in which
a move can change a run. Laws about runs are proved case by case from it.

> `apply_change`: a possible move of a sound run is one of the listed changes.

What the turns of a race keep, every change keeps for all races of a run (`Change.everyRace`). In
particular a run is `Sound` when all its races are, which every move preserves (`Reaches.sound`). So
what every change keeps holds wherever a run leads (`Reaches.invariant_of_change`).
-/

namespace Hedging

/-- The completion of a call that does not break down. -/
def Reply.completion? {α ε : Type} : Reply α ε → Option (Completion α ε)
  | .value a => some (.succeeded a)
  | .error e => some (.failed e)
  | .crash _ => none

/-- A call that comes to an end of its own was not cancelled. -/
theorem Reply.isCancelled_of_completion? {α ε : Type} {reply : Reply α ε}
    {completion : Completion α ε} (h : reply.completion? = some completion) :
    completion.isCancelled = false := by
  cases reply with
  | value a =>
    obtain rfl := Option.some.inj h
    rfl
  | error e =>
    obtain rfl := Option.some.inj h
    rfl
  | crash message => cases h

/-- A call without a completion breaks down. -/
theorem Reply.eq_crash_of_completion? {α ε : Type} {reply : Reply α ε}
    (h : reply.completion? = none) : ∃ message, reply = .crash message := by
  cases reply with
  | value a => cases h
  | error e => cases h
  | crash message => exact ⟨message, rfl⟩

namespace Run

section Calls

variable {δ β σ ρ α ε : Type} {run : Run δ β σ ρ α ε} {c : CallId} {call : Call ρ α ε}

/-! ## Sound runs -/

/-- Every race that is under way is sound. -/
def Sound (run : Run δ β σ ρ α ε) : Prop :=
  ∀ (id : RequestId) (request : Request ρ α ε) (race : Race ρ α ε),
    run.requests[id]? = some request → request.stage = .racing race → race.Sound request.payload

/-- A request that is found after one was put into a stage is that one, or was there already. -/
theorem there_of_stage {run' : Run δ β σ ρ α ε} {id i : RequestId} {stage : Stage ρ α ε}
    {request' : Request ρ α ε}
    (hrequests : run'.requests = run.requests.modify id fun r => { r with stage })
    (there' : run'.requests[i]? = some request') :
    (id = i ∧ ∃ request, run.requests[id]? = some request ∧ { request with stage } = request') ∨
      (id ≠ i ∧ run.requests[i]? = some request') := by
  rw [hrequests] at there'
  by_cases hi : id = i
  · subst hi
    rw [List.getElem?_modify_eq] at there'
    exact Or.inl ⟨rfl, Option.map_eq_some_iff.mp there'⟩
  · rw [List.getElem?_modify_ne _ _ hi] at there'
    exact Or.inr ⟨hi, there'⟩

/-- Every race that is under way has a property, which may depend on the payload and the delay of
its request. -/
def EveryRace (P : ρ → Option Duration → Race ρ α ε → Prop) (run : Run δ β σ ρ α ε) : Prop :=
  ∀ (id : RequestId) (request : Request ρ α ε) (race : Race ρ α ε),
    run.requests[id]? = some request → request.stage = .racing race →
      P request.payload request.delay race

section EveryRace

variable {P : ρ → Option Duration → Race ρ α ε → Prop} {run' : Run δ β σ ρ α ε} {id : RequestId}

theorem new_everyRace (service : σ) (estimator : δ) (budget : β) :
    (Run.new service estimator budget : Run δ β σ ρ α ε).EveryRace P := by
  intro id request race hthere
  cases hthere

/-- The races keep a property when a request is put into a stage whose race, if it has one, has the
property. -/
theorem EveryRace.setStage (h : run.EveryRace P) {stage : Stage ρ α ε}
    (hrequests : run'.requests = run.requests.modify id fun r => { r with stage })
    (hrace : ∀ (request : Request ρ α ε) (race : Race ρ α ε), run.requests[id]? = some request →
      stage = .racing race → P request.payload request.delay race) : run'.EveryRace P := by
  intro i request race hthere hracing
  rcases there_of_stage hrequests hthere with ⟨rfl, before, hbefore, rfl⟩ | ⟨-, hkept⟩
  · exact hrace before race hbefore hracing
  · exact h i request race hkept hracing

/-- The races keep a property when a request goes on with a race that has it. -/
theorem EveryRace.setStage_racing (h : run.EveryRace P) {request : Request ρ α ε}
    {race : Race ρ α ε} (there : run.requests[id]? = some request)
    (hrace : P request.payload request.delay race)
    (hrequests : run'.requests = run.requests.modify id fun r => { r with stage := .racing race }) :
    run'.EveryRace P := by
  refine h.setStage hrequests ?_
  intro request' race' there' hs
  obtain rfl := Option.some.inj (there.symm.trans there')
  obtain rfl := Stage.racing.inj hs
  exact hrace

/-- The races keep a property when a request ends. -/
theorem EveryRace.of_ended (h : run.EveryRace P) {stage : Stage ρ α ε}
    (hrequests : run'.requests = run.requests.modify id fun r => { r with stage })
    (ended : ∀ race, stage ≠ .racing race) : run'.EveryRace P :=
  h.setStage hrequests fun _ race _ hs => absurd hs (ended race)

end EveryRace

theorem new_sound (service : σ) (estimator : δ) (budget : β) :
    (Run.new service estimator budget : Run δ β σ ρ α ε).Sound :=
  new_everyRace (P := fun payload _ race => race.Sound payload) service estimator budget

/-! ## The calls of a run -/

theorem foldl_dropCall (run : Run δ β σ ρ α ε) (ids : List CallId) :
    ids.foldl dropCall run = { run with calls := ids.foldl Ledger.drop run.calls } := by
  induction ids generalizing run with
  | nil => rfl
  | cons id rest ih =>
    rw [List.foldl_cons, ih]
    rfl

theorem dropCalls_eq (run : Run δ β σ ρ α ε) (race : Race ρ α ε) :
    run.dropCalls race = { run with calls := race.calls.foldl Ledger.drop run.calls } :=
  foldl_dropCall ..

theorem settle_eq (run : Run δ β σ ρ α ε) (id : RequestId) (started : Instant)
    (race : Race ρ α ε) :
    run.settle id started race =
      let result := resultOf (run.now.since started) race.slot.get?
      { run.setStage id (.settled run.now result) with
        counters := run.counters.settle result
        calls := race.calls.foldl Ledger.drop run.calls } := by
  unfold settle
  rw [dropCalls_eq]
  rfl

theorem elapsed_finish (call : Call ρ α ε) (now : Instant) :
    call.finish.elapsed now = call.elapsed now := by
  unfold Call.finish
  split <;> rfl

theorem elapsed_drop (call : Call ρ α ε) (now : Instant) :
    call.drop.elapsed now = call.elapsed now := by
  unfold Call.drop
  split <;> rfl

theorem latencyOf_finish (held : run.calls[c]? = some call) :
    { run with calls := run.calls.finish c }.latencyOf c = call.elapsed run.now := by
  have hfinish : (run.calls.finish c)[c]? = some call.finish := by
    unfold Ledger.finish
    rw [List.getElem?_modify_eq, held]
    rfl
  unfold latencyOf
  rw [hfinish]
  exact elapsed_finish ..

/-- The latency of a call is the same whichever call is aborted. -/
theorem latencyOf_dropCall (run : Run δ β σ ρ α ε) (c other : CallId) :
    (run.dropCall other).latencyOf c = run.latencyOf c := by
  unfold latencyOf dropCall Ledger.drop
  rw [List.getElem?_modify]
  cases run.calls[c]? with
  | none => rfl
  | some call =>
    show (if other = c then call.drop else call).elapsed run.now = call.elapsed run.now
    split
    · exact elapsed_drop ..
    · rfl

theorem wind_now (run : Run δ β σ ρ α ε) : run.wind run.now = run := by
  unfold wind
  rw [Nat.max_self]

end Calls

section Answers

variable {δ β σ ρ α ε : Type} [DelayEstimator δ] {svc : Service σ ρ α ε} {run : Run δ β σ ρ α ε}
  {id : RequestId} {request : Request ρ α ε} {race : Race ρ α ε} {branch : Branch} {c : CallId}
  {call : Call ρ α ε} {completion : Completion α ε}

/-! ## The end of a call -/

/-- The victory of a backup is noted, that of a primary is not. -/
def announce (run : Run δ β σ ρ α ε) (latency : Duration) : Branch → Run δ β σ ρ α ε
  | .primary => run
  | .backup => run.note (.backupWon (LogEntry.millisWord latency))

/-- A call has answered its request: its latency is sampled, the other call is aborted, and the
request is settled. -/
def answer (run : Run δ β σ ρ α ε) (id : RequestId) (request : Request ρ α ε)
    (race : Race ρ α ε) (branch : Branch) (latency : Duration) (completion : Completion α ε) :
    Run δ β σ ρ α ε :=
  let result := resultOf (run.now.since request.started) (some (branch, completion))
  let sampled := (run.announce latency branch).sample latency
  { sampled.setStage id (.settled run.now result) with
    counters := sampled.counters.settle result
    calls := (race.without branch).calls.foldl Ledger.drop run.calls }

section Fields

variable (run : Run δ β σ ρ α ε) (id : RequestId) (request : Request ρ α ε) (race : Race ρ α ε)
  (branch : Branch) (latency : Duration) (completion : Completion α ε)

@[simp] theorem budget_answer :
    (run.answer id request race branch latency completion).budget = run.budget := by
  cases branch <;> rfl

@[simp] theorem estimator_answer :
    (run.answer id request race branch latency completion).estimator =
      DelayEstimator.addSample run.estimator latency := by
  cases branch <;> rfl

@[simp] theorem counters_answer :
    (run.answer id request race branch latency completion).counters =
      { run.counters with samples := run.counters.samples + 1 }.settle
        (resultOf (run.now.since request.started) (some (branch, completion))) := by
  cases branch <;> rfl

@[simp] theorem fed_answer :
    (run.answer id request race branch latency completion).fed = run.fed.push latency := by
  cases branch <;> rfl

@[simp] theorem requests_answer :
    (run.answer id request race branch latency completion).requests =
      run.requests.modify id fun r => { r with
        stage := .settled run.now
          (resultOf (run.now.since request.started) (some (branch, completion))) } := by
  cases branch <;> rfl

end Fields

/-- The last call of a request was cancelled. -/
def lose (run : Run δ β σ ρ α ε) (id : RequestId) : Run δ β σ ρ α ε :=
  { run.setStage id (.settled run.now (.error .cancelled)) with
    counters := run.counters.settle (.error .cancelled : Result α ε) }

theorem deliver_of_step (svc : Service σ ρ α ε) (run : Run δ β σ ρ α ε) (id : RequestId)
    (request : Request ρ α ε) {event : Race.Event α ε} {race' : Race ρ α ε}
    {actions : List (Race.Action ρ)}
    (h : race.step run.calls.length event = (race', actions)) :
    run.deliver svc id request race event =
      if race'.isResolved then
        (actions.foldl (perform svc request.delay) run).settle id request.started race'
      else (actions.foldl (perform svc request.delay) run).setStage id (.racing race') := by
  unfold deliver
  rw [h]

/-- A backup that closes a race has its victory noted, the primary aborted, and its latency
sampled. -/
theorem foldl_perform_backup (svc : Service σ ρ α ε) (delay : Option Duration)
    (run : Run δ β σ ρ α ε) (race : Race ρ α ε) (c : CallId) :
    (race.closing .backup c).foldl (perform svc delay) run =
      { (run.announce (run.latencyOf c) .backup).sample (run.latencyOf c) with
        calls := (race.without .backup).calls.foldl Ledger.drop run.calls } := by
  unfold Race.closing
  cases hp : race.primary with
  | none =>
    have hcalls : (race.without .backup).calls = [] := by simp [Race.calls, Race.without, hp]
    rw [hcalls]
    rfl
  | some p =>
    have hcalls : (race.without .backup).calls = [p] := by simp [Race.calls, Race.without, hp]
    rw [hcalls]
    -- the primary is aborted before the backup is sampled, which its latency does not show
    show sample _ (((run.announce (run.latencyOf c) .backup).dropCall p).latencyOf c) = _
    rw [latencyOf_dropCall]
    rfl

/-- A call that has something to say answers its request. -/
theorem deliver_answered (h : race.Sound request.payload) (waited : race.call branch = some c)
    (ended : completion.isCancelled = false) :
    run.deliver svc id request race (.completed branch completion) =
      run.answer id request race branch (run.latencyOf c) completion := by
  rw [deliver_of_step svc run id request (Race.step_answered _ h waited ended),
    if_pos (Race.isResolved_decided ..), settle_eq, Race.slot_decided]
  cases branch with
  | primary => rfl
  | backup =>
    rw [foldl_perform_backup]
    rfl

/-- A call that is cancelled while the other one is under way leaves the request to that one. -/
theorem deliver_bereft (h : race.Sound request.payload) {other : CallId}
    (left : race.call branch.other = some other) :
    run.deliver svc id request race (.completed branch .cancelled) =
      run.setStage id (.racing (race.without branch)) := by
  rw [deliver_of_step svc run id request (Race.step_cancelled_left _ left), Race.isResolved_without,
    h.isResolved]
  rfl

/-- A call that is cancelled as the last one ends the request. -/
theorem deliver_lost (h : race.Sound request.payload) (alone : race.call branch.other = none) :
    run.deliver svc id request race (.completed branch .cancelled) = run.lose id := by
  rw [deliver_of_step svc run id request (Race.step_cancelled_alone _ h alone),
    if_pos (Race.isResolved_decided ..), settle_eq, Race.slot_decided]
  have hcalls : (race.decided branch .cancelled).calls = [] := by
    cases branch with
    | primary =>
      have hb : race.backup = none := alone
      simp [Race.calls, Race.decided, hb]
    | backup => rfl
  rw [hcalls]
  rfl

/-- What the end of a call does depends on what the call has to say. -/
theorem fireCall_held (waited : race.call branch = some c) (held : run.calls[c]? = some call) :
    run.fireCall svc id request race branch =
      let ended := { run with calls := run.calls.finish c }
      match call.reply with
      | .value a => ended.deliver svc id request race (.completed branch (.succeeded a))
      | .error e => ended.deliver svc id request race (.completed branch (.failed e))
      | .crash message => (ended.dropCalls race).setStage id (.crashed ended.now message) := by
  unfold fireCall
  rw [waited, Option.bind_some, held]
  rfl

theorem fireCall_answered (h : race.Sound request.payload) (waited : race.call branch = some c)
    (held : run.calls[c]? = some call) (said : call.reply.completion? = some completion) :
    run.fireCall svc id request race branch =
      answer { run with calls := run.calls.finish c } id request race branch
        (call.elapsed run.now) completion := by
  have ended := Reply.isCancelled_of_completion? said
  rw [fireCall_held waited held]
  cases hreply : call.reply with
  | value a =>
    rw [hreply] at said
    obtain rfl := Option.some.inj said
    simp only
    rw [deliver_answered h waited ended, latencyOf_finish held]
  | error e =>
    rw [hreply] at said
    obtain rfl := Option.some.inj said
    simp only
    rw [deliver_answered h waited ended, latencyOf_finish held]
  | crash message =>
    rw [hreply] at said
    cases said

theorem fireCall_crashed (waited : race.call branch = some c)
    (held : run.calls[c]? = some call) {message : String} (said : call.reply = .crash message) :
    run.fireCall svc id request race branch =
      ({ run with calls := run.calls.finish c }.dropCalls race).setStage id
        (.crashed run.now message) := by
  rw [fireCall_held waited held, said]

end Answers

section Timer

variable {δ β σ ρ α ε : Type} [DelayEstimator δ] [AdmissionBudget β] {svc : Service σ ρ α ε}
  {run : Run δ β σ ρ α ε} {id : RequestId} {request : Request ρ α ε} {race : Race ρ α ε}

/-! ## The hedge timer -/

/-- A backup is paid for, counted and sent. -/
def hedge (svc : Service σ ρ α ε) (run : Run δ β σ ρ α ε) (id : RequestId)
    (request : Request ρ α ε) (race : Race ρ α ε) : Run δ β σ ρ α ε :=
  let paid := { run with budget := (AdmissionBudget.tryConsume run.budget).2 }
  let counted := paid.perform svc request.delay .hedge
  (counted.issue svc request.payload).setStage id
    (.racing { race with timerArmed := false, spare := none, backup := some run.calls.length })

/-- A backup is refused. -/
def deny (svc : Service σ ρ α ε) (run : Run δ β σ ρ α ε) (id : RequestId)
    (request : Request ρ α ε) (race : Race ρ α ε) : Run δ β σ ρ α ε :=
  let asked := { run with budget := (AdmissionBudget.tryConsume run.budget).2 }
  (asked.perform svc request.delay .deny).setStage id (.racing { race with timerArmed := false })

theorem fireTimer_granted (h : race.Sound request.payload) (armed : race.timerArmed = true)
    (granted : (AdmissionBudget.tryConsume run.budget).1 = true) :
    run.fireTimer svc id request race = run.hedge svc id request race := by
  have hstep : race.step run.calls.length (.timer true) = _ := Race.timerFired_granted h armed
  -- nothing is decided yet, so the request goes on racing
  have hopen : ({ race with timerArmed := false, spare := none
                            backup := some run.calls.length } : Race ρ α ε).isResolved = false :=
    h.isResolved
  unfold fireTimer
  rw [h.timerIsStale armed, if_neg (by simp)]
  simp only [granted]
  rw [deliver_of_step svc { run with budget := (AdmissionBudget.tryConsume run.budget).2 } id
    request hstep, hopen]
  rfl

theorem fireTimer_refused (h : race.Sound request.payload) (armed : race.timerArmed = true)
    (refused : (AdmissionBudget.tryConsume run.budget).1 = false) :
    run.fireTimer svc id request race = run.deny svc id request race := by
  have hstep : race.step run.calls.length (.timer false) = _ := Race.timerFired_refused h armed
  have hopen : ({ race with timerArmed := false } : Race ρ α ε).isResolved = false :=
    h.isResolved
  unfold fireTimer
  rw [h.timerIsStale armed, if_neg (by simp)]
  simp only [refused]
  rw [deliver_of_step svc { run with budget := (AdmissionBudget.tryConsume run.budget).2 } id
    request hstep, hopen]
  rfl

end Timer

section Change

variable {δ β σ ρ α ε : Type} [DelayEstimator δ] [AdmissionBudget β] {svc : Service σ ρ α ε}
  {run run' later : Run δ β σ ρ α ε} {subject : Option RequestId}

/-! ## The changes -/

/-- One case for each way in which a move can change a run, with the request that it concerns. -/
inductive Change (svc : Service σ ρ α ε) (run : Run δ β σ ρ α ε) :
    Option RequestId → Run δ β σ ρ α ε → Prop
  | started (payload : ρ) (inPlace : Bool) : Change svc run none (run.start svc payload inPlace)
  /-- Nothing but time goes by, and perhaps not even that. -/
  | wound (subject : Option RequestId) (t : Instant) : Change svc run subject (run.wind t)
  | hedged {t : Instant} {id : RequestId} {request : Request ρ α ε} {race : Race ρ α ε}
    (there : run.requests[id]? = some request) (racing : request.stage = .racing race)
    (armed : race.timerArmed = true)
    (granted : (AdmissionBudget.tryConsume run.budget).1 = true) :
    Change svc run (some id) ((run.wind t).hedge svc id request race)
  | denied {t : Instant} {id : RequestId} {request : Request ρ α ε} {race : Race ρ α ε}
    (there : run.requests[id]? = some request) (racing : request.stage = .racing race)
    (armed : race.timerArmed = true)
    (refused : (AdmissionBudget.tryConsume run.budget).1 = false) :
    Change svc run (some id) ((run.wind t).deny svc id request race)
  | answered {t : Instant} {id : RequestId} {request : Request ρ α ε} {race : Race ρ α ε}
    {branch : Branch} {c : CallId} {call : Call ρ α ε} {completion : Completion α ε}
    (there : run.requests[id]? = some request) (racing : request.stage = .racing race)
    (waited : race.call branch = some c) (held : run.calls[c]? = some call)
    (said : call.reply.completion? = some completion) :
    Change svc run (some id)
      (answer { run.wind t with calls := run.calls.finish c } id request race branch
        (call.elapsed (max run.now t)) completion)
  | crashed {t : Instant} {id : RequestId} {request : Request ρ α ε} {race : Race ρ α ε}
    {branch : Branch} {c : CallId} {call : Call ρ α ε} {message : String}
    (there : run.requests[id]? = some request) (racing : request.stage = .racing race)
    (waited : race.call branch = some c) (held : run.calls[c]? = some call)
    (said : call.reply = .crash message) :
    Change svc run (some id)
      (({ run.wind t with calls := run.calls.finish c }.dropCalls race).setStage id
        (.crashed (max run.now t) message))
  | bereft {id : RequestId} {request : Request ρ α ε} {race : Race ρ α ε} {branch : Branch}
    {c other : CallId} (there : run.requests[id]? = some request)
    (racing : request.stage = .racing race) (waited : race.call branch = some c)
    (left : race.call branch.other = some other) :
    Change svc run (some id) ((run.dropCall c).setStage id (.racing (race.without branch)))
  | lost {id : RequestId} {request : Request ρ α ε} {race : Race ρ α ε} {branch : Branch}
    {c : CallId} (there : run.requests[id]? = some request)
    (racing : request.stage = .racing race) (waited : race.call branch = some c)
    (alone : race.call branch.other = none) :
    Change svc run (some id) ((run.dropCall c).lose id)
  | abandoned {id : RequestId} {request : Request ρ α ε} {race : Race ρ α ε}
    (there : run.requests[id]? = some request) (racing : request.stage = .racing race) :
    Change svc run (some id) ((run.dropCalls race).setStage id (.abandoned run.now))

theorem Change.unchanged (svc : Service σ ρ α ε) (run : Run δ β σ ρ α ε)
    (subject : Option RequestId) : Change svc run subject run := by
  have h : Change svc run subject (run.wind run.now) := .wound subject run.now
  rw [wind_now] at h
  exact h

section Fire

variable {t : Instant} {id : RequestId} {turn : Nat} {request : Request ρ α ε} {race : Race ρ α ε}
  {branch : Branch} {c : CallId} {call : Call ρ α ε}

theorem fire_timer_eq (svc : Service σ ρ α ε) (t : Instant) (turn : Nat)
    (there : run.requests[id]? = some request) (racing : request.stage = .racing race) :
    run.fire svc ⟨t, id, .timer, turn⟩ = (run.wind t).fireTimer svc id request race := by
  unfold fire
  simp only [there, racing]
  rfl

theorem fire_call_eq (svc : Service σ ρ α ε) (t : Instant) (branch : Branch) (turn : Nat)
    (there : run.requests[id]? = some request) (racing : request.stage = .racing race) :
    run.fire svc ⟨t, id, .call branch, turn⟩ =
      (run.wind t).fireCall svc id request race branch := by
  unfold fire
  simp only [there, racing]
  rfl

theorem fire_granted (h : run.Sound) (there : run.requests[id]? = some request)
    (racing : request.stage = .racing race) (armed : race.timerArmed = true)
    (granted : (AdmissionBudget.tryConsume run.budget).1 = true) :
    run.fire svc ⟨t, id, .timer, turn⟩ = (run.wind t).hedge svc id request race := by
  rw [fire_timer_eq svc t turn there racing]
  have hgranted : (AdmissionBudget.tryConsume (run.wind t).budget).1 = true := granted
  exact fireTimer_granted (h id request race there racing) armed hgranted

theorem fire_refused (h : run.Sound) (there : run.requests[id]? = some request)
    (racing : request.stage = .racing race) (armed : race.timerArmed = true)
    (refused : (AdmissionBudget.tryConsume run.budget).1 = false) :
    run.fire svc ⟨t, id, .timer, turn⟩ = (run.wind t).deny svc id request race := by
  rw [fire_timer_eq svc t turn there racing]
  have hrefused : (AdmissionBudget.tryConsume (run.wind t).budget).1 = false := refused
  exact fireTimer_refused (h id request race there racing) armed hrefused

theorem fire_answered (h : run.Sound) (there : run.requests[id]? = some request)
    (racing : request.stage = .racing race) (waited : race.call branch = some c)
    (held : run.calls[c]? = some call) {completion : Completion α ε}
    (said : call.reply.completion? = some completion) :
    run.fire svc ⟨t, id, .call branch, turn⟩ =
      answer { run.wind t with calls := run.calls.finish c } id request race branch
        (call.elapsed (max run.now t)) completion := by
  rw [fire_call_eq svc t branch turn there racing]
  have hheld : (run.wind t).calls[c]? = some call := held
  exact fireCall_answered (h id request race there racing) waited hheld said

theorem fire_crashed (there : run.requests[id]? = some request)
    (racing : request.stage = .racing race) (waited : race.call branch = some c)
    (held : run.calls[c]? = some call) {message : String} (said : call.reply = .crash message) :
    run.fire svc ⟨t, id, .call branch, turn⟩ =
      ({ run.wind t with calls := run.calls.finish c }.dropCalls race).setStage id
        (.crashed (max run.now t) message) := by
  rw [fire_call_eq svc t branch turn there racing]
  have hheld : (run.wind t).calls[c]? = some call := held
  exact fireCall_crashed waited hheld said

end Fire

theorem fire_change (h : run.Sound) {due : Due} (hdue : run.Ahead due) :
    Change svc run (some due.request) (run.fire svc due) := by
  cases hdue with
  | timer there racing armed set =>
    cases hgranted : (AdmissionBudget.tryConsume run.budget).1 with
    | true =>
      rw [fire_granted h there racing armed hgranted]
      exact .hedged there racing armed hgranted
    | false =>
      rw [fire_refused h there racing armed hgranted]
      exact .denied there racing armed hgranted
  | @call _ _ _ _ _ _ call there racing waited held =>
    cases hsaid : call.reply.completion? with
    | some completion =>
      rw [fire_answered h there racing waited held hsaid]
      exact .answered there racing waited held hsaid
    | none =>
      obtain ⟨message, hreply⟩ := Reply.eq_crash_of_completion? hsaid
      rw [fire_crashed there racing waited held hreply]
      exact .crashed there racing waited held hreply

theorem abandon_change (run : Run δ β σ ρ α ε) (id : RequestId) :
    Change svc run (some id) (run.abandon id) := by
  unfold abandon
  split
  next => exact .unchanged svc run _
  next request there =>
    split
    next race racing => exact .abandoned there racing
    next => exact .unchanged svc run _

theorem cut_change (h : run.Sound) (id : RequestId) (branch : Branch) :
    Change svc run (some id) (run.cancelBranch svc id branch) := by
  unfold cancelBranch
  split
  next request there =>
    split
    next race racing =>
      split
      next c waited =>
        have hrace := h id request race there racing
        -- with another call under way the request goes on, and otherwise it is lost
        cases hother : race.call branch.other with
        | some other =>
          rw [deliver_bereft hrace hother]
          exact .bereft there racing waited hother
        | none =>
          rw [deliver_lost hrace hother]
          exact .lost there racing waited hother
      next => exact .unchanged svc run _
    next => exact .unchanged svc run _
  next => exact .unchanged svc run _

/-- **A possible move of a sound run is one of the changes.** -/
theorem apply_change (h : run.Sound) {m : Move ρ} (hm : run.Possible m) :
    Change svc run m.subject (run.apply svc m) := by
  cases m with
  | start payload inPlace => exact .started payload inPlace
  | fire due => exact fire_change h (ahead_of_mem_pending hm)
  | abandon id => exact abandon_change run id
  | cut id branch => exact cut_change h id branch
  | wind t => exact .wound none t

/-! ## Soundness is kept -/

section EveryRace

variable {P : ρ → Option Duration → Race ρ α ε → Prop}

theorem EveryRace.start (h : run.EveryRace P) (svc : Service σ ρ α ε) (payload : ρ)
    (inPlace : Bool)
    (hstart : ∀ (primary : CallId) (delay : Option Duration),
      P payload delay (.start payload primary delay.isSome)) :
    (run.start svc payload inPlace).EveryRace P := by
  intro id request race hthere hracing
  have hrequests : (run.start svc payload inPlace).requests[id]? = some request := hthere
  unfold Run.start at hrequests
  simp only [List.getElem?_append, List.getElem?_singleton] at hrequests
  split at hrequests
  next => exact h id request race hrequests hracing
  next =>
    split at hrequests
    next =>
      obtain rfl := Option.some.inj hrequests
      obtain rfl := Stage.racing.inj hracing
      exact hstart ..
    next => cases hrequests

/-- What holds of a race at its start, and is kept by every turn that decides nothing, is kept by
every change of a sound run. -/
theorem Change.everyRace (hc : Change svc run subject run')
    (hstart : ∀ (payload : ρ) (primary : CallId) (delay : Option Duration),
      P payload delay (.start payload primary delay.isSome))
    (hturn : ∀ {payload : ρ} {delay : Option Duration} {fresh : CallId} {race race' : Race ρ α ε}
      {e : Race.Event α ε} {actions : List (Race.Action ρ)}, race.Sound payload →
      Race.Turn payload fresh race e race' actions → race'.isResolved = false →
      P payload delay race → P payload delay race')
    (hs : run.Sound) (h : run.EveryRace P) : run'.EveryRace P := by
  cases hc with
  | started payload inPlace => exact h.start svc payload inPlace (hstart payload)
  | wound _ t => exact h
  | @hedged _ id request race there racing armed granted =>
    have hrace := hs id request race there racing
    have turn : Race.Turn request.payload run.calls.length race (.timer true) _ _ := .hedged armed
    exact h.setStage_racing there
      (hturn hrace turn hrace.isResolved (h id request race there racing)) rfl
  | @denied _ id request race there racing armed refused =>
    have hrace := hs id request race there racing
    have turn : Race.Turn request.payload run.calls.length race (.timer false) _ _ := .refused armed
    exact h.setStage_racing there
      (hturn hrace turn hrace.isResolved (h id request race there racing)) rfl
  | answered there racing waited held said => exact h.of_ended (requests_answer ..) nofun
  | crashed there racing waited held said =>
    rw [dropCalls_eq]
    exact h.of_ended rfl nofun
  | @bereft id request race branch c _ there racing waited left =>
    have hrace := hs id request race there racing
    have turn : Race.Turn request.payload c race (.completed branch .cancelled) _ _ :=
      .bereft waited left
    have hopen : (race.without branch).isResolved = false :=
      (Race.isResolved_without ..).trans hrace.isResolved
    exact h.setStage_racing there (hturn hrace turn hopen (h id request race there racing)) rfl
  | lost there racing waited alone => exact h.of_ended rfl nofun
  | abandoned there racing =>
    rw [dropCalls_eq]
    exact h.of_ended rfl nofun

end EveryRace

theorem Sound.start (h : run.Sound) (svc : Service σ ρ α ε) (payload : ρ) (inPlace : Bool) :
    (run.start svc payload inPlace).Sound :=
  EveryRace.start (P := fun payload _ race => race.Sound payload) h svc payload inPlace
    fun primary delay => Race.start_sound payload primary delay.isSome

theorem Change.sound (h : run.Sound) (hc : Change svc run subject run') : run'.Sound :=
  hc.everyRace (P := fun payload _ race => race.Sound payload)
    (fun payload primary delay => Race.start_sound payload primary delay.isSome)
    (fun hrace turn hopen _ => turn.sound hrace hopen) h h

theorem Reaches.sound (hr : Reaches svc run run') (h : run.Sound) : run'.Sound :=
  hr.invariant (fun _ _ hs hm => (apply_change hs hm).sound hs) h

/-- What every change keeps holds wherever a sound run leads. -/
theorem Reaches.invariant_of_change {P : Run δ β σ ρ α ε → Prop} (hr : Reaches svc run later)
    (hs : run.Sound)
    (hstep : ∀ (run run' : Run δ β σ ρ α ε) (subject : Option RequestId),
      Change svc run subject run' → P run → P run') (h : P run) : P later := by
  have hboth : later.Sound ∧ P later := by
    refine hr.invariant (P := fun run => run.Sound ∧ P run) ?_ ⟨hs, h⟩
    intro run m ⟨hs, h⟩ hm
    have hc : Change svc run m.subject (run.apply svc m) := apply_change hs hm
    exact ⟨hc.sound hs, hstep _ _ _ hc h⟩
  exact hboth.2

/-! ## What becomes of the requests -/

/-- A change brings in a request, or takes one that is racing to another stage, or touches none. -/
theorem Change.requests (hc : Change svc run subject run') :
    run'.requests = run.requests ∨ (∃ request, run'.requests = run.requests ++ [request]) ∨
    ∃ id request race stage, subject = some id ∧ run.requests[id]? = some request ∧
      request.stage = .racing race ∧
      run'.requests = run.requests.modify id fun r => { r with stage } := by
  cases hc with
  | started payload inPlace => exact Or.inr (Or.inl ⟨_, rfl⟩)
  | wound _ t => exact Or.inl rfl
  | hedged there racing => exact Or.inr (Or.inr ⟨_, _, _, _, rfl, there, racing, rfl⟩)
  | denied there racing => exact Or.inr (Or.inr ⟨_, _, _, _, rfl, there, racing, rfl⟩)
  | answered there racing =>
    exact Or.inr (Or.inr ⟨_, _, _, _, rfl, there, racing, requests_answer ..⟩)
  | crashed there racing =>
    rw [dropCalls_eq]
    exact Or.inr (Or.inr ⟨_, _, _, _, rfl, there, racing, rfl⟩)
  | bereft there racing => exact Or.inr (Or.inr ⟨_, _, _, _, rfl, there, racing, rfl⟩)
  | lost there racing => exact Or.inr (Or.inr ⟨_, _, _, _, rfl, there, racing, rfl⟩)
  | abandoned there racing =>
    rw [dropCalls_eq]
    exact Or.inr (Or.inr ⟨_, _, _, _, rfl, there, racing, rfl⟩)

/-- A request stays as it is while others are concerned, and when it has ended. -/
theorem Change.request_kept (hc : Change svc run subject run') {id : RequestId}
    {request : Request ρ α ε} (there : run.requests[id]? = some request)
    (hkept : subject = some id → request.isRacing = false) :
    run'.requests[id]? = some request := by
  rcases hc.requests with heq | ⟨_, heq⟩ | ⟨i, request', race, _, hsubject, there', racing, heq⟩
  · rw [heq]
    exact there
  · rw [heq, List.getElem?_append_left (List.getElem?_eq_some_iff.mp there).1]
    exact there
  · -- the request that goes to another stage is racing, so it is not the one in question
    have hid : i ≠ id := by
      intro h
      subst h
      obtain rfl := Option.some.inj (there.symm.trans there')
      have hracing : request.isRacing = true := by
        unfold Request.isRacing
        rw [racing]
      exact absurd (hracing.symm.trans (hkept hsubject)) (by simp)
    rw [heq, List.getElem?_modify_ne _ _ hid]
    exact there

/-- A request is never forgotten, and nothing but its stage ever changes. -/
theorem Change.request (hc : Change svc run subject run') {id : RequestId}
    {request : Request ρ α ε} (there : run.requests[id]? = some request) :
    ∃ stage, run'.requests[id]? = some { request with stage } := by
  rcases hc.requests with heq | ⟨_, heq⟩ | ⟨i, _, _, stage, _, _, _, heq⟩
  · exact ⟨request.stage, by rw [heq]; exact there⟩
  · refine ⟨request.stage, ?_⟩
    rw [heq, List.getElem?_append_left (List.getElem?_eq_some_iff.mp there).1]
    exact there
  · rw [heq, List.getElem?_modify, there]
    by_cases hid : i = id
    · exact ⟨stage, by simp [hid]⟩
    · exact ⟨request.stage, by simp [hid]⟩

theorem Reaches.request (hr : Reaches svc run later) (hs : run.Sound) {id : RequestId}
    {request : Request ρ α ε} (there : run.requests[id]? = some request) :
    ∃ stage, later.requests[id]? = some { request with stage } := by
  refine hr.invariant_of_change
    (P := fun run => ∃ stage, run.requests[id]? = some { request with stage }) hs ?_
    ⟨request.stage, there⟩
  intro run run' subject hc ⟨stage, hthere⟩
  obtain ⟨stage', hthere'⟩ := hc.request hthere
  exact ⟨stage', hthere'⟩

/-- A request that has ended stays as it is to the end of every run. -/
theorem Reaches.request_of_ended (hr : Reaches svc run later) (hs : run.Sound) {id : RequestId}
    {request : Request ρ α ε} (there : run.requests[id]? = some request)
    (ended : request.isRacing = false) : later.requests[id]? = some request :=
  hr.invariant_of_change hs (fun _ _ _ hc hthere => hc.request_kept hthere fun _ => ended) there

end Change

end Run

end Hedging
