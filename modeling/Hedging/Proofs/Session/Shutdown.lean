import Hedging.Proofs.Session.Cancellation
import Hedging.Run.Shutdown

/-!
# Shutting down

A shutdown meets the only request of a resolver either after its end, and then it makes no
difference, or while its calls are under way. `Lone` says what there is to meet in the second case:
one call, or two of them, all of them running, and nothing counted but the request itself and what
its timer has led to. To cancel all tasks then comes to the same in whichever order the calls are
seen to end.

What ends at the very instant of the shutdown comes too late (`shutdown_at_the_end`).

> `drive_lone`: as long as a lone request races, nothing else has happened.
> `Lone.cancelInPlace`, `Lone.abandon`: what cancelling all tasks makes of it.
> `shutdown_truncates`: a request that ends before the shutdown is not touched by it, and any other
> is cut off cleanly.
-/

namespace Hedging.Run

variable {δ β σ ρ α ε : Type} {run : Run δ β σ ρ α ε} {estimator : δ} {request : Request ρ α ε}
  {race : Race ρ α ε} {t : Instant} {due : Due}

/-! ## A lone request -/

/-- The only request of a resolver while it races: none of its calls has ended. -/
structure Lone (estimator : δ) (run : Run δ β σ ρ α ε) (request : Request ρ α ε)
    (race : Race ρ α ε) : Prop where
  requests : run.requests = [request]
  racing : request.stage = .racing race
  primary : race.primary = some 0
  backup : race.backup = none ∧ run.calls.length = 1 ∨
    race.backup = some 1 ∧ run.calls.length = 2
  running : ∀ call ∈ run.calls, call.state = .running
  counters : run.counters =
    { requests := 1, backupsIssued := run.calls.length - 1
      backupsDenied := run.counters.backupsDenied }
  estimator : run.estimator = estimator
  fed : run.fed = #[]

namespace Lone

theorem there (h : Lone estimator run request race) : run.requests[0]? = some request := by
  rw [h.requests]
  rfl

theorem isRacing (h : Lone estimator run request race) : run.isRacing 0 = true := by
  unfold Run.isRacing Request.isRacing
  rw [h.there, Option.any_some, h.racing]

/-- The request of an event is the one that there is. -/
theorem of_there (h : Lone estimator run request race) {id : RequestId} {other : Request ρ α ε}
    (hother : run.requests[id]? = some other) : id = 0 ∧ other = request := by
  rw [h.requests] at hother
  cases id with
  | zero => exact ⟨rfl, (Option.some.inj hother).symm⟩
  | succ id => cases hother

theorem wind (h : Lone estimator run request race) (t : Instant) :
    Lone estimator (run.wind t) request race :=
  ⟨h.requests, h.racing, h.primary, h.backup, h.running, h.counters, h.estimator, h.fed⟩

/-- As long as the timer is armed there is no backup. -/
theorem length_of_armed (h : Lone estimator run request race) (hs : run.Sound)
    (armed : race.timerArmed = true) : run.calls.length = 1 := by
  have hnone := (hs 0 request race h.there h.racing).backup_of_armed armed
  rcases h.backup with ⟨-, hlength⟩ | ⟨hsome, -⟩
  · exact hlength
  · rw [hnone] at hsome
    cases hsome

/-- The calls of a lone request, all of them dropped. -/
theorem foldl_drop (h : Lone estimator run request race) {ids : List CallId}
    (hids : ∀ c < run.calls.length, c ∈ ids) :
    ids.foldl Ledger.drop run.calls =
      run.calls.map fun call => { call with state := .dropped } := by
  refine List.ext_getElem? fun c => ?_
  rw [getElem?_foldl_drop, List.getElem?_map]
  cases hc : run.calls[c]? with
  | none => rfl
  | some call =>
    obtain ⟨hlt, rfl⟩ := List.getElem?_eq_some_iff.mp hc
    rw [Option.map_some, Option.map_some, if_pos (hids c hlt)]
    have hstate := h.running _ (List.getElem_mem hlt)
    unfold Call.drop
    rw [hstate]

end Lone

/-! ## Cancelling all tasks -/

section Cut

variable [DelayEstimator δ] {id : RequestId} {first branch : Branch} {c d : CallId}

theorem cancelBranch_waited (svc : Service σ ρ α ε) (there : run.requests[id]? = some request)
    (racing : request.stage = .racing race) (waited : race.call branch = some c) :
    run.cancelBranch svc id branch =
      (run.dropCall c).deliver svc id request race (.completed branch .cancelled) := by
  unfold cancelBranch
  simp only [there, racing, waited]

/-- A call that nobody waits for is not missed. -/
theorem cancelBranch_unwaited (svc : Service σ ρ α ε) (there : run.requests[id]? = some request)
    (racing : request.stage = .racing race) (unwaited : race.call branch = none) :
    run.cancelBranch svc id branch = run := by
  unfold cancelBranch
  simp only [there, racing, unwaited]

theorem cancelBranch_lost (svc : Service σ ρ α ε) (h : race.Sound request.payload)
    (there : run.requests[id]? = some request) (racing : request.stage = .racing race)
    (waited : race.call branch = some c) (alone : race.call branch.other = none) :
    run.cancelBranch svc id branch = (run.dropCall c).lose id := by
  rw [cancelBranch_waited svc there racing waited]
  exact deliver_lost h alone

/-- The end of one call leaves the request to the other, and with that one it is lost. -/
theorem cancelInPlace_both (svc : Service σ ρ α ε) (h : race.Sound request.payload)
    (there : run.requests[id]? = some request) (racing : request.stage = .racing race)
    (waited : race.call first = some c) (left : race.call first.other = some d) :
    run.cancelInPlace svc id first =
      (((run.dropCall c).setStage id (.racing (race.without first))).dropCall d).lose id := by
  let bereft : Request ρ α ε := { request with stage := .racing (race.without first) }
  have hleft : (race.without first).Sound bereft.payload := by
    have turned : Race.Turn request.payload c race (.completed first .cancelled)
      (race.without first) [] := .bereft waited left
    exact turned.sound h ((Race.isResolved_without ..).trans h.isResolved)
  have hthere : ((run.dropCall c).setStage id (.racing (race.without first))).requests[id]? =
      some bereft := getElem?_of_stage there rfl
  unfold cancelInPlace
  rw [cancelBranch_waited svc there racing waited, deliver_bereft h left]
  refine cancelBranch_lost svc hleft hthere rfl ?_ ?_
  · rw [Race.call_without, if_neg (by cases first <;> decide)]
    exact left
  · rw [Race.call_without]
    cases first <;> rfl

/-- The end of the only call is the end of the request, whichever call is looked at first. -/
theorem cancelInPlace_one (svc : Service σ ρ α ε) (h : race.Sound request.payload)
    (there : run.requests[id]? = some request) (racing : request.stage = .racing race)
    (waited : race.call branch = some c) (alone : race.call branch.other = none) (first : Branch) :
    run.cancelInPlace svc id first = (run.dropCall c).lose id := by
  have hlost := cancelBranch_lost svc h there racing waited alone
  have hthere : ((run.dropCall c).lose id).requests[id]? =
      some { request with stage := .settled run.now (.error .cancelled) } :=
    getElem?_of_stage there rfl
  unfold cancelInPlace
  by_cases hfirst : first = branch
  · rw [hfirst, hlost]
    exact cancelBranch_of_ended svc hthere rfl _
  · have hother : first = branch.other := by
      cases first <;> cases branch <;> first | rfl | exact absurd rfl hfirst
    have hback : branch.other.other = branch := by cases branch <;> rfl
    rw [hother, cancelBranch_unwaited svc there racing alone, hback]
    exact hlost

/-- Cancelling all tasks makes no difference to a request that has ended. -/
theorem cancelInPlace_of_ended (svc : Service σ ρ α ε)
    (hlt : id < run.requests.length) (h : run.isRacing id = false) (first : Branch) :
    run.cancelInPlace svc id first = run := by
  have hthere := List.getElem?_eq_getElem hlt
  have hended : (run.requests[id]).isRacing = false := (isRacing_of_there hthere).symm.trans h
  unfold cancelInPlace
  rw [cancelBranch_of_ended svc hthere hended, cancelBranch_of_ended svc hthere hended]

end Cut

namespace Lone

/-- A lone request is given up. -/
theorem abandon (h : Lone estimator run request race) :
    run.abandon 0 = { run with
      calls := run.calls.map fun call => { call with state := .dropped }
      requests := [{ request with stage := .abandoned run.now }] } := by
  have hids : ∀ c < run.calls.length, c ∈ race.calls := by
    unfold Race.calls
    rw [h.primary]
    rcases h.backup with ⟨hbackup, hlength⟩ | ⟨hbackup, hlength⟩
    · rw [hbackup, hlength]
      decide
    · rw [hbackup, hlength]
      decide
  rw [abandon_racing h.there h.racing, h.foldl_drop hids, h.requests]
  rfl

/-- **All tasks are cancelled under a lone request**, and it makes no difference which of its calls
is seen to end first. -/
theorem cancelInPlace [DelayEstimator δ] (h : Lone estimator run request race) (hs : run.Sound)
    (svc : Service σ ρ α ε) (first : Branch) :
    run.cancelInPlace svc 0 first = { run with
      calls := run.calls.map fun call => { call with state := .dropped }
      requests := [{ request with stage := .settled run.now (.error .cancelled) }]
      counters := { run.counters with cancellations := run.counters.cancellations + 1 } } := by
  have hrace := hs 0 request race h.there h.racing
  rcases h.backup with ⟨hbackup, hlength⟩ | ⟨hbackup, hlength⟩
  · have hids : ∀ c < run.calls.length, c ∈ [0] := by
      rw [hlength]
      decide
    have hprimary : race.call .primary = some 0 := h.primary
    have halone : race.call Branch.primary.other = none := hbackup
    rw [cancelInPlace_one svc hrace h.there h.racing hprimary halone first, ← h.foldl_drop hids]
    unfold lose setStage dropCall
    rw [h.requests]
    rfl
  · -- the two calls are dropped one after the other, and between them these are all
    obtain ⟨c, d, hc, hd, hids⟩ : ∃ c d, race.call first = some c ∧
        race.call first.other = some d ∧ ∀ k < run.calls.length, k ∈ [c, d] := by
      rw [hlength]
      cases first with
      | primary => exact ⟨0, 1, h.primary, hbackup, by decide⟩
      | backup => exact ⟨1, 0, hbackup, h.primary, by decide⟩
    rw [cancelInPlace_both svc hrace h.there h.racing hc hd, ← h.foldl_drop hids]
    unfold lose setStage dropCall
    simp only [h.requests]
    rfl

end Lone

/-- The first request of a resolver was cut off by a shutdown at `stop`: nothing had been heard of
its calls, and nothing ever is. -/
structure CutOff (spawned : Bool) (stop : Instant) (eve : Run δ β σ ρ α ε)
    (report : ShutdownReport δ β σ ρ α ε) : Prop where
  late : report.settledBefore = false
  answer : report.answer = .failed .cancelled
  requests : eve.counters.requests = if spawned && stop = 0 then 0 else 1
  backups : eve.counters.backupsIssued ≤ eve.counters.requests
  issued : eve.calls.length = eve.counters.requests + eve.counters.backupsIssued
  dropped : report.run.calls = eve.calls.map fun call => { call with state := .dropped }
  counters : report.run.counters =
    { requests := eve.counters.requests, backupsIssued := eve.counters.backupsIssued
      backupsDenied := eve.counters.backupsDenied, cancellations := if spawned then 0 else 1 }
  budget : report.run.budget = eve.budget
  estimator : report.run.estimator = eve.estimator
  service : report.run.service = eve.service
  fed : report.run.fed = #[]

/-- A lone request that races when all tasks are cancelled is cut off. -/
theorem Lone.cutOff [DelayEstimator δ] (h : Lone estimator run request race) (hs : run.Sound)
    (svc : Service σ ρ α ε) {spawned : Bool} (hbegun : (spawned && t = 0) = false)
    (first : Branch) :
    let gone := if spawned then (run.wind t).abandon 0 else (run.wind t).cancelInPlace svc 0 first
    CutOff spawned t run ⟨!(run.wind t).isRacing 0, Session.answerOf gone 0, gone⟩ := by
  intro gone
  have hwound := h.wind t
  have hlate : (!(run.wind t).isRacing 0) = false := by rw [hwound.isRacing]; rfl
  have hrequests : run.counters.requests = 1 := by rw [h.counters]
  have hissued : run.counters.backupsIssued = run.calls.length - 1 := by rw [h.counters]
  have hone : run.counters.requests = if spawned && t = 0 then 0 else 1 := by
    rw [hbegun, hrequests]
    rfl
  have hcalls : run.calls.length = 1 ∨ run.calls.length = 2 :=
    h.backup.imp And.right And.right
  have hbackups : run.counters.backupsIssued ≤ run.counters.requests := by omega
  have hall : run.calls.length = run.counters.requests + run.counters.backupsIssued := by omega
  cases spawned with
  | true =>
    have hgone : gone = _ := hwound.abandon
    rw [hgone]
    refine ⟨hlate, rfl, hone, hbackups, hall, rfl, ?_, rfl, rfl, rfl, h.fed⟩
    show run.counters = _
    rw [h.counters]
    rfl
  | false =>
    have hgone : gone = _ := hwound.cancelInPlace hs svc first
    rw [hgone]
    refine ⟨hlate, rfl, hone, hbackups, hall, rfl, ?_, rfl, rfl, rfl, h.fed⟩
    show { run.counters with cancellations := run.counters.cancellations + 1 } = _
    rw [h.counters]
    rfl

/-! ## Up to the shutdown -/

variable [DelayEstimator δ] [AdmissionBudget β]

namespace Lone

theorem hedge (h : Lone estimator run request race) (hs : run.Sound)
    (armed : race.timerArmed = true) (svc : Service σ ρ α ε) :
    ∃ request' race', Lone estimator (run.hedge svc 0 request race) request' race' := by
  have hlength := h.length_of_armed hs armed
  let hedged : Race ρ α ε := { race with timerArmed := false, spare := none
                                         backup := some run.calls.length }
  refine ⟨{ request with stage := .racing hedged }, hedged, ?_, rfl, h.primary, .inr ⟨?_, ?_⟩, ?_,
    ?_, h.estimator, h.fed⟩
  · show run.requests.modify 0 _ = _
    rw [h.requests]
    rfl
  · exact congrArg some hlength
  · show (run.calls ++ [_]).length = 2
    rw [List.length_append, hlength]
    rfl
  · intro call hcall
    rcases List.mem_append.mp hcall with hold | hnew
    · exact h.running call hold
    · obtain rfl := List.mem_singleton.mp hnew
      rfl
  · show { run.counters with backupsIssued := run.counters.backupsIssued + 1 } = Counters.mk ..
    rw [h.counters]
    show _ = Counters.mk 1 ((run.calls ++ [_]).length - 1) _ _ _ _ _ _
    rw [List.length_append, hlength]
    rfl

theorem deny (h : Lone estimator run request race) (svc : Service σ ρ α ε) :
    ∃ request' race', Lone estimator (run.deny svc 0 request race) request' race' := by
  let denied : Race ρ α ε := { race with timerArmed := false }
  refine ⟨{ request with stage := .racing denied }, denied, ?_, rfl, h.primary, h.backup, h.running,
    ?_, h.estimator, h.fed⟩
  · show run.requests.modify 0 _ = _
    rw [h.requests]
    rfl
  · show { run.counters with backupsDenied := run.counters.backupsDenied + 1 } = Counters.mk ..
    rw [h.counters]
    rfl

/-- An event that leaves a lone request racing is its timer. -/
theorem fire (h : Lone estimator run request race) (hs : run.Sound) (svc : Service σ ρ α ε)
    (hdue : due ∈ run.pending) (hracing : (run.fire svc due).isRacing 0 = true) :
    ∃ request' race', Lone estimator (run.fire svc due) request' race' := by
  cases ahead_of_mem_pending hdue with
  | @timer t id turn other race' there racing armed set =>
    obtain ⟨rfl, rfl⟩ := h.of_there there
    obtain rfl := Stage.racing.inj (h.racing.symm.trans racing)
    have hwound := h.wind t
    cases hgranted : (AdmissionBudget.tryConsume run.budget).1 with
    | true =>
      rw [fire_granted hs there racing armed hgranted]
      exact hwound.hedge hs armed svc
    | false =>
      rw [fire_refused hs there racing armed hgranted]
      exact hwound.deny svc
  | call there racing waited held =>
    -- the end of a call would have ended the request
    obtain ⟨rfl, rfl⟩ := h.of_there there
    have hended := fire_call_ended svc hs hdue rfl
    exact absurd (hracing.symm.trans hended) (by simp)

end Lone

theorem new_start_lone (svc : Service σ ρ α ε) (service : σ) (estimator : δ) (budget : β)
    (payload : ρ) (inPlace : Bool) :
    let fresh : Run δ β σ ρ α ε := .new service estimator budget
    ∃ request race, Lone estimator (fresh.start svc payload inPlace) request race := by
  refine ⟨_, _, rfl, rfl, rfl, .inl ⟨rfl, rfl⟩, ?_, rfl, rfl, rfl⟩
  intro call hcall
  obtain rfl := List.mem_singleton.mp hcall
  rfl

/-- As long as a lone request races, it has heard of nothing but its timer. -/
theorem drive_lone (svc : Service σ ρ α ε) (hs : run.Sound)
    (h : ∃ request race, Lone estimator run request race) (allowed : Due → Bool)
    (hracing : (run.drive svc allowed (·.isRacing 0)).isRacing 0 = true) :
    ∃ request race, Lone estimator (run.drive svc allowed (·.isRacing 0)) request race := by
  refine drive_induction svc allowed (·.isRacing 0) (P := fun run =>
    let driven := run.drive svc allowed (·.isRacing 0)
    (∃ request race, Lone estimator run request race) → driven.isRacing 0 = true →
      ∃ request race, Lone estimator driven request race) ?_ ?_ hs h hracing
  · intro run _ hstop driven h hracing
    have hsame : driven = run := drive_of_stopped svc hstop
    rw [hsame]
    exact h
  · intro run due hs hwaits hnext hdue ih driven ⟨request, race, h⟩ hracing
    have hsame : driven = (run.fire svc due).drive svc allowed (·.isRacing 0) :=
      drive_of_next svc hs hwaits hnext hdue
    rw [hsame] at hracing ⊢
    cases hfired : (run.fire svc due).isRacing 0 with
    | true => exact ih (h.fire hs svc (earliest_le hnext).1 hfired) hracing
    | false =>
      rw [drive_of_stopped svc (Or.inl hfired), hfired] at hracing
      cases hracing

/-! ## The shutdown -/

/-- What a run in which one request is made has come to just before `stop`. A request that is
spawned only then has not begun. -/
def eveOf (svc : Service σ ρ α ε) (run : Run δ β σ ρ α ε) (payload : ρ) (spawned : Bool)
    (stop : Instant) : Run δ β σ ρ α ε :=
  if spawned && stop = run.now then run
  else (run.start svc payload !spawned).drive svc (fun due => decide (due.instant < stop))
    (·.isRacing run.requests.length)

/-- The events that a request is still driven by when it is shut down at `stop`. -/
def untilShutdown (id : RequestId) (spawned : Bool) (stop : Instant) : Due → Bool :=
  if spawned then fun due => decide (due.instant < stop) else Due.inTime id (some stop)

theorem le_of_not_untilShutdown {id : RequestId} {spawned : Bool} {stop : Instant}
    (h : untilShutdown id spawned stop due = false) : stop ≤ due.instant := by
  cases spawned with
  | true => exact Nat.not_lt.mp (of_decide_eq_false h)
  | false => exact le_of_not_inTime h

theorem untilShutdown_of_lt {id : RequestId} {spawned : Bool} {stop : Instant}
    (h : due.instant < stop) : untilShutdown id spawned stop due = true := by
  cases spawned with
  | true => exact decide_eq_true h
  | false =>
    show (decide (due.instant < stop) || _) = true
    rw [decide_eq_true h, Bool.true_or]

/-- A request that has had the time to begin is met by its shutdown where it has got by then. -/
theorem shutdownAfter_of_begun (svc : Service σ ρ α ε) (run : Run δ β σ ρ α ε)
    {met : Run δ β σ ρ α ε} {payload : ρ} {runFor : Duration} {spawned : Bool}
    (hbegun : (spawned && run.now.within runFor = run.now) = false)
    (hmet : (run.start svc payload !spawned).drive svc
      (untilShutdown run.requests.length spawned (run.now.within runFor))
      (·.isRacing run.requests.length) = met) (first : Branch) :
    let id := run.requests.length
    let stopped := met.wind (run.now.within runFor)
    let gone := if spawned then stopped.abandon id else stopped.cancelInPlace svc id first
    run.shutdownAfter svc payload runFor spawned first =
      ⟨!stopped.isRacing id, Session.answerOf gone id, gone⟩ := by
  subst hmet
  unfold shutdownAfter
  simp only [hbegun]
  rfl

/-- A shutdown makes no difference to a request that ends before it. -/
theorem shutdownAfter_of_lt (svc : Service σ ρ α ε) (h : run.Intact) (payload : ρ)
    (runFor : Duration) (spawned : Bool) (first : Branch) :
    let id := run.requests.length
    let whole := (run.start svc payload !spawned).await svc id none
    let stop := run.now.within runFor
    whole.now < stop →
      run.shutdownAfter svc payload runFor spawned first =
        ⟨true, Session.answerOf whole id, whole.wind stop⟩ := by
  intro id whole stop hlt
  have hstart : (run.start svc payload !spawned).Intact :=
    (leads_start svc run payload !spawned).reaches.intact h
  have hended : whole.isRacing id = false := await_ends svc hstart id
  have hnow : run.now ≤ whole.now := by
    have hdriven := now_le_drive svc hstart.sound (Due.inTime id none) (·.isRacing id)
    rw [← await_none] at hdriven
    exact hdriven
  have hbegun : (spawned && stop = run.now) = false := by
    rw [decide_eq_false (Nat.ne_of_gt (Nat.lt_of_le_of_lt hnow hlt)), Bool.and_false]
  have hmet : (run.start svc payload !spawned).drive svc (untilShutdown id spawned stop)
      (·.isRacing id) = whole :=
    drive_of_lt svc hstart.sound (fun _ => le_of_not_untilShutdown) hended hlt
  have hthere : id < (whole.wind stop).requests.length :=
    (await_leads svc hstart.sound id none).lt_length hstart.sound
      (start_wanted svc run payload _).lt
  have hover : (whole.wind stop).isRacing id = false := hended
  rw [shutdownAfter_of_begun svc run hbegun hmet first, hover, abandon_of_not_racing hover,
    cancelInPlace_of_ended svc hthere hover, ite_self]
  rfl

/-- No event of a lone request is left for the instant of the shutdown, unless its timer goes off at
that instant. -/
theorem Lone.drive_untilShutdown (h : Lone estimator run request race) (svc : Service σ ρ α ε)
    {spawned : Bool} {stop : Instant} (hlate : ∀ due, run.next? = some due → stop ≤ due.instant)
    (hnone : ∀ due ∈ run.pending, due.source ≠ .timer) :
    run.drive svc (untilShutdown 0 spawned stop) (·.isRacing 0) = run := by
  refine drive_of_stopped svc (.inr fun due hnext => ?_)
  have hdue := (earliest_le hnext).1
  have hle := hlate due hnext
  have hlt : decide (due.instant < stop) = false := decide_eq_false (Nat.not_lt.mpr hle)
  cases spawned with
  | true => exact hlt
  | false =>
    have hown : due.request = 0 := by
      cases ahead_of_mem_pending hdue with
      | timer there => exact (h.of_there there).1
      | call there => exact (h.of_there there).1
    have hcall : (due.source == .timer) = false := beq_eq_false_iff_ne.mpr (hnone due hdue)
    show (decide (due.instant < stop) || _) = false
    rw [hlt, hown, hcall]
    simp

/-- A lone request that ends no earlier than `t` still races just before `t`, and then nothing is
left of what comes before `t`. -/
theorem drive_before_lone (svc : Service σ ρ α ε) (hs : run.Sound) (hnow : run.now = 0)
    (h : ∃ request race, Lone estimator run request race)
    (hle : t ≤ (run.await svc 0 none).now) :
    let eve := run.drive svc (fun due => decide (due.instant < t)) (·.isRacing 0)
    (∃ request race, Lone estimator eve request race) ∧
      ∀ due, eve.next? = some due → t ≤ due.instant := by
  intro eve
  have hracing : eve.isRacing 0 = true := by
    -- a drive that stops by `t - 1` is outlasted; without such an instant nothing has happened yet
    cases t with
    | zero =>
      have hsame : eve = run :=
        drive_of_stopped svc (.inr fun due _ => decide_eq_false (Nat.not_lt_zero _))
      obtain ⟨request, race, hlone⟩ := h
      rw [hsame]
      exact hlone.isRacing
    | succ t =>
      exact drive_outlasted svc hs (hnow ▸ Nat.zero_le t) hle
        fun due hdue => Nat.le_of_lt_succ (of_decide_eq_true hdue)
  have hstops : Stopped (fun due => decide (due.instant < t)) (·.isRacing 0) eve :=
    drive_stops svc hs _ _
  refine ⟨drive_lone svc hs h _ hracing, fun due hnext => ?_⟩
  exact Nat.not_lt.mp (of_decide_eq_false (hstops.refuses hracing hnext))

/-- **A shutdown cuts a request off cleanly, or not at all.** -/
theorem shutdown_truncates (svc : Service σ ρ α ε) (service : σ) (estimator : δ) (budget : β)
    (payload : ρ) (runFor : Duration) (spawned : Bool) (first : Branch) :
    let fresh : Run δ β σ ρ α ε := .new service estimator budget
    let whole := (fresh.start svc payload !spawned).await svc 0 none
    let stop := Instant.within 0 runFor
    let eve := fresh.eveOf svc payload spawned stop
    let report := fresh.shutdownAfter svc payload runFor spawned first
    (whole.now < stop → report = ⟨true, Session.answerOf whole 0, whole.wind stop⟩) ∧
      (stop ≤ whole.now → (∀ due ∈ eve.pending, due.source ≠ .timer) →
        CutOff spawned stop eve report) := by
  intro fresh whole stop eve report
  have hfresh : fresh.Intact := new_intact service estimator budget
  refine ⟨shutdownAfter_of_lt svc hfresh payload runFor spawned first, fun hle hnone => ?_⟩
  cases hbegun : spawned && stop = fresh.now with
  | true =>
    -- a spawned request without any time leaves no trace
    obtain ⟨rfl, -⟩ := Bool.and_eq_true_iff.mp hbegun
    have heve : eve = fresh := if_pos hbegun
    have hreport : report = ⟨false, .failed .cancelled, fresh⟩ := if_pos hbegun
    have hnever : (if true && stop = 0 then 0 else 1) = 0 := if_pos hbegun
    rw [heve, hreport]
    exact ⟨rfl, rfl, hnever.symm, Nat.le_refl _, rfl, rfl, rfl, rfl, rfl, rfl, rfl⟩
  | false =>
    have hs := hfresh.sound.start svc payload !spawned
    have hbefore := drive_before_lone svc hs rfl
      (new_start_lone svc service estimator budget payload !spawned) hle
    have heve : eve = (fresh.start svc payload !spawned).drive svc
        (fun due => decide (due.instant < stop)) (·.isRacing 0) :=
      if_neg (by rw [hbegun]; exact Bool.false_ne_true)
    have hsound : eve.Sound := by
      rw [heve]
      exact (drive_leads svc hs _ _).sound hs
    obtain ⟨⟨request, race, hlone⟩, hlate⟩ := heve ▸ hbefore
    -- what is still in time has happened on the eve
    have hmet : (fresh.start svc payload !spawned).drive svc (untilShutdown 0 spawned stop)
        (·.isRacing 0) = eve := by
      rw [← hlone.drive_untilShutdown svc hlate hnone, heve]
      exact (drive_drive hs (fun _ hdue => untilShutdown_of_lt (of_decide_eq_true hdue))
        fun _ h => h).symm
    have hreport : report = _ := shutdownAfter_of_begun svc fresh hbegun hmet first
    rw [hreport]
    exact hlone.cutOff hsound svc hbegun first

/-- A hedged request that a shutdown meets with both calls under way, and that another comes too
late for. -/
theorem shutdown_truncates_of_script :
    let script : Script :=
      ⟨[⟨60, .value, some "slow"⟩, ⟨30, .value, some "fast"⟩], Script.defaultFallback⟩
    let fresh : Run ConstantEstimator UnlimitedBudget Script String String String :=
      .new script ⟨some (.ofMillis 10)⟩ ⟨⟩
    let stop := Instant.within 0 (.ofMillis 20)
    let late := Instant.within 0 (.ofMillis 70)
    let eve := fresh.eveOf Script.service "a" false stop
    let whole := (fresh.start Script.service "a" false).await Script.service 0 none
    CutOff false stop eve (fresh.shutdownAfter Script.service "a" (.ofMillis 20) false .backup) ∧
      eve.calls.length = 2 ∧
      fresh.shutdownAfter Script.service "a" (.ofMillis 70) true .primary =
        ⟨true, .detailed ⟨"fast", .backup, .ofMillis 40⟩, whole.wind late⟩ := by
  intro script fresh stop late eve whole
  have hcut := (shutdown_truncates Script.service script
    (⟨some (.ofMillis 10)⟩ : ConstantEstimator) (⟨⟩ : UnlimitedBudget) "a" (.ofMillis 20) false
    .backup).2
  have hkept := (shutdown_truncates Script.service script
    (⟨some (.ofMillis 10)⟩ : ConstantEstimator) (⟨⟩ : UnlimitedBudget) "a" (.ofMillis 70) true
    .primary).1
  have hanswer : Session.answerOf whole 0 = .detailed ⟨"fast", .backup, .ofMillis 40⟩ := by
    decide +kernel
  refine ⟨hcut (by decide +kernel) (by decide +kernel), by decide +kernel, ?_⟩
  exact hanswer ▸ hkept (by decide +kernel)

/-- A request whose call ends at the very instant of the shutdown is cut off, though it would have
been answered there and then. -/
theorem shutdown_at_the_end :
    let script : Script := ⟨[⟨12, .value, some "v"⟩], Script.defaultFallback⟩
    let fresh : Run ConstantEstimator ClosedBudget Script String String String :=
      .new script .never ⟨⟩
    let whole := (fresh.start Script.service "a" true).await Script.service 0 none
    let report := fresh.shutdownAfter Script.service "a" (.ofMillis 12) false .primary
    whole.now = Instant.within 0 (.ofMillis 12) ∧
      Session.answerOf whole 0 = .detailed ⟨"v", .primary, .ofMillis 12⟩ ∧
      report.answer = .failed .cancelled := by
  decide +kernel

end Hedging.Run
