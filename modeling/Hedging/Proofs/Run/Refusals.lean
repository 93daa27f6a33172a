import Hedging.Proofs.Run.Load
import Hedging.Proofs.Run.Muted

/-!
# What is refused

A closed budget refuses every backup, so every timer that goes off is counted as a refusal. Whether
the timer of a request has gone off can be read off the request: while it races its timer is no
longer armed, and afterwards it has ended no earlier than its timer was due.

> `Refusals.drive`, `Refusals.abandon`: the refusals that are counted are the requests whose timers
> have gone off, through every drive and when a request is given up that will not be refused any
> more.
> `Refusals.denied_eq`: at rest these are the requests that had not ended when their timers were due.
-/

namespace Hedging

section Requests

variable {ρ α ε : Type} {request : Request ρ α ε} {race : Race ρ α ε} {stage : Stage ρ α ε}
  {t : Instant}

/-- When a request ended, in whatever way. -/
def Stage.endedAt? : Stage ρ α ε → Option Instant
  | .racing _ => none
  | .settled t _ | .crashed t _ | .abandoned t => some t

/-- Was the request still unfinished, and had it not been given up, when its timer was due? A request
that has not ended is seen at the present instant. -/
def Request.outlastsTimer (r : Request ρ α ε) (now : Instant) : Bool :=
  r.timer.any (· ≤ r.stage.endedAt?.getD now)

/-- Has the timer of a request gone off? -/
def Request.hasRung (r : Request ρ α ε) : Bool :=
  match r.stage with
  | .racing race => r.timer.isSome && !race.timerArmed
  | _ => r.timer.any fun t => r.stage.endedAt?.any (t ≤ ·)

theorem Request.hasRung_of_racing (racing : request.stage = .racing race) :
    request.hasRung = (request.timer.isSome && !race.timerArmed) := by
  unfold hasRung
  rw [racing]

theorem Request.hasRung_of_ended (ended : request.stage.endedAt? = some t) :
    request.hasRung = request.timer.any (· ≤ t) := by
  unfold hasRung
  rw [ended]
  cases hstage : request.stage with
  | racing race =>
    rw [hstage] at ended
    cases ended
  | settled | crashed | abandoned => rfl

theorem Stage.EndedAt.endedAt? (h : stage.EndedAt t) : stage.endedAt? = some t := by
  rcases h with ⟨result, rfl⟩ | ⟨message, rfl⟩ <;> rfl

/-- To end a request does not change whether its timer has gone off. -/
theorem Request.hasRung_end (racing : request.stage = .racing race)
    (ended : stage.endedAt? = some t)
    (hpassed : race.timerArmed = false → ∀ due, request.timer = some due → due ≤ t)
    (hahead : race.timerArmed = true → ∀ due, request.timer = some due → t < due) :
    ({ request with stage } : Request ρ α ε).hasRung = request.hasRung := by
  have hended : ({ request with stage } : Request ρ α ε).hasRung = request.timer.any (· ≤ t) :=
    hasRung_of_ended ended
  rw [hended, hasRung_of_racing racing]
  cases hset : request.timer with
  | none => rfl
  | some due =>
    cases harmed : race.timerArmed with
    | false => exact decide_eq_true (hpassed harmed due hset)
    | true => exact decide_eq_false (Nat.not_le.mpr (hahead harmed due hset))

end Requests

namespace Run

section Refusals

variable {δ σ ρ α ε : Type} {run run' : Run δ ClosedBudget σ ρ α ε} {id : RequestId}
  {request : Request ρ α ε} {stage : Stage ρ α ε} {t : Instant}

/-- No backup was sent, and the refusals are those requests whose timers have gone off. -/
structure Refusals (run : Run δ ClosedBudget σ ρ α ε) : Prop where
  issued : run.counters.backupsIssued = 0
  denied : run.counters.backupsDenied = run.requests.countP (·.hasRung)
  /-- A timer that is not armed any more was due before. -/
  passed : ∀ (id : RequestId) (request : Request ρ α ε) (race : Race ρ α ε) (t : Instant),
    run.requests[id]? = some request → request.stage = .racing race → race.timerArmed = false →
      request.timer = some t → t ≤ run.now

theorem new_refusals (service : σ) (estimator : δ) :
    (Run.new service estimator ClosedBudget.mk : Run δ ClosedBudget σ ρ α ε).Refusals :=
  { issued := rfl
    denied := rfl
    passed := fun _ _ _ _ there => by cases there }

/-- One request goes to another stage, and is refused a backup if its timer has gone off by that. -/
theorem Refusals.of_stage (h : run.Refusals) (there : run.requests[id]? = some request)
    (hrequests : run'.requests = run.requests.modify id fun r => { r with stage })
    (hnow : run.now ≤ run'.now)
    (hissued : run'.counters.backupsIssued = run.counters.backupsIssued)
    (hdenied : run'.counters.backupsDenied + request.hasRung.toNat =
      run.counters.backupsDenied + ({ request with stage } : Request ρ α ε).hasRung.toNat)
    (hpassed : ∀ race t, stage = .racing race → race.timerArmed = false →
      request.timer = some t → t ≤ run'.now) : run'.Refusals := by
  have hcount := countP_modify (p := fun r => r.hasRung)
    (fun r : Request ρ α ε => { r with stage }) there
  refine ⟨hissued.trans h.issued, ?_, ?_⟩
  · rw [hrequests]
    have hbefore := h.denied
    omega
  · intro i r race t there' racing disarmed set
    rcases there_of_stage hrequests there' with ⟨rfl, before, hbefore, rfl⟩ | ⟨-, hkept⟩
    · obtain rfl := Option.some.inj (there.symm.trans hbefore)
      exact hpassed race t racing disarmed set
    · exact Nat.le_trans (h.passed i r race t hkept racing disarmed set) hnow

theorem Refusals.wind (h : run.Refusals) (t : Instant) : (run.wind t).Refusals :=
  { issued := h.issued
    denied := h.denied
    passed := fun id request race due there racing disarmed set =>
      Nat.le_trans (h.passed id request race due there racing disarmed set) (Nat.le_max_left ..) }

/-- A request that is given up before its timer goes off is not refused a backup any more. -/
theorem Refusals.abandon (h : run.Refusals) {id : RequestId}
    (hahead : ∀ (request : Request ρ α ε) (race : Race ρ α ε) (t : Instant),
      run.requests[id]? = some request → request.stage = .racing race → race.timerArmed = true →
        request.timer = some t → run.now < t) : (run.abandon id).Refusals := by
  cases there : run.requests[id]? with
  | none =>
    unfold Run.abandon
    rw [there]
    exact h
  | some request =>
    cases racing : request.stage with
    | racing race =>
      have hsame : ({ request with stage := .abandoned run.now } : Request ρ α ε).hasRung =
          request.hasRung :=
        Request.hasRung_end racing rfl
          (fun disarmed due set => h.passed id request race due there racing disarmed set)
          (fun armed due set => hahead request race due there racing armed set)
      rw [abandon_racing there racing]
      exact h.of_stage there rfl (Nat.le_refl _) rfl (by rw [hsame]) nofun
    | settled | crashed | abandoned =>
      have hended : request.isRacing = false := by
        unfold Request.isRacing
        rw [racing]
      rw [abandon_of_ended there hended]
      exact h

/-- **At rest the refusals are the requests that had not ended when their timers were due.** -/
theorem Refusals.denied_eq (h : run.Refusals) (hpast : run.Past run.now) :
    run.counters.backupsDenied = run.requests.countP (·.outlastsTimer run.now) := by
  rw [h.denied]
  refine List.countP_congr fun request hmem => ?_
  obtain ⟨id, there⟩ := List.mem_iff_getElem?.mp hmem
  have hsame : request.hasRung = request.outlastsTimer run.now := by
    unfold Request.outlastsTimer
    cases hstage : request.stage with
    | racing race =>
      rw [Request.hasRung_of_racing hstage]
      cases hset : request.timer with
      | none => rfl
      | some due =>
        cases harmed : race.timerArmed with
        | false => exact (decide_eq_true (h.passed id request race due there hstage harmed hset)).symm
        | true =>
          have hlt := hpast _ (timer_mem_pending there hstage harmed hset)
          exact (decide_eq_false (Nat.not_le.mpr hlt)).symm
    | settled t result | crashed t message | abandoned t =>
      have hended : request.stage.endedAt? = some t := by
        rw [hstage]
        rfl
      rw [Request.hasRung_of_ended hended]
      rfl
  rw [hsame]

variable [DelayEstimator δ] {svc : Service σ ρ α ε} {due : Due} {allowed : Due → Bool}
  {waiting : Run δ ClosedBudget σ ρ α ε → Bool}

theorem Refusals.start (h : run.Refusals) (svc : Service σ ρ α ε) (payload : ρ)
    (inPlace : Bool) : (run.start svc payload inPlace).Refusals := by
  refine ⟨h.issued, ?_, ?_⟩
  · -- the timer of a request that has just arrived is armed, if there is one
    show run.counters.backupsDenied = (run.requests ++ [_]).countP _
    rw [List.countP_append, List.countP_singleton, h.denied]
    unfold Request.hasRung Request.timer
    cases DelayEstimator.currentDelay run.estimator <;> rfl
  · intro i request race t there racing disarmed set
    rcases getElem?_concat_cases there with ⟨there', -⟩ | ⟨-, rfl⟩
    · exact h.passed i request race t there' racing disarmed set
    · obtain rfl := Stage.racing.inj racing
      have hdelay := Request.delay_of_timer set
      have hnone : (DelayEstimator.currentDelay run.estimator).isSome = false := disarmed
      rw [hnone] at hdelay
      cases hdelay

/-- The timer that goes off next is refused its backup. -/
theorem Refusals.fire_timer (h : run.Refusals) (svc : Service σ ρ α ε) (hs : run.Sound)
    (hdue : due ∈ run.pending) (htimer : due.source = .timer) : (run.fire svc due).Refusals := by
  cases ahead_of_mem_pending hdue with
  | call => cases htimer
  | @timer t id turn request race there racing armed set =>
    have hrefused : (AdmissionBudget.tryConsume run.budget).1 = false := rfl
    have hbefore : request.hasRung = false := by
      rw [Request.hasRung_of_racing racing, armed]
      exact Bool.and_false _
    have hafter : ({ request with stage := .racing { race with timerArmed := false } } :
        Request ρ α ε).hasRung = true := by
      rw [Request.hasRung_of_racing rfl]
      show (request.timer.isSome && !false) = true
      rw [set]
      rfl
    rw [fire_refused hs there racing armed hrefused]
    refine h.of_stage there rfl (Nat.le_max_left ..) rfl ?_ ?_
    · rw [hbefore, hafter]
      rfl
    · rintro _ due - - hset
      obtain rfl := Option.some.inj (set.symm.trans hset)
      exact Nat.le_max_right ..

/-- The end of a call that comes next is no refusal, and its request can be refused no more. -/
theorem Refusals.fire_call (h : run.Refusals) (svc : Service σ ρ α ε) (hs : run.Sound)
    (hp : run.Prompt) (hnext : run.next? = some due) {branch : Branch}
    (hcall : due.source = .call branch) : (run.fire svc due).Refusals := by
  have hdue := (earliest_le hnext).1
  have hle := hp.le_of_call hdue hcall
  have hnow : (run.fire svc due).now = due.instant := by
    rw [now_fire, Nat.max_eq_right hle]
  obtain ⟨request', stage, there', hrequests, hstage⟩ := fire_to svc hs hdue
  rw [hcall] at hstage
  cases ahead_of_mem_pending hdue with
  | timer => cases hcall
  | @call id branch' turn request race c call there racing waited held =>
    obtain rfl := Option.some.inj (there'.symm.trans there)
    have hsame : ({ request' with stage } : Request ρ α ε).hasRung = request'.hasRung := by
      refine Request.hasRung_end racing hstage.endedAt? ?_ ?_
      · intro disarmed due set
        rw [hnow]
        exact Nat.le_trans (h.passed id request' race due there racing disarmed set) hle
      · intro armed due set
        rw [hnow]
        exact lt_of_next_call hnext rfl (timer_mem_pending there racing armed set) rfl
    have hcounters : (run.fire svc ⟨call.due, id, .call branch', turn⟩).counters.backupsIssued =
          run.counters.backupsIssued ∧
        (run.fire svc ⟨call.due, id, .call branch', turn⟩).counters.backupsDenied =
          run.counters.backupsDenied := by
      cases hsaid : call.reply.completion? with
      | some completion =>
        rw [fire_answered hs there racing waited held hsaid, counters_answer]
        exact ⟨Counters.backupsIssued_settle .., Counters.backupsDenied_settle ..⟩
      | none =>
        obtain ⟨message, hreply⟩ := Reply.eq_crash_of_completion? hsaid
        rw [fire_crashed there racing waited held hreply, dropCalls_eq]
        exact ⟨rfl, rfl⟩
    refine h.of_stage there hrequests (by rw [hnow]; exact hle) hcounters.1
      (by rw [hcounters.2, hsame]) ?_
    rintro race' t rfl
    cases hstage.endedAt?

theorem Refusals.fire (h : run.Refusals) (svc : Service σ ρ α ε) (hs : run.Sound)
    (hp : run.Prompt) (hnext : run.next? = some due) : (run.fire svc due).Refusals := by
  cases hsource : due.source with
  | timer => exact h.fire_timer svc hs (earliest_le hnext).1 hsource
  | call branch => exact h.fire_call svc hs hp hnext hsource

/-- **Every drive counts what it refuses.** -/
theorem Refusals.drive (h : run.Refusals) (svc : Service σ ρ α ε) (hs : run.Sound)
    (hp : run.Prompt) (allowed : Due → Bool) (waiting : Run δ ClosedBudget σ ρ α ε → Bool) :
    (run.drive svc allowed waiting).Refusals := by
  refine drive_induction svc allowed waiting (P := fun run =>
    run.Prompt → run.Refusals → (run.drive svc allowed waiting).Refusals) ?_ ?_ hs hp h
  · intro run _ hstop _ h
    rw [drive_of_stopped svc hstop]
    exact h
  · intro run due hs hwaits hnext hdue ih hp h
    rw [drive_of_next svc hs hwaits hnext hdue]
    exact ih (hp.fire hs hnext) (h.fire svc hs hp hnext)

theorem Refusals.passTo (h : run.Refusals) (svc : Service σ ρ α ε) (hs : run.Sound)
    (hp : run.Prompt) (t : Instant) : (run.passTo svc t).Refusals :=
  (h.drive svc hs hp _ _).wind t

theorem Refusals.await (h : run.Refusals) (svc : Service σ ρ α ε) (hs : run.Sound)
    (hp : run.Prompt) (id : RequestId) (limit : Option Instant) :
    (run.await svc id limit).Refusals := by
  have hdriven := h.drive svc hs hp (Due.inTime id limit) (·.isRacing id)
  unfold Run.await
  simp only
  split
  · cases limit with
    | none => exact hdriven
    | some t => exact hdriven.wind t
  · exact hdriven

/-- A wait that is given up has driven the run as far as it may, and then the clock to the limit. -/
theorem await_of_outlasted (svc : Service σ ρ α ε) (run : Run δ ClosedBudget σ ρ α ε)
    (hracing : (run.await svc id (some t)).isRacing id = true) :
    (run.drive svc (Due.inTime id (some t)) (·.isRacing id)).isRacing id = true ∧
      run.await svc id (some t) =
        (run.drive svc (Due.inTime id (some t)) (·.isRacing id)).wind t := by
  unfold Run.await at hracing ⊢
  simp only at hracing ⊢
  split at hracing
  next hwaits => exact ⟨hwaits, if_pos hwaits⟩
  next hended => exact absurd hracing hended

/-- Whoever has waited for a request until `t` has seen its timer go off, if it was due by then. -/
theorem lt_of_await_racing (svc : Service σ ρ α ε) (hs : run.Sound) (hle : run.now ≤ t)
    (hracing : (run.await svc id (some t)).isRacing id = true) {race : Race ρ α ε} {due : Instant}
    (there : (run.await svc id (some t)).requests[id]? = some request)
    (racing : request.stage = .racing race) (armed : race.timerArmed = true)
    (set : request.timer = some due) : (run.await svc id (some t)).now < due := by
  have hstops := drive_stops svc hs (Due.inTime id (some t)) (·.isRacing id)
  have hnow := now_drive_le svc hs (fun due (hdue : due.inTime id (some t) = true) =>
    le_of_inTime hdue) (·.isRacing id) hle
  obtain ⟨hwaits, hawait⟩ := await_of_outlasted svc run hracing
  rw [hawait] at there ⊢
  generalize run.drive svc (Due.inTime id (some t)) (·.isRacing id) = driven at *
  have hmem : ⟨due, id, .timer, request.timerTurn⟩ ∈ driven.pending :=
    timer_mem_pending there racing armed set
  show max driven.now t < due
  rw [Nat.max_eq_right hnow]
  refine Nat.lt_of_not_le fun hdue => ?_
  cases hnext : driven.next? with
  | none =>
    rw [earliest_eq_none hnext] at hmem
    cases hmem
  | some first =>
    -- the drive has stopped at the end of a call at the limit, when it is not its turn yet
    have hrefused := hstops.refuses hwaits hnext
    have hfirst := (earliest_le hnext).2 _ hmem
    obtain ⟨-, branch, hcall⟩ := call_of_not_inTime hrefused (Nat.le_trans hfirst hdue)
    have hlt : first.instant < due := lt_of_next_call hnext hcall hmem rfl
    exact absurd (Nat.lt_of_le_of_lt (le_of_not_inTime hrefused) hlt) (Nat.not_lt.mpr hdue)

end Refusals

end Run

end Hedging
