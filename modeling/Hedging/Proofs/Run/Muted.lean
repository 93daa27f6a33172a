import Hedging.Proofs.Run.Detached
import Hedging.Proofs.Run.Prompt

/-!
# A run without its timers

When every backup is refused, the timers of a run do nothing but go off. `mute` is the run as it
would be without them: no request has a delay, no timer is armed, and nothing tells of a refusal. The
events that lie ahead of it are the ends of the calls that lie ahead of the run, in the same order
(`pending_mute`). A timer that goes off takes the muted run nowhere (`fire_timer_mute`), and the end
of a call does the same in both (`fire_call_mute`).

While the two are driven the clock of the muted run may stay behind, as it does not stop at the
timers. `Lags` allows for that, and where a drive comes to rest the two agree again:

> `passTo_mute`, `await_mute`: whoever lets time pass or waits for a request finds the muted run as
> the run muted.
-/

namespace Hedging

section Mute

variable {ρ α ε : Type}

/-- A race without its timer. -/
def Race.mute (r : Race ρ α ε) : Race ρ α ε := { r with timerArmed := false }

/-- The stage of a request without a timer. -/
def Stage.mute : Stage ρ α ε → Stage ρ α ε
  | .racing race => .racing race.mute
  | .settled t result => .settled t result
  | .crashed t message => .crashed t message
  | .abandoned t => .abandoned t

/-- A request that read no delay. -/
def Request.mute (r : Request ρ α ε) : Request ρ α ε :=
  { r with delay := none, stage := r.stage.mute }

/-- The counters but for the refusals. -/
def Counters.mute (c : Counters) : Counters := { c with backupsDenied := 0 }

theorem Counters.mute_settle (c : Counters) (result : Result α ε) :
    (c.settle result).mute = c.mute.settle result := by
  unfold settle
  split <;> rfl

theorem Race.call_mute (race : Race ρ α ε) (branch : Branch) :
    race.mute.call branch = race.call branch := by
  cases branch <;> rfl

theorem Race.calls_without_mute (race : Race ρ α ε) (branch : Branch) :
    (race.mute.without branch).calls = (race.without branch).calls := by
  cases branch <;> rfl

theorem Race.Sound.mute {payload : ρ} {race : Race ρ α ε} (h : race.Sound payload) :
    race.mute.Sound payload :=
  { vacant := h.vacant
    waits := h.waits
    primary_of_armed := nofun
    backup_of_armed := nofun
    spare_of_armed := nofun }

/-- A stage that a call has brought about knows nothing of timers. -/
theorem Stage.EndedAt.mute {t : Instant} {stage : Stage ρ α ε} (h : stage.EndedAt t) :
    stage.mute = stage := by
  rcases h with ⟨result, rfl⟩ | ⟨message, rfl⟩ <;> rfl

theorem Stage.EndedAt.unique {t t' : Instant} {stage : Stage ρ α ε} (h : stage.EndedAt t)
    (h' : stage.EndedAt t') : t = t' := by
  rcases h with ⟨result, rfl⟩ | ⟨message, rfl⟩
  · rcases h' with ⟨result', heq⟩ | ⟨message', heq⟩
    · exact (Stage.settled.inj heq).1
    · cases heq
  · rcases h' with ⟨result', heq⟩ | ⟨message', heq⟩
    · cases heq
    · exact (Stage.crashed.inj heq).1

theorem Request.isRacing_mute (request : Request ρ α ε) :
    request.mute.isRacing = request.isRacing := by
  unfold isRacing mute
  cases request.stage <;> rfl

/-- What lies ahead of a request without its timer is what lies ahead of it but for the timer. -/
theorem Request.pending_mute (request : Request ρ α ε) (calls : Ledger ρ α ε) (id : RequestId) :
    request.mute.pending calls id =
      (request.pending calls id).filter fun due => due.source != .timer := by
  have hcall : ∀ race branch, (request.mute.pendingCall calls id race branch).toList =
      (request.pendingCall calls id race branch).toList.filter fun due => due.source != .timer := by
    intro race branch
    rw [List.filter_eq_self.mpr]
    · rfl
    · intro due hdue
      obtain ⟨c, call, -, -, rfl⟩ := Run.mem_pendingCall hdue
      rfl
  have htimer : ∀ armed : Bool, (if armed then
      request.timer.toList.map fun t => (⟨t, id, .timer, request.timerTurn⟩ : Due) else []).filter
        (fun due => due.source != .timer) = [] := by
    intro armed
    rw [List.filter_eq_nil_iff]
    intro due hdue
    split at hdue
    · obtain ⟨t, -, rfl⟩ := List.mem_map.mp hdue
      exact nofun
    · cases hdue
  cases hstage : request.stage with
  | racing race =>
    have hmuted : request.mute.stage = .racing race.mute := congrArg Stage.mute hstage
    unfold pending
    rw [hstage, hmuted]
    simp only [List.filter_append, htimer, ← hcall]
    rfl
  | settled t result | crashed t message | abandoned t =>
    have hmuted : request.mute.stage = request.stage.mute := rfl
    unfold pending
    rw [hmuted, hstage]
    rfl

/-- The turn of a timer comes before that of any call. -/
theorem Request.turn_of_mem_pending {request : Request ρ α ε} {calls : Ledger ρ α ε}
    {id : RequestId} {due : Due} (h : due ∈ request.pending calls id) :
    due.source = .timer ∧ due.turn < 2 ∨ (∃ branch, due.source = .call branch) ∧ 2 ≤ due.turn := by
  unfold pending at h
  split at h
  next race _ =>
    rw [List.mem_append, List.mem_append] at h
    rcases h with (htimer | hprimary) | hbackup
    · split at htimer
      · obtain ⟨t, -, rfl⟩ := List.mem_map.mp htimer
        refine Or.inl ⟨rfl, ?_⟩
        show request.timerTurn < 2
        unfold timerTurn
        split <;> omega
      · cases htimer
    · obtain ⟨c, call, -, -, rfl⟩ := Run.mem_pendingCall hprimary
      refine Or.inr ⟨⟨_, rfl⟩, ?_⟩
      show 2 ≤ request.callTurn calls c
      unfold callTurn
      omega
    · obtain ⟨c, call, -, -, rfl⟩ := Run.mem_pendingCall hbackup
      refine Or.inr ⟨⟨_, rfl⟩, ?_⟩
      show 2 ≤ request.callTurn calls c
      unfold callTurn
      omega
  next => cases h

end Mute

/-- A map does not see a change of one entry that its function does not see there. -/
theorem map_modify_of_there {γ κ : Type} {f : γ → κ} {g : γ → γ} {l : List γ} {i : Nat} {x : γ}
    (there : l[i]? = some x) (h : f (g x) = f x) : (l.modify i g).map f = l.map f := by
  apply List.ext_getElem?
  intro j
  rw [List.getElem?_map, List.getElem?_map, List.getElem?_modify]
  by_cases hij : i = j
  · subst hij
    rw [there]
    simp [h]
  · simp [hij]

namespace Run

section Mute

variable {δ β β' σ ρ α ε : Type} {run : Run δ β σ ρ α ε} {budget : β'} {id : RequestId}
  {request : Request ρ α ε} {race : Race ρ α ε}

/-! ## The muted run -/

/-- The run as it would be if its requests had no delays. -/
def mute (budget : β') (run : Run δ β σ ρ α ε) : Run ConstantEstimator β' σ ρ α ε :=
  { now := run.now
    service := run.service
    estimator := .never
    budget
    counters := run.counters.mute
    calls := run.calls
    requests := run.requests.map Request.mute
    fed := run.fed
    log := run.log.filter (· != .denied) }

theorem getElem?_mute (budget : β') (run : Run δ β σ ρ α ε) (id : RequestId) :
    (run.mute budget).requests[id]? = (run.requests[id]?).map Request.mute :=
  List.getElem?_map

theorem there_mute (budget : β') (there : run.requests[id]? = some request) :
    (run.mute budget).requests[id]? = some request.mute := by
  rw [getElem?_mute, there]
  rfl

theorem racing_mute (racing : request.stage = .racing race) :
    request.mute.stage = .racing race.mute :=
  congrArg Stage.mute racing

theorem isRacing_mute (budget : β') (run : Run δ β σ ρ α ε) (id : RequestId) :
    (run.mute budget).isRacing id = run.isRacing id := by
  unfold isRacing
  rw [getElem?_mute]
  cases run.requests[id]? with
  | none => rfl
  | some request => exact request.isRacing_mute

theorem Sound.mute (hs : run.Sound) (budget : β') : (run.mute budget).Sound := by
  intro i muted race there racing
  rw [getElem?_mute] at there
  obtain ⟨request, hthere, rfl⟩ := Option.map_eq_some_iff.mp there
  cases hstage : request.stage with
  | racing race' =>
    rw [racing_mute hstage] at racing
    obtain rfl := Stage.racing.inj racing
    exact (hs i request race' hthere hstage).mute
  | settled t result | crashed t message | abandoned t =>
    have hmuted : request.mute.stage = request.stage.mute := rfl
    rw [hmuted, hstage] at racing
    cases racing

/-- To put a request into a stage and then to take its timer away, or the other way round. -/
theorem map_mute_modify (requests : List (Request ρ α ε)) (id : RequestId) (stage : Stage ρ α ε) :
    (requests.modify id fun r => { r with stage }).map Request.mute =
      (requests.map Request.mute).modify id fun r => { r with stage := stage.mute } := by
  apply List.ext_getElem?
  intro i
  rw [List.getElem?_map, List.getElem?_modify, List.getElem?_modify, List.getElem?_map]
  cases requests[i]? with
  | none => rfl
  | some request =>
    by_cases hi : id = i
    · simp [hi, Request.mute]
    · simp [hi]

/-- The events that lie ahead of a muted run are those of the run but for the timers. -/
theorem pending_mute (budget : β') (run : Run δ β σ ρ α ε) :
    (run.mute budget).pending = run.pending.filter fun due => due.source != .timer := by
  unfold pending
  rw [List.filter_flatMap]
  show ((run.requests.map Request.mute).zipIdx).flatMap _ = _
  rw [List.zipIdx_map, List.flatMap_map]
  congr 1
  funext entry
  exact Request.pending_mute ..

/-- When a call comes next, every timer comes at a later instant, for at the same one it would be its
turn. -/
theorem lt_of_next_call {due e : Due} {branch : Branch} (hnext : run.next? = some due)
    (hcall : due.source = .call branch) (he : e ∈ run.pending) (htimer : e.source = .timer) :
    due.instant < e.instant := by
  have hturn : ∀ due ∈ run.pending,
      due.source = .timer ∧ due.turn < 2 ∨ (∃ branch, due.source = .call branch) ∧ 2 ≤ due.turn := by
    intro due hdue
    obtain ⟨_, _, -, hmem⟩ := mem_pending_iff.mp hdue
    exact Request.turn_of_mem_pending hmem
  have hnot := not_isBefore_earliest hnext e he
  rw [Due.isBefore_iff] at hnot
  have hle := (earliest_le hnext).2 e he
  refine Nat.lt_of_le_of_ne hle fun heq => hnot (Or.inr ⟨Nat.le_of_eq heq.symm, ?_⟩)
  rcases hturn due (earliest_le hnext).1 with ⟨hdue, -⟩ | ⟨-, hdue⟩
  · rw [hcall] at hdue
    cases hdue
  · rcases hturn e he with ⟨-, hlt⟩ | ⟨⟨_, hnone⟩, -⟩
    · exact Nat.lt_of_lt_of_le hlt hdue
    · rw [htimer] at hnone
      cases hnone

/-- The next call of a run comes next in the muted run. -/
theorem next_mute (budget : β') {due : Due} {branch : Branch} (hnext : run.next? = some due)
    (hcall : due.source = .call branch) : (run.mute budget).next? = some due := by
  unfold next?
  rw [pending_mute]
  refine earliest_filter hnext fun e he htimer => lt_of_next_call hnext hcall he ?_
  simpa using htimer

/-! ## What happens to it -/

theorem abandon_mute (budget : β') (run : Run δ β σ ρ α ε) (id : RequestId) :
    (run.mute budget).abandon id = (run.abandon id).mute budget := by
  cases there : run.requests[id]? with
  | none =>
    have hthere : (run.mute budget).requests[id]? = none := by rw [getElem?_mute, there]; rfl
    unfold abandon
    rw [there, hthere]
  | some request =>
    cases hracing : request.stage with
    | racing race =>
      rw [abandon_racing there hracing, abandon_racing (there_mute budget there) (racing_mute hracing)]
      unfold mute
      simp only [map_mute_modify]
      rfl
    | settled t result | crashed t message | abandoned t =>
      have hended : request.isRacing = false := by
        unfold Request.isRacing
        rw [hracing]
      rw [abandon_of_ended there hended, abandon_of_ended (there_mute budget there)
        (request.isRacing_mute.trans hended)]

end Mute

section Moves

variable {δ β β' σ ρ α ε : Type} [DelayEstimator δ] {run : Run δ β σ ρ α ε} {budget : β'}
  {due : Due} {t : Instant}

omit [DelayEstimator δ] in
/-- What is noted is noted in both runs, unless it is a refusal. -/
theorem note_mute (budget : β') (run : Run δ β σ ρ α ε) {entry : LogEntry}
    (hentry : entry ≠ .denied) : (run.mute budget).note entry = (run.note entry).mute budget := by
  have hlog : (run.log.push entry).filter (· != .denied) =
      (run.log.filter (· != .denied)).push entry := by
    rw [Array.filter_push, if_pos (bne_iff_ne.mpr hentry)]
  exact congrArg (fun log => { run.mute budget with log }) hlog.symm

theorem sample_mute (budget : β') (run : Run δ β σ ρ α ε) (latency : Duration) :
    (run.mute budget).sample latency = (run.sample latency).mute budget := by
  have hentry : LogEntry.sampled (LogEntry.millisWord latency) ≠ .denied := nofun
  simp only [sample, note_mute budget run hentry]
  rfl

omit [DelayEstimator δ] in
theorem announce_mute (budget : β') (run : Run δ β σ ρ α ε) (latency : Duration)
    (branch : Branch) :
    (run.mute budget).announce latency branch = (run.announce latency branch).mute budget := by
  cases branch with
  | primary => rfl
  | backup => exact note_mute budget run nofun

theorem answer_mute (budget : β') (run : Run δ β σ ρ α ε) (id : RequestId)
    (request : Request ρ α ε) (race : Race ρ α ε) (branch : Branch) (latency : Duration)
    (completion : Completion α ε) :
    (run.mute budget).answer id request.mute race.mute branch latency completion =
      (run.answer id request race branch latency completion).mute budget := by
  unfold answer
  rw [announce_mute, sample_mute]
  generalize (run.announce latency branch).sample latency = sampled
  unfold mute setStage
  simp only [map_mute_modify, Counters.mute_settle, Race.calls_without_mute]
  rfl

variable [AdmissionBudget β']

theorem start_mute [AdmissionBudget β] (svc : Service σ ρ α ε) (budget : β')
    (run : Run δ β σ ρ α ε) (payload : ρ) (inPlace : Bool) :
    (run.mute budget).start svc payload inPlace =
      (run.start svc payload inPlace).mute (AdmissionBudget.fund budget) := by
  unfold mute start
  simp only [List.map_append]
  rfl

/-- **The end of a call does the same without the timers.** -/
theorem fire_call_mute [AdmissionBudget β] (svc : Service σ ρ α ε) (budget : β')
    (hs : run.Sound) (hdue : due ∈ run.pending) {branch : Branch}
    (hcall : due.source = .call branch) :
    (run.mute budget).fire svc due = (run.fire svc due).mute budget := by
  cases ahead_of_mem_pending hdue with
  | timer => cases hcall
  | @call id branch' turn request race c call there racing waited held =>
    have hthere := there_mute budget there
    have hracing := racing_mute racing
    have hwaited := (race.call_mute branch').trans waited
    have hheld : (run.mute budget).calls[c]? = some call := held
    cases hsaid : call.reply.completion? with
    | some completion =>
      rw [fire_answered hs there racing waited held hsaid,
        fire_answered (hs.mute budget) hthere hracing hwaited hheld hsaid, ← answer_mute]
      rfl
    | none =>
      obtain ⟨message, hreply⟩ := Reply.eq_crash_of_completion? hsaid
      rw [fire_crashed there racing waited held hreply,
        fire_crashed hthere hracing hwaited hheld hreply, dropCalls_eq, dropCalls_eq]
      unfold mute setStage wind
      simp only [map_mute_modify]
      rfl

end Moves

section Closed

variable {δ β' σ ρ α ε : Type} {run : Run δ ClosedBudget σ ρ α ε}
  {behind : Run ConstantEstimator β' σ ρ α ε} {budget : β'} {due : Due} {t : Instant}
  {allowed : Due → Bool}

/-! ## Every backup is refused -/

/-- The muted run, with a clock that may be behind. -/
def Lags (budget : β') (run : Run δ ClosedBudget σ ρ α ε)
    (behind : Run ConstantEstimator β' σ ρ α ε) : Prop :=
  behind.wind run.now = run.mute budget

theorem Lags.refl (budget : β') (run : Run δ ClosedBudget σ ρ α ε) :
    Lags budget run (run.mute budget) :=
  wind_now (run.mute budget)

theorem Lags.eq (h : Lags budget run behind) (hnow : run.now ≤ behind.now) :
    behind = run.mute budget := by
  rw [← h, wind_of_le hnow]

/-- Where both clocks are moved on to `t` the two runs agree. -/
theorem Lags.wind (h : Lags budget run behind) (hle : run.now ≤ t) :
    behind.wind t = (run.wind t).mute budget := by
  show _ = (run.mute budget).wind t
  rw [← h, wind_wind behind hle]

theorem Lags.requests (h : Lags budget run behind) :
    behind.requests = (run.mute budget).requests := by
  rw [← h]
  rfl

theorem Lags.isRacing (h : Lags budget run behind) (id : RequestId) :
    behind.isRacing id = run.isRacing id := by
  rw [← isRacing_mute budget run id]
  unfold Run.isRacing
  rw [h.requests]

theorem Lags.sound (h : Lags budget run behind) (hs : run.Sound) : behind.Sound := by
  have hmuted := hs.mute budget
  rw [← h] at hmuted
  exact hmuted

theorem Lags.next (h : Lags budget run behind) : behind.next? = (run.mute budget).next? := by
  rw [← h]
  rfl

/-- What is allowed after a timer is allowed as soon as the timer is. -/
def TimersFirst (allowed : Due → Bool) : Prop :=
  ∀ timer due : Due, timer.source = .timer → timer.instant ≤ due.instant → allowed due = true →
    allowed timer = true

theorem timersFirst_noLaterThan (t : Instant) : TimersFirst (Due.noLaterThan (some t)) :=
  fun _ _ _ hle hdue => decide_eq_true (Nat.le_trans hle (le_of_noLaterThan hdue))

theorem timersFirst_inTime (id : RequestId) (limit : Option Instant) :
    TimersFirst (Due.inTime id limit) := by
  intro timer due htimer hle hdue
  cases limit with
  | none => rfl
  | some t =>
    have hlimit := Nat.le_trans hle (le_of_inTime hdue)
    unfold Due.inTime
    rw [Option.all_some, htimer, Bool.or_eq_true]
    rcases Nat.lt_or_eq_of_le hlimit with hlt | heq
    · exact Or.inl (decide_eq_true hlt)
    · refine Or.inr ?_
      rw [heq]
      simp

/-- Where a drive stops, it stops without the timers too. -/
theorem Lags.stopped (h : Lags budget run behind) (hallowed : TimersFirst allowed)
    {waiting : Run δ ClosedBudget σ ρ α ε → Bool}
    {waiting' : Run ConstantEstimator β' σ ρ α ε → Bool} (hwaiting : waiting' behind = waiting run)
    (hstop : Stopped allowed waiting run) : Stopped allowed waiting' behind := by
  rcases hstop with hwaits | hrefused
  · exact Or.inl (hwaiting.trans hwaits)
  · refine Or.inr fun due hnext => ?_
    rw [h.next] at hnext
    have hmem := (earliest_le hnext).1
    rw [pending_mute, List.mem_filter] at hmem
    cases hfirst : run.next? with
    | none =>
      rw [earliest_eq_none hfirst] at hmem
      cases hmem.1
    | some first =>
      cases hsource : first.source with
      | timer =>
        have hle := (earliest_le hfirst).2 due hmem.1
        cases hdue : allowed due with
        | false => rfl
        | true =>
          have hfalse := hallowed first due hsource hle hdue
          rw [hrefused first hfirst] at hfalse
          cases hfalse
      | call branch =>
        have hsame := next_mute budget hfirst hsource
        obtain rfl := Option.some.inj (hsame.symm.trans hnext)
        exact hrefused _ hfirst

variable [DelayEstimator δ]

/-- **A timer that is refused leaves nothing behind but its refusal.** -/
theorem fire_timer_mute (svc : Service σ ρ α ε) (budget : β') (hs : run.Sound)
    (hdue : due ∈ run.pending) (htimer : due.source = .timer) :
    (run.fire svc due).mute budget = (run.mute budget).wind due.instant := by
  cases ahead_of_mem_pending hdue with
  | call => cases htimer
  | @timer t id turn request race there racing armed set =>
    have hrefused : (AdmissionBudget.tryConsume run.budget).1 = false := rfl
    have hlog : (run.log.push .denied).filter (· != .denied) = run.log.filter (· != .denied) := by
      rw [Array.filter_push]
      rfl
    have hrequests : (run.requests.modify id fun r =>
        { r with stage := .racing { race with timerArmed := false } }).map Request.mute =
          run.requests.map Request.mute := by
      refine map_modify_of_there there ?_
      unfold Request.mute
      rw [racing]
      rfl
    have hdenied : ((run.wind t).deny svc id request race).mute budget =
        { (run.mute budget).wind t with
          requests := (run.requests.modify id fun r =>
            { r with stage := .racing { race with timerArmed := false } }).map Request.mute
          log := (run.log.push .denied).filter (· != .denied) } := rfl
    rw [fire_refused hs there racing armed hrefused, hdenied, hrequests, hlog]
    rfl

theorem Lags.fire_timer (h : Lags budget run behind) (svc : Service σ ρ α ε) (hs : run.Sound)
    (hdue : due ∈ run.pending) (htimer : due.source = .timer) :
    Lags budget (run.fire svc due) behind := by
  unfold Lags at h ⊢
  rw [fire_timer_mute svc budget hs hdue htimer, now_fire, ← h]
  unfold Run.wind
  simp only [Nat.max_assoc]

variable [AdmissionBudget β'] {svc : Service σ ρ α ε} {id : RequestId}

theorem Lags.fire_call (h : Lags budget run behind) (svc : Service σ ρ α ε) (hs : run.Sound)
    (hp : run.Prompt) (hdue : due ∈ run.pending) {branch : Branch}
    (hcall : due.source = .call branch) :
    behind.fire svc due = (run.fire svc due).mute budget := by
  rw [← fire_call_mute svc budget hs hdue hcall, ← h,
    fire_wind behind (hp.le_of_call hdue hcall)]

/-- **A run is driven in the same way without its timers**, but for the clock. -/
theorem Lags.drive (h : Lags budget run behind) (svc : Service σ ρ α ε) (hs : run.Sound)
    (hp : run.Prompt) (hallowed : TimersFirst allowed)
    {waiting : Run δ ClosedBudget σ ρ α ε → Bool}
    {waiting' : Run ConstantEstimator β' σ ρ α ε → Bool}
    (hwaiting : ∀ run behind, Lags budget run behind → waiting' behind = waiting run) :
    Lags budget (run.drive svc allowed waiting) (behind.drive svc allowed waiting') := by
  refine drive_induction svc allowed waiting (P := fun run => ∀ behind, run.Prompt →
    Lags budget run behind →
      Lags budget (run.drive svc allowed waiting) (behind.drive svc allowed waiting'))
    ?_ ?_ hs behind hp h
  · intro run _ hstop behind _ h
    rw [drive_of_stopped svc hstop,
      drive_of_stopped svc (h.stopped hallowed (hwaiting run behind h) hstop)]
    exact h
  · intro run due hs hwaits hnext hdue ih behind hp h
    have hmem := (earliest_le hnext).1
    rw [drive_of_next svc hs hwaits hnext hdue]
    cases hsource : due.source with
    | timer => exact ih behind (hp.fire hs hnext) (h.fire_timer svc hs hmem hsource)
    | call branch =>
      have hnext' : behind.next? = some due := h.next.trans (next_mute budget hnext hsource)
      rw [drive_of_next svc (h.sound hs) ((hwaiting run behind h).trans hwaits) hnext' hdue,
        h.fire_call svc hs hp hmem hsource]
      exact ih _ (hp.fire hs hnext) (.refl budget _)

theorem passTo_mute (svc : Service σ ρ α ε) (budget : β') (hs : run.Sound) (hp : run.Prompt)
    (hle : run.now ≤ t) : (run.mute budget).passTo svc t = (run.passTo svc t).mute budget := by
  have hdriven : Lags budget (run.drive svc (Due.noLaterThan (some t)) fun _ => true)
      ((run.mute budget).drive svc (Due.noLaterThan (some t)) fun _ => true) :=
    (Lags.refl budget run).drive svc hs hp (timersFirst_noLaterThan t) fun _ _ _ => rfl
  exact hdriven.wind (now_drive_le svc hs (fun _ => le_of_noLaterThan) _ hle)

/-- A wait that has come to an end is over at the same instant in both runs. -/
theorem drive_mute_of_ended (svc : Service σ ρ α ε) (budget : β') (hs : run.Sound)
    (hp : run.Prompt) (hallowed : TimersFirst allowed)
    (hended : (run.drive svc allowed (·.isRacing id)).isRacing id = false) :
    (run.mute budget).drive svc allowed (·.isRacing id) =
      (run.drive svc allowed (·.isRacing id)).mute budget := by
  have hdriven : Lags budget (run.drive svc allowed (·.isRacing id))
      ((run.mute budget).drive svc allowed (·.isRacing id)) :=
    (Lags.refl budget run).drive svc hs hp hallowed fun _ _ h => h.isRacing id
  have hended' := (hdriven.isRacing id).trans hended
  cases hracing : run.isRacing id with
  | false =>
    have hracing' := (isRacing_mute budget run id).trans hracing
    rw [drive_of_stopped svc (Or.inl hracing'), drive_of_stopped svc (Or.inl hracing)]
  | true =>
    obtain ⟨request, there, hstage⟩ := drive_endedAt svc hs hracing hended
    obtain ⟨request', there', hstage'⟩ :=
      drive_endedAt svc (hs.mute budget) ((isRacing_mute budget run id).trans hracing) hended'
    -- the stage of the request tells when it ended, and it is the same in both runs
    have hmuted : ((run.mute budget).drive svc allowed (·.isRacing id)).requests[id]? =
        some request.mute := by
      rw [hdriven.requests, there_mute budget there]
    obtain rfl := Option.some.inj (hmuted.symm.trans there')
    have hsame : request.mute.stage = request.stage := hstage.mute
    rw [hsame] at hstage'
    exact hdriven.eq (Nat.le_of_eq (hstage.unique hstage'))

theorem await_mute (svc : Service σ ρ α ε) (budget : β') (hs : run.Sound) (hp : run.Prompt)
    {limit : Option Instant} (hlimit : ∀ t, limit = some t → run.now ≤ t)
    (hends : limit = none → (run.await svc id none).isRacing id = false) :
    (run.mute budget).await svc id limit = (run.await svc id limit).mute budget := by
  have hdriven : Lags budget (run.drive svc (Due.inTime id limit) (·.isRacing id))
      ((run.mute budget).drive svc (Due.inTime id limit) (·.isRacing id)) :=
    (Lags.refl budget run).drive svc hs hp (timersFirst_inTime id limit) fun _ _ h => h.isRacing id
  cases hracing : (run.drive svc (Due.inTime id limit) (·.isRacing id)).isRacing id with
  | false =>
    have hsame := drive_mute_of_ended svc budget hs hp (timersFirst_inTime id limit) hracing
    unfold await
    simp only [hsame, isRacing_mute, hracing]
    rfl
  | true =>
    cases limit with
    | none =>
      have hended := hends rfl
      rw [await_none, hracing] at hended
      cases hended
    | some t =>
      have hwound := hdriven.wind
        (now_drive_le svc hs (fun _ => le_of_inTime) _ (hlimit t rfl))
      unfold await
      simp only [hdriven.isRacing, hracing]
      exact hwound

end Closed

end Run

end Hedging
