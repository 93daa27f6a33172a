import Hedging.Proofs.Run.Drive
import Hedging.Proofs.Run.History

/-!
# Waiting in parts

A drive carries out one event after another until it has a reason to stop, and how much fuel is left
makes no difference to it (`drive_of_next`, `drive_of_stopped`). So it may be interrupted anywhere:
what was driven some way and is then driven on ends up where one drive would have taken it
(`drive_drive`). The laws about waiting all come from this one.

> `passTo_passTo`: to let time pass in two parts is to let it pass at once.
> `await_passTo_now`: it does not matter whether what is due is finished before the wait or only
> after it.
> `await_of_lt`, `await_of_gt`: a limit on a wait makes no difference to a request that ends before
> it, and for any other request to wait is to let time pass until then.
-/

namespace Hedging

/-- A call has ended the request at `t`: it has settled it, or it has broken down. -/
def Stage.EndedAt {ρ α ε : Type} (t : Instant) (stage : Stage ρ α ε) : Prop :=
  (∃ result, stage = .settled t result) ∨ ∃ message, stage = .crashed t message

theorem Stage.EndedAt.isRacing {ρ α ε : Type} {t : Instant} {stage : Stage ρ α ε}
    (h : stage.EndedAt t) (request : Request ρ α ε) :
    ({ request with stage } : Request ρ α ε).isRacing = false := by
  rcases h with ⟨result, rfl⟩ | ⟨message, rfl⟩ <;> rfl

namespace Run

variable {δ β σ ρ α ε : Type}

section Stops

variable {run : Run δ β σ ρ α ε} {t : Instant} {due : Due} {allowed : Due → Bool}
  {waiting : Run δ β σ ρ α ε → Bool}

/-! ## Reasons to stop -/

/-- A drive that does not stop has an event to go on with. -/
theorem next_of_not_stopped (h : ¬ Stopped allowed waiting run) :
    waiting run = true ∧ ∃ due, run.next? = some due ∧ allowed due = true := by
  unfold Stopped at h
  rw [not_or] at h
  obtain ⟨hwaits, hnot⟩ := h
  refine ⟨Bool.not_eq_false _ ▸ hwaits, ?_⟩
  cases hnext : run.next? with
  | none => exact absurd (fun due hdue => by rw [hnext] at hdue; cases hdue) hnot
  | some due =>
    refine ⟨due, rfl, Bool.not_eq_false _ ▸ fun hrefused => hnot fun due' hdue => ?_⟩
    obtain rfl := Option.some.inj (hnext.symm.trans hdue)
    exact hrefused

theorem Stopped.refuses (h : Stopped allowed waiting run) (hwaits : waiting run = true)
    (hnext : run.next? = some due) : allowed due = false := by
  rcases h with hended | hstop
  · rw [hwaits] at hended
    cases hended
  · exact hstop due hnext

theorem le_of_noLaterThan (h : due.noLaterThan (some t) = true) : due.instant ≤ t :=
  of_decide_eq_true h

theorem lt_of_not_noLaterThan (h : due.noLaterThan (some t) = false) : t < due.instant :=
  Nat.not_le.mp (of_decide_eq_false h)

/-- Nothing that is due by `t` lies ahead any more. -/
def Past (t : Instant) (run : Run δ β σ ρ α ε) : Prop := ∀ due ∈ run.pending, t < due.instant

theorem past_of_next (h : ∀ due, run.next? = some due → t < due.instant) : run.Past t := by
  intro due hdue
  cases hnext : run.next? with
  | none =>
    rw [earliest_eq_none hnext] at hdue
    cases hdue
  | some first => exact Nat.lt_of_lt_of_le (h first hnext) ((earliest_le hnext).2 due hdue)

theorem wind_of_le (h : t ≤ run.now) : run.wind t = run := by
  unfold wind
  rw [Nat.max_eq_left h]

theorem wind_wind (run : Run δ β σ ρ α ε) {t' : Instant} (h : t ≤ t') :
    (run.wind t).wind t' = run.wind t' := by
  unfold wind
  simp only [Nat.max_assoc, Nat.max_eq_right h]

/-- A request that races has a race. -/
theorem exists_race {id : RequestId} (h : run.isRacing id = true) :
    ∃ request race, run.requests[id]? = some request ∧ request.stage = .racing race := by
  unfold isRacing at h
  cases there : run.requests[id]? with
  | none =>
    rw [there] at h
    cases h
  | some request =>
    rw [there, Option.any_some] at h
    unfold Request.isRacing at h
    split at h
    next race racing => exact ⟨request, race, rfl, racing⟩
    next => cases h

theorem racing_of_stage {run' : Run δ β σ ρ α ε} {i id : RequestId} {stage : Stage ρ α ε}
    (hrequests : run'.requests = run.requests.modify i fun r => { r with stage })
    (hracing : run.isRacing id = true) (hstage : i = id → ∃ race, stage = .racing race) :
    run'.isRacing id = true := by
  by_cases hi : i = id
  · subst hi
    obtain ⟨request, -, there, -⟩ := exists_race hracing
    obtain ⟨race, rfl⟩ := hstage rfl
    unfold isRacing
    rw [hrequests, List.getElem?_modify_eq, there]
    rfl
  · unfold isRacing
    rw [hrequests, List.getElem?_modify_ne _ _ hi]
    exact hracing

end Stops

variable [DelayEstimator δ] [AdmissionBudget β] {svc : Service σ ρ α ε}
  {run later : Run δ β σ ρ α ε} {id : RequestId} {t : Instant} {due : Due}
  {allowed allowed' : Due → Bool} {waiting waiting' : Run δ β σ ρ α ε → Bool}

/-! ## One drive -/

theorem driveFuel_of_stopped (svc : Service σ ρ α ε) (h : Stopped allowed waiting run)
    (fuel : Nat) : run.driveFuel svc allowed waiting fuel = run := by
  cases fuel with
  | zero => rfl
  | succ fuel =>
    unfold driveFuel
    rcases h with hwaits | hstop
    · rw [if_neg (by rw [hwaits]; exact Bool.false_ne_true)]
    · split
      · split
        next => rfl
        next due hnext => rw [if_neg (by rw [hstop due hnext]; exact Bool.false_ne_true)]
      · rfl

theorem driveFuel_succ (svc : Service σ ρ α ε) (hwaits : waiting run = true)
    (hnext : run.next? = some due) (hallowed : allowed due = true) (fuel : Nat) :
    run.driveFuel svc allowed waiting (fuel + 1) =
      (run.fire svc due).driveFuel svc allowed waiting fuel := by
  rw [driveFuel, if_pos hwaits, hnext]
  exact if_pos hallowed

theorem Sound.fire (hs : run.Sound) (svc : Service σ ρ α ε) (hdue : due ∈ run.pending) :
    (run.fire svc due).Sound :=
  (fire_change hs (ahead_of_mem_pending hdue)).sound hs

/-- With fuel enough it makes no difference how much there is. -/
theorem driveFuel_eq (hs : run.Sound) {fuel fuel' : Nat} (hfuel : run.potential ≤ fuel)
    (hfuel' : run.potential ≤ fuel') :
    run.driveFuel svc allowed waiting fuel = run.driveFuel svc allowed waiting fuel' := by
  induction fuel generalizing run fuel' with
  | zero =>
    -- nothing lies ahead without potential
    have hstop : Stopped allowed waiting run := driveFuel_stops svc hs allowed waiting hfuel
    exact (driveFuel_of_stopped svc hstop fuel').symm
  | succ fuel ih =>
    by_cases hstop : Stopped allowed waiting run
    · rw [driveFuel_of_stopped svc hstop, driveFuel_of_stopped svc hstop]
    · obtain ⟨hwaits, due, hnext, hallowed⟩ := next_of_not_stopped hstop
      have hdue := (earliest_le hnext).1
      have hlt := potential_fire_lt svc hs hdue
      cases fuel' with
      | zero => omega
      | succ fuel' =>
        rw [driveFuel_succ svc hwaits hnext hallowed, driveFuel_succ svc hwaits hnext hallowed]
        exact ih (hs.fire svc hdue) (by omega) (by omega)

theorem drive_of_stopped (svc : Service σ ρ α ε) (h : Stopped allowed waiting run) :
    run.drive svc allowed waiting = run :=
  driveFuel_of_stopped svc h run.potential

theorem drive_of_next (svc : Service σ ρ α ε) (hs : run.Sound) (hwaits : waiting run = true)
    (hnext : run.next? = some due) (hallowed : allowed due = true) :
    run.drive svc allowed waiting = (run.fire svc due).drive svc allowed waiting := by
  have hdue := (earliest_le hnext).1
  have hlt := potential_fire_lt svc hs hdue
  have hmore : run.drive svc allowed waiting =
      run.driveFuel svc allowed waiting (run.potential + 1) :=
    driveFuel_eq hs (Nat.le_refl _) (Nat.le_succ _)
  rw [hmore, driveFuel_succ svc hwaits hnext hallowed]
  exact driveFuel_eq (hs.fire svc hdue) (Nat.le_of_lt hlt) (Nat.le_refl _)

/-- What holds where a drive stops and is handed back by every event of it holds where it begins. -/
theorem drive_induction (svc : Service σ ρ α ε) (allowed : Due → Bool)
    (waiting : Run δ β σ ρ α ε → Bool) {P : Run δ β σ ρ α ε → Prop}
    (hstop : ∀ run, run.Sound → Stopped allowed waiting run → P run)
    (hfire : ∀ run due, run.Sound → waiting run = true → run.next? = some due →
      allowed due = true → P (run.fire svc due) → P run) (hs : run.Sound) : P run := by
  generalize hpotential : run.potential = n
  induction n using Nat.strongRecOn generalizing run with
  | ind n ih =>
    by_cases hstopped : Stopped allowed waiting run
    · exact hstop run hs hstopped
    · obtain ⟨hwaits, due, hnext, hallowed⟩ := next_of_not_stopped hstopped
      have hdue := (earliest_le hnext).1
      have hlt := potential_fire_lt svc hs hdue
      exact hfire run due hs hwaits hnext hallowed
        (ih _ (hpotential ▸ hlt) (hs.fire svc hdue) rfl)

/-- **A drive may be interrupted anywhere.** -/
theorem drive_drive (hs : run.Sound) (hallowed : ∀ due, allowed due = true → allowed' due = true)
    (hwaiting : ∀ run, waiting run = true → waiting' run = true) :
    (run.drive svc allowed waiting).drive svc allowed' waiting' =
      run.drive svc allowed' waiting' := by
  refine drive_induction svc allowed waiting (P := fun run =>
    (run.drive svc allowed waiting).drive svc allowed' waiting' =
      run.drive svc allowed' waiting') ?_ ?_ hs
  · intro run _ hstop
    rw [drive_of_stopped svc hstop]
  · intro run due hs hwaits hnext hdue ih
    rw [drive_of_next svc hs hwaits hnext hdue,
      drive_of_next svc hs (hwaiting run hwaits) hnext (hallowed due hdue), ih]

/-! ## The clock -/

/-- A drive never turns the clock back. -/
theorem now_le_drive (svc : Service σ ρ α ε) (hs : run.Sound) (allowed : Due → Bool)
    (waiting : Run δ β σ ρ α ε → Bool) : run.now ≤ (run.drive svc allowed waiting).now := by
  refine drive_induction svc allowed waiting (P := fun run =>
    run.now ≤ (run.drive svc allowed waiting).now) ?_ ?_ hs
  · intro run _ hstop
    exact Nat.le_of_eq (congrArg Run.now (drive_of_stopped svc hstop)).symm
  · intro run due hs hwaits hnext hdue ih
    rw [drive_of_next svc hs hwaits hnext hdue]
    rw [now_fire] at ih
    exact Nat.le_trans (Nat.le_max_left ..) ih

/-- A drive does not pass the instants that it allows. -/
theorem now_drive_le (svc : Service σ ρ α ε) (hs : run.Sound)
    (hallowed : ∀ due, allowed due = true → due.instant ≤ t)
    (waiting : Run δ β σ ρ α ε → Bool) (hnow : run.now ≤ t) :
    (run.drive svc allowed waiting).now ≤ t := by
  refine drive_induction svc allowed waiting (P := fun run =>
    run.now ≤ t → (run.drive svc allowed waiting).now ≤ t) ?_ ?_ hs hnow
  · intro run _ hstop hnow
    rw [drive_of_stopped svc hstop]
    exact hnow
  · intro run due hs hwaits hnext hdue ih hnow
    rw [drive_of_next svc hs hwaits hnext hdue]
    refine ih ?_
    rw [now_fire]
    exact Nat.max_le.mpr ⟨hnow, hallowed due hdue⟩

/-! ## One event -/

/-- An event takes the clock to its instant at least, so a clock that it finds earlier makes no
difference. -/
theorem fire_wind (run : Run δ β σ ρ α ε) (h : t ≤ due.instant) :
    (run.wind t).fire svc due = run.fire svc due := by
  unfold fire wind
  simp only [Nat.max_assoc, Nat.max_eq_right h]

/-- An event takes its request to another stage: a timer leaves it racing, and the end of a call
ends it there and then. -/
theorem fire_to (svc : Service σ ρ α ε) (hs : run.Sound) (hdue : due ∈ run.pending) :
    ∃ request stage, run.requests[due.request]? = some request ∧
      (run.fire svc due).requests = run.requests.modify due.request (fun r => { r with stage }) ∧
      match due.source with
      | .timer => ∃ race, stage = .racing race
      | .call _ => stage.EndedAt (run.fire svc due).now := by
  have hclock := now_fire svc run due
  cases ahead_of_mem_pending hdue with
  | timer there racing armed set =>
    cases hgranted : (AdmissionBudget.tryConsume run.budget).1 with
    | true =>
      rw [fire_granted hs there racing armed hgranted]
      exact ⟨_, _, there, rfl, ⟨_, rfl⟩⟩
    | false =>
      rw [fire_refused hs there racing armed hgranted]
      exact ⟨_, _, there, rfl, ⟨_, rfl⟩⟩
  | @call _ _ _ _ _ _ call there racing waited held =>
    rw [hclock]
    cases hsaid : call.reply.completion? with
    | some completion =>
      rw [fire_answered hs there racing waited held hsaid]
      exact ⟨_, _, there, requests_answer .., Or.inl ⟨_, rfl⟩⟩
    | none =>
      obtain ⟨message, hreply⟩ := Reply.eq_crash_of_completion? hsaid
      rw [fire_crashed there racing waited held hreply, dropCalls_eq]
      exact ⟨_, _, there, rfl, Or.inr ⟨_, rfl⟩⟩

/-! ## Letting time pass -/

/-- Whoever lets time pass until `t` leaves nothing behind that was due by then. -/
theorem passTo_past (svc : Service σ ρ α ε) (hs : run.Sound) (t : Instant) :
    (run.passTo svc t).Past t := by
  refine past_of_next ?_
  intro due (hnext : (run.drive svc (Due.noLaterThan (some t)) fun _ => true).next? = some due)
  rcases drive_stops svc hs (Due.noLaterThan (some t)) (fun _ => true) with hwaits | hstop
  · cases hwaits
  · exact lt_of_not_noLaterThan (hstop due hnext)

theorem now_passTo (svc : Service σ ρ α ε) (hs : run.Sound) (hnow : run.now ≤ t) :
    (run.passTo svc t).now = t :=
  Nat.max_eq_right (now_drive_le svc hs (fun _ => le_of_noLaterThan) _ hnow)

theorem passTo_past_now (svc : Service σ ρ α ε) (hs : run.Sound) (hnow : run.now ≤ t) :
    (run.passTo svc t).Past (run.passTo svc t).now := by
  rw [now_passTo svc hs hnow]
  exact passTo_past svc hs t

/-- Where nothing is due, nothing happens. -/
theorem passTo_of_past (svc : Service σ ρ α ε) (h : run.Past t) : run.passTo svc t = run.wind t := by
  unfold passTo
  rw [drive_of_stopped svc]
  refine Or.inr fun due hnext => ?_
  exact decide_eq_false (Nat.not_le.mpr (h due (earliest_le hnext).1))

theorem passTo_now_of_past (svc : Service σ ρ α ε) (h : run.Past run.now) :
    run.passTo svc run.now = run := by
  rw [passTo_of_past svc h]
  exact wind_of_le (Nat.le_refl _)

/-- What is finished at the present instant is finished by driving alone. -/
theorem passTo_now (svc : Service σ ρ α ε) (hs : run.Sound) :
    run.passTo svc run.now = run.drive svc (Due.noLaterThan (some run.now)) fun _ => true :=
  wind_of_le (now_le_drive svc hs _ _)

/-- To let time pass in two parts is to let it pass at once. -/
theorem passTo_passTo (svc : Service σ ρ α ε) (hs : run.Sound) {t' : Instant} (h : t ≤ t') :
    (run.passTo svc t).passTo svc t' = run.passTo svc t' := by
  have hdrive : (run.drive svc (Due.noLaterThan (some t)) fun _ => true).passTo svc t' =
      run.passTo svc t' := by
    have hdrive : (run.drive svc (Due.noLaterThan (some t)) fun _ => true).drive svc
        (Due.noLaterThan (some t')) (fun _ => true) =
        run.drive svc (Due.noLaterThan (some t')) fun _ => true :=
      drive_drive hs (fun due hdue =>
        decide_eq_true (Nat.le_trans (le_of_noLaterThan hdue) h)) fun _ h => h
    unfold passTo
    rw [hdrive]
  rw [← hdrive]
  -- it only remains to see that the clock may go ahead before the events that come next
  have hsound := (drive_leads svc hs (Due.noLaterThan (some t)) fun _ => true).sound hs
  have hpast := passTo_past svc hs t
  unfold passTo at hpast ⊢
  generalize run.drive svc (Due.noLaterThan (some t)) (fun _ => true) = here at hsound hpast ⊢
  have hahead : here.Past t := hpast
  by_cases hstop : Stopped (Due.noLaterThan (some t')) (fun _ => true) here
  · have hstop' : Stopped (Due.noLaterThan (some t')) (fun _ => true) (here.wind t) := hstop
    rw [drive_of_stopped svc hstop, drive_of_stopped svc hstop', wind_wind here h]
  · obtain ⟨-, due, hnext, hdue⟩ := next_of_not_stopped hstop
    have hnext' : (here.wind t).next? = some due := hnext
    have hsound' : (here.wind t).Sound := hsound
    rw [drive_of_next svc hsound rfl hnext hdue, drive_of_next svc hsound' rfl hnext' hdue,
      fire_wind here (Nat.le_of_lt (hahead due (earliest_le hnext).1))]

/-! ## Waiting for a request -/

theorem await_none (svc : Service σ ρ α ε) (run : Run δ β σ ρ α ε) (id : RequestId) :
    run.await svc id none = run.drive svc (Due.inTime id none) (·.isRacing id) := by
  unfold await
  simp only
  split <;> rfl

/-- Nobody waits for a request that has ended. -/
theorem await_of_ended (svc : Service σ ρ α ε) (h : run.isRacing id = false)
    (limit : Option Instant) : run.await svc id limit = run := by
  have hdrive : run.drive svc (Due.inTime id limit) (·.isRacing id) = run :=
    drive_of_stopped svc (Or.inl h)
  unfold await
  simp only [hdrive, h]
  rfl

/-- Whatever a request has been driven by, whoever waits for it sees the same end. -/
theorem drive_await (svc : Service σ ρ α ε) (hs : run.Sound) (allowed : Due → Bool)
    (id : RequestId) :
    (run.drive svc allowed (·.isRacing id)).await svc id none = run.await svc id none := by
  rw [await_none, await_none]
  exact drive_drive hs (fun _ _ => rfl) fun _ h => h

/-- A request that was made is never forgotten. -/
theorem Leads.lt_length (hr : Leads svc Regular run later) (hs : run.Sound)
    (hlt : id < run.requests.length) : id < later.requests.length := by
  obtain ⟨stage, hthere⟩ := hr.reaches.request hs (List.getElem?_eq_getElem hlt)
  exact (List.getElem?_eq_some_iff.mp hthere).1

/-- A request that has ended does not race again. -/
theorem Leads.ended (hr : Leads svc Regular run later) (hs : run.Sound)
    (hlt : id < run.requests.length) (h : run.isRacing id = false) :
    later.requests[id]? = run.requests[id]? ∧ later.isRacing id = false := by
  have hthere := List.getElem?_eq_getElem hlt
  have hended : (run.requests[id]).isRacing = false := by
    rw [isRacing_of_there hthere] at h
    exact h
  have hkept := hr.reaches.request_of_ended hs hthere hended
  refine ⟨hkept.trans hthere.symm, ?_⟩
  rw [isRacing_of_there hkept]
  exact hended

/-- As long as a request races, to wait for it is to let time pass. -/
theorem drive_of_racing (hs : run.Sound)
    (hracing : (run.drive svc allowed (·.isRacing id)).isRacing id = true) :
    (run.drive svc allowed fun _ => true) = run.drive svc allowed (·.isRacing id) := by
  have hdrive : (run.drive svc allowed (·.isRacing id)).drive svc allowed (fun _ => true) =
      run.drive svc allowed fun _ => true := drive_drive hs (fun _ h => h) fun _ _ => rfl
  rw [← hdrive]
  refine drive_of_stopped svc ?_
  rcases drive_stops svc hs allowed (·.isRacing id) with hended | hstop
  · exact absurd (hracing.symm.trans hended) (by simp)
  · exact Or.inr hstop

/-- Only the end of a call of its own ends a request, and it does so there and then. -/
theorem fire_endedAt (svc : Service σ ρ α ε) (hs : run.Sound) (hdue : due ∈ run.pending)
    (hracing : run.isRacing id = true) (hended : (run.fire svc due).isRacing id = false) :
    ∃ request, (run.fire svc due).requests[id]? = some request ∧
      request.stage.EndedAt (run.fire svc due).now := by
  obtain ⟨request, stage, there, hrequests, hstage⟩ := fire_to svc hs hdue
  have hracing' := racing_of_stage hrequests hracing
  have hid : due.request = id := by
    refine Classical.byContradiction fun hne => ?_
    rw [hracing' fun h => absurd h hne] at hended
    cases hended
  cases hsource : due.source with
  | timer =>
    rw [hsource] at hstage
    rw [hracing' fun _ => hstage] at hended
    cases hended
  | call branch =>
    rw [hsource] at hstage
    subst hid
    refine ⟨{ request with stage }, ?_, hstage⟩
    rw [hrequests, List.getElem?_modify_eq, there]
    rfl

/-- **It does not matter whether what is due is finished before the wait or only after it.** -/
theorem await_passTo_now (svc : Service σ ρ α ε) (hs : run.Sound)
    (hlt : id < run.requests.length) :
    let waited := (run.passTo svc run.now).await svc id none
    let direct := run.await svc id none
    waited.requests[id]? = direct.requests[id]? ∧
      waited.passTo svc waited.now = direct.passTo svc direct.now := by
  intro waited direct
  have hpass := passTo_now svc hs
  -- how far the wait gets before the clock moves
  have hbegun := drive_leads svc hs (Due.noLaterThan (some run.now)) (·.isRacing id)
  have hclock : (run.drive svc (Due.noLaterThan (some run.now)) (·.isRacing id)).now = run.now :=
    Nat.le_antisymm (now_drive_le svc hs (fun _ => le_of_noLaterThan) _ (Nat.le_refl _))
      (now_le_drive svc hs _ _)
  have hdirect : (run.drive svc (Due.noLaterThan (some run.now)) (·.isRacing id)).drive svc
      (Due.inTime id none) (·.isRacing id) = direct :=
    (drive_drive hs (fun _ _ => rfl) fun _ h => h).trans (await_none svc run id).symm
  cases hracing : (run.drive svc (Due.noLaterThan (some run.now)) (·.isRacing id)).isRacing id with
  | true =>
    have hsame : waited = direct := by
      show (run.passTo svc run.now).await svc id none = direct
      rw [hpass, drive_of_racing hs hracing, await_none, hdirect]
    rw [hsame]
    exact ⟨rfl, rfl⟩
  | false =>
    -- the request ends there and then, and the rest of what is due is finished before or after
    rw [drive_of_stopped svc (Or.inl hracing)] at hdirect
    rw [hdirect] at hbegun hclock hracing
    have hrest : direct.passTo svc direct.now = run.passTo svc run.now := by
      rw [passTo_now svc (hbegun.sound hs), hpass, hclock, ← hdirect]
      exact drive_drive hs (fun _ h => h) fun _ _ => rfl
    have hleads := passTo_leads svc (hbegun.sound hs) direct.now
    rw [hrest] at hleads
    obtain ⟨hkept, hended⟩ := hleads.ended (hbegun.sound hs) (hbegun.lt_length hs hlt) hracing
    have hsame : waited = run.passTo svc run.now := await_of_ended svc hended none
    rw [hsame]
    refine ⟨hkept, ?_⟩
    exact (passTo_now_of_past svc (passTo_past_now svc hs (Nat.le_refl _))).trans hrest.symm

/-- A drive that waits for a racing request is done at the instant at which it ends. -/
theorem drive_endedAt (svc : Service σ ρ α ε) (hs : run.Sound) (hracing : run.isRacing id = true)
    (hended : (run.drive svc allowed (·.isRacing id)).isRacing id = false) :
    ∃ request, (run.drive svc allowed (·.isRacing id)).requests[id]? = some request ∧
      request.stage.EndedAt (run.drive svc allowed (·.isRacing id)).now := by
  refine drive_induction svc allowed (·.isRacing id) (P := fun run =>
    let waited := run.drive svc allowed (·.isRacing id)
    run.isRacing id = true → waited.isRacing id = false →
      ∃ request, waited.requests[id]? = some request ∧ request.stage.EndedAt waited.now)
    ?_ ?_ hs hracing hended
  · intro run _ hstop waited hracing hended
    have hsame : waited = run := drive_of_stopped svc hstop
    rw [hsame, hracing] at hended
    cases hended
  · intro run due hs _ hnext hdue ih waited hracing hended
    have hsame : waited = (run.fire svc due).drive svc allowed (·.isRacing id) :=
      drive_of_next svc hs hracing hnext hdue
    cases hfired : (run.fire svc due).isRacing id with
    | true =>
      rw [hsame] at hended ⊢
      exact ih hfired hended
    | false =>
      -- it is this event that ends the request
      rw [drive_of_stopped svc (Or.inl hfired)] at hsame
      rw [hsame]
      exact fire_endedAt svc hs (earliest_le hnext).1 hracing hfired

/-- Whoever waits for a racing request is done at the instant at which it ends. -/
theorem await_endedAt (svc : Service σ ρ α ε) (hs : run.Sound) (hracing : run.isRacing id = true)
    (hended : (run.await svc id none).isRacing id = false) :
    ∃ request, (run.await svc id none).requests[id]? = some request ∧
      request.stage.EndedAt (run.await svc id none).now := by
  rw [await_none] at hended ⊢
  exact drive_endedAt svc hs hracing hended

/-! ## Limits on a wait -/

theorem le_of_inTime (h : due.inTime id (some t) = true) : due.instant ≤ t := by
  unfold Due.inTime at h
  rw [Option.all_some, Bool.or_eq_true, Bool.and_eq_true] at h
  rcases h with hlt | ⟨heq, -⟩
  · exact Nat.le_of_lt (of_decide_eq_true hlt)
  · exact Nat.le_of_eq (eq_of_beq heq)

/-- Whoever waits until `t` leaves no event by then but the end of a call of the request. -/
theorem call_of_not_inTime (h : due.inTime id (some t) = false) (hle : due.instant ≤ t) :
    due.request = id ∧ ∃ branch, due.source = .call branch := by
  unfold Due.inTime at h
  rw [Option.all_some, Bool.or_eq_false_iff, Bool.and_eq_false_imp, beq_iff_eq] at h
  obtain ⟨hnot, hown⟩ := h
  have heq : due.instant = t := Nat.le_antisymm hle (Nat.not_lt.mp (of_decide_eq_false hnot))
  have hcase := hown heq
  rw [Bool.or_eq_false_iff, bne_eq_false_iff_eq, beq_eq_false_iff_ne] at hcase
  refine ⟨hcase.1, ?_⟩
  cases hsource : due.source with
  | call branch => exact ⟨branch, rfl⟩
  | timer => exact absurd hsource hcase.2

/-- A request ends no earlier than the next event comes. -/
theorem le_now_await (svc : Service σ ρ α ε) (hs : run.Sound)
    (hracing : run.isRacing id = true) (hahead : ∀ due, run.next? = some due → t ≤ due.instant)
    (hended : (run.await svc id none).isRacing id = false) :
    t ≤ (run.await svc id none).now := by
  rw [await_none] at hended ⊢
  by_cases hstop : Stopped (Due.inTime id none) (·.isRacing id) run
  · rw [drive_of_stopped svc hstop, hracing] at hended
    cases hended
  · obtain ⟨hwaits, due, hnext, hdue⟩ := next_of_not_stopped hstop
    have hsound := hs.fire svc (earliest_le hnext).1
    rw [drive_of_next svc hs hwaits hnext hdue]
    refine Nat.le_trans ?_ (now_le_drive svc hsound _ _)
    rw [now_fire]
    exact Nat.le_trans (hahead due hnext) (Nat.le_max_right ..)

/-- A drive that refuses nothing before `t` finishes a request that ends before `t`. -/
theorem drive_of_lt (svc : Service σ ρ α ε) (hs : run.Sound)
    (hrefused : ∀ due, allowed due = false → t ≤ due.instant)
    (hended : (run.await svc id none).isRacing id = false)
    (hlt : (run.await svc id none).now < t) :
    run.drive svc allowed (·.isRacing id) = run.await svc id none := by
  have hrest := drive_await svc hs allowed id
  have hsound := (drive_leads svc hs allowed (·.isRacing id)).sound hs
  have hstops := drive_stops svc hs allowed (·.isRacing id)
  rw [← hrest] at hended hlt ⊢
  cases hracing : (run.drive svc allowed (·.isRacing id)).isRacing id with
  | false => exact (await_of_ended svc hracing none).symm
  | true =>
    have hle := le_now_await svc hsound hracing
      (fun due hnext => hrefused due (hstops.refuses hracing hnext)) hended
    exact absurd hlt (Nat.not_lt.mpr hle)

/-- **A limit makes no difference to a request that ends before it.** -/
theorem await_of_lt (svc : Service σ ρ α ε) (hs : run.Sound)
    (hended : (run.await svc id none).isRacing id = false)
    (hlt : (run.await svc id none).now < t) :
    run.await svc id (some t) = run.await svc id none := by
  have hdriven : run.drive svc (Due.inTime id (some t)) (·.isRacing id) = run.await svc id none :=
    drive_of_lt svc hs (fun _ => le_of_not_inTime) hended hlt
  show (let driven := run.drive svc (Due.inTime id (some t)) (·.isRacing id)
    if driven.isRacing id then driven.wind t else driven) = _
  simp only [hdriven, hended]
  rfl

/-- The end of a call that is waited for is the end of its request. -/
theorem fire_call_ended (svc : Service σ ρ α ε) (hs : run.Sound) {branch : Branch}
    (hdue : due ∈ run.pending) (hcall : due.source = .call branch) :
    (run.fire svc due).isRacing due.request = false := by
  obtain ⟨request, stage, there, hrequests, hstage⟩ := fire_to svc hs hdue
  rw [hcall] at hstage
  unfold isRacing
  rw [hrequests, List.getElem?_modify_eq, there]
  exact hstage.isRacing request

/-- A request that ends later than `t` outlasts every drive that stops by then. -/
theorem drive_outlasted (svc : Service σ ρ α ε) (hs : run.Sound) (hnow : run.now ≤ t)
    (hgt : t < (run.await svc id none).now)
    (hallowed : ∀ due, allowed due = true → due.instant ≤ t) :
    (run.drive svc allowed (·.isRacing id)).isRacing id = true := by
  have hle := now_drive_le svc hs hallowed (·.isRacing id) hnow
  have hrest := drive_await svc hs allowed id
  cases hracing : (run.drive svc allowed (·.isRacing id)).isRacing id with
  | true => rfl
  | false =>
    rw [await_of_ended svc hracing] at hrest
    rw [hrest] at hle
    exact absurd hgt (Nat.not_lt.mpr hle)

/-- For a request that outlasts the limit nothing of what comes at the limit is too late. -/
theorem drive_inTime_of_racing (svc : Service σ ρ α ε) (hs : run.Sound)
    (hhere : (run.drive svc (Due.inTime id (some t)) (·.isRacing id)).isRacing id = true)
    (hthere : (run.drive svc (Due.noLaterThan (some t)) (·.isRacing id)).isRacing id = true) :
    run.drive svc (Due.inTime id (some t)) (·.isRacing id) =
      run.drive svc (Due.noLaterThan (some t)) (·.isRacing id) := by
  have hbegun := (drive_leads svc hs (Due.inTime id (some t)) (·.isRacing id)).sound hs
  have hstops := drive_stops svc hs (Due.inTime id (some t)) (·.isRacing id)
  have hrest : (run.drive svc (Due.inTime id (some t)) (·.isRacing id)).drive svc
      (Due.noLaterThan (some t)) (·.isRacing id) =
      run.drive svc (Due.noLaterThan (some t)) (·.isRacing id) :=
    drive_drive hs (fun due hdue => decide_eq_true (le_of_inTime hdue)) fun _ h => h
  rw [← hrest] at hthere ⊢
  generalize run.drive svc (Due.inTime id (some t)) (·.isRacing id) = here at *
  by_cases hstop : Stopped (Due.noLaterThan (some t)) (·.isRacing id) here
  · exact (drive_of_stopped svc hstop).symm
  · -- what is left at the limit is the end of a call of the request, which would end it
    obtain ⟨hwaits, due, hnext, hdue⟩ := next_of_not_stopped hstop
    obtain ⟨rfl, branch, hcall⟩ := call_of_not_inTime (hstops.refuses hhere hnext)
      (le_of_noLaterThan hdue)
    have hended := fire_call_ended svc hbegun (earliest_le hnext).1 hcall
    rw [drive_of_next svc hbegun hwaits hnext hdue, drive_of_stopped svc (Or.inl hended)] at hthere
    exact absurd (hthere.symm.trans hended) (by simp)

/-- **For a request that outlasts the limit, to wait is to let time pass.** -/
theorem await_of_gt (svc : Service σ ρ α ε) (hs : run.Sound) (hnow : run.now ≤ t)
    (hgt : t < (run.await svc id none).now) :
    run.await svc id (some t) = run.passTo svc t ∧ (run.passTo svc t).isRacing id = true := by
  have hhere : (run.drive svc (Due.inTime id (some t)) (·.isRacing id)).isRacing id = true :=
    drive_outlasted svc hs hnow hgt fun _ => le_of_inTime
  have hthere : (run.drive svc (Due.noLaterThan (some t)) (·.isRacing id)).isRacing id = true :=
    drive_outlasted svc hs hnow hgt fun _ => le_of_noLaterThan
  have hpass := drive_of_racing hs hthere
  constructor
  · unfold await passTo
    simp only [hhere]
    rw [hpass, drive_inTime_of_racing svc hs hhere hthere]
    rfl
  · unfold passTo
    rw [hpass]
    exact hthere

end Run

end Hedging
