import Hedging.Proofs.Session.Handles
import Hedging.Service.Script

/-!
# Cancelling a request

Whoever cancels a handle, drops it or takes its name for another request gives one request up. If
that has ended, nothing happens at all; otherwise it goes with its calls and spares everything else
(`Run.GivesUp`). A request that has ended first keeps its own answer for whoever waits for it.

> `cancellation`: what it means to cancel a handle, to drop it or to replace it, and what whoever
> waits for it hears.
-/

namespace Hedging

namespace Run

variable {δ β σ ρ α ε : Type} {run : Run δ β σ ρ α ε} {id : RequestId} {t : Instant}

/-! ## Giving a request up -/

theorem length_abandon (run : Run δ β σ ρ α ε) (id : RequestId) :
    (run.abandon id).requests.length = run.requests.length := by
  unfold abandon
  split
  · rfl
  · split
    · rw [dropCalls_eq]
      exact List.length_modify ..
    · rfl

theorem abandon_of_not_racing (h : run.isRacing id = false) : run.abandon id = run := by
  cases there : run.requests[id]? with
  | none =>
    unfold abandon
    rw [there]
  | some request =>
    rw [isRacing_of_there there] at h
    exact abandon_of_ended there h

/-- A request that is given up does not race any more. -/
theorem isRacing_abandon (run : Run δ β σ ρ α ε) (id : RequestId) :
    (run.abandon id).isRacing id = false := by
  cases hracing : run.isRacing id with
  | false =>
    rw [abandon_of_not_racing hracing]
    exact hracing
  | true =>
    obtain ⟨request, race, there, racing⟩ := exists_race hracing
    rw [abandon_racing there racing]
    unfold isRacing
    rw [List.getElem?_modify_eq, there]
    rfl

variable [DelayEstimator δ] [AdmissionBudget β] {svc : Service σ ρ α ε} {gone : Run δ β σ ρ α ε}

/-- A request is given up: if it races, it goes and spares the others, and otherwise nothing
happens. -/
structure GivesUp (svc : Service σ ρ α ε) (run : Run δ β σ ρ α ε) (id : RequestId)
    (gone : Run δ β σ ρ α ε) : Prop where
  racing : ∀ (request : Request ρ α ε) (race : Race ρ α ε), run.requests[id]? = some request →
    request.stage = .racing race → Spared svc run id race gone
  ended : run.isRacing id = false → gone = run

theorem abandon_givesUp (svc : Service σ ρ α ε) (h : run.Intact) (id : RequestId) :
    GivesUp svc run id (run.abandon id) :=
  ⟨fun _ _ there racing => abandon_spared svc h there racing, abandon_of_not_racing⟩

/-- What lies ahead of a run when a request is given up lay ahead of it before. -/
theorem GivesUp.past (h : GivesUp svc run id gone) (hpast : run.Past t) : gone.Past t := by
  cases hracing : run.isRacing id with
  | false =>
    rw [h.ended hracing]
    exact hpast
  | true =>
    intro due hdue
    obtain ⟨request, race, there, racing⟩ := exists_race hracing
    rw [(h.racing request race there racing).pending] at hdue
    exact hpast due (List.mem_filter.mp hdue).1

/-- Where nothing was due, nothing is due after a request is given up. -/
theorem passTo_abandon (svc : Service σ ρ α ε) (h : run.Intact) (hpast : run.Past run.now)
    (id : RequestId) : (run.abandon id).passTo svc (run.abandon id).now = run.abandon id := by
  refine passTo_now_of_past svc ?_
  rw [(abandon_frame run id).1]
  exact (abandon_givesUp svc h id).past hpast

end Run

namespace Session

variable {δ β σ ρ α ε : Type} [DelayEstimator δ] [AdmissionBudget β] {svc : Service σ ρ α ε}
  {s : Session δ β σ ρ α ε} {handle : String} {id : RequestId} {payload : ρ}
  {ops : List (SessionOp ρ)}

open Run (abandon_spared abandon_givesUp passTo_abandon length_abandon start_wanted await_ends
  await_of_ended GivesUp Reaches)

/-! ## Between operations -/

/-- After an operation nothing is due. -/
theorem step_past (svc : Service σ ρ α ε) (h : s.Tidy) (op : SessionOp ρ) :
    (s.step svc op).2.run.Past (s.step svc op).2.run.now :=
  Run.passTo_past_now svc (h.act svc op).intact.sound (Nat.le_refl _)

theorem steps_past (svc : Service σ ρ α ε) (h : s.Tidy) (hpast : s.run.Past s.run.now)
    (ops : List (SessionOp ρ)) :
    (s.steps svc ops).2.run.Past (s.steps svc ops).2.run.now := by
  induction ops generalizing s with
  | nil => exact hpast
  | cons op rest ih => exact ih (h.step svc op) (step_past svc h op)

/-- An operation after which nothing is due is over at once. -/
theorem step_of_act {op : SessionOp ρ} {answer : SessionAnswer α ε} {s' : Session δ β σ ρ α ε}
    (hact : s.act svc op = (answer, s')) (hrest : s'.run.passTo svc s'.run.now = s'.run) :
    s.step svc op = (answer, s') := by
  unfold step flush
  rw [hact]
  simp only
  rw [hrest]

/-! ## What is done with one handle -/

theorem step_cancel (svc : Service σ ρ α ε) (h : s.Tidy) (hpast : s.run.Past s.run.now)
    (hfound : s.handles.lookup handle = some id) :
    s.step svc (.cancel handle) = (.done, { s with run := s.run.abandon id }) := by
  refine step_of_act ?_ (passTo_abandon svc h.intact hpast id)
  simp only [act, hfound]

theorem step_drop (svc : Service σ ρ α ε) (h : s.Tidy) (hpast : s.run.Past s.run.now)
    (hfound : s.handles.lookup handle = some id) :
    s.step svc (.drop handle) =
      (.dropped true, { s with run := s.run.abandon id }.forget handle) := by
  refine step_of_act ?_ (passTo_abandon svc h.intact hpast id)
  simp only [act, hfound, dropHandle_of_some hfound]
  rfl

theorem act_spawn (svc : Service σ ρ α ε) (hfound : s.handles.lookup handle = some id)
    (payload : ρ) :
    (s.act svc (.spawn handle payload)).2.run = (s.run.abandon id).start svc payload false := by
  show (s.dropHandle handle).run.start svc payload false = _
  rw [dropHandle_of_some hfound]
  rfl

/-- A handle that is spawned stands for a new request, which nobody has given up. -/
theorem step_spawn (svc : Service σ ρ α ε) (h : s.Tidy) (handle : String) (payload : ρ) :
    let s' := (s.step svc (.spawn handle payload)).2
    s'.handles.lookup handle = some s.run.requests.length ∧
      s'.run.Wanted s.run.requests.length := by
  intro s'
  have hlength : (s.dropHandle handle).run.requests.length = s.run.requests.length := by
    cases hfound : s.handles.lookup handle with
    | none => rw [dropHandle_of_none hfound]
    | some id =>
      rw [dropHandle_of_some hfound]
      exact length_abandon s.run id
  have hnew : (s.act svc (.spawn handle payload)).2.run.Wanted s.run.requests.length := by
    rw [← hlength]
    exact start_wanted svc _ payload false
  constructor
  · show List.lookup handle ((handle, (s.dropHandle handle).run.requests.length) :: _) = _
    rw [List.lookup_cons_self, hlength]
  · exact hnew.passTo (h.act svc _).intact.sound _

/-- Whoever waits for a handle hears what its request answers in the end. -/
theorem step_wait (svc : Service σ ρ α ε) (hfound : s.handles.lookup handle = some id) :
    (s.step svc (.wait handle)).1 = answerOf (s.run.await svc id none) id := by
  show (s.act svc (.wait handle)).1 = _
  simp only [act, hfound]

/-- Without a cancel a request ends in its own way, and this is what whoever waits for it hears. -/
theorem step_wait_wanted (svc : Service σ ρ α ε) (h : s.Tidy)
    (hfound : s.handles.lookup handle = some id) (hwanted : s.run.Wanted id) :
    ∃ request, (s.run.await svc id none).requests[id]? = some request ∧
      request.isRacing = false ∧ (∀ t, request.stage ≠ .abandoned t) ∧
      (s.step svc (.wait handle)).1 = request.stage.answer := by
  have hstill : (s.run.await svc id none).Wanted id := hwanted.await h.intact.sound id none
  obtain ⟨request, there, hkept⟩ := hstill
  have hended := await_ends svc h.intact id
  rw [Run.isRacing_of_there there] at hended
  refine ⟨request, there, hended, hkept, ?_⟩
  exact (step_wait svc hfound).trans (answerOf_of_there there)

/-- What whoever waits for a handle hears after it was cancelled: how its request had ended before,
and otherwise that it was cancelled. -/
theorem steps_cancel_wait (svc : Service σ ρ α ε) (h : s.Tidy) (hpast : s.run.Past s.run.now)
    (hfound : s.handles.lookup handle = some id) {request : Request ρ α ε}
    (there : s.run.requests[id]? = some request)
    (hops : ∀ op ∈ ops, op.handle? = some handle → op = .cancel handle) :
    ((s.steps svc (.cancel handle :: ops)).2.step svc (.wait handle)).1 =
      if request.isRacing then .failed .cancelled else request.stage.answer := by
  have hcancel := step_cancel svc h hpast hfound
  -- where the request stands after the cancel, and for good
  obtain ⟨gone, hthere, hended, hanswer⟩ : ∃ gone, (s.run.abandon id).requests[id]? = some gone ∧
      gone.isRacing = false ∧
      gone.stage.answer = if request.isRacing then .failed .cancelled else request.stage.answer := by
    cases hracing : request.isRacing with
    | false =>
      rw [Run.abandon_of_ended there hracing]
      exact ⟨request, there, hracing, rfl⟩
    | true =>
      have hrun : s.run.isRacing id = true := (Run.isRacing_of_there there).trans hracing
      obtain ⟨request', race, there', racing⟩ := Run.exists_race hrun
      obtain ⟨request'', -, hgone⟩ := (abandon_spared svc h.intact there' racing).own
      exact ⟨_, hgone, rfl, rfl⟩
  have hafter : (s.step svc (.cancel handle)).2.run = s.run.abandon id := by rw [hcancel]
  have hsound := (h.step svc (.cancel handle)).intact.sound
  have hfound' : (s.step svc (.cancel handle)).2.handles.lookup handle = some id := by
    rw [hcancel]
    exact hfound
  rw [← hafter] at hthere
  have hkept := (steps_leads svc hsound ops).reaches.request_of_ended hsound hthere hended
  have hlast : (s.steps svc (.cancel handle :: ops)).2 =
      ((s.step svc (.cancel handle)).2.steps svc ops).2 := rfl
  rw [hlast, step_wait svc (steps_lookup svc hfound' hops), ← hanswer]
  have hnot : ((s.step svc (.cancel handle)).2.steps svc ops).2.run.isRacing id = false := by
    rw [Run.isRacing_of_there hkept]
    exact hended
  rw [await_of_ended svc hnot]
  exact answerOf_of_there hkept

/-- **Cancelling a request changes nothing else, then or later**, wherever a run has got to.

In a session, to cancel a handle, to drop it or to take its name for another request gives its request
up. Whoever waits for a handle hears how its request ended, if that was before the first cancel, and
otherwise that it was cancelled. -/
theorem cancellation (svc : Service σ ρ α ε) (service : σ) (estimator : δ) (budget : β)
    (ops : List (SessionOp ρ)) (handle : String) :
    let s := ((Session.new service estimator budget : Session δ β σ ρ α ε).steps svc ops).2
    (∀ run : Run δ β σ ρ α ε, Reaches svc (.new service estimator budget) run →
      ∀ id, GivesUp svc run id (run.abandon id)) ∧
    (∀ id, s.handles.lookup handle = some id →
      s.step svc (.cancel handle) = (.done, { s with run := s.run.abandon id }) ∧
      s.step svc (.drop handle) =
        (.dropped true, { s with run := s.run.abandon id }.forget handle) ∧
      ∀ payload, (s.act svc (.spawn handle payload)).2.run =
        (s.run.abandon id).start svc payload false) ∧
    ∀ (payload : ρ) (between : List (SessionOp ρ)),
      (∀ op ∈ between, op.handle? ≠ some handle) →
      let id := s.run.requests.length
      let s' := (s.steps svc (.spawn handle payload :: between)).2
      (∃ request, (s'.run.await svc id none).requests[id]? = some request ∧
        request.isRacing = false ∧ (∀ t, request.stage ≠ .abandoned t) ∧
        (s'.step svc (.wait handle)).1 = request.stage.answer) ∧
      ∃ request, s'.run.requests[id]? = some request ∧ (∀ t, request.stage ≠ .abandoned t) ∧
        ∀ later : List (SessionOp ρ),
          (∀ op ∈ later, op.handle? = some handle → op = .cancel handle) →
          ((s'.steps svc (.cancel handle :: later)).2.step svc (.wait handle)).1 =
            if request.isRacing then .failed .cancelled else request.stage.answer := by
  intro s
  have hnew : (Session.new service estimator budget : Session δ β σ ρ α ε).Tidy :=
    new_tidy service estimator budget
  have htidy : s.Tidy := hnew.steps svc ops
  have hpast : s.run.Past s.run.now := steps_past svc hnew nofun ops
  refine ⟨?_, ?_, ?_⟩
  · intro run hrun id
    exact abandon_givesUp svc (hrun.intact hnew.intact) id
  · intro id hfound
    exact ⟨step_cancel svc htidy hpast hfound, step_drop svc htidy hpast hfound,
      act_spawn svc hfound⟩
  · intro payload between hbetween id s'
    obtain ⟨hfound, hwanted⟩ := step_spawn svc htidy handle payload
    have hspawned := htidy.step svc (.spawn handle payload)
    have hsame : s' = ((s.step svc (.spawn handle payload)).2.steps svc between).2 := rfl
    have htidy' : s'.Tidy := hspawned.steps svc between
    have hpast' : s'.run.Past s'.run.now := steps_past svc hspawned (step_past svc htidy _) between
    have hfound' : s'.handles.lookup handle = some id := by
      rw [hsame]
      exact steps_lookup svc hfound fun op hop heq => absurd heq (hbetween op hop)
    have hwanted' : s'.run.Wanted id := by
      rw [hsame]
      exact steps_wanted svc hspawned hfound hwanted hbetween
    refine ⟨step_wait_wanted svc htidy' hfound' hwanted', ?_⟩
    obtain ⟨request, there, hkept⟩ := hwanted'
    exact ⟨request, there, hkept, fun later hlater =>
      steps_cancel_wait svc htidy' hpast' hfound' there hlater⟩

/-- Of two requests that are under way the first is given up while both its calls are in flight, and
a third is cancelled twice before somebody waits for it. -/
theorem cancellation_of_script :
    let script : Script :=
      ⟨[⟨50, .value, some "slow"⟩, ⟨40, .error, none⟩, ⟨30, .value, some "late"⟩],
        Script.defaultFallback⟩
    let s := ((Session.new script ⟨some (.ofMillis 10)⟩ ⟨⟩ :
      Session ConstantEstimator UnlimitedBudget Script String String String).steps Script.service
      [.spawn "a" "a", .sleep (.ofMillis 5), .spawn "b" "b", .sleep (.ofMillis 6)]).2
    let s' := (s.steps Script.service [.spawn "c" "c", .cancel "b"]).2
    (s.handles.lookup "a" = some 0 ∧ s.run.isRacing 0 = true ∧
      GivesUp Script.service s.run 0 (s.run.abandon 0) ∧
      s.step Script.service (.cancel "a") = (.done, { s with run := s.run.abandon 0 })) ∧
    ((s'.steps Script.service [.cancel "c", .sleep (.ofMillis 9), .cancel "c"]).2.step
      Script.service (.wait "c")).1 = .failed .cancelled := by
  intro script s s'
  obtain ⟨hgone, hhandle, -⟩ := cancellation Script.service script
    (⟨some (.ofMillis 10)⟩ : ConstantEstimator) (⟨⟩ : UnlimitedBudget)
    [.spawn "a" "a", .sleep (.ofMillis 5), .spawn "b" "b", .sleep (.ofMillis 6)] "a"
  obtain ⟨-, -, hwait⟩ := cancellation Script.service script
    (⟨some (.ofMillis 10)⟩ : ConstantEstimator) (⟨⟩ : UnlimitedBudget)
    [.spawn "a" "a", .sleep (.ofMillis 5), .spawn "b" "b", .sleep (.ofMillis 6)] "c"
  have hfound : s.handles.lookup "a" = some 0 := by decide
  have hreach := steps_reaches Script.service script
    (⟨some (.ofMillis 10)⟩ : ConstantEstimator) (⟨⟩ : UnlimitedBudget)
    [.spawn "a" "a", .sleep (.ofMillis 5), .spawn "b" "b", .sleep (.ofMillis 6)]
  refine ⟨⟨hfound, by decide, hgone s.run hreach 0, (hhandle 0 hfound).1⟩, ?_⟩
  obtain ⟨-, request, there, -, hanswer⟩ := hwait "c" [.cancel "b"] (by decide)
  have hthere : s'.run.requests[s.run.requests.length]? = some request := there
  have hracing : s'.run.isRacing s.run.requests.length = true := by decide +kernel
  rw [Run.isRacing_of_there hthere] at hracing
  have hsaid := hanswer [.sleep (.ofMillis 9), .cancel "c"] (by decide)
  rw [hracing] at hsaid
  exact hsaid

end Session

end Hedging
