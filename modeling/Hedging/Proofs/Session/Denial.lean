import Hedging.Proofs.Run.Refusals
import Hedging.Proofs.Session.Cancellation

/-!
# A hedge that is refused

A resolver whose budget is closed may read delays, set timers and ask for backups: for its users and
for the service behind it, it is a resolver that never hedges. `Session.mute` is the session as the
run muted, and every operation does the same to both (`step_mute`), so all that can be seen of one
(`Run.sight`), step by step, can be seen of the other.

> `denial_invisible`: with a closed budget every operation answers as without any hedging and leaves
> the same behind, no backup is sent, and the refusals are those requests that were unfinished when
> their timers were due.
-/

namespace Hedging

/-- What can be seen of a resolver and of the service behind it, apart from its refusals and from
estimator and budget: every call with what became of it, the state of the service, and what was fed
and counted. -/
structure Sight (σ ρ α ε : Type) where
  now : Instant
  service : σ
  calls : Ledger ρ α ε
  fed : Array Duration
  counters : Counters

/-- What can be seen of a run. -/
def Run.sight {δ β σ ρ α ε : Type} (run : Run δ β σ ρ α ε) : Sight σ ρ α ε :=
  ⟨run.now, run.service, run.calls, run.fed, run.counters.mute⟩

namespace Session

section Mute

variable {δ β β' σ ρ α ε : Type} {s : Session δ β σ ρ α ε} {budget : β'}

open Run (getElem?_mute abandon_mute)

/-! ## The session of a muted run -/

/-- The session as it would be if its requests had no delays. -/
def mute (budget : β') (s : Session δ β σ ρ α ε) : Session ConstantEstimator β' σ ρ α ε :=
  ⟨s.run.mute budget, s.handles, s.clones⟩

theorem answerOf_mute (budget : β') (run : Run δ β σ ρ α ε) (id : RequestId) :
    answerOf (run.mute budget) id = answerOf run id := by
  unfold answerOf
  rw [getElem?_mute]
  cases run.requests[id]? with
  | none => rfl
  | some request =>
    show request.stage.mute.answer = request.stage.answer
    cases request.stage <;> rfl

theorem dropHandle_mute (budget : β') (s : Session δ β σ ρ α ε) (handle : String) :
    (s.mute budget).dropHandle handle = (s.dropHandle handle).mute budget := by
  cases hfound : s.handles.lookup handle with
  | none =>
    have hfound' : (s.mute budget).handles.lookup handle = none := hfound
    rw [dropHandle_of_none hfound, dropHandle_of_none hfound']
  | some id =>
    have hfound' : (s.mute budget).handles.lookup handle = some id := hfound
    rw [dropHandle_of_some hfound, dropHandle_of_some hfound']
    unfold mute forget
    simp only [abandon_mute]

/-- The answers of the operations, each with what can be seen after it. -/
def trace [DelayEstimator δ] [AdmissionBudget β] (svc : Service σ ρ α ε)
    (s : Session δ β σ ρ α ε) : List (SessionOp ρ) → List (SessionAnswer α ε × Sight σ ρ α ε)
  | [] => []
  | op :: ops =>
    let (answer, s) := s.step svc op
    (answer, s.run.sight) :: s.trace svc ops

/-- A budget after an operation that sends no backup: a request funds it. -/
def fundedBy [AdmissionBudget β'] (budget : β') : SessionOp ρ → β'
  | .resolve .. | .resolveDetailed .. | .spawn .. => AdmissionBudget.fund budget
  | _ => budget

end Mute

section Closed

variable {δ β' σ ρ α ε : Type} [DelayEstimator δ] [AdmissionBudget β'] {svc : Service σ ρ α ε}
  {s : Session δ ClosedBudget σ ρ α ε} {budget : β'}

open Run (Prompt Refusals Leads Regular leads_start passTo_mute await_mute abandon_mute start_mute
  isRacing_mute)

/-! ## Step by step -/

omit [AdmissionBudget β'] in
/-- A new request is prompt like all others. -/
theorem start_prompt (svc : Service σ ρ α ε) {run : Run δ ClosedBudget σ ρ α ε} (hs : run.Sound)
    (hp : run.Prompt) (payload : ρ) (inPlace : Bool) : (run.start svc payload inPlace).Prompt :=
  (leads_start svc run payload inPlace).prompt_of_regular hs hp

omit [AdmissionBudget β'] in
theorem le_limit (now : Instant) (timeout : Option Duration) (t : Instant)
    (h : timeout.map now.within = some t) : now ≤ t := by
  obtain ⟨d, -, rfl⟩ := Option.map_eq_some_iff.mp h
  exact Nat.le_add_right ..

theorem resolveIn_mute (svc : Service σ ρ α ε) (budget : β') {run : Run δ ClosedBudget σ ρ α ε}
    (h : run.Intact) (hp : run.Prompt) (payload : ρ) (timeout : Option Duration) :
    resolveIn svc (run.mute budget) payload timeout =
      ((resolveIn svc run payload timeout).1,
        (resolveIn svc run payload timeout).2.mute (AdmissionBudget.fund budget)) := by
  have hstart := (leads_start svc run payload true).reaches.intact h
  have hlength : (run.mute budget).requests.length = run.requests.length := List.length_map ..
  have hnow : (run.mute budget).now = run.now := rfl
  -- the limit lies ahead, so the clock of the muted run does not stay behind it
  have hlimit : ∀ t, timeout.map run.now.within = some t →
      (run.start svc payload true).now ≤ t := le_limit run.now timeout
  have hawait : ((run.start svc payload true).mute (AdmissionBudget.fund budget)).await svc
      run.requests.length (timeout.map run.now.within) = _ :=
    await_mute svc _ hstart.sound (start_prompt svc h.sound hp payload true) hlimit
      fun _ => Run.await_ends svc hstart _
  unfold resolveIn
  simp only [hlength, hnow, start_mute, hawait, answerOf_mute, isRacing_mute]
  split
  · rw [abandon_mute]
  · rfl

/-- Every operation does the same to the muted session. -/
theorem act_mute (svc : Service σ ρ α ε) (budget : β') (h : s.Tidy) (hp : s.run.Prompt)
    (op : SessionOp ρ) :
    (s.mute budget).act svc op = ((s.act svc op).1, (s.act svc op).2.mute (fundedBy budget op)) := by
  cases op with
  | resolve payload timeout =>
    have hsame := resolveIn_mute svc budget h.intact hp payload timeout
    exact congrArg (fun made => (made.1.withoutDetails, { s.mute budget with run := made.2 })) hsame
  | resolveDetailed payload timeout =>
    have hsame := resolveIn_mute svc budget h.intact hp payload timeout
    exact congrArg (fun made => (made.1, { s.mute budget with run := made.2 })) hsame
  | spawn handle payload =>
    have hlength : ((s.dropHandle handle).mute budget).run.requests.length =
        (s.dropHandle handle).run.requests.length := List.length_map ..
    have hstart : ((s.dropHandle handle).mute budget).run.start svc payload false = _ :=
      start_mute svc budget (s.dropHandle handle).run payload false
    unfold act
    simp only [dropHandle_mute, hlength, hstart]
    rfl
  | wait handle =>
    cases hfound : s.handles.lookup handle with
    | none =>
      have hfound' : (s.mute budget).handles.lookup handle = none := hfound
      simp only [act, hfound, hfound']
      rfl
    | some id =>
      have hfound' : (s.mute budget).handles.lookup handle = some id := hfound
      -- without a limit the wait comes to an end, so the clocks agree after it
      have hlimit : ∀ t, (none : Option Instant) = some t → s.run.now ≤ t := fun _ hnone => by
        cases hnone
      have hawait : (s.mute budget).run.await svc id none = _ :=
        await_mute svc budget h.intact.sound hp hlimit fun _ => Run.await_ends svc h.intact id
      simp only [act, hfound, hfound', hawait, answerOf_mute]
      rfl
  | cancel handle =>
    cases hfound : s.handles.lookup handle with
    | none =>
      have hfound' : (s.mute budget).handles.lookup handle = none := hfound
      simp only [act, hfound, hfound']
      rfl
    | some id =>
      have hfound' : (s.mute budget).handles.lookup handle = some id := hfound
      have habandon : (s.mute budget).run.abandon id = _ := abandon_mute budget s.run id
      simp only [act, hfound, hfound', habandon]
      rfl
  | drop handle =>
    unfold act
    simp only [dropHandle_mute]
    rfl
  | sleep d =>
    have hpass : (s.mute budget).run.passTo svc ((s.mute budget).run.now.after d) = _ :=
      passTo_mute svc budget h.intact.sound hp (Instant.le_after ..)
    unfold act
    simp only [hpass]
    rfl
  | clone => rfl

omit [AdmissionBudget β'] in
theorem act_prompt (svc : Service σ ρ α ε) (h : s.Tidy) (hp : s.run.Prompt) (op : SessionOp ρ) :
    (s.act svc op).2.run.Prompt :=
  (act_leads svc h.intact.sound op).prompt_of_regular h.intact.sound hp

omit [AdmissionBudget β'] in
theorem step_prompt (svc : Service σ ρ α ε) (h : s.Tidy) (hp : s.run.Prompt) (op : SessionOp ρ) :
    (s.step svc op).2.run.Prompt :=
  (step_leads svc h.intact.sound op).prompt_of_regular h.intact.sound hp

/-- **Step by step a session does the same when it is muted.** -/
theorem step_mute (svc : Service σ ρ α ε) (budget : β') (h : s.Tidy) (hp : s.run.Prompt)
    (op : SessionOp ρ) :
    (s.mute budget).step svc op =
      ((s.step svc op).1, (s.step svc op).2.mute (fundedBy budget op)) := by
  have hflush : ((s.act svc op).2.mute (fundedBy budget op)).run.passTo svc
      (s.act svc op).2.run.now = _ :=
    passTo_mute svc _ (h.act svc op).intact.sound (act_prompt svc h hp op) (Nat.le_refl _)
  unfold step
  rw [act_mute svc budget h hp op]
  unfold flush
  exact congrArg (fun run => ((s.act svc op).1,
    { (s.act svc op).2.mute (fundedBy budget op) with run })) hflush

/-- What can be seen of a muted session, step by step, can be seen of the session. -/
theorem trace_mute (svc : Service σ ρ α ε) (budget : β') (h : s.Tidy) (hp : s.run.Prompt)
    (ops : List (SessionOp ρ)) : (s.mute budget).trace svc ops = s.trace svc ops := by
  induction ops generalizing s budget with
  | nil => rfl
  | cons op rest ih =>
    have hrest := ih (fundedBy budget op) (h.step svc op) (step_prompt svc h hp op)
    unfold trace
    rw [step_mute svc budget h hp op]
    exact congrArg (((s.step svc op).1, (s.step svc op).2.run.sight) :: ·) hrest

end Closed

section Refused

variable {δ σ ρ α ε : Type} {svc : Service σ ρ α ε} {s : Session δ ClosedBudget σ ρ α ε}

open Run (Prompt Refusals leads_start timer_mem_pending lt_of_await_racing)

/-! ## What is refused -/

/-- What is given up between operations has no timer that is due. -/
theorem abandon_refusals (h : s.run.Refusals) (hpast : s.run.Past s.run.now) (id : RequestId) :
    (s.run.abandon id).Refusals :=
  h.abandon fun _ _ _ there racing armed set =>
    hpast _ (timer_mem_pending there racing armed set)

theorem dropHandle_refusals (h : s.run.Refusals) (hpast : s.run.Past s.run.now)
    (handle : String) : (s.dropHandle handle).run.Refusals := by
  unfold dropHandle
  split
  · exact h
  next id _ => exact abandon_refusals h hpast id

variable [DelayEstimator δ]

/-- A request whose time is over is given up after its timer, if that was due by then. -/
theorem resolveIn_refusals (svc : Service σ ρ α ε) {run : Run δ ClosedBudget σ ρ α ε}
    (h : run.Refusals) (hi : run.Intact) (hp : run.Prompt) (payload : ρ)
    (timeout : Option Duration) : (resolveIn svc run payload timeout).2.Refusals := by
  have hstart := (leads_start svc run payload true).reaches.intact hi
  have hawait := (h.start svc payload true).await svc hstart.sound
    (start_prompt svc hi.sound hp payload true) run.requests.length (timeout.map run.now.within)
  unfold resolveIn
  simp only
  split
  next hracing =>
    refine hawait.abandon fun request race due there racing armed set => ?_
    cases timeout with
    | none => exact absurd hracing (Bool.eq_false_iff.mp (Run.await_ends svc hstart _))
    | some d =>
      have hle : (run.start svc payload true).now ≤ run.now.within d := Nat.le_add_right ..
      exact lt_of_await_racing svc hstart.sound hle hracing there racing armed set
  next => exact hawait

theorem act_refusals (svc : Service σ ρ α ε) (h : s.run.Refusals) (ht : s.Tidy)
    (hp : s.run.Prompt) (hpast : s.run.Past s.run.now) (op : SessionOp ρ) :
    (s.act svc op).2.run.Refusals := by
  cases op with
  | resolve payload timeout => exact resolveIn_refusals svc h ht.intact hp payload timeout
  | resolveDetailed payload timeout => exact resolveIn_refusals svc h ht.intact hp payload timeout
  | spawn handle payload => exact (dropHandle_refusals h hpast handle).start svc payload false
  | wait handle =>
    cases hfound : s.handles.lookup handle with
    | none =>
      simp only [act, hfound]
      exact h
    | some id =>
      simp only [act, hfound]
      exact h.await svc ht.intact.sound hp id none
  | cancel handle =>
    cases hfound : s.handles.lookup handle with
    | none =>
      simp only [act, hfound]
      exact h
    | some id =>
      simp only [act, hfound]
      exact abandon_refusals h hpast id
  | drop handle => exact dropHandle_refusals h hpast handle
  | sleep d => exact h.passTo svc ht.intact.sound hp _
  | clone => exact h

theorem steps_refusals (svc : Service σ ρ α ε) (h : s.run.Refusals) (ht : s.Tidy)
    (hp : s.run.Prompt) (hpast : s.run.Past s.run.now) (ops : List (SessionOp ρ)) :
    (s.steps svc ops).2.run.Refusals := by
  induction ops generalizing s with
  | nil => exact h
  | cons op rest ih =>
    have hact := act_refusals svc h ht hp hpast op
    have hstep : (s.step svc op).2.run.Refusals :=
      hact.passTo svc (ht.act svc op).intact.sound (act_prompt svc ht hp op) _
    exact ih hstep (ht.step svc op) (step_prompt svc ht hp op) (step_past svc ht op)

end Refused

variable {δ β' σ ρ α ε : Type} [DelayEstimator δ] [AdmissionBudget β']

/-- **A hedge that is refused is invisible.**

Of a resolver whose budget is closed and of one that never hedges, whatever its budget, the same can
be seen step by step: what every operation answers, the clock, the service, the calls and what became
of them, the samples and all counters but the refusals. No backup is ever sent, and what is refused
are the requests that had not ended, and had not been given up, when their timers were due. -/
theorem denial_invisible (svc : Service σ ρ α ε) (service : σ) (estimator : δ) (budget : β')
    (ops : List (SessionOp ρ)) :
    let closed : Session δ ClosedBudget σ ρ α ε := .new service estimator ⟨⟩
    let never : Session ConstantEstimator β' σ ρ α ε := .new service .never budget
    let run := (closed.steps svc ops).2.run
    closed.trace svc ops = never.trace svc ops ∧
      run.counters.backupsIssued = 0 ∧
      run.counters.backupsDenied = run.requests.countP (·.outlastsTimer run.now) := by
  intro closed never run
  have htidy : closed.Tidy := new_tidy service estimator _
  have hprompt : closed.run.Prompt := Run.new_prompt service estimator _
  have hpast : closed.run.Past closed.run.now := nofun
  have hrefusals : run.Refusals :=
    steps_refusals svc (Run.new_refusals service estimator) htidy hprompt hpast ops
  have hmuted : closed.mute budget = never := rfl
  refine ⟨?_, hrefusals.issued, ?_⟩
  · rw [← hmuted]
    exact (trace_mute svc budget htidy hprompt ops).symm
  · exact hrefusals.denied_eq (steps_past svc htidy hpast ops)

end Session

end Hedging
