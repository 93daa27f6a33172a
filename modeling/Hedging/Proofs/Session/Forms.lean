import Hedging.Proofs.Run.ClosedForm
import Hedging.Proofs.Run.Detached
import Hedging.Proofs.Session.Cancellation

/-!
# The ways of making a request

A request can be made in place, with or without its details, or spawned under a handle that is waited
for. All of these come to the same for whoever made the request and for everybody after it: the runs
that they leave behind differ in nothing but the flag that says who has driven the request
(`Session.detach`), and nothing that is done later can tell (`steps_detach`). So it is with a limit on
the time, which either makes no difference or comes to a handle that is dropped.

> `forms_agree`: in place or spawned, a request that no other event ties with has the same answer and
> the same consequences.
> `forms_differ_on_ties`: with two events on one instant, who drives the request decides which of them
> comes first.
-/

namespace Hedging

namespace Run

variable {δ β σ ρ α ε : Type} [DelayEstimator δ] [AdmissionBudget β] {svc : Service σ ρ α ε}
  {run later : Run δ β σ ρ α ε} {id : RequestId} {t : Instant} {limit : Option Instant}
  {payload : ρ}

/-! ## Waiting for a request in a task of its own -/

theorem Undisturbed.passTo_detach (h : Undisturbed svc run id limit) (hs : run.Sound)
    (hlt : id < run.requests.length)
    (ht : ∀ due : Due, due.noLaterThan (some t) = true → due.noLaterThan limit = true) :
    (run.detach id).passTo svc t = (run.passTo svc t).detach id := by
  have hdrive : (run.detach id).drive svc (Due.noLaterThan (some t)) (fun _ => true) =
      (run.drive svc (Due.noLaterThan (some t)) fun _ => true).detach id :=
    h.drive_detach hs hlt ht (fun due due' heq => by unfold Due.noLaterThan; rw [heq]) fun _ => rfl
  unfold passTo
  rw [hdrive]
  rfl

theorem Undisturbed.await_detach (h : Undisturbed svc run id none) (hs : run.Sound)
    (hlt : id < run.requests.length) :
    (run.detach id).await svc id none = (run.await svc id none).detach id := by
  rw [await_none, await_none]
  exact h.drive_detach hs hlt (fun _ _ => rfl) (fun _ _ _ => rfl) fun run => isRacing_detach id run id

theorem passTo_detach_of_ended (svc : Service σ ρ α ε) (hs : run.Sound)
    (hlt : id < run.requests.length) (hended : run.isRacing id = false) (t : Instant) :
    (run.detach id).passTo svc t = (run.passTo svc t).detach id := by
  unfold passTo
  rw [drive_detach_of_ended svc hs hlt hended _ fun _ => rfl]
  rfl

theorem await_detach_of_ended (svc : Service σ ρ α ε) (hs : run.Sound)
    (hlt : id < run.requests.length) (hended : run.isRacing id = false) (i : RequestId)
    (limit : Option Instant) :
    (run.detach id).await svc i limit = (run.await svc i limit).detach id := by
  unfold await
  simp only
  rw [drive_detach_of_ended svc hs hlt hended _ fun run => isRacing_detach id run i, isRacing_detach]
  split
  · cases limit <;> rfl
  · rfl

/-- A request in a task of its own, up to its end: the task begins at once, and somebody waits for
it. -/
theorem Undisturbed.await_spawned (h : Undisturbed svc run id none) (hs : run.Sound)
    (hlt : id < run.requests.length) (hended : (run.await svc id none).isRacing id = false) :
    let waited := ((run.detach id).passTo svc run.now).await svc id none
    let direct := run.await svc id none
    waited.requests[id]? = (direct.detach id).requests[id]? ∧
      waited.passTo svc waited.now = (direct.passTo svc direct.now).detach id := by
  intro waited direct
  have hbegun := passTo_leads svc hs run.now
  have hbegun_lt := hbegun.lt_length hs hlt
  have hundisturbed : Undisturbed svc (run.passTo svc run.now) id none := by
    rw [passTo_now svc hs]
    exact h.drive hs hlt fun _ _ => rfl
  have hwaited : waited = ((run.passTo svc run.now).await svc id none).detach id := by
    show ((run.detach id).passTo svc run.now).await svc id none = _
    rw [h.passTo_detach hs hlt fun _ _ => rfl,
      hundisturbed.await_detach (hbegun.sound hs) hbegun_lt]
  obtain ⟨hrequest, hrest⟩ := await_passTo_now svc hs hlt
  have hawait := await_leads svc (hbegun.sound hs) id none
  have hover : ((run.passTo svc run.now).await svc id none).isRacing id = false := by
    unfold isRacing at hended ⊢
    rw [hrequest]
    exact hended
  constructor
  · rw [hwaited, getElem?_detach, getElem?_detach, hrequest]
  · have hpass := passTo_detach_of_ended svc (hawait.sound (hbegun.sound hs))
      (hawait.lt_length (hbegun.sound hs) hbegun_lt) hover
      ((run.passTo svc run.now).await svc id none).now
    rw [hwaited]
    exact hpass.trans (congrArg (detach id) hrest)

/-- A request in a task of its own that is given up at `t`, while it is still racing. -/
theorem Undisturbed.abandon_spawned (h : Undisturbed svc run id (some t)) (hs : run.Sound)
    (hlt : id < run.requests.length) (hnow : run.now ≤ t) :
    (((run.detach id).passTo svc run.now).passTo svc t).abandon id =
      ((run.passTo svc t).abandon id).detach id := by
  have hwithin : ∀ due : Due, due.noLaterThan (some run.now) = true →
      due.noLaterThan (some t) = true := fun due hdue =>
    decide_eq_true (Nat.le_trans (le_of_noLaterThan hdue) hnow)
  have hbegun := passTo_leads svc hs run.now
  have hundisturbed : Undisturbed svc (run.passTo svc run.now) id (some t) := by
    rw [passTo_now svc hs]
    exact h.drive hs hlt hwithin
  rw [h.passTo_detach hs hlt hwithin,
    hundisturbed.passTo_detach (hbegun.sound hs) (hbegun.lt_length hs hlt) fun _ h => h,
    passTo_passTo svc hs hnow, abandon_detach]

/-! ## A new request -/

theorem lt_length_start (svc : Service σ ρ α ε) (run : Run δ β σ ρ α ε) (payload : ρ)
    (inPlace : Bool) : run.requests.length < (run.start svc payload inPlace).requests.length := by
  show _ < (run.requests ++ [_]).length
  rw [List.length_append]
  exact Nat.lt_succ_self _

theorem start_isRacing (svc : Service σ ρ α ε) (run : Run δ β σ ρ α ε) (payload : ρ)
    (inPlace : Bool) : (run.start svc payload inPlace).isRacing run.requests.length = true := by
  unfold isRacing
  show ((run.requests ++ [_])[run.requests.length]?).any _ = true
  rw [List.getElem?_concat_length]
  rfl

theorem Along.uncut {moves : List (Move ρ)} (h : Along svc Regular run moves) (id : RequestId)
    (branch : Branch) : .cut id branch ∉ moves := by
  induction moves generalizing run with
  | nil => exact List.not_mem_nil
  | cons m rest ih =>
    rw [List.mem_cons, not_or]
    exact ⟨fun heq => h.1.2 id branch heq.symm, ih h.2⟩

/-- A request races for no longer than a timer can be set ahead. -/
theorem now_le_of_racing (hs : run.Sound) {inPlace : Bool}
    (hr : Leads svc Regular (run.start svc payload inPlace) later)
    (hracing : later.isRacing run.requests.length = true) :
    later.now ≤ run.now + Instant.farOff := by
  obtain ⟨moves, hmoves, rfl⟩ := hr
  have hcourse := (start_course svc run payload inPlace).play (hs.start svc payload inPlace)
    (hmoves.mono fun _ _ h => h.1) fun branch => hmoves.uncut _ branch
  exact Nat.le_trans (hcourse.now_le hracing) (Instant.after_le ..)

end Run

namespace Session

variable {δ β σ ρ α ε : Type}

/-- The session in which a request has a task of its own. -/
def detach (id : RequestId) (s : Session δ β σ ρ α ε) : Session δ β σ ρ α ε :=
  { s with run := s.run.detach id }

theorem answerOf_detach (id : RequestId) (run : Run δ β σ ρ α ε) (i : RequestId) :
    answerOf (run.detach id) i = answerOf run i := by
  unfold answerOf
  rw [Run.getElem?_detach]
  cases run.requests[i]? with
  | none => rfl
  | some request =>
    show (if id = i then _ else request).stage.answer = request.stage.answer
    split <;> rfl

theorem dropHandle_detach (id : RequestId) (s : Session δ β σ ρ α ε) (handle : String) :
    (s.detach id).dropHandle handle = (s.dropHandle handle).detach id := by
  cases hfound : s.handles.lookup handle with
  | none =>
    have hfound' : (s.detach id).handles.lookup handle = none := hfound
    rw [dropHandle_of_none hfound, dropHandle_of_none hfound']
  | some i =>
    have hfound' : (s.detach id).handles.lookup handle = some i := hfound
    rw [dropHandle_of_some hfound, dropHandle_of_some hfound']
    unfold detach forget
    simp only
    rw [Run.abandon_detach]

variable [DelayEstimator δ] [AdmissionBudget β] {svc : Service σ ρ α ε}
  {s : Session δ β σ ρ α ε} {id : RequestId} {handle : String} {payload : ρ}

/-! ## After a request has ended -/

theorem resolveIn_detach (svc : Service σ ρ α ε) {run : Run δ β σ ρ α ε} (hs : run.Sound)
    (hlt : id < run.requests.length) (hended : run.isRacing id = false) (payload : ρ)
    (timeout : Option Duration) :
    resolveIn svc (run.detach id) payload timeout =
      ((resolveIn svc run payload timeout).1, (resolveIn svc run payload timeout).2.detach id) := by
  have hstart := Run.leads_start svc run payload true
  have hlength : (run.detach id).requests.length = run.requests.length := List.length_modify ..
  have hawait := Run.await_detach_of_ended svc (hstart.sound hs) (hstart.lt_length hs hlt)
    (hstart.ended hs hlt hended).2 run.requests.length (timeout.map run.now.within)
  have hnow : (run.detach id).now = run.now := rfl
  unfold resolveIn
  simp only
  rw [hlength, hnow, Run.start_detach svc hlt, hawait, answerOf_detach, Run.isRacing_detach,
    Run.abandon_detach]
  split <;> rfl

/-- **Nothing that is done later tells who has driven a request that has ended.** -/
theorem act_detach (svc : Service σ ρ α ε) (hs : s.run.Sound) (hlt : id < s.run.requests.length)
    (hended : s.run.isRacing id = false) (op : SessionOp ρ) :
    (s.detach id).act svc op = ((s.act svc op).1, (s.act svc op).2.detach id) := by
  cases op with
  | resolve payload timeout =>
    have hresolve := resolveIn_detach svc hs hlt hended payload timeout
    exact congrArg (fun p => (p.1.withoutDetails, ({ s with run := p.2 } : Session δ β σ ρ α ε)))
      hresolve
  | resolveDetailed payload timeout =>
    have hresolve := resolveIn_detach svc hs hlt hended payload timeout
    exact congrArg (fun p => (p.1, ({ s with run := p.2 } : Session δ β σ ρ α ε))) hresolve
  | spawn handle payload =>
    have hdrop := (dropHandle_leads svc s handle).lt_length hs hlt
    have hlength : ((s.dropHandle handle).run.detach id).requests.length =
        (s.dropHandle handle).run.requests.length := List.length_modify ..
    have hact : (s.detach id).act svc (.spawn handle payload) =
        (.done, { (s.detach id).dropHandle handle with
          run := ((s.detach id).dropHandle handle).run.start svc payload false
          handles := (handle, ((s.detach id).dropHandle handle).run.requests.length) ::
            ((s.detach id).dropHandle handle).handles }) := rfl
    rw [hact, dropHandle_detach]
    show (_, Session.mk (((s.dropHandle handle).run.detach id).start svc payload false)
      ((handle, ((s.dropHandle handle).run.detach id).requests.length) :: _) _) = _
    rw [Run.start_detach svc hdrop, hlength]
    rfl
  | wait handle =>
    cases hfound : s.handles.lookup handle with
    | none =>
      have hfound' : (s.detach id).handles.lookup handle = none := hfound
      simp only [act, hfound, hfound']
    | some i =>
      have hfound' : (s.detach id).handles.lookup handle = some i := hfound
      have hawait : (s.detach id).run.await svc i none = (s.run.await svc i none).detach id :=
        Run.await_detach_of_ended svc hs hlt hended i none
      simp only [act, hfound, hfound']
      rw [hawait, answerOf_detach]
      rfl
  | cancel handle =>
    cases hfound : s.handles.lookup handle with
    | none =>
      have hfound' : (s.detach id).handles.lookup handle = none := hfound
      simp only [act, hfound, hfound']
    | some i =>
      have hfound' : (s.detach id).handles.lookup handle = some i := hfound
      have habandon : (s.detach id).run.abandon i = (s.run.abandon i).detach id :=
        Run.abandon_detach id s.run i
      simp only [act, hfound, hfound']
      rw [habandon]
      rfl
  | drop handle =>
    show (_, (s.detach id).dropHandle handle) = _
    rw [dropHandle_detach]
    rfl
  | sleep d =>
    have hpass := Run.passTo_detach_of_ended svc hs hlt hended (s.run.now.after d)
    exact congrArg (fun run => (SessionAnswer.done, ({ s with run } : Session δ β σ ρ α ε))) hpass
  | clone => rfl

theorem step_detach (svc : Service σ ρ α ε) (hs : s.run.Sound) (hlt : id < s.run.requests.length)
    (hended : s.run.isRacing id = false) (op : SessionOp ρ) :
    (s.detach id).step svc op = ((s.step svc op).1, (s.step svc op).2.detach id) := by
  have hact := act_leads svc hs op
  have hpass := Run.passTo_detach_of_ended svc (hact.sound hs) (hact.lt_length hs hlt)
    (hact.ended hs hlt hended).2 (s.act svc op).2.run.now
  unfold step
  rw [act_detach svc hs hlt hended]
  exact congrArg (fun run => ((s.act svc op).1, ({ (s.act svc op).2 with run } : Session δ β σ ρ α ε)))
    hpass

/-- Whatever is done after a request has ended, it makes no difference who has driven it. -/
theorem steps_detach (svc : Service σ ρ α ε) (hs : s.run.Sound) (hlt : id < s.run.requests.length)
    (hended : s.run.isRacing id = false) (ops : List (SessionOp ρ)) :
    (s.detach id).steps svc ops = ((s.steps svc ops).1, (s.steps svc ops).2.detach id) := by
  induction ops generalizing s with
  | nil => rfl
  | cons op rest ih =>
    have hstep := step_leads svc hs op
    have hrest := ih (hstep.sound hs) (hstep.lt_length hs hlt) (hstep.ended hs hlt hended).2
    unfold steps
    rw [step_detach svc hs hlt hended]
    simp only
    rw [hrest]

/-! ## In place -/

/-- A request made in place without a limit. -/
theorem step_resolve (svc : Service σ ρ α ε) (h : s.Tidy) (payload : ρ) :
    let waited := (s.run.start svc payload true).await svc s.run.requests.length none
    s.step svc (.resolveDetailed payload none) =
      (answerOf waited s.run.requests.length,
        { s with run := waited.passTo svc waited.now }) ∧
    waited.isRacing s.run.requests.length = false ∧
    ∃ request, waited.requests[s.run.requests.length]? = some request ∧
      request.stage.EndedAt waited.now := by
  intro waited
  have hstart := (Run.leads_start svc s.run payload true).reaches.intact h.intact
  have hended : waited.isRacing s.run.requests.length = false :=
    Run.await_ends svc hstart s.run.requests.length
  have hracing := Run.start_isRacing svc s.run payload true
  refine ⟨?_, hended, Run.await_endedAt svc hstart.sound hracing hended⟩
  have hact : s.act svc (.resolveDetailed payload none) =
      (answerOf waited s.run.requests.length, { s with
        run := if waited.isRacing s.run.requests.length then
          waited.abandon s.run.requests.length else waited }) := rfl
  unfold step flush
  rw [hact, hended]
  rfl

/-! ## Spawned -/

theorem step_spawn_fresh (svc : Service σ ρ α ε) (hfresh : s.handles.lookup handle = none)
    (payload : ρ) :
    let spawned := s.run.start svc payload false
    s.step svc (.spawn handle payload) =
      (.done, { s with
        run := spawned.passTo svc spawned.now
        handles := (handle, s.run.requests.length) :: s.handles }) := by
  intro spawned
  have hact : s.act svc (.spawn handle payload) =
      (.done, { s with
        run := spawned
        handles := (handle, s.run.requests.length) :: s.handles }) := by
    show (_, { s.dropHandle handle with
      run := (s.dropHandle handle).run.start svc payload false
      handles := (handle, (s.dropHandle handle).run.requests.length) ::
        (s.dropHandle handle).handles }) = _
    rw [dropHandle_of_none hfresh]
  unfold step flush
  rw [hact]

/-- To wait for the handle that was spawned last gives it up again. -/
theorem step_wait_last (svc : Service σ ρ α ε) (hfresh : s.handles.lookup handle = none)
    (run : Run δ β σ ρ α ε) (id : RequestId) :
    let waited := run.await svc id none
    ({ s with run, handles := (handle, id) :: s.handles } : Session δ β σ ρ α ε).step svc
      (.wait handle) =
      (answerOf waited id, { s with run := waited.passTo svc waited.now }) := by
  intro waited
  have hfound : ((handle, id) :: s.handles).lookup handle = some id := List.lookup_cons_self
  have hrest : ((handle, id) :: s.handles).filter (·.1 != handle) = s.handles := by
    rw [List.filter_cons_of_neg (by simp), filter_of_lookup hfresh]
  unfold step flush act forget
  simp only [hfound, hrest]
  rfl

/-- **To spawn a request and wait for it is to make it in place**, if no other event ties with one of
its own. -/
theorem steps_spawn_wait (svc : Service σ ρ α ε) (h : s.Tidy)
    (hfresh : s.handles.lookup handle = none)
    (hundisturbed : Run.Undisturbed svc (s.run.start svc payload true) s.run.requests.length none) :
    s.steps svc [.spawn handle payload, .wait handle] =
      ([.done, (s.step svc (.resolveDetailed payload none)).1],
        (s.step svc (.resolveDetailed payload none)).2.detach s.run.requests.length) := by
  have hs := (Run.leads_start svc s.run payload true).sound h.intact.sound
  obtain ⟨hresolve, hended, -⟩ := step_resolve svc h payload
  have hspawn := step_spawn_fresh svc hfresh payload
  rw [← Run.start_detach_new] at hspawn
  have hlt := Run.lt_length_start svc s.run payload true
  generalize s.run.start svc payload true = start at *
  generalize hid : s.run.requests.length = id at *
  obtain ⟨hrequest, hrest⟩ := hundisturbed.await_spawned hs hlt hended
  have hwait := step_wait_last svc hfresh ((start.detach id).passTo svc start.now) id
  have hanswer : answerOf (((start.detach id).passTo svc start.now).await svc id none) id =
      answerOf (start.await svc id none) id := by
    rw [← answerOf_detach id (start.await svc id none)]
    unfold answerOf
    rw [hrequest]
  have hsteps : s.steps svc [.spawn handle payload, .wait handle] =
      ([(s.step svc (.spawn handle payload)).1,
        ((s.step svc (.spawn handle payload)).2.step svc (.wait handle)).1],
        ((s.step svc (.spawn handle payload)).2.step svc (.wait handle)).2) := rfl
  have hspawned : (s.step svc (.spawn handle payload)).2 =
      { s with run := (start.detach id).passTo svc start.now, handles := (handle, id) :: s.handles } :=
    congrArg Prod.snd hspawn
  have hdone : (s.step svc (.spawn handle payload)).1 = .done := congrArg Prod.fst hspawn
  rw [hsteps, hdone, hspawned, hwait, hresolve, hanswer, hrest]
  rfl

/-! ## With a limit on the time -/

/-- The clock of a session that has made a request in place stands where the request ended. -/
theorem now_resolve (svc : Service σ ρ α ε) (h : s.Tidy) (payload : ρ) :
    (s.step svc (.resolveDetailed payload none)).2.run.now =
      ((s.run.start svc payload true).await svc s.run.requests.length none).now := by
  have hs := (Run.leads_start svc s.run payload true).sound h.intact.sound
  have hawait := Run.await_leads svc hs s.run.requests.length none
  rw [(step_resolve svc h payload).1]
  exact Run.now_passTo svc (hawait.sound hs) (Nat.le_refl _)

/-- **A limit makes no difference to a request that ends before it.** -/
theorem step_resolve_of_lt (svc : Service σ ρ α ε) (h : s.Tidy) {timeout : Duration}
    (hlt : (s.step svc (.resolveDetailed payload none)).2.run.now < s.run.now.within timeout) :
    s.step svc (.resolveDetailed payload (some timeout)) =
      s.step svc (.resolveDetailed payload none) := by
  have hs := (Run.leads_start svc s.run payload true).sound h.intact.sound
  rw [now_resolve svc h] at hlt
  have hsame := Run.await_of_lt svc hs (step_resolve svc h payload).2.1 hlt
  have hact : s.act svc (.resolveDetailed payload (some timeout)) =
      s.act svc (.resolveDetailed payload none) := by
    exact congrArg (fun run => (answerOf run s.run.requests.length, ({ s with
      run := if run.isRacing s.run.requests.length then
        run.abandon s.run.requests.length else run } : Session δ β σ ρ α ε))) hsame
  unfold step
  rw [hact]

/-- A request that outlasts its limit is given up there. -/
theorem step_resolve_of_gt (svc : Service σ ρ α ε) (h : s.Tidy) {timeout : Duration}
    (hgt : s.run.now.within timeout < (s.step svc (.resolveDetailed payload none)).2.run.now) :
    s.step svc (.resolveDetailed payload (some timeout)) =
      (.timedOut, { s with
        run := ((s.run.start svc payload true).passTo svc
          (s.run.now.within timeout)).abandon s.run.requests.length }) := by
  have hstart := (Run.leads_start svc s.run payload true).reaches.intact h.intact
  have hnow : (s.run.start svc payload true).now ≤ s.run.now.within timeout := Nat.le_add_right ..
  rw [now_resolve svc h] at hgt
  obtain ⟨hawait, hracing⟩ := Run.await_of_gt svc hstart.sound hnow hgt
  have hpass := Run.passTo_leads svc hstart.sound (s.run.now.within timeout)
  refine step_of_act ?_ (Run.passTo_abandon svc (hpass.reaches.intact hstart)
    (Run.passTo_past_now svc hstart.sound hnow) _)
  have hact : s.act svc (.resolveDetailed payload (some timeout)) =
      (answerOf ((s.run.start svc payload true).passTo svc (s.run.now.within timeout))
        s.run.requests.length, { s with
        run := if ((s.run.start svc payload true).passTo svc
            (s.run.now.within timeout)).isRacing s.run.requests.length then
          ((s.run.start svc payload true).passTo svc
            (s.run.now.within timeout)).abandon s.run.requests.length
          else (s.run.start svc payload true).passTo svc (s.run.now.within timeout) }) :=
    congrArg (fun run => (answerOf run s.run.requests.length, ({ s with
      run := if run.isRacing s.run.requests.length then
        run.abandon s.run.requests.length else run } : Session δ β σ ρ α ε))) hawait
  have hanswer : answerOf ((s.run.start svc payload true).passTo svc (s.run.now.within timeout))
      s.run.requests.length = .timedOut := by
    obtain ⟨request, race, there, racing⟩ := Run.exists_race hracing
    rw [answerOf_of_there there, racing]
    rfl
  rw [hact, hanswer, if_pos hracing]

/-- A limit that a request outlasts can be slept through. -/
theorem after_eq_within (svc : Service σ ρ α ε) (h : s.Tidy) {timeout : Duration}
    (hgt : s.run.now.within timeout < (s.step svc (.resolveDetailed payload none)).2.run.now) :
    s.run.now.after timeout = s.run.now.within timeout := by
  have hs := (Run.leads_start svc s.run payload true).sound h.intact.sound
  have hnow : (s.run.start svc payload true).now ≤ s.run.now.within timeout := Nat.le_add_right ..
  rw [now_resolve svc h] at hgt
  obtain ⟨-, hracing⟩ := Run.await_of_gt svc hs hnow hgt
  have hle := Run.now_le_of_racing h.intact.sound (Run.passTo_leads svc hs _) hracing
  rw [Run.now_passTo svc hs hnow] at hle
  have hfar : timeout.millisUp ≤ Instant.farOff := Nat.le_of_add_le_add_left hle
  unfold Instant.after Instant.within
  rw [Nat.min_eq_left hfar]

theorem step_sleep (svc : Service σ ρ α ε) (h : s.Tidy) (d : Duration) :
    s.step svc (.sleep d) = (.done, { s with run := s.run.passTo svc (s.run.now.after d) }) :=
  step_of_act rfl (Run.passTo_now_of_past svc
    (Run.passTo_past_now svc h.intact.sound (Instant.le_after ..)))

/-- **To give a request up when its time is over is to spawn it, sleep as long and drop its handle.** -/
theorem steps_spawn_sleep_drop (svc : Service σ ρ α ε) (h : s.Tidy)
    (hfresh : s.handles.lookup handle = none) {timeout : Duration}
    (hgt : s.run.now.within timeout < (s.step svc (.resolveDetailed payload none)).2.run.now)
    (hundisturbed : Run.Undisturbed svc (s.run.start svc payload true) s.run.requests.length
      (some (s.run.now.within timeout))) :
    s.steps svc [.spawn handle payload, .sleep timeout, .drop handle] =
      ([.done, .done, .dropped true],
        (s.step svc (.resolveDetailed payload (some timeout))).2.detach s.run.requests.length) := by
  rw [step_resolve_of_gt svc h hgt]
  have hs := (Run.leads_start svc s.run payload true).sound h.intact.sound
  have hlt := Run.lt_length_start svc s.run payload true
  have hnow : (s.run.start svc payload true).now ≤ s.run.now.within timeout := Nat.le_add_right ..
  have habandon := hundisturbed.abandon_spawned hs hlt hnow
  have hspawn := step_spawn_fresh svc hfresh payload
  rw [← Run.start_detach_new] at hspawn
  -- the clock does not move while the task of the request begins
  have hclock : (s.step svc (.spawn handle payload)).2.run.now = s.run.now := by
    rw [hspawn]
    exact Run.now_passTo svc (hs.detach _) (Nat.le_refl _)
  have htidy := h.step svc (.spawn handle payload)
  have hsleep := step_sleep svc htidy timeout
  rw [hclock, after_eq_within svc h hgt] at hsleep
  have hfound : ((s.step svc (.spawn handle payload)).2.step svc (.sleep timeout)).2.handles.lookup
      handle = some s.run.requests.length := by
    rw [hsleep, hspawn]
    exact List.lookup_cons_self
  have hdrop := step_drop svc (htidy.step svc _) (step_past svc htidy (.sleep timeout)) hfound
  have hsteps : s.steps svc [.spawn handle payload, .sleep timeout, .drop handle] =
      ([(s.step svc (.spawn handle payload)).1,
        ((s.step svc (.spawn handle payload)).2.step svc (.sleep timeout)).1,
        (((s.step svc (.spawn handle payload)).2.step svc (.sleep timeout)).2.step svc
          (.drop handle)).1],
        (((s.step svc (.spawn handle payload)).2.step svc (.sleep timeout)).2.step svc
          (.drop handle)).2) := rfl
  rw [hsteps, hdrop, hsleep, hspawn]
  have hrest : ((handle, s.run.requests.length) :: s.handles).filter (·.1 != handle) =
      s.handles := by
    rw [List.filter_cons_of_neg (by simp), filter_of_lookup hfresh]
  unfold forget
  simp only [hrest]
  exact congrArg (fun run => (_, ({ s with run } : Session δ β σ ρ α ε))) habandon

/-! ## All forms agree -/

/-- Where a request made in place leads, it has ended, with or without a limit. -/
theorem resolved_ended (svc : Service σ ρ α ε) (h : s.Tidy) (payload : ρ)
    (timeout : Option Duration) :
    let after := (s.step svc (.resolveDetailed payload timeout)).2
    s.run.requests.length < after.run.requests.length ∧
      after.run.isRacing s.run.requests.length = false := by
  intro after
  have hs := (Run.leads_start svc s.run payload true).sound h.intact.sound
  have hlt := Run.lt_length_start svc s.run payload true
  have hact := act_leads svc h.intact.sound (.resolveDetailed payload timeout)
  have hover : (s.act svc (.resolveDetailed payload timeout)).2.run.isRacing
      s.run.requests.length = false := by
    show (resolveIn svc s.run payload timeout).2.isRacing _ = false
    unfold resolveIn
    simp only
    split
    · exact Run.isRacing_abandon ..
    next hnot => exact Bool.not_eq_true _ ▸ hnot
  have hmade : s.run.requests.length <
      (s.act svc (.resolveDetailed payload timeout)).2.run.requests.length := by
    have hawait := Run.await_leads svc hs s.run.requests.length (timeout.map s.run.now.within)
    have hlt' := hawait.lt_length hs hlt
    show _ < (resolveIn svc s.run payload timeout).2.requests.length
    unfold resolveIn
    simp only
    split
    · rw [Run.length_abandon]
      exact hlt'
    · exact hlt'
  have hflush := Run.passTo_leads svc (hact.sound h.intact.sound)
    (s.act svc (.resolveDetailed payload timeout)).2.run.now
  exact ⟨hflush.lt_length (hact.sound h.intact.sound) hmade,
    (hflush.ended (hact.sound h.intact.sound) hmade hover).2⟩

/-- **In place or spawned, a request is the same request**, wherever a session has got to, as long as
no other event falls on the instant of one of its own.

With or without its details it has the same consequences. Spawned under a fresh handle that is waited
for it ends at the same instant with the same answer, and nothing that is done later can tell the two
runs apart. A limit makes no difference to it if it ends before, and otherwise comes to a handle that
is dropped after as long a sleep. -/
theorem forms_agree (svc : Service σ ρ α ε) (service : σ) (estimator : δ) (budget : β)
    (before : List (SessionOp ρ)) (payload : ρ) (handle : String) :
    let s := ((Session.new service estimator budget : Session δ β σ ρ α ε).steps svc before).2
    let id := s.run.requests.length
    let inPlace := s.step svc (.resolveDetailed payload none)
    (∀ timeout, s.step svc (.resolve payload timeout) =
      ((s.step svc (.resolveDetailed payload timeout)).1.withoutDetails,
        (s.step svc (.resolveDetailed payload timeout)).2)) ∧
    (∃ request, inPlace.2.run.requests[id]? = some request ∧
      request.stage.EndedAt inPlace.2.run.now ∧ inPlace.1 = request.stage.answer) ∧
    (∀ timeout ops, let after := (s.step svc (.resolveDetailed payload timeout)).2
      (after.detach id).steps svc ops = ((after.steps svc ops).1, (after.steps svc ops).2.detach id)) ∧
    (s.handles.lookup handle = none → Run.Undisturbed svc (s.run.start svc payload true) id none →
      s.steps svc [.spawn handle payload, .wait handle] =
        ([.done, inPlace.1], inPlace.2.detach id)) ∧
    (∀ timeout, inPlace.2.run.now < s.run.now.within timeout →
      s.step svc (.resolveDetailed payload (some timeout)) = inPlace) ∧
    ∀ timeout, s.run.now.within timeout < inPlace.2.run.now → s.handles.lookup handle = none →
      Run.Undisturbed svc (s.run.start svc payload true) id (some (s.run.now.within timeout)) →
      (s.step svc (.resolveDetailed payload (some timeout))).1 = .timedOut ∧
        s.steps svc [.spawn handle payload, .sleep timeout, .drop handle] =
          ([.done, .done, .dropped true],
            (s.step svc (.resolveDetailed payload (some timeout))).2.detach id) := by
  intro s id inPlace
  have hnew : (Session.new service estimator budget : Session δ β σ ρ α ε).Tidy :=
    new_tidy service estimator budget
  have htidy : s.Tidy := hnew.steps svc before
  refine ⟨fun _ => rfl, ?_, ?_, ?_, ?_, ?_⟩
  · obtain ⟨hstep, hended, request, there, hstage⟩ := step_resolve svc htidy payload
    have hs := (Run.leads_start svc s.run payload true).sound htidy.intact.sound
    have hawait := Run.await_leads svc hs id none
    have hlt := hawait.lt_length hs (Run.lt_length_start svc s.run payload true)
    have hflush := Run.passTo_leads svc (hawait.sound hs)
      ((s.run.start svc payload true).await svc id none).now
    have hinPlace : inPlace = _ := hstep
    have hnow : inPlace.2.run.now = _ := now_resolve svc htidy payload
    refine ⟨request, ?_, ?_, ?_⟩
    · rw [hinPlace]
      exact (hflush.ended (hawait.sound hs) hlt hended).1.trans there
    · rw [hnow]
      exact hstage
    · rw [hinPlace]
      exact answerOf_of_there there
  · intro timeout ops after
    have hleads := step_leads svc htidy.intact.sound (.resolveDetailed payload timeout)
    obtain ⟨hlt, hended⟩ := resolved_ended svc htidy payload timeout
    exact steps_detach svc (hleads.sound htidy.intact.sound) hlt hended ops
  · exact steps_spawn_wait svc htidy
  · exact fun timeout => step_resolve_of_lt svc htidy
  · intro timeout hgt hfresh hundisturbed
    refine ⟨?_, steps_spawn_sleep_drop svc htidy hfresh hgt hundisturbed⟩
    rw [step_resolve_of_gt svc htidy hgt]

/-- A request that starts while another is under way, in place and spawned, with a limit that it keeps
and with one that it does not. -/
theorem forms_agree_of_script :
    let script : Script :=
      ⟨[⟨60, .value, some "patient"⟩, ⟨50, .value, some "slow"⟩, ⟨9, .error, none⟩,
        ⟨20, .value, some "fast"⟩], Script.defaultFallback⟩
    let s := ((Session.new script ⟨some (.ofMillis 10)⟩ (TokenBudget.new 1 2 5 4) :
      Session ConstantEstimator TokenBudget Script String String String).steps Script.service
      [.spawn "b" "b", .sleep (.ofMillis 3)]).2
    let id := s.run.requests.length
    let inPlace := s.step Script.service (.resolveDetailed "a" none)
    inPlace.1 = .detailed ⟨"fast", .backup, .ofMillis 30⟩ ∧ inPlace.2.run.now = 33 ∧
      s.steps Script.service [.spawn "a" "a", .wait "a"] =
        ([.done, inPlace.1], inPlace.2.detach id) ∧
      s.step Script.service (.resolveDetailed "a" (some (.ofMillis 31))) = inPlace ∧
      s.steps Script.service [.spawn "a" "a", .sleep (.ofMillis 16), .drop "a"] =
        ([.done, .done, .dropped true],
          (s.step Script.service (.resolveDetailed "a" (some (.ofMillis 16)))).2.detach id) := by
  intro script s id inPlace
  obtain ⟨-, -, -, hspawn, hkeeps, hbreaks⟩ := forms_agree Script.service script
    (⟨some (.ofMillis 10)⟩ : ConstantEstimator) (TokenBudget.new 1 2 5 4)
    [.spawn "b" "b", .sleep (.ofMillis 3)] "a" "a"
  refine ⟨by decide +kernel, by decide +kernel, ?_, ?_, ?_⟩
  · exact hspawn (by decide +kernel) (by decide +kernel)
  · exact hkeeps (.ofMillis 31) (by decide +kernel)
  · exact (hbreaks (.ofMillis 16) (by decide +kernel) (by decide +kernel) (by decide +kernel)).2

/-- **Ties break the agreement.** The timers of two requests go off at one instant, and the budget pays
for one backup: in place, the newer request is the first to ask and ends with its backup; in a task of
its own it comes second and waits for its primary. -/
theorem forms_differ_on_ties :
    let script : Script :=
      ⟨[⟨60, .value, some "patient"⟩, ⟨50, .value, some "slow"⟩, ⟨5, .value, some "fast"⟩],
        Script.defaultFallback⟩
    let s := ((Session.new script ⟨some (.ofMillis 10)⟩ (TokenBudget.new 0 1 1 1) :
      Session ConstantEstimator TokenBudget Script String String String).steps Script.service
      [.spawn "b" "b"]).2
    s.handles.lookup "a" = none ∧
      (s.step Script.service (.resolveDetailed "a" none)).1 =
        .detailed ⟨"fast", .backup, .ofMillis 15⟩ ∧
      (s.steps Script.service [.spawn "a" "a", .wait "a"]).1 =
        [.done, .detailed ⟨"slow", .primary, .ofMillis 50⟩] ∧
      (s.steps Script.service [.spawn "a" "a", .wait "a"]).1 ≠
        [.done, (s.step Script.service (.resolveDetailed "a" none)).1] := by
  decide +kernel

end Session

end Hedging
