import Hedging.Proofs.Call.Names
import Hedging.Proofs.Run.Abandonment
import Hedging.Proofs.Run.Waiting
import Hedging.Proofs.Session.Runs

/-!
# What becomes of a handle

A handle stands for one request from the moment it is spawned until it is waited for, dropped or
replaced, whatever is done with other handles in the meantime: no two handles stand for one request
(`Tidy`), so a request is given up only by what is done with its own handle. Until then it is
`Run.Wanted`, and it goes on to an end of its own.

> `steps_lookup`: a handle stays known while it is only cancelled.
> `steps_wanted`: a request is not given up while its handle is let alone.
-/

namespace Hedging

/-- The handle that an operation works on. -/
def SessionOp.handle? {ρ : Type} : SessionOp ρ → Option String
  | .spawn handle _ | .wait handle | .cancel handle | .drop handle => some handle
  | .resolve .. | .resolveDetailed .. | .sleep _ | .clone => none

namespace Run

variable {δ β σ ρ α ε : Type} {svc : Service σ ρ α ε} {run : Run δ β σ ρ α ε} {id : RequestId}

/-! ## Requests that nobody has given up -/

/-- A request that was made and has not been given up. -/
def Wanted (run : Run δ β σ ρ α ε) (id : RequestId) : Prop :=
  ∃ request, run.requests[id]? = some request ∧ ∀ t, request.stage ≠ .abandoned t

theorem Wanted.lt (h : run.Wanted id) : id < run.requests.length := by
  obtain ⟨request, there, -⟩ := h
  exact (List.getElem?_eq_some_iff.mp there).1

theorem Wanted.of_stage {run' : Run δ β σ ρ α ε} (h : run.Wanted id) {i : RequestId}
    {stage : Stage ρ α ε}
    (hrequests : run'.requests = run.requests.modify i fun r => { r with stage })
    (hstage : i = id → ∀ t, stage ≠ .abandoned t) : run'.Wanted id := by
  obtain ⟨request, there, hwanted⟩ := h
  unfold Wanted
  rw [hrequests]
  by_cases hi : i = id
  · subst hi
    exact ⟨_, by rw [List.getElem?_modify_eq, there]; rfl, hstage rfl⟩
  · exact ⟨request, by rw [List.getElem?_modify_ne _ _ hi]; exact there, hwanted⟩

/-- A request is not given up with another. -/
theorem Wanted.abandon (h : run.Wanted id) {other : RequestId} (hne : other ≠ id) :
    (run.abandon other).Wanted id := by
  unfold Run.abandon
  split
  next => exact h
  next request there =>
    split
    next race racing =>
      rw [dropCalls_eq]
      exact h.of_stage rfl fun heq => absurd heq hne
    next => exact h

/-- What a racing request waits for lies ahead. -/
theorem pending_ne_nil (h : run.Intact) (hracing : run.isRacing id = true) :
    run.pending ≠ [] := by
  obtain ⟨hs, who, howned⟩ := h
  obtain ⟨request, race, there, racing⟩ := exists_race hracing
  -- a race that is not over waits for a call
  obtain ⟨branch, c, hcall⟩ : ∃ branch c, race.call branch = some c := by
    rcases (hs id request race there racing).waits with hp | hb
    · obtain ⟨c, hc⟩ := Option.isSome_iff_exists.mp hp
      exact ⟨.primary, c, hc⟩
    · obtain ⟨c, hc⟩ := Option.isSome_iff_exists.mp hb
      exact ⟨.backup, c, hc⟩
  have howner := howned.awaited id branch c ((awaits_of_racing there racing).mpr hcall)
  have hlt := (List.getElem?_eq_some_iff.mp howner).1
  rw [howned.length] at hlt
  exact List.ne_nil_of_mem (call_mem_pending there racing hcall (List.getElem?_eq_getElem hlt))

variable [DelayEstimator δ] [AdmissionBudget β]

/-- No event gives a request up. -/
theorem Wanted.fire (h : run.Wanted id) (hs : run.Sound) {due : Due} (hdue : due ∈ run.pending) :
    (run.fire svc due).Wanted id := by
  obtain ⟨request, stage, -, hrequests, hstage⟩ := fire_to svc hs hdue
  refine h.of_stage hrequests fun _ t => ?_
  rintro rfl
  split at hstage
  next =>
    obtain ⟨race, h⟩ := hstage
    cases h
  next => rcases hstage with ⟨result, h⟩ | ⟨message, h⟩ <;> cases h

theorem Wanted.start (h : run.Wanted id) (svc : Service σ ρ α ε) (payload : ρ) (inPlace : Bool) :
    (run.start svc payload inPlace).Wanted id := by
  have hlt := h.lt
  obtain ⟨request, there, hwanted⟩ := h
  refine ⟨request, ?_, hwanted⟩
  show (run.requests ++ [_])[id]? = some request
  rw [List.getElem?_append_left hlt]
  exact there

/-- Nobody has given a new request up. -/
theorem start_wanted (svc : Service σ ρ α ε) (run : Run δ β σ ρ α ε) (payload : ρ)
    (inPlace : Bool) : (run.start svc payload inPlace).Wanted run.requests.length := by
  refine ⟨⟨payload, inPlace, run.now, DelayEstimator.currentDelay run.estimator,
    .racing (.start payload run.calls.length (DelayEstimator.currentDelay run.estimator).isSome)⟩,
    ?_, fun _ => nofun⟩
  exact List.getElem?_concat_length

theorem Wanted.passTo (h : run.Wanted id) (hs : run.Sound) (t : Instant) :
    (run.passTo svc t).Wanted id :=
  passTo_keeps (P := fun run => run.Wanted id) hs t (fun _ _ hs hdue h => h.fire hs hdue)
    (fun _ _ h => h) h

theorem Wanted.await (h : run.Wanted id) (hs : run.Sound) (other : RequestId)
    (limit : Option Instant) : (run.await svc other limit).Wanted id :=
  await_keeps (P := fun run => run.Wanted id) hs other limit
    (fun _ _ hs hdue h => h.fire hs hdue) (fun _ _ h => h) h

/-- **Whoever waits without a limit waits until the request ends.** -/
theorem await_ends (svc : Service σ ρ α ε) (h : run.Intact) (id : RequestId) :
    (run.await svc id none).isRacing id = false := by
  have hdriven : (run.drive svc (Due.inTime id none) (·.isRacing id)).Intact :=
    (drive_leads svc h.sound _ _).reaches.intact h
  have hstop : (run.drive svc (Due.inTime id none) (·.isRacing id)).isRacing id = false := by
    rcases drive_stops svc h.sound (Due.inTime id none) (·.isRacing id) with hended | hstop
    · exact hended
    · cases hracing : (run.drive svc (Due.inTime id none) (·.isRacing id)).isRacing id with
      | false => rfl
      | true =>
        -- without a limit every event is in time, so nothing lies ahead
        cases hnext : (run.drive svc (Due.inTime id none) (·.isRacing id)).next? with
        | none => exact absurd (earliest_eq_none hnext) (pending_ne_nil hdriven hracing)
        | some due => exact absurd (hstop due hnext) (by simp [Due.inTime])
  unfold await
  simp only [hstop]
  exact hstop

end Run

namespace Session

variable {δ β σ ρ α ε : Type} {svc : Service σ ρ α ε} {s s' : Session δ β σ ρ α ε}
  {handle other : String} {id : RequestId} {op : SessionOp ρ} {ops : List (SessionOp ρ)}

open Run (Leads Regular Reaches leads_start passTo_leads)

/-! ## Handles and their requests -/

/-- Every handle stands for a request that was made, and no two for the same. -/
structure Tidy (s : Session δ β σ ρ α ε) : Prop where
  intact : s.run.Intact
  known : ∀ entry ∈ s.handles, entry.2 < s.run.requests.length
  apart : ∀ a ∈ s.handles, ∀ b ∈ s.handles, a.2 = b.2 → a = b

theorem new_tidy (service : σ) (estimator : δ) (budget : β) :
    (Session.new service estimator budget : Session δ β σ ρ α ε).Tidy :=
  ⟨Run.new_intact service estimator budget, nofun, nofun⟩

/-- The request of another handle is another request. -/
theorem Tidy.id_ne (h : s.Tidy) {i : RequestId} (hfound : s.handles.lookup handle = some id)
    (hother : s.handles.lookup other = some i) (hne : other ≠ handle) : i ≠ id := by
  intro heq
  have hsame := h.apart _ (mem_of_lookup hother) _ (mem_of_lookup hfound) heq
  exact hne (congrArg Prod.fst hsame)

theorem answerOf_of_there {run : Run δ β σ ρ α ε} {request : Request ρ α ε}
    (there : run.requests[id]? = some request) : answerOf run id = request.stage.answer := by
  unfold answerOf
  rw [there]
  rfl

theorem dropHandle_of_none (hfound : s.handles.lookup handle = none) :
    s.dropHandle handle = s := by
  unfold dropHandle
  rw [hfound]

theorem dropHandle_of_some (hfound : s.handles.lookup handle = some id) :
    s.dropHandle handle = { s with run := s.run.abandon id }.forget handle := by
  unfold dropHandle
  rw [hfound]

theorem mem_dropHandle {entry : String × RequestId}
    (h : entry ∈ (s.dropHandle handle).handles) : entry ∈ s.handles := by
  cases hfound : s.handles.lookup handle with
  | none =>
    rw [dropHandle_of_none hfound] at h
    exact h
  | some id =>
    rw [dropHandle_of_some hfound] at h
    exact (List.mem_filter.mp h).1

theorem lookup_dropHandle (hne : handle ≠ other) :
    (s.dropHandle other).handles.lookup handle = s.handles.lookup handle := by
  cases hfound : s.handles.lookup other with
  | none => rw [dropHandle_of_none hfound]
  | some id =>
    rw [dropHandle_of_some hfound]
    exact lookup_filter_ne s.handles hne

theorem dropHandle_wanted (h : s.Tidy) (hfound : s.handles.lookup handle = some id)
    (hwanted : s.run.Wanted id) (hne : other ≠ handle) : (s.dropHandle other).run.Wanted id := by
  cases hother : s.handles.lookup other with
  | none =>
    rw [dropHandle_of_none hother]
    exact hwanted
  | some i =>
    rw [dropHandle_of_some hother]
    exact hwanted.abandon (h.id_ne hfound hother hne)

variable [DelayEstimator δ] [AdmissionBudget β]

/-- No operation brings in a handle but a spawn. -/
theorem Tidy.of_leads (h : s.Tidy) (hr : Leads svc Regular s.run s'.run)
    (hsub : ∀ entry ∈ s'.handles, entry ∈ s.handles) : s'.Tidy := by
  refine ⟨hr.reaches.intact h.intact, fun entry hentry => ?_, fun a ha b hb hab => ?_⟩
  · exact hr.lt_length h.intact.sound (h.known entry (hsub entry hentry))
  · exact h.apart a (hsub a ha) b (hsub b hb) hab

theorem Tidy.dropHandle (h : s.Tidy) (svc : Service σ ρ α ε) (handle : String) :
    (s.dropHandle handle).Tidy :=
  h.of_leads (dropHandle_leads svc s handle) fun _ => mem_dropHandle

/-- A handle that is spawned stands for the newest request. -/
theorem Tidy.spawn (h : s.Tidy) (svc : Service σ ρ α ε) (handle : String) (payload : ρ) :
    (s.act svc (.spawn handle payload)).2.Tidy := by
  have hbefore := h.dropHandle svc handle
  have hafter : ({ s.dropHandle handle with
      run := (s.dropHandle handle).run.start svc payload false } : Session δ β σ ρ α ε).Tidy :=
    hbefore.of_leads (leads_start svc _ payload false) fun _ h => h
  have hnew : (s.dropHandle handle).run.requests.length <
      ((s.dropHandle handle).run.start svc payload false).requests.length := by
    show _ < ((s.dropHandle handle).run.requests ++ [_]).length
    rw [List.length_append, List.length_singleton]
    exact Nat.lt_succ_self _
  have hfresh : ∀ entry ∈ (s.dropHandle handle).handles,
      entry.2 ≠ (s.dropHandle handle).run.requests.length := fun entry hentry =>
    Nat.ne_of_lt (hbefore.known entry hentry)
  refine ⟨hafter.intact, fun entry hentry => ?_, fun a ha b hb hab => ?_⟩
  · rcases List.mem_cons.mp hentry with rfl | hold
    · exact hnew
    · exact hafter.known entry hold
  · rcases List.mem_cons.mp ha with rfl | ha
    · rcases List.mem_cons.mp hb with rfl | hb
      · rfl
      · exact absurd hab.symm (hfresh b hb)
    · rcases List.mem_cons.mp hb with rfl | hb
      · exact absurd hab (hfresh a ha)
      · exact hbefore.apart a ha b hb hab

theorem Tidy.act (h : s.Tidy) (svc : Service σ ρ α ε) (op : SessionOp ρ) :
    (s.act svc op).2.Tidy := by
  have hr := act_leads svc h.intact.sound op
  cases op with
  | resolve payload timeout => exact h.of_leads hr fun _ h => h
  | resolveDetailed payload timeout => exact h.of_leads hr fun _ h => h
  | spawn handle payload => exact h.spawn svc handle payload
  | wait handle =>
    refine h.of_leads hr fun entry hentry => ?_
    cases hfound : s.handles.lookup handle with
    | none =>
      simp only [Session.act, hfound] at hentry
      exact hentry
    | some id =>
      simp only [Session.act, hfound] at hentry
      exact (List.mem_filter.mp hentry).1
  | cancel handle =>
    refine h.of_leads hr fun entry hentry => ?_
    cases hfound : s.handles.lookup handle with
    | none =>
      simp only [Session.act, hfound] at hentry
      exact hentry
    | some id =>
      simp only [Session.act, hfound] at hentry
      exact hentry
  | drop handle => exact h.dropHandle svc handle
  | sleep d => exact h.of_leads hr fun _ h => h
  | clone => exact h.of_leads hr fun _ h => h

theorem Tidy.step (h : s.Tidy) (svc : Service σ ρ α ε) (op : SessionOp ρ) :
    (s.step svc op).2.Tidy := by
  have hact := h.act svc op
  exact hact.of_leads (passTo_leads svc hact.intact.sound _) fun _ h => h

theorem Tidy.steps (h : s.Tidy) (svc : Service σ ρ α ε) (ops : List (SessionOp ρ)) :
    (s.steps svc ops).2.Tidy := by
  induction ops generalizing s with
  | nil => exact h
  | cons op rest ih => exact ih (h.step svc op)

/-! ## Operations on other handles -/

/-- A handle stays as long as it is only cancelled. -/
theorem lookup_act (svc : Service σ ρ α ε) (hfound : s.handles.lookup handle = some id)
    (hop : op.handle? = some handle → op = .cancel handle) :
    (s.act svc op).2.handles.lookup handle = some id := by
  have hne : ∀ other, op.handle? = some other → op ≠ .cancel handle → handle ≠ other := by
    rintro other hother hnot rfl
    exact hnot (hop hother)
  cases op with
  | resolve payload timeout => exact hfound
  | resolveDetailed payload timeout => exact hfound
  | spawn other payload =>
    have hother := hne other rfl (by simp)
    show List.lookup handle ((other, _) :: (s.dropHandle other).handles) = some id
    rw [List.lookup_cons, beq_eq_false_iff_ne.mpr hother, lookup_dropHandle hother]
    exact hfound
  | wait other =>
    have hother := hne other rfl (by simp)
    cases hwait : s.handles.lookup other with
    | none =>
      simp only [Session.act, hwait]
      exact hfound
    | some i =>
      simp only [Session.act, hwait]
      exact (lookup_filter_ne s.handles hother).trans hfound
  | cancel other =>
    cases hcancel : s.handles.lookup other with
    | none =>
      simp only [Session.act, hcancel]
      exact hfound
    | some i =>
      simp only [Session.act, hcancel]
      exact hfound
  | drop other => exact (lookup_dropHandle (hne other rfl (by simp))).trans hfound
  | sleep d => exact hfound
  | clone => exact hfound

/-- Whoever makes a request in place gives up no other. -/
theorem resolveIn_wanted (svc : Service σ ρ α ε) {run : Run δ β σ ρ α ε} (hs : run.Sound)
    (hwanted : run.Wanted id) (payload : ρ) (timeout : Option Duration) :
    (resolveIn svc run payload timeout).2.Wanted id := by
  have hawait : ((run.start svc payload true).await svc run.requests.length
      (timeout.map run.now.within)).Wanted id :=
    (hwanted.start svc payload true).await ((leads_start svc run payload true).sound hs) _ _
  unfold resolveIn
  simp only
  split
  · exact hawait.abandon (Nat.ne_of_gt hwanted.lt)
  · exact hawait

/-- What is done with other handles does not give a request up. -/
theorem act_wanted (svc : Service σ ρ α ε) (h : s.Tidy)
    (hfound : s.handles.lookup handle = some id) (hwanted : s.run.Wanted id)
    (hop : op.handle? ≠ some handle) : (s.act svc op).2.run.Wanted id := by
  have hne : ∀ other, op.handle? = some other → other ≠ handle := by
    rintro other hother rfl
    exact hop hother
  cases op with
  | resolve payload timeout => exact resolveIn_wanted svc h.intact.sound hwanted payload timeout
  | resolveDetailed payload timeout =>
    exact resolveIn_wanted svc h.intact.sound hwanted payload timeout
  | spawn other payload =>
    exact (dropHandle_wanted h hfound hwanted (hne other rfl)).start svc payload false
  | wait other =>
    cases hother : s.handles.lookup other with
    | none =>
      simp only [Session.act, hother]
      exact hwanted
    | some i =>
      simp only [Session.act, hother]
      exact hwanted.await h.intact.sound i none
  | cancel other =>
    cases hother : s.handles.lookup other with
    | none =>
      simp only [Session.act, hother]
      exact hwanted
    | some i =>
      simp only [Session.act, hother]
      exact hwanted.abandon (h.id_ne hfound hother (hne other rfl))
  | drop other => exact dropHandle_wanted h hfound hwanted (hne other rfl)
  | sleep d => exact hwanted.passTo h.intact.sound _
  | clone => exact hwanted

/-- To finish what is due leaves the handles and gives no request up. -/
theorem step_wanted (svc : Service σ ρ α ε) (h : s.Tidy)
    (hfound : s.handles.lookup handle = some id) (hwanted : s.run.Wanted id)
    (hop : op.handle? ≠ some handle) : (s.step svc op).2.run.Wanted id :=
  (act_wanted svc h hfound hwanted hop).passTo (h.act svc op).intact.sound _

theorem steps_lookup (svc : Service σ ρ α ε) (hfound : s.handles.lookup handle = some id)
    (hops : ∀ op ∈ ops, op.handle? = some handle → op = .cancel handle) :
    (s.steps svc ops).2.handles.lookup handle = some id := by
  induction ops generalizing s with
  | nil => exact hfound
  | cons op rest ih =>
    have hfound' : (s.step svc op).2.handles.lookup handle = some id :=
      lookup_act svc hfound (hops op (List.mem_cons_self ..))
    exact ih hfound' fun op' hop' => hops op' (List.mem_cons_of_mem _ hop')

theorem steps_wanted (svc : Service σ ρ α ε) (h : s.Tidy)
    (hfound : s.handles.lookup handle = some id) (hwanted : s.run.Wanted id)
    (hops : ∀ op ∈ ops, op.handle? ≠ some handle) : (s.steps svc ops).2.run.Wanted id := by
  induction ops generalizing s with
  | nil => exact hwanted
  | cons op rest ih =>
    have hop := hops op (List.mem_cons_self ..)
    have hfound' : (s.step svc op).2.handles.lookup handle = some id :=
      lookup_act svc hfound fun heq => absurd heq hop
    exact ih (h.step svc op) hfound' (step_wanted svc h hfound hwanted hop)
      fun op' hop' => hops op' (List.mem_cons_of_mem _ hop')

end Session

end Hedging
