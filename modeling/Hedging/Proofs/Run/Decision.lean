import Hedging.Proofs.Run.Load
import Hedging.Proofs.Run.Spending

/-!
# The hedge decision

Whether a request is hedged, and when, is decided as it arrives: by the delay that the estimator has
at that instant. `Timed` is the invariant of it. A request that races has its timer armed exactly if
it had a delay to begin with and the budget has not been asked on its behalf yet, and the instant of
the timer is that of the arrival plus the delay. What the estimator is fed in the meantime does not
come into it, whoever feeds it. Once a request without a delay has funded the budget, none of its
moves touches the budget any more.

> `Timed.step`: a move, of the request itself or of another, keeps the timer as it was decided.
> `Timed.play`: so does a whole run, however late its events come.
> `Punctual.play`: where no event comes late, the budget is asked at the very instant of the timer.
> `decides_at_arrival`: the delay at the arrival of a request has decided its timer, and whether the
> budget is asked.
-/

namespace Hedging

section Request

variable {ρ α ε : Type} {request : Request ρ α ε}

theorem Request.isRacing_of_isArmed (h : request.isArmed = true) : request.isRacing = true := by
  unfold isArmed at h
  split at h
  next race racing => exact isRacing_of_racing racing
  next => cases h

/-- The only timer that lies ahead of a request is its own, as long as it is armed. -/
theorem Request.timer_mem_pending_iff {calls : Ledger ρ α ε} {t : Instant} {i id : RequestId}
    {turn : Nat} :
    ⟨t, i, .timer, turn⟩ ∈ request.pending calls id ↔
      i = id ∧ request.isArmed = true ∧ request.timer = some t ∧ turn = request.timerTurn := by
  have hcall : ∀ race branch,
      ⟨t, i, .timer, turn⟩ ∉ (request.pendingCall calls id race branch).toList := by
    intro race branch h
    obtain ⟨c, call, -, -, hdue⟩ := Run.mem_pendingCall h
    cases hdue
  unfold pending isArmed
  cases request.stage with
  | racing race =>
    simp only [List.mem_append, hcall, or_false]
    split
    next armed =>
      rw [List.mem_map]
      constructor
      · rintro ⟨s, hs, hdue⟩
        obtain ⟨rfl, rfl, -, rfl⟩ := Due.mk.inj hdue
        exact ⟨rfl, armed, Option.mem_toList.mp hs, rfl⟩
      · rintro ⟨rfl, -, set, rfl⟩
        exact ⟨t, Option.mem_toList.mpr set, rfl⟩
    next unarmed =>
      constructor
      · exact nofun
      · rintro ⟨-, armed, -⟩
        exact absurd armed unarmed
  | settled ended result => simp
  | crashed ended message => simp
  | abandoned ended => simp

end Request

namespace Run

section Timers

variable {δ β σ ρ α ε : Type} {run run' : Run δ β σ ρ α ε} {id : RequestId}
  {request first : Request ρ α ε} {seen : History ρ α ε}

/-! ## Timers that lie ahead -/

/-- A timer lies ahead of a request as long as it is armed, and at the instant it was set for. -/
theorem timer_ahead_iff {t : Instant} {turn : Nat} :
    ⟨t, id, .timer, turn⟩ ∈ run.pending ↔
      ∃ request : Request ρ α ε, run.requests[id]? = some request ∧ request.isArmed = true ∧
        request.timer = some t ∧ turn = request.timerTurn := by
  rw [mem_pending_iff]
  constructor
  · rintro ⟨i, request, there, hdue⟩
    obtain ⟨rfl, harmed⟩ := Request.timer_mem_pending_iff.mp hdue
    exact ⟨request, there, harmed⟩
  · rintro ⟨request, there, harmed⟩
    exact ⟨id, request, there, Request.timer_mem_pending_iff.mpr ⟨rfl, harmed⟩⟩

/-- The hedge timer of a request that arrived as `first` is as its delay has decided. -/
structure Timed (id : RequestId) (first : Request ρ α ε) (run : Run δ β σ ρ α ε)
    (seen : History ρ α ε) : Prop where
  stands : ∃ stage, run.requests[id]? = some { first with stage }
  /-- The timer is armed until the budget is asked. -/
  armed : ∀ request, run.requests[id]? = some request → request.isRacing = true →
    request.isArmed = (first.delay.isSome && seen.asked.isEmpty)
  asked : seen.asked = [] ∨
    ∃ now granted t, seen.asked = [(now, granted)] ∧ first.timer = some t ∧ t ≤ now
  issued : seen.issued.length = seen.asked.countP (·.2)

/-- As long as the timer is armed, the budget has not been asked. -/
theorem Timed.unasked (h : Timed id first run seen) (there : run.requests[id]? = some request)
    (armed : request.isArmed = true) : seen.asked = [] := by
  have hdecided := h.armed request there (Request.isRacing_of_isArmed armed)
  rw [armed, eq_comm, Bool.and_eq_true, List.isEmpty_iff] at hdecided
  exact hdecided.2

theorem Timed.timer_eq (h : Timed id first run seen) (there : run.requests[id]? = some request) :
    request.timer = first.timer := by
  obtain ⟨stage, hthere⟩ := h.stands
  obtain rfl := Option.some.inj (hthere.symm.trans there)
  rfl

/-- The timer of a request that races lies ahead until the budget is asked. -/
theorem Timed.ahead (h : Timed id first run seen) {t : Instant} (set : first.timer = some t)
    (racing : run.isRacing id = true) (unasked : seen.asked = []) :
    ∃ turn, ⟨t, id, .timer, turn⟩ ∈ run.pending := by
  obtain ⟨stage, there⟩ := h.stands
  rw [isRacing_of_there there] at racing
  have harmed := h.armed _ there racing
  rw [Request.delay_of_timer set, unasked] at harmed
  exact ⟨_, timer_ahead_iff.mpr ⟨_, there, harmed, set, rfl⟩⟩

theorem Timed.ahead_iff (h : Timed id first run seen) {t : Instant} :
    (∃ turn, ⟨t, id, .timer, turn⟩ ∈ run.pending) ↔
      run.isRacing id = true ∧ seen.asked = [] ∧ first.timer = some t := by
  constructor
  · rintro ⟨turn, hdue⟩
    obtain ⟨request, there, armed, set, -⟩ := timer_ahead_iff.mp hdue
    rw [isRacing_of_there there, ← h.timer_eq there]
    exact ⟨Request.isRacing_of_isArmed armed, h.unasked there armed, set⟩
  · rintro ⟨racing, unasked, set⟩
    exact h.ahead set racing unasked

theorem Timed.unhedged (h : Timed id first run seen) (hnone : first.delay = none) :
    seen.asked = [] ∧ seen.issued = [] := by
  have hasked : seen.asked = [] := by
    rcases h.asked with hasked | ⟨_, _, t, -, set, -⟩
    · exact hasked
    · have hdelay := Request.delay_of_timer set
      rw [hnone] at hdelay
      cases hdelay
  have hissued := h.issued
  rw [hasked, List.countP_nil, List.length_eq_zero_iff] at hissued
  exact ⟨hasked, hissued⟩

/-! ## What has nothing to do with the timer -/

/-- A request goes on, or comes to its end, but not by its timer: no call is issued, and if it still
races its timer is what it was. -/
structure Untimed (id : RequestId) (run run' : Run δ β σ ρ α ε) : Prop where
  issues : run'.calls.issues = run.calls.issues
  kept : ∀ request', run'.requests[id]? = some request' → request'.isRacing = true →
    ∃ request, run.requests[id]? = some request ∧ request.isRacing = true ∧
      request'.isArmed = request.isArmed

theorem Untimed.refl (id : RequestId) (run : Run δ β σ ρ α ε) : Untimed id run run :=
  ⟨rfl, fun request' there racing => ⟨request', there, racing, rfl⟩⟩

theorem Untimed.of_stage {stage : Stage ρ α ε} (there : run.requests[id]? = some request)
    (issues : run'.calls.issues = run.calls.issues)
    (hrequests : run'.requests = run.requests.modify id fun r => { r with stage })
    (hstage : ({ request with stage } : Request ρ α ε).isRacing = true →
      request.isRacing = true ∧
        ({ request with stage } : Request ρ α ε).isArmed = request.isArmed) :
    Untimed id run run' := by
  refine ⟨issues, ?_⟩
  intro request' there' racing'
  have hthere : run'.requests[id]? = some { request with stage } := by
    rw [hrequests, List.getElem?_modify_eq, there]
    rfl
  obtain rfl := Option.some.inj (hthere.symm.trans there')
  exact ⟨request, there, hstage racing'⟩

/-- To give a request up does nothing to a timer. -/
theorem abandon_untimed (run : Run δ β σ ρ α ε) (id : RequestId) :
    Untimed id run (run.abandon id) := by
  unfold abandon
  split
  next => exact .refl id run
  next request there =>
    split
    next race racing =>
      rw [dropCalls_eq]
      exact .of_stage there (Ledger.issues_foldl_drop ..) rfl nofun
    next => exact .refl id run

end Timers

variable {δ β σ ρ α ε : Type} {svc : Service σ ρ α ε} {run : Run δ β σ ρ α ε} {id : RequestId}
  {request first : Request ρ α ε} {seen : History ρ α ε} {m : Move ρ}

/-- Only a timer asks the budget. -/
theorem eq_timer_of_asks [AdmissionBudget β] {ask : Instant × Bool} (h : ask ∈ run.asks m) :
    ∃ t i turn, m = .fire ⟨t, i, .timer, turn⟩ ∧
      ask = (max run.now t, (AdmissionBudget.tryConsume run.budget).1) := by
  cases m with
  | fire due =>
    obtain ⟨t, i, source, turn⟩ := due
    cases source with
    | timer => exact ⟨t, i, turn, rfl, List.mem_singleton.mp h⟩
    | call branch => cases h
  | start payload inPlace => cases h
  | abandon i => cases h
  | cut i branch => cases h
  | wind t => cases h

variable [DelayEstimator δ]

/-- A request that loses one of two calls keeps its timer, and one that loses its only call is
settled. -/
theorem cut_untimed (svc : Service σ ρ α ε) (hs : run.Sound) (id : RequestId) (branch : Branch) :
    Untimed id run (run.cancelBranch svc id branch) := by
  unfold cancelBranch
  split
  next request there =>
    split
    next race racing =>
      split
      next c waited =>
        have hrace := hs id request race there racing
        cases hother : race.call branch.other with
        | some other =>
          rw [deliver_bereft hrace hother]
          refine .of_stage there (Ledger.issues_foldl_drop [c] _) rfl fun _ => ?_
          refine ⟨Request.isRacing_of_racing racing, ?_⟩
          rw [Request.isArmed_of_racing racing]
          cases branch <;> rfl
        | none =>
          rw [deliver_lost hrace hother]
          exact .of_stage there (Ledger.issues_foldl_drop [c] _) rfl nofun
      next => exact .refl id run
    next => exact .refl id run
  next => exact .refl id run

variable [AdmissionBudget β]

/-- A call that ends settles its request, or breaks it down. -/
theorem fire_call_untimed (svc : Service σ ρ α ε) (hs : run.Sound) {race : Race ρ α ε}
    {branch : Branch} {c : CallId} {call : Call ρ α ε} (there : run.requests[id]? = some request)
    (racing : request.stage = .racing race) (waited : race.call branch = some c)
    (held : run.calls[c]? = some call) (turn : Nat) :
    Untimed id run (run.fire svc ⟨call.due, id, .call branch, turn⟩) := by
  have hissues : ∀ ids : List CallId,
      (ids.foldl Ledger.drop (run.calls.finish c)).issues = run.calls.issues := fun ids =>
    (Ledger.issues_foldl_drop ids _).trans (Ledger.issues_finish ..)
  cases hsaid : call.reply.completion? with
  | some completion =>
    rw [fire_answered hs there racing waited held hsaid]
    exact .of_stage there (hissues _) (requests_answer ..) nofun
  | none =>
    obtain ⟨message, hreply⟩ := Reply.eq_crash_of_completion? hsaid
    rw [fire_crashed there racing waited held hreply, dropCalls_eq]
    exact .of_stage there (hissues _) rfl nofun

/-- What a request does without asking the budget has nothing to do with its timer. -/
theorem apply_untimed (svc : Service σ ρ α ε) (hs : run.Sound) (hm : run.Possible m)
    (hid : m.subject = some id) (hasks : run.asks m = []) : Untimed id run (run.apply svc m) := by
  cases m with
  | start payload inPlace => cases hid
  | fire due =>
    obtain rfl := Option.some.inj hid
    cases ahead_of_mem_pending hm with
    | timer there racing armed set => cases hasks
    | call there racing waited held => exact fire_call_untimed svc hs there racing waited held _
  | abandon other =>
    obtain rfl := Option.some.inj hid
    exact abandon_untimed run other
  | cut other branch =>
    obtain rfl := Option.some.inj hid
    exact cut_untimed svc hs other branch
  | wind t => cases hid

/-! ## One move -/

theorem asked_observe (svc : Service σ ρ α ε) (hid : m.subject = some id) :
    (observe svc id run m).asked = run.asks m := by
  unfold observe
  rw [if_pos hid]

theorem issued_observe {issued : List (Call ρ α ε)} (hid : m.subject = some id)
    (hissues : (run.apply svc m).calls.issues = run.calls.issues ++ issued) :
    (observe svc id run m).issued = issued := by
  unfold observe
  rw [if_pos hid, hissues]
  exact List.drop_left ..

theorem Timed.of_other (h : Timed id first run seen) (hs : run.Sound) (hm : run.Possible m)
    (hne : m.subject ≠ some id) :
    Timed id first (run.apply svc m) (seen ++ observe svc id run m) := by
  obtain ⟨stage, there⟩ := h.stands
  have hc : Change svc run m.subject (run.apply svc m) := apply_change hs hm
  have hthere := hc.request_kept there fun hid => absurd hid hne
  rw [observe_of_ne hne, History.append_empty]
  refine ⟨⟨stage, hthere⟩, ?_, h.asked, h.issued⟩
  intro request there' racing
  obtain rfl := Option.some.inj (hthere.symm.trans there')
  exact h.armed _ there racing

theorem Timed.of_untimed (h : Timed id first run seen) (hs : run.Sound) (hm : run.Possible m)
    (hid : m.subject = some id) (hasks : run.asks m = []) :
    Timed id first (run.apply svc m) (seen ++ observe svc id run m) := by
  obtain ⟨stage, there⟩ := h.stands
  have hc : Change svc run m.subject (run.apply svc m) := apply_change hs hm
  have huntimed := apply_untimed svc hs hm hid hasks
  have hasked : (seen ++ observe svc id run m).asked = seen.asked := by
    show seen.asked ++ (observe svc id run m).asked = seen.asked
    rw [asked_observe svc hid, hasks, List.append_nil]
  have hsent : (observe svc id run m).issued = [] :=
    issued_observe hid (by rw [List.append_nil, huntimed.issues])
  have hissued : (seen ++ observe svc id run m).issued = seen.issued := by
    show seen.issued ++ (observe svc id run m).issued = seen.issued
    rw [hsent, List.append_nil]
  obtain ⟨stage', hthere⟩ := hc.request there
  refine ⟨⟨stage', hthere⟩, ?_, ?_, ?_⟩
  · intro request' there' racing'
    obtain ⟨request, hbefore, racing, harmed⟩ := huntimed.kept request' there' racing'
    rw [harmed, hasked]
    exact h.armed request hbefore racing
  · rw [hasked]
    exact h.asked
  · rw [hasked, hissued]
    exact h.issued

/-- A timer that goes off is spent, and a backup is issued if the budget pays for it. -/
theorem fire_timer_spent (svc : Service σ ρ α ε) (hs : run.Sound) {race : Race ρ α ε}
    (there : run.requests[id]? = some request) (racing : request.stage = .racing race)
    (armed : race.timerArmed = true) (t : Instant) (turn : Nat) :
    let fired := run.fire svc ⟨t, id, .timer, turn⟩
    (∃ stage, fired.requests[id]? = some { request with stage } ∧
        ({ request with stage } : Request ρ α ε).isArmed = false) ∧
      ∃ issued, fired.calls.issues = run.calls.issues ++ issued ∧
        issued.length = (AdmissionBudget.tryConsume run.budget).1.toNat := by
  intro fired
  cases hgranted : (AdmissionBudget.tryConsume run.budget).1 with
  | true =>
    have hfired : fired = (run.wind t).hedge svc id request race :=
      fire_granted hs there racing armed hgranted
    rw [hfired]
    exact ⟨⟨_, getElem?_of_stage there rfl, rfl⟩, [_], Ledger.issues_issue .., rfl⟩
  | false =>
    have hfired : fired = (run.wind t).deny svc id request race :=
      fire_refused hs there racing armed hgranted
    rw [hfired]
    exact ⟨⟨_, getElem?_of_stage there rfl, rfl⟩, [], (List.append_nil _).symm, rfl⟩

theorem Timed.of_timer (h : Timed id first run seen) (hs : run.Sound) {t : Instant} {turn : Nat}
    (hdue : ⟨t, id, .timer, turn⟩ ∈ run.pending) :
    Timed id first (run.apply svc (.fire ⟨t, id, .timer, turn⟩))
      (seen ++ observe svc id run (.fire ⟨t, id, .timer, turn⟩)) := by
  cases ahead_of_mem_pending hdue with
  | @timer _ _ _ request race there racing armed set =>
    have hunasked := h.unasked there ((Request.isArmed_of_racing racing).trans armed)
    obtain ⟨⟨stage, hthere, hspent⟩, issued, hissues, hlength⟩ :=
      fire_timer_spent svc hs there racing armed t turn
    have hasked : (seen ++ observe svc id run (.fire ⟨t, id, .timer, turn⟩)).asked =
        [(max run.now t, (AdmissionBudget.tryConsume run.budget).1)] := by
      show seen.asked ++ _ = _
      rw [hunasked, asked_observe svc rfl]
      rfl
    -- nothing was issued before the budget was asked
    have hissued : (seen ++ observe svc id run (.fire ⟨t, id, .timer, turn⟩)).issued = issued := by
      have hnone : seen.issued = [] := by
        rw [← List.length_eq_zero_iff, h.issued, hunasked]
        rfl
      have hsent : (observe svc id run (.fire ⟨t, id, .timer, turn⟩)).issued = issued :=
        issued_observe rfl hissues
      show seen.issued ++ _ = _
      rw [hnone, hsent]
      rfl
    obtain ⟨before, hbefore⟩ := h.stands
    obtain rfl := Option.some.inj (hbefore.symm.trans there)
    refine ⟨⟨stage, hthere⟩, ?_, ?_, ?_⟩
    · intro request' there' _
      obtain rfl := Option.some.inj (hthere.symm.trans there')
      rw [hspent, hasked, List.isEmpty_cons, Bool.and_false]
    · exact Or.inr ⟨_, _, t, hasked, set, Nat.le_max_right ..⟩
    · rw [hasked, hissued, hlength, List.countP_singleton]
      cases (AdmissionBudget.tryConsume run.budget).1 <;> rfl

/-- **A move keeps a timer as it was decided**, whichever request it concerns and whatever the
estimator is fed by it. -/
theorem Timed.step (h : Timed id first run seen) (hs : run.Sound) (hm : run.Possible m) :
    Timed id first (run.apply svc m) (seen ++ observe svc id run m) := by
  by_cases hid : m.subject = some id
  · by_cases hasks : run.asks m = []
    · exact h.of_untimed hs hm hid hasks
    · obtain ⟨ask, hask⟩ := List.exists_mem_of_ne_nil _ hasks
      obtain ⟨t, i, turn, rfl, -⟩ := eq_timer_of_asks hask
      obtain rfl := Option.some.inj hid
      exact h.of_timer hs hm
  · exact h.of_other hs hm hid

theorem Timed.play {moves : List (Move ρ)} (h : Timed id first run seen) (hs : run.Sound)
    (hmoves : Along svc Possible run moves) :
    Timed id first (run.play svc moves) (seen ++ run.history svc id moves) := by
  -- what is seen from here on is added to what was seen before
  induction moves generalizing run seen with
  | nil =>
    rw [history, History.append_empty]
    exact h
  | cons m rest ih =>
    have hc : Change svc run m.subject (run.apply svc m) := apply_change hs hmoves.1
    have hrest := ih (h.step hs hmoves.1) (hc.sound hs) hmoves.2
    rw [History.append_assoc] at hrest
    exact hrest

/-! ## Timers on time -/

/-- The budget has been asked at the instant of the timer if at all, and it is asked in time. -/
structure Punctual (id : RequestId) (timer : Option Instant) (run : Run δ β σ ρ α ε)
    (seen : History ρ α ε) : Prop where
  asked : ∀ ask ∈ seen.asked, timer = some ask.1
  ahead : ∀ t, timer = some t → run.isRacing id = true → seen.asked = [] → run.now ≤ t

/-- Whoever is racing after a move was racing before. -/
theorem isRacing_of_apply (svc : Service σ ρ α ε) (hs : run.Sound) (hm : run.Possible m)
    (there : run.requests[id]? = some request)
    (racing : (run.apply svc m).isRacing id = true) : run.isRacing id = true := by
  rw [isRacing_of_there there]
  cases hended : request.isRacing with
  | true => rfl
  | false =>
    have hc : Change svc run m.subject (run.apply svc m) := apply_change hs hm
    rw [isRacing_of_there (hc.request_kept there fun _ => hended), hended] at racing
    cases racing

theorem Punctual.step (h : Punctual id first.timer run seen) (ht : Timed id first run seen)
    (hs : run.Sound) (hm : run.Timely m) :
    Punctual id first.timer (run.apply svc m) (seen ++ observe svc id run m) := by
  refine ⟨?_, ?_⟩
  · intro ask hask
    have hmem : ask ∈ seen.asked ∨ ask ∈ (observe svc id run m).asked := List.mem_append.mp hask
    rcases hmem with hearlier | hnow
    · exact h.asked ask hearlier
    · by_cases hid : m.subject = some id
      · rw [asked_observe svc hid] at hnow
        obtain ⟨t, i, turn, rfl, rfl⟩ := eq_timer_of_asks hnow
        obtain rfl := Option.some.inj hid
        obtain ⟨request, there, armed, set, -⟩ := timer_ahead_iff.mp hm.1
        rw [ht.timer_eq there] at set
        have hracing := (isRacing_of_there there).trans (Request.isRacing_of_isArmed armed)
        have hahead := h.ahead t set hracing (ht.unasked there armed)
        rw [set]
        exact congrArg some (Nat.max_eq_right hahead).symm
      · rw [observe_of_ne hid] at hnow
        cases hnow
  · intro t set racing unasked
    obtain ⟨hbefore, -⟩ := List.append_eq_nil_iff.mp unasked
    obtain ⟨stage, there⟩ := ht.stands
    have hracing := isRacing_of_apply svc hs hm.possible there racing
    obtain ⟨turn, hdue⟩ := ht.ahead set hracing hbefore
    exact hm.now_le hdue (h.ahead t set hracing hbefore)

theorem Punctual.play {moves : List (Move ρ)} (h : Punctual id first.timer run seen)
    (ht : Timed id first run seen) (hs : run.Sound) (hmoves : Along svc Timely run moves) :
    Punctual id first.timer (run.play svc moves) (seen ++ run.history svc id moves) := by
  induction moves generalizing run seen with
  | nil =>
    rw [history, History.append_empty]
    exact h
  | cons m rest ih =>
    have hc : Change svc run m.subject (run.apply svc m) := apply_change hs hmoves.1.possible
    have hrest := ih (h.step ht hs hmoves.1) (ht.step hs hmoves.1.possible) (hc.sound hs) hmoves.2
    rw [History.append_assoc] at hrest
    exact hrest

/-! ## The decision -/

/-- A request sets out with its timer armed exactly if the estimator has a delay. -/
theorem start_timed (svc : Service σ ρ α ε) (before : Run δ β σ ρ α ε) (payload : ρ)
    (inPlace : Bool) :
    let delay := DelayEstimator.currentDelay before.estimator
    let race : Race ρ α ε := .start payload before.calls.length delay.isSome
    let first : Request ρ α ε := ⟨payload, inPlace, before.now, delay, .racing race⟩
    Timed before.requests.length first (before.start svc payload inPlace) {} ∧
      Punctual before.requests.length first.timer (before.start svc payload inPlace) {} := by
  intro delay race first
  have hthere : (before.start svc payload inPlace).requests[before.requests.length]? = some first :=
    List.getElem?_concat_length
  refine ⟨⟨⟨_, hthere⟩, ?_, Or.inl rfl, rfl⟩, nofun, ?_⟩
  · intro request there _
    obtain rfl := Option.some.inj (hthere.symm.trans there)
    exact (Bool.and_true _).symm
  · intro t set _ _
    obtain ⟨d, -, rfl⟩ := Option.map_eq_some_iff.mp set
    exact Instant.le_after ..

/-- What the delay of a request at its arrival has decided, for all that has been seen since. The
request found the budget as `found`, and `uses` is what has been done to it from then on. -/
structure Decided (svc : Service σ ρ α ε) (id : RequestId) (started : Instant)
    (delay : Option Duration) (found : β) (uses : List BudgetUse) (run : Run δ β σ ρ α ε)
    (seen : History ρ α ε) : Prop where
  stands : ∃ request, run.requests[id]? = some request ∧ request.started = started ∧
    request.delay = delay
  /-- A timer lies ahead at the instant that was set for it, until it goes off or the request
  ends. -/
  ahead : ∀ t, (∃ turn, ⟨t, id, .timer, turn⟩ ∈ run.pending) ↔
    run.isRacing id = true ∧ seen.asked = [] ∧ delay.map started.after = some t
  /-- Nothing that happens elsewhere arms it, moves it or removes it. -/
  apart : ∀ m, run.Possible m → m.subject ≠ some id → ∀ t turn,
    ⟨t, id, .timer, turn⟩ ∈ (run.apply svc m).pending ↔ ⟨t, id, .timer, turn⟩ ∈ run.pending
  asked : ∀ ask ∈ seen.asked, ∃ t, delay.map started.after = some t ∧ t ≤ ask.1
  once : seen.asked.length ≤ 1
  backups : seen.issued.length = seen.asked.countP (·.2)
  /-- The budget has been asked for the request when this was seen, and at no other time. -/
  charged : Charged id found uses run.budget seen
  /-- Without a delay the request has funded the budget and has never asked it, and no backup is
  sent. -/
  unhedged : delay = none →
    uses.filter (·.request == id) = [.funded id] ∧ seen.asked = [] ∧ seen.issued = []
  /-- Nor does any move of it touch the budget that all requests share. -/
  spared : delay = none → ∀ m, run.Possible m → m.subject = some id →
    (run.apply svc m).budget = run.budget

theorem Timed.apart (h : Timed id first run seen) (hs : run.Sound) (hm : run.Possible m)
    (hne : m.subject ≠ some id) {t : Instant} {turn : Nat} :
    ⟨t, id, .timer, turn⟩ ∈ (run.apply svc m).pending ↔ ⟨t, id, .timer, turn⟩ ∈ run.pending := by
  obtain ⟨stage, there⟩ := h.stands
  have hc : Change svc run m.subject (run.apply svc m) := apply_change hs hm
  rw [timer_ahead_iff, timer_ahead_iff, hc.request_kept there fun hid => absurd hid hne, there]

/-- A request without a delay does nothing to the budget. -/
theorem Timed.spared (h : Timed id first run seen) (hs : run.Sound) (hnone : first.delay = none)
    (hm : run.Possible m) (hid : m.subject = some id) :
    (run.apply svc m).budget = run.budget := by
  cases m with
  | start payload inPlace => cases hid
  | fire due =>
    obtain rfl := Option.some.inj hid
    cases ahead_of_mem_pending hm with
    | timer there racing armed set =>
      -- its timer would have been set for a delay
      rw [h.timer_eq there] at set
      have hdelay := Request.delay_of_timer set
      rw [hnone] at hdelay
      cases hdelay
    | call there racing waited held => exact budget_apply hs hm
  | abandon i => exact budget_apply hs hm
  | cut i branch => exact budget_apply hs hm
  | wind t => cases hid

theorem Timed.decided (h : Timed id first run seen) (hs : run.Sound) {found : β}
    {uses : List BudgetUse} (hcharged : Charged id found uses run.budget seen) :
    Decided svc id first.started first.delay found uses run seen where
  stands := by
    obtain ⟨stage, there⟩ := h.stands
    exact ⟨_, there, rfl, rfl⟩
  ahead _ := h.ahead_iff
  apart _ hm hne _ _ := h.apart hs hm hne
  asked := by
    intro ask hask
    rcases h.asked with hnone | ⟨now, granted, t, hone, set, hle⟩
    · rw [hnone] at hask
      cases hask
    · rw [hone] at hask
      obtain rfl := List.mem_singleton.mp hask
      exact ⟨t, set, hle⟩
  once := by
    rcases h.asked with hnone | ⟨_, _, _, hone, -⟩
    · rw [hnone]
      exact Nat.zero_le 1
    · rw [hone]
      exact Nat.le_refl 1
  backups := h.issued
  charged := hcharged
  unhedged := by
    intro hnone
    have hunhedged := h.unhedged hnone
    refine ⟨?_, hunhedged⟩
    rw [hcharged.own, hunhedged.1]
    rfl
  spared hnone _ hm hid := h.spared hs hnone hm hid

/-- Whatever becomes of the requests of a resolver, the delay at the arrival of each has decided its
timer. -/
def DecidesAtArrival (svc : Service σ ρ α ε) (new : Run δ β σ ρ α ε) : Prop :=
  ∀ before, Reaches svc new before → ∀ payload inPlace moves,
    Along svc Possible (before.start svc payload inPlace) moves →
      let id := before.requests.length
      let delay := DelayEstimator.currentDelay before.estimator
      let run := (before.start svc payload inPlace).play svc moves
      let seen := (before.start svc payload inPlace).history svc id moves
      let uses := before.usesAlong svc (.start payload inPlace :: moves)
      Decided svc id before.now delay before.budget uses run seen ∧
        (Along svc Timely (before.start svc payload inPlace) moves →
          Punctual id (delay.map before.now.after) run seen)

theorem decides_at_arrival (svc : Service σ ρ α ε) (service : σ) (estimator : δ) (budget : β) :
    DecidesAtArrival svc (.new service estimator budget) := by
  intro before hbefore payload inPlace moves hmoves id delay run seen uses
  have hs : before.Sound := hbefore.sound (new_sound service estimator budget)
  have hstart : (before.start svc payload inPlace).Sound := hs.start svc payload inPlace
  have hlater : Reaches svc (before.start svc payload inPlace) run := ⟨moves, hmoves, rfl⟩
  have hcharged : Charged id before.budget uses run.budget seen := charged_play hs hmoves
  obtain ⟨htimed, hpunctual⟩ := start_timed svc before payload inPlace
  exact ⟨(htimed.play hstart hmoves).decided (hlater.sound hstart) hcharged,
    fun htimely => hpunctual.play htimed hstart htimely⟩

end Run

end Hedging
