import Hedging.Proofs.Race.Verdict

/-!
# The rounds of the race loop

A race goes round its loop until its slot is filled. `Race.step` is total, so it also says what
would happen if there were nothing left to wait for, if the hedge timer came too late, if there were
no request left to send as a backup, or if the slot were taken. None of this ever happens. `Ready`
is the invariant with which a round begins, and `Round` is what the round then does with its event:

> `Sound.round`: an enabled event is dealt with by an arm that is meant for it.

`slot_step` and `filter_isOfTimer_toDo` say the same of a race as a whole: all that is ever written
into the slot is what the events try to store, and all that is ever done about the timer is to send
the backup that is counted, or to count a refusal.

> `Rounds.of_admits`: the rounds of a loop, for every order of its events.

`Reached` is for those who meet a race on its way: it has come to where it is by enabled events, and
every turn keeps it so (`Turn.reached`).
-/

namespace Hedging.Race

variable {ρ α ε : Type} {payload : ρ} {fresh : CallId} {r r' : Race ρ α ε} {e : Event α ε}
  {actions : List (Action ρ)} {events : List (Event α ε)}

/-! ## What is put into the slot -/

/-- What an event tries to put into the slot. A call that is cancelled leaves the slot to the other
one, if there is another one. -/
def attempt? (r : Race ρ α ε) : Event α ε → Option (Branch × Completion α ε)
  | .completed branch completion =>
    if completion.isCancelled && (r.call branch.other).isSome then none
    else some (branch, completion)
  | .timer _ => none
  | .exhausted => some (.primary, .cancelled)

/-- Nothing else is ever put into the slot, whatever the race and the event. -/
theorem slot_step (fresh : CallId) (r : Race ρ α ε) (e : Event α ε) :
    (r.step fresh e).1.slot =
      (r.attempt? e).elim r.slot fun outcome => (r.slot.complete outcome).2 := by
  obtain ⟨primary, backup, slot, armed, spare⟩ := r
  cases e with
  | completed branch completion =>
    cases branch with
    | primary =>
      simp only [step, primaryCompleted, attempt?, call, Branch.other]
      cases completion.isCancelled with
      | false => rfl
      | true => cases backup <;> rfl
    | backup =>
      simp only [step, backupCompleted, attempt?, call, Branch.other]
      cases completion.isCancelled with
      | true => cases primary <;> rfl
      | false =>
        -- a slot that refuses the outcome is kept as it is
        cases hr : slot.isResolved with
        | false =>
          rw [Slot.complete_of_not_isResolved hr]
          rfl
        | true =>
          rw [Slot.complete_of_isResolved hr]
          exact (congrArg Prod.snd (Slot.complete_of_isResolved hr _)).symm
  | timer granted =>
    simp only [step, timerFired, attempt?, Option.elim_none]
    split
    · rfl
    · split
      · split <;> rfl
      · rfl
  | exhausted => rfl

/-! ## What is done about the hedge timer -/

/-- Is an action one that the hedge timer asks for? -/
def Action.isOfTimer : Action ρ → Bool
  | .hedge | .issue _ | .deny | .staleTimer => true
  | .sample _ | .backupWon _ | .cancel _ => false

/-- What is to be done about a hedge timer that comes in time: a backup is counted and sent, or its
refusal is counted. -/
def timerActions (payload : ρ) : Event α ε → List (Action ρ)
  | .timer true => [.hedge, .issue payload]
  | .timer false => [.deny]
  | _ => []

theorem filter_isOfTimer_closing (r : Race ρ α ε) (branch : Branch) (id : CallId) :
    (r.closing branch id).filter Action.isOfTimer = [] := by
  cases branch with
  | primary => rfl
  | backup =>
    unfold closing
    cases r.primary <;> rfl

theorem Turn.filter_isOfTimer (ht : Turn payload fresh r e r' actions) :
    actions.filter Action.isOfTimer = timerActions payload e := by
  cases ht with
  | hedged armed => rfl
  | refused armed => rfl
  | answered waited ended => exact filter_isOfTimer_closing ..
  | bereft waited left => rfl
  | lost waited alone => rfl

/-- In the course of a race the timer asks for nothing else. -/
theorem filter_isOfTimer_toDo (h : r.Sound payload) (ha : r.Admits fresh events) :
    (r.toDo fresh events).filter Action.isOfTimer = events.flatMap (timerActions payload) := by
  induction events generalizing r with
  | nil => rfl
  | cons e rest ih =>
    have ht := step_turn fresh h ha.1
    rw [toDo, List.filter_append, List.flatMap_cons, ht.filter_isOfTimer]
    cases hr : (r.step fresh e).1.isResolved with
    | true =>
      rw [Admits.eq_nil hr ha.2]
      rfl
    | false => rw [ih (ht.sound h hr) ha.2]

theorem stale_not_mem_timerActions (payload : ρ) (e : Event α ε) :
    Action.staleTimer ∉ timerActions payload e := by
  cases e with
  | completed branch completion => exact List.not_mem_nil
  | timer granted => cases granted <;> simp [timerActions]
  | exhausted => exact List.not_mem_nil

/-! ## One round -/

theorem armed_of_decided {branch : Branch} {completion : Completion α ε}
    (ha : (r.decided branch completion).timerArmed = true) : r.timerArmed = true := by
  cases branch with
  | primary => cases ha
  | backup => exact ha

/-- The timer is never armed anew. -/
theorem Turn.armed (ht : Turn payload fresh r e r' actions) (ha : r'.timerArmed = true) :
    r.timerArmed = true := by
  cases ht with
  | hedged armed => exact armed
  | refused armed => exact armed
  | answered waited ended => exact armed_of_decided ha
  | @bereft branch _ _ waited left => cases branch <;> exact ha
  | lost waited alone => exact armed_of_decided ha

theorem isResolved_of_enabled (he : r.enabled e = true) : r.isResolved = false := by
  cases hr : r.isResolved with
  | false => rfl
  | true => exact absurd ((isOver_of_isResolved hr e).symm.trans he) (by simp)

/-- What holds of an undecided race when a round of its loop begins. Its delay was `delay`, and
`done` is what was done so far. -/
structure Ready (payload : ρ) (delay : Option Duration) (done : List (Action ρ))
    (r : Race ρ α ε) : Prop where
  waits : r.primary.isSome = true ∨ r.backup.isSome = true
  primary_of_armed : r.timerArmed = true → r.primary.isSome = true
  unissued_of_armed : r.timerArmed = true → r.backup = none ∧ done.any Action.isIssue = false
  spare_of_armed : r.timerArmed = true → r.spare = some payload
  /-- The timer has an instant to go off. -/
  delay_of_armed : r.timerArmed = true → delay.isSome = true
  disarmed_of_backup : r.backup.isSome = true → r.timerArmed = false

/-- What a round does with the event that it hears of. -/
structure Round (payload : ρ) (fresh : CallId) (r : Race ρ α ε) (e : Event α ε) : Prop where
  /-- The round does not end for want of anything to wait for. -/
  heard : e ≠ .exhausted
  /-- The timer has not lost its purpose when it goes off. -/
  timely : ∀ granted, e = .timer granted → r.timerIsStale = false
  asked : (r.step fresh e).2.filter Action.isOfTimer = timerActions payload e
  /-- The request is there to be sent when a backup is granted, and the backup is waited for. -/
  granted : e = .timer true → r.spare = some payload ∧ (r.step fresh e).1.backup = some fresh
  /-- The slot takes what it is given. -/
  stored : ∀ outcome, r.attempt? e = some outcome →
    r.slot.complete outcome = (true, (r.step fresh e).1.slot)
  kept : r.attempt? e = none → (r.step fresh e).1.slot = r.slot

/-- **An enabled event is dealt with by an arm that is meant for it.** -/
theorem Sound.round (fresh : CallId) (h : r.Sound payload) (he : r.enabled e = true) :
    r.Round payload fresh e := by
  refine
    { heard := ?_
      timely := ?_
      asked := (step_turn fresh h he).filter_isOfTimer
      granted := ?_
      stored := ?_
      kept := ?_ }
  · rintro rfl
    exact absurd (h.exhausted_disabled.symm.trans he) (by simp)
  · rintro granted rfl
    exact h.timerIsStale (armed_of_enabled he)
  · rintro rfl
    have ha := armed_of_enabled he
    refine ⟨h.spare_of_armed ha, ?_⟩
    show (r.timerFired fresh true).1.backup = some fresh
    rw [timerFired_granted h ha]
  · intro outcome hattempt
    rw [slot_step, hattempt, Option.elim_some, Slot.complete_of_not_isResolved h.isResolved]
  · intro hattempt
    rw [slot_step, hattempt, Option.elim_none]

/-! ## All rounds -/

/-- The trail goes on as long as nothing is decided. -/
theorem Trail.at_rest (h : Trail payload [] [] r) (ha : r.Admits fresh events)
    (hr : (r.after fresh events).isResolved = false) :
    Trail payload (reports events) (r.toDo fresh events) (r.after fresh events) := by
  rcases List.eq_nil_or_concat events with hnil | ⟨before, last, hevents⟩
  · subst hnil
    exact h
  · rw [List.concat_eq_append] at hevents
    subst hevents
    have ht := h.at_event ha
    have hturn := step_turn fresh ht.sound (admits_append.mp ha).2.1
    rw [after_append] at hr ⊢
    rw [reports_append, toDo_append, toDo, toDo, List.append_nil]
    exact ht.step hturn hr

/-- A timer that is armed was armed from the start. -/
theorem armed_of_after (h : r.Sound payload) (ha : r.Admits fresh events)
    (harmed : (r.after fresh events).timerArmed = true) : r.timerArmed = true := by
  induction events generalizing r with
  | nil => exact harmed
  | cons e rest ih =>
    have ht := step_turn fresh h ha.1
    refine ht.armed ?_
    cases hr : (r.step fresh e).1.isResolved with
    | true =>
      rw [Admits.eq_nil hr ha.2] at harmed
      exact harmed
    | false => exact ih (ht.sound h hr) ha.2 harmed

/-- The rounds that a loop has gone with `events`, and the one that it is about to go. -/
structure Rounds (payload : ρ) (fresh : CallId) (delay : Option Duration) (r : Race ρ α ε)
    (events : List (Event α ε)) : Prop where
  ready : (r.after fresh events).isResolved = false →
    (r.after fresh events).Ready payload delay (r.toDo fresh events)
  next : ∀ e, (r.after fresh events).enabled e = true → (r.after fresh events).Round payload fresh e
  unexhausted : .exhausted ∉ events
  asked : (r.toDo fresh events).filter Action.isOfTimer = events.flatMap (timerActions payload)
  unstale : .staleTimer ∉ r.toDo fresh events
  length_le : events.length ≤ 3

theorem Trail.ready {delay : Option Duration} {heard : List (Branch × Completion α ε)}
    {done : List (Action ρ)} (h : Trail payload heard done r)
    (hdelay : r.timerArmed = true → delay.isSome = true) : r.Ready payload delay done :=
  { waits := h.sound.waits
    primary_of_armed := h.sound.primary_of_armed
    unissued_of_armed := fun ha => ⟨h.sound.backup_of_armed ha, h.unissued_of_armed ha⟩
    spare_of_armed := h.sound.spare_of_armed
    delay_of_armed := hdelay
    disarmed_of_backup := h.sound.disarmed }

/-- **The rounds of a loop**, for every delay and every order of its events. -/
theorem Rounds.of_admits (payload : ρ) (primary fresh : CallId) (delay : Option Duration)
    (ha : (start payload primary delay.isSome).Admits fresh events) :
    (start payload primary delay.isSome).Rounds payload fresh delay events := by
  have h : Trail payload [] [] (start payload primary delay.isSome : Race ρ α ε) :=
    start_trail payload primary delay.isSome
  have hasked := filter_isOfTimer_toDo h.sound ha
  refine
    { ready := fun hr => (h.at_rest ha hr).ready (armed_of_after h.sound ha)
      next := fun e he => (h.at_rest ha (isResolved_of_enabled he)).sound.round fresh he
      unexhausted := ?_
      asked := hasked
      unstale := ?_
      length_le := length_le_three ha }
  · intro hmem
    obtain ⟨before, later, rfl⟩ := List.append_of_mem hmem
    have hsound := (h.at_event ha).sound
    exact (hsound.round fresh (admits_append.mp ha).2.1).heard rfl
  · intro hmem
    have hfilter : Action.staleTimer ∈ events.flatMap (timerActions payload) :=
      hasked ▸ List.mem_filter.mpr ⟨hmem, rfl⟩
    obtain ⟨e, -, he⟩ := List.mem_flatMap.mp hfilter
    exact stale_not_mem_timerActions payload e he

/-! ## Loops under way -/

/-- The race of a loop that has come to where it is by enabled events. -/
def Reached (payload : ρ) (hedged : Bool) (r : Race ρ α ε) : Prop :=
  ∃ primary fresh events, (start payload primary hedged : Race ρ α ε).Admits fresh events ∧
    (start payload primary hedged).after fresh events = r

theorem start_reached (payload : ρ) (primary : CallId) (hedged : Bool) :
    (start payload primary hedged : Race ρ α ε).Reached payload hedged :=
  ⟨primary, primary, [], trivial, rfl⟩

/-- The turns are just what enabled events make of a sound race. -/
theorem Turn.eq_step (h : r.Sound payload) (ht : Turn payload fresh r e r' actions) :
    r.enabled e = true ∧ r.step fresh e = (r', actions) := by
  have hopen := h.isResolved
  cases ht with
  | hedged armed => exact ⟨by simp [enabled, hopen, armed], timerFired_granted h armed⟩
  | refused armed => exact ⟨by simp [enabled, hopen, armed], timerFired_refused h armed⟩
  | answered waited ended =>
    exact ⟨by simp [enabled, hopen, waited], step_answered fresh h waited ended⟩
  | bereft waited left =>
    exact ⟨by simp [enabled, hopen, waited], step_cancelled_left fresh left⟩
  | lost waited alone =>
    exact ⟨by simp [enabled, hopen, waited], step_cancelled_alone fresh h alone⟩

/-- The number of the next call only matters when a backup is granted. -/
theorem step_fresh (fresh fresh' : CallId) (r : Race ρ α ε) (he : e ≠ .timer true) :
    r.step fresh e = r.step fresh' e := by
  cases e with
  | completed branch completion => cases branch <;> rfl
  | timer granted =>
    cases granted with
    | true => exact absurd rfl he
    | false => rfl
  | exhausted => rfl

theorem admits_fresh (fresh' : CallId) (hungranted : .timer true ∉ events)
    (ha : r.Admits fresh events) :
    r.Admits fresh' events ∧ r.after fresh' events = r.after fresh events := by
  induction events generalizing r with
  | nil => exact ⟨trivial, rfl⟩
  | cons e rest ih =>
    rw [List.mem_cons, not_or] at hungranted
    have hstep := step_fresh fresh' fresh r (Ne.symm hungranted.1)
    obtain ⟨hadmits, hafter⟩ := ih hungranted.2 ha.2
    rw [after_cons, after_cons, hstep]
    refine ⟨⟨ha.1, ?_⟩, hafter⟩
    rw [hstep]
    exact hadmits

/-- While the timer is armed no backup was granted. -/
theorem ungranted_of_armed (h : Trail payload [] [] r) (ha : r.Admits fresh events)
    (hr : (r.after fresh events).isResolved = false)
    (harmed : (r.after fresh events).timerArmed = true) : .timer true ∉ events := by
  intro hmem
  have hunissued := (h.at_rest ha hr).unissued_of_armed harmed
  have hissue : Action.issue payload ∈ events.flatMap (timerActions payload) :=
    List.mem_flatMap.mpr ⟨_, hmem, by simp [timerActions]⟩
  rw [← filter_isOfTimer_toDo h.sound ha, List.mem_filter] at hissue
  have hissued : (r.toDo fresh events).any Action.isIssue = true :=
    List.any_eq_true.mpr ⟨_, hissue.1, rfl⟩
  exact absurd (hunissued.symm.trans hissued) (by simp)

/-- A loop that is under way goes on with any enabled event, whatever the number of the next call. -/
theorem Reached.step {hedged : Bool} (h : r.Reached payload hedged) (he : r.enabled e = true)
    (fresh : CallId) : (r.step fresh e).1.Reached payload hedged := by
  obtain ⟨primary, fresh₀, events, ha, rfl⟩ := h
  have htrail : Trail payload [] [] (start payload primary hedged : Race ρ α ε) :=
    start_trail payload primary hedged
  have hopen := isResolved_of_enabled he
  by_cases hgrant : e = .timer true
  · -- no backup was granted before, so the events up to now are the same with the new number
    subst hgrant
    obtain ⟨hadmits, hafter⟩ := admits_fresh fresh
      (ungranted_of_armed htrail ha hopen (armed_of_enabled he)) ha
    rw [← hafter] at he ⊢
    exact ⟨primary, fresh, events ++ [.timer true], admits_append.mpr ⟨hadmits, he, trivial⟩,
      after_append ..⟩
  · rw [step_fresh fresh fresh₀ _ hgrant]
    exact ⟨primary, fresh₀, events ++ [e], admits_append.mpr ⟨ha, he, trivial⟩, after_append ..⟩

theorem Turn.reached {hedged : Bool} (h : r.Sound payload)
    (ht : Turn payload fresh r e r' actions) (hr : r.Reached payload hedged) :
    r'.Reached payload hedged := by
  obtain ⟨he, hstep⟩ := ht.eq_step h
  have hnext := hr.step he fresh
  rw [hstep] at hnext
  exact hnext

end Hedging.Race
