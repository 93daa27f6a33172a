import Hedging.Proofs.Race.Loop
import Hedging.Run

/-!
# Who decides a race

A race is decided by the first call that ends with a value or an error; a call that is cancelled
only decides it when no other one is left. `Trail` follows a race round its loop and keeps what was
heard of its calls so far next to what was done about it: everything heard was a cancellation,
nothing was sampled, and a call is gone exactly when it was heard of.

`Trail.step` takes it over one turn and `Trail.after` over any number of them, up to the last event,
which is the one that decides:

> `outcome_of_maximal`: the outcome of a race that was left to run out, for every order of its
> events.
-/

namespace Hedging.Race

variable {ρ α ε : Type} {payload : ρ} {fresh : CallId} {r r' : Race ρ α ε} {e : Event α ε}
  {actions : List (Action ρ)}

/-! ## What is heard of the calls, and what is done about it -/

/-- The ends of calls among some events. -/
def reports (events : List (Event α ε)) : List (Branch × Completion α ε) :=
  events.filterMap fun
    | .completed branch completion => some (branch, completion)
    | _ => none

/-- Does an action send a backup? -/
def Action.isIssue : Action ρ → Bool
  | .issue _ => true
  | _ => false

/-- Does an action feed the estimator? -/
def Action.isSample : Action ρ → Bool
  | .sample _ => true
  | _ => false

theorem reports_append (before later : List (Event α ε)) :
    reports (before ++ later) = reports before ++ reports later := List.filterMap_append ..

theorem countP_isSample_closing (r : Race ρ α ε) (branch : Branch) (id : CallId) :
    (r.closing branch id).countP Action.isSample = 1 := by
  cases branch with
  | primary => rfl
  | backup =>
    unfold closing
    cases r.primary <;> rfl

theorem toDo_append (fresh : CallId) (r : Race ρ α ε) (before later : List (Event α ε)) :
    r.toDo fresh (before ++ later) =
      r.toDo fresh before ++ (r.after fresh before).toDo fresh later := by
  induction before generalizing r with
  | nil => rfl
  | cons e rest ih =>
    rw [List.cons_append, toDo, toDo, ih, List.append_assoc]
    rfl

theorem after_append (fresh : CallId) (r : Race ρ α ε) (before later : List (Event α ε)) :
    r.after fresh (before ++ later) = (r.after fresh before).after fresh later :=
  List.foldl_append ..

theorem admits_append {before later : List (Event α ε)} :
    r.Admits fresh (before ++ later) ↔
      r.Admits fresh before ∧ (r.after fresh before).Admits fresh later := by
  induction before generalizing r with
  | nil => simp [Admits, after]
  | cons e rest ih =>
    rw [List.cons_append, Admits, Admits, ih, and_assoc]
    rfl

/-! ## A decided race -/

/-- Whatever comes after a decision, the slot keeps its value. -/
theorem slot_step_of_isResolved (fresh : CallId) (h : r.isResolved = true) (e : Event α ε) :
    (r.step fresh e).1.slot = r.slot := by
  have hslot : ∀ value, (r.slot.complete value).2 = r.slot := fun value => by
    rw [Slot.complete_of_isResolved h]
  cases e with
  | completed branch completion =>
    cases branch with
    | primary =>
      simp only [step, primaryCompleted]
      split
      · split
        · exact hslot _
        · rfl
      · exact hslot _
    | backup =>
      simp only [step, backupCompleted]
      split
      · split
        · exact hslot _
        · rfl
      · split
        · exact hslot _
        · rfl
  | timer granted =>
    simp [step, timerFired, timerIsStale, h]
  | exhausted => exact hslot _

theorem isResolved_step_of_isResolved (fresh : CallId) (h : r.isResolved = true)
    (e : Event α ε) : (r.step fresh e).1.isResolved = true := by
  unfold isResolved
  rw [slot_step_of_isResolved fresh h e]
  exact h

theorem slot_after_of_isResolved (h : r.isResolved = true) (events : List (Event α ε)) :
    (r.after fresh events).slot = r.slot := by
  induction events generalizing r with
  | nil => rfl
  | cons e rest ih =>
    rw [after_cons, ih (isResolved_step_of_isResolved fresh h e),
      slot_step_of_isResolved fresh h e]

/-- No backup is sent for a race that is decided, not even by a timer that comes late. -/
theorem no_issue_step_of_isResolved (h : r.isResolved = true) (e : Event α ε) :
    (r.step fresh e).2.any Action.isIssue = false := by
  cases e with
  | completed branch completion =>
    cases branch with
    | primary =>
      simp only [step, primaryCompleted]
      split
      · split <;> rfl
      · cases r.primary <;> rfl
    | backup =>
      simp only [step, backupCompleted]
      split
      · split <;> rfl
      · rw [Slot.complete_of_isResolved h]
        rfl
  | timer granted => simp [step, timerFired, timerIsStale, h, Action.isIssue]
  | exhausted => rfl

theorem no_issue_of_isResolved (h : r.isResolved = true) (events : List (Event α ε)) :
    (r.toDo fresh events).any Action.isIssue = false := by
  induction events generalizing r with
  | nil => rfl
  | cons e rest ih =>
    rw [toDo, List.any_append, no_issue_step_of_isResolved h e,
      ih (isResolved_step_of_isResolved fresh h e)]
    rfl

/-! ## A race on its way -/

/-- A race that is under way, with what was heard and done so far. -/
structure Trail (payload : ρ) (heard : List (Branch × Completion α ε)) (done : List (Action ρ))
    (r : Race ρ α ε) : Prop where
  sound : r.Sound payload
  cancelled_of_heard : ∀ report ∈ heard, report.2 = .cancelled
  unsampled : done.countP Action.isSample = 0
  primary_gone : r.primary = none ↔ (.primary, .cancelled) ∈ heard
  backup_gone : r.backup = none ∧ done.any Action.isIssue = true ↔ (.backup, .cancelled) ∈ heard
  backup_of_unissued : done.any Action.isIssue = false → r.backup = none
  disarmed_of_issued : done.any Action.isIssue = true → r.timerArmed = false

theorem start_trail (payload : ρ) (primary : CallId) (hedged : Bool) :
    Trail payload [] [] (start payload primary hedged : Race ρ α ε) :=
  { sound := start_sound payload primary hedged
    cancelled_of_heard := fun _ h => absurd h (by simp)
    unsampled := rfl
    primary_gone := by simp [start]
    backup_gone := by simp
    backup_of_unissued := fun _ => rfl
    disarmed_of_issued := fun h => absurd h (by simp) }

section Trail

variable {heard : List (Branch × Completion α ε)} {done : List (Action ρ)}

/-- A backup that is under way was sent. -/
theorem Trail.issued_of_backup (h : Trail payload heard done r) {id : CallId}
    (hb : r.backup = some id) : done.any Action.isIssue = true := by
  cases hd : done.any Action.isIssue with
  | true => rfl
  | false =>
    rw [h.backup_of_unissued hd] at hb
    exact absurd hb (by simp)

/-- While the timer is armed no backup was sent. -/
theorem Trail.unissued_of_armed (h : Trail payload heard done r) (ha : r.timerArmed = true) :
    done.any Action.isIssue = false := by
  cases hd : done.any Action.isIssue with
  | false => rfl
  | true =>
    rw [h.disarmed_of_issued hd] at ha
    exact absurd ha (by simp)

/-- A backup is sent: it is the first one, and none was heard of. -/
theorem Trail.of_hedged (h : Trail payload heard done r) (armed : r.timerArmed = true)
    (hs : ({ r with timerArmed := false, spare := none, backup := some fresh } :
      Race ρ α ε).Sound payload) :
    Trail payload heard (done ++ [.hedge, .issue payload])
      { r with timerArmed := false, spare := none, backup := some fresh } := by
  have hheard : (Branch.backup, Completion.cancelled) ∉ heard := by
    intro hm
    have hissued := (h.backup_gone.mpr hm).2
    rw [h.unissued_of_armed armed] at hissued
    exact absurd hissued (by simp)
  refine ⟨hs, h.cancelled_of_heard, ?_, h.primary_gone, ?_, ?_, fun _ => rfl⟩
  · simp [List.countP_append, h.unsampled, Action.isSample]
  · simpa using hheard
  · intro hn
    simp [Action.isIssue] at hn

/-- A backup is refused, which nobody hears of. -/
theorem Trail.of_refused (h : Trail payload heard done r)
    (hs : ({ r with timerArmed := false } : Race ρ α ε).Sound payload) :
    Trail payload heard (done ++ [.deny]) { r with timerArmed := false } := by
  have hany : (done ++ [Action.deny]).any Action.isIssue = done.any Action.isIssue := by
    simp [Action.isIssue]
  refine ⟨hs, h.cancelled_of_heard, ?_, h.primary_gone, ?_, ?_, fun _ => rfl⟩
  · simp [List.countP_append, h.unsampled, Action.isSample]
  · rw [hany]
    exact h.backup_gone
  · rw [hany]
    exact h.backup_of_unissued

/-- A call is cancelled and heard of, and nothing is done about it. -/
theorem Trail.of_bereft (h : Trail payload heard done r) {branch : Branch} {id : CallId}
    (waited : r.call branch = some id) (hs : (r.without branch).Sound payload) :
    Trail payload (heard ++ [(branch, .cancelled)]) done (r.without branch) := by
  have hheard : ∀ report ∈ heard ++ [(branch, Completion.cancelled)], report.2 = .cancelled := by
    intro report hm
    rcases List.mem_append.mp hm with hm | hm
    · exact h.cancelled_of_heard report hm
    · rw [List.mem_singleton.mp hm]
  cases branch with
  | primary =>
    refine ⟨hs, hheard, h.unsampled, ?_, ?_, h.backup_of_unissued, h.disarmed_of_issued⟩
    · simp [without]
    · simpa [without] using h.backup_gone
  | backup =>
    have hissued := h.issued_of_backup waited
    refine ⟨hs, hheard, h.unsampled, ?_, ?_, fun _ => rfl, h.disarmed_of_issued⟩
    · simpa [without] using h.primary_gone
    · simp [without, hissued]

/-- A turn that decides nothing was one of the timer, or a cancellation that left the other call. -/
theorem Trail.step (h : Trail payload heard done r) (ht : Turn payload fresh r e r' actions)
    (hr : r'.isResolved = false) :
    Trail payload (heard ++ reports [e]) (done ++ actions) r' := by
  have hs := ht.sound h.sound hr
  cases ht with
  | hedged armed =>
    have hnone : reports [(.timer true : Event α ε)] = [] := rfl
    rw [hnone, List.append_nil]
    exact h.of_hedged armed hs
  | refused armed =>
    have hnone : reports [(.timer false : Event α ε)] = [] := rfl
    rw [hnone, List.append_nil]
    exact h.of_refused hs
  | answered waited ended =>
    rw [isResolved_decided] at hr
    exact absurd hr (by simp)
  | bereft waited left =>
    rw [List.append_nil]
    exact h.of_bereft waited hs
  | lost waited alone =>
    rw [isResolved_decided] at hr
    exact absurd hr (by simp)

/-- The trail goes on up to every event that comes. -/
theorem Trail.after {before later : List (Event α ε)} (h : Trail payload heard done r)
    (ha : r.Admits fresh (before ++ e :: later)) :
    Trail payload (heard ++ reports before) (done ++ r.toDo fresh before)
      (r.after fresh before) := by
  induction before generalizing r heard done with
  | nil => simpa [reports, toDo, Race.after] using h
  | cons e₁ rest ih =>
    have ht := step_turn fresh h.sound ha.1
    -- another event is still to come, and nothing comes after a decision
    have hr : (r.step fresh e₁).1.isResolved = false := by
      cases hr : (r.step fresh e₁).1.isResolved with
      | false => rfl
      | true =>
        have := Admits.eq_nil hr ha.2
        exact absurd this (by simp)
    have hrest := ih (h.step ht hr) ha.2
    rw [List.append_assoc, List.append_assoc, ← reports_append] at hrest
    exact hrest

/-- The calls that were heard of before a call ended with a value or an error. -/
theorem Trail.find_answered (h : Trail payload heard done r) {branch : Branch}
    {completion : Completion α ε} (hc : completion.isCancelled = false) :
    (heard ++ [(branch, completion)]).find? (!·.2.isCancelled) = some (branch, completion) := by
  have hnone : heard.find? (fun report => !report.2.isCancelled) = none := by
    rw [List.find?_eq_none]
    intro report hm
    simp [h.cancelled_of_heard report hm, Completion.isCancelled]
  rw [List.find?_append, hnone]
  simp [hc]

/-- A call that is under way was not heard of. -/
theorem Trail.not_heard (h : Trail payload heard done r) {branch : Branch} {id : CallId}
    (hid : r.call branch = some id) : (branch, Completion.cancelled) ∉ heard := by
  intro hm
  cases branch with
  | primary =>
    have hp : r.primary = some id := hid
    rw [h.primary_gone.mpr hm] at hp
    exact absurd hp (by simp)
  | backup =>
    have hb : r.backup = some id := hid
    rw [(h.backup_gone.mpr hm).1] at hb
    exact absurd hb (by simp)

end Trail

/-! ## The outcome -/

/-- What the events of a race come to: `outcome` is what they leave in the slot. -/
structure Decides (fresh : CallId) (r : Race ρ α ε) (events : List (Event α ε))
    (outcome : Branch × Completion α ε) : Prop where
  stored : (r.after fresh events).slot.get? = some outcome
  /-- No event but the last one writes the slot. -/
  once : ∀ before later, events = before ++ later → later ≠ [] →
    (r.after fresh before).slot = .vacant
  /-- Whatever may come later, enabled or not, leaves the slot as it is. -/
  kept : ∀ later, (r.after fresh (events ++ later)).slot = (r.after fresh events).slot
  /-- The first call to end with a value or an error is the one that counts. -/
  first : ∀ report, (reports events).find? (!·.2.isCancelled) = some report → outcome = report
  /-- The request is cancelled exactly if every call that was issued for it was. -/
  cancelled_iff : ∀ latency,
    Run.resultOf latency (r.after fresh events).slot.get? = .error .cancelled ↔
      (.primary, .cancelled) ∈ reports events ∧
        ((r.toDo fresh events).any Action.isIssue = true →
          (.backup, .cancelled) ∈ reports events)
  /-- A cancelled call settles nothing while the other one is under way. -/
  unsettled : ∀ before branch later, events = before ++ .completed branch .cancelled :: later →
    ((r.after fresh before).call branch.other).isSome = true →
      ((r.after fresh before).step fresh (.completed branch .cancelled)).1.slot = .vacant
  /-- Nothing is done about a cancelled call; it is not sampled either. -/
  undone : ∀ before branch later, events = before ++ .completed branch .cancelled :: later →
    ((r.after fresh before).step fresh (.completed branch .cancelled)).2 = []
  /-- Once the primary was cancelled with no backup under way, no event sends one any more. -/
  unhedged : ∀ before later, events = before ++ .completed .primary .cancelled :: later →
    (r.after fresh before).backup = none → ∀ more,
      ((r.after fresh (before ++ [.completed .primary .cancelled])).toDo fresh more).any
        Action.isIssue = false
  samples : (r.toDo fresh events).countP Action.isSample = if outcome.2.isCancelled then 0 else 1

/-- The state in which an event comes is on the trail. -/
theorem Trail.at_event {before later : List (Event α ε)} (h : Trail payload [] [] r)
    (ha : r.Admits fresh (before ++ e :: later)) :
    Trail payload (reports before) (r.toDo fresh before) (r.after fresh before) := by
  simpa using h.after ha

/-- A race that is over was decided by its last event. -/
theorem Trail.deciding_turn {events : List (Event α ε)} (h : Trail payload [] [] r)
    (ha : r.Admits fresh events) (hover : (r.after fresh events).IsOver) :
    ∃ before last, events = before ++ [last] ∧
      ((r.after fresh before).step fresh last).1.isResolved = true ∧
      Turn payload fresh (r.after fresh before) last ((r.after fresh before).step fresh last).1
        ((r.after fresh before).step fresh last).2 := by
  rcases List.eq_nil_or_concat events with hnil | ⟨before, last, hevents⟩
  · -- a race that has seen nothing is not over
    subst hnil
    exact absurd hover h.sound.not_isOver
  · rw [List.concat_eq_append] at hevents
    subst hevents
    have ht := h.at_event ha
    have hlast := (admits_append.mp ha).2.1
    have hturn := step_turn fresh ht.sound hlast
    refine ⟨before, last, rfl, ?_, hturn⟩
    cases hr : ((r.after fresh before).step fresh last).1.isResolved with
    | true => rfl
    | false =>
      rw [after_append] at hover
      exact absurd hover (hturn.sound ht.sound hr).not_isOver

theorem step_cancelled_actions (h : r.Sound payload) (branch : Branch) :
    (r.step fresh (.completed branch .cancelled)).2 = [] := by
  cases hother : r.call branch.other with
  | none => rw [step_cancelled_alone fresh h hother]
  | some other => rw [step_cancelled_left fresh hother]

/-- A race that its last event decided. What goes before that event was on the trail, so all that is
left to know is what the last event puts into the slot. -/
theorem Trail.decides {before : List (Event α ε)} {last : Event α ε}
    {outcome : Branch × Completion α ε} (h : Trail payload [] [] r)
    (ha : r.Admits fresh (before ++ [last]))
    (hslot : ((r.after fresh before).step fresh last).1.slot = ⟨some outcome⟩)
    (hfirst : ∀ report, (reports (before ++ [last])).find? (!·.2.isCancelled) = some report →
      outcome = report)
    (hcancelled : outcome.2 = .cancelled ↔
      (.primary, .cancelled) ∈ reports (before ++ [last]) ∧
        ((r.toDo fresh (before ++ [last])).any Action.isIssue = true →
          (.backup, .cancelled) ∈ reports (before ++ [last])))
    (hsamples : (r.toDo fresh (before ++ [last])).countP Action.isSample =
      if outcome.2.isCancelled then 0 else 1) :
    r.Decides fresh (before ++ [last]) outcome := by
  have hafter : (r.after fresh (before ++ [last])).slot = ⟨some outcome⟩ := by
    rw [after_append]
    exact hslot
  have hres : (r.after fresh (before ++ [last])).isResolved = true := by
    unfold isResolved
    rw [hafter]
    rfl
  have hsound : ∀ {front e later}, before ++ [last] = front ++ e :: later →
      (r.after fresh front).Sound payload :=
    fun heq => (h.at_event (heq ▸ ha)).sound
  refine ⟨by rw [hafter]; rfl, ?_, ?_, hfirst, ?_, ?_, ?_, ?_, hsamples⟩
  · intro front later heq hne
    obtain ⟨e, rest, rfl⟩ := List.exists_cons_of_ne_nil hne
    exact (hsound heq).vacant
  · intro later
    rw [after_append, slot_after_of_isResolved hres]
  · intro latency
    rw [hafter, ← hcancelled]
    obtain ⟨branch, completion⟩ := outcome
    cases completion <;> simp [Slot.get?, Run.resultOf]
  · intro front branch later heq hother
    obtain ⟨other, hother⟩ := Option.isSome_iff_exists.mp hother
    have hs := hsound heq
    rw [step_cancelled_left fresh hother]
    cases branch <;> exact hs.vacant
  · intro front branch later heq
    exact step_cancelled_actions (hsound heq) branch
  · -- a primary that is cancelled alone decides the race, and a decided race sends nothing
    intro front later heq hb more
    apply no_issue_of_isResolved
    have halone : (r.after fresh front).call Branch.primary.other = none := hb
    have hstep := step_cancelled_alone fresh (hsound heq) halone
    rw [after_append, after_cons, hstep]
    exact isResolved_decided _ .primary .cancelled

/-- The outcome when the last event is the end of a call with a value or an error. -/
theorem Trail.decides_answered {before : List (Event α ε)} {branch : Branch} {id : CallId}
    {completion : Completion α ε} (h : Trail payload [] [] r)
    (ha : r.Admits fresh (before ++ [.completed branch completion]))
    (hid : (r.after fresh before).call branch = some id)
    (hc : completion.isCancelled = false) :
    r.Decides fresh (before ++ [.completed branch completion]) (branch, completion) := by
  have ht := h.at_event ha
  have hstep := step_answered fresh ht.sound hid hc
  have hreports : reports (before ++ [.completed branch completion]) =
      reports before ++ [(branch, completion)] := reports_append ..
  have hdo : r.toDo fresh (before ++ [.completed branch completion]) =
      r.toDo fresh before ++ (r.after fresh before).closing branch id := by
    rw [toDo_append, toDo, toDo, hstep, List.append_nil]
  have hne : completion ≠ .cancelled := fun he => by
    rw [he] at hc
    exact absurd hc (by simp [Completion.isCancelled])
  have hnot : (branch, Completion.cancelled) ∉ reports before ++ [(branch, completion)] := by
    simp only [List.mem_append, List.mem_singleton, Prod.mk.injEq, true_and, not_or]
    exact ⟨ht.not_heard hid, fun he => hne he.symm⟩
  refine h.decides ha ?_ ?_ ?_ ?_
  · rw [hstep]
    exact slot_decided ..
  · intro report hreport
    rw [hreports, ht.find_answered hc] at hreport
    exact Option.some.inj hreport
  · rw [hreports]
    refine ⟨fun he => absurd he hne, fun hall => ?_⟩
    cases branch with
    | primary => exact absurd hall.1 hnot
    | backup =>
      refine absurd (hall.2 ?_) hnot
      rw [hdo, List.any_append, ht.issued_of_backup hid]
      rfl
  · rw [hdo, List.countP_append, ht.unsampled, countP_isSample_closing, hc]
    rfl

/-- The outcome when the last event is the cancellation of the only call left. -/
theorem Trail.decides_lost {before : List (Event α ε)} {branch : Branch}
    (h : Trail payload [] [] r) (ha : r.Admits fresh (before ++ [.completed branch .cancelled]))
    (halone : (r.after fresh before).call branch.other = none) :
    r.Decides fresh (before ++ [.completed branch .cancelled]) (branch, .cancelled) := by
  have ht := h.at_event ha
  have hstep := step_cancelled_alone fresh ht.sound halone
  have hreports : reports (before ++ [(.completed branch .cancelled : Event α ε)]) =
      reports before ++ [(branch, .cancelled)] := reports_append ..
  have hdo : r.toDo fresh (before ++ [.completed branch .cancelled]) = r.toDo fresh before := by
    rw [toDo_append, toDo, toDo, hstep, List.append_nil, List.append_nil]
  refine h.decides ha ?_ ?_ ?_ ?_
  · rw [hstep]
    exact slot_decided ..
  · intro report hreport
    rw [hreports] at hreport
    have hcancelled : report.2 = .cancelled := by
      rcases List.mem_append.mp (List.mem_of_find?_eq_some hreport) with hm | hm
      · exact ht.cancelled_of_heard report hm
      · rw [List.mem_singleton.mp hm]
    have hfound := List.find?_some hreport
    simp [hcancelled, Completion.isCancelled] at hfound
  · rw [hreports, hdo]
    refine ⟨fun _ => ⟨?_, fun hissued => ?_⟩, fun _ => rfl⟩
    · cases branch with
      | primary => simp
      | backup => exact List.mem_append_left _ (ht.primary_gone.mp halone)
    · cases branch with
      | primary => exact List.mem_append_left _ (ht.backup_gone.mp ⟨halone, hissued⟩)
      | backup => simp
  · rw [hdo, ht.unsampled]
    rfl

/-- **The outcome of a race that ran out**, for every order of its events: whether or not the timer
was armed, whether the budget paid or not, and whichever call ended first and how. There are at most
three events, so every race runs out. -/
theorem outcome_of_maximal (payload : ρ) (primary fresh : CallId) (hedged : Bool)
    {events : List (Event α ε)} (ha : (start payload primary hedged).Admits fresh events)
    (hover : ((start payload primary hedged).after fresh events).IsOver) :
    events.length ≤ 3 ∧
      ∃ outcome, (start payload primary hedged).Decides fresh events outcome := by
  have h : Trail payload [] [] (start payload primary hedged : Race ρ α ε) :=
    start_trail payload primary hedged
  refine ⟨length_le_three ha, ?_⟩
  obtain ⟨before, last, rfl, hres, hturn⟩ := h.deciding_turn ha hover
  have hopen := (h.at_event ha).sound.isResolved
  rcases hturn.deciding hopen hres with
    ⟨branch, id, completion, rfl, hid, hc⟩ | ⟨branch, rfl, halone⟩
  · exact ⟨_, h.decides_answered ha hid hc⟩
  · exact ⟨_, h.decides_lost ha halone⟩

/-- The backup is cancelled and the primary answers after all. -/
theorem outcome_of_backup_cancelled :
    let events : List (Event Nat Unit) :=
      [.timer true, .completed .backup .cancelled, .completed .primary (.succeeded 7)]
    (start "a" 0 true).Admits 1 events ∧ ((start "a" 0 true).after 1 events).IsOver ∧
      (start "a" 0 true).Decides 1 events (.primary, .succeeded 7) := by
  have ha : (start "a" 0 true).Admits 1
      ([.timer true, .completed .backup .cancelled, .completed .primary (.succeeded 7)] :
        List (Event Nat Unit)) := ⟨rfl, rfl, rfl, trivial⟩
  have hover : ((start "a" 0 true).after 1
      ([.timer true, .completed .backup .cancelled, .completed .primary (.succeeded 7)] :
        List (Event Nat Unit))).IsOver := isOver_of_isResolved rfl
  obtain ⟨-, outcome, hdecides⟩ := outcome_of_maximal "a" 0 1 true ha hover
  refine ⟨ha, hover, ?_⟩
  have hstored := hdecides.stored
  obtain rfl : outcome = (.primary, .succeeded 7) := (Option.some.inj hstored).symm
  exact hdecides

end Hedging.Race
