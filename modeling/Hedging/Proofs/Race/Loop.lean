import Hedging.Race

/-!
# The invariant of the race loop

A race goes round a loop: it waits for the first enabled event, and the event takes it on. `Sound`
is what holds whenever it waits. There is a call to wait for, and while the timer is armed the
primary is under way, no backup was sent, and the request is kept for it.

From a sound race an enabled event can only take one of the five turns that `Turn` lists, with what
is to be done in each of them:

> `step_turn`: an enabled event takes a turn.

`Turn.sound` says that the invariant survives every turn that decides nothing. `Turn.potential_lt`
says that every turn uses up some of what a race can still wait for, so no race goes on for ever
(`length_le_potential`).
-/

namespace Hedging.Race

variable {ρ α ε : Type} {payload : ρ} {fresh : CallId} {r r' : Race ρ α ε} {e : Event α ε}
  {actions : List (Action ρ)}

/-! ## The invariant -/

/-- What holds of a race whenever it waits. -/
structure Sound (payload : ρ) (r : Race ρ α ε) : Prop where
  vacant : r.slot = .vacant
  waits : r.primary.isSome = true ∨ r.backup.isSome = true
  primary_of_armed : r.timerArmed = true → r.primary.isSome = true
  backup_of_armed : r.timerArmed = true → r.backup = none
  spare_of_armed : r.timerArmed = true → r.spare = some payload

theorem start_sound (payload : ρ) (primary : CallId) (hedged : Bool) :
    (start payload primary hedged : Race ρ α ε).Sound payload :=
  ⟨rfl, Or.inl rfl, fun _ => rfl, fun _ => rfl, fun _ => rfl⟩

theorem Sound.isResolved (h : r.Sound payload) : r.isResolved = false := by
  unfold Race.isResolved
  rw [h.vacant]
  rfl

/-- The timer of a sound race never goes off in vain. -/
theorem Sound.timerIsStale (h : r.Sound payload) (ha : r.timerArmed = true) :
    r.timerIsStale = false := by
  unfold Race.timerIsStale
  rw [h.isResolved, Bool.false_or, Option.isNone_eq_false_iff]
  exact h.primary_of_armed ha

/-- With a backup under way the timer is disarmed. -/
theorem Sound.disarmed (h : r.Sound payload) (hb : r.backup.isSome = true) :
    r.timerArmed = false := by
  cases ha : r.timerArmed with
  | false => rfl
  | true =>
    rw [h.backup_of_armed ha] at hb
    exact absurd hb (by simp)

/-- A sound race has something to wait for other than that there is nothing left. -/
theorem Sound.exhausted_disabled (h : r.Sound payload) : r.enabled .exhausted = false := by
  have hw := h.waits
  unfold Race.enabled
  -- either call makes the guard false; without both of them there would be nothing to wait for
  cases hp : r.primary with
  | some k => simp
  | none =>
    cases hb : r.backup with
    | some k => simp
    | none =>
      rw [hp, hb] at hw
      exact absurd hw (by simp)

/-! ## The turns of a race -/

/-- A race that a call has decided. -/
def decided (r : Race ρ α ε) : Branch → Completion α ε → Race ρ α ε
  | .primary, completion =>
    { r with primary := none, slot := ⟨some (.primary, completion)⟩, timerArmed := false }
  | .backup, completion =>
    { r with primary := none, backup := none, slot := ⟨some (.backup, completion)⟩ }

/-- What is to be done when a call decides the race with a value or an error. -/
def closing (r : Race ρ α ε) : Branch → CallId → List (Action ρ)
  | .primary, id => [.sample id]
  | .backup, id => .backupWon id :: (r.primary.toList.map .cancel ++ [.sample id])

theorem isResolved_decided (r : Race ρ α ε) (branch : Branch) (completion : Completion α ε) :
    (r.decided branch completion).isResolved = true := by
  cases branch <;> rfl

theorem slot_decided (r : Race ρ α ε) (branch : Branch) (completion : Completion α ε) :
    (r.decided branch completion).slot = ⟨some (branch, completion)⟩ := by
  cases branch <;> rfl

theorem isResolved_without (r : Race ρ α ε) (branch : Branch) :
    (r.without branch).isResolved = r.isResolved := by
  cases branch <;> rfl

/-- What an enabled event makes of a sound race, and what there is to do about it. -/
inductive Turn (payload : ρ) (fresh : CallId) (r : Race ρ α ε) :
    Event α ε → Race ρ α ε → List (Action ρ) → Prop
  /-- The budget pays for a backup. -/
  | hedged (armed : r.timerArmed = true) :
    Turn payload fresh r (.timer true)
      { r with timerArmed := false, spare := none, backup := some fresh } [.hedge, .issue payload]
  /-- The budget does not pay for a backup. -/
  | refused (armed : r.timerArmed = true) :
    Turn payload fresh r (.timer false) { r with timerArmed := false } [.deny]
  /-- A call ends with a value or an error. -/
  | answered {branch : Branch} {id : CallId} {completion : Completion α ε}
    (waited : r.call branch = some id) (ended : completion.isCancelled = false) :
    Turn payload fresh r (.completed branch completion) (r.decided branch completion)
      (r.closing branch id)
  /-- A call is cancelled while the other one is under way. -/
  | bereft {branch : Branch} {id other : CallId} (waited : r.call branch = some id)
    (left : r.call branch.other = some other) :
    Turn payload fresh r (.completed branch .cancelled) (r.without branch) []
  /-- The only call under way is cancelled. -/
  | lost {branch : Branch} {id : CallId} (waited : r.call branch = some id)
    (alone : r.call branch.other = none) :
    Turn payload fresh r (.completed branch .cancelled) (r.decided branch .cancelled) []

theorem timerFired_granted (h : r.Sound payload) (ha : r.timerArmed = true) :
    r.timerFired fresh true =
      ({ r with timerArmed := false, spare := none, backup := some fresh },
        [.hedge, .issue payload]) := by
  unfold timerFired
  rw [h.timerIsStale ha, h.spare_of_armed ha]
  rfl

theorem timerFired_refused (h : r.Sound payload) (ha : r.timerArmed = true) :
    r.timerFired fresh false = ({ r with timerArmed := false }, [.deny]) := by
  unfold timerFired
  rw [h.timerIsStale ha]
  rfl

/-- The end of the primary with a value or an error decides the race. -/
theorem primaryCompleted_answered (h : r.Sound payload) {id : CallId} (hp : r.primary = some id)
    {completion : Completion α ε} (hc : completion.isCancelled = false) :
    r.primaryCompleted completion = (r.decided .primary completion, r.closing .primary id) := by
  unfold primaryCompleted
  simp only [hc, Bool.false_eq_true, if_false, settle, without, h.vacant, hp]
  simp [Slot.complete, Slot.vacant, decided, closing]

/-- The end of the backup with a value or an error decides the race. -/
theorem backupCompleted_answered (h : r.Sound payload) {id : CallId} (hb : r.backup = some id)
    {completion : Completion α ε} (hc : completion.isCancelled = false) :
    r.backupCompleted completion = (r.decided .backup completion, r.closing .backup id) := by
  unfold backupCompleted
  simp only [hc, Bool.false_eq_true, if_false, settle, without, h.vacant, hb]
  simp [Slot.complete, Slot.vacant, decided, closing]

theorem step_answered (fresh : CallId) (h : r.Sound payload) {branch : Branch} {id : CallId}
    (hid : r.call branch = some id) {completion : Completion α ε}
    (hc : completion.isCancelled = false) :
    r.step fresh (.completed branch completion) =
      (r.decided branch completion, r.closing branch id) := by
  cases branch with
  | primary => exact primaryCompleted_answered h hid hc
  | backup => exact backupCompleted_answered h hid hc

/-- A call that is cancelled leaves the race to the other one. -/
theorem step_cancelled_left (fresh : CallId) {branch : Branch} {other : CallId}
    (hother : r.call branch.other = some other) :
    r.step fresh (.completed branch .cancelled) = (r.without branch, []) := by
  cases branch with
  | primary =>
    have hb : r.backup = some other := hother
    simp [step, primaryCompleted, Completion.isCancelled, hb]
  | backup =>
    have hp : r.primary = some other := hother
    simp [step, backupCompleted, Completion.isCancelled, hp]

/-- A call that is cancelled decides the race when it was the last one. -/
theorem step_cancelled_alone (fresh : CallId) (h : r.Sound payload) {branch : Branch}
    (hother : r.call branch.other = none) :
    r.step fresh (.completed branch .cancelled) = (r.decided branch .cancelled, []) := by
  cases branch with
  | primary =>
    have hb : r.backup = none := hother
    simp [step, primaryCompleted, Completion.isCancelled, hb, settle, without, h.vacant,
      Slot.complete, Slot.vacant, decided]
  | backup =>
    have hp : r.primary = none := hother
    simp [step, backupCompleted, Completion.isCancelled, hp, settle, without, h.vacant,
      Slot.complete, Slot.vacant, decided]

/-- The call that an enabled end belongs to. -/
theorem call_of_enabled {branch : Branch} {completion : Completion α ε}
    (he : r.enabled (.completed branch completion) = true) : ∃ id, r.call branch = some id := by
  unfold enabled at he
  rw [Bool.and_eq_true] at he
  exact Option.isSome_iff_exists.mp he.2

theorem armed_of_enabled {granted : Bool} (he : r.enabled (.timer granted) = true) :
    r.timerArmed = true := by
  unfold enabled at he
  rw [Bool.and_eq_true] at he
  exact he.2

/-- **An enabled event takes one of the five turns.** -/
theorem step_turn (fresh : CallId) (h : r.Sound payload) (he : r.enabled e = true) :
    Turn payload fresh r e (r.step fresh e).1 (r.step fresh e).2 := by
  cases e with
  | completed branch completion =>
    obtain ⟨id, hid⟩ := call_of_enabled he
    cases hc : completion.isCancelled with
    | false =>
      rw [step_answered fresh h hid hc]
      exact .answered hid hc
    | true =>
      -- a cancelled call only decides the race when it was the last one
      obtain rfl : completion = .cancelled := by
        cases completion <;> simp [Completion.isCancelled] at hc ⊢
      cases hother : r.call branch.other with
      | none =>
        rw [step_cancelled_alone fresh h hother]
        exact .lost hid hother
      | some other =>
        rw [step_cancelled_left fresh hother]
        exact .bereft hid hother
  | timer granted =>
    have ha := armed_of_enabled he
    cases granted with
    | true =>
      rw [show r.step fresh (.timer true) = r.timerFired fresh true from rfl,
        timerFired_granted h ha]
      exact .hedged ha
    | false =>
      rw [show r.step fresh (.timer false) = r.timerFired fresh false from rfl,
        timerFired_refused h ha]
      exact .refused ha
  | exhausted => exact absurd he (by rw [h.exhausted_disabled]; simp)

/-- A race is sound as long as it is not decided. -/
theorem Turn.sound (h : r.Sound payload) (ht : Turn payload fresh r e r' actions)
    (hr : r'.isResolved = false) : r'.Sound payload := by
  cases ht with
  | hedged armed =>
    exact ⟨h.vacant, Or.inr rfl, fun ha => absurd ha (by simp), fun ha => absurd ha (by simp),
      fun ha => absurd ha (by simp)⟩
  | refused armed =>
    exact ⟨h.vacant, h.waits, fun ha => absurd ha (by simp), fun ha => absurd ha (by simp),
      fun ha => absurd ha (by simp)⟩
  | answered waited ended =>
    rw [isResolved_decided] at hr
    exact absurd hr (by simp)
  | @bereft branch id other waited left =>
    cases branch with
    | primary =>
      -- the backup is under way, so the timer has gone off and the armed cases are void
      have hb : r.backup = some other := left
      have hd := h.disarmed (by rw [hb]; rfl)
      refine ⟨h.vacant, Or.inr (by simp [without, hb]), ?_, ?_, ?_⟩ <;>
        exact fun ha => absurd (hd.symm.trans ha) (by simp)
    | backup =>
      have hp : r.primary = some other := left
      exact ⟨h.vacant, Or.inl (by simp [without, hp]), h.primary_of_armed, fun _ => rfl,
        h.spare_of_armed⟩
  | lost waited alone =>
    rw [isResolved_decided] at hr
    exact absurd hr (by simp)

/-- What decides a race: the end of a call, or the cancellation of the last one. -/
theorem Turn.deciding (ht : Turn payload fresh r e r' actions) (hopen : r.isResolved = false)
    (hr : r'.isResolved = true) :
    (∃ branch id completion, e = .completed branch completion ∧ r.call branch = some id ∧
      completion.isCancelled = false) ∨
    (∃ branch, e = .completed branch .cancelled ∧ r.call branch.other = none) := by
  cases ht with
  | hedged armed => exact absurd (hopen.symm.trans hr) (by simp)
  | refused armed => exact absurd (hopen.symm.trans hr) (by simp)
  | answered waited ended => exact Or.inl ⟨_, _, _, rfl, waited, ended⟩
  | bereft waited left =>
    rw [isResolved_without] at hr
    exact absurd (hopen.symm.trans hr) (by simp)
  | lost waited alone => exact Or.inr ⟨_, rfl, alone⟩

theorem potential_without_lt {branch : Branch} {id : CallId} (hid : r.call branch = some id) :
    (r.without branch).potential < r.potential := by
  cases branch with
  | primary =>
    have hp : r.primary = some id := hid
    simp only [potential, without, hp, Option.isSome_none, Option.isSome_some, Bool.false_eq_true,
      if_false, if_true]
    exact Nat.add_lt_add_right (Nat.add_lt_add_right Nat.zero_lt_one _) _
  | backup =>
    have hb : r.backup = some id := hid
    simp only [potential, without, hb, Option.isSome_none, Option.isSome_some, Bool.false_eq_true,
      if_false, if_true]
    exact Nat.add_lt_add_right (Nat.add_lt_add_left Nat.zero_lt_one _) _

theorem potential_decided_le (r : Race ρ α ε) (branch : Branch) (completion : Completion α ε) :
    (r.decided branch completion).potential ≤ (r.without branch).potential := by
  cases branch with
  | primary =>
    simp only [potential, decided, without, Option.isSome_none, Bool.false_eq_true, if_false]
    exact Nat.add_le_add_left (Nat.zero_le _) _
  | backup =>
    simp only [potential, decided, without, Option.isSome_none, Bool.false_eq_true, if_false]
    exact Nat.add_le_add_right (Nat.zero_le _) _

/-- Every turn uses up some of what a race can still wait for. -/
theorem Turn.potential_lt (ht : Turn payload fresh r e r' actions) :
    r'.potential < r.potential := by
  cases ht with
  | hedged armed =>
    simp only [potential, armed, Option.isSome_some, if_true, Bool.false_eq_true, if_false]
    omega
  | refused armed => simp [potential, armed]
  | answered waited ended =>
    exact Nat.lt_of_le_of_lt (potential_decided_le ..) (potential_without_lt waited)
  | bereft waited left => exact potential_without_lt waited
  | lost waited alone =>
    exact Nat.lt_of_le_of_lt (potential_decided_le ..) (potential_without_lt waited)

/-! ## Going round the loop -/

/-- The events come one after another, each of them enabled when it comes. -/
def Admits (fresh : CallId) : Race ρ α ε → List (Event α ε) → Prop
  | _, [] => True
  | r, e :: events => r.enabled e = true ∧ Admits fresh (r.step fresh e).1 events

/-- The race after some events. -/
def after (fresh : CallId) (r : Race ρ α ε) (events : List (Event α ε)) : Race ρ α ε :=
  events.foldl (fun r e => (r.step fresh e).1) r

/-- What there is to do in the course of some events. -/
def toDo (fresh : CallId) : Race ρ α ε → List (Event α ε) → List (Action ρ)
  | _, [] => []
  | r, e :: events => (r.step fresh e).2 ++ toDo fresh (r.step fresh e).1 events

/-- No event can come any more. -/
def IsOver (r : Race ρ α ε) : Prop := ∀ e, r.enabled e = false

theorem after_cons (fresh : CallId) (r : Race ρ α ε) (e : Event α ε) (events : List (Event α ε)) :
    r.after fresh (e :: events) = ((r.step fresh e).1).after fresh events := rfl

/-- A race that is decided waits for nothing. -/
theorem isOver_of_isResolved (h : r.isResolved = true) : r.IsOver := by
  intro e
  cases e <;> simp [enabled, h]

/-- A sound race is not over. -/
theorem Sound.not_isOver (h : r.Sound payload) : ¬ r.IsOver := by
  intro hover
  rcases h.waits with hp | hb
  · have := hover (.completed .primary .cancelled)
    simp [enabled, h.isResolved, call, hp] at this
  · have := hover (.completed .backup .cancelled)
    simp [enabled, h.isResolved, call, hb] at this

/-- Nothing comes after a decision. -/
theorem Admits.eq_nil (h : r.isResolved = true) {events : List (Event α ε)}
    (ha : r.Admits fresh events) : events = [] := by
  cases events with
  | nil => rfl
  | cons e rest =>
    have he := ha.1
    rw [isOver_of_isResolved h e] at he
    exact absurd he (by simp)

/-- A race sees no more events than its potential allows. -/
theorem length_le_potential (h : r.Sound payload) {events : List (Event α ε)}
    (ha : r.Admits fresh events) : events.length ≤ r.potential := by
  induction events generalizing r with
  | nil => exact Nat.zero_le _
  | cons e rest ih =>
    have ht := step_turn fresh h ha.1
    have hlt := ht.potential_lt
    cases hr : (r.step fresh e).1.isResolved with
    | true =>
      rw [Admits.eq_nil hr ha.2]
      exact Nat.lt_of_le_of_lt (Nat.zero_le _) hlt
    | false =>
      have hrest := ih (ht.sound h hr) ha.2
      rw [List.length_cons]
      omega

/-- A race sees three events at the most. -/
theorem length_le_three {primary : CallId} {hedged : Bool} {events : List (Event α ε)}
    (ha : (start payload primary hedged).Admits fresh events) : events.length ≤ 3 := by
  have hlen := length_le_potential (start_sound payload primary hedged) ha
  have hpot : (start payload primary hedged : Race ρ α ε).potential ≤ 3 := by
    cases hedged <;> simp [potential, start]
  exact Nat.le_trans hlen hpot

end Hedging.Race
