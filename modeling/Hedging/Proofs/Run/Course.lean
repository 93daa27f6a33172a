import Hedging.Proofs.Run.History

/-!
# The course of one request

In a timely run a request goes through few situations, whatever else happens in the meantime. It
waits for its primary with the timer still ahead; the timer goes off, and the budget pays for a
backup or does not; the first of its calls ends, and the request with it. `Course` lists these
situations, each with what an observer has seen up to then and with the instants that the clock has
not passed yet.

> `Course.step`: a move, of the request itself or of another, leads from one situation to another.
> `Course.play`: a request stays on its course through a whole run.
-/

namespace Hedging.Run

variable {δ β σ ρ α ε : Type} {svc : Service σ ρ α ε} {run : Run δ β σ ρ α ε} {id : RequestId}
  {m : Move ρ} {first request : Request ρ α ε} {c : CallId} {primary : Call ρ α ε}

/-! ## The situations -/

/-- The race of a request before anything has happened. -/
def opening (first : Request ρ α ε) (c : CallId) : Race ρ α ε :=
  .start first.payload c first.delay.isSome

/-- What has become of the timer when a request whose primary ends at `ended` is settled. -/
inductive Timer (svc : Service σ ρ α ε) (first : Request ρ α ε) (ended : Instant) :
    List (Instant × Bool) → List (Call ρ α ε) → Prop
  /-- There was none, or it came too late. -/
  | late (after : ∀ t, first.timer = some t → ended ≤ t) : Timer svc first ended [] []
  | refused {t : Instant} (set : first.timer = some t) (before : t ≤ ended) :
    Timer svc first ended [(t, false)] []
  /-- It has brought in a backup for the same payload. -/
  | granted {t : Instant} (service : σ) (set : first.timer = some t) (before : t ≤ ended) :
    Timer svc first ended [(t, true)]
      [.start t first.payload (svc.issue service first.payload).1]

/-- Where a request stands, and what has been seen of it. The request arrived as `first`, with its
primary call under the number `c`. -/
inductive Course (svc : Service σ ρ α ε) (id : RequestId) (first : Request ρ α ε) (c : CallId)
    (primary : Call ρ α ε) (run : Run δ β σ ρ α ε) : History ρ α ε → Prop
  /-- The primary is under way, and so is the timer if there is one. -/
  | waiting
    (there : run.requests[id]? = some { first with stage := .racing (opening first c) })
    (held : run.calls.issues[c]? = some primary) (early : run.now ≤ primary.due)
    (ahead : ∀ t, first.timer = some t → run.now ≤ t) : Course svc id first c primary run {}
  /-- The primary is under way, and there will be no backup. -/
  | refused {asked : List (Instant × Bool)}
    (there : run.requests[id]? =
      some { first with stage := .racing { opening first c with timerArmed := false } })
    (held : run.calls.issues[c]? = some primary) (early : run.now ≤ primary.due)
    (timer : Timer svc first primary.due asked []) :
    Course svc id first c primary run { asked }
  /-- Both calls are under way. -/
  | hedged {asked : List (Instant × Bool)} {b : CallId} {backup : Call ρ α ε}
    (there : run.requests[id]? = some { first with
      stage := .racing { opening first c with
        timerArmed := false, spare := none, backup := some b } })
    (held : run.calls.issues[c]? = some primary) (heldBackup : run.calls.issues[b]? = some backup)
    (early : run.now ≤ primary.due) (earlyBackup : run.now ≤ backup.due)
    (timer : Timer svc first primary.due asked [backup]) :
    Course svc id first c primary run { asked, issued := [backup] }
  /-- A call has ended before all others, and the request with it. -/
  | settled {asked : List (Instant × Bool)} {issued : List (Call ρ α ε)} {branch : Branch}
    {winner : Call ρ α ε} {completion : Completion α ε}
    (there : run.requests[id]? = some { first with
      stage := .settled winner.due
        (resultOf (winner.due.since first.started) (some (branch, completion))) })
    (timer : Timer svc first primary.due asked issued)
    (won : (branch = .primary ∧ winner = primary) ∨ (branch = .backup ∧ issued = [winner]))
    (soonest : ∀ call ∈ primary :: issued, winner.due ≤ call.due)
    (said : winner.reply.completion? = some completion) :
    Course svc id first c primary run
      { asked, issued, fed := [winner.due.since winner.issued] }
  /-- The request was given up, or a call of it broke down. -/
  | gone {seen : History ρ α ε} {stage : Stage ρ α ε}
    (there : run.requests[id]? = some { first with stage })
    (ended : (∃ t, stage = .abandoned t) ∨ ∃ t message, stage = .crashed t message) :
    Course svc id first c primary run seen

variable {seen : History ρ α ε}

/-! ## What lies ahead of a request -/

/-- The timer is armed at first, if there is one. -/
theorem armed_opening {t : Instant} (c : CallId) (set : first.timer = some t) :
    (opening first c).timerArmed = true :=
  Request.delay_of_timer set

/-- What lies ahead of a request that is racing: its timer, or the end of a call that it waits
for. -/
theorem own_ahead {due : Due} (hdue : run.Ahead due) {stage : Stage ρ α ε}
    (there : run.requests[due.request]? = some { first with stage }) :
    ∃ race, stage = .racing race ∧
      ((∃ t turn, due = ⟨t, due.request, .timer, turn⟩ ∧ race.timerArmed = true ∧
          first.timer = some t) ∨
        ∃ branch k call turn, due = ⟨call.due, due.request, .call branch, turn⟩ ∧
          race.call branch = some k ∧ run.calls.issues[k]? = some call) := by
  cases hdue with
  | @timer t id turn request race there' racing armed set =>
    obtain rfl := Option.some.inj (there.symm.trans there')
    exact ⟨race, racing, Or.inl ⟨t, turn, rfl, armed, set⟩⟩
  | @call id branch turn request race k call there' racing waited held =>
    obtain rfl := Option.some.inj (there.symm.trans there')
    exact ⟨race, racing, Or.inr ⟨branch, k, call.asIssued, turn, rfl, waited,
      Ledger.issue_of_held held⟩⟩

/-- A call that a request waits for is not due before the event that comes. -/
theorem due_le_call {due : Due} (hm : run.Timely (.fire due : Move ρ)) {race : Race ρ α ε}
    (branch : Branch) {k : CallId} {call : Call ρ α ε}
    (there : run.requests[id]? = some request) (racing : request.stage = .racing race)
    (waited : race.call branch = some k) (held : run.calls.issues[k]? = some call) :
    due.instant ≤ call.due := by
  obtain ⟨now, hnow, rfl⟩ := Ledger.held_of_issue held
  exact hm.2 _ (call_mem_pending there racing waited hnow)

/-- A request that is given up while it is racing is over. -/
theorem Course.of_abandon_racing {race : Race ρ α ε}
    (there : run.requests[id]? = some { first with stage := .racing race }) :
    Course svc id first c primary (run.abandon id) seen := by
  have hthere : (run.abandon id).requests[id]? =
      some { first with stage := .abandoned run.now } := by
    rw [abandon_racing there rfl]
    exact getElem?_of_stage there rfl
  exact .gone hthere (Or.inl ⟨run.now, rfl⟩)

/-- A request that is on its course does not outlast its primary. -/
theorem Course.now_le (h : Course svc id first c primary run seen)
    (hracing : run.isRacing id = true) : run.now ≤ primary.due := by
  have hnot : ∀ stage : Stage ρ α ε, run.requests[id]? = some { first with stage } →
      ({ first with stage } : Request ρ α ε).isRacing = true := by
    intro stage there
    rw [isRacing_of_there there] at hracing
    exact hracing
  cases h with
  | waiting there held early ahead => exact early
  | refused there held early timer => exact early
  | hedged there held heldBackup early earlyBackup timer => exact early
  | settled there timer won soonest said => exact absurd (hnot _ there) (by simp [Request.isRacing])
  | gone there ended =>
    have hstill := hnot _ there
    rcases ended with ⟨t, rfl⟩ | ⟨t, message, rfl⟩ <;> cases hstill

variable [DelayEstimator δ] [AdmissionBudget β]

/-! ## The moves of others -/

/-- What lies ahead of a request still lies ahead after a move that does not concern it. -/
theorem now_le_of_call (hm : run.Timely m) {race : Race ρ α ε} (branch : Branch)
    (there : run.requests[id]? = some request) (racing : request.stage = .racing race)
    (waited : race.call branch = some c) {call : Call ρ α ε}
    (held : run.calls.issues[c]? = some call) (early : run.now ≤ call.due) :
    (run.apply svc m).now ≤ call.due := by
  obtain ⟨now, hnow, rfl⟩ := Ledger.held_of_issue held
  exact hm.now_le (call_mem_pending there racing waited hnow) early

theorem now_le_of_timer (hm : run.Timely m) {race : Race ρ α ε} {t : Instant}
    (there : run.requests[id]? = some request) (racing : request.stage = .racing race)
    (armed : race.timerArmed = true) (set : request.timer = some t) (early : run.now ≤ t) :
    (run.apply svc m).now ≤ t :=
  hm.now_le (timer_mem_pending there racing armed set) early

/-- A request stands where it stood when the move is that of another. -/
theorem Course.of_other (h : Course svc id first c primary run seen) (hs : run.Sound)
    (hm : run.Timely m) (hne : m.subject ≠ some id) :
    Course svc id first c primary (run.apply svc m) seen := by
  have hc : Change svc run m.subject (run.apply svc m) := apply_change hs hm.possible
  cases h with
  | waiting there held early ahead =>
    refine .waiting (hc.request_kept there fun h => absurd h hne) (hc.issue_kept held) ?_ ?_
    · exact now_le_of_call hm .primary there rfl rfl held early
    · intro t set
      exact now_le_of_timer hm there rfl (armed_opening c set) set (ahead t set)
  | refused there held early timer =>
    refine .refused (hc.request_kept there fun h => absurd h hne) (hc.issue_kept held) ?_ timer
    exact now_le_of_call hm .primary there rfl rfl held early
  | hedged there held heldBackup early earlyBackup timer =>
    refine .hedged (hc.request_kept there fun h => absurd h hne) (hc.issue_kept held)
      (hc.issue_kept heldBackup) ?_ ?_ timer
    · exact now_le_of_call hm .primary there rfl rfl held early
    · exact now_le_of_call hm .backup there rfl rfl heldBackup earlyBackup
  | settled there timer won soonest said =>
    exact .settled (hc.request_kept there fun h => absurd h hne) timer won soonest said
  | gone there ended => exact .gone (hc.request_kept there fun h => absurd h hne) ended

/-! ## The timer goes off -/

/-- What is seen of a move of the request itself. -/
theorem observe_of_subject {asked : List (Instant × Bool)} {issued : List (Call ρ α ε)}
    {fed : List Duration} (hsubject : m.subject = some id) (hasked : run.asks m = asked)
    (hissued : (run.apply svc m).calls.issues = run.calls.issues ++ issued)
    (hfed : (run.apply svc m).fed.toList = run.fed.toList ++ fed) :
    observe svc id run m = ⟨asked, issued, fed⟩ := by
  unfold observe
  rw [if_pos hsubject, hasked, hissued, hfed, List.drop_left, List.drop_left]

theorem Course.of_timer (hs : run.Sound)
    (there : run.requests[id]? = some { first with stage := .racing (opening first c) })
    (held : run.calls.issues[c]? = some primary) {t : Instant} (set : first.timer = some t)
    (ahead : run.now ≤ t) (before : t ≤ primary.due) (turn : Nat) :
    Course svc id first c primary (run.fire svc ⟨t, id, .timer, turn⟩)
      ({} ++ observe svc id run (.fire ⟨t, id, .timer, turn⟩)) := by
  have hnow : max run.now t = t := Nat.max_eq_right ahead
  cases hgranted : (AdmissionBudget.tryConsume run.budget).1 with
  | false =>
    have hfire : run.fire svc ⟨t, id, .timer, turn⟩ =
        (run.wind t).deny svc id { first with stage := .racing (opening first c) }
          (opening first c) := fire_refused hs there rfl (armed_opening c set) hgranted
    have hseen : observe svc id run (.fire ⟨t, id, .timer, turn⟩) = ⟨[(t, false)], [], []⟩ := by
      refine observe_of_subject rfl ?_ ?_ ?_
      · rw [asks, hnow, hgranted]
      · rw [apply, hfire, List.append_nil]
        rfl
      · rw [apply, hfire, List.append_nil]
        rfl
    rw [hseen, hfire]
    -- the clock is at `t` now, which is not past the end of the primary
    refine .refused (getElem?_of_stage there rfl) held ?_ (.refused set before)
    exact Nat.max_le.mpr ⟨Nat.le_trans ahead before, before⟩
  | true =>
    have hfire : run.fire svc ⟨t, id, .timer, turn⟩ =
        (run.wind t).hedge svc id { first with stage := .racing (opening first c) }
          (opening first c) := fire_granted hs there rfl (armed_opening c set) hgranted
    have hissues : (run.fire svc ⟨t, id, .timer, turn⟩).calls.issues =
        run.calls.issues ++ [.start t first.payload (svc.issue run.service first.payload).1] := by
      rw [hfire]
      show (Ledger.issue run.calls (max run.now t) first.payload _).issues = _
      rw [Ledger.issues_issue, hnow]
      rfl
    have hseen : observe svc id run (.fire ⟨t, id, .timer, turn⟩) =
        ⟨[(t, true)], [.start t first.payload (svc.issue run.service first.payload).1], []⟩ := by
      refine observe_of_subject rfl ?_ hissues ?_
      · rw [asks, hnow, hgranted]
      · rw [apply, hfire, List.append_nil]
        rfl
    rw [hseen]
    -- the backup is the last call on the ledger
    refine .hedged (b := run.calls.length) ?_ ?_ ?_ ?_ ?_ (.granted run.service set before)
    · rw [hfire]
      exact getElem?_of_stage there rfl
    · rw [hissues, List.getElem?_append_left (List.getElem?_eq_some_iff.mp held).1]
      exact held
    · have hlength : run.calls.issues.length = run.calls.length := List.length_map ..
      rw [hissues, ← hlength, List.getElem?_concat_length]
    · rw [now_fire, hnow]
      exact before
    · rw [now_fire, hnow]
      exact Instant.le_after ..

/-! ## A call ends -/

/-- The end of a call settles its request with what the call has to say, unless it breaks down. -/
theorem fire_call_ends (svc : Service σ ρ α ε) (hs : run.Sound) {race : Race ρ α ε}
    {branch : Branch} {k : CallId} {winner : Call ρ α ε}
    (there : run.requests[id]? = some { first with stage := .racing race })
    (waited : race.call branch = some k) (held : run.calls.issues[k]? = some winner)
    (early : run.now ≤ winner.due) (turn : Nat) :
    let fired := run.fire svc ⟨winner.due, id, .call branch, turn⟩
    (∃ completion, winner.reply.completion? = some completion ∧
      fired.requests[id]? = some { first with
        stage := .settled winner.due
          (resultOf (winner.due.since first.started) (some (branch, completion))) } ∧
      fired.calls.issues = run.calls.issues ∧
      fired.fed = run.fed.push (winner.due.since winner.issued)) ∨
    ∃ t message, fired.requests[id]? = some { first with stage := .crashed t message } := by
  intro fired
  obtain ⟨call, hcall, rfl⟩ := Ledger.held_of_issue held
  -- the call is not overdue, so it ends at the very instant for which it was due
  have hnow : max run.now call.due = call.due := Nat.max_eq_right early
  cases hsaid : call.reply.completion? with
  | none =>
    obtain ⟨message, hreply⟩ := Reply.eq_crash_of_completion? hsaid
    have hfire : fired = _ := fire_crashed there rfl waited hcall hreply
    refine Or.inr ⟨max run.now call.due, message, ?_⟩
    rw [hfire, dropCalls_eq]
    exact getElem?_of_stage there rfl
  | some completion =>
    have hfire : fired = _ := fire_answered hs there rfl waited hcall hsaid
    have hrequests : fired.requests = run.requests.modify id fun r => { r with
        stage := .settled call.due
          (resultOf (call.due.since first.started) (some (branch, completion))) } := by
      rw [hfire, requests_answer]
      show run.requests.modify id (fun r => { r with
        stage := .settled (max run.now call.due)
          (resultOf ((max run.now call.due : Instant).since first.started) _) }) = _
      rw [hnow]
    refine Or.inl ⟨completion, hsaid, getElem?_of_stage there hrequests, ?_, ?_⟩
    · rw [hfire]
      exact (Ledger.issues_foldl_drop ..).trans (Ledger.issues_finish ..)
    · rw [hfire, fed_answer]
      show run.fed.push (Instant.since (max run.now call.due) call.issued) = _
      rw [hnow]
      rfl

/-- The call that ends before all others takes its request with it. -/
theorem Course.of_end (hs : run.Sound) {race : Race ρ α ε} {branch : Branch} {k : CallId}
    {winner : Call ρ α ε} {asked : List (Instant × Bool)} {issued : List (Call ρ α ε)}
    (there : run.requests[id]? = some { first with stage := .racing race })
    (waited : race.call branch = some k) (held : run.calls.issues[k]? = some winner)
    (early : run.now ≤ winner.due) (timer : Timer svc first primary.due asked issued)
    (won : (branch = .primary ∧ winner = primary) ∨ (branch = .backup ∧ issued = [winner]))
    (soonest : ∀ call ∈ primary :: issued, winner.due ≤ call.due) (turn : Nat) :
    Course svc id first c primary (run.fire svc ⟨winner.due, id, .call branch, turn⟩)
      ({ asked, issued } ++ observe svc id run (.fire ⟨winner.due, id, .call branch, turn⟩)) := by
  rcases fire_call_ends svc hs there waited held early turn with
    ⟨completion, said, hthere, hissues, hfed⟩ | ⟨t, message, hthere⟩
  · have hseen : observe svc id run (.fire ⟨winner.due, id, .call branch, turn⟩) =
        ⟨[], [], [winner.due.since winner.issued]⟩ := by
      refine observe_of_subject rfl rfl ?_ ?_
      · rw [List.append_nil]
        exact hissues
      · rw [apply, hfed, Array.toList_push]
    have hadd : ({ asked, issued } : History ρ α ε) ++ ⟨[], [], [winner.due.since winner.issued]⟩ =
        { asked, issued, fed := [winner.due.since winner.issued] } := by
      show History.mk (asked ++ []) (issued ++ []) ([] ++ [_]) = _
      rw [List.append_nil, List.append_nil, List.nil_append]
    rw [hseen, hadd]
    exact .settled hthere timer won soonest said
  · exact .gone hthere (Or.inr ⟨t, message, rfl⟩)

/-! ## One move -/

section Fire

variable {due : Due}

/-- The first event of a request is its timer, or the end of the primary. -/
theorem Course.of_fire_waiting (hs : run.Sound) (hm : run.Timely (.fire due : Move ρ))
    (there : run.requests[due.request]? = some { first with stage := .racing (opening first c) })
    (held : run.calls.issues[c]? = some primary) (early : run.now ≤ primary.due)
    (ahead : ∀ t, first.timer = some t → run.now ≤ t) :
    Course svc due.request first c primary (run.fire svc due)
      ({} ++ observe svc due.request run (.fire due)) := by
  have hprimary := due_le_call hm .primary there rfl rfl held
  have htimer : ∀ t, first.timer = some t → due.instant ≤ t := fun t set =>
    hm.2 _ (timer_mem_pending there rfl (armed_opening c set) set)
  obtain ⟨race, hrace, hcase⟩ := own_ahead (ahead_of_mem_pending hm.1) there
  obtain rfl := Stage.racing.inj hrace
  rcases hcase with ⟨t, turn, hdue, armed, set⟩ | ⟨branch, k, call, turn, hdue, waited, heldCall⟩
  · rw [hdue] at hprimary ⊢
    exact .of_timer hs there held set (ahead t set) hprimary turn
  · cases branch with
    | primary =>
      obtain rfl := Option.some.inj waited
      obtain rfl := Option.some.inj (held.symm.trans heldCall)
      rw [hdue] at htimer ⊢
      exact .of_end hs there rfl held early (.late htimer) (Or.inl ⟨rfl, rfl⟩) (by simp) turn
    | backup => cases waited

/-- Without a backup the request waits for nothing but its primary. -/
theorem Course.of_fire_refused (hs : run.Sound) (hm : run.Timely (.fire due : Move ρ))
    {asked : List (Instant × Bool)}
    (there : run.requests[due.request]? =
      some { first with stage := .racing { opening first c with timerArmed := false } })
    (held : run.calls.issues[c]? = some primary) (early : run.now ≤ primary.due)
    (timer : Timer svc first primary.due asked []) :
    Course svc due.request first c primary (run.fire svc due)
      ({ asked } ++ observe svc due.request run (.fire due)) := by
  obtain ⟨race, hrace, hcase⟩ := own_ahead (ahead_of_mem_pending hm.1) there
  obtain rfl := Stage.racing.inj hrace
  rcases hcase with ⟨_, _, _, armed, _⟩ | ⟨branch, k, call, turn, hdue, waited, heldCall⟩
  · cases armed
  · cases branch with
    | primary =>
      obtain rfl := Option.some.inj waited
      obtain rfl := Option.some.inj (held.symm.trans heldCall)
      rw [hdue]
      exact .of_end hs there rfl held early timer (Or.inl ⟨rfl, rfl⟩) (by simp) turn
    | backup => cases waited

/-- With both calls under way, the one that ends is due no later than the other. -/
theorem Course.of_fire_hedged (hs : run.Sound) (hm : run.Timely (.fire due : Move ρ))
    {asked : List (Instant × Bool)} {b : CallId} {backup : Call ρ α ε}
    (there : run.requests[due.request]? = some { first with
      stage := .racing { opening first c with
        timerArmed := false, spare := none, backup := some b } })
    (held : run.calls.issues[c]? = some primary) (heldBackup : run.calls.issues[b]? = some backup)
    (early : run.now ≤ primary.due) (earlyBackup : run.now ≤ backup.due)
    (timer : Timer svc first primary.due asked [backup]) :
    Course svc due.request first c primary (run.fire svc due)
      ({ asked, issued := [backup] } ++ observe svc due.request run (.fire due)) := by
  have hprimary := due_le_call hm .primary there rfl rfl held
  have hbackup := due_le_call hm .backup there rfl rfl heldBackup
  obtain ⟨race, hrace, hcase⟩ := own_ahead (ahead_of_mem_pending hm.1) there
  obtain rfl := Stage.racing.inj hrace
  rcases hcase with ⟨_, _, _, armed, _⟩ | ⟨branch, k, call, turn, hdue, waited, heldCall⟩
  · cases armed
  · rw [hdue] at hprimary hbackup ⊢
    have hsoonest : ∀ other ∈ [primary, backup], call.due ≤ other.due := by
      simp only [List.mem_cons, List.not_mem_nil, or_false, forall_eq_or_imp, forall_eq]
      exact ⟨hprimary, hbackup⟩
    cases branch with
    | primary =>
      obtain rfl := Option.some.inj waited
      obtain rfl := Option.some.inj (held.symm.trans heldCall)
      exact .of_end hs there rfl held early timer (Or.inl ⟨rfl, rfl⟩) hsoonest turn
    | backup =>
      obtain rfl := Option.some.inj waited
      obtain rfl := Option.some.inj (heldBackup.symm.trans heldCall)
      exact .of_end hs there rfl heldBackup earlyBackup timer (Or.inr ⟨rfl, rfl⟩) hsoonest turn

theorem Course.of_fire (h : Course svc due.request first c primary run seen) (hs : run.Sound)
    (hm : run.Timely (.fire due : Move ρ)) :
    Course svc due.request first c primary (run.fire svc due)
      (seen ++ observe svc due.request run (.fire due)) := by
  cases h with
  | waiting there held early ahead => exact .of_fire_waiting hs hm there held early ahead
  | refused there held early timer => exact .of_fire_refused hs hm there held early timer
  | hedged there held heldBackup early earlyBackup timer =>
    exact .of_fire_hedged hs hm there held heldBackup early earlyBackup timer
  | settled there timer won soonest said =>
    -- nothing lies ahead of a request that has ended
    obtain ⟨race, hrace, -⟩ := own_ahead (ahead_of_mem_pending hm.1) there
    cases hrace
  | gone there ended =>
    obtain ⟨race, rfl, -⟩ := own_ahead (ahead_of_mem_pending hm.1) there
    rcases ended with ⟨t, hgone⟩ | ⟨t, message, hgone⟩ <;> cases hgone

end Fire

theorem Course.of_abandon (h : Course svc id first c primary run seen) :
    Course svc id first c primary (run.abandon id)
      (seen ++ observe svc id run (.abandon id)) := by
  cases h with
  | waiting there => exact .of_abandon_racing there
  | refused there => exact .of_abandon_racing there
  | hedged there => exact .of_abandon_racing there
  | settled there timer won soonest said =>
    -- it comes too late: nothing happens, and nothing is seen
    have habandon : run.abandon id = run := abandon_of_ended there rfl
    have hseen : observe svc id run (.abandon id) = {} := by
      refine observe_of_subject rfl rfl ?_ ?_ <;> rw [apply, habandon, List.append_nil]
    rw [hseen, History.append_empty, habandon]
    exact .settled there timer won soonest said
  | gone there ended =>
    have hended : ∀ stage, (∃ t, stage = Stage.abandoned t) ∨
        (∃ t message, stage = Stage.crashed t message) →
        ({ first with stage } : Request ρ α ε).isRacing = false := by
      rintro stage (⟨t, rfl⟩ | ⟨t, message, rfl⟩) <;> rfl
    rw [abandon_of_ended there (hended _ ended)]
    exact .gone there ended

/-- **One move of a timely run takes a request from one situation to another**, whichever request it
concerns. -/
theorem Course.step (h : Course svc id first c primary run seen) (hs : run.Sound)
    (hm : run.Timely m) (huncut : ∀ branch, m ≠ .cut id branch) :
    Course svc id first c primary (run.apply svc m) (seen ++ observe svc id run m) := by
  by_cases hid : m.subject = some id
  · cases m with
    | start payload inPlace => cases hid
    | fire due =>
      obtain rfl := Option.some.inj hid
      exact h.of_fire hs hm
    | abandon other =>
      obtain rfl := Option.some.inj hid
      exact h.of_abandon
    | cut other branch =>
      obtain rfl := Option.some.inj hid
      exact absurd rfl (huncut branch)
    | wind t => cases hid
  · rw [observe_of_ne hid, History.append_empty]
    exact h.of_other hs hm hid

/-- A request stays on its course through a whole run. -/
theorem Course.play {moves : List (Move ρ)} (h : Course svc id first c primary run seen)
    (hs : run.Sound) (hmoves : Along svc Timely run moves)
    (huncut : ∀ branch, .cut id branch ∉ moves) :
    Course svc id first c primary (run.play svc moves) (seen ++ run.history svc id moves) := by
  -- what is seen from here on is added to what was seen before
  induction moves generalizing run seen with
  | nil =>
    rw [history, History.append_empty]
    exact h
  | cons m rest ih =>
    have hc : Change svc run m.subject (run.apply svc m) := apply_change hs hmoves.1.possible
    have hstep := h.step hs hmoves.1 fun branch heq => huncut branch (by simp [heq])
    have hrest := ih hstep (hc.sound hs) hmoves.2 fun branch hmem =>
      huncut branch (List.mem_cons_of_mem _ hmem)
    rw [History.append_assoc] at hrest
    exact hrest

end Hedging.Run
