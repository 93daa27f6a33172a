import Hedging.Proofs.Run.Course
import Hedging.Proofs.Run.Spending
import Hedging.Service.Script

/-!
# A race in closed form

For a request that is let alone, the loop that waits for three sources at once comes to a formula.
Let `primary` be its first call and `timer` the instant for which its timer was set. If the timer
comes before the primary ends, the budget is asked for a backup, once and then; if it pays, the same
payload is looked up a second time. The call that ends first settles the request at its own instant,
word for word, and it alone is sampled.

> `closed_form`: in a timely run every request that is not given up, and whose calls do not break
> down, follows the formula, whatever other requests do in the meantime. Nobody does more to the
> budget than to fund it on arrival and to ask it once for each timer that goes off.

No two events of the request may fall on one instant; which of them comes first is then not
determined.
-/

namespace Hedging

/-- What a call says to its request when it ends; nothing if it breaks down. -/
def Reply.result? {α ε : Type} (reply : Reply α ε) (branch : Branch) (latency : Duration) :
    Option (Result α ε) :=
  match reply with
  | .value a => some (.ok ⟨a, branch, latency⟩)
  | .error e => some (.error (.failed branch e))
  | .crash _ => none

theorem Reply.result?_of_completion? {α ε : Type} {reply : Reply α ε}
    {completion : Completion α ε} (h : reply.completion? = some completion) (branch : Branch)
    (latency : Duration) :
    reply.result? branch latency = some (Run.resultOf latency (some (branch, completion))) := by
  cases reply with
  | value a =>
    obtain rfl := Option.some.inj h
    rfl
  | error e =>
    obtain rfl := Option.some.inj h
    rfl
  | crash message => cases h

namespace Run

section Formula

variable {σ ρ α ε : Type} {svc : Service σ ρ α ε} {first : Request ρ α ε}
  {asked : List (Instant × Bool)} {issued : List (Call ρ α ε)} {primary winner : Call ρ α ε}
  {branch : Branch} {ended : Instant}

/-! ## The formula -/

/-- The call that ends first among the primary and the calls issued after it, with its branch. -/
def soonest (primary : Call ρ α ε) (issued : List (Call ρ α ε)) : Branch × Call ρ α ε :=
  issued.foldl (fun best call => if call.due < best.2.due then (.backup, call) else best)
    (.primary, primary)

/-- What is seen of a request by `now`, from what was known when it arrived. -/
structure ClosedForm (svc : Service σ ρ α ε) (payload : ρ) (started : Instant)
    (timer : Option Instant) (primary : Call ρ α ε) (now : Instant) (seen : History ρ α ε)
    (stage : Stage ρ α ε) : Prop where
  /-- The budget is asked once, when the timer goes off, if that is before the primary ends, and
  otherwise never. -/
  asked : seen.asked.map (·.1) = (timer.filter (· < primary.due)).toList ∨
    seen.asked = [] ∧ (∃ race, stage = .racing race) ∧ ∀ t, timer = some t → now ≤ t
  /-- A backup is issued exactly if the budget pays for it, at that instant and for the payload of
  the request. -/
  issued : seen.issued.map (fun call => (call.issued, call.payload)) =
    (seen.asked.filter (·.2)).map fun ask => (ask.1, payload)
  /-- The service decides how long a backup takes and what comes of it. -/
  served : ∀ call ∈ seen.issued, ∃ service,
    call = .start call.issued payload (svc.issue service payload).1
  /-- A request does not go on when one of its calls has ended. -/
  racing : ∀ race, stage = .racing race →
    seen.fed = [] ∧ ∀ call ∈ primary :: seen.issued, now ≤ call.due
  /-- The first call to end settles the request there and then, with its own value or error. Only
  this call is sampled. -/
  settled : ∀ ended result, stage = .settled ended result →
    ended = (seen.issued.map (·.due)).foldl min primary.due ∧
    (soonest primary seen.issued).2.due = ended ∧
    (soonest primary seen.issued).2.reply.result? (soonest primary seen.issued).1
      (ended.since started) = some result ∧
    seen.fed = [(soonest primary seen.issued).2.elapsed ended]
  /-- The request races or is settled. -/
  stands : (∃ race, stage = .racing race) ∨ ∃ ended result, stage = .settled ended result

theorem Timer.asked_eq (h : Timer svc first ended asked issued)
    (untied : first.timer ≠ some ended) :
    asked.map (·.1) = (first.timer.filter (· < ended)).toList := by
  -- a timer that came no later than the end of the primary came before it
  have hbefore : ∀ t, first.timer = some t → t ≤ ended →
      (first.timer.filter (· < ended)).toList = [t] := by
    intro t set hle
    have hne : t ≠ ended := fun heq => untied (by rw [set, heq])
    rw [set, Option.filter_some, if_pos (by simpa using Nat.lt_of_le_of_ne hle hne)]
    rfl
  cases h with
  | late after =>
    cases hset : first.timer with
    | none => rfl
    | some t =>
      have hle := after t hset
      rw [Option.filter_some, if_neg (by simpa using hle)]
      rfl
  | refused set before => exact (hbefore _ set before).symm
  | granted service set before => exact (hbefore _ set before).symm

theorem Timer.issued_eq (h : Timer svc first ended asked issued) :
    issued.map (fun call => (call.issued, call.payload)) =
      (asked.filter (·.2)).map fun ask => (ask.1, first.payload) := by
  cases h <;> rfl

theorem Timer.served (h : Timer svc first ended asked issued) :
    ∀ call ∈ issued, ∃ service,
      call = .start call.issued first.payload (svc.issue service first.payload).1 := by
  cases h with
  | late after => exact nofun
  | refused set before => exact nofun
  | granted service set before =>
    intro call hmem
    obtain rfl := List.mem_singleton.mp hmem
    exact ⟨service, rfl⟩

/-- There is one backup at most. -/
theorem Timer.issued_le_one (h : Timer svc first ended asked issued) :
    issued = [] ∨ ∃ backup, issued = [backup] := by
  cases h with
  | late after => exact Or.inl rfl
  | refused set before => exact Or.inl rfl
  | granted service set before => exact Or.inr ⟨_, rfl⟩

/-- The call that won ended first, and at the least of all instants. -/
theorem soonest_eq (hone : issued = [] ∨ ∃ backup, issued = [backup])
    (won : (branch = .primary ∧ winner = primary) ∨ (branch = .backup ∧ issued = [winner]))
    (hmin : ∀ call ∈ primary :: issued, winner.due ≤ call.due)
    (untied : ∀ call ∈ issued, call.due ≠ primary.due) :
    soonest primary issued = (branch, winner) ∧
      winner.due = (issued.map (·.due)).foldl min primary.due := by
  rcases hone with rfl | ⟨backup, rfl⟩
  · rcases won with ⟨rfl, rfl⟩ | ⟨-, hissued⟩
    · exact ⟨rfl, rfl⟩
    · cases hissued
  · have hne := untied backup (List.mem_singleton.mpr rfl)
    rcases won with ⟨rfl, rfl⟩ | ⟨rfl, hissued⟩
    · have hle := hmin backup (by simp)
      refine ⟨if_neg (Nat.not_lt.mpr hle), ?_⟩
      exact (Nat.min_eq_left hle).symm
    · obtain rfl : backup = winner := (List.cons.inj hissued).1
      have hle := hmin primary (by simp)
      refine ⟨if_pos (Nat.lt_of_le_of_ne hle hne), ?_⟩
      exact (Nat.min_eq_right hle).symm

end Formula

section Requests

variable {δ β σ ρ α ε : Type} {svc : Service σ ρ α ε} {run : Run δ β σ ρ α ε} {id : RequestId}
  {first : Request ρ α ε} {c : CallId} {primary : Call ρ α ε} {seen : History ρ α ε}
  {stage : Stage ρ α ε}

/-! ## Every request follows it -/

/-- Two ways to say where a request stands agree. -/
theorem stage_eq {there : Stage ρ α ε}
    (h : run.requests[id]? = some { first with stage := there })
    (h' : run.requests[id]? = some { first with stage }) : stage = there :=
  congrArg Request.stage (Option.some.inj (h'.symm.trans h))

/-- A request that is still racing has what its timer and its calls have done so far. -/
theorem Timer.closed_racing {asked : List (Instant × Bool)} {issued : List (Call ρ α ε)}
    (timer : Timer svc first primary.due asked issued) (untied : first.timer ≠ some primary.due)
    (race : Race ρ α ε) {now : Instant} (early : ∀ call ∈ primary :: issued, now ≤ call.due) :
    ClosedForm svc first.payload first.started first.timer primary now { asked, issued }
      (.racing race) :=
  { asked := Or.inl (timer.asked_eq untied)
    issued := timer.issued_eq
    served := timer.served
    racing := fun _ _ => ⟨rfl, early⟩
    settled := fun _ _ h => by cases h
    stands := Or.inl ⟨race, rfl⟩ }

/-- The formula holds in every situation of a request. -/
theorem Course.closed (h : Course svc id first c primary run seen)
    (there : run.requests[id]? = some { first with stage })
    (kept : ∀ t, stage ≠ .abandoned t) (whole : ∀ t message, stage ≠ .crashed t message)
    (untied : first.timer ≠ some primary.due)
    (apart : ∀ call ∈ seen.issued, call.due ≠ primary.due) :
    ClosedForm svc first.payload first.started first.timer primary run.now seen stage := by
  cases h with
  | waiting hthere held early ahead =>
    obtain rfl := stage_eq hthere there
    exact
      { asked := Or.inr ⟨rfl, ⟨_, rfl⟩, ahead⟩
        issued := rfl
        served := nofun
        racing := fun _ _ => ⟨rfl, by simpa using early⟩
        settled := nofun
        stands := Or.inl ⟨_, rfl⟩ }
  | refused hthere held early timer =>
    obtain rfl := stage_eq hthere there
    exact timer.closed_racing untied _ (by simpa using early)
  | hedged hthere held heldBackup early earlyBackup timer =>
    obtain rfl := stage_eq hthere there
    exact timer.closed_racing untied _ (by simpa using ⟨early, earlyBackup⟩)
  | @settled asked issued branch winner completion hthere timer won hmin said =>
    obtain rfl := stage_eq hthere there
    obtain ⟨hsoonest, hleast⟩ := soonest_eq timer.issued_le_one won hmin apart
    refine
      { asked := Or.inl (timer.asked_eq untied)
        issued := timer.issued_eq
        served := timer.served
        racing := nofun
        settled := ?_
        stands := Or.inr ⟨_, _, rfl⟩ }
    intro ended result hstage
    obtain ⟨rfl, rfl⟩ := Stage.settled.inj hstage
    rw [hsoonest]
    exact ⟨hleast, rfl, Reply.result?_of_completion? said .., rfl⟩
  | gone hthere ended =>
    obtain rfl := stage_eq hthere there
    rcases ended with ⟨t, hgone⟩ | ⟨t, message, hgone⟩
    · exact absurd hgone (kept t)
    · exact absurd hgone (whole t message)

variable [DelayEstimator δ] [AdmissionBudget β]

/-- Every request sets out on its course. -/
theorem start_course (svc : Service σ ρ α ε) (before : Run δ β σ ρ α ε) (payload : ρ)
    (inPlace : Bool) :
    let delay := DelayEstimator.currentDelay before.estimator
    let primary := Call.start before.now payload (svc.issue before.service payload).1
    let race : Race ρ α ε := .start payload before.calls.length delay.isSome
    Course svc before.requests.length ⟨payload, inPlace, before.now, delay, .racing race⟩
      before.calls.length primary (before.start svc payload inPlace) {} := by
  intro delay primary race
  refine .waiting ?_ ?_ (Instant.le_after ..) ?_
  · exact List.getElem?_concat_length
  · have hissues : (before.start svc payload inPlace).calls.issues =
        before.calls.issues ++ [primary] := Ledger.issues_issue ..
    have hlength : before.calls.issues.length = before.calls.length := List.length_map ..
    rw [hissues, ← hlength, List.getElem?_concat_length]
  · intro t set
    obtain ⟨d, -, rfl⟩ := Option.map_eq_some_iff.mp set
    exact Instant.le_after ..

/-- **A hedged race equals its closed form**, for every request of every timely run: whichever run
it arrives in, and however the moves of other requests come in between. What has become of the
budget shows that the request has asked it just when the formula says. -/
theorem closed_form {service : σ} {estimator : δ} {budget : β} {before : Run δ β σ ρ α ε}
    (hbefore : Reaches svc (.new service estimator budget) before) (payload : ρ) (inPlace : Bool)
    {moves : List (Move ρ)} (hmoves : Along svc Timely (before.start svc payload inPlace) moves)
    (huncut : ∀ branch, .cut before.requests.length branch ∉ moves) :
    let id := before.requests.length
    let delay := DelayEstimator.currentDelay before.estimator
    let timer := delay.map before.now.after
    let primary := Call.start before.now payload (svc.issue before.service payload).1
    let run := (before.start svc payload inPlace).play svc moves
    let seen := (before.start svc payload inPlace).history svc id moves
    let uses := before.usesAlong svc (.start payload inPlace :: moves)
    Charged id before.budget uses run.budget seen ∧
      ∃ stage, run.requests[id]? = some ⟨payload, inPlace, before.now, delay, stage⟩ ∧
        ((∀ t, stage ≠ .abandoned t) → (∀ t message, stage ≠ .crashed t message) →
          timer ≠ some primary.due → (∀ call ∈ seen.issued, call.due ≠ primary.due) →
          ClosedForm svc payload before.now timer primary run.now seen stage) := by
  intro id delay timer primary run seen uses
  have hs : before.Sound := hbefore.sound (new_sound service estimator budget)
  have hstart : (before.start svc payload inPlace).Sound := hs.start svc payload inPlace
  have hcharged : Charged id before.budget uses run.budget seen :=
    charged_play hs (hmoves.mono fun _ _ => Timely.possible)
  have hcourse := (start_course svc before payload inPlace).play hstart hmoves huncut
  have hthere : (before.start svc payload inPlace).requests[id]? = some _ :=
    List.getElem?_concat_length
  obtain ⟨stage, there⟩ := (Reaches.of_timely hmoves).request hstart hthere
  exact ⟨hcharged, stage, there,
    fun kept whole untied apart => hcourse.closed there kept whole untied apart⟩

/-- The backup of a slow request wins, after another request has come and gone. Two requests have
paid for it. -/
theorem closed_form_of_script :
    let script : Script :=
      ⟨[⟨50, .value, some "slow"⟩, ⟨12, .error, none⟩, ⟨5, .value, some "fast"⟩],
        Script.defaultFallback⟩
    let empty : TokenBudget := .new 1 2 5 0
    let new : Run ConstantEstimator TokenBudget Script String String String :=
      .new script ⟨some (.ofMillis 10)⟩ empty
    let moves : List (Move String) :=
      [.start "b" true, .wind 4, .fire ⟨10, 0, .timer, 1⟩, .abandon 1,
        .fire ⟨15, 0, .call .backup, 4⟩, .wind 20]
    let run := (new.start Script.service "a" false).play Script.service moves
    let seen := (new.start Script.service "a" false).history Script.service 0 moves
    let uses := new.usesAlong Script.service (.start "a" false :: moves)
    let stage : Stage String String String :=
      .settled 15 (.ok ⟨"fast", .backup, .ofMillis 15⟩)
    uses = [.funded 0, .funded 1, .asked 0 10 true] ∧
      Charged 0 empty uses run.budget seen ∧ run.budget = empty ∧
      run.requests[0]? = some ⟨"a", false, 0, some (.ofMillis 10), stage⟩ ∧
      seen.asked = [(10, true)] ∧ seen.fed = [.ofMillis 5] ∧
      ClosedForm Script.service "a" 0 (some 10)
        (.start 0 "a" ⟨.ofMillis 50, .value "slow"⟩) run.now seen stage := by
  intro script empty new moves run seen uses stage
  have hmoves : Along Script.service Timely (new.start Script.service "a" false) moves := by
    decide
  have huncut : ∀ branch, Move.cut new.requests.length branch ∉ moves := by
    intro branch
    cases branch <;> decide
  obtain ⟨hcharged, stage', hthere, hclosed⟩ :=
    closed_form (.refl Script.service _ new) "a" false hmoves huncut
  have hstage : run.requests[0]? = some ⟨"a", false, 0, some (.ofMillis 10), stage⟩ := by rfl
  obtain rfl : stage = stage' := congrArg Request.stage (Option.some.inj (hstage.symm.trans hthere))
  exact ⟨by decide, hcharged, by decide, hstage, by decide, by decide,
    hclosed nofun nofun (by decide) (by decide)⟩

end Requests

end Run

end Hedging
