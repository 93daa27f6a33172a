import Hedging.Proofs.Race.Rounds
import Hedging.Proofs.Run.Change
import Hedging.Service.Script

/-!
# The race loops of a run

The rounds of a race loop are told by the events that the race admits, without a clock, a budget or
other requests. A run has all of these, and delivers the events by itself. It delivers none that the
race does not admit:

> `Reaches.reached`: every race that is under way in a run has come to where it is by enabled events.

So what `Race.Rounds` says of all loops holds of every request of every run.
-/

namespace Hedging.Run

variable {δ β σ ρ α ε : Type} [DelayEstimator δ] [AdmissionBudget β] {svc : Service σ ρ α ε}
  {run run' : Run δ β σ ρ α ε} {subject : Option RequestId}

theorem Change.reached (hc : Change svc run subject run') (hs : run.Sound)
    (h : run.EveryRace fun payload delay race => race.Reached payload delay.isSome) :
    run'.EveryRace fun payload delay race => race.Reached payload delay.isSome :=
  hc.everyRace (fun payload primary delay => Race.start_reached payload primary delay.isSome)
    (fun hrace turn _ hreached => turn.reached hrace hreached) hs h

/-- **Every race of a run is that of a loop.** -/
theorem Reaches.reached {s : σ} {estimator : δ} {budget : β}
    (hr : Reaches svc (.new s estimator budget) run) :
    run.EveryRace fun payload delay race => race.Reached payload delay.isSome := by
  have hboth : run.Sound ∧
      run.EveryRace fun payload delay race => race.Reached payload delay.isSome := by
    refine hr.invariant (P := fun run => run.Sound ∧
      run.EveryRace fun payload delay race => race.Reached payload delay.isSome) ?_
      ⟨new_sound s estimator budget, new_everyRace s estimator budget⟩
    intro run m ⟨hs, h⟩ hm
    have hc : Change svc run m.subject (run.apply svc m) := apply_change hs hm
    exact ⟨hc.sound hs, hc.reached hs h⟩
  exact hboth.2

/-- **The rounds of every race loop**, for every delay, every answer of the budget and every order of
enabled events. Whenever a round begins there is a call to wait for, and while the timer is armed the
primary is under way and the request is kept for a backup that was not sent. No round runs out of
things to wait for, comes to a stale timer, counts a backup that it does not send, or finds the slot
taken, and there are at most three of them. Every race that is under way in a run is on such a
loop. -/
theorem race_loop_invariant (svc : Service σ ρ α ε) (s : σ) (estimator : δ) (budget : β) :
    (∀ (payload : ρ) (primary fresh : CallId) (delay : Option Duration)
      (events : List (Race.Event α ε)),
      (Race.start payload primary delay.isSome).Admits fresh events →
        (Race.start payload primary delay.isSome).Rounds payload fresh delay events) ∧
    ∀ (run : Run δ β σ ρ α ε) (id : RequestId) (request : Request ρ α ε) (race : Race ρ α ε),
      Reaches svc (.new s estimator budget) run → run.requests[id]? = some request →
      request.stage = .racing race → race.Reached request.payload request.delay.isSome :=
  ⟨fun payload primary fresh delay _ ha => .of_admits payload primary fresh delay ha,
    fun _ id request race hr there racing => hr.reached id request race there racing⟩

/-- All three rounds are gone: a backup is granted, the primary is cancelled under the request, and
the backup fails. Before the last round the race waits for the backup alone. -/
theorem race_loop_invariant_of_cut :
    let script : Script := ⟨[⟨50, .value, none⟩, ⟨60, .error, none⟩], ⟨40, .error, none⟩⟩
    let new : Run ConstantEstimator TokenBudget Script String String String :=
      .new script ⟨some (.ofMillis 10)⟩ (.new 0 1 2 2)
    let moves : List (Move String) :=
      [.start "a" false, .fire ⟨10, 0, .timer, 1⟩, .cut 0 .primary]
    let run := new.play Script.service moves
    let start : Race String String String := .start "a" 0 true
    let events : List (Race.Event String String) := [.timer true, .completed .primary .cancelled]
    let last : Race.Event String String := .completed .backup (.failed "a")
    let left : Race String String String := ⟨none, some 1, .vacant, false, none⟩
    start.Admits 1 (events ++ [last]) ∧ start.Rounds "a" 1 (some (.ofMillis 10)) (events ++ [last]) ∧
      (events ++ [last]).length = 3 ∧ start.after 1 events = left ∧
      left.Ready "a" (some (.ofMillis 10)) [.hedge, .issue "a"] ∧ left.Round "a" 1 last ∧
      Reaches Script.service new run ∧ left.Reached "a" true ∧
      ∃ request, run.requests[0]? = some request ∧ request.stage = .racing left := by
  intro script new moves run start events last left
  have hmoves : Along Script.service Possible new moves := by decide
  have hreach : Reaches Script.service new run := ⟨moves, hmoves, rfl⟩
  have ha : start.Admits 1 (events ++ [last]) := ⟨rfl, rfl, rfl, trivial⟩
  have hbefore : start.Admits 1 events := ⟨rfl, rfl, trivial⟩
  obtain ⟨hrounds, hraces⟩ := race_loop_invariant (ε := String) Script.service script
    (⟨some (.ofMillis 10)⟩ : ConstantEstimator) (.new 0 1 2 2 : TokenBudget)
  have hr := hrounds "a" 0 1 (some (.ofMillis 10)) events hbefore
  exact ⟨ha, hrounds "a" 0 1 (some (.ofMillis 10)) _ ha, rfl, rfl, hr.ready rfl, hr.next last rfl,
    hreach, hraces run 0 _ left hreach rfl rfl, _, rfl, rfl⟩

end Hedging.Run
