import Hedging.Config
import Hedging.Proofs.Run.Decision
import Hedging.Service.Script

/-!
# The cold start

An estimator that learns from latencies has no delay until it is fed, and one ever after, however
many of its samples have left the window since. So a resolver that learns starts cold: all requests
that arrive before the first latency is sampled go without a timer, and no later sample gives them
one. A request in a `Cold` run is such a request.

> `StartsCold.delay_iff`: there is no delay exactly as long as nothing has been sampled.
> `StartsCold.play`: a cold run neither sends a backup nor denies one.
> `hedge_decision`: each request is hedged as the delay at its arrival has decided, and a resolver
> that learns begins without a delay.
-/

namespace Hedging

/-! ## Estimators that start cold -/

/-- There is no delay until the estimator is fed, and one ever after. -/
def StartsCold {δ : Type} [DelayEstimator δ] (estimator : δ) : Prop :=
  ∀ fed : Array Duration,
    DelayEstimator.currentDelay (fed.foldl DelayEstimator.addSample estimator) = none ↔ fed = #[]

section Estimators

variable {F : Type} [Arithmetic F]

/-- A sample always finds room in a window, if only by taking the place of another. -/
theorem Window.isEmpty_add {w : Window F} (h : 0 < w.capacity) (value : UInt32) :
    (w.add value).isEmpty = false := by
  have hpos : 0 < (w.add value).size := by
    rw [size_add]
    split <;> omega
  unfold isEmpty
  rw [Array.isEmpty_eq_false_iff]
  exact Array.ne_empty_of_size_pos hpos

theorem SpreadEstimator.capacity_foldl (fed : List Duration) (e : SpreadEstimator F) :
    (fed.foldl addSample e).window.capacity = e.window.capacity := by
  induction fed generalizing e with
  | nil => rfl
  | cons latency rest ih => rw [List.foldl_cons, ih, addSample, Window.capacity_add]

theorem SpreadEstimator.new_startsCold (multiplier : F) {capacity : Nat} (h : 0 < capacity) :
    StartsCold (SpreadEstimator.new multiplier capacity) := by
  intro fed
  show currentDelay (fed.foldl addSample _) = none ↔ _
  rw [currentDelay_eq_none_iff, ← Array.foldl_toList, ← Array.toList_eq_nil_iff]
  -- the last sample is what keeps the window from being empty
  rcases List.eq_nil_or_concat fed.toList with hnil | ⟨earlier, latency, hlast⟩
  · rw [hnil]
    exact ⟨fun _ => rfl, fun _ => rfl⟩
  · have hroom : 0 < (earlier.foldl addSample (new multiplier capacity)).window.capacity := by
      rw [capacity_foldl]
      exact h
    rw [hlast, List.concat_eq_append, List.foldl_append]
    simp [addSample, Window.isEmpty_add hroom]

theorem Estimator.spread_startsCold {e : SpreadEstimator Float} (h : StartsCold e) :
    StartsCold (Estimator.spread e) := by
  intro fed
  have hfed : fed.foldl DelayEstimator.addSample (Estimator.spread e) =
      .spread (fed.foldl DelayEstimator.addSample e) :=
    Array.foldl_hom Estimator.spread fun _ _ => rfl
  rw [hfed]
  exact h fed

/-- What a configuration builds is an estimator with room in its window. -/
theorem Config.build_estimator {c : Config} {estimator : SpreadEstimator Float}
    {budget : TokenBudget} (h : c.build = .ok (estimator, budget)) :
    0 < c.windowCapacity.toNat ∧ estimator = .new c.multiplier c.windowCapacity.toNat := by
  cases hvalid : c.validate with
  | error e =>
    rw [build_of_error hvalid] at h
    cases h
  | ok _ =>
    obtain ⟨-, hroom, -⟩ := (validate_eq_ok_iff c).mp hvalid
    rcases Nat.lt_or_ge Window.maxBlock (4 * c.windowCapacity.toNat) with large | fits
    · rw [build_of_overflow hvalid large] at h
      cases h
    · rw [build_of_fits hvalid fits] at h
      obtain ⟨rfl, -⟩ := Prod.mk.inj (Except.ok.inj h)
      exact ⟨Nat.pos_of_ne_zero fun hzero => hroom (UInt64.toNat_inj.mp hzero), rfl⟩

/-- The estimators that learn the delay from what they are fed. -/
inductive Learning : {δ : Type} → [DelayEstimator δ] → δ → Prop
  | spread {F : Type} [Arithmetic F] (multiplier : F) {capacity : Nat} (room : 0 < capacity) :
    Learning (SpreadEstimator.new multiplier capacity)
  | default : Learning Estimator.default
  | built {c : Config} {estimator : SpreadEstimator Float} {budget : TokenBudget}
    (h : c.build = .ok (estimator, budget)) : Learning estimator

theorem Learning.startsCold {δ : Type} [DelayEstimator δ] {estimator : δ}
    (h : Learning estimator) : StartsCold estimator := by
  cases h with
  | spread multiplier room => exact SpreadEstimator.new_startsCold multiplier room
  | default => exact Estimator.spread_startsCold (SpreadEstimator.new_startsCold _ (by decide))
  | built h =>
    obtain ⟨hroom, rfl⟩ := Config.build_estimator h
    exact SpreadEstimator.new_startsCold _ hroom

end Estimators

namespace Run

/-! ## Cold runs -/

/-- Any possible move, but that no request arrives any more once a latency has been sampled. -/
def Cold {δ β σ ρ α ε : Type} (run : Run δ β σ ρ α ε) : Move ρ → Prop
  | .start .. => run.counters.samples = 0
  | m => run.Possible m

instance {δ β σ ρ α ε : Type} (run : Run δ β σ ρ α ε) : DecidablePred run.Cold
  | .start .. => inferInstanceAs (Decidable (run.counters.samples = 0))
  | .fire due => inferInstanceAs (Decidable (run.Possible (.fire due : Move ρ)))
  | .abandon _ | .cut .. | .wind _ => isTrue trivial

theorem Cold.possible {δ β σ ρ α ε : Type} {run : Run δ β σ ρ α ε} {m : Move ρ}
    (h : run.Cold m) : run.Possible m := by
  cases m with
  | start payload inPlace => trivial
  | fire due => exact h
  | abandon id => trivial
  | cut id branch => trivial
  | wind t => trivial

section Cold

variable {δ β σ ρ α ε : Type} [DelayEstimator δ] {svc : Service σ ρ α ε} {estimator : δ}
  {budget : β} {run run' : Run δ β σ ρ α ε}

/-- There is no delay exactly as long as nothing has been sampled. -/
theorem Counted.delay_iff (h : run.Counted estimator) (hcold : StartsCold estimator) :
    DelayEstimator.currentDelay run.estimator = none ↔ run.counters.samples = 0 := by
  rw [h.learnt, hcold, h.fed, Array.size_eq_zero_iff]

/-- No timer will ever go off for a request that is there, and none has gone off. -/
structure Quiet (estimator : δ) (run : Run δ β σ ρ α ε) : Prop where
  sound : run.Sound
  counted : run.Counted estimator
  unarmed : run.armed = 0
  issued : run.counters.backupsIssued = 0
  denied : run.counters.backupsDenied = 0

theorem new_quiet (service : σ) (estimator : δ) (budget : β) :
    (Run.new service estimator budget : Run δ β σ ρ α ε).Quiet estimator :=
  ⟨new_sound service estimator budget, new_counted service estimator budget, rfl, rfl, rfl⟩

variable [AdmissionBudget β]

/-- A move that brings in no request leaves their number alone. -/
theorem Change.length_requests {id : RequestId} (hc : Change svc run (some id) run') :
    run'.requests.length = run.requests.length := by
  cases hc with
  | wound _ t => rfl
  | hedged there racing => exact List.length_modify ..
  | denied there racing => exact List.length_modify ..
  | answered there racing =>
    rw [requests_answer]
    exact List.length_modify ..
  | crashed there racing =>
    rw [dropCalls_eq]
    exact List.length_modify ..
  | bereft there racing => exact List.length_modify ..
  | lost there racing => exact List.length_modify ..
  | abandoned there racing =>
    rw [dropCalls_eq]
    exact List.length_modify ..

theorem Quiet.start (h : run.Quiet estimator) (svc : Service σ ρ α ε)
    (hnone : DelayEstimator.currentDelay run.estimator = none) (payload : ρ) (inPlace : Bool) :
    (run.start svc payload inPlace).Quiet estimator := by
  have harmed : (run.start svc payload inPlace).armed = run.armed := by
    unfold armed Run.start
    rw [List.countP_append, List.countP_singleton, hnone]
    rfl
  exact ⟨h.sound.start svc payload inPlace, h.counted.start svc payload inPlace,
    harmed.trans h.unarmed, h.issued, h.denied⟩

/-- Where no timer is armed, none goes off. -/
theorem Quiet.of_change (h : run.Quiet estimator) {id : RequestId}
    (hc : Change svc run (some id) run') : run'.Quiet estimator := by
  have hcounted := hc.counted h.counted
  have hlength := hc.length_requests
  have hunarmed := h.unarmed
  have hissued := h.issued
  have hdenied := h.denied
  cases hc.toll with
  | paid budget received =>
    have hbefore := h.counted.received
    have hafter := hcounted.received
    omega
  | asked budget received issued denied calls armed => omega
  | free budget received issued denied calls armed =>
    exact ⟨hc.sound h.sound, hcounted, by omega, by omega, by omega⟩

theorem Quiet.step (h : run.Quiet estimator) (hcold : StartsCold estimator) {m : Move ρ}
    (hm : run.Cold m) : (run.apply svc m).Quiet estimator := by
  have hc : Change svc run m.subject (run.apply svc m) := apply_change h.sound hm.possible
  cases m with
  | start payload inPlace => exact h.start svc ((h.counted.delay_iff hcold).mpr hm) payload inPlace
  | fire due => exact h.of_change hc
  | abandon id => exact h.of_change hc
  | cut id branch => exact h.of_change hc
  | wind t =>
    exact ⟨h.sound, hc.counted h.counted, h.unarmed, h.issued, h.denied⟩

/-! ## The law -/

/-- A resolver begins without a delay, and with its first sample it has one. -/
structure WarmsUp (svc : Service σ ρ α ε) (new : Run δ β σ ρ α ε) : Prop where
  delay : ∀ run, Reaches svc new run →
    (run.stats.currentDelay = none ↔ run.stats.counters.samples = 0)
  /-- Before the first request that arrives after the first sample, no backup is sent or denied. -/
  cold : ∀ moves, Along svc Cold new moves →
    (new.play svc moves).stats.counters.backupsIssued = 0 ∧
      (new.play svc moves).stats.counters.backupsDenied = 0

theorem StartsCold.warmsUp (hcold : StartsCold estimator) (svc : Service σ ρ α ε) (service : σ)
    (budget : β) : WarmsUp svc (.new service estimator budget) where
  delay := by
    intro run hr
    exact hr.counted.delay_iff hcold
  cold := by
    intro moves hmoves
    have hquiet := hmoves.invariant (fun _ _ h hm => h.step hcold hm)
      (new_quiet service estimator budget)
    exact ⟨hquiet.issued, hquiet.denied⟩

/-- **The hedge decision is fixed by the delay at the arrival of a request**, in every run of every
resolver; and a resolver that learns its delay begins without one, so that it does not hedge before
a request arrives after the first sample. -/
theorem hedge_decision (svc : Service σ ρ α ε) (service : σ) (estimator : δ) (budget : β) :
    DecidesAtArrival svc (.new service estimator budget) ∧
      (Learning estimator → WarmsUp svc (.new service estimator budget)) :=
  ⟨decides_at_arrival svc service estimator budget,
    fun hlearning => StartsCold.warmsUp hlearning.startsCold svc service budget⟩

/-- The first of three requests arrives cold, and goes without a timer although the second warms the
estimator up; the third has a timer, but there is not enough in the budget yet. -/
theorem hedge_decision_of_script :
    let script : Script :=
      ⟨[⟨50, .value, some "slow"⟩, ⟨5, .value, some "quick"⟩, ⟨30, .value, some "late"⟩],
        Script.defaultFallback⟩
    let estimator : SpreadEstimator Float := .new 3 256
    let budget : TokenBudget := .new 1 20 100 0
    let new : Run _ _ Script String String String := .new script estimator budget
    let warming : List (Move String) := [.start "b" false, .fire ⟨5, 1, .call .primary, 3⟩]
    let later : List (Move String) := [.fire ⟨10, 2, .timer, 1⟩, .wind 20]
    let warm := (new.start Script.service "a" false).play Script.service warming
    let moves := warming ++ .start "c" false :: later
    let run := (new.start Script.service "a" false).play Script.service moves
    let first := (new.start Script.service "a" false).history Script.service new.requests.length
      moves
    let uses := new.usesAlong Script.service (.start "a" false :: moves)
    let third := (warm.start Script.service "c" false).history Script.service warm.requests.length
      later
    Config.default.build = .ok (estimator, budget) ∧
      uses = [.funded 0, .funded 1, .funded 2, .asked 2 10 false] ∧
      Charged new.requests.length budget uses run.budget first ∧ run.budget.tokens = 3 ∧
      first.asked = [] ∧ first.issued = [] ∧
      third.asked = [(10, false)] ∧
      (DelayEstimator.currentDelay warm.estimator).map warm.now.after = some 10 ∧
      warm.stats.currentDelay ≠ none ∧ warm.stats.counters.backupsIssued = 0 ∧
      warm.stats.counters.backupsDenied = 0 := by
  intro script estimator budget new warming later warm moves run first uses third
  have hbuilt : Config.default.build = .ok (estimator, budget) := rfl
  obtain ⟨hdecides, hwarms⟩ := hedge_decision Script.service script estimator budget
  have hcold : Along Script.service Cold new (.start "a" false :: warming) := by decide +kernel
  have hwarm : Reaches Script.service new warm :=
    ⟨.start "a" false :: warming, hcold.mono fun _ _ => Cold.possible, rfl⟩
  have hfirst := (hdecides new (.refl ..) "a" false moves (by decide +kernel)).1
  have hthird := (hdecides warm hwarm "c" false later (by decide +kernel)).2 (by decide +kernel)
  have hasked : third.asked = [(10, false)] := by decide +kernel
  have hsampled : warm.stats.counters.samples ≠ 0 := by decide +kernel
  have hquiet := (hwarms (.built hbuilt)).cold _ hcold
  obtain ⟨-, hunasked, hunissued⟩ := hfirst.unhedged rfl
  exact ⟨hbuilt, by decide +kernel, hfirst.charged, by decide +kernel, hunasked, hunissued, hasked,
    hthird.asked (10, false) (by rw [hasked]; simp),
    fun hnone => hsampled (((hwarms (.built hbuilt)).delay warm hwarm).mp hnone), hquiet⟩

end Cold

end Run

end Hedging
