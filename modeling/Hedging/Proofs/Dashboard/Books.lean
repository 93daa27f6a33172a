import Hedging.Proofs.Dashboard.Reports
import Hedging.Proofs.Run.Drive
import Hedging.Proofs.Run.Ownership
import Hedging.Proofs.Run.WarmUp

/-!
# The books of a dashboard

A dashboard counts the reports that it takes in, and the resolver counts its requests. `Books` ties the
two together: the reports that were taken in and those that wait are what the lookups have reported
(`Reports`), the dashboard's tallies are those of the reports taken in (`Tallied`), and the service
counts the calls of the resolver and the direct lookups. The statistics that the dashboard shows are
those of the last report taken in; they are right as soon as nothing is under way (`Books.fresh`).

> `Books.change`, `Books.spawnLookup`, `Books.collect`, `Books.deliver`: what the resolver does, a
> lookup that is started, reports that are handed over and a report that is taken in all keep the
> books.
-/

namespace Hedging

/-! ## Tallies -/

/-- What a lane brought; one that was never touched brought nothing. -/
def PerLane.tally (lanes : PerLane (Option LaneTally)) (lane : Lane) : LaneTally :=
  (lanes.get lane).getD .zero

theorem LaneTally.wins_add (t : LaneTally) (latency : Float) (ok : Bool) :
    (t.add latency ok).wins = t.wins + ok.toNat := by
  cases ok <;> rfl

theorem LaneTally.errors_add (t : LaneTally) (latency : Float) (ok : Bool) :
    (t.add latency ok).errors = t.errors + (!ok).toNat := by
  cases ok <;> rfl

/-- The totals and the tallies of the lanes are those of the reports taken in. -/
structure Tallied (lanes : PerLane (Option LaneTally)) (calls errors : Nat)
    (taken : List LookupEvent) : Prop where
  calls : calls = taken.length
  errors : errors = taken.countP (!·.ok)
  wins : ∀ lane, (lanes.tally lane).wins = taken.countP fun e => e.lane == some lane && e.ok
  failures : ∀ lane, (lanes.tally lane).errors = taken.countP fun e => e.lane == some lane && !e.ok

theorem new_tallied : Tallied (.const none) 0 0 [] :=
  ⟨rfl, rfl, fun lane => by cases lane <;> rfl, fun lane => by cases lane <;> rfl⟩

namespace Dashboard

/-- A report that is taken in is tallied under its lane, if it has one. -/
theorem tally_tally (d : Dashboard) (credited : Option Lane) (latency : Float) (ok : Bool)
    (lane : Lane) :
    (d.tally credited latency ok).lanes.tally lane =
      if credited = some lane then (d.lanes.tally lane).add latency ok else d.lanes.tally lane := by
  cases credited with
  | none => rfl
  | some other =>
    show ((d.lanes.update other _).get lane).getD .zero = _
    rw [PerLane.get_update]
    by_cases heq : lane = other
    · rw [if_pos heq, if_pos (congrArg some heq.symm)]
      rfl
    · rw [if_neg heq, if_neg fun h => heq (Option.some.inj h).symm]
      rfl

/-- What becomes of the batch concerns nothing else. -/
theorem advanceBatch_frame (d : Dashboard) :
    ∃ message batch, d.advanceBatch = { d with message, batch } := by
  unfold advanceBatch
  split
  · simp only
    split
    · exact ⟨_, _, rfl⟩
    · exact ⟨_, _, rfl⟩
  · exact ⟨_, _, rfl⟩

/-- All that a report changes when it is taken in: the resolver and the lookups are left alone. -/
theorem deliver_frame (latency : Binary64) (d : Dashboard) (event : LookupEvent) :
    ∃ message lastLatency batch successes history callAges recent,
      d.deliver latency event =
        { d with
          message, lastLatency, batch, successes, history, callAges, recent
          lastLane := event.lane
          lanes := (d.tally event.lane latency.toFloat event.ok).lanes
          calls := d.calls + 1
          errors := d.errors + (!event.ok).toNat
          hedge := d.run.stats } := by
  obtain ⟨lane, ok, message⟩ := event
  unfold deliver record
  simp only
  obtain ⟨message, batch, hbatch⟩ := advanceBatch_frame
    (((d.tally lane latency.toFloat ok).count lane latency ok).announce latency ok message)
  rw [hbatch]
  cases lane <;> cases ok <;> exact ⟨_, _, _, _, _, _, _, rfl⟩

@[simp] theorem inbox_deliver (latency : Binary64) (d : Dashboard) (event : LookupEvent) :
    (d.deliver latency event).inbox = d.inbox := by
  obtain ⟨_, _, _, _, _, _, _, hdelivered⟩ := deliver_frame latency d event
  rw [hdelivered]

@[simp] theorem mode_deliver (latency : Binary64) (d : Dashboard) (event : LookupEvent) :
    (d.deliver latency event).mode = d.mode := by
  obtain ⟨_, _, _, _, _, _, _, hdelivered⟩ := deliver_frame latency d event
  rw [hdelivered]

@[simp] theorem run_deliver (latency : Binary64) (d : Dashboard) (event : LookupEvent) :
    (d.deliver latency event).run = d.run := by
  obtain ⟨_, _, _, _, _, _, _, hdelivered⟩ := deliver_frame latency d event
  rw [hdelivered]

@[simp] theorem lookups_deliver (latency : Binary64) (d : Dashboard) (event : LookupEvent) :
    (d.deliver latency event).lookups = d.lookups := by
  obtain ⟨_, _, _, _, _, _, _, hdelivered⟩ := deliver_frame latency d event
  rw [hdelivered]

end Dashboard

theorem Tallied.deliver {d : Dashboard} {taken : List LookupEvent}
    (h : Tallied d.lanes d.calls d.errors taken) (latency : Float) (event : LookupEvent) :
    Tallied (d.tally event.lane latency event.ok).lanes (d.calls + 1)
      (d.errors + (!event.ok).toNat) (taken ++ [event]) := by
  refine ⟨?_, ?_, fun lane => ?_, fun lane => ?_⟩
  · rw [List.length_append, List.length_singleton, h.calls]
  · rw [List.countP_append, List.countP_singleton, h.errors]
    cases event.ok <;> rfl
  · rw [Dashboard.tally_tally, List.countP_append, List.countP_singleton, ← h.wins lane]
    by_cases hlane : event.lane = some lane
    · rw [if_pos hlane, LaneTally.wins_add, hlane]
      cases event.ok <;> simp
    · rw [if_neg hlane]
      simp [hlane]
  · rw [Dashboard.tally_tally, List.countP_append, List.countP_singleton, ← h.failures lane]
    by_cases hlane : event.lane = some lane
    · rw [if_pos hlane, LaneTally.errors_add, hlane]
      cases event.ok <;> simp
    · rw [if_neg hlane]
      simp [hlane]

namespace Run

/-! ## What the resolver does -/

section Changes

variable {δ β σ ρ α ε : Type} [DelayEstimator δ] [AdmissionBudget β] {svc : Service σ ρ α ε}
  {run run' : Run δ β σ ρ α ε} {subject : Option RequestId}

/-- Where no request races, nothing is counted but another arrival. -/
theorem Change.counters_of_idle (hc : Change svc run subject run')
    (hidle : ∀ id, run.isRacing id = false)
    (hlength : run'.requests.length = run.requests.length) : run'.counters = run.counters := by
  have hno : ∀ {id : RequestId} {request : Request ρ α ε} {race : Race ρ α ε},
      run.requests[id]? = some request → request.stage ≠ .racing race := by
    intro id request race there racing
    have hracing := (isRacing_of_there there).trans (Request.isRacing_of_racing racing)
    rw [hidle id] at hracing
    cases hracing
  cases hc with
  | started payload inPlace =>
    have hmore : (run.start svc payload inPlace).requests.length = run.requests.length + 1 :=
      List.length_append
    omega
  | wound _ t => rfl
  | hedged there racing => exact absurd racing (hno there)
  | denied there racing => exact absurd racing (hno there)
  | answered there racing => exact absurd racing (hno there)
  | crashed there racing => exact absurd racing (hno there)
  | bereft there racing => exact absurd racing (hno there)
  | lost there racing => exact absurd racing (hno there)
  | abandoned there racing => exact absurd racing (hno there)

omit [AdmissionBudget β] in
/-- The accounts of a run do not tell what its service is like. -/
theorem Counted.serve {estimator : δ} (h : run.Counted estimator) (service : σ) :
    ({ run with service } : Run δ β σ ρ α ε).Counted estimator :=
  ⟨h.received, h.settled, h.sampled, h.fed, h.learnt⟩

omit [DelayEstimator δ] [AdmissionBudget β] in
theorem Hedges.serve (h : run.Hedges) (service : σ) :
    ({ run with service } : Run δ β σ ρ α ε).Hedges :=
  ⟨h.timers, h.calls⟩

end Changes

/-- The simulated service counts the calls of the resolver. -/
theorem Change.issued {draws : Nat → Draw} {run run' : SimRun} {subject : Option RequestId}
    {directs : Nat} (hc : Change (Simulated.service draws) run subject run')
    (h : run.service.issued = run.calls.length + directs) :
    run'.service.issued = run'.calls.length + directs := by
  rcases hc.asked with ⟨hissues, hservice⟩ | ⟨now, payload, hissues, hservice⟩
  · rw [hservice, Ledger.length_of_issues hissues]
    exact h
  · have hlength : run'.calls.length = run.calls.length + 1 := by
      have hmap := congrArg List.length hissues
      rw [List.length_append, List.length_singleton] at hmap
      simpa [Ledger.issues] using hmap
    rw [hservice, hlength]
    show run.service.issued + 1 = _
    omega

end Run

open Run (Change fire_change ahead_of_mem_pending passTo_keeps driveFuel_keeps)

/-! ## The books -/

/-- The books of a dashboard that waits for some reports to be taken in, and has taken in others. -/
structure Books (d : Dashboard) (estimator : Estimator) (waiting taken : List LookupEvent)
    (ended : List Lookup) (directs : Nat) : Prop where
  sound : d.run.Sound
  counted : d.run.Counted estimator
  hedges : d.run.Hedges
  issued : d.run.service.issued = d.run.calls.length + directs
  reports : Reports d.run d.lookups ended (taken ++ waiting) directs
  tallied : Tallied d.lanes d.calls d.errors taken
  fresh : d.lookups = [] → waiting = [] → d.hedge.counters = d.run.counters

theorem new_books (profile : SimProfile) (estimator : Estimator) (budget : Budget) (config : Config)
    (host : String) :
    Books (.new (.new (.new profile) estimator budget) config host) estimator [] [] [] 0 :=
  { sound := Run.new_sound _ estimator budget
    counted := Run.new_counted _ estimator budget
    hedges := Run.new_hedges _ estimator budget
    issued := rfl
    reports := new_reports _ estimator budget
    tallied := new_tallied
    fresh := fun _ _ => rfl }

namespace Books

variable {draws : Nat → Draw} {d : Dashboard} {estimator : Estimator}
  {waiting taken : List LookupEvent} {ended : List Lookup} {directs : Nat}

/-- The books tell of the reports that wait, wherever they are kept. -/
theorem inbox (h : Books d estimator waiting taken ended directs) (inbox : List LookupEvent) :
    Books { d with inbox } estimator waiting taken ended directs :=
  ⟨h.sound, h.counted, h.hedges, h.issued, h.reports, h.tallied, h.fresh⟩

/-- The resolver goes on without another request. -/
theorem change {run' : SimRun} {subject : Option RequestId}
    (h : Books d estimator waiting taken ended directs)
    (hc : Change (Simulated.service draws) d.run subject run')
    (hlength : run'.requests.length = d.run.requests.length) :
    Books { d with run := run' } estimator waiting taken ended directs := by
  refine
    { sound := hc.sound h.sound
      counted := hc.counted h.counted
      hedges := hc.toll.hedges h.hedges
      issued := hc.issued h.issued
      reports := h.reports.follow hc.follows hlength
      tallied := h.tallied
      fresh := ?_ }
  intro hlookups hwaiting
  -- with nothing under way no request races, so nothing is counted
  have hrest := h.reports
  rw [show d.lookups = [] from hlookups] at hrest
  exact (h.fresh hlookups hwaiting).trans (hc.counters_of_idle hrest.idle hlength).symm

/-- A lookup that is started belongs to a new request, or goes to the service directly. -/
theorem spawnLookup (h : Books d estimator waiting taken ended directs) (draws : Nat → Draw) :
    Books (d.spawnLookup draws) estimator waiting taken ended
      (directs + (d.mode == .direct).toNat) := by
  cases hmode : d.mode with
  | hedged =>
    have hc : Change (Simulated.service draws) d.run none
        (d.run.start (Simulated.service draws) d.host false) := .started d.host false
    have hrequests : List.range (d.run.start (Simulated.service draws) d.host
        false).requests.length = List.range d.run.requests.length ++ [d.run.requests.length] := by
      show List.range (d.run.requests ++ [_]).length = _
      rw [List.length_append, List.length_singleton, List.range_succ]
    have hreports := h.reports.goOn hc.follows [⟨d.host, .hedged d.run.requests.length⟩]
      hrequests
    unfold Dashboard.spawnLookup
    simp only [hmode]
    exact
      { sound := hc.sound h.sound
        counted := hc.counted h.counted
        hedges := hc.toll.hedges h.hedges
        issued := hc.issued h.issued
        reports := hreports
        tallied := h.tallied
        fresh := fun hlookups => absurd hlookups (List.concat_ne_nil _ _) }
  | direct =>
    -- of a direct lookup nobody knows but the service
    have hsame : d.run.Follows { d.run with service := { d.simulated with
        issued := d.simulated.issued + 1 } } := ⟨Nat.le_refl _, fun _ _ there _ => there⟩
    have hreports := fun t reply =>
      h.reports.goOn hsame [⟨d.host, .direct t reply⟩] (List.append_nil _).symm
    unfold Dashboard.spawnLookup
    simp only [hmode]
    exact
      { sound := h.sound
        counted := h.counted.serve _
        hedges := h.hedges.serve _
        issued := congrArg (· + 1) h.issued
        reports := hreports _ _
        tallied := h.tallied
        fresh := fun hlookups => absurd hlookups (List.concat_ne_nil _ _) }

theorem unreported_perm (d : Dashboard) :
    d.unreported.Perm (d.lookups.filterMap (·.report? d.run)) := by
  unfold Dashboard.unreported
  refine ((List.mergeSort_perm _ _).map _).trans (.of_eq ?_)
  rw [List.map_filterMap]
  refine List.filterMap_congr fun l _ => ?_
  unfold Lookup.report?
  rw [Option.map_map]
  rfl

/-- What has ended is handed over. -/
theorem collect (h : Books d estimator waiting taken ended directs) :
    Books d.collect estimator (waiting ++ d.unreported) taken
      (ended ++ d.lookups.filter fun l => !(l.outcome? d.run).isNone) directs := by
  refine
    { sound := h.sound
      counted := h.counted
      hedges := h.hedges
      issued := h.issued
      reports := ?_
      tallied := h.tallied
      fresh := ?_ }
  · refine h.reports.collect.perm ?_
    rw [← List.append_assoc]
    exact (unreported_perm d).append_left _
  · intro hlookups hwaiting
    obtain ⟨hwaiting, hunreported⟩ := List.append_eq_nil_iff.mp hwaiting
    refine h.fresh (List.eq_nil_iff_forall_not_mem.mpr fun l hl => ?_) hwaiting
    have hreported : d.lookups.filterMap (·.report? d.run) = [] := by
      have hperm := unreported_perm d
      rw [hunreported] at hperm
      exact hperm.nil_eq.symm
    -- a lookup has ended and has a report, or it goes on
    cases houtcome : l.outcome? d.run with
    | none =>
      have hmem : l ∈ d.collect.lookups :=
        List.mem_filter.mpr ⟨hl, Option.isNone_iff_eq_none.mpr houtcome⟩
      rw [hlookups] at hmem
      cases hmem
    | some outcome =>
      have hnone := List.filterMap_eq_nil_iff.mp hreported l hl
      unfold Lookup.report? at hnone
      rw [houtcome] at hnone
      cases hnone

/-- A report is taken in, whichever. -/
theorem deliver {event : LookupEvent} {rest : List LookupEvent}
    (h : Books d estimator waiting taken ended directs) (latency : Binary64)
    (hperm : (event :: rest).Perm waiting) :
    Books (d.deliver latency event) estimator rest (taken ++ [event]) ended directs := by
  obtain ⟨message, lastLatency, batch, successes, history, callAges, recent, hdelivered⟩ :=
    Dashboard.deliver_frame latency d event
  rw [hdelivered]
  refine
    { sound := h.sound
      counted := h.counted
      hedges := h.hedges
      issued := h.issued
      reports := h.reports.perm ?_
      tallied := h.tallied.deliver latency.toFloat event
      fresh := fun _ _ => rfl }
  rw [List.append_assoc, List.singleton_append]
  exact hperm.append_left taken

/-- Reports are taken in one after another. -/
theorem deliverAll {events rest : List LookupEvent}
    (h : Books d estimator (events ++ rest) taken ended directs) (latency : Binary64) :
    Books (events.foldl (Dashboard.deliver latency) d) estimator rest (taken ++ events) ended
      directs := by
  induction events generalizing d taken with
  | nil =>
    rw [List.append_nil]
    exact h
  | cons event events ih =>
    have hrest := ih (h.deliver latency (.refl _))
    rw [List.append_assoc, List.singleton_append] at hrest
    exact hrest

/-- An event of the resolver comes. -/
theorem fire (h : Books d estimator waiting taken ended directs) (draws : Nat → Draw) {due : Due}
    (hdue : due ∈ d.run.pending) :
    Books { d with run := d.run.fire (Simulated.service draws) due } estimator waiting taken ended
      directs := by
  have hc : Change (Simulated.service draws) d.run _ _ :=
    fire_change h.sound (ahead_of_mem_pending hdue)
  exact h.change hc hc.length_requests

theorem wind (h : Books d estimator waiting taken ended directs) (draws : Nat → Draw)
    (t : Instant) :
    Books { d with run := d.run.wind t } estimator waiting taken ended directs := by
  have hc : Change (Simulated.service draws) d.run none (d.run.wind t) := .wound none t
  exact h.change hc rfl

theorem passTo (h : Books d estimator waiting taken ended directs) (draws : Nat → Draw)
    (t : Instant) :
    Books { d with run := d.run.passTo (Simulated.service draws) t } estimator waiting taken ended
      directs :=
  passTo_keeps (P := fun run => Books { d with run } estimator waiting taken ended directs) h.sound t
    (fun _ _ _ hdue h => h.fire draws hdue) (fun _ t h => h.wind draws t) h

theorem drive (h : Books d estimator waiting taken ended directs) (draws : Nat → Draw)
    (allowed : Due → Bool) (goesOn : SimRun → Bool) :
    Books { d with run := d.run.drive (Simulated.service draws) allowed goesOn } estimator waiting
      taken ended directs :=
  driveFuel_keeps (P := fun run => Books { d with run } estimator waiting taken ended directs)
    h.sound allowed goesOn (fun _ _ _ hdue h => h.fire draws hdue) d.run.potential h

end Books

end Hedging
