import Mathlib.Data.List.Perm.Basic
import Hedging.Dashboard.Use
import Hedging.Proofs.Dashboard.Books

/-!
# The dashboard and the resolver agree

A dashboard tallies reports, and the resolver counts its own requests. While lookups of both modes
overlap, the two differ by what is under way; as soon as nothing is, they say the same. A
`DashboardMove` is anything that can happen in between: the user works the dashboard, the resolver
goes on by itself with events, calls that are cancelled and time that passes, lookups hand over their
reports, and reports are taken in, in any order. The steps of a dashboard are made of such moves
(`play_of_step`).

> `tallies_agree`: when every lookup has been reported and taken in, the wins, the errors, the
> cancellations and the calls that the dashboard shows are those of the resolver and of the service.
-/

namespace Hedging

/-! ## What can happen -/

/-- Does an operation neither forget results nor make any up? -/
def DashboardOp.isHonest : DashboardOp → Bool
  | .reset | .tally .. | .record .. => false
  | _ => true

/-- What can happen to a dashboard and the resolver that it watches. -/
inductive DashboardMove
  /-- The dashboard is used. -/
  | use (op : DashboardOp)
  /-- What is due at the present instant is finished. -/
  | flush
  /-- The resolver goes on by itself. -/
  | resolver (m : Move String)
  /-- The lookups that have ended hand over their reports. -/
  | collect
  /-- One of the reports that wait is taken in. -/
  | take (i : Nat) (latency : Binary64)
deriving DecidableEq, Repr

/-- Is this something that happens to a resolver without anybody using it? -/
def Move.comesByItself {ρ : Type} : Move ρ → Bool
  | .fire _ | .cut .. | .wind _ => true
  | .start .. | .abandon _ => false

/-- Does a move start a lookup that goes to the service directly? -/
def DashboardMove.startsDirect (d : Dashboard) : DashboardMove → Bool
  | .use .lookup | .use .spawnLookup => d.mode == .direct
  | _ => false

namespace Dashboard

/-- Takes in the report at a place among those that wait. -/
def takeAt (d : Dashboard) (i : Nat) (latency : Binary64) : Dashboard :=
  match d.inbox[i]? with
  | some event => deliver latency { d with inbox := d.inbox.eraseIdx i } event
  | none => d

/-- The dashboard is used honestly, and nobody else uses the resolver. -/
def Allowed (d : Dashboard) : DashboardMove → Prop
  | .use op => op.isHonest = true
  | .resolver m => m.comesByItself = true ∧ d.run.Possible m
  | .flush | .collect | .take .. => True

instance (d : Dashboard) : DecidablePred d.Allowed
  | .use op => inferInstanceAs (Decidable (op.isHonest = true))
  | .resolver m => inferInstanceAs (Decidable (m.comesByItself = true ∧ d.run.Possible m))
  | .flush | .collect | .take .. => isTrue trivial

/-- Carries out a move. An operation that breaks down changes nothing. -/
def apply (draws : Nat → Draw) (d : Dashboard) : DashboardMove → Dashboard
  | .use op =>
    match d.act draws op with
    | .ok (_, later) => later
    | .error _ => d
  | .flush => d.flush draws
  | .resolver m => { d with run := d.run.apply (Simulated.service draws) m }
  | .collect => d.collect
  | .take i latency => d.takeAt i latency

/-- The dashboard after some moves. -/
def play (draws : Nat → Draw) (d : Dashboard) (moves : List DashboardMove) : Dashboard :=
  moves.foldl (apply draws) d

/-- A step of the dashboard is an operation and what is due by then. -/
theorem play_of_step {draws : Nat → Draw} {d later : Dashboard} {op : DashboardOp}
    {events : List LookupEvent} (h : d.step draws op = .ok (events, later)) :
    d.play draws [.use op, .flush] = later := by
  unfold step at h
  cases hact : d.act draws op with
  | error fault =>
    rw [hact] at h
    cases h
  | ok carried =>
    rw [hact] at h
    obtain ⟨-, rfl⟩ := Prod.mk.inj (Except.ok.inj h)
    have hused : d.apply draws (.use op) = carried.2 := by
      simp only [apply, hact]
    exact congrArg (flush draws) hused

/-- Every move is allowed when it comes. -/
def Along (draws : Nat → Draw) : Dashboard → List DashboardMove → Prop
  | _, [] => True
  | d, m :: moves => d.Allowed m ∧ Along draws (d.apply draws m) moves

instance decidableAlong (draws : Nat → Draw) : ∀ d moves, Decidable (Along draws d moves)
  | _, [] => isTrue trivial
  | d, m :: moves =>
    have := decidableAlong draws (d.apply draws m) moves
    inferInstanceAs (Decidable (d.Allowed m ∧ Along draws (d.apply draws m) moves))

/-- The number of lookups that are started in direct mode. -/
def directLookups (draws : Nat → Draw) : Dashboard → List DashboardMove → Nat
  | _, [] => 0
  | d, m :: moves => (m.startsDirect d).toNat + directLookups draws (d.apply draws m) moves

/-! ## The books are kept -/

/-- The books of a dashboard are kept, and so many lookups have been direct. -/
def Kept (d : Dashboard) (estimator : Estimator) (directs : Nat) : Prop :=
  ∃ taken ended, Books d estimator d.inbox taken ended directs

namespace Kept

variable {d : Dashboard} {estimator : Estimator} {directs : Nat}

/-- The settings of a dashboard and its clock are no part of the books. -/
theorem settings (h : d.Kept estimator directs) (mode : Mode) (batch : Batch) (message : String)
    (uptime : Nat) (callAges : List Nat) :
    ({ d with mode, batch, message, uptime, callAges } : Dashboard).Kept estimator directs := by
  obtain ⟨taken, ended, h⟩ := h
  exact ⟨taken, ended, h.sound, h.counted, h.hedges, h.issued, h.reports, h.tallied, h.fresh⟩

theorem setTail (h : d.Kept estimator directs) (percent : Nat) :
    (d.setTail percent).Kept estimator directs := by
  obtain ⟨taken, ended, h⟩ := h
  have hsame : d.run.Follows (d.setTail percent).run := ⟨Nat.le_refl _, fun _ _ there _ => there⟩
  exact ⟨taken, ended, h.sound, h.counted.serve _, h.hedges.serve _, h.issued,
    h.reports.follow hsame rfl, h.tallied, h.fresh⟩

theorem refresh (h : d.Kept estimator directs) : d.refresh.Kept estimator directs := by
  obtain ⟨taken, ended, h⟩ := h
  exact ⟨taken, ended, h.sound, h.counted, h.hedges, h.issued, h.reports, h.tallied, fun _ _ => rfl⟩

theorem spawnLookup (h : d.Kept estimator directs) (draws : Nat → Draw) :
    (d.spawnLookup draws).Kept estimator (directs + (d.mode == .direct).toNat) := by
  obtain ⟨taken, ended, h⟩ := h
  exact ⟨taken, ended, h.spawnLookup draws⟩

theorem collect (h : d.Kept estimator directs) : d.collect.Kept estimator directs := by
  obtain ⟨taken, ended, h⟩ := h
  exact ⟨taken, _, h.collect⟩

theorem passTo (h : d.Kept estimator directs) (draws : Nat → Draw) (t : Instant) :
    ({ d with run := d.run.passTo (Simulated.service draws) t } : Dashboard).Kept estimator
      directs := by
  obtain ⟨taken, ended, h⟩ := h
  exact ⟨taken, ended, h.passTo draws t⟩

theorem flush (h : d.Kept estimator directs) (draws : Nat → Draw) :
    (d.flush draws).Kept estimator directs :=
  (h.passTo draws d.run.now).collect

theorem takeAt (h : d.Kept estimator directs) (i : Nat) (latency : Binary64) :
    (d.takeAt i latency).Kept estimator directs := by
  unfold Dashboard.takeAt
  split
  next event hevent =>
    obtain ⟨taken, ended, h⟩ := h
    obtain ⟨hlt, rfl⟩ := List.getElem?_eq_some_iff.mp hevent
    have hdelivered := (h.inbox (d.inbox.eraseIdx i)).deliver latency
      (List.getElem_cons_eraseIdx_perm hlt)
    refine ⟨taken ++ [d.inbox[i]], ended, ?_⟩
    rw [inbox_deliver]
    exact hdelivered
  next => exact h

theorem takeFirst (h : d.Kept estimator directs) (waited : Duration) :
    (d.takeFirst waited).2.Kept estimator directs := by
  have hsame : (d.takeFirst waited).2 = d.takeAt 0 (.ofFloat (spanMillis waited)) := by
    unfold Dashboard.takeFirst Dashboard.takeAt
    cases d.inbox <;> rfl
  rw [hsame]
  exact h.takeAt 0 _

theorem drain (h : d.Kept estimator directs) (latency : Binary64) :
    (d.drain latency).2.Kept estimator directs := by
  obtain ⟨taken, ended, h⟩ := h
  rw [← List.append_nil d.inbox] at h
  exact ⟨_, ended, (h.deliverAll latency).inbox []⟩

/-- To wait for a result is to let the resolver go on. -/
theorem awaitResult (h : d.Kept estimator directs) (draws : Nat → Draw) :
    (d.awaitResult draws).Kept estimator directs := by
  obtain ⟨taken, ended, h⟩ := h
  have hdriven := fun limit => h.drive draws (Due.noLaterThan limit) fun run => !d.hasResult run
  unfold Dashboard.awaitResult
  refine Kept.flush ⟨taken, ended, ?_⟩ draws
  simp only
  split
  · exact hdriven _
  · cases d.nextDirectEnd? with
    | none => exact hdriven none
    | some t => exact (hdriven (some t)).wind draws t

theorem lookup (h : d.Kept estimator directs) (draws : Nat → Draw) :
    (d.lookup draws).2.Kept estimator (directs + (d.mode == .direct).toNat) := by
  unfold Dashboard.lookup
  split
  · exact ((h.spawnLookup draws).awaitResult draws).takeFirst _
  · -- a report that waits already is taken in first, which does not change the mode
    have hmode : (d.takeFirst .zero).2.mode = d.mode := by
      unfold Dashboard.takeFirst
      cases d.inbox with
      | nil => rfl
      | cons event rest => exact mode_deliver ..
    rw [← hmode]
    exact (h.takeFirst .zero).spawnLookup draws

/-- An operation that may break down keeps the books if it keeps them when it does not. -/
theorem unlessFault (h : d.Kept estimator directs) {carried : Except DashboardFault Dashboard}
    (hcarried : ∀ later, carried = .ok later → later.Kept estimator directs) :
    (match carried.map fun later => (([] : List LookupEvent), later) with
      | .ok (_, later) => later
      | .error _ => d).Kept estimator directs := by
  cases carried with
  | error fault => exact h
  | ok later => exact hcarried later rfl

/-- Honest use keeps the books. -/
theorem use (h : d.Kept estimator directs) (draws : Nat → Draw) {op : DashboardOp}
    (hop : op.isHonest = true) :
    (d.apply draws (.use op)).Kept estimator
      (directs + ((DashboardMove.use op).startsDirect d).toNat) := by
  cases op with
  | toggleMode => exact h.settings ..
  | toggleBatch =>
    show d.toggleBatch.Kept estimator directs
    unfold Dashboard.toggleBatch
    split
    · exact h.settings ..
    · exact h.settings ..
  | moreBatch =>
    refine h.unlessFault fun later hmore => ?_
    unfold Dashboard.moreBatch at hmore
    simp only at hmore
    split at hmore
    · cases hmore
    · obtain rfl := Except.ok.inj hmore
      exact h.settings ..
  | fewerBatch => exact h.settings ..
  | setBatchCount count => exact h.settings ..
  | moreTail => exact h.setTail _
  | lessTail => exact h.setTail _
  | setTail percent => exact h.setTail percent
  | refresh => exact h.refresh
  | reset => cases hop
  | tally lane latency ok => cases hop
  | record lane latency ok message => cases hop
  | lookup => exact h.lookup draws
  | spawnLookup => exact h.spawnLookup draws
  | sleep span => exact h.passTo draws _
  | drain latency => exact h.drain latency
  | setUptime seconds =>
    refine h.unlessFault fun later hset => ?_
    unfold Dashboard.setUptime at hset
    split at hset
    · cases hset
    · obtain rfl := Except.ok.inj hset
      exact h.settings ..
  | age count => exact h.settings ..

/-- What the resolver does by itself keeps the books. -/
theorem resolver (h : d.Kept estimator directs) (draws : Nat → Draw) {m : Move String}
    (hm : m.comesByItself = true) (possible : d.run.Possible m) :
    (d.apply draws (.resolver m)).Kept estimator directs := by
  obtain ⟨taken, ended, h⟩ := h
  have hc : Run.Change (Simulated.service draws) d.run m.subject
      (d.run.apply (Simulated.service draws) m) := Run.apply_change h.sound possible
  -- a move that comes by itself brings in no request
  cases m with
  | fire due => exact ⟨taken, ended, h.change hc hc.length_requests⟩
  | cut id branch => exact ⟨taken, ended, h.change hc hc.length_requests⟩
  | wind t => exact ⟨taken, ended, h.change hc rfl⟩
  | start payload inPlace => cases hm
  | abandon id => cases hm

/-- **Whatever happens, the books are kept.** -/
theorem apply (h : d.Kept estimator directs) (draws : Nat → Draw) {m : DashboardMove}
    (hm : d.Allowed m) :
    (d.apply draws m).Kept estimator (directs + (m.startsDirect d).toNat) := by
  cases m with
  | use op => exact h.use draws hm
  | flush => exact h.flush draws
  | resolver m => exact h.resolver draws hm.1 hm.2
  | collect => exact h.collect
  | take i latency => exact h.takeAt i latency

theorem play (h : d.Kept estimator directs) (draws : Nat → Draw) {moves : List DashboardMove}
    (hmoves : Along draws d moves) :
    (d.play draws moves).Kept estimator (directs + d.directLookups draws moves) := by
  induction moves generalizing d directs with
  | nil => exact h
  | cons m rest ih =>
    have hrest := ih (h.apply draws hmoves.1) hmoves.2
    rw [Nat.add_assoc] at hrest
    exact hrest

end Kept

end Dashboard

/-! ## What the reports add up to -/

section Counts

variable {run : SimRun} {ended : List Lookup} {reports : List LookupEvent} {directs : Nat}

/-- As many reports tell of a fate as requests have it. -/
theorem Reports.countP_fate (h : Reports run [] ended reports directs) (fate : Fate) :
    reports.countP (·.fate? == some fate) = run.tally fate := by
  have hcount := h.fates.count_eq fate
  rw [List.count_filterMap, List.count_eq_countP, List.countP_map] at hcount
  exact hcount

/-- A request that was answered by a call of this branch. -/
def Fate.win : Branch → Fate
  | .primary => .primaryWin
  | .backup => .backupWin

/-- A success in the lane of a branch is a request that was answered by that branch. -/
theorem LookupEvent.isWin (branch : Branch) (e : LookupEvent) :
    (e.lane == some (.ofBranch branch) && e.ok) = (e.fate? == some (.win branch)) := by
  obtain ⟨lane, ok, message⟩ := e
  cases lane with
  | none => cases branch <;> cases ok <;> rfl
  | some lane => cases branch <;> cases lane <;> cases ok <;> rfl

/-- What is of exactly one of two kinds is counted under one of them. -/
theorem countP_eq_add {γ : Type} {p q r : γ → Bool}
    (h : ∀ x, (p x).toNat = (q x).toNat + (r x).toNat) (l : List γ) :
    l.countP p = l.countP q + l.countP r := by
  induction l with
  | nil => rfl
  | cons x rest ih =>
    have hone : ∀ b : Bool, (if b = true then 1 else 0) = b.toNat := by decide
    rw [List.countP_cons, List.countP_cons, List.countP_cons, ih, hone, hone, hone, h x]
    omega

/-- A request that failed is an error of the lane whose call settled it. -/
theorem countP_failures (reports : List LookupEvent) :
    reports.countP (·.fate? == some .failure) =
      reports.countP (fun e => e.lane == some .primary && !e.ok) +
        reports.countP fun e => e.lane == some .backup && !e.ok := by
  refine countP_eq_add (fun e => ?_) reports
  obtain ⟨lane, ok, message⟩ := e
  cases lane with
  | none => cases ok <;> rfl
  | some lane => cases lane <;> cases ok <;> rfl

/-- An error is a request that failed, a direct lookup that failed, or a request that was
cancelled. -/
theorem countP_errors (reports : List LookupEvent) :
    reports.countP (!·.ok) =
      reports.countP (·.fate? == some .failure) +
        (reports.countP (fun e => e.lane == some .direct && !e.ok) +
          reports.countP (·.fate? == some .cancellation)) := by
  have hrest : reports.countP (fun e => e.lane == some .direct && !e.ok ||
      e.fate? == some .cancellation) =
        reports.countP (fun e => e.lane == some .direct && !e.ok) +
          reports.countP (·.fate? == some .cancellation) := by
    refine countP_eq_add (fun e => ?_) reports
    obtain ⟨lane, ok, message⟩ := e
    cases lane with
    | none => cases ok <;> rfl
    | some lane => cases lane <;> cases ok <;> rfl
  rw [← hrest]
  refine countP_eq_add (fun e => ?_) reports
  obtain ⟨lane, ok, message⟩ := e
  cases lane with
  | none => cases ok <;> rfl
  | some lane => cases lane <;> cases ok <;> rfl

end Counts

namespace Dashboard

/-- What a dashboard shows is what the resolver and the service count, where so many lookups have been
direct. -/
structure Agrees (d : Dashboard) (directs : Nat) : Prop where
  /-- The statistics shown are those of the resolver now. -/
  current : d.hedge.counters = d.run.counters
  primaryWins : (d.lanes.tally .primary).wins = d.hedge.counters.primaryWins
  backupWins : (d.lanes.tally .backup).wins = d.hedge.counters.backupWins
  failures : (d.lanes.tally .primary).errors + (d.lanes.tally .backup).errors =
    d.hedge.counters.failures
  /-- The errors without a lane. -/
  cancellations : d.errors =
    (d.lanes.tally .primary).errors + (d.lanes.tally .backup).errors +
      (d.lanes.tally .direct).errors + d.hedge.counters.cancellations
  calls : d.calls = d.hedge.counters.requests + directs
  issued : d.simulated.issued =
    d.hedge.counters.requests + d.hedge.counters.backupsIssued + directs

theorem Kept.agrees {d : Dashboard} {estimator : Estimator} {directs : Nat}
    (h : d.Kept estimator directs) (hlookups : d.lookups = []) (hinbox : d.inbox = []) :
    d.Agrees directs := by
  obtain ⟨taken, ended, h⟩ := h
  have hreports := h.reports
  rw [hlookups, hinbox, List.append_nil] at hreports
  have hcurrent : d.hedge.counters = d.run.counters := h.fresh hlookups hinbox
  have htallied := h.tallied
  have hfate : ∀ fate, fate.isSettled = true →
      taken.countP (·.fate? == some fate) = d.hedge.counters.count fate := by
    intro fate hfate
    rw [hreports.countP_fate fate, hcurrent, h.counted.settled fate hfate]
  have hwins : ∀ branch, (d.lanes.tally (.ofBranch branch)).wins =
      d.hedge.counters.count (.win branch) := by
    intro branch
    have hsettled : (Fate.win branch).isSettled = true := by cases branch <;> rfl
    rw [htallied.wins, ← hfate _ hsettled]
    exact List.countP_congr fun e _ => by rw [e.isWin branch]
  have hfailures : (d.lanes.tally .primary).errors + (d.lanes.tally .backup).errors =
      d.hedge.counters.failures := by
    rw [htallied.failures, htallied.failures, ← countP_failures]
    exact hfate .failure rfl
  have hcancellations : taken.countP (·.fate? == some .cancellation) =
      d.hedge.counters.cancellations := hfate .cancellation rfl
  refine
    { current := hcurrent
      primaryWins := hwins .primary
      backupWins := hwins .backup
      failures := hfailures
      cancellations := ?_
      calls := ?_
      issued := ?_ }
  · rw [htallied.errors, countP_errors, countP_failures, ← htallied.failures, ← htallied.failures,
      ← htallied.failures, hcancellations]
    omega
  · rw [htallied.calls, hreports.length, hcurrent, h.counted.received]
  · rw [hcurrent, ← h.hedges.calls]
    exact h.issued

/-- **The dashboard and the resolver agree on who answered.**

However lookups of both modes overlap, and whatever the service draws: when every lookup has been
reported and taken in, the dashboard tallies for each lane what the resolver counts for it, every
failure of a request is an error of the lane whose call settled it, every cancellation is an error
without a lane, and the calls of the dashboard and of the service are the requests, their backups and
the direct lookups. -/
theorem tallies_agree (draws : Nat → Draw) (profile : SimProfile) (estimator : Estimator)
    (budget : Budget) (config : Config) (host : String) (moves : List DashboardMove) :
    let opened : Dashboard := .new (.new (.new profile) estimator budget) config host
    let d := opened.play draws moves
    Along draws opened moves → d.lookups = [] → d.inbox = [] →
      d.Agrees (opened.directLookups draws moves) := by
  intro opened d hmoves hlookups hinbox
  have hopened : opened.Kept estimator 0 := ⟨[], [], new_books profile estimator budget config host⟩
  have hkept := hopened.play draws hmoves
  rw [Nat.zero_add] at hkept
  exact hkept.agrees hlookups hinbox

/-- A dashboard that has taken in all reports has none left, and the resolver and the lookups are as
they were. -/
theorem drain_frame (d : Dashboard) (latency : Binary64) :
    (d.drain latency).2.run = d.run ∧ (d.drain latency).2.lookups = d.lookups ∧
      (d.drain latency).2.inbox = [] := by
  have hall : ∀ (events : List LookupEvent) (d : Dashboard),
      (events.foldl (deliver latency) d).run = d.run ∧
        (events.foldl (deliver latency) d).lookups = d.lookups := by
    intro events
    induction events with
    | nil => exact fun d => ⟨rfl, rfl⟩
    | cons event rest ih =>
      intro d
      obtain ⟨hrun, hlookups⟩ := ih (d.deliver latency event)
      exact ⟨hrun.trans (run_deliver ..), hlookups.trans (lookups_deliver ..)⟩
  exact ⟨(hall d.inbox d).1, (hall d.inbox d).2, rfl⟩

/-- Three hedged lookups and a direct one overlap: the backup of the first fails, the calls of the
second are cancelled, the primary of the third answers, and the direct one fails. -/
theorem tallies_agree_of_overlap :
    let draws : Nat → Draw := fun n =>
      ([⟨0, 0, 99⟩, ⟨0, 99, 0⟩, ⟨0, 0, 99⟩, ⟨0, 99, 0⟩, ⟨0, 99, 99⟩, ⟨0, 99, 99⟩][n]?).getD ⟨0, 99, 99⟩
    let profile : SimProfile := ⟨.ofMillis 20, .ofMillis 0, .ofMillis 400, 50, 50⟩
    let opened : Dashboard :=
      .new (.new (.new profile) (.constant ⟨some (.ofMillis 30)⟩) .unlimited) .default "example.com"
    let moves : List DashboardMove :=
      [.use .spawnLookup, .use .toggleMode, .use .spawnLookup, .use .toggleMode,
        .use (.sleep (.ofMillis 25)), .use .spawnLookup, .use (.sleep (.ofMillis 35)),
        .resolver (.cut 1 .primary), .resolver (.cut 1 .backup), .use .spawnLookup,
        .use (.sleep (.ofMillis 30)), .flush, .use (.drain ⟨0⟩)]
    let d := opened.play draws moves
    Along draws opened moves ∧ d.lookups = [] ∧ d.inbox = [] ∧ d.Agrees 1 ∧
      d.hedge.counters =
        { requests := 3, backupsIssued := 2, primaryWins := 1, failures := 1, cancellations := 1
          samples := 2 } := by
  intro draws profile opened moves d
  have hmoves : Along draws opened moves := by decide
  have hlast : d = ((opened.play draws (moves.take 12)).drain ⟨0⟩).2 := rfl
  have hnone : (opened.play draws (moves.take 12)).lookups.isEmpty = true := by decide +kernel
  obtain ⟨hrun, hlookups, hinbox⟩ := drain_frame (opened.play draws (moves.take 12)) ⟨0⟩
  rw [← hlast] at hrun hlookups hinbox
  rw [List.isEmpty_iff.mp hnone] at hlookups
  have hdirects : opened.directLookups draws moves = 1 := by decide +kernel
  have hagrees : d.Agrees (opened.directLookups draws moves) :=
    tallies_agree draws profile (.constant ⟨some (.ofMillis 30)⟩) .unlimited .default "example.com"
      moves hmoves hlookups hinbox
  rw [hdirects] at hagrees
  refine ⟨hmoves, hlookups, hinbox, hagrees, ?_⟩
  rw [hagrees.current, hrun]
  decide +kernel

end Dashboard

end Hedging
