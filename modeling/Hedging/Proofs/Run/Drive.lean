import Hedging.Proofs.Run.Change

/-!
# Driving a run

`Run.drive` takes the earliest event that lies ahead, again and again, with fuel for as many events
as the potential of the run allows. Every event lowers the potential, so the fuel never runs out
(`drive_stops`), and the earliest event is one that a timely run may take:

> `drive_leads`: to drive a run is to let it go on in time.

So what holds of every timely run holds of everything that lets time pass or waits for a request
(`passTo_leads`, `await_leads`).
-/

namespace Hedging

/-! ## The earliest event -/

theorem Due.instant_le_of_not_isBefore {d e : Due} (h : e.isBefore d = false) :
    d.instant ≤ e.instant := by
  unfold isBefore at h
  rw [Bool.or_eq_false_iff] at h
  exact Nat.not_lt.mp (of_decide_eq_false h.1)

theorem Due.instant_le_of_isBefore {d e : Due} (h : e.isBefore d = true) :
    e.instant ≤ d.instant := by
  unfold isBefore at h
  rw [Bool.or_eq_true, Bool.and_eq_true] at h
  rcases h with hlt | ⟨heq, -⟩
  · exact Nat.le_of_lt (of_decide_eq_true hlt)
  · exact Nat.le_of_eq (eq_of_beq heq)

theorem earliest_eq_none {ds : List Due} (h : earliest ds = none) : ds = [] := by
  cases ds with
  | nil => rfl
  | cons d rest =>
    unfold earliest at h
    split at h
    next => cases h
    next => split at h <;> cases h

/-- The earliest of some events is one of them, and no other comes before its instant. -/
theorem earliest_le {ds : List Due} {d : Due} (h : earliest ds = some d) :
    d ∈ ds ∧ ∀ e ∈ ds, d.instant ≤ e.instant := by
  induction ds generalizing d with
  | nil => cases h
  | cons d₁ rest ih =>
    unfold earliest at h
    split at h
    next hnone =>
      obtain rfl := Option.some.inj h
      rw [earliest_eq_none hnone]
      refine ⟨List.mem_singleton.mpr rfl, fun e he => ?_⟩
      exact Nat.le_of_eq (congrArg Due.instant (List.mem_singleton.mp he).symm)
    next e₁ hsome =>
      obtain ⟨hmem, hle⟩ := ih hsome
      split at h
      next hbefore =>
        obtain rfl := Option.some.inj h
        refine ⟨List.mem_cons_of_mem _ hmem, fun e he => ?_⟩
        rcases List.mem_cons.mp he with rfl | he
        · exact Due.instant_le_of_isBefore hbefore
        · exact hle e he
      next hnot =>
        obtain rfl := Option.some.inj h
        refine ⟨List.mem_cons_self .., fun e he => ?_⟩
        rcases List.mem_cons.mp he with rfl | he
        · exact Nat.le_refl _
        · have hd := Due.instant_le_of_not_isBefore (Bool.not_eq_true _ ▸ hnot)
          exact Nat.le_trans hd (hle e he)

/-- A sum over a list after one entry was changed. -/
theorem foldr_add_modify {γ : Type} {f : γ → Nat} {l : List γ} {i : Nat} {x : γ} (g : γ → γ)
    (h : l[i]? = some x) :
    (l.modify i g).foldr (fun y total => f y + total) 0 + f x =
      l.foldr (fun y total => f y + total) 0 + f (g x) := by
  induction l generalizing i with
  | nil => cases h
  | cons y rest ih =>
    cases i with
    | zero =>
      obtain rfl : y = x := Option.some.inj h
      rw [List.modify_zero_cons, List.foldr_cons, List.foldr_cons]
      omega
    | succ i =>
      have hrest := ih h
      rw [List.modify_succ_cons, List.foldr_cons, List.foldr_cons]
      omega

namespace Run

section Clock

variable {δ β σ ρ α ε : Type} {run : Run δ β σ ρ α ε} {t : Instant}

/-! ## The clock -/

/-- The event that comes next is regular. -/
theorem regular_fire {due : Due} (hnext : run.next? = some due) :
    run.Regular (.fire due : Move ρ) := ⟨earliest_le hnext, nofun⟩

/-- Where no event before `t` is left, the clock may move to `t`. -/
theorem regular_wind (h : ∀ due, run.next? = some due → t ≤ due.instant) :
    run.Regular (.wind t : Move ρ) := by
  refine ⟨fun e he => ?_, nofun⟩
  cases hnext : run.next? with
  | none =>
    rw [earliest_eq_none hnext] at he
    cases he
  | some due => exact Nat.le_trans (h due hnext) ((earliest_le hnext).2 e he)

end Clock

variable {δ β σ ρ α ε : Type} [DelayEstimator δ] [AdmissionBudget β] {svc : Service σ ρ α ε}
  {run later : Run δ β σ ρ α ε} {id : RequestId} {allowed : Due → Bool}
  {waiting : Run δ β σ ρ α ε → Bool}

/-- What is regular is possible. -/
theorem Leads.reaches (hr : Leads svc Regular run later) : Reaches svc run later :=
  hr.mono fun _ _ hm => hm.1.possible

theorem Leads.sound (hr : Leads svc Regular run later) (h : run.Sound) : later.Sound :=
  hr.reaches.sound h

/-! ## The potential -/

/-- An event leaves its request with less to wait for. -/
theorem fire_stage (svc : Service σ ρ α ε) (hs : run.Sound) {due : Due} (hdue : run.Ahead due) :
    ∃ (request : Request ρ α ε) (stage : Stage ρ α ε), run.requests[due.request]? = some request ∧
      (run.fire svc due).requests = run.requests.modify due.request (fun r => { r with stage }) ∧
      ({ request with stage } : Request ρ α ε).potential < request.potential := by
  cases hdue with
  | @timer t id turn request race there racing armed set =>
    have hpotential : request.potential = race.potential := by
      unfold Request.potential
      rw [racing]
    cases hgranted : (AdmissionBudget.tryConsume run.budget).1 with
    | true =>
      have turned : Race.Turn request.payload run.calls.length race (.timer true) _ _ :=
        .hedged armed
      rw [fire_granted hs there racing armed hgranted]
      exact ⟨request, _, there, rfl, hpotential ▸ turned.potential_lt⟩
    | false =>
      have turned : Race.Turn request.payload run.calls.length race (.timer false) _ _ :=
        .refused armed
      rw [fire_refused hs there racing armed hgranted]
      exact ⟨request, _, there, rfl, hpotential ▸ turned.potential_lt⟩
  | @call id branch turn request race c call there racing waited held =>
    have hpotential : 0 < request.potential := by
      unfold Request.potential
      rw [racing]
      exact Nat.lt_of_le_of_lt (Nat.zero_le _) (Race.potential_without_lt waited)
    cases hsaid : call.reply.completion? with
    | some completion =>
      rw [fire_answered hs there racing waited held hsaid]
      exact ⟨request, _, there, requests_answer .., hpotential⟩
    | none =>
      obtain ⟨message, hreply⟩ := Reply.eq_crash_of_completion? hsaid
      rw [fire_crashed there racing waited held hreply, dropCalls_eq]
      exact ⟨request, _, there, rfl, hpotential⟩

theorem potential_fire_lt (svc : Service σ ρ α ε) (hs : run.Sound) {due : Due}
    (hdue : due ∈ run.pending) : (run.fire svc due).potential < run.potential := by
  obtain ⟨request, stage, there, hrequests, hlt⟩ := fire_stage svc hs (ahead_of_mem_pending hdue)
  have hsum := foldr_add_modify (f := Request.potential)
    (fun r : Request ρ α ε => { r with stage }) there
  unfold potential
  rw [hrequests]
  omega

/-! ## Driving -/

/-- Why a drive ends: nobody waits any more, nothing lies ahead, or what comes next is not
allowed. -/
def Stopped (allowed : Due → Bool) (waiting : Run δ β σ ρ α ε → Bool) (run : Run δ β σ ρ α ε) :
    Prop :=
  waiting run = false ∨ ∀ due, run.next? = some due → allowed due = false

theorem driveFuel_leads (svc : Service σ ρ α ε) (hs : run.Sound) (allowed : Due → Bool)
    (waiting : Run δ β σ ρ α ε → Bool) (fuel : Nat) :
    Leads svc Regular run (run.driveFuel svc allowed waiting fuel) := by
  induction fuel generalizing run with
  | zero => exact .refl ..
  | succ fuel ih =>
    unfold driveFuel
    split
    · split
      next => exact .refl ..
      next due hnext =>
        split
        · have hfirst : Leads svc Regular run (run.fire svc due) := .single (regular_fire hnext)
          exact hfirst.trans (ih (hfirst.sound hs))
        · exact .refl ..
    · exact .refl ..

/-- With fuel for its potential a run is driven until it stops. -/
theorem driveFuel_stops (svc : Service σ ρ α ε) (hs : run.Sound) (allowed : Due → Bool)
    (waiting : Run δ β σ ρ α ε → Bool) {fuel : Nat} (hfuel : run.potential ≤ fuel) :
    Stopped allowed waiting (run.driveFuel svc allowed waiting fuel) := by
  induction fuel generalizing run with
  | zero =>
    -- nothing lies ahead without potential, for an event would lower it
    refine Or.inr fun due hnext => ?_
    have hlt := potential_fire_lt svc hs (earliest_le hnext).1
    omega
  | succ fuel ih =>
    unfold driveFuel
    split
    next =>
      split
      next hnone => exact Or.inr fun due hnext => absurd (hnone.symm.trans hnext) (by simp)
      next due hnext =>
        split
        next =>
          have hfirst : Leads svc Regular run (run.fire svc due) := .single (regular_fire hnext)
          have hlt := potential_fire_lt svc hs (earliest_le hnext).1
          exact ih (hfirst.sound hs) (by omega)
        next hnot =>
          refine Or.inr fun due' hnext' => ?_
          obtain rfl := Option.some.inj (hnext.symm.trans hnext')
          exact Bool.not_eq_true _ ▸ hnot
    next hnot => exact Or.inl (Bool.not_eq_true _ ▸ hnot)

theorem drive_leads (svc : Service σ ρ α ε) (hs : run.Sound) (allowed : Due → Bool)
    (waiting : Run δ β σ ρ α ε → Bool) :
    Leads svc Regular run (run.drive svc allowed waiting) :=
  driveFuel_leads svc hs allowed waiting run.potential

/-- **There is fuel enough**: a drive goes on until it has a reason to stop. -/
theorem drive_stops (svc : Service σ ρ α ε) (hs : run.Sound) (allowed : Due → Bool)
    (waiting : Run δ β σ ρ α ε → Bool) :
    Stopped allowed waiting (run.drive svc allowed waiting) :=
  driveFuel_stops svc hs allowed waiting (Nat.le_refl _)

/-- To drive a run up to `t` and then move the clock there is to let it go on in time, as long as
the drive leaves nothing behind that comes before `t`. -/
theorem drive_wind_leads (svc : Service σ ρ α ε) (hs : run.Sound) {t : Instant}
    (hstop : ∀ due, (run.drive svc allowed waiting).next? = some due → t ≤ due.instant) :
    Leads svc Regular run ((run.drive svc allowed waiting).wind t) :=
  (drive_leads svc hs allowed waiting).trans (.single (regular_wind hstop))

theorem passTo_leads (svc : Service σ ρ α ε) (hs : run.Sound) (t : Instant) :
    Leads svc Regular run (run.passTo svc t) := by
  refine drive_wind_leads svc hs fun due hnext => ?_
  rcases drive_stops svc hs (Due.noLaterThan (some t)) (fun _ => true) with hwaits | hstop
  · cases hwaits
  · have hlater := hstop due hnext
    exact Nat.le_of_lt (Nat.not_le.mp (of_decide_eq_false hlater))

/-- An event that does not come in time does not come before the limit. -/
theorem le_of_not_inTime {due : Due} {t : Instant} (h : due.inTime id (some t) = false) :
    t ≤ due.instant := by
  unfold Due.inTime at h
  rw [Option.all_some, Bool.or_eq_false_iff] at h
  exact Nat.not_lt.mp (of_decide_eq_false h.1)

theorem await_leads (svc : Service σ ρ α ε) (hs : run.Sound) (id : RequestId)
    (limit : Option Instant) : Leads svc Regular run (run.await svc id limit) := by
  have hdrive := drive_leads svc hs (Due.inTime id limit) (·.isRacing id)
  unfold await
  simp only
  split
  next hracing =>
    cases limit with
    | none => exact hdrive
    | some t =>
      refine drive_wind_leads svc hs fun due hnext => ?_
      rcases drive_stops svc hs (Due.inTime id (some t)) (·.isRacing id) with hended | hstop
      · exact absurd (hracing.symm.trans hended) (by simp)
      · exact le_of_not_inTime (hstop due hnext)
  next => exact hdrive

/-! ## What a drive keeps -/

section Keeps

variable {P : Run δ β σ ρ α ε → Prop}

theorem driveFuel_keeps (hs : run.Sound) (allowed : Due → Bool)
    (waiting : Run δ β σ ρ α ε → Bool)
    (hfire : ∀ (run : Run δ β σ ρ α ε) (due : Due), run.Sound → due ∈ run.pending → P run →
      P (run.fire svc due)) (fuel : Nat) (h : P run) :
    P (run.driveFuel svc allowed waiting fuel) := by
  induction fuel generalizing run with
  | zero => exact h
  | succ fuel ih =>
    unfold driveFuel
    split
    · split
      next => exact h
      next due hnext =>
        split
        · have hfirst : Leads svc Regular run (run.fire svc due) := .single (regular_fire hnext)
          exact ih (hfirst.sound hs) (hfire run due hs (earliest_le hnext).1 h)
        · exact h
    · exact h

/-- What every event keeps, and the passing of time, is kept by whoever lets time pass. -/
theorem passTo_keeps (hs : run.Sound) (t : Instant)
    (hfire : ∀ (run : Run δ β σ ρ α ε) (due : Due), run.Sound → due ∈ run.pending → P run →
      P (run.fire svc due)) (hwind : ∀ (run : Run δ β σ ρ α ε) (t : Instant), P run → P (run.wind t))
    (h : P run) : P (run.passTo svc t) :=
  hwind _ t (driveFuel_keeps hs _ _ hfire run.potential h)

theorem await_keeps (hs : run.Sound) (id : RequestId) (limit : Option Instant)
    (hfire : ∀ (run : Run δ β σ ρ α ε) (due : Due), run.Sound → due ∈ run.pending → P run →
      P (run.fire svc due)) (hwind : ∀ (run : Run δ β σ ρ α ε) (t : Instant), P run → P (run.wind t))
    (h : P run) : P (run.await svc id limit) := by
  have hdriven := driveFuel_keeps hs (Due.inTime id limit) (·.isRacing id) hfire run.potential h
  unfold await
  simp only
  split
  · cases limit with
    | none => exact hdriven
    | some t => exact hwind _ t hdriven
  · exact hdriven

end Keeps

end Run

end Hedging
