import Hedging.Proofs.Run.Accounts

/-!
# The load that hedging adds

Every request pays into a token budget when it arrives, and every backup is paid for out of it when
a timer goes off, which may be much later, with any number of other requests in between. Of all that
can happen to a run, `Toll` keeps only what matters here: a request has paid, a timer has asked the
budget for a backup, or neither.

What is in the budget together with what the backups have cost, less what the requests have paid, is
the `balance` of a run. Nothing ever raises it: a deposit may be cut off at the cap, and a
withdrawal is never more than what is there.

> `backups_bounded`: between any two states of any run the backups cost no more than what was in the
> budget and what the requests have paid since.
-/

namespace Hedging

/-- Will the timer of a request still go off? -/
def Request.isArmed {ρ α ε : Type} (r : Request ρ α ε) : Bool :=
  match r.stage with
  | .racing race => race.timerArmed
  | _ => false

theorem Request.isArmed_of_racing {ρ α ε : Type} {request : Request ρ α ε} {race : Race ρ α ε}
    (racing : request.stage = .racing race) : request.isArmed = race.timerArmed := by
  unfold isArmed
  rw [racing]

theorem Counters.backupsIssued_settle {α ε : Type} (c : Counters) (result : Result α ε) :
    (c.settle result).backupsIssued = c.backupsIssued := by
  unfold settle
  split <;> rfl

theorem Counters.backupsDenied_settle {α ε : Type} (c : Counters) (result : Result α ε) :
    (c.settle result).backupsDenied = c.backupsDenied := by
  unfold settle
  split <;> rfl

theorem Ledger.length_foldl_drop {ρ α ε : Type} (ids : List CallId) (calls : Ledger ρ α ε) :
    (ids.foldl Ledger.drop calls).length = calls.length := by
  induction ids generalizing calls with
  | nil => rfl
  | cons id rest ih => rw [List.foldl_cons, ih, Ledger.length_drop]

namespace Run

section Armed

variable {δ β σ ρ α ε : Type} {run run' : Run δ β σ ρ α ε} {id : RequestId}
  {request : Request ρ α ε} {stage : Stage ρ α ε}

/-! ## Timers -/

/-- The number of timers that will still go off. -/
def armed (run : Run δ β σ ρ α ε) : Nat := run.requests.countP (·.isArmed)

theorem armed_of_stage (there : run.requests[id]? = some request)
    (hrequests : run'.requests = run.requests.modify id fun r => { r with stage }) :
    run'.armed + request.isArmed.toNat =
      run.armed + ({ request with stage } : Request ρ α ε).isArmed.toNat := by
  unfold armed
  rw [hrequests]
  exact countP_modify (fun r : Request ρ α ε => { r with stage }) there

/-- No timer is armed but at the start of its request. -/
theorem armed_le_of_stage (there : run.requests[id]? = some request)
    (hrequests : run'.requests = run.requests.modify id fun r => { r with stage })
    (hstage : ({ request with stage } : Request ρ α ε).isArmed = true → request.isArmed = true) :
    run'.armed ≤ run.armed := by
  have hcount := armed_of_stage there hrequests
  cases hafter : ({ request with stage } : Request ρ α ε).isArmed with
  | false =>
    rw [hafter, Bool.toNat_false] at hcount
    omega
  | true =>
    rw [hafter, hstage hafter] at hcount
    omega

theorem armed_of_timer {race race' : Race ρ α ε} (there : run.requests[id]? = some request)
    (racing : request.stage = .racing race) (armed : race.timerArmed = true)
    (disarmed : race'.timerArmed = false)
    (hrequests : run'.requests =
      run.requests.modify id fun r => { r with stage := .racing race' }) :
    run'.armed + 1 = run.armed := by
  have hcount := armed_of_stage there hrequests
  rw [Request.isArmed_of_racing racing, armed,
    show ({ request with stage := .racing race' } : Request ρ α ε).isArmed = false from disarmed]
    at hcount
  exact hcount

/-- Every backup that was issued or denied goes back to the timer of a request, and every call on
the ledger to a request or to a backup that was issued. -/
structure Hedges (run : Run δ β σ ρ α ε) : Prop where
  timers : run.counters.backupsIssued + run.counters.backupsDenied + run.armed ≤
    run.counters.requests
  calls : run.calls.length = run.counters.requests + run.counters.backupsIssued

theorem new_hedges (service : σ) (estimator : δ) (budget : β) :
    (Run.new service estimator budget : Run δ β σ ρ α ε).Hedges :=
  ⟨Nat.le_refl 0, rfl⟩

end Armed

section Toll

variable {δ β σ ρ α ε : Type} [AdmissionBudget β] {run run' : Run δ β σ ρ α ε}

/-! ## Who pays, and for what -/

/-- What a change means for the budget and for the backups. -/
inductive Toll (run run' : Run δ β σ ρ α ε) : Prop
  /-- A request has come and has paid. -/
  | paid (budget : run'.budget = AdmissionBudget.fund run.budget)
    (received : run'.counters.requests = run.counters.requests + 1)
    (issued : run'.counters.backupsIssued = run.counters.backupsIssued)
    (denied : run'.counters.backupsDenied = run.counters.backupsDenied)
    (calls : run'.calls.length = run.calls.length + 1) (armed : run'.armed ≤ run.armed + 1)
  /-- A timer has gone off and has asked for a backup. -/
  | asked (budget : run'.budget = (AdmissionBudget.tryConsume run.budget).2)
    (received : run'.counters.requests = run.counters.requests)
    (issued : run'.counters.backupsIssued =
      run.counters.backupsIssued + (AdmissionBudget.tryConsume run.budget).1.toNat)
    (denied : run'.counters.backupsDenied =
      run.counters.backupsDenied + (!(AdmissionBudget.tryConsume run.budget).1).toNat)
    (calls : run'.calls.length =
      run.calls.length + (AdmissionBudget.tryConsume run.budget).1.toNat)
    (armed : run'.armed + 1 = run.armed)
  /-- Neither of the two. -/
  | free (budget : run'.budget = run.budget)
    (received : run'.counters.requests = run.counters.requests)
    (issued : run'.counters.backupsIssued = run.counters.backupsIssued)
    (denied : run'.counters.backupsDenied = run.counters.backupsDenied)
    (calls : run'.calls.length = run.calls.length) (armed : run'.armed ≤ run.armed)

theorem Toll.hedges (ht : Toll run run') (h : run.Hedges) : run'.Hedges := by
  have htimers := h.timers
  have hcalls := h.calls
  cases ht with
  | paid budget received issued denied calls armed => exact ⟨by omega, by omega⟩
  | asked budget received issued denied calls armed =>
    cases hgranted : (AdmissionBudget.tryConsume run.budget).1 <;>
      simp only [hgranted, Bool.toNat_true, Bool.toNat_false, Bool.not_true, Bool.not_false]
        at issued denied calls <;>
      exact ⟨by omega, by omega⟩
  | free budget received issued denied calls armed => exact ⟨by omega, by omega⟩

end Toll

section Change

variable {δ β σ ρ α ε : Type} [DelayEstimator δ] [AdmissionBudget β] {svc : Service σ ρ α ε}
  {run run' later : Run δ β σ ρ α ε} {subject : Option RequestId}

theorem armed_start_le (svc : Service σ ρ α ε) (run : Run δ β σ ρ α ε) (payload : ρ)
    (inPlace : Bool) : (run.start svc payload inPlace).armed ≤ run.armed + 1 := by
  unfold armed start
  rw [List.countP_append, List.countP_singleton]
  split <;> omega

/-- Every change is one of the three. -/
theorem Change.toll (hc : Change svc run subject run') : Toll run run' := by
  cases hc with
  | started payload inPlace =>
    exact .paid rfl rfl rfl rfl (Ledger.length_issue ..) (armed_start_le ..)
  | wound _ t => exact .free rfl rfl rfl rfl rfl (Nat.le_refl _)
  | hedged there racing armed granted =>
    refine .asked rfl rfl ?_ ?_ ?_ (armed_of_timer there racing armed rfl rfl)
    · rw [granted]
      rfl
    · rw [granted]
      rfl
    · rw [granted]
      exact Ledger.length_issue ..
  | denied there racing armed refused =>
    refine .asked rfl rfl ?_ ?_ ?_ (armed_of_timer there racing armed rfl rfl)
    · rw [refused]
      rfl
    · rw [refused]
      rfl
    · rw [refused]
      rfl
  | answered there racing waited held said =>
    refine .free (budget_answer ..) ?_ ?_ ?_ ?_ ?_
    · rw [counters_answer, Counters.requests_settle]
      rfl
    · rw [counters_answer, Counters.backupsIssued_settle]
      rfl
    · rw [counters_answer, Counters.backupsDenied_settle]
      rfl
    · exact (Ledger.length_foldl_drop ..).trans (Ledger.length_finish ..)
    · exact armed_le_of_stage there (requests_answer ..) nofun
  | crashed there racing =>
    rw [dropCalls_eq]
    refine .free rfl rfl rfl rfl ?_ (armed_le_of_stage there rfl nofun)
    exact (Ledger.length_foldl_drop ..).trans (Ledger.length_finish ..)
  | @bereft _ _ race branch _ _ there racing =>
    refine .free rfl rfl rfl rfl (Ledger.length_drop ..) (armed_le_of_stage there rfl ?_)
    intro hafter
    rw [Request.isArmed_of_racing racing]
    cases branch <;> exact hafter
  | lost there racing =>
    exact .free rfl rfl rfl rfl (Ledger.length_drop ..) (armed_le_of_stage there rfl nofun)
  | abandoned there racing =>
    rw [dropCalls_eq]
    exact .free rfl rfl rfl rfl (Ledger.length_foldl_drop ..) (armed_le_of_stage there rfl nofun)

end Change

section Tokens

variable {δ σ ρ α ε : Type} {run run' : Run δ TokenBudget σ ρ α ε} {deposit withdraw max : UInt32}

/-! ## Tokens -/

/-- The tokens are those of a budget with these parameters. -/
structure Within (deposit withdraw max : UInt32) (b : TokenBudget) : Prop where
  deposit : b.deposit = deposit
  withdraw : b.withdraw = withdraw
  max : b.max = max
  tokens_le : b.tokens.toNat ≤ b.max.toNat

theorem Within.tokens_le_max {b : TokenBudget} (h : Within deposit withdraw max b) :
    b.tokens ≤ max := by
  have hle := h.tokens_le
  rw [h.max] at hle
  exact UInt32.le_iff_toNat_le.mpr hle

theorem new_within (deposit withdraw max initial : UInt32) :
    Within deposit withdraw max (.new deposit withdraw max initial) := by
  refine ⟨rfl, rfl, rfl, ?_⟩
  show (minWord initial max).toNat ≤ max.toNat
  rw [toNat_minWord]
  exact Nat.min_le_right ..

theorem Within.fund {b : TokenBudget} (h : Within deposit withdraw max b) :
    Within deposit withdraw max b.fund :=
  ⟨h.deposit, h.withdraw, h.max, b.fund_le⟩

theorem Within.tryConsume {b : TokenBudget} (h : Within deposit withdraw max b) :
    Within deposit withdraw max b.tryConsume.2 := by
  have hle := TokenBudget.tryConsume_le h.tokens_le
  unfold TokenBudget.tryConsume at hle ⊢
  split
  next => exact h
  next henough =>
    rw [if_neg henough] at hle
    exact ⟨h.deposit, h.withdraw, h.max, hle⟩

theorem Toll.within (ht : Toll run run') (h : Within deposit withdraw max run.budget) :
    Within deposit withdraw max run'.budget := by
  cases ht with
  | paid budget =>
    rw [budget]
    exact h.fund
  | asked budget =>
    rw [budget]
    exact h.tryConsume
  | free budget =>
    rw [budget]
    exact h

/-- What is in the budget together with what the backups have cost, less what the requests have
paid. -/
def balance (deposit withdraw : UInt32) (run : Run δ TokenBudget σ ρ α ε) : Int :=
  run.budget.tokens.toNat + withdraw.toNat * run.counters.backupsIssued -
    deposit.toNat * run.counters.requests

/-- No counter has fallen from one run to another, and the balance has not risen. -/
structure Spends (deposit withdraw : UInt32) (a b : Run δ TokenBudget σ ρ α ε) : Prop where
  requests_le : a.counters.requests ≤ b.counters.requests
  issued_le : a.counters.backupsIssued ≤ b.counters.backupsIssued
  balance_le : b.balance deposit withdraw ≤ a.balance deposit withdraw

theorem Spends.refl (deposit withdraw : UInt32) (run : Run δ TokenBudget σ ρ α ε) :
    Spends deposit withdraw run run :=
  ⟨Nat.le_refl _, Nat.le_refl _, Int.le_refl _⟩

theorem Spends.trans {a b c : Run δ TokenBudget σ ρ α ε} (hab : Spends deposit withdraw a b)
    (hbc : Spends deposit withdraw b c) : Spends deposit withdraw a c :=
  ⟨Nat.le_trans hab.requests_le hbc.requests_le, Nat.le_trans hab.issued_le hbc.issued_le,
    Int.le_trans hbc.balance_le hab.balance_le⟩

/-- Backups are paid for out of what was there and what has been paid in since. -/
theorem Spends.load {a b : Run δ TokenBudget σ ρ α ε} (h : Spends deposit withdraw a b) :
    (b.budget.tokens.toNat : Int) +
        withdraw.toNat * ((b.counters.backupsIssued : Int) - a.counters.backupsIssued) ≤
      a.budget.tokens.toNat +
        deposit.toNat * ((b.counters.requests : Int) - a.counters.requests) := by
  have hbalance := h.balance_le
  unfold balance at hbalance
  rw [Int.mul_sub, Int.mul_sub]
  omega

/-- With a full budget at first and `k` requests since, so many backups can be paid for. -/
theorem Spends.issued_le_div {a b : Run δ TokenBudget σ ρ α ε} (h : Spends deposit withdraw a b)
    (htokens : a.budget.tokens ≤ max) (hpos : 0 < withdraw) {k : Nat}
    (hk : b.counters.requests = a.counters.requests + k) :
    b.counters.backupsIssued - a.counters.backupsIssued ≤
      (max.toNat + k * deposit.toNat) / withdraw.toNat := by
  obtain ⟨n, hn⟩ := Nat.exists_eq_add_of_le h.issued_le
  have hfull : a.budget.tokens.toNat ≤ max.toNat := UInt32.le_iff_toNat_le.mp htokens
  have hcost : withdraw.toNat * n ≤ max.toNat + deposit.toNat * k := by
    have hload := h.load
    have hissued : (b.counters.backupsIssued : Int) - a.counters.backupsIssued = n := by omega
    have hrequests : (b.counters.requests : Int) - a.counters.requests = k := by omega
    rw [hissued, hrequests, ← Int.natCast_mul, ← Int.natCast_mul] at hload
    omega
  rw [hn, Nat.add_sub_cancel_left, Nat.le_div_iff_mul_le (UInt32.lt_iff_toNat_lt.mp hpos),
    Nat.mul_comm n, Nat.mul_comm k]
  exact hcost

/-- A backup that is granted costs what is taken out of the budget. -/
theorem tokens_tryConsume (b : TokenBudget) :
    (b.tryConsume.2.tokens.toNat : Int) + b.withdraw.toNat * b.tryConsume.1.toNat =
      b.tokens.toNat := by
  rcases b.tryConsume_cases with ⟨-, hgranted, hpaid⟩ | ⟨-, hrefused⟩
  · rw [hgranted, Bool.toNat_true]
    omega
  · rw [hrefused]
    exact Int.add_zero _

theorem Toll.spends (ht : Toll run run') (h : Within deposit withdraw max run.budget) :
    Spends deposit withdraw run run' := by
  obtain ⟨rfl, rfl, -, -⟩ := h
  cases ht with
  | paid budget received issued =>
    refine ⟨by omega, by omega, ?_⟩
    -- what the cap cuts off is lost to the budget
    have htokens : run'.budget.tokens.toNat ≤
        run.budget.tokens.toNat + run.budget.deposit.toNat := by
      rw [budget]
      exact Nat.le_trans (Nat.le_of_eq run.budget.toNat_fund) (Nat.min_le_left ..)
    unfold balance
    rw [received, issued, Int.natCast_add, Int.mul_add]
    omega
  | asked budget received issued =>
    refine ⟨by omega, by omega, ?_⟩
    have htokens := tokens_tryConsume run.budget
    unfold balance
    rw [budget, received, issued, Int.natCast_add, Int.mul_add]
    show (run.budget.tryConsume.2.tokens.toNat : Int) +
      (_ + _ * (run.budget.tryConsume.1.toNat : Int)) - _ ≤ _
    omega
  | free budget received issued =>
    have hbalance : run'.balance run.budget.deposit run.budget.withdraw =
        run.balance run.budget.deposit run.budget.withdraw := by
      unfold balance
      rw [budget, received, issued]
    exact ⟨by omega, by omega, Int.le_of_eq hbalance⟩

end Tokens

section Bounds

variable {δ σ ρ α ε : Type} [DelayEstimator δ] {svc : Service σ ρ α ε} {estimator : δ}
  {service : σ} {a b : Run δ TokenBudget σ ρ α ε} {deposit withdraw max : UInt32}

/-! ## The bounds -/

/-- What a budget with these parameters allows between two states of a run. -/
structure Bounded (deposit withdraw max : UInt32) (a b : Run δ TokenBudget σ ρ α ε) : Prop where
  requests_le : a.counters.requests ≤ b.counters.requests
  issued_le : a.counters.backupsIssued ≤ b.counters.backupsIssued
  load : (b.budget.tokens.toNat : Int) +
      withdraw.toNat * ((b.counters.backupsIssued : Int) - a.counters.backupsIssued) ≤
    a.budget.tokens.toNat + deposit.toNat * ((b.counters.requests : Int) - a.counters.requests)
  tokens_le : b.budget.tokens ≤ max
  timers : b.counters.backupsIssued + b.counters.backupsDenied ≤ b.counters.requests
  /-- The service sees one call for each request and one for each backup. -/
  calls : b.calls.length = b.counters.requests + b.counters.backupsIssued
  /-- While so many requests come, at most so many backups are issued. -/
  stretch : 0 < withdraw → ∀ k, b.counters.requests = a.counters.requests + k →
    b.counters.backupsIssued - a.counters.backupsIssued ≤
      (max.toNat + k * deposit.toNat) / withdraw.toNat

/-- **Backups add no more load than the budget has been paid for**, over every stretch of every
run. -/
theorem backups_bounded {initial : UInt32}
    (ha : Reaches svc (.new service estimator (.new deposit withdraw max initial)) a)
    (hb : Reaches svc a b) : Bounded deposit withdraw max a b := by
  have hnew : (Run.new service estimator (.new deposit withdraw max initial) :
    Run δ TokenBudget σ ρ α ε).Sound := new_sound service estimator _
  have hs := ha.sound hnew
  have hwithin : Within deposit withdraw max a.budget :=
    ha.invariant_of_change hnew (fun _ _ _ hc => hc.toll.within) (new_within ..)
  have hthere : Reaches svc (.new service estimator (.new deposit withdraw max initial)) b :=
    ha.trans hb
  have hhedges : b.Hedges :=
    hthere.invariant_of_change hnew (fun _ _ _ hc => hc.toll.hedges) (new_hedges ..)
  obtain ⟨hwithin', hspends⟩ : Within deposit withdraw max b.budget ∧ Spends deposit withdraw a b :=
    hb.invariant_of_change
      (P := fun run => Within deposit withdraw max run.budget ∧ Spends deposit withdraw a run) hs
      (fun _ _ _ hc h => ⟨hc.toll.within h.1, h.2.trans (hc.toll.spends h.1)⟩) ⟨hwithin, .refl ..⟩
  refine ⟨hspends.requests_le, hspends.issued_le, hspends.load, hwithin'.tokens_le_max, ?_,
    hhedges.calls, fun hpos k hk => hspends.issued_le_div hwithin.tokens_le_max hpos hk⟩
  exact Nat.le_trans (Nat.le_add_right ..) hhedges.timers

/-- Two requests are slow enough for a backup, and the budget is paid up for one. -/
theorem backups_bounded_of_script :
    let script : Script := ⟨[], ⟨50, .value, none⟩⟩
    let new : Run ConstantEstimator TokenBudget Script String String String :=
      .new script ⟨some (.ofMillis 10)⟩ (.new 1 2 3 0)
    let before := new.play Script.service [.start "a" false, .start "b" true]
    let after := before.play Script.service [.fire ⟨10, 1, .timer, 0⟩, .fire ⟨10, 0, .timer, 1⟩]
    0 < (2 : UInt32) ∧ Bounded 1 2 3 before after ∧ after.counters.backupsIssued = 1 ∧
      after.counters.backupsDenied = 1 := by
  intro script new before after
  have hbefore : Reaches Script.service new before :=
    ⟨[.start "a" false, .start "b" true], by decide, rfl⟩
  have hafter : Reaches Script.service before after :=
    ⟨[.fire ⟨10, 1, .timer, 0⟩, .fire ⟨10, 0, .timer, 1⟩], by decide, rfl⟩
  exact ⟨by decide, backups_bounded hbefore hafter, by decide, by decide⟩

end Bounds

end Run

end Hedging
