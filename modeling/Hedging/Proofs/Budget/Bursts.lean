import Mathlib.Algebra.Order.Floor.Div
import Hedging.Proofs.Budget.Grants
import Hedging.Proofs.Config.Outcome
import Hedging.Proofs.Run.Load
import Hedging.Service.Script

/-!
# Refills and bursts

What a budget holds after some deposits, and what it grants when it is asked for backups back to
back, has a closed form in unbounded arithmetic: no sum wraps, and the cap is the only thing that is
ever cut off. A budget that can hold the cost of a backup is never locked out. It only has to be
refilled for what is missing (`granted_after_iff`), and a budget that a valid configuration
describes is always of that kind, whatever has been asked of it so far. A budget with a cap below
that cost grants nothing at all (`answers_of_capped`).

> `refills_and_bursts`: the closed form of deposits followed by demands, the number of deposits
> until a backup is affordable, and the budgets that never grant one.
-/

namespace Hedging

namespace TokenBudget

variable {b : TokenBudget}

/-- Some deposits. -/
def deposits (k : Nat) : List BudgetOp := List.replicate k .fund

/-- Some backups asked for back to back. -/
def demands (n : Nat) : List BudgetOp := List.replicate n .consume

/-- What a budget answers each time it is asked for a backup. -/
def answers (b : TokenBudget) : List BudgetOp → List Bool
  | [] => []
  | .fund :: ops => b.fund.answers ops
  | .consume :: ops => b.tryConsume.1 :: b.tryConsume.2.answers ops

/-- How many backups can be paid for without another deposit. -/
def burst (b : TokenBudget) : Nat := b.tokens.toNat / b.withdraw.toNat

/-! ## Deposits -/

/-- The cap is all that is cut off from the deposits. -/
theorem tokens_deposits (h : b.tokens ≤ b.max) (k : Nat) :
    (b.actAll (deposits k)).tokens.toNat =
      min b.max.toNat (b.tokens.toNat + k * b.deposit.toNat) := by
  induction k generalizing b with
  | zero =>
    have within := UInt32.le_iff_toNat_le.mp h
    show b.tokens.toNat = _
    omega
  | succ k ih =>
    have later := ih (act_within h .fund)
    have first : (b.act .fund).tokens.toNat = _ := b.toNat_fund
    obtain ⟨deposit, -, max⟩ := b.terms_act .fund
    rw [first, deposit, max] at later
    show ((b.act .fund).actAll (deposits k)).tokens.toNat = _
    rw [later, Nat.add_one_mul]
    omega

/-- A budget that can hold the cost of a backup grants one as soon as what is missing has been paid
in, and no sooner. -/
theorem granted_after_iff (h : b.tokens ≤ b.max) (pays : 0 < b.deposit)
    (holds : b.withdraw ≤ b.max) (k : Nat) :
    (b.actAll (deposits k)).tryConsume.1 = true ↔
      (b.withdraw.toNat - b.tokens.toNat) ⌈/⌉ b.deposit.toNat ≤ k := by
  have room := UInt32.le_iff_toNat_le.mp holds
  rw [tryConsume_granted_iff, (b.terms_actAll (deposits k)).2.1, tokens_deposits h,
    ceilDiv_le_iff_le_mul (UInt32.lt_iff_toNat_lt.mp pays), Nat.mul_comm]
  omega

/-! ## Bursts -/

theorem burst_of_poor (poor : b.tokens.toNat < b.withdraw.toNat) : b.burst = 0 :=
  Nat.div_eq_of_lt poor

/-- A backup that is paid for leaves one fewer to pay for. -/
theorem burst_of_rich (hpos : 0 < b.withdraw)
    (paid : (b.act .consume).tokens.toNat + b.withdraw.toNat = b.tokens.toNat) :
    b.burst = (b.act .consume).burst + 1 := by
  rw [burst, burst, (b.terms_act .consume).2.1, ← paid,
    Nat.add_div_right _ (UInt32.lt_iff_toNat_lt.mp hpos)]

theorem answers_demands_succ (b : TokenBudget) (n : Nat) :
    b.answers (demands (n + 1)) = b.tryConsume.1 :: (b.act .consume).answers (demands n) := rfl

/-- Of the backups asked for back to back just those are granted that can be paid for: they come
first, and they are all that is taken out. -/
theorem answers_demands (hpos : 0 < b.withdraw) (n : Nat) :
    b.answers (demands n) =
        List.replicate (min n b.burst) true ++ List.replicate (n - min n b.burst) false ∧
      (b.actAll (demands n)).tokens.toNat + b.withdraw.toNat * min n b.burst = b.tokens.toNat := by
  induction n generalizing b with
  | zero =>
    rw [Nat.zero_min]
    exact ⟨rfl, rfl⟩
  | succ n ih =>
    have withdraw := (b.terms_act .consume).2.1
    obtain ⟨later, left⟩ := ih (b := b.act .consume) (by rwa [withdraw])
    have after : b.actAll (demands (n + 1)) = (b.act .consume).actAll (demands n) := rfl
    rw [answers_demands_succ, after]
    rcases b.consume_cases with ⟨rich, granted, paid⟩ | ⟨poor, refused, kept⟩
    · have more := burst_of_rich hpos paid
      have first : b.tryConsume.1 = true := b.tryConsume_granted_iff.mpr rich
      have least : min (n + 1) b.burst = min n (b.act .consume).burst + 1 := by omega
      rw [withdraw] at left
      rw [first, later, least, Nat.add_sub_add_right, List.replicate_succ, Nat.mul_add_one]
      exact ⟨rfl, by omega⟩
    · have none := burst_of_poor poor
      have first : b.tryConsume.1 = false :=
        Bool.eq_false_iff.mpr fun h => absurd (b.tryConsume_granted_iff.mp h) (by omega)
      rw [kept, none, Nat.min_zero] at later left
      rw [first, kept, later, none, Nat.min_zero]
      exact ⟨rfl, left⟩

/-! ## Budgets that never grant -/

/-- A budget that cannot hold the cost of a backup refuses every one, whatever is asked of it. -/
theorem answers_of_capped (h : b.tokens ≤ b.max) (capped : b.max < b.withdraw)
    (ops : List BudgetOp) : true ∉ b.answers ops := by
  induction ops generalizing b with
  | nil => exact List.not_mem_nil
  | cons op ops ih =>
    obtain ⟨-, withdraw, max⟩ := b.terms_act op
    have later := ih (act_within h op) (by rwa [withdraw, max])
    cases op with
    | fund => exact later
    | consume =>
      intro hmem
      rcases List.mem_cons.mp hmem with granted | hlater
      · have rich := b.tryConsume_granted_iff.mp granted.symm
        rw [UInt32.le_iff_toNat_le] at h
        rw [UInt32.lt_iff_toNat_lt] at capped
        omega
      · exact later hlater

end TokenBudget

/-! ## The budget of a configuration -/

/-- The budget that a configuration describes. -/
def Config.budget (c : Config) : TokenBudget :=
  .new c.deposit c.withdraw c.maxTokens c.initialTokens

open TokenBudget

section Reached

variable {δ σ ρ α ε : Type} {run run' : Run δ TokenBudget σ ρ α ε} {b : TokenBudget}

/-- A change asks at most one thing of the budget. -/
theorem Run.Toll.reached (ht : Run.Toll run run') (h : ∃ ops, run.budget = b.actAll ops) :
    ∃ ops, run'.budget = b.actAll ops := by
  obtain ⟨ops, h⟩ := h
  cases ht with
  | paid budget =>
    refine ⟨ops ++ [.fund], ?_⟩
    rw [budget, h, actAll_append]
    rfl
  | asked budget =>
    refine ⟨ops ++ [.consume], ?_⟩
    rw [budget, h, actAll_append]
    rfl
  | free budget =>
    rw [budget]
    exact ⟨ops, h⟩

end Reached

/-- Whatever happens to a resolver, its budget is one that its first budget has come to. -/
theorem Run.Reaches.budget {δ σ ρ α ε : Type} [DelayEstimator δ] {svc : Service σ ρ α ε}
    {service : σ} {estimator : δ} {b : TokenBudget} {run : Run δ TokenBudget σ ρ α ε}
    (h : Run.Reaches svc (.new service estimator b) run) : ∃ ops, run.budget = b.actAll ops :=
  h.invariant_of_change (new_sound service estimator b) (fun _ _ _ hc => hc.toll.reached) ⟨[], rfl⟩

/-- A valid configuration describes a budget that can hold the cost of a backup, and it can do so
whatever has been asked of it. -/
theorem Config.Valid.granted_after_iff {c : Config} (valid : c.Valid) (ops : List BudgetOp)
    (k : Nat) :
    ((c.budget.actAll ops).actAll (deposits k)).tryConsume.1 = true ↔
      (c.withdraw.toNat - (c.budget.actAll ops).tokens.toNat) ⌈/⌉ c.deposit.toNat ≤ k := by
  have capped : c.budget.tokens ≤ c.budget.max :=
    (Run.new_within c.deposit c.withdraw c.maxTokens c.initialTokens).tokens_le_max
  obtain ⟨deposit, withdraw, max⟩ := c.budget.terms_actAll ops
  have iff := TokenBudget.granted_after_iff (actAll_within capped ops)
    (by rw [deposit]; exact valid.deposit) (by rw [withdraw, max]; exact valid.withdraw_le) k
  rwa [withdraw, deposit] at iff

section Laws

variable {σ ρ α ε : Type}

/-- **Refills and bursts in closed form.**

After `k` deposits a budget holds what it held and what was paid in, as much of it as the cap
allows. Of `n` backups that it is then asked for it grants the first ones, as many as it can pay
for, refuses the others, and keeps the rest of its tokens.

So a resolver that is made from a valid configuration can always afford a backup again: its budget
grants one as soon as the requests have paid for what is missing, and no sooner. A budget with a cap
below the cost of a backup never grants one. -/
theorem refills_and_bursts (svc : Service σ ρ α ε) (service : σ) :
    (∀ b : TokenBudget, b.tokens ≤ b.max → 0 < b.withdraw → ∀ k n,
      let filled := b.actAll (deposits k)
      let full := min b.max.toNat (b.tokens.toNat + k * b.deposit.toNat)
      let most := min n (full / b.withdraw.toNat)
      filled.tokens.toNat = full ∧
        filled.answers (demands n) = List.replicate most true ++ List.replicate (n - most) false ∧
        (filled.actAll (demands n)).tokens.toNat = full - b.withdraw.toNat * most) ∧
    (∀ c : Config, c.validate = .ok () →
      (∀ ops k, let b := c.budget.actAll ops
        (b.actAll (deposits k)).tryConsume.1 = true ↔
          (c.withdraw.toNat - b.tokens.toNat) ⌈/⌉ c.deposit.toNat ≤ k) ∧
      ∀ run, Run.Reaches svc (c.fresh service) run → ∃ ops, run.budget = c.budget.actAll ops) ∧
    (∀ b : TokenBudget, b.tokens ≤ b.max → b.max < b.withdraw → ∀ ops, true ∉ b.answers ops) := by
  refine ⟨fun b within hpos k n => ?closed, fun c passed => ⟨fun ops k => ?affordable, ?reached⟩,
    fun b within capped ops => answers_of_capped within capped ops⟩
  case closed =>
    have withdraw := (b.terms_actAll (deposits k)).2.1
    obtain ⟨granted, left⟩ := answers_demands (b := b.actAll (deposits k)) (by rwa [withdraw]) n
    intro filled full most
    have held : filled.tokens.toNat = full := tokens_deposits within k
    have most_eq : min n filled.burst = most := by
      rw [burst, held, withdraw]
    rw [most_eq] at granted left
    rw [withdraw, held] at left
    exact ⟨held, granted, Nat.eq_sub_of_add_eq left⟩
  case affordable => exact (Config.validate_eq_ok_iff_valid.mp passed).granted_after_iff ops k
  case reached => exact fun run h => h.budget

/-- The last deposit overshoots the cap, one of the backups asked for has been refused before, and a
resolver has seen a request. -/
theorem refills_and_bursts_of_overshoot :
    let b : TokenBudget := .new 7 20 100 3
    let filled := b.actAll (deposits 14)
    let asked := Config.default.budget.actAll [.fund, .consume]
    let script : Script := ⟨[], ⟨50, .value, none⟩⟩
    let run := (Config.default.fresh script).play Script.service [.start "a" false]
    let capped : TokenBudget := .new 9 21 20 20
    b.tokens ≤ b.max ∧ 0 < b.withdraw ∧ filled.tokens.toNat = 100 ∧
      filled.answers (demands 7) = [true, true, true, true, true, false, false] ∧
      (filled.actAll (demands 7)).tokens.toNat = 0 ∧
      Config.default.validate = .ok () ∧
      (asked.actAll (deposits 18)).tryConsume.1 = false ∧
      (asked.actAll (deposits 19)).tryConsume.1 = true ∧
      Run.Reaches Script.service (Config.default.fresh script) run ∧
      (∃ ops, run.budget = Config.default.budget.actAll ops) ∧
      capped.tokens ≤ capped.max ∧ capped.max < capped.withdraw ∧
      true ∉ capped.answers [.consume, .fund, .fund, .consume] := by
  intro b filled asked script run capped
  obtain ⟨closed, configured, never⟩ := refills_and_bursts Script.service script
  obtain ⟨held, granted, left⟩ := closed b (by decide) (by decide) 14 7
  have most : min 7 (min b.max.toNat (b.tokens.toNat + 14 * b.deposit.toNat) /
    b.withdraw.toNat) = 5 := by decide
  rw [most] at granted left
  have passed : Config.default.validate = .ok () :=
    (Config.validate_eq_ok_iff _).mpr ⟨by decide +kernel, by decide, by decide, by decide,
      by decide, by decide, by decide⟩
  obtain ⟨affordable, reached⟩ := configured .default passed
  have soon : ¬ (asked.actAll (deposits 18)).tryConsume.1 = true :=
    mt (affordable [.fund, .consume] 18).mp (by decide)
  have there : Run.Reaches Script.service (Config.default.fresh script) run :=
    ⟨[.start "a" false], ⟨trivial, trivial⟩, rfl⟩
  exact ⟨by decide, by decide, held, granted, left.trans (by decide), passed,
    Bool.eq_false_iff.mpr soon, (affordable [.fund, .consume] 19).mpr (by decide), there,
    reached run there, by decide, by decide, never capped (by decide) (by decide) _⟩

end Laws

end Hedging
