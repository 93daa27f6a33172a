import Hedging.Number.Decimal
import Hedging.Latency.Estimator
import Hedging.Budget

/-!
# Configuration of a hedging strategy

How soon a backup is sent and how much load backups may add. `Config.validate` checks the fields in
a fixed order and reports the first fault; `validate_eq_ok_iff` says which configurations pass.
`Config.build` makes the estimator and the budget that a configuration describes. It also reserves
the memory of the window at once, which no configuration check looks at: `build_of_error`,
`build_of_overflow` and `build_of_fits` tell its three outcomes apart.
-/

namespace Hedging

/-- Why a configuration is rejected. -/
inductive ConfigError
  | invalidMultiplier (multiplier : Float)
  | zeroWindowCapacity
  | zeroDeposit
  | zeroWithdraw
  | zeroMaxTokens
  | withdrawExceedsMax (withdraw max : UInt32)
  | initialExceedsMax (initial max : UInt32)

/-- The wording of a rejection. -/
def ConfigError.message : ConfigError → String
  | .invalidMultiplier m =>
    "multiplier must be finite and non-negative, got " ++ Decimal.shortest m
  | .zeroWindowCapacity => "window capacity must be positive"
  | .zeroDeposit => "deposit amount must be positive"
  | .zeroWithdraw => "withdraw amount must be positive"
  | .zeroMaxTokens => "max tokens must be positive"
  | .withdrawExceedsMax withdraw max =>
    s!"withdraw amount {withdraw.toNat} exceeds max tokens {max.toNat}"
  | .initialExceedsMax initial max =>
    s!"initial tokens {initial.toNat} exceed max tokens {max.toNat}"

/-- A hedging strategy. -/
structure Config where
  /-- Deviations above the mean latency to wait before hedging. -/
  multiplier : Float
  /-- Number of recent samples the delay is estimated from. -/
  windowCapacity : UInt64
  /-- Tokens credited for every request. -/
  deposit : UInt32
  /-- Tokens a backup costs. -/
  withdraw : UInt32
  /-- The most tokens the budget can hold. -/
  maxTokens : UInt32
  /-- Tokens there are before the first request. -/
  initialTokens : UInt32

namespace Config

/-- Three deviations, five percent of extra load, at most five backups at once. -/
def default : Config := ⟨3, 256, 1, 20, 100, 0⟩

/-- Hedges only far out in the tail and sparingly. -/
def conservative : Config := { default with multiplier := 4, withdraw := 50 }

/-- Puts latency before extra load. -/
def aggressive : Config := { default with multiplier := 2, withdraw := 10 }

/-- A multiplier has to be a number of at least zero. -/
def multiplierIsSound (multiplier : Float) : Bool := multiplier.isFinite && !(multiplier < 0)

/-- Checks that a working estimator and budget can be built. -/
def validate (c : Config) : Except ConfigError Unit :=
  if !multiplierIsSound c.multiplier then .error (.invalidMultiplier c.multiplier)
  else if c.windowCapacity = 0 then .error .zeroWindowCapacity
  else if c.deposit = 0 then .error .zeroDeposit
  else if c.withdraw = 0 then .error .zeroWithdraw
  else if c.maxTokens = 0 then .error .zeroMaxTokens
  else if c.maxTokens < c.withdraw then .error (.withdrawExceedsMax c.withdraw c.maxTokens)
  else if c.maxTokens < c.initialTokens then
    .error (.initialExceedsMax c.initialTokens c.maxTokens)
  else .ok ()

/-- The configurations that pass. -/
def Sound (c : Config) : Prop :=
  multiplierIsSound c.multiplier = true ∧ c.windowCapacity ≠ 0 ∧ c.deposit ≠ 0 ∧ c.withdraw ≠ 0 ∧
    c.maxTokens ≠ 0 ∧ c.withdraw ≤ c.maxTokens ∧ c.initialTokens ≤ c.maxTokens

theorem validate_eq_ok_iff (c : Config) : c.validate = .ok () ↔ c.Sound := by
  simp only [validate, Sound, ← UInt32.not_lt]
  repeat' split
  all_goals simp_all

/-- Why nothing can be built from a configuration. -/
inductive BuildFault
  | rejected (e : ConfigError)
  /-- The window is too large for one block of memory. -/
  | capacityOverflow

/-- The estimator and the budget described by a configuration. -/
def build (c : Config) : Except BuildFault (SpreadEstimator Float × TokenBudget) :=
  match c.validate with
  | .error e => .error (.rejected e)
  | .ok () =>
    match SpreadEstimator.reserve? c.multiplier c.windowCapacity.toNat with
    | none => .error .capacityOverflow
    | some estimator =>
      .ok (estimator, .new c.deposit c.withdraw c.maxTokens c.initialTokens)

theorem build_of_error {c : Config} {e : ConfigError} (h : c.validate = .error e) :
    c.build = .error (.rejected e) := by
  simp only [build, h]

theorem build_of_fits {c : Config} (h : c.validate = .ok ())
    (fits : 4 * c.windowCapacity.toNat ≤ Window.maxBlock) :
    c.build = .ok (.new c.multiplier c.windowCapacity.toNat,
      .new c.deposit c.withdraw c.maxTokens c.initialTokens) := by
  have reserved : SpreadEstimator.reserve? c.multiplier c.windowCapacity.toNat =
      some (.new c.multiplier c.windowCapacity.toNat) := by
    rw [SpreadEstimator.reserve?, Window.reserve?_eq_some_iff.mpr ⟨fits, rfl⟩]
    rfl
  simp only [build, h, reserved]

theorem build_of_overflow {c : Config} (h : c.validate = .ok ())
    (large : Window.maxBlock < 4 * c.windowCapacity.toNat) :
    c.build = .error .capacityOverflow := by
  have refused : SpreadEstimator.reserve? c.multiplier c.windowCapacity.toNat = none := by
    rw [SpreadEstimator.reserve?, Window.reserve?, Window.fits, if_neg (by simpa using large)]
    rfl
  simp only [build, h, refused]

end Config

end Hedging
