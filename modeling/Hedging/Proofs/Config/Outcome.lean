import Hedging.Config
import Hedging.Proofs.Number.Unpacked
import Hedging.Run

/-!
# What comes of a configuration

A configuration is to be checked before anything is made of it, so that whatever passes can be built.
`Valid` is what it should be like, `Fault` what can be wrong with it, and `FirstFault` the fault that
comes first in the order of the checks. The checks find just that fault, or none in a valid
configuration.

That alone does not make a resolver. The window of the estimator is reserved at once, and a valid
configuration can ask for more than one block of memory holds.

> `resolver_outcomes`: an invalid configuration is rejected for its first fault; a valid one makes a
> fresh resolver exactly if its window fits into a block of memory.
> `validate_misses_overflow`: a configuration that passes the checks and cannot be built.
-/

namespace Hedging

/-- Which of the checks finds a fault, in their order. -/
def ConfigError.place : ConfigError → Nat
  | .invalidMultiplier _ => 0
  | .zeroWindowCapacity => 1
  | .zeroDeposit => 2
  | .zeroWithdraw => 3
  | .zeroMaxTokens => 4
  | .withdrawExceedsMax .. => 5
  | .initialExceedsMax .. => 6

namespace Config

variable {c : Config} {e e' : ConfigError}

/-! ## Valid configurations and their faults -/

/-- A multiplier that is finite and not below zero, amounts that are positive, and a cap that neither
the cost of a backup nor the first tokens exceed. -/
structure Valid (c : Config) : Prop where
  multiplier : (exact c.multiplier).AtLeastZero
  windowCapacity : 0 < c.windowCapacity
  deposit : 0 < c.deposit
  withdraw : 0 < c.withdraw
  maxTokens : 0 < c.maxTokens
  withdraw_le : c.withdraw ≤ c.maxTokens
  initialTokens_le : c.initialTokens ≤ c.maxTokens

/-- A fault of a configuration, with the numbers that are at fault. -/
inductive Fault (c : Config) : ConfigError → Prop
  | multiplier (h : ¬ (exact c.multiplier).AtLeastZero) : Fault c (.invalidMultiplier c.multiplier)
  | windowCapacity (h : c.windowCapacity = 0) : Fault c .zeroWindowCapacity
  | deposit (h : c.deposit = 0) : Fault c .zeroDeposit
  | withdraw (h : c.withdraw = 0) : Fault c .zeroWithdraw
  | maxTokens (h : c.maxTokens = 0) : Fault c .zeroMaxTokens
  | withdraw_gt (h : c.maxTokens < c.withdraw) :
    Fault c (.withdrawExceedsMax c.withdraw c.maxTokens)
  | initialTokens_gt (h : c.maxTokens < c.initialTokens) :
    Fault c (.initialExceedsMax c.initialTokens c.maxTokens)

/-- The fault that comes before all others. -/
structure FirstFault (c : Config) (e : ConfigError) : Prop where
  fault : Fault c e
  first : ∀ e', Fault c e' → e.place ≤ e'.place

theorem multiplierIsSound_iff (multiplier : Float) :
    multiplierIsSound multiplier = true ↔ (exact multiplier).AtLeastZero := by
  rw [exact_atLeastZero_iff, multiplierIsSound, Bool.and_eq_true, Bool.not_eq_true',
    decide_eq_false_iff_not]

theorem validate_eq_ok_iff_valid : c.validate = .ok () ↔ c.Valid := by
  simp only [validate_eq_ok_iff, Sound, multiplierIsSound_iff, ← UInt32.pos_iff_ne_zero,
    ← UInt64.pos_iff_ne_zero]
  constructor
  · rintro ⟨multiplier, capacity, deposit, withdraw, most, fewer, first⟩
    exact ⟨multiplier, capacity, deposit, withdraw, most, fewer, first⟩
  · intro h
    exact ⟨h.multiplier, h.windowCapacity, h.deposit, h.withdraw, h.maxTokens, h.withdraw_le,
      h.initialTokens_le⟩

/-- No check finds two faults. -/
theorem Fault.eq_of_place (h : Fault c e) (h' : Fault c e') (same : e.place = e'.place) : e = e' := by
  cases h <;> cases h' <;> first | rfl | simp [ConfigError.place] at same

theorem FirstFault.eq (h : FirstFault c e) (h' : FirstFault c e') : e = e' :=
  h.fault.eq_of_place h'.fault (Nat.le_antisymm (h.first e' h'.fault) (h'.first e h.fault))

theorem Valid.not_fault (valid : c.Valid) : ¬ Fault c e := by
  intro fault
  cases fault with
  | multiplier h => exact h valid.multiplier
  | windowCapacity h => exact UInt64.pos_iff_ne_zero.mp valid.windowCapacity h
  | deposit h => exact UInt32.pos_iff_ne_zero.mp valid.deposit h
  | withdraw h => exact UInt32.pos_iff_ne_zero.mp valid.withdraw h
  | maxTokens h => exact UInt32.pos_iff_ne_zero.mp valid.maxTokens h
  | withdraw_gt h => exact UInt32.not_lt.mpr valid.withdraw_le h
  | initialTokens_gt h => exact UInt32.not_lt.mpr valid.initialTokens_le h

/-! ## The checks -/

theorem firstFault_of_validate (h : c.validate = .error e) : c.FirstFault e := by
  unfold validate at h
  by_cases sound : (exact c.multiplier).AtLeastZero
  · rw [if_neg (by simpa using (multiplierIsSound_iff _).mpr sound)] at h
    -- a check that fails names its fault, and those before it have left only later ones
    repeat' split at h
    all_goals
      cases h <;> refine ⟨by constructor; assumption, ?_⟩ <;> rintro _ ⟨⟩ <;>
        first | contradiction | exact Nat.le_add_left ..
  · rw [if_pos (by simpa using mt (multiplierIsSound_iff _).mp sound)] at h
    cases h
    exact ⟨.multiplier sound, fun _ _ => Nat.zero_le _⟩

theorem validate_eq_error_iff : c.validate = .error e ↔ c.FirstFault e := by
  refine ⟨firstFault_of_validate, fun first => ?_⟩
  cases h : c.validate with
  | error e' => rw [first.eq (firstFault_of_validate h)]
  | ok _ => exact absurd first.fault (validate_eq_ok_iff_valid.mp h).not_fault

/-! ## The resolver -/

section Resolver

variable {σ ρ α ε : Type}

/-- A resolver as it is configured, before its first request. -/
def resolver (c : Config) (service : σ) :
    Except BuildFault (Run (SpreadEstimator Float) TokenBudget σ ρ α ε) :=
  c.build.map fun (estimator, budget) => .new service estimator budget

/-- The resolver that a configuration describes. -/
def fresh (c : Config) (service : σ) : Run (SpreadEstimator Float) TokenBudget σ ρ α ε :=
  .new service (.new c.multiplier c.windowCapacity.toNat)
    (.new c.deposit c.withdraw c.maxTokens c.initialTokens)

/-- Nothing is counted yet, there is no delay, and no first tokens are cut off. -/
theorem Valid.stats_fresh (valid : c.Valid) (service : σ) :
    (c.fresh service : Run _ _ σ ρ α ε).stats = ⟨{}, none, some c.initialTokens⟩ := by
  have tokens : minWord c.initialTokens c.maxTokens = c.initialTokens :=
    if_pos (UInt32.le_iff_toNat_le.mp valid.initialTokens_le)
  show (⟨{}, none, some (minWord c.initialTokens c.maxTokens)⟩ : Stats) = _
  rw [tokens]

/-- What comes of a configuration: it is rejected, it asks for too much memory, or there is the
resolver that it describes. -/
inductive Outcome (c : Config) (service : σ) :
    Except BuildFault (Run (SpreadEstimator Float) TokenBudget σ ρ α ε) → Prop
  | rejected {e : ConfigError} (first : c.FirstFault e) : Outcome c service (.error (.rejected e))
  | overflow (valid : c.Valid) (large : Window.maxBlock < 4 * c.windowCapacity.toNat) :
    Outcome c service (.error .capacityOverflow)
  | made (valid : c.Valid) (fits : 4 * c.windowCapacity.toNat ≤ Window.maxBlock) :
    Outcome c service (.ok (c.fresh service))

variable {service : σ}

theorem FirstFault.resolver_eq (first : c.FirstFault e) :
    (c.resolver service : Except BuildFault (Run _ _ σ ρ α ε)) = .error (.rejected e) := by
  rw [resolver, build_of_error (validate_eq_error_iff.mpr first)]
  rfl

theorem Valid.resolver_eq_overflow (valid : c.Valid)
    (large : Window.maxBlock < 4 * c.windowCapacity.toNat) :
    (c.resolver service : Except BuildFault (Run _ _ σ ρ α ε)) = .error .capacityOverflow := by
  rw [resolver, build_of_overflow (validate_eq_ok_iff_valid.mpr valid) large]
  rfl

theorem Valid.resolver_eq_fresh (valid : c.Valid)
    (fits : 4 * c.windowCapacity.toNat ≤ Window.maxBlock) :
    (c.resolver service : Except BuildFault (Run _ _ σ ρ α ε)) = .ok (c.fresh service) := by
  rw [resolver, build_of_fits (validate_eq_ok_iff_valid.mpr valid) fits]
  rfl

theorem outcome_resolver (c : Config) (service : σ) :
    Outcome c service (c.resolver service : Except BuildFault (Run _ _ σ ρ α ε)) := by
  cases h : c.validate with
  | error e =>
    have first := validate_eq_error_iff.mp h
    rw [first.resolver_eq]
    exact .rejected first
  | ok _ =>
    have valid := validate_eq_ok_iff_valid.mp h
    rcases Nat.lt_or_ge Window.maxBlock (4 * c.windowCapacity.toNat) with large | fits
    · rw [valid.resolver_eq_overflow large]
      exact .overflow valid large
    · rw [valid.resolver_eq_fresh fits]
      exact .made valid fits

/-- The checks and the making of a resolver, for every configuration. A configuration is rejected for
its first fault, before anything is made. A valid one makes a resolver that has counted nothing, has
no delay yet and holds its first tokens, but only if its window fits into a block of memory. -/
theorem resolver_outcomes (c : Config) (service : σ) :
    (c.validate = .ok () ↔ c.Valid) ∧ (∀ e, c.validate = .error e ↔ c.FirstFault e) ∧
      let resolver : Except BuildFault (Run _ _ σ ρ α ε) := c.resolver service
      (∀ e, resolver = .error (.rejected e) ↔ c.FirstFault e) ∧
        (resolver = .error .capacityOverflow ↔
          c.Valid ∧ Window.maxBlock < 4 * c.windowCapacity.toNat) ∧
        ((∃ run, resolver = .ok run ∧ run.stats = ⟨{}, none, some c.initialTokens⟩) ↔
          c.Valid ∧ 4 * c.windowCapacity.toNat ≤ Window.maxBlock) := by
  refine ⟨validate_eq_ok_iff_valid, fun _ => validate_eq_error_iff, ?_⟩
  intro resolver
  have outcome : Outcome c service resolver := outcome_resolver c service
  refine ⟨fun e => ⟨fun h => ?rejected, fun first => first.resolver_eq⟩,
    ⟨fun h => ?overflow, fun ⟨valid, large⟩ => valid.resolver_eq_overflow large⟩,
    ⟨fun ⟨run, h, _⟩ => ?made, fun ⟨valid, fits⟩ =>
      ⟨_, valid.resolver_eq_fresh fits, valid.stats_fresh service⟩⟩⟩
  case rejected =>
    rw [h] at outcome
    obtain ⟨first⟩ := outcome
    exact first
  case overflow =>
    rw [h] at outcome
    obtain _ | ⟨valid, large⟩ := outcome
    exact ⟨valid, large⟩
  case made =>
    rw [h] at outcome
    obtain _ | _ | ⟨valid, fits⟩ := outcome
    exact ⟨valid, fits⟩

/-- A window of `2 ^ 61` samples passes the checks, and takes one byte too many. -/
theorem validate_misses_overflow :
    let c : Config := { default with windowCapacity := 0x2000000000000000 }
    c.Valid ∧ c.validate = .ok () ∧
      (c.resolver "service" : Except BuildFault (Run _ _ String String String String)) =
        .error .capacityOverflow := by
  intro c
  have sound : c.Sound :=
    ⟨by decide +kernel, by decide, by decide, by decide, by decide, by decide, by decide⟩
  have passed : c.validate = .ok () := (validate_eq_ok_iff c).mpr sound
  have valid : c.Valid := validate_eq_ok_iff_valid.mp passed
  exact ⟨valid, passed, valid.resolver_eq_overflow (by decide)⟩

end Resolver

end Config

end Hedging
