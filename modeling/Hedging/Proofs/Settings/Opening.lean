import Hedging.Dashboard.Opening
import Hedging.Proofs.Config.Outcome

/-!
# What comes of the environment

Ten variables hold the numbers of the settings, and one the name to look up. `Gives` says which
value a variable gives, and `Malformed` when it gives none and how that is reported. Faults are
looked for in a fixed order: in the variables of the strategy, in the strategy as a whole, in the
variables of the service. `Opens` tells for every environment what comes of it, and `Reads` is what
ties a reading of several variables to the order of its faults.

> `resolver_of_environment`: the environment makes the resolver that its variables describe, or is
> refused with the report for its first fault; no other variable matters.
-/

namespace Hedging

variable {τ : Type}

/-! ## One variable -/

namespace NumberReader

/-- The number that a text stands for, if any. -/
def number? (read : NumberReader τ) (raw : String) : Option τ :=
  (read (Text.trim raw.toList)).toOption

/-- What is wrong with a text, if it stands for no number. -/
def problem? (read : NumberReader τ) (raw : String) : Option NumberProblem :=
  match read (Text.trim raw.toList) with
  | .ok _ => none
  | .error problem => some problem

variable {read : NumberReader τ} {raw : String}

theorem number?_eq_some {n : τ} :
    read.number? raw = some n ↔ read (Text.trim raw.toList) = .ok n := by
  unfold number?
  cases read (Text.trim raw.toList) with
  | ok m => exact ⟨fun h => congrArg Except.ok (Option.some.inj h), fun h => by cases h; rfl⟩
  | error p => exact ⟨nofun, nofun⟩

theorem problem?_eq_some {problem : NumberProblem} :
    read.problem? raw = some problem ↔ read (Text.trim raw.toList) = .error problem := by
  unfold problem?
  cases read (Text.trim raw.toList) with
  | ok m => exact ⟨nofun, nofun⟩
  | error p => exact ⟨fun h => congrArg Except.error (Option.some.inj h), fun h => by cases h; rfl⟩

end NumberReader

/-- A variable that is to hold a number. -/
structure NumberVariable where
  key : String
  problem? : String → Option NumberProblem

/-- The numbers of a strategy, in the order in which they are read. -/
def strategyVariables : List NumberVariable :=
  [⟨"HEDGE_MULTIPLIER", readFloat.problem?⟩, ⟨"HEDGE_WINDOW", readWord64.problem?⟩,
    ⟨"HEDGE_DEPOSIT", readWord32.problem?⟩, ⟨"HEDGE_WITHDRAW", readWord32.problem?⟩,
    ⟨"HEDGE_MAX_TOKENS", readWord32.problem?⟩]

/-- The numbers of a simulated service, in the order in which they are read. -/
def profileVariables : List NumberVariable :=
  [⟨"SIM_BASE_MS", readMillis.problem?⟩, ⟨"SIM_JITTER_MS", readMillis.problem?⟩,
    ⟨"SIM_TAIL_MS", readMillis.problem?⟩, ⟨"SIM_TAIL_PERCENT", readWord32.problem?⟩,
    ⟨"SIM_FAILURE_PERCENT", readWord32.problem?⟩]

namespace Environment

variable {env : Environment} {key : String} {read : NumberReader τ} {default n : τ}
  {report : List String} {vs : List NumberVariable}

/-- The value that a variable gives: the one its text stands for, or a default if there is no text
in it. -/
inductive Gives (env : Environment) (key : String) (value? : String → Option τ) (default : τ) :
    τ → Prop
  | text {raw : String} {n : τ} (h : env key = .text raw) (stands : value? raw = some n) :
    Gives env key value? default n
  | absent (h : ∀ raw, env key ≠ .text raw) : Gives env key value? default default

/-- A variable holds a text that is no number, which is reported by name and text. -/
inductive Malformed (env : Environment) (v : NumberVariable) : List String → Prop
  | intro {raw : String} {problem : NumberProblem} (h : env v.key = .text raw)
    (wrong : v.problem? raw = some problem) :
    Malformed env v ["invalid value for " ++ v.key ++ ": " ++ Text.quoted raw, problem.message]

/-- A variable that is not malformed. -/
def WellFormed (env : Environment) (v : NumberVariable) : Prop := ¬ ∃ report, Malformed env v report

theorem readOr_of_text {raw : String} (h : env key = .text raw) :
    env.readOr read key default =
      (read (Text.trim raw.toList)).mapError (.malformed key raw) := by
  cases hread : read (Text.trim raw.toList) <;> simp only [readOr, h, hread] <;> rfl

theorem readOr_of_absent (h : ∀ raw, env key ≠ .text raw) :
    env.readOr read key default = .ok default := by
  unfold readOr
  cases hkey : env key with
  | text raw => exact absurd hkey (h raw)
  | unset => rfl
  | undecodable => rfl

theorem readOr_of_gives (h : Gives env key read.number? default n) :
    env.readOr read key default = .ok n := by
  cases h with
  | text h stands =>
    rw [readOr_of_text h, NumberReader.number?_eq_some.mp stands]
    rfl
  | absent h => exact readOr_of_absent h

theorem readOr_of_malformed (h : Malformed env ⟨key, read.problem?⟩ report) (default : τ) :
    ∃ e, env.readOr read key default = .error e ∧ e.chain = report := by
  obtain ⟨h, wrong⟩ := h
  rw [readOr_of_text h, NumberReader.problem?_eq_some.mp wrong]
  exact ⟨_, rfl, rfl⟩

/-- A variable either gives a value or is malformed. -/
theorem WellFormed.gives (h : WellFormed env ⟨key, read.problem?⟩) (default : τ) :
    ∃ n, Gives env key read.number? default n := by
  by_cases absent : ∀ raw, env key ≠ .text raw
  · exact ⟨default, .absent absent⟩
  · obtain ⟨raw, hraw⟩ : ∃ raw, env key = .text raw := by simpa using absent
    cases hread : read (Text.trim raw.toList) with
    | ok n => exact ⟨n, .text hraw (NumberReader.number?_eq_some.mpr hread)⟩
    | error problem =>
      exact absurd ⟨_, .intro hraw (NumberReader.problem?_eq_some.mpr hread)⟩ h

theorem gives_host_iff {name : String} :
    Gives env "HEDGE_HOST" some "example.com" name ↔ env.host = name := by
  unfold host
  constructor
  · intro h
    cases h with
    | text h stands =>
      rw [h]
      exact Option.some.inj stands
    | absent h =>
      cases hkey : env "HEDGE_HOST" with
      | text raw => exact absurd hkey (h raw)
      | unset => rfl
      | undecodable => rfl
  · rintro rfl
    cases hkey : env "HEDGE_HOST" with
    | text raw => exact .text hkey rfl
    | unset => exact .absent fun raw h => by rw [hkey] at h; cases h
    | undecodable => exact .absent fun raw h => by rw [hkey] at h; cases h

/-! ## The first fault -/

/-- The report for the first of some variables that is malformed. -/
inductive FirstMalformed (env : Environment) : List NumberVariable → List String → Prop
  | here {v : NumberVariable} {vs : List NumberVariable} {report : List String}
    (h : Malformed env v report) : FirstMalformed env (v :: vs) report
  | later {v : NumberVariable} {vs : List NumberVariable} {report : List String}
    (sound : WellFormed env v) (rest : FirstMalformed env vs report) :
    FirstMalformed env (v :: vs) report

/-- A reading reports the first of these variables that is malformed. -/
def Reads (env : Environment) (vs : List NumberVariable) (reading : Except SettingsError τ) :
    Prop :=
  ∀ report, FirstMalformed env vs report → ∃ e, reading = .error e ∧ e.chain = report

theorem Reads.nil {reading : Except SettingsError τ} : Reads env [] reading := nofun

theorem Reads.cons {σ : Type} {next : τ → Except SettingsError σ} (h : ∀ n, Reads env vs (next n)) :
    Reads env (⟨key, read.problem?⟩ :: vs) (env.readOr read key default >>= next) := by
  intro report first
  cases first with
  | here malformed =>
    obtain ⟨e, he, hchain⟩ := readOr_of_malformed malformed default
    rw [he]
    exact ⟨e, rfl, hchain⟩
  | later sound rest =>
    obtain ⟨n, hn⟩ := sound.gives default
    rw [readOr_of_gives hn]
    exact h n report rest

theorem config_reads (env : Environment) : Reads env strategyVariables env.config :=
  .cons fun _ => .cons fun _ => .cons fun _ => .cons fun _ => .cons fun _ => .nil

theorem simProfile_reads (env : Environment) : Reads env profileVariables env.simProfile :=
  .cons fun _ => .cons fun _ => .cons fun _ => .cons fun _ => .cons fun _ => .nil

/-! ## The settings -/

/-- The strategy that the variables describe. There are no tokens at first. -/
structure GivesStrategy (env : Environment) (c : Config) : Prop where
  multiplier : Gives env "HEDGE_MULTIPLIER" readFloat.number? Config.default.multiplier c.multiplier
  windowCapacity :
    Gives env "HEDGE_WINDOW" readWord64.number? Config.default.windowCapacity c.windowCapacity
  deposit : Gives env "HEDGE_DEPOSIT" readWord32.number? Config.default.deposit c.deposit
  withdraw : Gives env "HEDGE_WITHDRAW" readWord32.number? Config.default.withdraw c.withdraw
  maxTokens : Gives env "HEDGE_MAX_TOKENS" readWord32.number? Config.default.maxTokens c.maxTokens
  initialTokens : c.initialTokens = 0

/-- The service that the variables describe. -/
structure GivesProfile (env : Environment) (p : SimProfile) : Prop where
  base : Gives env "SIM_BASE_MS" readMillis.number? SimProfile.default.base p.base
  jitter : Gives env "SIM_JITTER_MS" readMillis.number? SimProfile.default.jitter p.jitter
  tail : Gives env "SIM_TAIL_MS" readMillis.number? SimProfile.default.tail p.tail
  tailPercent :
    Gives env "SIM_TAIL_PERCENT" readWord32.number? SimProfile.default.tailPercent p.tailPercent
  failurePercent :
    Gives env "SIM_FAILURE_PERCENT" readWord32.number? SimProfile.default.failurePercent
      p.failurePercent

theorem GivesStrategy.config_eq {c : Config} (h : GivesStrategy env c) :
    env.config = (c.validate.mapError SettingsError.rejected).map fun _ => c := by
  obtain ⟨multiplier, windowCapacity, deposit, withdraw, maxTokens, initialTokens⟩ := c
  obtain ⟨hmultiplier, hcapacity, hdeposit, hwithdraw, hmax, hinitial⟩ := h
  obtain rfl : initialTokens = Config.default.initialTokens := hinitial
  simp only [config, readOr_of_gives hmultiplier, readOr_of_gives hcapacity,
    readOr_of_gives hdeposit, readOr_of_gives hwithdraw, readOr_of_gives hmax, bind, Except.bind]
  cases Config.validate ⟨multiplier, windowCapacity, deposit, withdraw, maxTokens, _⟩ <;> rfl

theorem GivesProfile.simProfile_eq {p : SimProfile} (h : GivesProfile env p) :
    env.simProfile = .ok p := by
  simp only [simProfile, readOr_of_gives h.base, readOr_of_gives h.jitter, readOr_of_gives h.tail,
    readOr_of_gives h.tailPercent, readOr_of_gives h.failurePercent]
  rfl

/-- What comes of an environment: the reasons of a refusal, or a resolver with its settings. A fault
of the strategy comes before any of the service, and its variables come before its checks. A window
that fits into no block of memory is only found out when the resolver is made. -/
inductive Opens (env : Environment) : Except (List String) (SimRun × Settings) → Prop
  | malformedStrategy {report : List String}
    (first : FirstMalformed env strategyVariables report) : Opens env (.error report)
  | rejected {c : Config} {e : ConfigError} (strategy : GivesStrategy env c)
    (first : c.FirstFault e) : Opens env (.error ["invalid hedging configuration", e.message])
  | malformedProfile {c : Config} {report : List String} (strategy : GivesStrategy env c)
    (valid : c.Valid) (first : FirstMalformed env profileVariables report) :
    Opens env (.error report)
  | overflow {c : Config} {p : SimProfile} (strategy : GivesStrategy env c) (valid : c.Valid)
    (profile : GivesProfile env p) (large : Window.maxBlock < 4 * c.windowCapacity.toNat) :
    Opens env (.error ["capacity overflow"])
  | opened {c : Config} {p : SimProfile} {name : String} (strategy : GivesStrategy env c)
    (valid : c.Valid) (profile : GivesProfile env p)
    (host : Gives env "HEDGE_HOST" some "example.com" name)
    (fits : 4 * c.windowCapacity.toNat ≤ Window.maxBlock) :
    Opens env (.ok (.new (.new p) (.spread (.new c.multiplier c.windowCapacity.toNat))
      (.token (.new c.deposit c.withdraw c.maxTokens 0)), ⟨c, p, name⟩))

variable {c : Config} {p : SimProfile} {e : SettingsError}

theorem resolver_of_config_error (h : env.config = .error e) :
    env.resolver = .error (.settings e) := by
  have hsettings : env.settings = .error e := by
    unfold settings
    rw [h]
    rfl
  rw [resolver, hsettings]

theorem resolver_of_profile_error (hconfig : env.config = .ok c) (h : env.simProfile = .error e) :
    env.resolver = .error (.settings e) := by
  have hsettings : env.settings = .error e := by
    unfold settings
    rw [hconfig, h]
    rfl
  rw [resolver, hsettings]

theorem resolver_of_parts (hconfig : env.config = .ok c) (hprofile : env.simProfile = .ok p) :
    env.resolver =
      ((SimRun.ofConfig c p).mapError Refusal.build).map fun run => (run, ⟨c, p, env.host⟩) := by
  have hsettings : env.settings = .ok ⟨c, p, env.host⟩ := by
    unfold settings
    rw [hconfig, hprofile]
    rfl
  cases hrun : SimRun.ofConfig c p <;> simp only [resolver, hsettings, hrun] <;> rfl

theorem GivesStrategy.config_of_valid (h : GivesStrategy env c) (valid : c.Valid) :
    env.config = .ok c := by
  rw [h.config_eq, Config.validate_eq_ok_iff_valid.mpr valid]
  rfl

theorem Opens.resolver_eq {outcome : Except (List String) (SimRun × Settings)}
    (h : Opens env outcome) : env.resolver.mapError Refusal.reasons = outcome := by
  cases h with
  | malformedStrategy first =>
    obtain ⟨e, he, rfl⟩ := config_reads env _ first
    rw [resolver_of_config_error he]
    rfl
  | rejected strategy first =>
    have he := strategy.config_eq
    rw [Config.validate_eq_error_iff.mpr first] at he
    rw [resolver_of_config_error he]
    rfl
  | malformedProfile strategy valid first =>
    obtain ⟨e, he, rfl⟩ := simProfile_reads env _ first
    rw [resolver_of_profile_error (strategy.config_of_valid valid) he]
    rfl
  | overflow strategy valid profile large =>
    rw [resolver_of_parts (strategy.config_of_valid valid) profile.simProfile_eq, SimRun.ofConfig,
      Config.build_of_overflow (Config.validate_eq_ok_iff_valid.mpr valid) large]
    rfl
  | opened strategy valid profile host fits =>
    rw [resolver_of_parts (strategy.config_of_valid valid) profile.simProfile_eq, SimRun.ofConfig,
      Config.build_of_fits (Config.validate_eq_ok_iff_valid.mpr valid) fits,
      gives_host_iff.mp host, strategy.initialTokens]
    rfl

end Environment

end Hedging
