import Hedging.Number.Natural
import Hedging.Number.Numeral
import Hedging.Text.Blank
import Hedging.Text.Quoted
import Hedging.Config
import Hedging.Service.Simulated

/-!
# Settings from the environment

Each setting is a variable that holds a number with blanks around it. A variable that is unset, or
that holds no text, leaves the default; a malformed one is reported by its name, its raw text and what
is wrong with it. The variables are read in a fixed order and the first fault is the one reported:
first those of the hedging strategy, then the check of the strategy as a whole, then those of the
simulated service.
-/

namespace Hedging

/-- What the environment says about a variable. -/
inductive Variable
  | unset
  /-- Bytes that are no text. -/
  | undecodable
  | text (raw : String)
deriving DecidableEq, Repr

/-- A variable with these bytes. -/
def Variable.ofBytes (bytes : ByteArray) : Variable :=
  match String.fromUTF8? bytes with
  | some raw => .text raw
  | none => .undecodable

/-- The values of all variables. -/
abbrev Environment := String → Variable

/-- Why a text is not the number a setting wants. -/
inductive NumberProblem
  | natural (p : Natural.Problem)
  | numeral (p : Numeral.Problem)
deriving DecidableEq, Repr

/-- The wording of a problem. -/
def NumberProblem.message : NumberProblem → String
  | .natural p => p.message
  | .numeral p => p.message

/-- Why the settings are refused. -/
inductive SettingsError
  | malformed (key raw : String) (problem : NumberProblem)
  | rejected (e : ConfigError)

/-- The wording of an error, followed by that of its cause. -/
def SettingsError.chain : SettingsError → List String
  | .malformed key raw problem =>
    [s!"invalid value for {key}: " ++ Text.quoted raw, problem.message]
  | .rejected e => ["invalid hedging configuration", e.message]

/-- A kind of number, by how it is read. -/
abbrev NumberReader (τ : Type) := List Char → Except NumberProblem τ

/-- Whole numbers of 32 bits. -/
def readWord32 : NumberReader UInt32 := fun cs =>
  match Natural.read maxWord32 cs with
  | .ok n => .ok (UInt32.ofNat n)
  | .error p => .error (.natural p)

/-- Whole numbers of 64 bits. -/
def readWord64 : NumberReader UInt64 := fun cs =>
  match Natural.read maxWord64 cs with
  | .ok n => .ok (UInt64.ofNat n)
  | .error p => .error (.natural p)

/-- Whole milliseconds, in 64 bits. -/
def readMillis : NumberReader Duration := fun cs =>
  match Natural.read maxWord64 cs with
  | .ok n => .ok (.ofMillis n)
  | .error p => .error (.natural p)

/-- Binary64 numbers. -/
def readFloat : NumberReader Float := fun cs =>
  match Numeral.read cs with
  | .ok x => .ok x
  | .error p => .error (.numeral p)

namespace Environment

variable {τ : Type}

/-- The number in a variable, or a default if there is no text in it. -/
def readOr (env : Environment) (read : NumberReader τ) (key : String) (default : τ) :
    Except SettingsError τ :=
  match env key with
  | .text raw =>
    match read (Text.trim raw.toList) with
    | .ok n => .ok n
    | .error problem => .error (.malformed key raw problem)
  | _ => .ok default

/-- The hedging strategy, checked. -/
def config (env : Environment) : Except SettingsError Config := do
  let d := Config.default
  let multiplier ← env.readOr readFloat "HEDGE_MULTIPLIER" d.multiplier
  let windowCapacity ← env.readOr readWord64 "HEDGE_WINDOW" d.windowCapacity
  let deposit ← env.readOr readWord32 "HEDGE_DEPOSIT" d.deposit
  let withdraw ← env.readOr readWord32 "HEDGE_WITHDRAW" d.withdraw
  let maxTokens ← env.readOr readWord32 "HEDGE_MAX_TOKENS" d.maxTokens
  let c : Config :=
    { multiplier, windowCapacity, deposit, withdraw, maxTokens, initialTokens := d.initialTokens }
  match c.validate with
  | .ok () => return c
  | .error e => throw (.rejected e)

/-- The profile of the simulated service. -/
def simProfile (env : Environment) : Except SettingsError SimProfile := do
  let d := SimProfile.default
  let base ← env.readOr readMillis "SIM_BASE_MS" d.base
  let jitter ← env.readOr readMillis "SIM_JITTER_MS" d.jitter
  let tail ← env.readOr readMillis "SIM_TAIL_MS" d.tail
  let tailPercent ← env.readOr readWord32 "SIM_TAIL_PERCENT" d.tailPercent
  let failurePercent ← env.readOr readWord32 "SIM_FAILURE_PERCENT" d.failurePercent
  return { base, jitter, tail, tailPercent, failurePercent }

/-- The name looked up unless the environment names another. -/
def defaultHost : String := "example.com"

/-- The name to look up. -/
def host (env : Environment) : String :=
  match env "HEDGE_HOST" with
  | .text raw => raw
  | _ => defaultHost

end Environment

/-- All settings together. -/
structure Settings where
  config : Config
  profile : SimProfile
  host : String

/-- Reads all settings. -/
def Environment.settings (env : Environment) : Except SettingsError Settings := do
  let config ← env.config
  let profile ← env.simProfile
  return { config, profile, host := env.host }

end Hedging
