import Hedging.Settings
import Hedging.Dashboard

/-!
# Opening a dashboard

A dashboard is opened from a strategy, the profile of a simulated service and a name to look up, or
from the settings in the environment. Nothing is opened with settings that are refused, or with a
strategy from which no estimator and budget can be built.
-/

namespace Hedging

/-- A resolver with the estimator and the budget of a strategy, over a service of this profile. -/
def SimRun.ofConfig (config : Config) (profile : SimProfile) : Except Config.BuildFault SimRun :=
  match config.build with
  | .ok (estimator, budget) => .ok (.new (.new profile) (.spread estimator) (.token budget))
  | .error fault => .error fault

/-- A dashboard over a resolver built from the strategy that it shows. -/
def Dashboard.ofConfig (config : Config) (profile : SimProfile) (host : String) :
    Except Config.BuildFault Dashboard :=
  match SimRun.ofConfig config profile with
  | .ok run => .ok (.new run config host)
  | .error fault => .error fault

/-- The dashboard that the settings ask for. -/
def Settings.dashboard (s : Settings) : Except Config.BuildFault Dashboard :=
  Dashboard.ofConfig s.config s.profile s.host

/-- Why the environment makes no resolver. -/
inductive Refusal
  | settings (e : SettingsError)
  | build (fault : Config.BuildFault)

/-- The wording of a refusal, the outermost reason first. -/
def Refusal.reasons : Refusal → List String
  | .settings e => e.chain
  | .build (.rejected e) => [e.message]
  | .build .capacityOverflow => [Window.overflowMessage]

/-- The resolver that the environment asks for, with the settings it is made from. -/
def Environment.resolver (env : Environment) : Except Refusal (SimRun × Settings) :=
  match env.settings with
  | .error e => .error (.settings e)
  | .ok settings =>
    match SimRun.ofConfig settings.config settings.profile with
    | .error fault => .error (.build fault)
    | .ok run => .ok (run, settings)

end Hedging
