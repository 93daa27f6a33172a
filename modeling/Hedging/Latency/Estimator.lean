import Hedging.Time
import Hedging.Latency.Window

/-!
# How long to wait before hedging

An estimator turns observed latencies into the delay after which a backup is sent. The usual one
approximates a high percentile as mean plus a multiple of the deviation over a window; the constant
one always gives the same answer. No delay means that a request is never hedged.

`currentDelay_eq_none_iff` says that the usual estimator has no delay exactly while its window is
empty.
-/

namespace Hedging

/-- A source of hedge delays: samples go in, the current delay is read back. -/
class DelayEstimator (ε : Type) where
  addSample : ε → Duration → ε
  currentDelay : ε → Option Duration

/-- Whole milliseconds of a latency, kept within the 32-bit words. -/
def clipMillis (latency : Duration) : UInt32 :=
  if latency.millis ≤ 0xffffffff then UInt32.ofNat latency.millis else 0xffffffff

theorem toNat_clipMillis (latency : Duration) :
    (clipMillis latency).toNat = min latency.millis 0xffffffff := by
  unfold clipMillis
  split
  · rw [UInt32.toNat_ofNat_of_lt' (by rw [UInt32.size]; omega)]
    omega
  · simp only [UInt32.reduceToNat]
    omega

/-- Estimates the delay as mean plus a multiple of the standard deviation. -/
structure SpreadEstimator (F : Type) where
  multiplier : F
  window : Window F

namespace SpreadEstimator

variable {F : Type} [Arithmetic F]

/-- An estimator without samples. -/
def new (multiplier : F) (capacity : Nat) : SpreadEstimator F :=
  ⟨multiplier, Window.empty capacity⟩

/-- An estimator without samples and the memory for its window, if there can be such a block. -/
def reserve? (multiplier : F) (capacity : Nat) : Option (SpreadEstimator F) :=
  (Window.reserve? capacity).map (⟨multiplier, ·⟩)

/-- Records the latency of a completed call. -/
def addSample (e : SpreadEstimator F) (latency : Duration) : SpreadEstimator F :=
  { e with window := e.window.add (clipMillis latency) }

/-- The value `mean + multiplier * stdev` in milliseconds, before rounding. -/
def threshold (e : SpreadEstimator F) : F :=
  Arithmetic.add e.window.mean (Arithmetic.mul e.multiplier e.window.stdev)

/-- The delay to hedge after: none before the first sample, then the threshold in whole
milliseconds. -/
def currentDelay (e : SpreadEstimator F) : Option Duration :=
  if e.window.isEmpty then none else some (.ofMillis (Arithmetic.nearest e.threshold))

theorem currentDelay_eq_none_iff (e : SpreadEstimator F) :
    e.currentDelay = none ↔ e.window.isEmpty = true := by
  unfold currentDelay
  split <;> simp_all

instance : DelayEstimator (SpreadEstimator F) := ⟨addSample, currentDelay⟩

end SpreadEstimator

/-- Reports the same delay whatever it is fed. -/
structure ConstantEstimator where
  delay : Option Duration
deriving DecidableEq, Repr

/-- Never hedges. -/
def ConstantEstimator.never : ConstantEstimator := ⟨none⟩

instance : DelayEstimator ConstantEstimator := ⟨fun e _ => e, fun e => e.delay⟩

/-- The estimators a resolver can be given by name. -/
inductive Estimator
  | spread (e : SpreadEstimator Float)
  | constant (e : ConstantEstimator)

namespace Estimator

/-- Three deviations above the mean of the last 256 latencies. -/
def default : Estimator := .spread (.new 3 Window.defaultCapacity)

instance : DelayEstimator Estimator where
  addSample
    | .spread e, latency => .spread (e.addSample latency)
    | .constant e, _ => .constant e
  currentDelay
    | .spread e => e.currentDelay
    | .constant e => e.delay

end Estimator

end Hedging
