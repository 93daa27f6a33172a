import Hedging.Call
import Hedging.Net.Address

/-!
# A simulated name service with a long tail

Every lookup takes a base time and some jitter; a share of the lookups takes much longer, and a share
fails. The shares are percentages, kept at a hundred or below, and the share of the tail can be changed
at any time. Sums of milliseconds stop at the greatest 64-bit word.

Chance comes from outside: `service draws` takes the numbers of the `n`-th lookup from `draws n`.
-/

namespace Hedging

/-- How a simulated service behaves. -/
structure SimProfile where
  base : Duration
  jitter : Duration
  tail : Duration
  tailPercent : UInt32
  failurePercent : UInt32
deriving DecidableEq, Repr

/-- Takes 20 to 30 milliseconds, 400 more in five percent of the lookups; one percent fails. -/
def SimProfile.default : SimProfile := ⟨.ofMillis 20, .ofMillis 10, .ofMillis 400, 5, 1⟩

/-- A failed lookup. -/
structure SimFailure where
  host : String
deriving DecidableEq, Repr

/-- The wording of a failure. -/
def SimFailure.message (f : SimFailure) : String := "SERVFAIL for " ++ f.host

/-- The numbers that decide about one lookup. -/
structure Draw where
  /-- Milliseconds of jitter, taken modulo the range. -/
  jitter : Nat
  /-- Rolls of a hundred-sided die. -/
  tailRoll : Nat
  failureRoll : Nat
deriving DecidableEq, Repr

/-- A simulated service. -/
structure Simulated where
  baseMillis : Nat
  jitterMillis : Nat
  tailMillis : Nat
  tailPercent : Nat
  failurePercent : Nat
  /-- Lookups issued so far. -/
  issued : Nat
deriving DecidableEq, Repr

namespace Simulated

/-- The greatest number of milliseconds a lookup can take. -/
def maxMillis : Nat := 0xffffffffffffffff

/-- A service with this profile. -/
def new (p : SimProfile) : Simulated :=
  { baseMillis := p.base.millis, jitterMillis := p.jitter.millis, tailMillis := p.tail.millis
    tailPercent := min p.tailPercent.toNat 100
    failurePercent := min p.failurePercent.toNat 100
    issued := 0 }

/-- Sets the share of the tail. -/
def setTailPercent (s : Simulated) (percent : Nat) : Simulated :=
  { s with tailPercent := min percent 100 }

theorem tailPercent_setTailPercent_le (s : Simulated) (percent : Nat) :
    (s.setTailPercent percent).tailPercent ≤ 100 := Nat.min_le_right ..

/-- How long a lookup takes. -/
def latency (s : Simulated) (d : Draw) : Duration :=
  let usual := min (s.baseMillis + d.jitter % (s.jitterMillis + 1)) maxMillis
  .ofMillis (if d.tailRoll % 100 < s.tailPercent then min (usual + s.tailMillis) maxMillis else usual)

/-- The address that every name has. -/
def address : Address := .v4 [93, 184, 215, 14]

/-- What becomes of a lookup. -/
def plan (s : Simulated) (d : Draw) (host : String) : Plan (List Address) SimFailure :=
  ⟨s.latency d, if d.failureRoll % 100 < s.failurePercent then .error ⟨host⟩ else .value [address]⟩

/-- The simulated service, driven by chance. -/
def service (draws : Nat → Draw) : Service Simulated String (List Address) SimFailure where
  issue s host := (s.plan (draws s.issued) host, { s with issued := s.issued + 1 })

end Simulated

end Hedging
