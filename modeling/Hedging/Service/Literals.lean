import Hedging.Call
import Hedging.Net.Address

/-!
# A service for address literals

An address literal is its own address, and no name has one. Nothing is waited for.
-/

namespace Hedging.Literals

/-- What becomes of a lookup. -/
def plan (host : String) : Plan (List Address) Unit :=
  ⟨.zero, (Address.read? host).elim (.error ()) fun a => .value [a]⟩

/-- The service that knows address literals. -/
def service : Service Unit String (List Address) Unit where
  issue s host := (plan host, s)

end Hedging.Literals
