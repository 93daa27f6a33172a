import Hedging.Dashboard

/-!
# Lookups of the dashboard

A lookup runs in the background and has a result once it has come to its end. It hands the result
over to the dashboard's inbox, where results wait in the order of their ends until they are taken
in. A hedged result is credited to the call that settled the request, failures included; a cancelled
request belongs to no lane.
-/

namespace Hedging

namespace LookupEvent

/-- A lookup that found addresses. -/
def found (lane : Lane) (host : String) (addresses : List Address) : LookupEvent :=
  ⟨some lane, true, host ++ " -> " ++ Address.renderList addresses⟩

/-- The result of a hedged request. -/
def ofResult (host : String) : Result (List Address) SimFailure → LookupEvent
  | .ok h => found (.ofBranch h.branch) host h.value
  | .error (.failed branch failure) => ⟨some (.ofBranch branch), false, failure.message⟩
  | .error .cancelled => ⟨none, false, "cancelled"⟩

/-- The result of a call of the service. -/
def ofReply (host : String) : Reply (List Address) SimFailure → LookupEvent
  | .value addresses => found .direct host addresses
  | .error failure => ⟨some .direct, false, failure.message⟩
  | .crash message => ⟨some .direct, false, message⟩

end LookupEvent

namespace Lookup

/-- When a lookup came to its end and what it brought, if it has ended by now. -/
def outcome? (run : SimRun) (l : Lookup) : Option (Instant × LookupEvent) :=
  match l.work with
  | .hedged id =>
    (run.requests[id]?).bind fun request =>
      match request.stage with
      | .settled ended result => some (ended, .ofResult l.host result)
      | _ => none
  | .direct ended reply =>
    if ended ≤ run.now then some (ended, .ofReply l.host reply) else none

end Lookup

namespace Dashboard

/-- Starts a lookup in the present mode. -/
def spawnLookup (draws : Nat → Draw) (d : Dashboard) : Dashboard :=
  let svc := Simulated.service draws
  let (run, work) : SimRun × LookupWork :=
    match d.mode with
    | .hedged => (d.run.start svc d.host false, .hedged d.run.requests.length)
    | .direct =>
      let (plan, service) := svc.issue d.run.service d.host
      ({ d.run with service }, .direct (d.run.now.after plan.lasts) plan.reply)
  { d with run, lookups := d.lookups ++ [⟨d.host, work⟩] }

/-- Lets time pass. -/
def sleep (draws : Nat → Draw) (d : Dashboard) (span : Duration) : Dashboard :=
  { d with run := d.run.passTo (Simulated.service draws) (d.run.now.after span) }

/-- The results to be handed over, in the order of the ends. At one instant the direct lookups come
first, since a hedged one hears of its end through its request. -/
def unreported (d : Dashboard) : List LookupEvent :=
  let ended := d.lookups.filterMap fun l =>
    (l.outcome? d.run).map fun (instant, event) => ((instant, l.work.isHedged), event)
  (ended.mergeSort fun a b => a.1.1 < b.1.1 || (a.1.1 == b.1.1 && (!a.1.2 || b.1.2))).map (·.2)

/-- Has the lookups that have ended hand over their results. -/
def collect (d : Dashboard) : Dashboard :=
  { d with
    inbox := d.inbox ++ d.unreported
    lookups := d.lookups.filter fun l => (l.outcome? d.run).isNone }

/-- Finishes what is due at the present instant. -/
def flush (draws : Nat → Draw) (d : Dashboard) : Dashboard :=
  ({ d with run := d.run.passTo (Simulated.service draws) d.run.now } : Dashboard).collect

/-- When the next direct lookup ends. -/
def nextDirectEnd? (d : Dashboard) : Option Instant :=
  (d.lookups.filterMap fun l =>
    match l.work with
    | .direct ended _ => some ended
    | .hedged _ => none).min?

/-- Is there a result to hand over once the resolver stands like this? -/
def hasResult (d : Dashboard) (run : SimRun) : Bool :=
  !({ d with run : Dashboard }).unreported.isEmpty

/-- Waits until a lookup has a result, and finishes what else is due at that instant. -/
def awaitResult (draws : Nat → Draw) (d : Dashboard) : Dashboard :=
  let limit := d.nextDirectEnd?
  let run : SimRun :=
    d.run.drive (Simulated.service draws) (Due.noLaterThan limit) fun run => !d.hasResult run
  let reached : SimRun := if d.hasResult run then run else limit.elim run run.wind
  ({ d with run := reached } : Dashboard).flush draws

/-- Takes in one result. -/
def deliver (latency : Binary64) (d : Dashboard) (event : LookupEvent) : Dashboard :=
  d.record event.lane latency event.ok event.message

/-- Takes in all results that wait, each with the same latency. -/
def drain (d : Dashboard) (latency : Binary64) : List LookupEvent × Dashboard :=
  (d.inbox, { d.inbox.foldl (deliver latency) d with inbox := [] })

/-- A span in milliseconds: whole seconds and the rest are converted apart. -/
def spanMillis (span : Duration) : Float :=
  (Float.ofNat span.seconds + Float.ofNat (span.nanos % 1000000000) / 1000000000) * 1000

/-- Takes in the first of the results that wait, with the time that was waited for it. -/
def takeFirst (d : Dashboard) (waited : Duration) : Option LookupEvent × Dashboard :=
  match d.inbox with
  | [] => (none, d)
  | event :: inbox => (some event, deliver (.ofFloat (spanMillis waited)) { d with inbox } event)

/-- Starts a lookup and takes in the next result, which need not be its own: a result that is waiting
already is taken in at once, before the lookup has got under way, and one of another lookup that ends
earlier is taken in as soon as all is done that is due by then. -/
def lookup (draws : Nat → Draw) (d : Dashboard) : Option LookupEvent × Dashboard :=
  if d.inbox.isEmpty then
    let reached := (d.spawnLookup draws).awaitResult draws
    reached.takeFirst (reached.run.now.since d.run.now)
  else
    let (event, d) := d.takeFirst .zero
    (event, d.spawnLookup draws)

end Dashboard

end Hedging
