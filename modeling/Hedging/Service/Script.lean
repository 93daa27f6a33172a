import Hedging.Call

/-!
# A scripted service

Answers the calls in the order they are issued, each by the next entry of a script, and by one entry
for ever once the script is used up. An entry without a text of its own answers with the text of the
request.
-/

namespace Hedging

/-- How an entry answers. -/
inductive ScriptKind
  | value
  | error
  | crash
deriving DecidableEq, Repr

/-- One entry of a script. -/
structure ScriptEntry where
  millis : Nat
  kind : ScriptKind
  text : Option String
deriving DecidableEq, Repr

/-- What an entry does with a request. -/
def ScriptEntry.plan (e : ScriptEntry) (request : String) : Plan String String :=
  let text := e.text.getD request
  let reply :=
    match e.kind with
    | .value => .value text
    | .error => .error text
    | .crash => .crash text
  ⟨.ofMillis e.millis, reply⟩

/-- The entries left, and the one for afterwards. -/
structure Script where
  entries : List ScriptEntry
  fallback : ScriptEntry
deriving DecidableEq, Repr

namespace Script

/-- What answers once a script is used up, unless told otherwise. -/
def defaultFallback : ScriptEntry := ⟨1, .value, some "fallback"⟩

/-- Takes the next entry. -/
def next (s : Script) : ScriptEntry × Script :=
  match s.entries with
  | [] => (s.fallback, s)
  | e :: rest => (e, { s with entries := rest })

/-- The service that follows a script. -/
def service : Service Script String String String where
  issue s request := (s.next.1.plan request, s.next.2)

end Script

end Hedging
