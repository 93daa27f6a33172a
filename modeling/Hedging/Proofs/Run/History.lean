import Hedging.Proofs.Run.Change

/-!
# What a run has done for one request

A `History` keeps what an observer of one request sees while a run goes on: when the budget was
asked for a backup and what it said, which calls were issued, and which latencies were fed to the
estimator. It is read off the moves that concern the request; all others may come in between.

The budget is used by nothing that `asks` does not tell of, and the ledger keeps a call as it was
issued:

> `budget_apply`: a move leaves the budget as it is, unless a request arrives or a timer goes off.
> `Change.issue_kept`: a call stays as it was issued, whatever becomes of it.
-/

namespace Hedging

section Calls

variable {ρ α ε : Type}

/-- The call as it was issued, whatever has become of it. -/
def Call.asIssued (call : Call ρ α ε) : Call ρ α ε := { call with state := .running }

theorem Call.asIssued_finish (call : Call ρ α ε) : call.finish.asIssued = call.asIssued := by
  unfold finish
  split <;> rfl

theorem Call.asIssued_drop (call : Call ρ α ε) : call.drop.asIssued = call.asIssued := by
  unfold drop
  split <;> rfl

/-- A map does not see a change that its function does not see. -/
theorem map_modify_of_eq {γ κ : Type} {f : γ → κ} {g : γ → γ} (h : ∀ x, f (g x) = f x)
    (l : List γ) (i : Nat) : (l.modify i g).map f = l.map f := by
  induction l generalizing i with
  | nil => rw [List.modify_nil]
  | cons x rest ih =>
    cases i with
    | zero => rw [List.modify_zero_cons, List.map_cons, List.map_cons, h]
    | succ i => rw [List.modify_succ_cons, List.map_cons, List.map_cons, ih]

/-- What stands on a list that has become longer by one entry. -/
theorem getElem?_concat_cases {γ : Type} {l : List γ} {x y : γ} {i : Nat}
    (h : (l ++ [x])[i]? = some y) : l[i]? = some y ∧ i < l.length ∨ i = l.length ∧ y = x := by
  rcases Nat.lt_trichotomy i l.length with hlt | rfl | hgt
  · rw [List.getElem?_append_left hlt] at h
    exact Or.inl ⟨h, hlt⟩
  · rw [List.getElem?_concat_length] at h
    exact Or.inr ⟨rfl, (Option.some.inj h).symm⟩
  · rw [List.getElem?_eq_none (by rw [List.length_append]; exact hgt)] at h
    cases h

/-- The calls of a ledger as they were issued. -/
def Ledger.issues (calls : Ledger ρ α ε) : List (Call ρ α ε) := calls.map Call.asIssued

theorem Ledger.issues_finish (calls : Ledger ρ α ε) (c : CallId) :
    (Ledger.finish calls c).issues = calls.issues :=
  map_modify_of_eq Call.asIssued_finish ..

theorem Ledger.issues_foldl_drop (ids : List CallId) (calls : Ledger ρ α ε) :
    (ids.foldl Ledger.drop calls).issues = calls.issues := by
  induction ids generalizing calls with
  | nil => rfl
  | cons c rest ih =>
    rw [List.foldl_cons, ih]
    exact map_modify_of_eq Call.asIssued_drop ..

theorem Ledger.issues_issue (calls : Ledger ρ α ε) (now : Instant) (payload : ρ)
    (plan : Plan α ε) :
    (Ledger.issue calls now payload plan).issues =
      calls.issues ++ [Call.start now payload plan] :=
  List.map_append

theorem Ledger.length_of_issues {calls calls' : Ledger ρ α ε} (h : calls'.issues = calls.issues) :
    calls'.length = calls.length := by
  have hlength := congrArg List.length h
  unfold issues at hlength
  rw [List.length_map, List.length_map] at hlength
  exact hlength

/-- A call on the ledger, from what it was when it was issued. -/
theorem Ledger.held_of_issue {calls : Ledger ρ α ε} {c : CallId} {issued : Call ρ α ε}
    (h : calls.issues[c]? = some issued) :
    ∃ call, calls[c]? = some call ∧ call.asIssued = issued := by
  unfold issues at h
  rw [List.getElem?_map] at h
  exact Option.map_eq_some_iff.mp h

theorem Ledger.issue_of_held {calls : Ledger ρ α ε} {c : CallId} {call : Call ρ α ε}
    (held : calls[c]? = some call) : calls.issues[c]? = some call.asIssued := by
  unfold issues
  rw [List.getElem?_map, held]
  rfl

end Calls

/-- What an observer of one request has seen. -/
structure History (ρ α ε : Type) where
  /-- When the budget was asked for a backup, and whether it paid. -/
  asked : List (Instant × Bool) := []
  /-- The calls issued in the course of the request, but for its primary. -/
  issued : List (Call ρ α ε) := []
  /-- The latencies fed to the estimator. -/
  fed : List Duration := []
deriving DecidableEq, Repr

instance {ρ α ε : Type} : Append (History ρ α ε) where
  append h k := ⟨h.asked ++ k.asked, h.issued ++ k.issued, h.fed ++ k.fed⟩

theorem History.append_empty {ρ α ε : Type} (h : History ρ α ε) :
    h ++ ({} : History ρ α ε) = h := by
  show History.mk (h.asked ++ []) (h.issued ++ []) (h.fed ++ []) = h
  rw [List.append_nil, List.append_nil, List.append_nil]

theorem History.append_assoc {ρ α ε : Type} (h k l : History ρ α ε) :
    h ++ k ++ l = h ++ (k ++ l) := by
  show History.mk _ _ _ = History.mk _ _ _
  congr 1 <;> exact List.append_assoc ..

section Request

variable {ρ α ε : Type} {request : Request ρ α ε}

theorem Request.isRacing_of_racing {race : Race ρ α ε} (racing : request.stage = .racing race) :
    request.isRacing = true := by
  unfold isRacing
  rw [racing]

/-- A timer is set for a delay. -/
theorem Request.delay_of_timer {t : Instant} (set : request.timer = some t) :
    request.delay.isSome = true := by
  unfold timer at set
  obtain ⟨delay, hdelay, -⟩ := Option.map_eq_some_iff.mp set
  rw [hdelay]
  rfl

theorem Request.stage_ne_of_ended (ended : request.isRacing = false) (race : Race ρ α ε) :
    request.stage ≠ .racing race := by
  intro racing
  rw [isRacing_of_racing racing] at ended
  cases ended

end Request

namespace Run

section Requests

variable {δ β σ ρ α ε : Type} {run run' : Run δ β σ ρ α ε} {id : RequestId}
  {request : Request ρ α ε}

/-! ## The request in question -/

theorem isRacing_of_there (there : run.requests[id]? = some request) :
    run.isRacing id = request.isRacing := by
  unfold isRacing
  rw [there, Option.any_some]

theorem getElem?_of_stage {before after : Stage ρ α ε}
    (there : run.requests[id]? = some { request with stage := before })
    (hrequests : run'.requests = run.requests.modify id fun r => { r with stage := after }) :
    run'.requests[id]? = some { request with stage := after } := by
  rw [hrequests, List.getElem?_modify_eq, there]
  rfl

/-- A request that is given up goes with the calls that it waits for. -/
theorem abandon_racing (there : run.requests[id]? = some request)
    {race : Race ρ α ε} (racing : request.stage = .racing race) :
    run.abandon id = { run with
      calls := race.calls.foldl Ledger.drop run.calls
      requests := run.requests.modify id fun r => { r with stage := .abandoned run.now } } := by
  unfold abandon
  simp only [there, racing, dropCalls_eq]
  rfl

/-- To give up a request that has ended comes too late. -/
theorem abandon_of_ended (there : run.requests[id]? = some request)
    (ended : request.isRacing = false) : run.abandon id = run := by
  unfold abandon
  rw [there]
  split
  next => rfl
  next request' heq =>
    obtain rfl := Option.some.inj heq
    split
    next race racing => exact absurd racing (Request.stage_ne_of_ended ended race)
    next => rfl

end Requests

/-! ## What an event leaves alone -/

theorem abandon_frame {δ β σ ρ α ε : Type} (run : Run δ β σ ρ α ε) (id : RequestId) :
    (run.abandon id).now = run.now ∧ (run.abandon id).budget = run.budget := by
  unfold abandon
  split
  · exact ⟨rfl, rfl⟩
  · split
    · rw [dropCalls_eq]
      exact ⟨rfl, rfl⟩
    · exact ⟨rfl, rfl⟩

section Frames

variable {δ β σ ρ α ε : Type} [DelayEstimator δ] (svc : Service σ ρ α ε)

theorem now_perform (delay : Option Duration) (run : Run δ β σ ρ α ε)
    (action : Race.Action ρ) : (run.perform svc delay action).now = run.now := by
  cases action <;> rfl

theorem budget_perform (delay : Option Duration) (run : Run δ β σ ρ α ε)
    (action : Race.Action ρ) : (run.perform svc delay action).budget = run.budget := by
  cases action <;> rfl

theorem foldl_perform_frame (delay : Option Duration) (actions : List (Race.Action ρ))
    (run : Run δ β σ ρ α ε) :
    (actions.foldl (perform svc delay) run).now = run.now ∧
      (actions.foldl (perform svc delay) run).budget = run.budget := by
  induction actions generalizing run with
  | nil => exact ⟨rfl, rfl⟩
  | cons action rest ih =>
    rw [List.foldl_cons, (ih _).1, (ih _).2]
    exact ⟨now_perform .., budget_perform ..⟩

/-- A race goes on at the instant of its event, and does nothing to the budget. -/
theorem deliver_frame (run : Run δ β σ ρ α ε) (id : RequestId) (request : Request ρ α ε)
    (race : Race ρ α ε) (event : Race.Event α ε) :
    (run.deliver svc id request race event).now = run.now ∧
      (run.deliver svc id request race event).budget = run.budget := by
  obtain ⟨race', actions, hstep⟩ :
      ∃ race' actions, race.step run.calls.length event = (race', actions) := ⟨_, _, rfl⟩
  have hactions := foldl_perform_frame svc request.delay actions run
  rw [deliver_of_step svc run id request hstep]
  split
  · rw [settle_eq]
    exact hactions
  · exact hactions

theorem fireCall_frame (run : Run δ β σ ρ α ε) (id : RequestId) (request : Request ρ α ε)
    (race : Race ρ α ε) (branch : Branch) :
    (run.fireCall svc id request race branch).now = run.now ∧
      (run.fireCall svc id request race branch).budget = run.budget := by
  unfold fireCall
  split
  · exact ⟨rfl, rfl⟩
  · simp only
    split
    · exact deliver_frame svc ..
    · exact deliver_frame svc ..
    · rw [dropCalls_eq]
      exact ⟨rfl, rfl⟩

theorem cancelBranch_frame (run : Run δ β σ ρ α ε) (id : RequestId) (branch : Branch) :
    (run.cancelBranch svc id branch).now = run.now ∧
      (run.cancelBranch svc id branch).budget = run.budget := by
  unfold cancelBranch
  split
  · split
    · split
      · exact deliver_frame svc ..
      · exact ⟨rfl, rfl⟩
    · exact ⟨rfl, rfl⟩
  · exact ⟨rfl, rfl⟩

end Frames

section History

variable {δ β σ ρ α ε : Type} [DelayEstimator δ] [AdmissionBudget β] {svc : Service σ ρ α ε}
  {run run' : Run δ β σ ρ α ε} {subject : Option RequestId} {id : RequestId} {m : Move ρ}

/-! ## The clock -/

theorem now_fire (svc : Service σ ρ α ε) (run : Run δ β σ ρ α ε) (due : Due) :
    (run.fire svc due).now = max run.now due.instant := by
  unfold fire
  simp only
  split
  · rfl
  · split
    · unfold fireTimer
      split
      · exact (deliver_frame svc ..).1
      · exact (deliver_frame svc ..).1
    · exact (fireCall_frame svc ..).1
    · rfl

/-- In a timely run the clock does not pass what lies ahead. -/
theorem Timely.now_le (hm : run.Timely m) {e : Due} (he : e ∈ run.pending)
    (hle : run.now ≤ e.instant) : (run.apply svc m).now ≤ e.instant := by
  cases m with
  | start payload inPlace => exact hle
  | fire due =>
    show (run.fire svc due).now ≤ e.instant
    rw [now_fire]
    exact Nat.max_le.mpr ⟨hle, hm.2 e he⟩
  | abandon id =>
    show (run.abandon id).now ≤ e.instant
    rw [(abandon_frame run id).1]
    exact hle
  | cut id branch =>
    show (run.cancelBranch svc id branch).now ≤ e.instant
    rw [(cancelBranch_frame svc run id branch).1]
    exact hle
  | wind t => exact Nat.max_le.mpr ⟨hle, hm e he⟩

/-! ## The budget -/

/-- When a move asks the budget for a backup, and what the budget says. -/
def asks (run : Run δ β σ ρ α ε) : Move ρ → List (Instant × Bool)
  | .fire ⟨t, _, .timer, _⟩ => [(max run.now t, (AdmissionBudget.tryConsume run.budget).1)]
  | _ => []

/-- A request that arrives funds the budget, a timer that goes off asks it once, and no other move
does anything to it. -/
theorem budget_apply (h : run.Sound) (hm : run.Possible m) :
    (run.apply svc m).budget =
      match m with
      | .start .. => AdmissionBudget.fund run.budget
      | _ =>
        if (run.asks m).isEmpty then run.budget
        else (AdmissionBudget.tryConsume run.budget).2 := by
  cases m with
  | start payload inPlace => rfl
  | fire due =>
    show (run.fire svc due).budget = _
    cases ahead_of_mem_pending hm with
    | @timer t id turn request race there racing armed set =>
      -- a timer that lies ahead of a sound run is never stale
      rw [fire_timer_eq svc t turn there racing]
      unfold fireTimer
      rw [(h id request race there racing).timerIsStale armed, if_neg (by simp)]
      exact (deliver_frame svc ..).2
    | @call id branch turn request race c call there racing waited held =>
      rw [fire_call_eq svc call.due branch turn there racing]
      exact (fireCall_frame svc ..).2
  | abandon id => exact (abandon_frame run id).2
  | cut id branch => exact (cancelBranch_frame svc run id branch).2
  | wind t => rfl

/-! ## The ledger -/

/-- A change adds a call to the ledger at most, and leaves all others as they were issued. -/
theorem Change.issues (hc : Change svc run subject run') :
    run'.calls.issues = run.calls.issues ∨
      ∃ call, run'.calls.issues = run.calls.issues ++ [call] := by
  cases hc with
  | started payload inPlace => exact Or.inr ⟨_, Ledger.issues_issue ..⟩
  | wound _ t => exact Or.inl rfl
  | hedged there racing => exact Or.inr ⟨_, Ledger.issues_issue ..⟩
  | denied there racing => exact Or.inl rfl
  | answered there racing waited held said =>
    exact Or.inl ((Ledger.issues_foldl_drop ..).trans (Ledger.issues_finish ..))
  | crashed there racing =>
    rw [dropCalls_eq]
    exact Or.inl ((Ledger.issues_foldl_drop ..).trans (Ledger.issues_finish ..))
  | @bereft _ _ _ _ c => exact Or.inl (Ledger.issues_foldl_drop [c] _)
  | @lost _ _ _ _ c => exact Or.inl (Ledger.issues_foldl_drop [c] _)
  | abandoned there racing =>
    rw [dropCalls_eq]
    exact Or.inl (Ledger.issues_foldl_drop ..)

theorem Change.issue_kept (hc : Change svc run subject run') {c : CallId} {call : Call ρ α ε}
    (held : run.calls.issues[c]? = some call) : run'.calls.issues[c]? = some call := by
  rcases hc.issues with heq | ⟨_, heq⟩
  · rw [heq]
    exact held
  · rw [heq, List.getElem?_append_left (List.getElem?_eq_some_iff.mp held).1]
    exact held

/-! ## Histories -/

/-- What an observer of a request sees of a move. -/
def observe (svc : Service σ ρ α ε) (id : RequestId) (run : Run δ β σ ρ α ε) (m : Move ρ) :
    History ρ α ε :=
  if m.subject = some id then
    { asked := run.asks m
      issued := (run.apply svc m).calls.issues.drop run.calls.issues.length
      fed := (run.apply svc m).fed.toList.drop run.fed.toList.length }
  else {}

/-- What an observer of a request sees in the course of some moves. -/
def history (svc : Service σ ρ α ε) (id : RequestId) :
    Run δ β σ ρ α ε → List (Move ρ) → History ρ α ε
  | _, [] => {}
  | run, m :: moves => observe svc id run m ++ history svc id (run.apply svc m) moves

theorem observe_of_ne (hne : m.subject ≠ some id) : observe svc id run m = {} := if_neg hne

end History

end Run

end Hedging
