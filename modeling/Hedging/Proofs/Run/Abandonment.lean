import Hedging.Proofs.Run.Ownership

/-!
# Giving a request up

A request that is given up takes its calls with it and nothing else. `Spared` says what "nothing
else" comes to: the clock, the service, the estimator, the budget, the counters and the log stay as
they are, other requests keep their races and their calls, and what lies ahead of the run is what lay
ahead of the others.

A request that has ended is out of the game for good, whichever way it has ended: none of its events
lies ahead any more, and a move that concerns it can at most let time pass (`apply_of_ended`).

> `abandon_spared`: giving a request up spares all others.
-/

namespace Hedging

/-- Mapping the places of a list does not see a change that the function does not see. -/
theorem flatMap_zipIdx_modify {γ κ : Type} {f : γ → γ} {g : γ × Nat → List κ} {l : List γ} {i : Nat}
    (n : Nat) (h : ∀ x, l[i]? = some x → g (f x, n + i) = g (x, n + i)) :
    ((l.modify i f).zipIdx n).flatMap g = (l.zipIdx n).flatMap g := by
  induction l generalizing i n with
  | nil => rw [List.modify_nil]
  | cons y rest ih =>
    cases i with
    | zero =>
      have hy := h y rfl
      rw [List.modify_zero_cons, List.zipIdx_cons, List.zipIdx_cons, List.flatMap_cons,
        List.flatMap_cons]
      exact congrArg (· ++ _) hy
    | succ i =>
      rw [List.modify_succ_cons, List.zipIdx_cons, List.zipIdx_cons, List.flatMap_cons,
        List.flatMap_cons, ih (n + 1)]
      intro x hx
      have hplace : n + 1 + i = n + (i + 1) := by omega
      rw [hplace]
      exact h x hx

/-- A call is dropped only once. -/
theorem Call.drop_drop {ρ α ε : Type} (call : Call ρ α ε) : call.drop.drop = call.drop := by
  unfold drop
  cases hs : call.state <;> simp [hs]

namespace Run

section Pending

variable {δ β σ ρ α ε : Type} {run run' : Run δ β σ ρ α ε} {id : RequestId}
  {request : Request ρ α ε}

/-! ## What lies ahead of the others -/

theorem request_of_mem_pending {calls : Ledger ρ α ε} {due : Due}
    (h : due ∈ request.pending calls id) : due.request = id := by
  unfold Request.pending at h
  split at h
  next race _ =>
    rw [List.mem_append, List.mem_append] at h
    rcases h with (htimer | hprimary) | hbackup
    · split at htimer
      · obtain ⟨t, -, rfl⟩ := List.mem_map.mp htimer
        rfl
      · cases htimer
    · obtain ⟨c, call, -, -, rfl⟩ := mem_pendingCall hprimary
      rfl
    · obtain ⟨c, call, -, -, rfl⟩ := mem_pendingCall hbackup
      rfl
  next => cases h

theorem pending_of_ended (ended : request.isRacing = false) (calls : Ledger ρ α ε)
    (id : RequestId) : request.pending calls id = [] := by
  unfold Request.pending
  split
  next race racing => exact absurd racing (Request.stage_ne_of_ended ended race)
  next => rfl

/-- Of the ledger a request only needs to know when its calls are due. -/
theorem pending_of_dues {calls calls' : Ledger ρ α ε}
    (hdues : calls'.map (·.due) = calls.map (·.due)) (request : Request ρ α ε) (id : RequestId) :
    request.pending calls' id = request.pending calls id := by
  have hlength : calls'.length = calls.length := by
    have h := congrArg List.length hdues
    rw [List.length_map, List.length_map] at h
    exact h
  have hcall : ∀ race branch,
      request.pendingCall calls' id race branch = request.pendingCall calls id race branch := by
    intro race branch
    unfold Request.pendingCall
    congr 1
    funext c
    have hdue : (calls'[c]?).map (·.due) = (calls[c]?).map (·.due) := by
      rw [← List.getElem?_map, hdues, List.getElem?_map]
    have hturn : request.callTurn calls' c = request.callTurn calls c := by
      unfold Request.callTurn
      rw [hlength]
    rw [hturn]
    cases hc : calls[c]? with
    | none =>
      rw [hc, Option.map_none, Option.map_eq_none_iff] at hdue
      rw [hdue]
    | some call =>
      rw [hc, Option.map_some] at hdue
      obtain ⟨call', hc', hsame⟩ := Option.map_eq_some_iff.mp hdue
      rw [hc', Option.map_some, Option.map_some, hsame]
  unfold Request.pending
  split
  next race _ => rw [hcall race .primary, hcall race .backup]
  next => rfl

/-- Whatever is done to one request, the same lies ahead of the others. -/
theorem pending_filter_ne {f : Request ρ α ε → Request ρ α ε}
    (hrequests : run'.requests = run.requests.modify id f)
    (hdues : run'.calls.map (·.due) = run.calls.map (·.due)) :
    run'.pending.filter (·.request != id) = run.pending.filter (·.request != id) := by
  have hnone : ∀ (request : Request ρ α ε),
      (request.pending run.calls id).filter (·.request != id) = [] := by
    intro request
    rw [List.filter_eq_nil_iff]
    intro due hdue hne
    rw [request_of_mem_pending hdue] at hne
    simp at hne
  unfold pending
  rw [List.filter_flatMap, List.filter_flatMap, hrequests]
  simp only [pending_of_dues hdues]
  refine flatMap_zipIdx_modify 0 fun request _ => ?_
  rw [Nat.zero_add]
  exact (hnone _).trans (hnone _).symm

theorem dues_of_issues (hissues : run'.calls.issues = run.calls.issues) :
    run'.calls.map (·.due) = run.calls.map (·.due) := by
  have h := congrArg (List.map Call.due) hissues
  unfold Ledger.issues at h
  rw [List.map_map, List.map_map] at h
  exact h

/-- Nothing lies ahead of a request that has ended. -/
theorem request_ne_of_ended (there : run.requests[id]? = some request)
    (ended : request.isRacing = false) {due : Due} (hdue : due ∈ run.pending) :
    due.request ≠ id := by
  obtain ⟨i, other, hthere, hmem⟩ := mem_pending_iff.mp hdue
  have hi := request_of_mem_pending hmem
  intro heq
  rw [hi] at heq
  subst heq
  obtain rfl := Option.some.inj (there.symm.trans hthere)
  rw [pending_of_ended ended] at hmem
  cases hmem

end Pending

section Ended

variable {δ β σ ρ α ε : Type} [DelayEstimator δ] {run : Run δ β σ ρ α ε} {id : RequestId}
  {request : Request ρ α ε}

/-! ## A request that has ended -/

theorem cancelBranch_of_ended (svc : Service σ ρ α ε)
    (there : run.requests[id]? = some request) (ended : request.isRacing = false)
    (branch : Branch) : run.cancelBranch svc id branch = run := by
  unfold cancelBranch
  simp only [there]
  split
  next race racing => exact absurd racing (Request.stage_ne_of_ended ended race)
  next => rfl

variable [AdmissionBudget β]

theorem fire_of_ended (svc : Service σ ρ α ε) {due : Due}
    (there : run.requests[due.request]? = some request) (ended : request.isRacing = false) :
    run.fire svc due = run.wind due.instant := by
  unfold fire
  simp only [there]
  split
  next racing _ => exact absurd racing (Request.stage_ne_of_ended ended _)
  next racing _ => exact absurd racing (Request.stage_ne_of_ended ended _)
  next => rfl

/-- A move that concerns a request that has ended can at most let time pass. -/
theorem apply_of_ended (svc : Service σ ρ α ε) (there : run.requests[id]? = some request)
    (ended : request.isRacing = false) {m : Move ρ} (hm : m.subject = some id) :
    ∃ t, run.apply svc m = run.wind t := by
  cases m with
  | start payload inPlace => cases hm
  | fire due =>
    obtain rfl := Option.some.inj hm
    exact ⟨due.instant, fire_of_ended svc there ended⟩
  | abandon other =>
    obtain rfl := Option.some.inj hm
    refine ⟨run.now, ?_⟩
    rw [wind_now]
    exact abandon_of_ended there ended
  | cut other branch =>
    obtain rfl := Option.some.inj hm
    refine ⟨run.now, ?_⟩
    rw [wind_now]
    exact cancelBranch_of_ended svc there ended branch
  | wind t => cases hm

end Ended

section Spared

variable {δ β σ ρ α ε : Type} [DelayEstimator δ] [AdmissionBudget β] {svc : Service σ ρ α ε}
  {run gone : Run δ β σ ρ α ε} {id : RequestId} {request : Request ρ α ε} {race : Race ρ α ε}

/-! ## Giving a racing request up -/

/-- A request is gone with the calls that its race waited for, now and for ever, and everything else
is as it was. -/
structure Spared (svc : Service σ ρ α ε) (run : Run δ β σ ρ α ε) (id : RequestId)
    (race : Race ρ α ε) (gone : Run δ β σ ρ α ε) : Prop where
  now : gone.now = run.now
  service : gone.service = run.service
  estimator : gone.estimator = run.estimator
  budget : gone.budget = run.budget
  counters : gone.counters = run.counters
  fed : gone.fed = run.fed
  log : gone.log = run.log
  own : ∃ request, run.requests[id]? = some request ∧
    gone.requests[id]? = some { request with stage := .abandoned run.now }
  others : ∀ other, other ≠ id → gone.requests[other]? = run.requests[other]?
  pending : gone.pending = run.pending.filter (·.request != id)
  /-- The calls that the race waited for are dropped, and no others. -/
  calls : ∀ c : CallId, gone.calls[c]? = (run.calls[c]?).map fun call =>
    if c ∈ race.calls then { call with state := .dropped } else call
  inFlight : ∀ c ∈ race.calls, run.calls.isInFlight c = true
  count : race.calls.length = 1 ∨ race.calls.length = 2
  /-- No other request waits for one of them. -/
  apart : ∀ other branch c, other ≠ id → run.Awaits other branch c → c ∉ race.calls
  /-- Nothing ever comes of the request again. -/
  silent : ∀ later, Reaches svc gone later → (∀ due ∈ later.pending, due.request ≠ id) ∧
    ∀ m : Move ρ, m.subject = some id → ∃ t, later.apply svc m = later.wind t

theorem length_calls (h : race.Sound request.payload) :
    race.calls.length = 1 ∨ race.calls.length = 2 := by
  have hwaits := h.waits
  unfold Race.calls
  cases hp : race.primary <;> cases hb : race.backup <;> simp [hp, hb] at hwaits ⊢

theorem getElem?_foldl_drop (ids : List CallId) (calls : Ledger ρ α ε) (c : CallId) :
    (ids.foldl Ledger.drop calls)[c]? =
      (calls[c]?).map fun call => if c ∈ ids then call.drop else call := by
  induction ids generalizing calls with
  | nil => simp
  | cons k rest ih =>
    rw [List.foldl_cons, ih]
    unfold Ledger.drop
    rw [List.getElem?_modify]
    cases calls[c]? with
    | none => rfl
    | some call =>
      by_cases hk : k = c
      · subst hk
        simp [Call.drop_drop]
      · have hck : ¬c = k := fun h => hk h.symm
        simp [hk, hck]

/-- A call that is under way is dropped, and what is not dropped stays as it is. -/
theorem getElem?_drop_of_inFlight {ids : List CallId} {calls : Ledger ρ α ε}
    (hflight : ∀ c ∈ ids, calls.isInFlight c = true) (c : CallId) :
    (ids.foldl Ledger.drop calls)[c]? = (calls[c]?).map fun call =>
      if c ∈ ids then { call with state := .dropped } else call := by
  rw [getElem?_foldl_drop]
  cases hc : calls[c]? with
  | none => rfl
  | some call =>
    rw [Option.map_some, Option.map_some]
    split
    next hmem =>
      have hrunning := hflight c hmem
      unfold Ledger.isInFlight at hrunning
      rw [hc] at hrunning
      have hstate : call.state = .running := eq_of_beq hrunning
      unfold Call.drop
      rw [hstate]
    next => rfl

/-- **Giving a request up spares all others**, then and later. -/
theorem abandon_spared (svc : Service σ ρ α ε) (h : run.Intact)
    (there : run.requests[id]? = some request) (racing : request.stage = .racing race) :
    Spared svc run id race (run.abandon id) := by
  obtain ⟨hs, who, howned⟩ := h
  have hgone := abandon_racing there racing
  have hthere : (run.abandon id).requests[id]? =
      some { request with stage := .abandoned run.now } := by
    rw [hgone, List.getElem?_modify_eq, there]
    rfl
  have hawaits : ∀ c ∈ race.calls, ∃ branch, run.Awaits id branch c := by
    intro c hc
    obtain ⟨branch, hcall⟩ := Race.mem_calls.mp hc
    exact ⟨branch, (awaits_of_racing there racing).mpr hcall⟩
  have hflight : ∀ c ∈ race.calls, run.calls.isInFlight c = true := by
    intro c hc
    obtain ⟨branch, hwaits⟩ := hawaits c hc
    exact (howned.inFlight c id branch (howned.awaited id branch c hwaits)).mpr hwaits
  refine
    { now := by rw [hgone]
      service := by rw [hgone]
      estimator := by rw [hgone]
      budget := by rw [hgone]
      counters := by rw [hgone]
      fed := by rw [hgone]
      log := by rw [hgone]
      own := ⟨request, there, hthere⟩
      others := ?_
      pending := ?_
      calls := ?_
      inFlight := hflight
      count := length_calls (hs id request race there racing)
      apart := ?_
      silent := ?_ }
  · intro other hother
    rw [hgone, List.getElem?_modify_ne _ _ fun heq => hother heq.symm]
  · have hissues : (run.abandon id).calls.issues = run.calls.issues := by
      rw [hgone]
      exact Ledger.issues_foldl_drop ..
    have hrequests : (run.abandon id).requests =
        run.requests.modify id fun r => { r with stage := .abandoned run.now } := by rw [hgone]
    rw [← pending_filter_ne hrequests (dues_of_issues hissues)]
    refine (List.filter_eq_self.mpr fun due hdue => ?_).symm
    exact bne_iff_ne.mpr (request_ne_of_ended hthere rfl hdue)
  · rw [hgone]
    exact getElem?_drop_of_inFlight hflight
  · intro other branch c hother hwaits hmem
    obtain ⟨branch', hwaits'⟩ := hawaits c hmem
    exact hother (howned.one_owner hwaits hwaits').1
  · intro later hlater
    have hc : Change svc run (some id) (run.abandon id) := abandon_change run id
    have hsound : (run.abandon id).Sound := hc.sound hs
    have hkept := hlater.request_of_ended hsound hthere rfl
    exact ⟨fun due hdue => request_ne_of_ended hkept rfl hdue,
      fun m hm => apply_of_ended svc hkept rfl hm⟩

end Spared

end Run

end Hedging
