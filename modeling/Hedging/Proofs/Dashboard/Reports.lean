import Mathlib.Data.List.Basic
import Hedging.Dashboard.Lookup
import Hedging.Proofs.Run.Accounts
import Hedging.Proofs.Run.History

/-!
# What the lookups report

A lookup reports what became of its hedged request, or what the service answered it directly. What a
report tells of its request (`LookupEvent.fate?`) is the fate of that request, and it stays so, for a
request that has ended never changes again.

`Reports` relates the lookups to the requests of the run: every request belongs to one lookup, and a
lookup that does not run any more has made one report. When no lookup runs any more, the reports
therefore tell of all requests:

> `Reports.fates`: the fates that the reports tell of are the fates of the requests.
-/

namespace Hedging

/-! ## Reports and fates -/

namespace LookupEvent

/-- What a report tells of the request that it came from, if it came from one. -/
def fate? (e : LookupEvent) : Option Fate :=
  match e.lane, e.ok with
  | some .primary, true => some .primaryWin
  | some .backup, true => some .backupWin
  | some .primary, false | some .backup, false => some .failure
  | none, false => some .cancellation
  | some .direct, _ | none, true => none

/-- A report of a request that is settled tells its fate. -/
theorem fate?_ofResult (host : String) (t : Instant) (result : Result (List Address) SimFailure) :
    (ofResult host result).fate? =
      some (Stage.settled t result : Stage String (List Address) SimFailure).fate := by
  cases result with
  | ok h =>
    obtain ⟨value, branch, latency⟩ := h
    cases branch <;> rfl
  | error e =>
    cases e with
    | failed branch failure => cases branch <;> rfl
    | cancelled => rfl

/-- An answer of the service itself tells of no request. -/
theorem fate?_ofReply (host : String) (reply : Reply (List Address) SimFailure) :
    (ofReply host reply).fate? = none := by
  cases reply <;> rfl

end LookupEvent

namespace Run

section Follows

variable {δ β σ ρ α ε : Type} {run later : Run δ β σ ρ α ε}

/-- What has ended by the time of a run has ended in the same way at a later time. -/
structure Follows (run later : Run δ β σ ρ α ε) : Prop where
  now_le : run.now ≤ later.now
  ended : ∀ (id : RequestId) (request : Request ρ α ε), run.requests[id]? = some request →
    request.isRacing = false → later.requests[id]? = some request

variable [DelayEstimator δ] [AdmissionBudget β] {svc : Service σ ρ α ε}
  {subject : Option RequestId}

/-- No change turns the clock back. -/
theorem Change.now_le (hc : Change svc run subject later) : run.now ≤ later.now := by
  cases hc with
  | started payload inPlace => exact Nat.le_refl _
  | wound _ t => exact Nat.le_max_left ..
  | hedged there racing => exact Nat.le_max_left ..
  | denied there racing => exact Nat.le_max_left ..
  | @answered t _ _ _ branch => cases branch <;> exact Nat.le_max_left ..
  | crashed there racing =>
    rw [dropCalls_eq]
    exact Nat.le_max_left ..
  | bereft there racing => exact Nat.le_refl _
  | lost there racing => exact Nat.le_refl _
  | abandoned there racing =>
    rw [dropCalls_eq]
    exact Nat.le_refl _

theorem Change.follows (hc : Change svc run subject later) : run.Follows later :=
  ⟨hc.now_le, fun _ _ there ended => hc.request_kept there fun _ => ended⟩

end Follows

end Run

namespace Lookup

/-! ## What a lookup reports -/

variable {run later : SimRun} {l : Lookup}

/-- The request of a lookup that goes through the hedged resolver. -/
def request? (l : Lookup) : Option RequestId :=
  match l.work with
  | .hedged id => some id
  | .direct .. => none

/-- What a lookup reports, if it has ended by now. -/
def report? (run : SimRun) (l : Lookup) : Option LookupEvent := (l.outcome? run).map Prod.snd

theorem outcome?_of_hedged {id : RequestId} (hwork : l.work = .hedged id) {t : Instant}
    {event : LookupEvent} (h : l.outcome? run = some (t, event)) :
    ∃ request result, run.requests[id]? = some request ∧ request.stage = .settled t result ∧
      event = .ofResult l.host result := by
  unfold outcome? at h
  simp only [hwork, Option.bind_eq_some_iff] at h
  obtain ⟨request, there, hstage⟩ := h
  split at hstage
  next ended result hsettled =>
    obtain ⟨rfl, rfl⟩ := Prod.mk.inj (Option.some.inj hstage)
    exact ⟨request, result, there, hsettled, rfl⟩
  next => cases hstage

theorem outcome?_of_settled {id : RequestId} (hwork : l.work = .hedged id) {t : Instant}
    {request : Request String (List Address) SimFailure} {result : Result (List Address) SimFailure}
    (there : run.requests[id]? = some request) (settled : request.stage = .settled t result) :
    l.outcome? run = some (t, .ofResult l.host result) := by
  unfold outcome?
  simp only [hwork, there, Option.bind_some, settled]

/-- A lookup that has come to its end has come to it for good. -/
theorem outcome?_later {outcome : Instant × LookupEvent} (h : l.outcome? run = some outcome)
    (hlater : run.Follows later) : l.outcome? later = some outcome := by
  obtain ⟨t, event⟩ := outcome
  cases hwork : l.work with
  | hedged id =>
    obtain ⟨request, result, there, hsettled, rfl⟩ := outcome?_of_hedged hwork h
    have hended : request.isRacing = false := by
      unfold Request.isRacing
      rw [hsettled]
    exact outcome?_of_settled hwork (hlater.ended id request there hended) hsettled
  | direct ended reply =>
    unfold outcome? at h ⊢
    simp only [hwork] at h ⊢
    split at h
    next hle =>
      rw [if_pos (Nat.le_trans hle hlater.now_le)]
      exact h
    next => cases h

/-- What a report tells is the fate of the request of its lookup. -/
theorem fate?_of_report {event : LookupEvent} (h : l.report? run = some event) :
    event.fate? = l.request?.bind fun id => (run.requests[id]?).map (·.stage.fate) := by
  obtain ⟨⟨t, _⟩, houtcome, rfl⟩ := Option.map_eq_some_iff.mp h
  unfold request?
  cases hwork : l.work with
  | hedged id =>
    obtain ⟨request, result, there, hsettled, rfl⟩ := outcome?_of_hedged hwork houtcome
    rw [LookupEvent.fate?_ofResult l.host t result, Option.bind_some, there, Option.map_some,
      hsettled]
  | direct ended reply =>
    unfold outcome? at houtcome
    simp only [hwork] at houtcome
    split at houtcome
    next =>
      obtain ⟨-, rfl⟩ := Prod.mk.inj (Option.some.inj houtcome)
      exact LookupEvent.fate?_ofReply l.host reply
    next => cases houtcome

/-- The request of a lookup that has ended is racing no more. -/
theorem isRacing_of_outcome {id : RequestId} (hrequest : l.request? = some id)
    (h : (l.outcome? run).isSome = true) : run.isRacing id = false := by
  obtain ⟨⟨t, event⟩, houtcome⟩ := Option.isSome_iff_exists.mp h
  unfold request? at hrequest
  split at hrequest
  next i hwork =>
    obtain rfl := Option.some.inj hrequest
    obtain ⟨request, result, there, hsettled, -⟩ := outcome?_of_hedged hwork houtcome
    rw [Run.isRacing_of_there there, Request.isRacing, hsettled]
  next => cases hrequest

end Lookup

/-! ## Lookups and requests -/

/-- To look up all places of a list gives the list. -/
theorem filterMap_range_getElem? {γ : Type} (l : List γ) :
    (List.range l.length).filterMap (l[·]?) = l := by
  induction l with
  | nil => rfl
  | cons x rest ih =>
    rw [List.length_cons, List.range_succ_eq_map, List.filterMap_cons, List.filterMap_map]
    exact congrArg (x :: ·) ih

/-- Of the lookups that were started some are under way and the others have handed over their
reports. Every request of the run belongs to one of them. -/
structure Reports (run : SimRun) (underway ended : List Lookup) (reports : List LookupEvent)
    (directs : Nat) : Prop where
  requests : ((underway ++ ended).filterMap Lookup.request?).Perm (List.range run.requests.length)
  direct : (underway ++ ended).countP (·.request?.isNone) = directs
  made : ∀ l ∈ ended, (l.outcome? run).isSome = true
  reports : reports.Perm (ended.filterMap (·.report? run))

theorem new_reports (service : Simulated) (estimator : Estimator) (budget : Budget) :
    Reports (.new service estimator budget) [] [] [] 0 :=
  ⟨.refl _, rfl, fun _ h => absurd h List.not_mem_nil, .refl _⟩

namespace Reports

variable {run later : SimRun} {underway ended : List Lookup} {reports : List LookupEvent}
  {directs : Nat}

/-- What was reported stays reported. -/
theorem report?_later (h : Reports run underway ended reports directs)
    (hlater : run.Follows later) :
    ended.filterMap (·.report? later) = ended.filterMap (·.report? run) := by
  refine List.filterMap_congr fun l hl => ?_
  obtain ⟨outcome, houtcome⟩ := Option.isSome_iff_exists.mp (h.made l hl)
  unfold Lookup.report?
  rw [houtcome, Lookup.outcome?_later houtcome hlater]

/-- The run goes on, and perhaps other lookups are started. -/
theorem goOn (h : Reports run underway ended reports directs) (hlater : run.Follows later)
    (begun : List Lookup)
    (hrequests : List.range later.requests.length =
      List.range run.requests.length ++ begun.filterMap Lookup.request?) :
    Reports later (underway ++ begun) ended reports
      (directs + begun.countP (·.request?.isNone)) := by
  have hall : (underway ++ begun ++ ended).Perm ((underway ++ ended) ++ begun) := by
    rw [List.append_assoc, List.append_assoc]
    exact List.Perm.append_left underway List.perm_append_comm
  refine ⟨?_, ?_, ?_, ?_⟩
  · rw [hrequests]
    refine (hall.filterMap _).trans ?_
    rw [List.filterMap_append]
    exact h.requests.append_right _
  · rw [hall.countP_eq, List.countP_append, h.direct]
  · intro l hl
    obtain ⟨outcome, houtcome⟩ := Option.isSome_iff_exists.mp (h.made l hl)
    rw [Lookup.outcome?_later houtcome hlater]
    rfl
  · rw [h.report?_later hlater]
    exact h.reports

/-- The run goes on without another request. -/
theorem follow (h : Reports run underway ended reports directs) (hlater : run.Follows later)
    (hlength : later.requests.length = run.requests.length) :
    Reports later underway ended reports directs := by
  have hgone := h.goOn hlater [] (by rw [hlength]; exact (List.append_nil _).symm)
  rw [List.append_nil] at hgone
  exact hgone

/-- The lookups that have ended hand over their reports. -/
theorem collect (h : Reports run underway ended reports directs) :
    Reports run (underway.filter fun l => (l.outcome? run).isNone)
      (ended ++ underway.filter fun l => !(l.outcome? run).isNone)
      (reports ++ underway.filterMap (·.report? run)) directs := by
  -- the lookups that go on and those that hand over are together the lookups under way
  have hall : (underway.filter (fun l => (l.outcome? run).isNone) ++
      (ended ++ underway.filter fun l => !(l.outcome? run).isNone)).Perm (underway ++ ended) := by
    refine (List.Perm.append_left _ List.perm_append_comm).trans ?_
    rw [← List.append_assoc]
    exact (List.filter_append_perm _ underway).append_right ended
  have hnew : (underway.filter fun l => !(l.outcome? run).isNone).filterMap (·.report? run) =
      underway.filterMap (·.report? run) := by
    rw [List.filterMap_filter]
    refine List.filterMap_congr fun l _ => ?_
    unfold Lookup.report?
    cases l.outcome? run <;> rfl
  refine ⟨(hall.filterMap _).trans h.requests, hall.countP_eq _ ▸ h.direct, ?_, ?_⟩
  · intro l hl
    rcases List.mem_append.mp hl with hl | hl
    · exact h.made l hl
    · have hsome := (List.mem_filter.mp hl).2
      rw [Option.not_isNone] at hsome
      exact hsome
  · rw [List.filterMap_append, hnew]
    exact h.reports.append_right _

/-- Reports may be taken in any order. -/
theorem perm {others : List LookupEvent} (h : Reports run underway ended reports directs)
    (hperm : others.Perm reports) : Reports run underway ended others directs :=
  ⟨h.requests, h.direct, h.made, hperm.trans h.reports⟩

/-! ## When no lookup is under way -/

/-- When no lookup is under way, no request races. -/
theorem idle (h : Reports run [] ended reports directs) (id : RequestId) :
    run.isRacing id = false := by
  rcases Nat.lt_or_ge id run.requests.length with hlt | hge
  · have hmem := h.requests.mem_iff.mpr (List.mem_range.mpr hlt)
    obtain ⟨l, hl, hrequest⟩ := List.mem_filterMap.mp hmem
    exact Lookup.isRacing_of_outcome hrequest (h.made l hl)
  · unfold Run.isRacing
    rw [List.getElem?_eq_none hge]
    rfl

/-- **The fates that the reports tell of are the fates of the requests.** -/
theorem fates (h : Reports run [] ended reports directs) :
    (reports.filterMap LookupEvent.fate?).Perm (run.requests.map (·.stage.fate)) := by
  -- each report tells the fate of the request of its lookup, and the requests are all there are
  have htold : (ended.filterMap (·.report? run)).filterMap LookupEvent.fate? =
      (ended.filterMap Lookup.request?).filterMap
        fun id => (run.requests[id]?).map (·.stage.fate) := by
    rw [List.filterMap_filterMap, List.filterMap_filterMap]
    refine List.filterMap_congr fun l hl => ?_
    obtain ⟨outcome, houtcome⟩ := Option.isSome_iff_exists.mp (h.made l hl)
    have hreport : l.report? run = some outcome.2 := by
      unfold Lookup.report?
      rw [houtcome]
      rfl
    rw [hreport, Option.bind_some, Lookup.fate?_of_report hreport]
  have hall : (List.range run.requests.length).filterMap
      (fun id => (run.requests[id]?).map (·.stage.fate)) = run.requests.map (·.stage.fate) := by
    rw [← List.map_filterMap, filterMap_range_getElem?]
  refine (h.reports.filterMap _).trans ?_
  rw [htold, ← hall]
  exact h.requests.filterMap _

/-- Every request and every direct lookup was reported once. -/
theorem length (h : Reports run [] ended reports directs) :
    reports.length = run.requests.length + directs := by
  have hreports : reports.length = ended.length := by
    rw [h.reports.length_eq, List.length_filterMap_eq_countP, List.countP_eq_length]
    intro l hl
    unfold Lookup.report?
    rw [Option.isSome_map]
    exact h.made l hl
  have hrequests : ended.countP (·.request?.isSome) = run.requests.length := by
    rw [← List.length_filterMap_eq_countP]
    exact h.requests.length_eq.trans List.length_range
  have hdirect : ended.countP (·.request?.isNone) = directs := h.direct
  have hsplit := List.length_eq_countP_add_countP (fun l : Lookup => l.request?.isSome) (l := ended)
  have hnone : ended.countP (fun l => decide ¬l.request?.isSome = true) =
      ended.countP (·.request?.isNone) := by
    congr 1
    funext l
    cases l.request? <;> rfl
  omega

end Reports

end Hedging
