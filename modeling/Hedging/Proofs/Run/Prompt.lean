import Hedging.Proofs.Run.Ownership
import Hedging.Proofs.Run.Waiting

/-!
# How long a latency can be

A call is due thirty years after it was issued at the latest. In a timely run its end comes when it
is due, neither later nor never, so what the estimator is fed is no longer than that either.

> `Prompt.play`: in a timely run the clock does not pass a call that somebody waits for, and no
> latency is longer than the farthest that a timer can be set.
-/

namespace Hedging

namespace Run

section Prompt

variable {δ β σ ρ α ε : Type}

/-- Nobody waits for a call that is overdue, and no call takes or took longer than a timer can be set
for. -/
structure Prompt (run : Run δ β σ ρ α ε) : Prop where
  ahead : ∀ (id : RequestId) (branch : Branch) (c : CallId) (call : Call ρ α ε),
    run.Awaits id branch c → run.calls.issues[c]? = some call → run.now ≤ call.due
  lasting : ∀ call ∈ run.calls.issues, call.due ≤ call.issued + Instant.farOff
  fed : ∀ latency ∈ run.fed.toList, latency.millis ≤ Instant.farOff

theorem new_prompt (service : σ) (estimator : δ) (budget : β) :
    (Run.new service estimator budget : Run δ β σ ρ α ε).Prompt :=
  { ahead := by
      rintro id branch c call ⟨request, there, -⟩
      cases there
    lasting := fun _ hmem => absurd hmem List.not_mem_nil
    fed := fun _ hmem => absurd hmem List.not_mem_nil }

/-- The clock has not passed the end of a call that lies ahead. -/
theorem Prompt.le_of_call {run : Run δ β σ ρ α ε} (h : run.Prompt) {due : Due} {branch : Branch}
    (hdue : due ∈ run.pending) (hcall : due.source = .call branch) : run.now ≤ due.instant := by
  cases ahead_of_mem_pending hdue with
  | timer => cases hcall
  | @call id _ _ _ _ c call there racing waited held =>
    exact h.ahead id _ c call.asIssued ((awaits_of_racing there racing).mpr waited)
      (Ledger.issue_of_held held)

/-- Nobody begins to wait for a call by going to a stage that waits for no other. -/
theorem awaits_of_narrower {run run' : Run δ β σ ρ α ε} {id : RequestId}
    {request : Request ρ α ε} {stage : Stage ρ α ε} (there : run.requests[id]? = some request)
    (hrequests : run'.requests = run.requests.modify id fun r => { r with stage })
    (hstage : ∀ branch c, stage.call branch = some c → request.stage.call branch = some c)
    {i : RequestId} {branch : Branch} {c : CallId} (h : run'.Awaits i branch c) :
    run.Awaits i branch c := by
  rw [awaits_of_stage there hrequests] at h
  split at h
  next hi =>
    subst hi
    exact ⟨request, there, hstage branch c h⟩
  next => exact h

/-- Nobody begins to wait by coming to an end. -/
theorem awaits_of_end {run run' : Run δ β σ ρ α ε} {id : RequestId} {request : Request ρ α ε}
    {stage : Stage ρ α ε} (there : run.requests[id]? = some request)
    (hrequests : run'.requests = run.requests.modify id fun r => { r with stage })
    (hstage : ∀ branch, stage.call branch = none) {i : RequestId} {branch : Branch} {c : CallId}
    (h : run'.Awaits i branch c) : run.Awaits i branch c := by
  refine awaits_of_narrower there hrequests (fun branch c hcall => ?_) h
  rw [hstage branch] at hcall
  cases hcall

end Prompt

section Change

variable {δ β σ ρ α ε : Type} [DelayEstimator δ] [AdmissionBudget β] {svc : Service σ ρ α ε}
  {run run' : Run δ β σ ρ α ε} {subject : Option RequestId}

omit [AdmissionBudget β] in
theorem Awaits.of_answer {id : RequestId} {request : Request ρ α ε} {race : Race ρ α ε}
    {ended : Branch} {latency : Duration} {completion : Completion α ε} {i : RequestId}
    {branch : Branch} {c : CallId}
    (h : (run.answer id request race ended latency completion).Awaits i branch c)
    (there : run.requests[id]? = some request) : run.Awaits i branch c :=
  awaits_of_end there (requests_answer ..) (fun _ => rfl) h

/-- A call that is waited for after a change was waited for before, unless it is new. -/
theorem Change.awaits (hc : Change svc run subject run') (hs : run.Sound) {i : RequestId}
    {branch : Branch} {c : CallId} (h : run'.Awaits i branch c) :
    run.Awaits i branch c ∨ c = run.calls.length := by
  cases hc with
  | started payload inPlace => exact ((awaits_start ..).mp h).imp_right And.right
  | wound _ t => exact Or.inl h
  | @hedged t id request race there racing armed granted =>
    have hrace := hs id request race there racing
    have hthere : (run.wind t).requests[id]? = some request := there
    exact ((awaits_hedge svc hrace hthere racing armed i branch c).mp h).imp_right And.right
  | denied there racing =>
    refine Or.inl (awaits_of_narrower there rfl (fun branch c hcall => ?_) h)
    rw [racing]
    cases branch <;> exact hcall
  | answered there => exact Or.inl (h.of_answer there)
  | crashed there =>
    rw [dropCalls_eq] at h
    exact Or.inl (awaits_of_end there rfl (fun _ => rfl) h)
  | bereft there racing =>
    refine Or.inl (awaits_of_narrower there rfl (fun branch c hcall => ?_) h)
    rw [racing]
    exact Race.call_of_without hcall
  | lost there => exact Or.inl (awaits_of_end there rfl (fun _ => rfl) h)
  | abandoned there =>
    rw [dropCalls_eq] at h
    exact Or.inl (awaits_of_end there rfl (fun _ => rfl) h)

/-- A call that a change enters is issued at the instant of the change. -/
theorem Change.issued_now (hc : Change svc run subject run') {c : CallId} {call : Call ρ α ε}
    (held : run'.calls.issues[c]? = some call) :
    run.calls.issues[c]? = some call ∧ c < run.calls.length ∨
      ∃ payload plan, call = .start run'.now payload plan := by
  have hlength : run.calls.issues.length = run.calls.length := List.length_map ..
  have hkept : run'.calls.issues = run.calls.issues →
      run.calls.issues[c]? = some call ∧ c < run.calls.length := by
    intro heq
    rw [heq] at held
    exact ⟨held, hlength ▸ (List.getElem?_eq_some_iff.mp held).1⟩
  have hadded : ∀ new : Call ρ α ε, run'.calls.issues = run.calls.issues ++ [new] →
      run.calls.issues[c]? = some call ∧ c < run.calls.length ∨ call = new := by
    intro new heq
    rw [heq] at held
    exact (getElem?_concat_cases held).imp (fun h => ⟨h.1, hlength ▸ h.2⟩) And.right
  cases hc with
  | started payload inPlace =>
    exact (hadded _ (Ledger.issues_issue ..)).imp_right fun h => ⟨_, _, h⟩
  | wound _ t => exact Or.inl (hkept rfl)
  | hedged there racing =>
    exact (hadded _ (Ledger.issues_issue ..)).imp_right fun h => ⟨_, _, h⟩
  | denied there racing => exact Or.inl (hkept rfl)
  | answered there racing waited held said =>
    exact Or.inl (hkept ((Ledger.issues_foldl_drop ..).trans (Ledger.issues_finish ..)))
  | crashed there racing =>
    rw [dropCalls_eq] at hkept
    exact Or.inl (hkept ((Ledger.issues_foldl_drop ..).trans (Ledger.issues_finish ..)))
  | @bereft _ _ _ _ c => exact Or.inl (hkept (Ledger.issues_foldl_drop [c] _))
  | @lost _ _ _ _ c => exact Or.inl (hkept (Ledger.issues_foldl_drop [c] _))
  | abandoned there racing =>
    rw [dropCalls_eq] at hkept
    exact Or.inl (hkept (Ledger.issues_foldl_drop ..))

/-- What a change feeds to the estimator is the time that a call has taken that was waited for. -/
theorem Change.fed (hc : Change svc run subject run') :
    run'.fed = run.fed ∨ ∃ id branch c call, run.Awaits id branch c ∧
      run.calls.issues[c]? = some call ∧ run'.fed = run.fed.push (call.elapsed run'.now) := by
  cases hc with
  | started payload inPlace => exact Or.inl rfl
  | wound _ t => exact Or.inl rfl
  | hedged there racing => exact Or.inl rfl
  | denied there racing => exact Or.inl rfl
  | @answered t id request race branch c call completion there racing waited held said =>
    refine Or.inr ⟨id, branch, c, call.asIssued, (awaits_of_racing there racing).mpr waited,
      Ledger.issue_of_held held, ?_⟩
    rw [fed_answer]
    cases branch <;> rfl
  | crashed there racing =>
    rw [dropCalls_eq]
    exact Or.inl rfl
  | bereft there racing => exact Or.inl rfl
  | lost there racing => exact Or.inl rfl
  | abandoned there racing =>
    rw [dropCalls_eq]
    exact Or.inl rfl

theorem Prompt.step {m : Move ρ} (h : run.Prompt) (hs : run.Sound) (hm : run.Timely m) :
    (run.apply svc m).Prompt := by
  have hc : Change svc run m.subject (run.apply svc m) := apply_change hs hm.possible
  -- whoever is still waiting has not been passed by the clock
  have hahead : ∀ id branch c call, run.Awaits id branch c → run.calls.issues[c]? = some call →
      (run.apply svc m).now ≤ call.due := by
    intro id branch c issued hwaits hissue
    obtain ⟨call, held, rfl⟩ := Ledger.held_of_issue hissue
    obtain ⟨request, race, there, racing⟩ := exists_race hwaits.isRacing
    have hdue := call_mem_pending there racing ((awaits_of_racing there racing).mp hwaits) held
    exact hm.now_le hdue (h.ahead id branch c call.asIssued hwaits hissue)
  refine ⟨?_, ?_, ?_⟩
  · intro id branch c call hwaits hissue
    rcases hc.issued_now hissue with ⟨hissue', hlt⟩ | ⟨payload, plan, rfl⟩
    · rcases hc.awaits hs hwaits with hwaits' | rfl
      · exact hahead id branch c call hwaits' hissue'
      · exact absurd hlt (Nat.lt_irrefl _)
    · exact Instant.le_after ..
  · intro call hmem
    obtain ⟨c, hissue⟩ := List.mem_iff_getElem?.mp hmem
    rcases hc.issued_now hissue with ⟨hissue', -⟩ | ⟨payload, plan, rfl⟩
    · exact h.lasting call (List.mem_of_getElem? hissue')
    · exact Instant.after_le ..
  · intro latency hmem
    rcases hc.fed with hfed | ⟨id, branch, c, call, hwaits, hissue, hfed⟩
    · rw [hfed] at hmem
      exact h.fed latency hmem
    · rw [hfed, Array.toList_push, List.mem_append, List.mem_singleton] at hmem
      rcases hmem with hmem | rfl
      · exact h.fed latency hmem
      · have hdue := hahead id branch c call hwaits hissue
        have hlasting := h.lasting call (List.mem_of_getElem? hissue)
        rw [Call.elapsed, Instant.since, Duration.millis_ofMillis]
        exact Nat.sub_le_iff_le_add'.mpr (Nat.le_trans hdue hlasting)

/-- What timely moves lead to from a prompt run is prompt. -/
theorem Leads.prompt {later : Run δ β σ ρ α ε} (hr : Leads svc Timely run later) (hs : run.Sound)
    (h : run.Prompt) : later.Prompt := by
  have hboth : later.Sound ∧ later.Prompt := by
    refine hr.invariant (P := fun run => run.Sound ∧ run.Prompt) ?_ ⟨hs, h⟩
    intro run m ⟨hs, h⟩ hm
    have hc : Change svc run m.subject (run.apply svc m) := apply_change hs hm.possible
    exact ⟨hc.sound hs, h.step hs hm⟩
  exact hboth.2

theorem Leads.prompt_of_regular {later : Run δ β σ ρ α ε} (hr : Leads svc Regular run later)
    (hs : run.Sound) (h : run.Prompt) : later.Prompt :=
  Leads.prompt (hr.mono fun _ _ hm => hm.1) hs h

theorem Prompt.play {moves : List (Move ρ)} (h : run.Prompt) (hs : run.Sound)
    (hmoves : Along svc Timely run moves) : (run.play svc moves).Prompt :=
  Leads.prompt ⟨moves, hmoves, rfl⟩ hs h

theorem Prompt.fire (h : run.Prompt) (hs : run.Sound) {due : Due} (hnext : run.next? = some due) :
    (run.fire svc due).Prompt :=
  h.step hs (regular_fire hnext).1

end Change

end Run

end Hedging
