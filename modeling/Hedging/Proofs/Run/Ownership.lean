import Hedging.Proofs.Run.History
import Hedging.Proofs.Run.Load
import Hedging.Service.Script

/-!
# Whose calls they are

The ledger of a run does not say for whom a call was issued. `owners` reads it off the moves: a call
that a move adds to the ledger belongs to the request that arrives with the move, as its primary, or
to the request that the move concerns, as its backup. `Owned` is what holds of a run and the owners
of its calls at all times; above all a call is under way exactly while its owner is racing and waits
for it.

`Owned.of_stage` takes the invariant through every change that only ends calls, and `Owned.of_issue`
through the two that issue one.

> `calls_owned`: no run leaks a call or makes one up.
-/

namespace Hedging

section Ledger

variable {ρ α ε : Type} {calls : Ledger ρ α ε} {k c : CallId}

/-! ## Calls under way -/

/-- Is a call of this number under way? -/
def Ledger.isInFlight (calls : Ledger ρ α ε) (c : CallId) : Bool := (calls[c]?).any Call.isRunning

theorem Call.isRunning_finish (call : Call ρ α ε) : call.finish.isRunning = false := by
  unfold finish
  split
  next => rfl
  next hne =>
    unfold isRunning
    rw [beq_eq_false_iff_ne]
    exact hne

theorem Call.isRunning_drop (call : Call ρ α ε) : call.drop.isRunning = false := by
  unfold drop
  split
  next => rfl
  next hne =>
    unfold isRunning
    rw [beq_eq_false_iff_ne]
    exact hne

/-- To stop a call leaves all others under way. -/
theorem Ledger.isInFlight_modify {f : Call ρ α ε → Call ρ α ε}
    (hf : ∀ call, (f call).isRunning = false) (calls : Ledger ρ α ε) (c k : CallId) :
    isInFlight (calls.modify c f) k = true ↔ k ≠ c ∧ calls.isInFlight k = true := by
  unfold isInFlight
  by_cases hk : c = k
  · subst hk
    rw [List.getElem?_modify_eq]
    cases hcall : calls[c]? with
    | none => simp
    | some call => simp [hf call]
  · rw [List.getElem?_modify_ne _ _ hk]
    exact ⟨fun h => ⟨fun heq => hk heq.symm, h⟩, fun h => h.2⟩

theorem Ledger.isInFlight_finish (calls : Ledger ρ α ε) (c k : CallId) :
    (calls.finish c).isInFlight k = true ↔ k ≠ c ∧ calls.isInFlight k = true :=
  isInFlight_modify Call.isRunning_finish calls c k

theorem Ledger.isInFlight_drop (calls : Ledger ρ α ε) (c k : CallId) :
    (calls.drop c).isInFlight k = true ↔ k ≠ c ∧ calls.isInFlight k = true :=
  isInFlight_modify Call.isRunning_drop calls c k

theorem Ledger.isInFlight_foldl_drop (ids : List CallId) (calls : Ledger ρ α ε) (k : CallId) :
    (ids.foldl Ledger.drop calls).isInFlight k = true ↔
      k ∉ ids ∧ calls.isInFlight k = true := by
  induction ids generalizing calls with
  | nil => simp
  | cons c rest ih =>
    rw [List.foldl_cons, ih, isInFlight_drop, List.mem_cons, not_or, and_left_comm, and_assoc]

/-- A call that is entered under way is so together with all that were. -/
theorem Ledger.isInFlight_append {call : Call ρ α ε} (running : call.isRunning = true)
    (calls : Ledger ρ α ε) (k : CallId) :
    isInFlight (calls ++ [call]) k = true ↔ k = calls.length ∨ calls.isInFlight k = true := by
  unfold isInFlight
  rw [List.getElem?_append]
  split
  next hlt =>
    constructor
    · exact Or.inr
    · rintro (rfl | h)
      · exact absurd hlt (Nat.lt_irrefl _)
      · exact h
  next hge =>
    have hnone : calls[k]? = none := List.getElem?_eq_none (Nat.not_lt.mp hge)
    rw [hnone]
    by_cases hk : k = calls.length
    · subst hk
      simp [running]
    · have hlt := Nat.lt_of_le_of_ne (Nat.not_lt.mp hge) fun h => hk h.symm
      obtain ⟨n, hn⟩ := Nat.exists_eq_succ_of_ne_zero (Nat.sub_ne_zero_of_lt hlt)
      simp [hn, hk]

end Ledger

section Waiting

variable {ρ α ε : Type} {race : Race ρ α ε} {branch : Branch} {c k : CallId}

/-! ## Calls waited for -/

/-- The call of a branch that a request in this stage waits for. -/
def Stage.call (stage : Stage ρ α ε) (branch : Branch) : Option CallId :=
  match stage with
  | .racing race => race.call branch
  | _ => none

theorem Race.mem_calls : k ∈ race.calls ↔ ∃ branch, race.call branch = some k := by
  unfold calls
  rw [List.mem_append, Option.mem_toList, Option.mem_toList]
  constructor
  · rintro (hb | hp)
    · exact ⟨.backup, hb⟩
    · exact ⟨.primary, hp⟩
  · rintro ⟨branch, h⟩
    cases branch with
    | primary => exact Or.inr h
    | backup => exact Or.inl h

theorem Race.call_without (race : Race ρ α ε) (branch other : Branch) :
    (race.without branch).call other = if other = branch then none else race.call other := by
  cases branch <;> cases other <;> rfl

theorem Race.call_of_without {other : Branch} (h : (race.without branch).call other = some k) :
    race.call other = some k := by
  rw [call_without] at h
  split at h
  · cases h
  · exact h

/-- A race that no longer waits for one call still waits for all others. -/
theorem Race.ne_iff_without (waited : race.call branch = some c) :
    k ≠ c ↔ ∀ other, race.call other = some k → (race.without branch).call other = some k := by
  constructor
  · intro hk other hcall
    rw [call_without, if_neg]
    · exact hcall
    · rintro rfl
      exact hk (Option.some.inj (hcall.symm.trans waited))
  · rintro hall rfl
    have hnone := hall branch waited
    rw [call_without, if_pos rfl] at hnone
    cases hnone

/-- A race waits for one call, and for those it waits for without it. -/
theorem Race.mem_calls_of_call (waited : race.call branch = some c) :
    k ∈ race.calls ↔ k = c ∨ k ∈ (race.without branch).calls := by
  rw [mem_calls, mem_calls]
  constructor
  · rintro ⟨other, h⟩
    by_cases heq : other = branch
    · subst heq
      exact Or.inl (Option.some.inj (h.symm.trans waited))
    · exact Or.inr ⟨other, by rw [call_without, if_neg heq]; exact h⟩
  · rintro (rfl | ⟨other, h⟩)
    · exact ⟨branch, waited⟩
    · exact ⟨other, call_of_without h⟩

/-- With its last call a race loses everything that it waits for. -/
theorem Race.mem_calls_of_alone (waited : race.call branch = some c)
    (alone : race.call branch.other = none) : k ∈ race.calls ↔ k = c := by
  rw [mem_calls]
  constructor
  · rintro ⟨other, h⟩
    by_cases heq : other = branch
    · subst heq
      exact Option.some.inj (h.symm.trans waited)
    · have hother : other = branch.other := by
        cases other <;> cases branch <;> first | rfl | exact absurd rfl heq
      rw [hother, alone] at h
      cases h
  · rintro rfl
    exact ⟨branch, waited⟩

end Waiting

namespace Run

section Owned

variable {δ β σ ρ α ε : Type} {run run' : Run δ β σ ρ α ε} {who : List (RequestId × Branch)}
  {id : RequestId} {request : Request ρ α ε} {race : Race ρ α ε}

/-! ## Owners -/

/-- A request waits for a call. -/
def Awaits (run : Run δ β σ ρ α ε) (id : RequestId) (branch : Branch) (c : CallId) : Prop :=
  ∃ request, run.requests[id]? = some request ∧ request.stage.call branch = some c

/-- Every call belongs to one call of one request, which waits for it as long as it is under way. -/
structure Owned (run : Run δ β σ ρ α ε) (who : List (RequestId × Branch)) : Prop where
  length : who.length = run.calls.length
  known : ∀ owner ∈ who, owner.1 < run.requests.length
  primary : ∀ id < run.requests.length, who.count (id, .primary) = 1
  backup : ∀ id, who.count (id, .backup) ≤ 1
  /-- A timer that is still armed has not brought in a backup. -/
  unspent : ∀ (id : RequestId) (request : Request ρ α ε), run.requests[id]? = some request →
    request.isArmed = true → (id, .backup) ∉ who
  payload : ∀ (c : CallId) (id : RequestId) (branch : Branch) (call : Call ρ α ε),
    who[c]? = some (id, branch) → run.calls[c]? = some call →
      (run.requests[id]?).map (·.payload) = some call.payload
  inFlight : ∀ (c : CallId) (id : RequestId) (branch : Branch), who[c]? = some (id, branch) →
    (run.calls.isInFlight c = true ↔ run.Awaits id branch c)
  awaited : ∀ (id : RequestId) (branch : Branch) (c : CallId), run.Awaits id branch c →
    who[c]? = some (id, branch)

theorem new_owned (service : σ) (estimator : δ) (budget : β) :
    (Run.new service estimator budget : Run δ β σ ρ α ε).Owned [] :=
  { length := rfl
    known := nofun
    primary := nofun
    backup := fun _ => Nat.zero_le 1
    unspent := nofun
    payload := nofun
    inFlight := nofun
    awaited := by
      rintro id branch c ⟨request, there, -⟩
      cases there }

theorem Awaits.isRacing {id : RequestId} {branch : Branch} {c : CallId}
    (h : run.Awaits id branch c) : run.isRacing id = true := by
  obtain ⟨request, there, hcall⟩ := h
  unfold Run.isRacing Request.isRacing
  rw [there]
  cases hstage : request.stage with
  | racing race => simp [hstage]
  | settled t result =>
    rw [hstage] at hcall
    cases hcall
  | crashed t message =>
    rw [hstage] at hcall
    cases hcall
  | abandoned t =>
    rw [hstage] at hcall
    cases hcall

theorem awaits_of_racing {branch : Branch} {c : CallId} (there : run.requests[id]? = some request)
    (racing : request.stage = .racing race) :
    run.Awaits id branch c ↔ race.call branch = some c := by
  constructor
  · rintro ⟨request', there', h⟩
    obtain rfl := Option.some.inj (there.symm.trans there')
    rw [racing] at h
    exact h
  · intro h
    exact ⟨request, there, by rw [racing]; exact h⟩

theorem awaits_of_stage {stage : Stage ρ α ε} (there : run.requests[id]? = some request)
    (hrequests : run'.requests = run.requests.modify id fun r => { r with stage })
    (i : RequestId) (branch : Branch) (c : CallId) :
    run'.Awaits i branch c ↔
      if i = id then stage.call branch = some c else run.Awaits i branch c := by
  unfold Awaits
  rw [hrequests]
  by_cases hi : i = id
  · subst hi
    rw [if_pos rfl, List.getElem?_modify_eq, there]
    simp
  · rw [if_neg hi, List.getElem?_modify_ne _ _ fun h => hi h.symm]

theorem Owned.inFlight_owner (h : run.Owned who) {c : CallId}
    (hflight : run.calls.isInFlight c = true) :
    ∃ id branch, who[c]? = some (id, branch) ∧ run.Awaits id branch c := by
  have hlt : c < run.calls.length := by
    unfold Ledger.isInFlight at hflight
    cases hcall : run.calls[c]? with
    | none =>
      rw [hcall] at hflight
      cases hflight
    | some call => exact (List.getElem?_eq_some_iff.mp hcall).1
  rw [← h.length] at hlt
  obtain ⟨⟨id, branch⟩, howner⟩ : ∃ owner, who[c]? = some owner :=
    ⟨_, List.getElem?_eq_getElem hlt⟩
  exact ⟨id, branch, howner, (h.inFlight c id branch howner).mp hflight⟩

/-- A call is waited for in one place only. -/
theorem Owned.one_owner (h : run.Owned who) {i j : RequestId} {branch other : Branch} {c : CallId}
    (hi : run.Awaits i branch c) (hj : run.Awaits j other c) : i = j ∧ branch = other :=
  Prod.mk.inj (Option.some.inj ((h.awaited i branch c hi).symm.trans (h.awaited j other c hj)))

/-- A call is issued for the payload of its owner, whatever has become of the two since. -/
theorem Owned.payload_of_issues (h : run.Owned who)
    (hpayloads : run'.requests.map (·.payload) = run.requests.map (·.payload))
    (hissues : run'.calls.issues = run.calls.issues) {c : CallId} {i : RequestId} {branch : Branch}
    {call : Call ρ α ε} (howner : who[c]? = some (i, branch)) (held : run'.calls[c]? = some call) :
    (run'.requests[i]?).map (·.payload) = some call.payload := by
  have hissued := Ledger.issue_of_held held
  rw [hissues] at hissued
  obtain ⟨before, hbefore, heq⟩ := Ledger.held_of_issue hissued
  have hsame : before.asIssued.payload = call.asIssued.payload := congrArg Call.payload heq
  rw [← List.getElem?_map, hpayloads, List.getElem?_map, h.payload c i branch before howner hbefore]
  exact congrArg some hsame

/-- Whoever owns the calls of a run still owns them when a request goes to another stage and exactly
the calls that it no longer waits for have stopped. -/
theorem Owned.of_stage (h : run.Owned who) {stage : Stage ρ α ε}
    (there : run.requests[id]? = some request) (racing : request.stage = .racing race)
    (hrequests : run'.requests = run.requests.modify id fun r => { r with stage })
    (hissues : run'.calls.issues = run.calls.issues)
    (hwaits : ∀ branch c, stage.call branch = some c → race.call branch = some c)
    (hflight : ∀ c, run'.calls.isInFlight c = true ↔
      (∀ branch, race.call branch = some c → stage.call branch = some c) ∧
        run.calls.isInFlight c = true)
    (harmed : ({ request with stage } : Request ρ α ε).isArmed = true → request.isArmed = true) :
    run'.Owned who := by
  have hlength : run'.requests.length = run.requests.length := by
    rw [hrequests, List.length_modify]
  have hpayloads : run'.requests.map (·.payload) = run.requests.map (·.payload) := by
    rw [hrequests]
    exact map_modify_of_eq (f := Request.payload) (g := fun r => { r with stage }) (fun _ => rfl) ..
  have hawaits := awaits_of_stage there hrequests
  refine ⟨h.length.trans (Ledger.length_of_issues hissues).symm, ?_, ?_, h.backup, ?_, ?_, ?_, ?_⟩
  · rw [hlength]
    exact h.known
  · rw [hlength]
    exact h.primary
  · intro i request' there' armed
    rcases there_of_stage hrequests there' with ⟨rfl, before, hbefore, rfl⟩ | ⟨-, hkept⟩
    · obtain rfl := Option.some.inj (there.symm.trans hbefore)
      exact h.unspent id request there (harmed armed)
    · exact h.unspent i request' hkept armed
  · intro c i branch call howner held
    exact h.payload_of_issues hpayloads hissues howner held
  · intro c i branch howner
    rw [hflight, hawaits, h.inFlight c i branch howner]
    split
    next hi =>
      subst hi
      rw [awaits_of_racing there racing]
      constructor
      · exact fun ⟨hstage, hrace⟩ => hstage branch hrace
      · intro hstage
        have hrace := hwaits branch c hstage
        refine ⟨fun other hother => ?_, hrace⟩
        obtain ⟨-, rfl⟩ := h.one_owner ((awaits_of_racing there racing).mpr hrace)
          ((awaits_of_racing there racing).mpr hother)
        exact hstage
    next hi =>
      refine ⟨fun hboth => hboth.2, fun hwaited => ⟨fun other hother => ?_, hwaited⟩⟩
      exact absurd (h.one_owner hwaited ((awaits_of_racing there racing).mpr hother)).1 hi
  · intro i branch c hwaited
    rw [hawaits] at hwaited
    split at hwaited
    next hi =>
      subst hi
      exact h.awaited i branch c ((awaits_of_racing there racing).mpr (hwaits branch c hwaited))
    next => exact h.awaited i branch c hwaited

/-- A request that ends stops every call that it waits for, and no other. -/
theorem Owned.of_end (h : run.Owned who) {stage : Stage ρ α ε}
    (there : run.requests[id]? = some request) (racing : request.stage = .racing race)
    (hrequests : run'.requests = run.requests.modify id fun r => { r with stage })
    (ended : ({ request with stage } : Request ρ α ε).isRacing = false)
    (hissues : run'.calls.issues = run.calls.issues)
    (hflight : ∀ k, run'.calls.isInFlight k = true ↔
      k ∉ race.calls ∧ run.calls.isInFlight k = true) : run'.Owned who := by
  have hcall : ∀ branch, stage.call branch = none := by
    intro branch
    cases stage with
    | racing race => cases ended
    | settled t result => rfl
    | crashed t message => rfl
    | abandoned t => rfl
  have harmed : ({ request with stage } : Request ρ α ε).isArmed = false := by
    cases stage with
    | racing race => cases ended
    | settled t result => rfl
    | crashed t message => rfl
    | abandoned t => rfl
  refine h.of_stage there racing hrequests hissues ?_ ?_ ?_
  · intro branch c hc
    rw [hcall] at hc
    cases hc
  · intro k
    rw [hflight, Race.mem_calls]
    refine and_congr_left fun _ => ⟨fun hnone branch hk => ?_, fun hnone hk => ?_⟩
    · exact absurd ⟨branch, hk⟩ hnone
    · obtain ⟨branch, hk⟩ := hk
      have hstage := hnone branch hk
      rw [hcall] at hstage
      cases hstage
  · intro h
    rw [harmed] at h
    cases h

/-- A change that only ends calls brings in no owner. -/
theorem owned_append_nil {o : RequestId × Branch}
    (hissues : run'.calls.issues = run.calls.issues) (h : run'.Owned who) :
    run'.Owned (who ++ List.replicate (run'.calls.length - run.calls.length) o) := by
  rw [Ledger.length_of_issues hissues, Nat.sub_self, List.replicate_zero, List.append_nil]
  exact h

/-- A change that issues a call brings in one. -/
theorem owned_append_one {o : RequestId × Branch}
    (hlength : run'.calls.length = run.calls.length + 1) (h : run'.Owned (who ++ [o])) :
    run'.Owned (who ++ List.replicate (run'.calls.length - run.calls.length) o) := by
  rw [hlength, Nat.add_sub_cancel_left]
  exact h

theorem count_concat_of_ne {o o' : RequestId × Branch} (hne : o ≠ o') :
    (who ++ [o]).count o' = who.count o' := by
  have hnone : [o].count o' = 0 := by
    rw [List.count_eq_zero, List.mem_singleton]
    exact fun heq => hne heq.symm
  rw [List.count_append, hnone, Nat.add_zero]

/-- A call that is issued for a request is its own, and no other call changes hands. -/
theorem Owned.of_issue (h : run.Owned who) {owner : RequestId × Branch} {call : Call ρ α ε}
    (hcalls : run'.calls = run.calls ++ [call]) (running : call.isRunning = true)
    (hnew : owner ∉ who)
    (hpayload : (run'.requests[owner.1]?).map (·.payload) = some call.payload)
    (hle : run.requests.length ≤ run'.requests.length)
    (hkept : ∀ id < run.requests.length,
      (run'.requests[id]?).map (·.payload) = (run.requests[id]?).map (·.payload))
    (hprimary : ∀ id < run'.requests.length, id < run.requests.length ∨ owner = (id, .primary))
    (harmed : ∀ (id : RequestId) (request : Request ρ α ε), run'.requests[id]? = some request →
      request.isArmed = true → owner ≠ (id, .backup) ∧ (id, .backup) ∉ who)
    (hawaits : ∀ id branch c, run'.Awaits id branch c ↔
      run.Awaits id branch c ∨ (id, branch) = owner ∧ c = run.calls.length) :
    run'.Owned (who ++ [owner]) := by
  have hone : (who ++ [owner]).count owner = 1 := by
    rw [List.count_append, List.count_eq_zero.mpr hnew, List.count_singleton_self]
  have hknown : owner.1 < run'.requests.length := by
    obtain ⟨request, there, -⟩ := Option.map_eq_some_iff.mp hpayload
    exact (List.getElem?_eq_some_iff.mp there).1
  -- a call of the longer ledger is one of the old ones, or the one that was issued
  have hcases : ∀ (c : CallId) (o : RequestId × Branch), (who ++ [owner])[c]? = some o →
      who[c]? = some o ∧ c < run.calls.length ∨ c = run.calls.length ∧ o = owner := by
    intro c o ho
    rw [← h.length]
    exact getElem?_concat_cases ho
  refine ⟨?_, ?_, ?_, ?_, ?_, ?_, ?_, ?_⟩
  · rw [hcalls, List.length_append, List.length_append, h.length]
    rfl
  · intro o ho
    rcases List.mem_append.mp ho with hold | hone
    · exact Nat.lt_of_lt_of_le (h.known o hold) hle
    · obtain rfl := List.mem_singleton.mp hone
      exact hknown
  · intro id hid
    by_cases heq : owner = (id, .primary)
    · rw [← heq]
      exact hone
    · rw [count_concat_of_ne heq]
      exact h.primary id ((hprimary id hid).resolve_right heq)
  · intro id
    by_cases heq : owner = (id, .backup)
    · rw [← heq]
      exact Nat.le_of_eq hone
    · rw [count_concat_of_ne heq]
      exact h.backup id
  · intro id request there armed
    obtain ⟨hne, hnot⟩ := harmed id request there armed
    rw [List.mem_append, List.mem_singleton]
    rintro (hold | hone)
    · exact hnot hold
    · exact hne hone.symm
  · intro c id branch held howner hheld
    rw [hcalls] at hheld
    rcases hcases c _ howner with ⟨hold, hlt⟩ | ⟨rfl, rfl⟩
    · rw [List.getElem?_append_left hlt] at hheld
      rw [hkept id (h.known _ (List.mem_of_getElem? hold))]
      exact h.payload c id branch held hold hheld
    · rw [List.getElem?_concat_length] at hheld
      obtain rfl := Option.some.inj hheld
      exact hpayload
  · intro c id branch howner
    rw [hcalls, Ledger.isInFlight_append running, hawaits]
    rcases hcases c _ howner with ⟨hold, hlt⟩ | ⟨rfl, rfl⟩
    · have hne : c ≠ run.calls.length := Nat.ne_of_lt hlt
      rw [h.inFlight c id branch hold]
      simp [hne]
    · simp
  · intro id branch c hwaited
    rcases (hawaits id branch c).mp hwaited with hold | ⟨rfl, rfl⟩
    · have howner := h.awaited id branch c hold
      rw [List.getElem?_append_left (List.getElem?_eq_some_iff.mp howner).1]
      exact howner
    · rw [← h.length, List.getElem?_concat_length]

/-- All races of a run are sound, and its calls have owners. -/
structure Intact (run : Run δ β σ ρ α ε) : Prop where
  sound : run.Sound
  owned : ∃ who, run.Owned who

theorem new_intact (service : σ) (estimator : δ) (budget : β) :
    (Run.new service estimator budget : Run δ β σ ρ α ε).Intact :=
  ⟨new_sound service estimator budget, [], new_owned service estimator budget⟩

end Owned

section Change

variable {δ β σ ρ α ε : Type} [DelayEstimator δ] [AdmissionBudget β] {svc : Service σ ρ α ε}
  {run run' : Run δ β σ ρ α ε} {subject : Option RequestId} {who : List (RequestId × Branch)}

/-! ## Who issues calls -/

/-- For whom a call is issued in the course of a move: for the request that the move concerns, as its
backup, or for the one that arrives with it, as its primary. -/
def issuer (run : Run δ β σ ρ α ε) (subject : Option RequestId) : RequestId × Branch :=
  subject.elim (run.requests.length, .primary) (·, .backup)

/-- The owners of the calls that some moves add to the ledger. -/
def owners (svc : Service σ ρ α ε) : Run δ β σ ρ α ε → List (Move ρ) → List (RequestId × Branch)
  | _, [] => []
  | run, m :: moves =>
    List.replicate ((run.apply svc m).calls.length - run.calls.length) (run.issuer m.subject) ++
      owners svc (run.apply svc m) moves

/-- A new request waits for its primary. -/
theorem awaits_start (svc : Service σ ρ α ε) (run : Run δ β σ ρ α ε) (payload : ρ) (inPlace : Bool)
    (id : RequestId) (branch : Branch) (c : CallId) :
    (run.start svc payload inPlace).Awaits id branch c ↔
      run.Awaits id branch c ∨
        (id, branch) = (run.requests.length, .primary) ∧ c = run.calls.length := by
  obtain ⟨request, hrequests, hstage⟩ :
      ∃ request, (run.start svc payload inPlace).requests = run.requests ++ [request] ∧
        request.stage = .racing (.start payload run.calls.length
          (DelayEstimator.currentDelay run.estimator).isSome) := ⟨_, rfl, rfl⟩
  unfold Awaits
  rw [hrequests]
  constructor
  · rintro ⟨r, there, hcall⟩
    rcases getElem?_concat_cases there with ⟨hthere, -⟩ | ⟨rfl, rfl⟩
    · exact Or.inl ⟨r, hthere, hcall⟩
    · rw [hstage] at hcall
      cases branch with
      | primary => exact Or.inr ⟨rfl, (Option.some.inj hcall).symm⟩
      | backup => cases hcall
  · rintro (⟨r, there, hcall⟩ | ⟨hsame, rfl⟩)
    · refine ⟨r, ?_, hcall⟩
      rw [List.getElem?_append_left (List.getElem?_eq_some_iff.mp there).1]
      exact there
    · obtain ⟨rfl, rfl⟩ := Prod.mk.inj hsame
      exact ⟨request, List.getElem?_concat_length, by rw [hstage]; rfl⟩

theorem Owned.start (h : run.Owned who) (svc : Service σ ρ α ε) (payload : ρ)
    (inPlace : Bool) :
    (run.start svc payload inPlace).Owned (who ++ [(run.requests.length, .primary)]) := by
  have hnew : ∀ branch, (run.requests.length, branch) ∉ who := fun branch hmem =>
    absurd (h.known _ hmem) (Nat.lt_irrefl _)
  obtain ⟨request, hrequests, hpayload⟩ :
      ∃ request, (run.start svc payload inPlace).requests = run.requests ++ [request] ∧
        request.payload = payload := ⟨_, rfl, rfl⟩
  let call : Call ρ α ε := .start run.now payload (svc.issue run.service payload).1
  have hcalls : (run.start svc payload inPlace).calls = run.calls ++ [call] := rfl
  refine h.of_issue hcalls rfl (hnew .primary) ?_ ?_ ?_ ?_ ?_ (awaits_start svc run payload inPlace)
  · rw [hrequests, List.getElem?_concat_length]
    exact congrArg some hpayload
  · rw [hrequests, List.length_append]
    exact Nat.le_add_right ..
  · intro id hid
    rw [hrequests, List.getElem?_append_left hid]
  · intro id hid
    rw [hrequests, List.length_append, List.length_singleton] at hid
    rcases Nat.lt_succ_iff_lt_or_eq.mp hid with hlt | rfl
    · exact Or.inl hlt
    · exact Or.inr rfl
  · intro id r there armed
    rw [hrequests] at there
    refine ⟨nofun, ?_⟩
    rcases getElem?_concat_cases there with ⟨hthere, -⟩ | ⟨rfl, -⟩
    · exact h.unspent id r hthere armed
    · exact hnew .backup

/-- A request that is hedged waits for its backup too. -/
theorem awaits_hedge (svc : Service σ ρ α ε) {id : RequestId} {request : Request ρ α ε}
    {race : Race ρ α ε} (sound : race.Sound request.payload)
    (there : run.requests[id]? = some request) (racing : request.stage = .racing race)
    (armed : race.timerArmed = true) (i : RequestId) (branch : Branch) (c : CallId) :
    (run.hedge svc id request race).Awaits i branch c ↔
      run.Awaits i branch c ∨ (i, branch) = (id, .backup) ∧ c = run.calls.length := by
  let stage : Stage ρ α ε :=
    .racing { race with timerArmed := false, spare := none, backup := some run.calls.length }
  have hrequests : (run.hedge svc id request race).requests =
      run.requests.modify id fun r => { r with stage } := rfl
  rw [awaits_of_stage there hrequests i branch c]
  by_cases hi : i = id
  · rw [if_pos hi, hi, awaits_of_racing there racing]
    cases branch with
    | primary =>
      constructor
      · exact Or.inl
      · rintro (hcall | ⟨hsame, -⟩)
        · exact hcall
        · cases (Prod.mk.inj hsame).2
    | backup =>
      -- an armed race has no backup before
      have hnone : race.call .backup = none := sound.backup_of_armed armed
      rw [hnone]
      constructor
      · exact fun hcall => Or.inr ⟨rfl, (Option.some.inj hcall).symm⟩
      · rintro (hcall | ⟨-, rfl⟩)
        · cases hcall
        · rfl
  · rw [if_neg hi]
    exact ⟨Or.inl, fun hcase => hcase.resolve_right fun heq => hi (Prod.mk.inj heq.1).1⟩

theorem Owned.hedge (h : run.Owned who) (svc : Service σ ρ α ε) {id : RequestId}
    {request : Request ρ α ε} {race : Race ρ α ε} (sound : race.Sound request.payload)
    (there : run.requests[id]? = some request) (racing : request.stage = .racing race)
    (armed : race.timerArmed = true) :
    (run.hedge svc id request race).Owned (who ++ [(id, .backup)]) := by
  have hlength : (run.hedge svc id request race).requests.length = run.requests.length :=
    List.length_modify ..
  have hthere : (run.hedge svc id request race).requests[id]? = some { request with
      stage := .racing { race with
        timerArmed := false, spare := none, backup := some run.calls.length } } :=
    getElem?_of_stage there rfl
  have hother : ∀ i, i ≠ id →
      (run.hedge svc id request race).requests[i]? = run.requests[i]? := fun i hi =>
    List.getElem?_modify_ne _ _ fun heq => hi heq.symm
  have hnew : (id, .backup) ∉ who :=
    h.unspent id request there ((Request.isArmed_of_racing racing).trans armed)
  let call : Call ρ α ε := .start run.now request.payload (svc.issue run.service request.payload).1
  have hcalls : (run.hedge svc id request race).calls = run.calls ++ [call] := rfl
  refine h.of_issue hcalls rfl hnew ?_ (Nat.le_of_eq hlength.symm) ?_ ?_ ?_
    (awaits_hedge svc sound there racing armed)
  · rw [hthere]
    rfl
  · intro i _
    by_cases hi : i = id
    · rw [hi, hthere, there]
      rfl
    · rw [hother i hi]
  · intro i hi
    rw [hlength] at hi
    exact Or.inl hi
  · intro i r there' armed'
    by_cases hi : i = id
    · -- the timer has just gone off
      rw [hi, hthere] at there'
      obtain rfl := Option.some.inj there'
      cases armed'
    · rw [hother i hi] at there'
      exact ⟨fun heq => hi (Prod.mk.inj heq).1.symm, h.unspent i r there' armed'⟩

/-- **Every call keeps its owner through every change**, and those that are issued get one. -/
theorem Change.owned (hc : Change svc run subject run') (hs : run.Sound) (h : run.Owned who) :
    run'.Owned (who ++
      List.replicate (run'.calls.length - run.calls.length) (run.issuer subject)) := by
  cases hc with
  | started payload inPlace =>
    exact owned_append_one (Ledger.length_issue ..) (h.start svc payload inPlace)
  | wound _ t =>
    exact owned_append_nil rfl
      ⟨h.length, h.known, h.primary, h.backup, h.unspent, h.payload, h.inFlight, h.awaited⟩
  | @hedged t id request race there racing armed granted =>
    have hwound : (run.wind t).Owned who :=
      ⟨h.length, h.known, h.primary, h.backup, h.unspent, h.payload, h.inFlight, h.awaited⟩
    exact owned_append_one (Ledger.length_issue ..)
      (hwound.hedge svc (hs id request race there racing) there racing armed)
  | @denied _ id request race there racing armed refused =>
    refine owned_append_nil rfl (h.of_stage there racing rfl rfl ?_ ?_ nofun)
    · exact fun branch c hcall => by cases branch <;> exact hcall
    · intro c
      refine ⟨fun hflight => ⟨fun branch hcall => ?_, hflight⟩, fun hboth => hboth.2⟩
      cases branch <;> exact hcall
  | @answered _ id request race branch c _ _ there racing waited held said =>
    have hissues := (Ledger.issues_foldl_drop (race.without branch).calls
      (Ledger.finish run.calls c)).trans (Ledger.issues_finish ..)
    refine owned_append_nil hissues (h.of_end there racing (requests_answer ..) rfl hissues ?_)
    intro k
    refine (Ledger.isInFlight_foldl_drop ..).trans ?_
    rw [Ledger.isInFlight_finish, Race.mem_calls_of_call waited, not_or, and_left_comm, and_assoc]
  | @crashed _ id request race branch c _ _ there racing waited held said =>
    have hissues := (Ledger.issues_foldl_drop race.calls (Ledger.finish run.calls c)).trans
      (Ledger.issues_finish ..)
    rw [dropCalls_eq]
    refine owned_append_nil hissues (h.of_end there racing rfl rfl hissues ?_)
    intro k
    refine (Ledger.isInFlight_foldl_drop ..).trans ?_
    rw [Ledger.isInFlight_finish]
    -- the call that broke down is one of those that the race waits for
    refine ⟨fun hboth => ⟨hboth.1, hboth.2.2⟩, fun hboth => ⟨hboth.1, ?_, hboth.2⟩⟩
    rintro rfl
    exact hboth.1 (Race.mem_calls.mpr ⟨branch, waited⟩)
  | @bereft id request race branch c _ there racing waited left =>
    have hissues := Ledger.issues_foldl_drop [c] run.calls
    refine owned_append_nil hissues (h.of_stage there racing rfl hissues ?_ ?_ ?_)
    · exact fun other k => Race.call_of_without
    · exact fun k => (Ledger.isInFlight_drop ..).trans
        (and_congr_left fun _ => Race.ne_iff_without waited)
    · intro armed
      rw [Request.isArmed_of_racing racing]
      cases branch <;> exact armed
  | @lost id request race branch c there racing waited alone =>
    have hissues := Ledger.issues_foldl_drop [c] run.calls
    refine owned_append_nil hissues (h.of_end there racing rfl rfl hissues ?_)
    intro k
    rw [Race.mem_calls_of_alone waited alone]
    exact Ledger.isInFlight_drop ..
  | @abandoned id request race there racing =>
    have hissues := Ledger.issues_foldl_drop race.calls run.calls
    rw [dropCalls_eq]
    refine owned_append_nil hissues (h.of_end there racing rfl rfl hissues fun k => ?_)
    exact Ledger.isInFlight_foldl_drop ..

theorem owned_play {moves : List (Move ρ)} (hmoves : Along svc Possible run moves)
    (hs : run.Sound) (h : run.Owned who) :
    (run.play svc moves).Owned (who ++ owners svc run moves) := by
  induction moves generalizing run who with
  | nil =>
    rw [owners, List.append_nil]
    exact h
  | cons m rest ih =>
    have hc : Change svc run m.subject (run.apply svc m) := apply_change hs hmoves.1
    have hrest := ih hmoves.2 (hc.sound hs) (hc.owned hs h)
    rw [List.append_assoc] at hrest
    exact hrest

theorem Reaches.intact (hr : Reaches svc run run') (h : run.Intact) : run'.Intact := by
  obtain ⟨who, howned⟩ := h.owned
  refine ⟨hr.sound h.sound, ?_⟩
  obtain ⟨moves, hmoves, rfl⟩ := hr
  exact ⟨_, owned_play hmoves h.sound howned⟩

/-! ## What the service has seen -/

/-- Either nothing is asked of the service, or one call is entered as the service plans it. -/
theorem Change.asked (hc : Change svc run subject run') :
    run'.calls.issues = run.calls.issues ∧ run'.service = run.service ∨
      ∃ now payload, run'.calls.issues =
          run.calls.issues ++ [.start now payload (svc.issue run.service payload).1] ∧
        run'.service = (svc.issue run.service payload).2 := by
  cases hc with
  | started payload inPlace => exact Or.inr ⟨run.now, payload, Ledger.issues_issue .., rfl⟩
  | wound _ t => exact Or.inl ⟨rfl, rfl⟩
  | @hedged t _ request _ there racing =>
    exact Or.inr ⟨max run.now t, request.payload, Ledger.issues_issue .., rfl⟩
  | denied there racing => exact Or.inl ⟨rfl, rfl⟩
  | @answered _ _ _ _ branch _ _ _ there racing waited held said =>
    refine Or.inl ⟨(Ledger.issues_foldl_drop ..).trans (Ledger.issues_finish ..), ?_⟩
    cases branch <;> rfl
  | crashed there racing =>
    rw [dropCalls_eq]
    exact Or.inl ⟨(Ledger.issues_foldl_drop ..).trans (Ledger.issues_finish ..), rfl⟩
  | @bereft _ _ _ _ c => exact Or.inl ⟨Ledger.issues_foldl_drop [c] _, rfl⟩
  | @lost _ _ _ _ c => exact Or.inl ⟨Ledger.issues_foldl_drop [c] _, rfl⟩
  | abandoned there racing =>
    rw [dropCalls_eq]
    exact Or.inl ⟨Ledger.issues_foldl_drop .., rfl⟩

/-- A service in state `s` after some lookups. -/
def served (svc : Service σ ρ α ε) (s : σ) (payloads : List ρ) : σ :=
  payloads.foldl (fun s payload => (svc.issue s payload).2) s

/-- The ledger holds the calls that the service was asked for since it was in state `s`, all of them
and in this order. -/
structure Served (svc : Service σ ρ α ε) (s : σ) (run : Run δ β σ ρ α ε) : Prop where
  state : run.service = served svc s (run.calls.issues.map (·.payload))
  plan : ∀ (c : CallId) (call : Call ρ α ε), run.calls.issues[c]? = some call →
    call = .start call.issued call.payload
      (svc.issue (served svc s ((run.calls.issues.take c).map (·.payload))) call.payload).1

theorem Change.served {s : σ} (hc : Change svc run subject run') (h : run.Served svc s) :
    run'.Served svc s := by
  rcases hc.asked with ⟨hissues, hservice⟩ | ⟨now, payload, hissues, hservice⟩
  · refine ⟨?_, ?_⟩
    · rw [hissues, hservice]
      exact h.state
    · rw [hissues]
      exact h.plan
  · refine ⟨?_, ?_⟩
    · rw [hissues, hservice, List.map_append, Run.served, List.foldl_append]
      exact congrArg (fun s => (svc.issue s payload).2) h.state
    · intro c call held
      rw [hissues] at held ⊢
      rcases Nat.lt_or_ge c run.calls.issues.length with hlt | hge
      · rw [List.getElem?_append_left hlt] at held
        rw [List.take_append_of_le_length (Nat.le_of_lt hlt)]
        exact h.plan c call held
      · have hlast : c = run.calls.issues.length := by
          have hlt := (List.getElem?_eq_some_iff.mp held).1
          rw [List.length_append, List.length_singleton] at hlt
          exact Nat.le_antisymm (Nat.lt_succ_iff.mp hlt) hge
        subst hlast
        rw [List.getElem?_concat_length] at held
        obtain rfl := Option.some.inj held
        rw [List.take_left, ← h.state]
        rfl

/-! ## Neither leaked nor made up -/

/-- Where all the calls of a run come from and for whom those are that are under way, with the
service in state `s` at first and the owners of the calls as given. -/
structure Traced (svc : Service σ ρ α ε) (s : σ) (run : Run δ β σ ρ α ε)
    (who : List (RequestId × Branch)) : Prop where
  served : run.Served svc s
  issued : run.calls.length = run.counters.requests + run.counters.backupsIssued
  received : run.requests.length = run.counters.requests
  attributed : who.length = run.calls.length
  primary : ∀ id < run.counters.requests, who.count (id, .primary) = 1
  backup : ∀ id < run.counters.requests, who.count (id, .backup) ≤ 1
  /-- A call is for the payload of its request. -/
  payload : ∀ (c : CallId) (id : RequestId) (branch : Branch), who[c]? = some (id, branch) →
    ∃ call request, run.calls[c]? = some call ∧ run.requests[id]? = some request ∧
      call.payload = request.payload
  /-- A call under way belongs to exactly one request, which is racing and waits for it. -/
  inFlight : ∀ c, run.calls.isInFlight c = true →
    ∃ id branch, who[c]? = some (id, branch) ∧ run.isRacing id = true ∧ run.Awaits id branch c ∧
      ∀ other branch', run.Awaits other branch' c → other = id ∧ branch' = branch
  /-- What a request waits for is under way. -/
  awaited : ∀ id branch c, run.Awaits id branch c → run.calls.isInFlight c = true
  /-- When a request has ended, in whatever way, none of its calls is under way. -/
  ended : ∀ id, run.isRacing id = false → ∀ c branch, who[c]? = some (id, branch) →
    run.calls.isInFlight c = false
  idle : (∀ id, run.isRacing id = false) → run.calls.inFlight = []

/-- **Calls are neither leaked nor made up**, whatever happens to the requests of a run and in
whatever order. -/
theorem calls_owned {s : σ} {estimator : δ} {budget : β} {moves : List (Move ρ)}
    (hmoves : Along svc Possible (.new s estimator budget) moves) :
    Traced svc s (play svc (.new s estimator budget) moves)
      (owners svc (.new s estimator budget : Run δ β σ ρ α ε) moves) := by
  have hnew : (Run.new s estimator budget : Run δ β σ ρ α ε).Sound := new_sound s estimator budget
  have hreach : Reaches svc (.new s estimator budget) (play svc (.new s estimator budget) moves) :=
    ⟨moves, hmoves, rfl⟩
  have h := owned_play hmoves hnew (new_owned s estimator budget)
  rw [List.nil_append] at h
  generalize play svc (.new s estimator budget) moves = run at h hreach ⊢
  generalize owners svc (.new s estimator budget : Run δ β σ ρ α ε) moves = who at h ⊢
  have hhedges : run.Hedges :=
    hreach.invariant_of_change hnew (fun _ _ _ hc => hc.toll.hedges) (new_hedges ..)
  have hcounted : run.Counted estimator := hreach.counted
  have hserved : run.Served svc s :=
    hreach.invariant_of_change hnew (fun _ _ _ hc => hc.served) ⟨rfl, nofun⟩
  have hended : ∀ id, run.isRacing id = false → ∀ c branch, who[c]? = some (id, branch) →
      run.calls.isInFlight c = false := by
    intro id hid c branch howner
    cases hflight : run.calls.isInFlight c with
    | false => rfl
    | true =>
      have hracing := ((h.inFlight c id branch howner).mp hflight).isRacing
      rw [hid] at hracing
      cases hracing
  refine
    { served := hserved
      issued := hhedges.calls
      received := hcounted.received.symm
      attributed := h.length
      primary := fun id hid => h.primary id (hcounted.received ▸ hid)
      backup := fun id _ => h.backup id
      payload := ?_
      inFlight := ?_
      awaited := fun id branch c hw => (h.inFlight c id branch (h.awaited id branch c hw)).mpr hw
      ended := hended
      idle := ?_ }
  · intro c id branch howner
    have hlt := (List.getElem?_eq_some_iff.mp howner).1
    rw [h.length] at hlt
    have hcall := List.getElem?_eq_getElem hlt
    obtain ⟨request, there, hpayload⟩ :=
      Option.map_eq_some_iff.mp (h.payload c id branch _ howner hcall)
    exact ⟨_, request, hcall, there, hpayload.symm⟩
  · intro c hflight
    obtain ⟨id, branch, howner, hwaits⟩ := h.inFlight_owner hflight
    refine ⟨id, branch, howner, hwaits.isRacing, hwaits, fun other branch' hother => ?_⟩
    have hsame := h.awaited other branch' c hother
    exact Prod.mk.inj (Option.some.inj (hsame.symm.trans howner))
  · intro hall
    unfold Ledger.inFlight
    rw [List.filter_eq_nil_iff]
    intro call hmem hrunning
    obtain ⟨c, hc⟩ := List.mem_iff_getElem?.mp hmem
    have hflight : run.calls.isInFlight c = true := by
      unfold Ledger.isInFlight
      rw [hc]
      exact hrunning
    obtain ⟨id, branch, howner, hwaits⟩ := h.inFlight_owner hflight
    have hnot := hended id (hall id) c branch howner
    rw [hflight] at hnot
    cases hnot

/-- The primary of the first request breaks down while its backup is under way, the second request is
given up, and the third still waits for both of its calls. -/
theorem calls_owned_of_script :
    let script : Script := ⟨[⟨30, .crash, none⟩, ⟨90, .value, none⟩], ⟨60, .value, none⟩⟩
    let new : Run ConstantEstimator UnlimitedBudget Script String String String :=
      .new script ⟨some (.ofMillis 10)⟩ ⟨⟩
    let moves : List (Move String) :=
      [.start "a" true, .start "b" false, .fire ⟨10, 0, .timer, 0⟩, .wind 20, .start "c" false,
        .fire ⟨30, 0, .call .primary, 6⟩, .fire ⟨30, 2, .timer, 1⟩, .abandon 1]
    Along Script.service Possible new moves ∧
      Traced Script.service script (new.play Script.service moves)
        [(0, .primary), (1, .primary), (0, .backup), (2, .primary), (2, .backup)] ∧
      (new.play Script.service moves).calls.map (·.isRunning) = [false, false, false, true, true] := by
  intro script new moves
  have hmoves : Along Script.service Possible new moves := by decide
  have howners : owners Script.service new moves =
      [(0, .primary), (1, .primary), (0, .backup), (2, .primary), (2, .backup)] := by decide
  have htraced := calls_owned hmoves
  rw [howners] at htraced
  exact ⟨hmoves, htraced, by decide⟩

end Change

end Run

end Hedging
