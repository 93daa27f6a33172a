import Hedging.Proofs.Run.History

/-!
# What is done to the budget

All requests share one budget, so what it holds when a timer goes off depends on everything that has
come before. What can be said of it at any time is what has been done to it. A `BudgetUse` is one
operation on behalf of one request, and `Undergoes` says that some uses, and nothing besides, have
taken a budget from one state to another, and that every answer was given by the budget as it was
then.

> `undergoes_play`: the budget is funded by every request that arrives and asked by every timer that
> goes off, once each, and nothing else is done to it in the whole of a run.
> `usesAlong_own`: it is asked for a request exactly as often as the observer of the request sees.
> `charged_play`: what is done to the budget from the arrival of a request on.
-/

namespace Hedging

/-- One operation on the budget. -/
inductive BudgetUse
  /-- The request has arrived, and the budget is funded. -/
  | funded (request : RequestId)
  /-- The timer of the request has gone off, and the budget is asked for a backup. -/
  | asked (request : RequestId) (instant : Instant) (granted : Bool)
deriving DecidableEq, Repr

/-- The request for which it is done. -/
def BudgetUse.request : BudgetUse → RequestId
  | .funded request | .asked request _ _ => request

/-- The uses by which a request has asked the budget for a backup. -/
def BudgetUse.demands (id : RequestId) (asked : List (Instant × Bool)) : List BudgetUse :=
  asked.map fun ask => .asked id ask.1 ask.2

section Budget

variable {β : Type} [AdmissionBudget β]

/-- Some uses, one after another, take a budget from one state to another. -/
def Undergoes : β → List BudgetUse → β → Prop
  | b, [], left => left = b
  | b, .funded _ :: uses, left => Undergoes (AdmissionBudget.fund b) uses left
  | b, .asked _ _ granted :: uses, left =>
    (AdmissionBudget.tryConsume b).1 = granted ∧ Undergoes (AdmissionBudget.tryConsume b).2 uses left

theorem Undergoes.append {b mid left : β} {uses later : List BudgetUse}
    (h : Undergoes b uses mid) (hlater : Undergoes mid later left) :
    Undergoes b (uses ++ later) left := by
  induction uses generalizing b with
  | nil =>
    obtain rfl : mid = b := h
    exact hlater
  | cons use rest ih =>
    cases use with
    | funded request => exact ih h
    | asked request instant granted => exact ⟨h.1, ih h.2⟩

end Budget

namespace Run

variable {δ β σ ρ α ε : Type} [DelayEstimator δ] [AdmissionBudget β] {svc : Service σ ρ α ε}
  {run : Run δ β σ ρ α ε} {id : RequestId} {request : Request ρ α ε} {m : Move ρ}
  {moves : List (Move ρ)}

/-! ## The uses of a run -/

/-- What a move does to the budget. -/
def uses (run : Run δ β σ ρ α ε) : Move ρ → List BudgetUse
  | .start .. => [.funded run.requests.length]
  | .fire ⟨t, id, .timer, _⟩ =>
    [.asked id (max run.now t) (AdmissionBudget.tryConsume run.budget).1]
  | _ => []

/-- What some moves do to the budget. -/
def usesAlong (svc : Service σ ρ α ε) : Run δ β σ ρ α ε → List (Move ρ) → List BudgetUse
  | _, [] => []
  | run, m :: moves => run.uses m ++ usesAlong svc (run.apply svc m) moves

theorem undergoes_apply (hs : run.Sound) (hm : run.Possible m) :
    Undergoes run.budget (run.uses m) (run.apply svc m).budget := by
  rw [budget_apply hs hm]
  cases m with
  | start payload inPlace => rfl
  | fire due =>
    obtain ⟨t, id, source, turn⟩ := due
    cases source with
    | timer => exact ⟨rfl, rfl⟩
    | call branch => rfl
  | abandon id => rfl
  | cut id branch => rfl
  | wind t => rfl

/-- **The budget is funded by every request that arrives and asked by every timer that goes off**,
once each, and nothing else is done to it in the whole of a run. -/
theorem undergoes_play (hs : run.Sound) (hmoves : Along svc Possible run moves) :
    Undergoes run.budget (run.usesAlong svc moves) (run.play svc moves).budget := by
  induction moves generalizing run with
  | nil => rfl
  | cons m rest ih =>
    have hc : Change svc run m.subject (run.apply svc m) := apply_change hs hmoves.1
    exact (undergoes_apply hs hmoves.1).append (ih (hc.sound hs) hmoves.2)

/-! ## Those of one request -/

/-- A move asks the budget for a request that is there exactly if the observer of the request sees
it. -/
theorem uses_own (there : run.requests[id]? = some request) (svc : Service σ ρ α ε) (m : Move ρ) :
    (run.uses m).filter (·.request == id) = BudgetUse.demands id (observe svc id run m).asked := by
  unfold observe
  cases m with
  | start payload inPlace =>
    -- the request that arrives is another one
    have hne : run.requests.length ≠ id :=
      Nat.ne_of_gt (List.getElem?_eq_some_iff.mp there).1
    exact List.filter_cons_of_neg (by simpa [BudgetUse.request] using hne)
  | fire due =>
    obtain ⟨t, i, source, turn⟩ := due
    cases source with
    | timer =>
      by_cases hid : i = id
      · subst hid
        simp [uses, asks, BudgetUse.demands, BudgetUse.request, Move.subject]
      · simp [uses, BudgetUse.demands, BudgetUse.request, Move.subject, hid]
    | call branch => split <;> rfl
  | abandon i => split <;> rfl
  | cut i branch => split <;> rfl
  | wind t => rfl

theorem usesAlong_own (hs : run.Sound) (there : run.requests[id]? = some request)
    (hmoves : Along svc Possible run moves) :
    (run.usesAlong svc moves).filter (·.request == id) =
      BudgetUse.demands id (run.history svc id moves).asked := by
  induction moves generalizing run request with
  | nil => rfl
  | cons m rest ih =>
    have hc : Change svc run m.subject (run.apply svc m) := apply_change hs hmoves.1
    obtain ⟨stage, there'⟩ := hc.request there
    calc (run.uses m ++ (run.apply svc m).usesAlong svc rest).filter (·.request == id)
        = BudgetUse.demands id (observe svc id run m).asked ++
            BudgetUse.demands id ((run.apply svc m).history svc id rest).asked := by
          rw [List.filter_append, uses_own there svc, ih (hc.sound hs) there' hmoves.2]
      _ = BudgetUse.demands id (run.history svc id (m :: rest)).asked := List.map_append.symm

/-- What has been done to the budget since a request found it, and what of it for the request. -/
structure Charged (id : RequestId) (found : β) (uses : List BudgetUse) (left : β)
    (seen : History ρ α ε) : Prop where
  /-- Nothing else has been done to it, on behalf of whomever. -/
  undergone : Undergoes found uses left
  /-- The request has funded it once. It has asked it when its observer has seen it do so, and at no
  other time. -/
  own : uses.filter (·.request == id) = .funded id :: BudgetUse.demands id seen.asked

theorem charged_play {before : Run δ β σ ρ α ε} (hs : before.Sound) {payload : ρ} {inPlace : Bool}
    (hmoves : Along svc Possible (before.start svc payload inPlace) moves) :
    Charged before.requests.length before.budget
      (before.usesAlong svc (.start payload inPlace :: moves))
      ((before.start svc payload inPlace).play svc moves).budget
      ((before.start svc payload inPlace).history svc before.requests.length moves) where
  undergone := by
    have hall : Along svc Possible before (.start payload inPlace :: moves) := ⟨trivial, hmoves⟩
    exact undergoes_play hs hall
  own := by
    have hthere : (before.start svc payload inPlace).requests[before.requests.length]? = some _ :=
      List.getElem?_concat_length
    have hlater := usesAlong_own (hs.start svc payload inPlace) hthere hmoves
    show List.filter _ (_ :: _) = _
    rw [List.filter_cons_of_pos (by simp [BudgetUse.request])]
    exact congrArg _ hlater

end Run

end Hedging
