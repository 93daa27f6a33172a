import Hedging.Call

/-!
# Calls as they stand

A call ends in one of two ways, and whichever comes first is final: its time is up, or somebody has
it aborted. So it is enough to know when a call was issued and with what plan, and when it was asked
to abort. `Ledger.standing` makes a whole ledger from these.

> `Ledger.finishDue_standing`, `Ledger.drop_standing`, `Ledger.finishDue_issue_standing`: it is still
> made like this when time passes, when a call is aborted, and when one is issued.
> `Ledger.droppedCount_standing`: each call that was cut counts once among those dropped.
-/

namespace Hedging

/-! ## Requests to abort -/

/-- How it came that a call was to be aborted. -/
inductive AbortKind
  | cancelled
  | dropped
  | replaced
deriving DecidableEq, Repr

/-- A request to abort a call. -/
structure Abort where
  id : CallId
  instant : Instant
  kind : AbortKind
deriving DecidableEq, Repr

section Standing

variable {ρ α ε : Type} {call : Call ρ α ε} {issued : List (Call ρ α ε)} {aborts : List Abort}
  {id : CallId} {now now' : Instant}

/-- Somebody wanted the call with this number aborted before it had finished. -/
def Call.Cut (call : Call ρ α ε) (aborts : List Abort) (id : CallId) : Prop :=
  ∃ abort ∈ aborts, abort.id = id ∧ abort.instant < call.due

instance (call : Call ρ α ε) (aborts : List Abort) (id : CallId) : Decidable (call.Cut aborts id) :=
  inferInstanceAs (Decidable (∃ abort ∈ aborts, abort.id = id ∧ abort.instant < call.due))

theorem Call.cut_concat_iff {abort : Abort} :
    call.Cut (aborts ++ [abort]) id ↔
      call.Cut aborts id ∨ abort.id = id ∧ abort.instant < call.due := by
  constructor
  · rintro ⟨other, hmem, hother⟩
    rcases List.mem_append.mp hmem with hold | hnew
    · exact .inl ⟨other, hold, hother⟩
    · obtain rfl := List.mem_singleton.mp hnew
      exact .inr hother
  · rintro (⟨other, hold, hother⟩ | hnew)
    · exact ⟨other, List.mem_append_left _ hold, hother⟩
    · exact ⟨abort, List.mem_append_right _ (List.mem_singleton.mpr rfl), hnew⟩

/-- The call with this number as it stands at an instant. -/
def Call.standing (aborts : List Abort) (now : Instant) (id : CallId) (call : Call ρ α ε) :
    Call ρ α ε :=
  { call with
    state := if call.Cut aborts id then .dropped else if call.due ≤ now then .finished else .running }

/-- What is not cut finishes when its time is up. -/
theorem Call.standing_pass (call : Call ρ α ε) (aborts : List Abort) (id : CallId)
    (h : now ≤ now') :
    (if call.due ≤ now' then (call.standing aborts now id).finish
      else call.standing aborts now id) = call.standing aborts now' id := by
  unfold standing
  by_cases hcut : call.Cut aborts id
  · simp only [if_pos hcut]
    exact ite_self _
  · simp only [if_neg hcut]
    by_cases hdue : call.due ≤ now
    · simp only [if_pos hdue, if_pos (Nat.le_trans hdue h)]
      rfl
    · simp only [if_neg hdue]
      by_cases hdue' : call.due ≤ now'
      · simp only [if_pos hdue']
        rfl
      · simp only [if_neg hdue']

/-- An abort cuts the call, unless its time is up. -/
theorem Call.drop_standing (call : Call ρ α ε) (aborts : List Abort) (now : Instant) (id : CallId)
    (kind : AbortKind) :
    (call.standing aborts now id).drop = call.standing (aborts ++ [⟨id, now, kind⟩]) now id := by
  have hiff : call.Cut (aborts ++ [⟨id, now, kind⟩]) id ↔ call.Cut aborts id ∨ now < call.due :=
    cut_concat_iff.trans (or_congr_right (and_iff_right rfl))
  unfold standing
  by_cases hcut : call.Cut aborts id
  · simp only [if_pos hcut, if_pos (hiff.mpr (.inl hcut))]
    rfl
  · simp only [if_neg hcut]
    by_cases hdue : call.due ≤ now
    · have hkept : ¬ call.Cut (aborts ++ [⟨id, now, kind⟩]) id := fun h =>
        (hiff.mp h).elim hcut (Nat.not_lt.mpr hdue)
      simp only [if_pos hdue, if_neg hkept]
      rfl
    · simp only [if_neg hdue, if_pos (hiff.mpr (.inr (Nat.lt_of_not_le hdue)))]
      rfl

/-- An abort of another call makes no difference. -/
theorem Call.standing_concat_ne (call : Call ρ α ε) (abort : Abort) (h : abort.id ≠ id) :
    call.standing (aborts ++ [abort]) now id = call.standing aborts now id := by
  have hiff : call.Cut (aborts ++ [abort]) id ↔ call.Cut aborts id :=
    cut_concat_iff.trans (or_iff_left fun hnew => h hnew.1)
  simp only [standing, hiff]

/-- A call that nobody has asked for yet is cut by no abort. -/
theorem Call.not_cut_of_fresh (h : ∀ abort ∈ aborts, abort.id < id) : ¬ call.Cut aborts id := by
  rintro ⟨abort, hmem, rfl, -⟩
  exact Nat.lt_irrefl _ (h abort hmem)

theorem Call.pass_start (h : ∀ abort ∈ aborts, abort.id < id) (now : Instant) (payload : ρ)
    (plan : Plan α ε) :
    let call := Call.start now payload plan
    (if call.due ≤ now then call.finish else call) = call.standing aborts now id := by
  intro call
  unfold standing
  rw [if_neg (not_cut_of_fresh h)]
  split <;> rfl

namespace Ledger

/-- The ledger of the calls issued, at an instant. -/
def standing (issued : List (Call ρ α ε)) (aborts : List Abort) (now : Instant) : Ledger ρ α ε :=
  issued.mapIdx (Call.standing aborts now)

theorem getElem?_standing :
    (standing issued aborts now)[id]? = (issued[id]?).map (Call.standing aborts now id) :=
  List.getElem?_mapIdx

@[simp] theorem length_standing : (standing issued aborts now).length = issued.length :=
  List.length_mapIdx

theorem finishDue_standing (issued : List (Call ρ α ε)) (aborts : List Abort) (h : now ≤ now') :
    (standing issued aborts now).finishDue now' = standing issued aborts now' := by
  refine List.ext_getElem? fun i => ?_
  unfold finishDue
  rw [List.getElem?_map, getElem?_standing, getElem?_standing, Option.map_map]
  exact congrArg (Option.map · issued[i]?) (funext fun call => call.standing_pass aborts i h)

theorem drop_standing (issued : List (Call ρ α ε)) (aborts : List Abort) (now : Instant)
    (id : CallId) (kind : AbortKind) :
    (standing issued aborts now).drop id = standing issued (aborts ++ [⟨id, now, kind⟩]) now := by
  refine List.ext_getElem? fun i => ?_
  unfold drop
  rw [getElem?_standing]
  by_cases hi : id = i
  · subst hi
    rw [List.getElem?_modify_eq, getElem?_standing, Option.map_eq_map, Option.map_map]
    exact congrArg (Option.map · issued[id]?)
      (funext fun call => call.drop_standing aborts now id kind)
  · rw [List.getElem?_modify_ne _ _ hi, getElem?_standing]
    exact congrArg (Option.map · issued[i]?)
      (funext fun call => (call.standing_concat_ne ⟨id, now, kind⟩ hi).symm)

theorem finishDue_issue_standing (h : ∀ abort ∈ aborts, abort.id < issued.length) (payload : ρ)
    (plan : Plan α ε) :
    (Ledger.issue (standing issued aborts now) now payload plan).finishDue now =
      standing (issued ++ [Call.start now payload plan]) aborts now := by
  have hold := finishDue_standing issued aborts (Nat.le_refl now)
  have hnew := Call.pass_start h now payload plan
  unfold Ledger.issue finishDue standing at *
  rw [List.map_append, hold, List.mapIdx_concat, List.map_singleton]
  exact congrArg (fun call => _ ++ [call]) hnew

theorem droppedCount_standing (issued : List (Call ρ α ε)) (aborts : List Abort) (now : Instant) :
    (standing issued aborts now).droppedCount =
      issued.zipIdx.countP fun (call, id) => decide (call.Cut aborts id) := by
  have hdropped : ∀ (call : Call ρ α ε) (id : CallId),
      ((call.standing aborts now id).state == .dropped) = decide (call.Cut aborts id) := by
    intro call id
    unfold Call.standing
    by_cases hcut : call.Cut aborts id
    · simp only [if_pos hcut, decide_eq_true hcut]
      rfl
    · simp only [if_neg hcut, decide_eq_false hcut]
      split <;> rfl
  unfold standing droppedCount
  rw [List.mapIdx_eq_zipIdx_map, List.countP_map]
  exact congrArg (List.countP · issued.zipIdx) (funext fun entry => hdropped entry.1 entry.2)

end Ledger

end Standing

end Hedging
