import Mathlib.Algebra.Order.Floor.Semifield
import Mathlib.Data.List.DropRight
import Mathlib.Data.Rat.Floor
import Hedging.Proofs.Dashboard.Books
import Hedging.Proofs.Dashboard.Operations

/-!
# What a dashboard remembers

All figures of a dashboard are about the results that have come in since the last reset. The totals
and the tallies of the lanes count them, and the latencies of the last ones are kept: a hundred for
each lane, in whole milliseconds, and a thousand over all lanes. `sinceReset` reads those results
off the operations, and `Remembers` says what the memory is to be for them. Only the instants at
which results came in outlast a reset.

> `Exact.truncated_eq`: the conversion to whole milliseconds cuts off what is behind the point.
> `statistics_since_reset`: after any operations the figures are those of the results since the last
> reset, and nothing but a result and a reset changes them.
-/

namespace Hedging

/-! ## Whole milliseconds -/

namespace Exact

/-- The value of a finite number. -/
def value (negative : Bool) (mantissa : Nat) (exponent : Int) : ℚ :=
  (if negative then -1 else 1) * (mantissa * 2 ^ exponent)

/-- The whole part of a number, kept within the words of 64 bits; zero if there is none. -/
def wholePart : Exact → Nat
  | .nan => 0
  | .infinite negative => if negative then 0 else maxWord64
  | .finite negative mantissa exponent => min ⌊value negative mantissa exponent⌋₊ maxWord64

theorem value_eq_ratio (mantissa : Nat) (exponent : Int) :
    (mantissa * 2 ^ exponent : ℚ) =
      ((ratio mantissa exponent).1 : ℚ) / ((ratio mantissa exponent).2 : ℚ) := by
  show _ = ((mantissa * 2 ^ exponent.toNat : Nat) : ℚ) / ((2 ^ (-exponent).toNat : Nat) : ℚ)
  obtain ⟨n, rfl | rfl⟩ := exponent.eq_nat_or_neg
  · rw [Int.toNat_natCast, Int.toNat_neg_natCast]
    push_cast
    rw [zpow_natCast, div_one]
  · rw [Int.neg_neg, Int.toNat_natCast, Int.toNat_neg_natCast]
    push_cast
    rw [zpow_neg, zpow_natCast, mul_one, div_eq_mul_inv]

theorem truncated_eq (x : Exact) : x.truncated = x.wholePart := by
  cases x with
  | nan => rfl
  | infinite negative => rfl
  | finite negative mantissa exponent =>
    have hpos : (0 : ℚ) ≤ mantissa * 2 ^ exponent :=
      mul_nonneg (Nat.cast_nonneg _) (zpow_nonneg zero_le_two _)
    cases negative with
    | true =>
      have hfloor : ⌊value true mantissa exponent⌋₊ = 0 := by
        rw [value, if_pos rfl, neg_one_mul]
        exact Nat.floor_of_nonpos (neg_nonpos.mpr hpos)
      rw [wholePart, hfloor]
      rfl
    | false =>
      have hfloor : ⌊value false mantissa exponent⌋₊ =
          (ratio mantissa exponent).1 / (ratio mantissa exponent).2 := by
        rw [value, if_neg Bool.false_ne_true, one_mul, value_eq_ratio, Nat.floor_div_eq_div]
      rw [wholePart, hfloor]
      rfl

end Exact

/-! ## The journal -/

/-- A result that has come in, with its latency in milliseconds. -/
structure Entry extends LookupEvent where
  latency : Binary64

namespace Entry

/-- The latency in whole milliseconds. -/
def millis (e : Entry) : Nat := e.latency.exact.wholePart

end Entry

/-- The result that an operation brings. -/
def DashboardOp.result? : DashboardOp → Option Entry
  | .record lane latency ok message => some ⟨⟨lane, ok, message⟩, latency⟩
  | _ => none

/-- The results that some operations have brought. -/
def recorded (ops : List DashboardOp) : List Entry := ops.filterMap (·.result?)

/-- The results that have come in since the last reset. -/
def sinceReset (ops : List DashboardOp) : List Entry := recorded (ops.rtakeWhile (· ≠ .reset))

theorem recorded_concat (ops : List DashboardOp) (op : DashboardOp) :
    recorded (ops ++ [op]) = recorded ops ++ op.result?.toList := by
  rw [recorded, List.filterMap_append]
  cases h : op.result? with
  | none => rw [List.filterMap_cons_none h]; rfl
  | some e => rw [List.filterMap_cons_some h]; rfl

theorem sinceReset_reset (ops : List DashboardOp) : sinceReset (ops ++ [.reset]) = [] := by
  rw [sinceReset, List.rtakeWhile_concat]
  rfl

theorem sinceReset_concat (ops : List DashboardOp) {op : DashboardOp} (hop : op ≠ .reset) :
    sinceReset (ops ++ [op]) = sinceReset ops ++ op.result?.toList := by
  rw [sinceReset, List.rtakeWhile_concat, if_pos (by simpa using hop), recorded_concat]
  rfl

/-- The latencies of the results in one lane. -/
def laneMillis (lane : Lane) (results : List Entry) : List Nat :=
  (results.filter (·.lane == some lane)).map (·.millis)

/-- The memory of some results. -/
structure Remembers (m : Memory) (results : List Entry) : Prop
    extends Tallied m.lanes m.calls m.errors (results.map (·.toLookupEvent)) where
  successes : m.successes = results.countP (·.ok)
  history : ∀ lane, m.history.get lane = (laneMillis lane results).rtake Dashboard.historyLimit
  recent : m.recent = (results.map (·.latency)).rtake Dashboard.recentLimit

namespace Remembers

theorem nil (callAges : List Nat) :
    Remembers ⟨.const none, 0, 0, 0, .const [], [], callAges⟩ [] where
  toTallied := new_tallied
  successes := rfl
  history lane := by cases lane <;> rfl
  recent := rfl

end Remembers

namespace Dashboard

variable {d : Dashboard} {results : List Entry}

/-- What a result changes in the memory. -/
theorem memory_deliver (latency : Binary64) (d : Dashboard) (event : LookupEvent) :
    (d.deliver latency event).memory =
      { lanes := (d.tally event.lane latency.toFloat event.ok).lanes
        calls := d.calls + 1
        successes := d.successes + event.ok.toNat
        errors := d.errors + (!event.ok).toNat
        history := event.lane.elim d.history fun lane =>
          d.history.update lane (pushRecent historyLimit · latency.exact.truncated)
        recent := pushRecent recentLimit d.recent latency
        callAges := pushRecent recentLimit d.callAges 0 } := by
  obtain ⟨lane, ok, message⟩ := event
  unfold deliver record
  obtain ⟨message, batch, hbatch⟩ := advanceBatch_frame
    (((d.tally lane latency.toFloat ok).count lane latency ok).announce latency ok message)
  rw [hbatch]
  -- with the fields read off first, no limit is ever computed with
  cases lane <;> cases ok <;> simp only [memory, refresh, announce, count, tally] <;> rfl

theorem pushRecent_rtake {α : Type} (limit : Nat) (xs : List α) (x : α) :
    pushRecent limit (xs.rtake limit) x = (xs ++ [x]).rtake limit :=
  pushRecent_drop limit xs x

theorem length_pushRecent {α : Type} (limit : Nat) (xs : List α) (x : α) :
    (pushRecent limit xs x).length = min limit (xs.length + 1) := by
  rw [pushRecent, List.length_drop, List.length_append, List.length_singleton]
  omega

theorem laneMillis_concat (lane : Lane) (results : List Entry) (e : Entry) :
    laneMillis lane (results ++ [e]) =
      if e.lane = some lane then laneMillis lane results ++ [e.millis]
      else laneMillis lane results := by
  unfold laneMillis
  rw [List.filter_append, List.map_append]
  by_cases hlane : e.lane = some lane
  · rw [if_pos hlane, List.filter_cons_of_pos (by simpa using hlane)]
    rfl
  · rw [if_neg hlane, List.filter_cons_of_neg (by simpa using hlane)]
    exact List.append_nil _

/-- A result that comes in is remembered as the last one. -/
theorem remembers_deliver (h : Remembers d.memory results) (e : Entry) :
    Remembers (d.deliver e.latency e.toLookupEvent).memory (results ++ [e]) := by
  rw [memory_deliver]
  have htallied := h.toTallied.deliver e.latency.toFloat e.toLookupEvent
  refine { toTallied := ?_, successes := ?_, history := fun lane => ?_, recent := ?_ }
  · rw [List.map_append]
    exact htallied
  · rw [List.countP_append, List.countP_singleton, ← h.successes]
    cases e.ok <;> rfl
  · have hkept : d.history.get lane = _ := h.history lane
    rw [laneMillis_concat]
    show (e.lane.elim d.history _).get lane = _
    cases hlane : e.lane with
    | none => exact hkept
    | some other =>
      rw [Option.elim_some, PerLane.get_update]
      by_cases heq : lane = other
      · rw [if_pos heq, if_pos (congrArg some heq.symm), hkept, Exact.truncated_eq,
          pushRecent_rtake]
        rfl
      · rw [if_neg heq, if_neg fun h => heq (Option.some.inj h).symm, hkept]
  · have hkept : d.recent = _ := h.recent
    rw [List.map_append, List.map_singleton, ← pushRecent_rtake, ← hkept]

variable {op : DashboardOp}

theorem remember_of_entry {e : Entry} (h : op.result? = some e) (d : Dashboard) :
    d.remember op = d.deliver e.latency e.toLookupEvent := by
  cases op with
  | record lane latency ok message =>
    cases h
    rfl
  | _ => cases h

theorem remember_of_no_entry (h : op.result? = none) (hop : op ≠ .reset) (d : Dashboard) :
    d.remember op = d := by
  cases op with
  | record lane latency ok message => cases h
  | reset => exact absurd rfl hop
  | _ => rfl

theorem remembers_step {before : List DashboardOp} (h : Remembers d.memory (sinceReset before))
    (op : DashboardOp) : Remembers (d.remember op).memory (sinceReset (before ++ [op])) := by
  by_cases hop : op = .reset
  · rw [hop, sinceReset_reset]
    exact Remembers.nil d.callAges
  · rw [sinceReset_concat before hop]
    cases hentry : op.result? with
    | some e =>
      rw [remember_of_entry hentry]
      exact remembers_deliver h e
    | none =>
      rw [remember_of_no_entry hentry hop, Option.toList_none, List.append_nil]
      exact h

/-- An instant is kept for every result, a reset in between or not. -/
theorem length_callAges_step {before : List DashboardOp}
    (h : d.memory.callAges.length = min recentLimit (recorded before).length) (op : DashboardOp) :
    (d.remember op).memory.callAges.length =
      min recentLimit (recorded (before ++ [op])).length := by
  rw [recorded_concat, List.length_append]
  cases hentry : op.result? with
  | some e =>
    have hkept : d.callAges.length = min recentLimit (recorded before).length := h
    rw [remember_of_entry hentry, memory_deliver, length_pushRecent, hkept, Option.toList_some,
      List.length_singleton]
    omega
  | none =>
    rw [Option.toList_none, List.length_nil, Nat.add_zero, ← h]
    cases op with
    | record lane latency ok message => cases hentry
    | _ => rfl

/-- **The figures are those of the results since the last reset.**

Whatever ordinary operations have been carried out, they have not broken the dashboard down, and
what it remembers is what is to be remembered of the results since the last reset, or of all results
if there was none. The instants kept are those of the last thousand results, whenever they came in.
An operation that brings no result changes nothing of all this, apart from a reset, and a reset
leaves the instants. -/
theorem statistics_since_reset (draws : Nat → Draw) (run : SimRun) (config : Config)
    (host : String) (ops : List DashboardOp) (hops : ∀ op ∈ ops, op.isOrdinary = true) :
    ∃ d, (new run config host).perform draws ops = .ok d ∧
      Remembers d.memory (sinceReset ops) ∧
      d.successes + d.errors = d.calls ∧
      d.callAges.length = min recentLimit (recorded ops).length ∧
      ∀ op, op.isOrdinary = true → op.result? = none →
        ∃ later, d.step draws op = .ok ([], later) ∧ later.callAges = d.callAges ∧
          (op ≠ .reset → later.memory = d.memory) := by
  have hfresh : (new run config host).batch.Bounded := Batch.opening_bounded
  obtain ⟨d, hd, hbounded, hmemory, hinstants⟩ := perform_induction draws
    (P := fun ops d => Remembers d.memory (sinceReset ops) ∧
      d.memory.callAges.length = min recentLimit (recorded ops).length)
    hfresh ⟨Remembers.nil [], rfl⟩
    (fun before op d later _ _ ⟨hmemory, hinstants⟩ _ hlater => by
      rw [hlater]
      exact ⟨remembers_step hmemory op, length_callAges_step hinstants op⟩) hops
  refine ⟨d, hd, hmemory, ?sum, hinstants, fun op hop hentry => ?others⟩
  case sum =>
    have hsuccesses : d.successes = _ := hmemory.successes
    have herrors : d.errors = _ := hmemory.errors
    have hcalls : d.calls = _ := hmemory.calls
    have hparts := List.length_eq_countP_add_countP (·.ok) (l := sinceReset ops)
    rw [hsuccesses, herrors, hcalls, List.countP_map, List.length_map, hparts]
    simp [Function.comp_def]
  case others =>
    obtain ⟨later, hlater, -, hkept⟩ := step_ordinary draws hop hbounded
    refine ⟨later, hlater, ?_, fun hreset => ?_⟩
    · show later.memory.callAges = _
      rw [hkept]
      cases op with
      | record lane latency ok message => cases hentry
      | _ => rfl
    · rw [hkept, remember_of_no_entry hentry hreset]

/-- Two results, a reset, and three results more among other operations: one of no lane whose
latency is no number, and one of an infinite latency. -/
def resetBetween : List DashboardOp :=
  [.record (some .primary) ⟨0x4014000000000000⟩ true "found", .toggleBatch,
    .record (some .backup) ⟨0x4008000000000000⟩ false "lost", .reset, .toggleMode,
    .record (some .primary) ⟨0x4029CCCCCCCCCCCD⟩ true "found", .refresh,
    .record none ⟨0x7FF8000000000000⟩ false "timed out", .moreBatch,
    .record (some .primary) ⟨0x7FF0000000000000⟩ true "found"]

/-- Only the three results after the reset are remembered, and the instants of all five. -/
theorem statistics_since_reset_of_five :
    (∀ op ∈ resetBetween, op.isOrdinary = true) ∧
      ∃ d, default.perform (fun _ => ⟨0, 0, 0⟩) resetBetween = .ok d ∧
        d.calls = 3 ∧ d.successes = 2 ∧ d.errors = 1 ∧
        (d.lanes.tally .primary).wins = 2 ∧ (d.lanes.tally .backup).errors = 0 ∧
        d.history.get .primary = [12, maxWord64] ∧
        d.recent = [⟨0x4029CCCCCCCCCCCD⟩, ⟨0x7FF8000000000000⟩, ⟨0x7FF0000000000000⟩] ∧
        d.callAges.length = 5 ∧
        ∃ later, d.step (fun _ => ⟨0, 0, 0⟩) .lessTail = .ok ([], later) ∧
          later.memory = d.memory := by
  have hops : ∀ op ∈ resetBetween, op.isOrdinary = true := by decide
  obtain ⟨d, hd, hmemory, -, hinstants, hothers⟩ := statistics_since_reset (fun _ => ⟨0, 0, 0⟩)
    default.run default.config default.host resetBetween hops
  obtain ⟨later, hlater, -, hkept⟩ := hothers .lessTail rfl rfl
  have hmillis : (·.millis) = fun e : Entry => e.latency.exact.truncated :=
    funext fun e => (Exact.truncated_eq e.latency.exact).symm
  have hprimary : laneMillis .primary (sinceReset resetBetween) = [12, maxWord64] := by
    unfold laneMillis
    rw [hmillis]
    decide
  have hhistory := hmemory.history .primary
  rw [hprimary] at hhistory
  exact ⟨hops, d, hd, hmemory.calls, hmemory.successes, hmemory.errors, hmemory.wins .primary,
    hmemory.failures .backup, hhistory, hmemory.recent, hinstants, later, hlater, hkept nofun⟩

end Dashboard

end Hedging
