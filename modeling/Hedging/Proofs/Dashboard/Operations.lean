import Mathlib.Data.List.Induction
import Hedging.Dashboard.Use

/-!
# What the operations of a dashboard do

An ordinary operation is one of the keys, a result that comes in, a lookup that is started, or time
that passes. Such operations reach two things that have nothing to do with each other: the batch,
and the `Memory` of the results. `Batch.next` is all that any of them does to the batch, and
`remember` says that a result and a reset are the only ones that reach the memory. Everything said
of a batch or of the statistics later on goes back to these two.

> `step_ordinary`: what an ordinary operation does to the batch and to the memory. It never breaks
> the dashboard down, as long as the count of the batch is within its bounds.
> `perform_induction`: what one of them keeps is kept by any number of them.
-/

namespace Hedging

/-- Is this one of the keys, a result that comes in, a lookup that is started, or time that passes?
-/
def DashboardOp.isOrdinary : DashboardOp → Bool
  | .toggleMode | .toggleBatch | .moreBatch | .fewerBatch | .moreTail | .lessTail | .refresh
  | .reset | .record .. | .spawnLookup | .sleep _ => true
  | _ => false

/-! ## The batch -/

namespace Batch

/-- The batch of a dashboard that has just been opened. -/
def opening : Batch := ⟨false, 100, 0⟩

/-- The batch is stopped, or started from its beginning. -/
def toggled (b : Batch) : Batch :=
  if b.on then { b with on := false } else { b with on := true, done := 0 }

/-- A result has come in. -/
def advanced (b : Batch) : Batch :=
  if b.on then { b with done := b.done + 1, on := decide (b.done + 1 < b.count) } else b

/-- The batch after an ordinary operation. -/
def next (b : Batch) : DashboardOp → Batch
  | .toggleBatch => b.toggled
  | .moreBatch => { b with count := min (b.count + 10) 1000 }
  | .fewerBatch => { b with count := max (b.count - 10) 10 }
  | .record .. => b.advanced
  | _ => b

/-- The keys keep the count of a batch between ten and a thousand. -/
structure Bounded (b : Batch) : Prop where
  least : 10 ≤ b.count
  greatest : b.count ≤ 1000

theorem opening_bounded : opening.Bounded := ⟨by decide, by decide⟩

theorem count_toggled (b : Batch) : b.toggled.count = b.count := by
  unfold toggled
  split <;> rfl

theorem count_advanced (b : Batch) : b.advanced.count = b.count := by
  unfold advanced
  split <;> rfl

theorem Bounded.next {b : Batch} (h : b.Bounded) (op : DashboardOp) : (b.next op).Bounded := by
  obtain ⟨least, greatest⟩ := h
  cases op with
  | toggleBatch =>
    show b.toggled.Bounded
    exact ⟨by rwa [count_toggled], by rwa [count_toggled]⟩
  | moreBatch => exact ⟨Nat.le_min.mpr ⟨by omega, by decide⟩, Nat.min_le_right ..⟩
  | fewerBatch => exact ⟨Nat.le_max_right .., Nat.max_le.mpr ⟨by omega, by decide⟩⟩
  | record lane latency ok message =>
    show b.advanced.Bounded
    exact ⟨by rwa [count_advanced], by rwa [count_advanced]⟩
  | _ => exact ⟨least, greatest⟩

end Batch

/-! ## The memory -/

/-- What a dashboard remembers of the results that have come in. -/
structure Memory where
  lanes : PerLane (Option LaneTally)
  calls : Nat
  successes : Nat
  errors : Nat
  history : PerLane (List Nat)
  recent : List Binary64
  callAges : List Nat

namespace Dashboard

/-- A dashboard that has just been opened. -/
def default : Dashboard := .new (.new (.new .default) .default .default) .default "example.com"

theorem default_bounded : default.batch.Bounded := Batch.opening_bounded

def memory (d : Dashboard) : Memory :=
  ⟨d.lanes, d.calls, d.successes, d.errors, d.history, d.recent, d.callAges⟩

/-- A result is taken into the memory, and a reset clears it. -/
def remember (d : Dashboard) : DashboardOp → Dashboard
  | .record lane latency ok message => d.record lane latency ok message
  | .reset => d.reset
  | _ => d

theorem batch_advanceBatch (d : Dashboard) : d.advanceBatch.batch = d.batch.advanced := by
  unfold advanceBatch Batch.advanced
  cases hon : d.batch.on with
  | false => rw [if_neg Bool.false_ne_true, if_neg Bool.false_ne_true]
  | true =>
    rw [if_pos rfl, if_pos rfl]
    simp only
    split
    next hdone => rw [decide_eq_false (Nat.not_lt.mpr hdone)]
    next hdone => rw [decide_eq_true (Nat.lt_of_not_le hdone), ← hon]

theorem batch_record (d : Dashboard) (lane : Option Lane) (latency : Binary64) (ok : Bool)
    (message : String) : (d.record lane latency ok message).batch = d.batch.advanced := by
  unfold record
  have htallied : ∀ d : Dashboard, (d.tally lane latency.toFloat ok).batch = d.batch := by
    intro d
    cases lane <;> rfl
  show (advanceBatch _).batch = _
  rw [batch_advanceBatch]
  exact congrArg Batch.advanced (htallied d)

variable {d : Dashboard} {op : DashboardOp}

/-- As long as the count is within its bounds, ten lookups more are a count that there can be. -/
theorem moreBatch_eq (h : d.batch.Bounded) :
    d.moreBatch = .ok (d.setBatchCount (min (d.batch.count + 10) 1000)) := by
  have hfits : d.batch.count + 10 ≤ Batch.maxCount :=
    Nat.le_trans (Nat.add_le_add_right h.greatest 10) (by decide)
  exact if_neg (Nat.not_lt.mpr hfits)

theorem act_ordinary (draws : Nat → Draw) (hop : op.isOrdinary = true) (h : d.batch.Bounded) :
    ∃ later, d.act draws op = .ok ([], later) ∧ later.batch = d.batch.next op ∧
      later.memory = (d.remember op).memory := by
  cases op with
  | toggleBatch =>
    refine ⟨d.toggleBatch, rfl, ?_, ?_⟩
    · show d.toggleBatch.batch = d.batch.toggled
      unfold toggleBatch Batch.toggled
      split <;> rfl
    · unfold toggleBatch
      split <;> rfl
  | moreBatch =>
    refine ⟨d.setBatchCount (min (d.batch.count + 10) 1000), ?_, rfl, rfl⟩
    show d.moreBatch.map _ = _
    rw [moreBatch_eq h]
    rfl
  | record lane latency ok message => exact ⟨_, rfl, batch_record .., rfl⟩
  | spawnLookup =>
    refine ⟨d.spawnLookup draws, rfl, ?_, ?_⟩
    · unfold spawnLookup
      cases d.mode <;> rfl
    · unfold spawnLookup
      cases d.mode <;> rfl
  | toggleMode | fewerBatch | moreTail | lessTail | refresh | reset | sleep span =>
    exact ⟨_, rfl, rfl, rfl⟩
  | setBatchCount count | setTail percent | tally lane latency ok | lookup | drain latency
  | setUptime seconds | age count => cases hop

/-- **What an ordinary operation does** to the batch and to the memory. What else is due at the same
instant reaches neither. -/
theorem step_ordinary (draws : Nat → Draw) (hop : op.isOrdinary = true) (h : d.batch.Bounded) :
    ∃ later, d.step draws op = .ok ([], later) ∧ later.batch = d.batch.next op ∧
      later.memory = (d.remember op).memory := by
  obtain ⟨carried, hact, hbatch, hmemory⟩ := act_ordinary draws hop h
  refine ⟨carried.flush draws, ?_, hbatch, hmemory⟩
  rw [step, hact]
  rfl

/-! ## Many operations -/

/-- Carries out operations one after another, each with everything that is due by then. -/
def perform (draws : Nat → Draw) (d : Dashboard) (ops : List DashboardOp) :
    Except DashboardFault Dashboard :=
  ops.foldlM (fun d op => (d.step draws op).map (·.2)) d

theorem perform_concat {draws : Nat → Draw} {d reached later : Dashboard} {ops : List DashboardOp}
    {op : DashboardOp} {events : List LookupEvent} (h : d.perform draws ops = .ok reached)
    (hstep : reached.step draws op = .ok (events, later)) :
    d.perform draws (ops ++ [op]) = .ok later := by
  have hlast : reached.perform draws [op] = .ok later := by
    show (reached.step draws op).map (·.2) >>= pure = _
    rw [hstep]
    rfl
  show (ops ++ [op]).foldlM _ d = _
  rw [List.foldlM_append]
  show d.perform draws ops >>= (·.perform draws [op]) = _
  rw [h]
  exact hlast

/-- What one ordinary operation keeps is kept by any number of them, and none of them breaks the
dashboard down. The operations carried out so far are told along. -/
theorem perform_induction (draws : Nat → Draw) {opened : Dashboard}
    {P : List DashboardOp → Dashboard → Prop} (hopened : opened.batch.Bounded)
    (hfirst : P [] opened)
    (hstep : ∀ (before : List DashboardOp) (op : DashboardOp) (d later : Dashboard),
      d.batch.Bounded → opened.perform draws before = .ok d → P before d →
        later.batch = d.batch.next op → later.memory = (d.remember op).memory →
          P (before ++ [op]) later)
    {ops : List DashboardOp} (hops : ∀ op ∈ ops, op.isOrdinary = true) :
    ∃ d, opened.perform draws ops = .ok d ∧ d.batch.Bounded ∧ P ops d := by
  induction ops using List.reverseRecOn with
  | nil => exact ⟨opened, rfl, hopened, hfirst⟩
  | append_singleton before op ih =>
    obtain ⟨d, hd, hbounded, hp⟩ := ih fun o ho => hops o (List.mem_append_left _ ho)
    have hop : op.isOrdinary = true := hops op (List.mem_concat_self)
    obtain ⟨later, hlater, hbatch, hmemory⟩ := step_ordinary draws hop hbounded
    exact ⟨later, perform_concat hd hlater, hbatch ▸ hbounded.next op,
      hstep before op d later hbounded hd hp hbatch hmemory⟩

/-- The batch that any number of operations comes to. -/
theorem perform_batch (draws : Nat → Draw) {opened : Dashboard} (hopened : opened.batch.Bounded)
    {ops : List DashboardOp} (hops : ∀ op ∈ ops, op.isOrdinary = true) :
    ∃ d, opened.perform draws ops = .ok d ∧ d.batch = ops.foldl Batch.next opened.batch := by
  obtain ⟨d, hd, -, hbatch⟩ := perform_induction draws
    (P := fun ops d => d.batch = ops.foldl Batch.next opened.batch) hopened rfl
    (fun before op d later _ _ hbefore hbatch _ => by
      rw [hbatch, hbefore, List.foldl_append]
      rfl) hops
  exact ⟨d, hd, hbatch⟩

end Dashboard

end Hedging
