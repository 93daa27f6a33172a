import Hedging.Proofs.Dashboard.Operations

/-!
# Batches that stall

A batch runs lookups until it has done its count, and then stops by itself. So a batch that is on is
to have lookups left to run, and `shouldRunCall` is to say no more than whether it is on. A batch
that is on although it has done its count is stalled: no lookup of it is started any more, and it
waits for a result that may never come.

Results that come in late, a batch that is stopped and started again, and a count that is raised
never stall a batch. The key that lowers the count does, since it does not look at what has been
done: only a result that comes in stops the batch.

> `stalls_only_when_lowered`: which operation stalls a batch and which of them end that, in every
> state that a dashboard comes to; and what has happened to a batch that is stalled.
> `stalls_when_lowered`: ten lookups are done, and the count is lowered to ten.
-/

namespace Hedging

/-- The key that stops a batch, and a result that comes in. -/
def DashboardOp.endsStalled : DashboardOp → Bool
  | .toggleBatch | .record .. => true
  | _ => false

namespace Batch

variable {b : Batch} {op : DashboardOp}

/-- Is the batch on although it has done its count? -/
def isStalled (b : Batch) : Bool := b.on && decide (b.count ≤ b.done)

/-- The count of a batch that is on is lowered to what it has done, or below. -/
structure StalledBy (b : Batch) (op : DashboardOp) : Prop where
  lowers : op = .fewerBatch
  on : b.on = true
  done : max (b.count - 10) 10 ≤ b.done

/-- A stalled batch is ended, by a key or by a result, or its count is raised above what it has
done. -/
inductive RevivedBy (b : Batch) (op : DashboardOp) : Prop
  | ended (h : op.endsStalled = true)
  | raised (h : op = .moreBatch) (left : b.done < min (b.count + 10) 1000)

theorem isStalled_iff : b.isStalled = true ↔ b.on = true ∧ b.count ≤ b.done := by
  rw [isStalled, Bool.and_eq_true, decide_eq_true_eq]

theorem not_isStalled_iff : b.isStalled = false ↔ (b.on = true → b.done < b.count) := by
  rw [← Bool.not_eq_true, isStalled_iff, not_and, Nat.not_le]

/-- A batch that has been started has everything to do, and one that has been stopped is off. -/
theorem not_isStalled_toggled (h : b.Bounded) : b.toggled.isStalled = false := by
  have least := h.least
  rw [not_isStalled_iff]
  unfold toggled
  split
  · exact nofun
  · exact fun _ => Nat.lt_of_lt_of_le (Nat.zero_lt_succ 9) least

/-- A result stops a batch that has done its count. -/
theorem not_isStalled_advanced (b : Batch) : b.advanced.isStalled = false := by
  rw [not_isStalled_iff]
  unfold advanced
  split
  next => exact of_decide_eq_true
  next hoff => exact fun hon => absurd hon hoff

/-- What stalls a batch. -/
theorem isStalled_next_iff (h : b.Bounded) (working : b.isStalled = false) :
    (b.next op).isStalled = true ↔ b.StalledBy op := by
  have left := not_isStalled_iff.mp working
  have other : ∀ {later : Batch}, later.isStalled = false → op ≠ .fewerBatch →
      (later.isStalled = true ↔ b.StalledBy op) := fun hlater hop =>
    ⟨fun hstalled => absurd hstalled (by rw [hlater]; decide), fun hby => absurd hby.lowers hop⟩
  cases op with
  | toggleBatch => exact other (not_isStalled_toggled h) nofun
  | record lane latency ok message => exact other (not_isStalled_advanced b) nofun
  | moreBatch =>
    refine other (not_isStalled_iff.mpr fun hon => ?_) nofun
    have greatest := h.greatest
    have hleft := left hon
    show b.done < min (b.count + 10) 1000
    omega
  | fewerBatch =>
    rw [isStalled_iff]
    exact ⟨fun ⟨hon, hdone⟩ => ⟨rfl, hon, hdone⟩, fun hby => ⟨hby.on, hby.done⟩⟩
  | _ => exact other working nofun

/-- What ends it that a batch is stalled. -/
theorem isStalled_next_of_stalled (h : b.Bounded) (stalled : b.isStalled = true) :
    (b.next op).isStalled = true ↔ ¬ b.RevivedBy op := by
  obtain ⟨hon, hdone⟩ := isStalled_iff.mp stalled
  have ended : ∀ {later : Batch}, later.isStalled = false → op.endsStalled = true →
      (later.isStalled = true ↔ ¬ b.RevivedBy op) := fun hlater hop =>
    ⟨fun hstalled => absurd hstalled (by rw [hlater]; decide), fun hno => absurd (.ended hop) hno⟩
  have other : ∀ {later : Batch}, later.isStalled = true → op.endsStalled = false →
      op ≠ .moreBatch → (later.isStalled = true ↔ ¬ b.RevivedBy op) := by
    refine fun hlater hends hmore => ⟨fun _ hrevived => ?_, fun _ => hlater⟩
    cases hrevived with
    | ended hop => rw [hends] at hop; cases hop
    | raised hop => exact hmore hop
  cases op with
  | toggleBatch => exact ended (not_isStalled_toggled h) rfl
  | record lane latency ok message => exact ended (not_isStalled_advanced b) rfl
  | moreBatch =>
    rw [isStalled_iff]
    refine ⟨fun ⟨_, hlater⟩ hrevived => ?_, fun hno =>
      ⟨hon, Nat.le_of_not_lt fun left => hno (.raised rfl left)⟩⟩
    cases hrevived with
    | ended hop => cases hop
    | raised _ left => exact absurd hlater (Nat.not_le.mpr left)
  | fewerBatch =>
    have least := h.least
    refine other (isStalled_iff.mpr ⟨hon, ?_⟩) rfl nofun
    show max (b.count - 10) 10 ≤ b.done
    omega
  | _ => exact other stalled rfl nofun

/-- What does not end a stalled batch gets nothing of it done. -/
theorem done_next (h : op.endsStalled = false) : (b.next op).done = b.done := by
  cases op with
  | toggleBatch => cases h
  | record lane latency ok message => cases h
  | _ => rfl

end Batch

namespace Dashboard

variable {draws : Nat → Draw} {opened : Dashboard} {ops : List DashboardOp} {op : DashboardOp}

theorem shouldRunCall_eq (d : Dashboard) :
    d.shouldRunCall = (d.batch.on && !d.batch.isStalled) := by
  have hleft : decide (d.batch.done < d.batch.count) = !decide (d.batch.count ≤ d.batch.done) := by
    rw [← decide_not, decide_eq_decide, Nat.not_le]
  rw [shouldRunCall, Batch.isStalled, hleft]
  cases d.batch.on <;> rfl

/-- What has happened to a batch that is stalled. Its count was lowered under it, and since then it
has neither been stopped nor has a result come in. -/
inductive LoweredAmong (draws : Nat → Draw) (opened : Dashboard) :
    List DashboardOp → Batch → Prop
  | intro {before after : List DashboardOp} {running : Dashboard} {b : Batch}
    (reached : opened.perform draws before = .ok running)
    (working : running.batch.isStalled = false) (lowered : running.batch.StalledBy .fewerBatch)
    (quiet : ∀ op ∈ after, op.endsStalled = false) (done : b.done = running.batch.done) :
    LoweredAmong draws opened (before ++ .fewerBatch :: after) b

theorem LoweredAmong.next {b : Batch} (h : LoweredAmong draws opened ops b)
    (hop : op.endsStalled = false) : LoweredAmong draws opened (ops ++ [op]) (b.next op) := by
  obtain ⟨reached, working, lowered, quiet, done⟩ := h
  rw [List.append_assoc, List.cons_append]
  refine .intro reached working lowered (fun o ho => ?_) ((Batch.done_next hop).trans done)
  rcases List.mem_append.mp ho with ho | ho
  · exact quiet o ho
  · rw [List.mem_singleton.mp ho]
    exact hop

/-- A stalled batch goes back to a lowering of its count. -/
theorem loweredAmong_of_stalled (draws : Nat → Draw) (hopened : opened.batch.Bounded)
    (hidle : opened.batch.isStalled = false) (hops : ∀ op ∈ ops, op.isOrdinary = true) :
    ∃ d, opened.perform draws ops = .ok d ∧ d.batch.Bounded ∧
      (d.batch.isStalled = true → LoweredAmong draws opened ops d.batch) := by
  refine perform_induction draws (P := fun ops d => d.batch.isStalled = true →
    LoweredAmong draws opened ops d.batch) hopened (fun hstalled => ?first)
    (fun before op d later hbounded hd h hbatch _ hlater => ?step) hops
  case first =>
    rw [hidle] at hstalled
    cases hstalled
  case step =>
    rw [hbatch] at hlater ⊢
    cases hstalled : d.batch.isStalled with
    | false =>
      obtain ⟨rfl, hon, hdone⟩ := (Batch.isStalled_next_iff hbounded hstalled).mp hlater
      exact .intro hd hstalled ⟨rfl, hon, hdone⟩ nofun rfl
    | true =>
      have hquiet := (Batch.isStalled_next_of_stalled hbounded hstalled).mp hlater
      exact (h hstalled).next (Bool.eq_false_iff.mpr fun hends => hquiet (.ended hends))

/-- **A batch that is on has work left, unless its count has been lowered to what it has done.**

Ordinary operations never break a dashboard down. In every state that they lead to, the next lookup
is due exactly if the batch is on and not stalled, and the last conjunct tells of every operation
whether it leaves a stalled batch. Of a batch that works only lowering its count can do so; a
stalled one gets going when its count is raised, and is ended by the next result or by the key that
stops it. So if a batch is stalled, its count has been lowered to what it had done, and nothing has
ended that since. -/
theorem stalls_only_when_lowered (draws : Nat → Draw) (run : SimRun) (config : Config)
    (host : String) (ops : List DashboardOp) (hops : ∀ op ∈ ops, op.isOrdinary = true) :
    let opened : Dashboard := .new run config host
    ∃ d, opened.perform draws ops = .ok d ∧
      d.shouldRunCall = (d.batch.on && !d.batch.isStalled) ∧
      (d.batch.isStalled = true → LoweredAmong draws opened ops d.batch) ∧
      ∀ op, op.isOrdinary = true → ∃ later, d.step draws op = .ok ([], later) ∧
        (later.batch.isStalled = true ↔
          if d.batch.isStalled then ¬ d.batch.RevivedBy op else d.batch.StalledBy op) := by
  intro opened
  have hfresh : opened.batch.Bounded := Batch.opening_bounded
  obtain ⟨d, hd, hbounded, hcause⟩ := loweredAmong_of_stalled draws hfresh rfl hops
  refine ⟨d, hd, d.shouldRunCall_eq, hcause, fun op hop => ?_⟩
  obtain ⟨later, hlater, hbatch, -⟩ := step_ordinary draws hop hbounded
  refine ⟨later, hlater, ?_⟩
  rw [hbatch]
  cases hstalled : d.batch.isStalled with
  | false =>
    rw [if_neg Bool.false_ne_true]
    exact Batch.isStalled_next_iff hbounded hstalled
  | true =>
    rw [if_pos rfl]
    exact Batch.isStalled_next_of_stalled hbounded hstalled

/-- A batch of twenty does ten lookups, and is then lowered to ten. -/
def tenOfTwenty : List DashboardOp :=
  List.replicate 8 .fewerBatch ++ .toggleBatch ::
    List.replicate 10 (.record (some .primary) ⟨0x4014000000000000⟩ true "found") ++ [.fewerBatch]

/-- After that the batch is stalled until its count is raised again. -/
theorem stalls_only_when_lowered_of_ten :
    (∀ op ∈ tenOfTwenty, op.isOrdinary = true) ∧
      ∃ d, default.perform (fun _ => ⟨0, 0, 0⟩) tenOfTwenty = .ok d ∧
        d.shouldRunCall = false ∧
        LoweredAmong (fun _ => ⟨0, 0, 0⟩) default tenOfTwenty ⟨true, 10, 10⟩ ∧
        ∃ later, d.step (fun _ => ⟨0, 0, 0⟩) .moreBatch = .ok ([], later) ∧
          ¬ later.batch.isStalled = true := by
  have hops : ∀ op ∈ tenOfTwenty, op.isOrdinary = true := by decide
  obtain ⟨d, hd, hnext, hcause, hsteps⟩ := stalls_only_when_lowered (fun _ => ⟨0, 0, 0⟩)
    default.run default.config default.host tenOfTwenty hops
  obtain ⟨d', hd', hbatch⟩ := perform_batch (fun _ => ⟨0, 0, 0⟩) default_bounded hops
  obtain rfl : d' = d := Except.ok.inj (hd'.symm.trans hd)
  have hten : d'.batch = ⟨true, 10, 10⟩ := hbatch.trans (by decide)
  have hstalled : d'.batch.isStalled = true := by
    rw [hten]
    decide
  obtain ⟨later, hlater, hiff⟩ := hsteps .moreBatch rfl
  rw [hstalled, hten, if_pos rfl] at hiff
  rw [hten] at hnext hcause
  exact ⟨hops, d', hd, hnext, hcause rfl, later, hlater, fun h =>
    hiff.mp h (.raised rfl (by decide))⟩

/-- **A batch that is on need not have work left.** Ten of twenty lookups are done when the count is
lowered to ten: the batch stays on, and no lookup is due. -/
theorem stalls_when_lowered :
    (∀ op ∈ tenOfTwenty, op.isOrdinary = true) ∧
      ∃ d, default.perform (fun _ => ⟨0, 0, 0⟩) tenOfTwenty = .ok d ∧
        d.batch.on = true ∧ ¬ d.batch.done < d.batch.count ∧ d.shouldRunCall = false := by
  have hops : ∀ op ∈ tenOfTwenty, op.isOrdinary = true := by decide
  obtain ⟨d, hd, hbatch⟩ := perform_batch (fun _ => ⟨0, 0, 0⟩) default_bounded hops
  have hten : d.batch = ⟨true, 10, 10⟩ := hbatch.trans (by decide)
  refine ⟨hops, d, hd, ?_⟩
  rw [shouldRunCall, hten]
  decide

end Dashboard

end Hedging
