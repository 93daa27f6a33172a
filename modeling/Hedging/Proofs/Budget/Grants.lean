import Hedging.Budget

/-!
# What a token budget grants

A budget lives through a sequence of operations: it is funded, and it is asked for backups. Its
answers depend on all that came before, so two budgets cannot be compared answer by answer. The
more generous of two may well be poorer later, and refuse what the other grants, because it has
granted more already. What can be compared is how much each has granted. `Ahead` is the invariant: a
lead in grants pays for the tokens that are missing, at the price of the generous budget.

A budget that is asked for a backup after each deposit never gets rich. Before each round it holds
less than one backup costs (`Saving`), so the cap cuts no deposit off, and what it has granted and
what it holds are the quotient and the remainder of all that was ever paid in.

> `generous_grants`: a more generous budget, or one more deposit, never lowers what is granted.
> `steady_share`: of all that was paid in, every full `withdraw` has been granted, and the rest is
> held.
-/

namespace Hedging

/-- What is asked of a budget. -/
inductive BudgetOp
  | fund
  | consume
deriving DecidableEq, Repr

namespace TokenBudget

/-- The budget after an operation. -/
def act (b : TokenBudget) : BudgetOp → TokenBudget
  | .fund => b.fund
  | .consume => b.tryConsume.2

/-- How many backups an operation grants. -/
def grant (b : TokenBudget) : BudgetOp → Nat
  | .fund => 0
  | .consume => if b.tryConsume.1 then 1 else 0

/-- The budget after some operations. -/
def actAll (b : TokenBudget) (ops : List BudgetOp) : TokenBudget := ops.foldl act b

/-- How many backups some operations grant, one after another. -/
def granted (b : TokenBudget) : List BudgetOp → Nat
  | [] => 0
  | op :: ops => b.grant op + (b.act op).granted ops

variable {b b₁ b₂ : TokenBudget}

/-! ## One operation -/

/-- An operation only changes the tokens. -/
theorem terms_act (b : TokenBudget) (op : BudgetOp) :
    (b.act op).deposit = b.deposit ∧ (b.act op).withdraw = b.withdraw ∧ (b.act op).max = b.max := by
  cases op with
  | fund => exact ⟨rfl, rfl, rfl⟩
  | consume =>
    show b.tryConsume.2.deposit = _ ∧ b.tryConsume.2.withdraw = _ ∧ b.tryConsume.2.max = _
    unfold tryConsume
    split <;> exact ⟨rfl, rfl, rfl⟩

theorem consume_cases (b : TokenBudget) :
    (b.withdraw.toNat ≤ b.tokens.toNat ∧ b.grant .consume = 1 ∧
      (b.act .consume).tokens.toNat + b.withdraw.toNat = b.tokens.toNat) ∨
    (b.tokens.toNat < b.withdraw.toNat ∧ b.grant .consume = 0 ∧ b.act .consume = b) := by
  rcases b.tryConsume_cases with ⟨rich, granted, paid⟩ | ⟨poor, refused⟩
  · exact .inl ⟨rich, if_pos granted, paid⟩
  · refine .inr ⟨poor, if_neg ?_, congrArg Prod.snd refused⟩
    rw [refused]
    exact Bool.false_ne_true

theorem act_within (h : b.tokens ≤ b.max) (op : BudgetOp) : (b.act op).tokens ≤ (b.act op).max := by
  rw [UInt32.le_iff_toNat_le] at h ⊢
  cases op with
  | fund => exact b.fund_le
  | consume => exact tryConsume_le h

theorem actAll_within (h : b.tokens ≤ b.max) (ops : List BudgetOp) :
    (b.actAll ops).tokens ≤ (b.actAll ops).max := by
  induction ops generalizing b with
  | nil => exact h
  | cons op ops ih => exact ih (act_within h op)

/-- However many operations there are, they only change the tokens. -/
theorem terms_actAll (b : TokenBudget) (ops : List BudgetOp) :
    (b.actAll ops).deposit = b.deposit ∧ (b.actAll ops).withdraw = b.withdraw ∧
      (b.actAll ops).max = b.max := by
  induction ops generalizing b with
  | nil => exact ⟨rfl, rfl, rfl⟩
  | cons op ops ih =>
    obtain ⟨deposit, withdraw, max⟩ := b.terms_act op
    rw [← deposit, ← withdraw, ← max]
    exact ih (b.act op)

theorem actAll_append (b : TokenBudget) (ops later : List BudgetOp) :
    b.actAll (ops ++ later) = (b.actAll ops).actAll later := List.foldl_append

theorem granted_append (b : TokenBudget) (ops later : List BudgetOp) :
    b.granted (ops ++ later) = b.granted ops + (b.actAll ops).granted later := by
  induction ops generalizing b with
  | nil => exact (Nat.zero_add _).symm
  | cons op ops ih =>
    show b.grant op + (b.act op).granted (ops ++ later) = _
    rw [ih, ← Nat.add_assoc]
    rfl

/-! ## More generous budgets -/

/-- The terms of the second budget are no worse: it takes in no less, charges no more and can hold as
much. -/
structure Kinder (b₁ b₂ : TokenBudget) : Prop where
  deposit : b₁.deposit ≤ b₂.deposit
  withdraw : b₂.withdraw ≤ b₁.withdraw
  max : b₁.max ≤ b₂.max

/-- The second budget is at least as generous: its terms are no worse, and it holds as much. -/
structure Outdone (b₁ b₂ : TokenBudget) : Prop extends Kinder b₁ b₂ where
  tokens : b₁.tokens ≤ b₂.tokens

/-- The second budget is ahead by some grants, and may be poorer by what it has charged for these. -/
structure Ahead (lead : Nat) (b₁ b₂ : TokenBudget) : Prop extends Kinder b₁ b₂ where
  tokens : b₁.tokens.toNat ≤ b₂.tokens.toNat + lead * b₂.withdraw.toNat

theorem Outdone.ahead (h : Outdone b₁ b₂) : Ahead 0 b₁ b₂ where
  toKinder := h.toKinder
  tokens := Nat.le_add_right_of_le (UInt32.le_iff_toNat_le.mp h.tokens)

theorem Kinder.act (h : Kinder b₁ b₂) (op : BudgetOp) : Kinder (b₁.act op) (b₂.act op) := by
  obtain ⟨deposit₁, withdraw₁, max₁⟩ := b₁.terms_act op
  obtain ⟨deposit₂, withdraw₂, max₂⟩ := b₂.terms_act op
  constructor
  case deposit => rw [deposit₁, deposit₂]; exact h.deposit
  case withdraw => rw [withdraw₁, withdraw₂]; exact h.withdraw
  case max => rw [max₁, max₂]; exact h.max

theorem Kinder.ahead {lead : Nat} {op : BudgetOp} (h : Kinder b₁ b₂)
    (tokens : (b₁.act op).tokens.toNat ≤ (b₂.act op).tokens.toNat + lead * b₂.withdraw.toNat) :
    Ahead lead (b₁.act op) (b₂.act op) where
  toKinder := h.act op
  tokens := by
    rw [(b₂.terms_act op).2.1]
    exact tokens

/-- An operation moves the lead by what the two budgets grant differently. -/
theorem Ahead.act {lead : Nat} (h : Ahead lead b₁ b₂) (op : BudgetOp) :
    ∃ lead', lead' + b₁.grant op = lead + b₂.grant op ∧ Ahead lead' (b₁.act op) (b₂.act op) := by
  have hdeposit := UInt32.le_iff_toNat_le.mp h.deposit
  have hwithdraw := UInt32.le_iff_toNat_le.mp h.withdraw
  have hmax := UInt32.le_iff_toNat_le.mp h.max
  have htokens := h.tokens
  cases op with
  | fund =>
    refine ⟨lead, rfl, h.toKinder.ahead ?_⟩
    show b₁.fund.tokens.toNat ≤ b₂.fund.tokens.toNat + _
    rw [toNat_fund, toNat_fund]
    omega
  | consume =>
    rcases b₁.consume_cases with ⟨rich₁, grant₁, paid₁⟩ | ⟨poor₁, grant₁, kept₁⟩ <;>
      rcases b₂.consume_cases with ⟨rich₂, grant₂, paid₂⟩ | ⟨poor₂, grant₂, kept₂⟩ <;>
      rw [grant₁, grant₂]
    case inl.inl =>
      exact ⟨lead, rfl, h.toKinder.ahead (by omega)⟩
    case inl.inr =>
      -- the second budget is too poor for what the first one pays, so it is ahead
      obtain _ | lead := lead
      · omega
      · rw [Nat.add_one_mul] at htokens
        exact ⟨lead, rfl, h.toKinder.ahead (by rw [kept₂]; omega)⟩
    case inr.inl =>
      refine ⟨lead + 1, rfl, h.toKinder.ahead ?_⟩
      rw [kept₁, Nat.add_one_mul]
      omega
    case inr.inr =>
      exact ⟨lead, rfl, h.toKinder.ahead (by rw [kept₁, kept₂]; exact htokens)⟩

theorem Ahead.granted_le {lead : Nat} (h : Ahead lead b₁ b₂) (ops : List BudgetOp) :
    b₁.granted ops ≤ lead + b₂.granted ops := by
  induction ops generalizing lead b₁ b₂ with
  | nil => exact Nat.zero_le _
  | cons op ops ih =>
    obtain ⟨lead', moved, h'⟩ := h.act op
    have later := ih h'
    simp only [granted]
    omega

/-- A budget within its cap is outdone by itself after a deposit. -/
theorem outdone_fund (h : b.tokens ≤ b.max) : Outdone b b.fund where
  toKinder := ⟨UInt32.le_refl _, UInt32.le_refl _, UInt32.le_refl _⟩
  tokens := by
    rw [UInt32.le_iff_toNat_le] at h ⊢
    rw [toNat_fund]
    omega

theorem granted_fund_le (h : b.tokens ≤ b.max) (ops later : List BudgetOp) :
    b.granted (ops ++ later) ≤ b.granted (ops ++ .fund :: later) := by
  have more := (outdone_fund (actAll_within h ops)).ahead.granted_le later
  rw [granted_append, granted_append]
  simp only [granted, grant, act]
  omega

/-- Of two budgets that go through the same operations, the more generous one has granted at least as
much at any time. Nor does a deposit anywhere among the operations ever lower what a budget has
granted by any later time. -/
theorem generous_grants :
    (∀ b₁ b₂ : TokenBudget, Outdone b₁ b₂ →
      ∀ (ops : List BudgetOp) (k : Nat), b₁.granted (ops.take k) ≤ b₂.granted (ops.take k)) ∧
    (∀ b : TokenBudget, b.tokens ≤ b.max →
      ∀ (ops later : List BudgetOp) (k : Nat), ops.length ≤ k →
        b.granted ((ops ++ later).take k) ≤ b.granted ((ops ++ .fund :: later).take (k + 1))) := by
  refine ⟨fun b₁ b₂ h ops k => ?_, fun b h ops later k hk => ?_⟩
  · simpa only [Nat.zero_add] using h.ahead.granted_le (ops.take k)
  · obtain ⟨j, rfl⟩ := Nat.exists_eq_add_of_le hk
    rw [List.take_length_add_append, Nat.add_assoc, List.take_length_add_append,
      List.take_succ_cons]
    exact granted_fund_le h ops (later.take j)

/-- The generous budget has granted the first of these backups, so it refuses the second one, which
the other budget grants. -/
theorem generous_grants_of_poorer :
    let stingy : TokenBudget := .new 1 4 10 3
    let generous : TokenBudget := .new 1 3 10 3
    let ops : List BudgetOp := [.consume, .fund, .consume]
    Outdone stingy generous ∧ stingy.granted (ops.take 3) ≤ generous.granted (ops.take 3) ∧
      (stingy.actAll (ops.take 2)).grant .consume = 1 ∧
      (generous.actAll (ops.take 2)).grant .consume = 0 ∧
      stingy.tokens ≤ stingy.max ∧
      stingy.granted ((ops.take 1 ++ ops).take 4) ≤
        stingy.granted ((ops.take 1 ++ .fund :: ops).take 5) := by
  intro stingy generous ops
  have outdone : Outdone stingy generous := ⟨⟨by decide, by decide, by decide⟩, by decide⟩
  have within : stingy.tokens ≤ stingy.max := by decide
  exact ⟨outdone, generous_grants.1 stingy generous outdone ops 3, by decide, by decide, within,
    generous_grants.2 stingy within (ops.take 1) ops 4 (by decide)⟩

/-! ## The steady share -/

/-- A budget is funded and then asked for a backup. -/
def round : List BudgetOp := [.fund, .consume]

/-- Some rounds. -/
def rounds (n : Nat) : List BudgetOp := (List.replicate n round).flatten

/-- A budget that saves for a backup. It cannot pay for one yet, one deposit pays for one at most, and
the cap leaves room for the deposit that makes it enough. -/
structure Saving (b : TokenBudget) : Prop where
  deposit : b.deposit ≤ b.withdraw
  max : b.withdraw.toNat + b.deposit.toNat - 1 ≤ b.max.toNat
  tokens : b.tokens < b.withdraw

theorem Saving.of_terms {b' : TokenBudget} (h : Saving b)
    (terms : b'.deposit = b.deposit ∧ b'.withdraw = b.withdraw ∧ b'.max = b.max)
    (tokens : b'.tokens.toNat < b.withdraw.toNat) : Saving b' := by
  obtain ⟨deposit, withdraw, max⟩ := terms
  constructor
  case deposit => rw [deposit, withdraw]; exact h.deposit
  case max => rw [deposit, withdraw, max]; exact h.max
  case tokens => rw [withdraw]; exact UInt32.lt_iff_toNat_lt.mpr tokens

/-- A round pays one deposit in and, where that makes enough for a backup, the cost of one out. -/
theorem Saving.paid_round (h : Saving b) :
    Saving (b.actAll round) ∧
      b.withdraw.toNat * b.granted round + (b.actAll round).tokens.toNat =
        b.tokens.toNat + b.deposit.toNat := by
  have hdeposit := UInt32.le_iff_toNat_le.mp h.deposit
  have hmax := h.max
  have htokens := UInt32.lt_iff_toNat_lt.mp h.tokens
  have withdraw := (b.terms_act .fund).2.1
  -- the cap leaves room for a deposit beside less than one backup costs
  have paid : (b.act .fund).tokens.toNat = b.tokens.toNat + b.deposit.toNat := by
    show b.fund.tokens.toNat = _
    rw [toNat_fund]
    omega
  have grants : b.granted round = (b.act .fund).grant .consume := Nat.zero_add _
  have after : b.actAll round = (b.act .fund).act .consume := rfl
  have cases := (b.act .fund).consume_cases
  rw [withdraw, paid, ← grants, ← after] at cases
  rcases cases with ⟨rich, one, left⟩ | ⟨poor, zero, kept⟩
  · rw [one]
    exact ⟨h.of_terms (b.terms_actAll _) (by omega), by omega⟩
  · rw [zero, kept, paid]
    exact ⟨h.of_terms (b.terms_act _) (by rw [paid]; exact poor), by omega⟩

/-- After any rounds, what was paid in is what was paid out for backups and what is held. -/
theorem Saving.paid_rounds (h : Saving b) (n : Nat) :
    Saving (b.actAll (rounds n)) ∧
      b.withdraw.toNat * b.granted (rounds n) + (b.actAll (rounds n)).tokens.toNat =
        b.tokens.toNat + n * b.deposit.toNat := by
  induction n generalizing b with
  | zero => exact ⟨h, by simp [rounds, granted, actAll]⟩
  | succ n ih =>
    obtain ⟨saving, first⟩ := h.paid_round
    obtain ⟨deposit, withdraw, -⟩ := b.terms_actAll round
    obtain ⟨saved, others⟩ := ih saving
    rw [deposit, withdraw] at others
    have split : rounds (n + 1) = round ++ rounds n := by
      simp only [rounds, List.replicate_succ, List.flatten_cons]
    rw [split, actAll_append, granted_append, Nat.mul_add, Nat.add_one_mul]
    exact ⟨saved, by omega⟩

/-- A budget that saves for its backups grants one for every full `withdraw` that it has been paid,
and holds the rest. So in the long run it grants `deposit` backups in `withdraw` rounds. -/
theorem steady_share {b : TokenBudget} (h : Saving b) (n : Nat) :
    b.granted (rounds n) = (b.tokens.toNat + n * b.deposit.toNat) / b.withdraw.toNat ∧
      (b.actAll (rounds n)).tokens.toNat =
        (b.tokens.toNat + n * b.deposit.toNat) % b.withdraw.toNat := by
  obtain ⟨saving, account⟩ := h.paid_rounds n
  have below := UInt32.lt_iff_toNat_lt.mp saving.tokens
  rw [(b.terms_actAll (rounds n)).2.1] at below
  obtain ⟨quotient, remainder⟩ := (Nat.div_mod_unique (Nat.zero_lt_of_lt below)).mpr
    ⟨(Nat.add_comm ..).trans account, below⟩
  exact ⟨quotient.symm, remainder.symm⟩

/-- The cap is as low as it may be here. -/
theorem steady_share_of_tight_cap :
    let b : TokenBudget := .new 3 7 9 2
    Saving b ∧ b.granted (rounds 1000) = 428 ∧ (b.actAll (rounds 1000)).tokens.toNat = 6 := by
  intro b
  have saving : Saving b := ⟨by decide, by decide, by decide⟩
  have quotient : (b.tokens.toNat + 1000 * b.deposit.toNat) / b.withdraw.toNat = 428 := by decide
  have remainder : (b.tokens.toNat + 1000 * b.deposit.toNat) % b.withdraw.toNat = 6 := by decide
  obtain ⟨granted, tokens⟩ := steady_share saving 1000
  exact ⟨saving, granted.trans quotient, tokens.trans remainder⟩

end TokenBudget

end Hedging
