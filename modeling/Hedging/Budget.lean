/-!
# Who pays for a backup

Every request of its own accord puts tokens into a budget, and every backup takes a larger amount
out, which bounds the load that hedging adds. Amounts are 32-bit words and a deposit never wraps:
`toNat_fund` gives it in unbounded arithmetic, and `fund_le` and `tryConsume_le` say that the tokens
stay within the cap.
-/

namespace Hedging

/-- Decides whether a backup may be sent. -/
class AdmissionBudget (β : Type) where
  /-- Credits one request. -/
  fund : β → β
  /-- Takes the cost of one backup out, or takes nothing and refuses. -/
  tryConsume : β → Bool × β
  /-- The tokens held, for budgets that count them. -/
  tokens : β → Option UInt32

/-- The sum of two words, or the greatest word if it does not fit. -/
def saturatingAdd (a b : UInt32) : UInt32 :=
  if a.toNat + b.toNat ≤ 0xffffffff then a + b else 0xffffffff

theorem toNat_saturatingAdd (a b : UInt32) :
    (saturatingAdd a b).toNat = min (a.toNat + b.toNat) 0xffffffff := by
  unfold saturatingAdd
  split
  · rw [UInt32.toNat_add, Nat.mod_eq_of_lt (by omega)]
    omega
  · simp only [UInt32.reduceToNat]
    omega

/-- The smaller of two words. -/
def minWord (a b : UInt32) : UInt32 := if a.toNat ≤ b.toNat then a else b

theorem toNat_minWord (a b : UInt32) : (minWord a b).toNat = min a.toNat b.toNat := by
  unfold minWord
  split <;> omega

/-- A count of tokens with a cap. -/
structure TokenBudget where
  deposit : UInt32
  withdraw : UInt32
  max : UInt32
  tokens : UInt32
deriving DecidableEq, Repr

namespace TokenBudget

/-- A budget that starts with some tokens, as many as the cap allows. -/
def new (deposit withdraw max initial : UInt32) : TokenBudget :=
  ⟨deposit, withdraw, max, minWord initial max⟩

/-- One deposit, cut off at the cap. -/
def fund (b : TokenBudget) : TokenBudget :=
  { b with tokens := minWord (saturatingAdd b.tokens b.deposit) b.max }

/-- One withdrawal, if there are tokens enough. -/
def tryConsume (b : TokenBudget) : Bool × TokenBudget :=
  if b.tokens.toNat < b.withdraw.toNat then (false, b)
  else (true, { b with tokens := b.tokens - b.withdraw })

/-- A deposit in unbounded arithmetic. -/
theorem toNat_fund (b : TokenBudget) :
    b.fund.tokens.toNat = min (b.tokens.toNat + b.deposit.toNat) b.max.toNat := by
  have := b.max.toNat_lt
  simp only [fund, toNat_minWord, toNat_saturatingAdd]
  omega

theorem fund_le (b : TokenBudget) : b.fund.tokens.toNat ≤ b.fund.max.toNat := by
  rw [toNat_fund]
  exact Nat.min_le_right ..

theorem tryConsume_granted_iff (b : TokenBudget) :
    b.tryConsume.1 = true ↔ b.withdraw.toNat ≤ b.tokens.toNat := by
  unfold tryConsume
  split
  · simp
    omega
  · simp
    omega

/-- A withdrawal in unbounded arithmetic. -/
theorem toNat_tryConsume (b : TokenBudget) :
    b.tryConsume.2.tokens.toNat =
      if b.withdraw.toNat ≤ b.tokens.toNat then b.tokens.toNat - b.withdraw.toNat
      else b.tokens.toNat := by
  unfold tryConsume
  split
  · rw [if_neg (by omega)]
  · rw [if_pos (by omega), UInt32.toNat_sub_of_le _ _ (UInt32.le_iff_toNat_le.mpr (by omega))]

/-- A backup is granted and paid for, or nothing happens. -/
theorem tryConsume_cases (b : TokenBudget) :
    (b.withdraw.toNat ≤ b.tokens.toNat ∧ b.tryConsume.1 = true ∧
      b.tryConsume.2.tokens.toNat + b.withdraw.toNat = b.tokens.toNat) ∨
    (b.tokens.toNat < b.withdraw.toNat ∧ b.tryConsume = (false, b)) := by
  rcases Nat.lt_or_ge b.tokens.toNat b.withdraw.toNat with poor | rich
  · exact .inr ⟨poor, if_pos poor⟩
  · refine .inl ⟨rich, b.tryConsume_granted_iff.mpr rich, ?_⟩
    rw [toNat_tryConsume, if_pos rich]
    omega

theorem tryConsume_le {b : TokenBudget} (h : b.tokens.toNat ≤ b.max.toNat) :
    b.tryConsume.2.tokens.toNat ≤ b.tryConsume.2.max.toNat := by
  have hmax : b.tryConsume.2.max = b.max := by
    unfold tryConsume
    split <;> rfl
  rw [toNat_tryConsume, hmax]
  split <;> omega

instance : AdmissionBudget TokenBudget := ⟨fund, tryConsume, fun b => some b.tokens⟩

end TokenBudget

/-- Grants every backup. -/
structure UnlimitedBudget where
deriving DecidableEq, Repr

instance : AdmissionBudget UnlimitedBudget := ⟨id, fun b => (true, b), fun _ => none⟩

/-- Refuses every backup. -/
structure ClosedBudget where
deriving DecidableEq, Repr

instance : AdmissionBudget ClosedBudget := ⟨id, fun b => (false, b), fun _ => none⟩

/-- The budgets a resolver can be given by name. -/
inductive Budget
  | token (b : TokenBudget)
  | unlimited
  | closed
deriving DecidableEq, Repr

namespace Budget

/-- One backup for every twenty requests, and at most five at once. -/
def default : Budget := .token (.new 1 20 100 0)

instance : AdmissionBudget Budget where
  fund
    | .token b => .token b.fund
    | b => b
  tryConsume
    | .token b => (b.tryConsume.1, .token b.tryConsume.2)
    | .unlimited => (true, .unlimited)
    | .closed => (false, .closed)
  tokens
    | .token b => some b.tokens
    | _ => none

end Budget

end Hedging
