import Hedging.Proofs.Number.Digits
import Hedging.Proofs.Settings.Opening

/-!
# Whole numbers in the environment

All numbers of the settings but the multiplier are whole: nine variables, each with the greatest
number that it can hold. They are read alike. Blanks are taken off both ends, and the rest is to
stand for a number in decimal; the kind of the variable only says how great the number may be and
what is made of it.

> `integers_read_exactly`: a text gives a variable the number that it stands for, if that fits, and
> is refused if it stands for none; a number that does not fit is refused for that reason.
-/

namespace Hedging

open Text (isBlank trim trim_surrounded)

namespace Natural

variable {n : Nat} {c : Char} {cs left right : List Char}

theorem isBlank_of_isDigit (h : c.isDigit = true) : isBlank c = false := by
  obtain ⟨low, high⟩ := isDigit_iff.mp h
  simp only [isBlank, Bool.or_eq_false_iff, Bool.and_eq_false_iff, beq_eq_false_iff_ne,
    decide_eq_false_iff_not]
  omega

theorem Stands.isBlank (h : Stands n cs) : ∀ c ∈ cs, isBlank c = false := by
  cases h with
  | bare h => exact fun c hc => isBlank_of_isDigit (h.isDigit c hc)
  | signed h =>
    exact List.forall_mem_cons.mpr ⟨rfl, fun c hc => isBlank_of_isDigit (h.isDigit c hc)⟩

/-- Blanks around what stands for a number are taken off, and nothing else is. -/
theorem Stands.trim_eq (h : Stands n cs) (hleft : ∀ c ∈ left, Text.isBlank c = true)
    (hright : ∀ c ∈ right, Text.isBlank c = true) : trim (left ++ cs ++ right) = cs :=
  trim_surrounded hleft hright (fun c hc => h.isBlank c (List.mem_of_mem_head? hc))
    fun c hc => h.isBlank c (List.mem_of_getLast? hc)

end Natural

/-- A variable that holds a whole number up to `limit`, and what is made of the number. -/
structure IntegerVariable where
  {Value : Type}
  key : String
  limit : Nat
  read : NumberReader Value
  make : Nat → Value
  number : Value → Nat
  read_eq : ∀ cs, read cs = ((Natural.read limit cs).map make).mapError .natural
  number_make : ∀ n ≤ limit, number (make n) = n

namespace IntegerVariable

/-- A word of 32 bits. -/
def word32 (key : String) : IntegerVariable where
  key := key
  limit := maxWord32
  read := readWord32
  make := UInt32.ofNat
  number := UInt32.toNat
  read_eq cs := by
    unfold readWord32
    cases Natural.read maxWord32 cs <;> rfl
  number_make n h := UInt32.toNat_ofNat_of_lt' (Nat.lt_succ_of_le h)

/-- A word of 64 bits. -/
def word64 (key : String) : IntegerVariable where
  key := key
  limit := maxWord64
  read := readWord64
  make := UInt64.ofNat
  number := UInt64.toNat
  read_eq cs := by
    unfold readWord64
    cases Natural.read maxWord64 cs <;> rfl
  number_make n h := UInt64.toNat_ofNat_of_lt' (Nat.lt_succ_of_le h)

/-- A span of whole milliseconds, in a word of 64 bits. -/
def millis (key : String) : IntegerVariable where
  key := key
  limit := maxWord64
  read := readMillis
  make := .ofMillis
  number := Duration.millis
  read_eq cs := by
    unfold readMillis
    cases Natural.read maxWord64 cs <;> rfl
  number_make n _ := Duration.millis_ofMillis n

/-- The variables that hold whole numbers, in the order in which they are read. -/
def all : List IntegerVariable :=
  [word64 "HEDGE_WINDOW", word32 "HEDGE_DEPOSIT", word32 "HEDGE_WITHDRAW", word32 "HEDGE_MAX_TOKENS",
    millis "SIM_BASE_MS", millis "SIM_JITTER_MS", millis "SIM_TAIL_MS", word32 "SIM_TAIL_PERCENT",
    word32 "SIM_FAILURE_PERCENT"]

/-- The variable as one that is read for the settings. -/
def toNumberVariable (v : IntegerVariable) : NumberVariable := ⟨v.key, v.read.problem?⟩

variable {v : IntegerVariable} {env : Environment} {raw : String} {n : Nat}

theorem read_eq_ok_iff (v : IntegerVariable) (cs : List Char) (x : v.Value) :
    v.read cs = .ok x ↔ ∃ n ≤ v.limit, Natural.Stands n cs ∧ v.make n = x := by
  rw [v.read_eq]
  constructor
  · intro h
    cases hread : Natural.read v.limit cs with
    | error p =>
      rw [hread] at h
      cases h
    | ok n =>
      obtain ⟨hstands, hle⟩ := Natural.read_eq_ok_iff.mp hread
      rw [hread] at h
      exact ⟨n, hle, hstands, Except.ok.inj h⟩
  · rintro ⟨n, hle, hstands, rfl⟩
    rw [Natural.read_eq_ok_iff.mpr ⟨hstands, hle⟩]
    rfl

theorem readOr_eq_ok_iff (htext : env v.key = .text raw) (default x : v.Value) :
    env.readOr v.read v.key default = .ok x ↔
      ∃ n ≤ v.limit, Natural.Stands n (trim raw.toList) ∧ v.make n = x := by
  rw [Environment.readOr_of_text htext, ← v.read_eq_ok_iff]
  cases v.read (trim raw.toList) with
  | ok y => exact ⟨fun h => congrArg _ (Except.ok.inj h), fun h => congrArg _ (Except.ok.inj h)⟩
  | error p => exact ⟨nofun, nofun⟩

theorem readOr_of_large (htext : env v.key = .text raw) (hstands : Natural.Stands n (trim raw.toList))
    (large : v.limit < n) (default : v.Value) :
    env.readOr v.read v.key default =
      .error (.malformed v.key raw (.natural .tooLarge)) := by
  rw [Environment.readOr_of_text htext, v.read_eq, Natural.read_of_large hstands large]
  rfl

/-- **Whole numbers are read exactly.** The nine variables that hold one are all that are read for the
settings, apart from the multiplier and the host.

A text is accepted if and only if, without the blanks at its ends, it is one or more ASCII digits
with a plus sign or without, and their number is within the limit; then that number is what the
variable gives. So every number is read back from its digits, whatever zeros, sign and blanks are
around them, or refused as too large, with the name of the variable and its text. -/
theorem integers_read_exactly :
    strategyVariables.tail ++ profileVariables = all.map toNumberVariable ∧
      ∀ v ∈ all, ∀ (env : Environment) (raw : String), env v.key = .text raw →
        ∀ default : v.Value,
          (∀ x, env.readOr v.read v.key default = .ok x ↔
            ∃ n ≤ v.limit, Natural.Stands n (trim raw.toList) ∧ v.make n = x ∧ v.number x = n) ∧
          ∀ (n zeros : Nat) (plus : Bool) (left right : List Char),
            (∀ c ∈ left ++ right, isBlank c = true) →
            raw.toList = left ++ Natural.decimal plus zeros n ++ right →
              (n ≤ v.limit → env.readOr v.read v.key default = .ok (v.make n)) ∧
              (v.limit < n → ∃ e, env.readOr v.read v.key default = .error e ∧
                e.chain = ["invalid value for " ++ v.key ++ ": " ++ Text.quoted raw,
                  "number too large to fit in target type"]) := by
  refine ⟨rfl, fun v _ env raw htext default => ⟨fun x => ?accepted, ?written⟩⟩
  case accepted =>
    rw [readOr_eq_ok_iff htext]
    constructor
    · rintro ⟨n, hle, hstands, rfl⟩
      exact ⟨n, hle, hstands, rfl, v.number_make n hle⟩
    · rintro ⟨n, hle, hstands, hmade, -⟩
      exact ⟨n, hle, hstands, hmade⟩
  case written =>
    intro n zeros plus left right hblank hraw
    obtain ⟨hleft, hright⟩ := List.forall_mem_append.mp hblank
    have hdecimal := Natural.stands_decimal plus zeros n
    have hstands : Natural.Stands n (trim raw.toList) := by
      rwa [hraw, hdecimal.trim_eq hleft hright]
    refine ⟨fun hle => ?_, fun large => ?_⟩
    · exact (readOr_eq_ok_iff htext default _).mpr ⟨n, hle, hstands, rfl⟩
    · exact ⟨_, readOr_of_large htext hstands large default, rfl⟩

/-- A deposit with everything around it that there may be, and a base time one above the limit. -/
def paddedAndLarge : Environment
  | "HEDGE_DEPOSIT" => .text "\u2003+007\n"
  | "SIM_BASE_MS" => .text "18446744073709551616"
  | _ => .unset

/-- The first is read as seven, the second is refused. -/
theorem integers_read_exactly_of_two :
    paddedAndLarge.readOr readWord32 "HEDGE_DEPOSIT" 1 = .ok 7 ∧
      ∃ e, paddedAndLarge.readOr readMillis "SIM_BASE_MS" .zero = .error e ∧
        e.chain = ["invalid value for SIM_BASE_MS: \"18446744073709551616\"",
          "number too large to fit in target type"] := by
  obtain ⟨-, hall⟩ := integers_read_exactly
  constructor
  · have hdeposit : word32 "HEDGE_DEPOSIT" ∈ all := .tail _ (.head _)
    obtain ⟨-, hwritten⟩ := hall _ hdeposit paddedAndLarge "\u2003+007\n" rfl (1 : UInt32)
    have hblank : ∀ c ∈ ['\u2003'] ++ ['\n'], isBlank c = true := by simp [isBlank]
    exact (hwritten 7 2 true ['\u2003'] ['\n'] hblank (by decide)).1 (by decide)
  · have hbase : millis "SIM_BASE_MS" ∈ all := .tail _ (.tail _ (.tail _ (.tail _ (.head _))))
    obtain ⟨-, hwritten⟩ :=
      hall _ hbase paddedAndLarge "18446744073709551616" rfl Duration.zero
    exact (hwritten 18446744073709551616 0 false [] [] nofun rfl).2 (by decide)

end IntegerVariable

end Hedging
