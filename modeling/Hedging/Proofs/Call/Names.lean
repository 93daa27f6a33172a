import Hedging.Call.Board

/-!
# The names of calls

An operation on a board reaches a call through its name. A name stands for one call at a time and no
two names for the same one (`Tidy`), so what is done under one name never touches the call of
another.

> `Tidy.step`: an operation keeps the names tidy.
> `lookup_step`: a name stands for the same call until the call is waited for, dropped or replaced.
-/

namespace Hedging

section Lookup

variable {names : List (String × Nat)} {name other : String} {id : Nat}

theorem mem_of_lookup (h : names.lookup name = some id) : (name, id) ∈ names := by
  obtain ⟨before, after, rfl, -⟩ := List.lookup_eq_some_iff.mp h
  exact List.mem_append_right _ (List.mem_cons_self ..)

/-- To forget a name leaves all others known. -/
theorem lookup_filter_ne (names : List (String × Nat)) (h : name ≠ other) :
    (names.filter (·.1 != other)).lookup name = names.lookup name := by
  induction names with
  | nil => rfl
  | cons entry rest ih =>
    obtain ⟨first, id⟩ := entry
    rw [List.filter_cons]
    split
    · rw [List.lookup_cons, List.lookup_cons, ih]
    next hname =>
      have heq : first = other := by simpa using hname
      have hne : (name == first) = false := by
        rw [beq_eq_false_iff_ne, heq]
        exact h
      rw [List.lookup_cons, hne, ih]

/-- To forget a name that is not known changes nothing. -/
theorem filter_of_lookup (h : names.lookup name = none) : names.filter (·.1 != name) = names := by
  refine List.filter_eq_self.mpr fun entry hentry => ?_
  have hne := bne_iff_ne.mp (List.lookup_eq_none_iff.mp h entry hentry)
  exact bne_iff_ne.mpr hne.symm

end Lookup

namespace Board

variable {σ ρ α ε : Type} {svc : Service σ ρ α ε} {b : Board σ ρ α ε} {name other : String}
  {id : CallId} {op : Op ρ}

/-! ## Runs of a board -/

/-- Carries out operations one after the other. -/
def play (svc : Service σ ρ α ε) (b : Board σ ρ α ε) (ops : List (Op ρ)) : Board σ ρ α ε :=
  ops.foldl (fun b op => (b.step svc op).2) b

/-- The operations, each with the board that it is carried out on. -/
def trace (svc : Service σ ρ α ε) :
    Board σ ρ α ε → List (Op ρ) → List (Board σ ρ α ε × Op ρ)
  | _, [] => []
  | b, op :: ops => (b, op) :: trace svc (b.step svc op).2 ops

theorem play_concat (b : Board σ ρ α ε) (ops : List (Op ρ)) (op : Op ρ) :
    b.play svc (ops ++ [op]) = ((b.play svc ops).step svc op).2 :=
  List.foldl_append

theorem trace_concat (b : Board σ ρ α ε) (ops : List (Op ρ)) (op : Op ρ) :
    b.trace svc (ops ++ [op]) = b.trace svc ops ++ [(b.play svc ops, op)] := by
  induction ops generalizing b with
  | nil => rfl
  | cons first rest ih => exact congrArg ((b, first) :: ·) (ih (b.step svc first).2)

/-! ## Names -/

/-- Every name stands for a call that was issued, and no two for the same. -/
structure Tidy (b : Board σ ρ α ε) : Prop where
  known : ∀ entry ∈ b.names, entry.2 < b.calls.length
  apart : ∀ a ∈ b.names, ∀ c ∈ b.names, a.2 = c.2 → a = c

theorem new_tidy (service : σ) : (new service : Board σ ρ α ε).Tidy := ⟨nofun, nofun⟩

theorem find?_of_lookup (h : b.Tidy) (hfound : b.names.lookup name = some id) :
    ∃ call, b.calls[id]? = some call ∧ b.find? name = some (id, call) := by
  have hlt := h.known _ (mem_of_lookup hfound)
  refine ⟨b.calls[id], List.getElem?_eq_getElem hlt, ?_⟩
  simp only [find?, hfound, Option.bind_eq_bind, Option.bind_some, List.getElem?_eq_getElem hlt]
  rfl

theorem find?_of_unknown (hfound : b.names.lookup name = none) : b.find? name = none := by
  simp only [find?, hfound, Option.bind_eq_bind, Option.bind_none]

/-- The call of another name is another call. -/
theorem Tidy.id_ne (h : b.Tidy) {i : CallId} (hfound : b.names.lookup name = some id)
    (hother : b.names.lookup other = some i) (hne : other ≠ name) : i ≠ id := by
  intro heq
  have hsame := h.apart _ (mem_of_lookup hother) _ (mem_of_lookup hfound) heq
  exact hne (congrArg Prod.fst hsame)

/-- The names after an operation. -/
def Op.names (b : Board σ ρ α ε) : Op ρ → List (String × CallId)
  | .issue name _ => (name, b.calls.length) :: b.names.filter (·.1 != name)
  | .wait name | .drop name => b.names.filter (·.1 != name)
  | .cancel _ | .elapsed _ | .sleep _ => b.names

/-- An operation on a name that is not known does nothing. -/
theorem act_unknown (svc : Service σ ρ α ε) (hfound : b.names.lookup name = none)
    (hop : op = .wait name ∨ op = .cancel name ∨ op = .drop name ∨ op = .elapsed name) :
    b.act svc op = (.noSuchCall, b) := by
  rcases hop with rfl | rfl | rfl | rfl <;> simp only [act, find?_of_unknown hfound]

theorem names_step (h : b.Tidy) (svc : Service σ ρ α ε) (op : Op ρ) :
    (b.step svc op).2.names = op.names b := by
  show (b.act svc op).2.names = op.names b
  cases op with
  | issue name payload => rfl
  | wait name =>
    cases hfound : b.names.lookup name with
    | none =>
      rw [act_unknown svc hfound (.inl rfl)]
      exact (filter_of_lookup hfound).symm
    | some id =>
      obtain ⟨call, -, hcall⟩ := find?_of_lookup h hfound
      simp only [act, hcall]
      split <;> rfl
  | cancel name =>
    simp only [act]
    split <;> rfl
  | drop name =>
    cases hfound : b.names.lookup name with
    | none =>
      rw [act_unknown svc hfound (.inr (.inr (.inl rfl)))]
      exact (filter_of_lookup hfound).symm
    | some id =>
      obtain ⟨call, -, hcall⟩ := find?_of_lookup h hfound
      simp only [act, hcall]
      rfl
  | elapsed name =>
    simp only [act]
    split <;> rfl
  | sleep d => rfl

/-- The operations after which a name stands for the call it stood for. -/
def Op.Keeps (name : String) : Op ρ → Prop
  | .issue other _ | .wait other | .drop other => other ≠ name
  | .cancel _ | .elapsed _ | .sleep _ => True

theorem lookup_step (h : b.Tidy) (svc : Service σ ρ α ε) (hfound : b.names.lookup name = some id)
    (hop : op.Keeps name) : (b.step svc op).2.names.lookup name = some id := by
  rw [names_step h]
  cases op with
  | issue other payload =>
    have hne : name ≠ other := Ne.symm hop
    show List.lookup name ((other, _) :: _) = some id
    rw [List.lookup_cons, beq_eq_false_iff_ne.mpr hne]
    exact (lookup_filter_ne b.names hne).trans hfound
  | wait other => exact (lookup_filter_ne b.names (Ne.symm hop)).trans hfound
  | drop other => exact (lookup_filter_ne b.names (Ne.symm hop)).trans hfound
  | cancel other => exact hfound
  | elapsed other => exact hfound
  | sleep d => exact hfound

/-- A name after an operation is one from before that the operation kept, or that of a new call. -/
theorem mem_names {entry : String × CallId} (h : entry ∈ op.names b) :
    entry ∈ b.names ∧ op.Keeps entry.1 ∨
      entry.2 = b.calls.length ∧ ∃ payload, op = .issue entry.1 payload := by
  have hfilter : ∀ name, entry ∈ b.names.filter (·.1 != name) →
      entry ∈ b.names ∧ name ≠ entry.1 := by
    intro name hmem
    obtain ⟨hold, hne⟩ := List.mem_filter.mp hmem
    exact ⟨hold, Ne.symm (bne_iff_ne.mp hne)⟩
  cases op with
  | issue name payload =>
    rcases List.mem_cons.mp h with rfl | hold
    · exact .inr ⟨rfl, payload, rfl⟩
    · exact .inl (hfilter name hold)
  | wait name => exact .inl (hfilter name h)
  | drop name => exact .inl (hfilter name h)
  | cancel name => exact .inl ⟨h, trivial⟩
  | elapsed name => exact .inl ⟨h, trivial⟩
  | sleep d => exact .inl ⟨h, trivial⟩

theorem Tidy.step (h : b.Tidy) (svc : Service σ ρ α ε) (op : Op ρ)
    (hlength : b.calls.length ≤ (b.step svc op).2.calls.length)
    (hissue : ∀ name payload, op = .issue name payload →
      b.calls.length < (b.step svc op).2.calls.length) : (b.step svc op).2.Tidy := by
  have hnames := names_step h svc op
  refine ⟨fun entry hentry => ?_, fun a ha c hc hac => ?_⟩
  · rw [hnames] at hentry
    rcases mem_names hentry with ⟨hold, -⟩ | ⟨hnew, payload, hop⟩
    · exact Nat.lt_of_lt_of_le (h.known entry hold) hlength
    · rw [hnew]
      exact hissue _ _ hop
  · rw [hnames] at ha hc
    rcases mem_names ha with ⟨hold, -⟩ | ⟨hnew, payload, hop⟩
    · rcases mem_names hc with ⟨hold', -⟩ | ⟨hnew', -⟩
      · exact h.apart a hold c hold' hac
      · exact absurd (hac.trans hnew') (Nat.ne_of_lt (h.known a hold))
    · rcases mem_names hc with ⟨hold', -⟩ | ⟨hnew', payload', hop'⟩
      · exact absurd (hac.symm.trans hnew) (Nat.ne_of_lt (h.known c hold'))
      · obtain ⟨hname, -⟩ := Op.issue.inj (hop.symm.trans hop')
        exact Prod.ext hname hac

end Board

end Hedging
