import Mathlib.Data.List.Induction
import Hedging.Proofs.Call.Names
import Hedging.Proofs.Call.Standing
import Hedging.Service.Script

/-!
# How calls end

The ledger of a board is the one that stands after its issues and its requests to abort a call
(`Faithful`), whatever was done with the board. What a wait for a call answers, and at which instant,
follows from there, without a look at the course of events in between.

> `faithful_step`: an operation adds its own call and its own request to abort one, and no more.
> `calls_complete_once`: how each call ends, what operations make no difference to it, and which
> calls are dropped.
-/

namespace Hedging

namespace Board

variable {σ ρ α ε : Type} {svc : Service σ ρ α ε} {b : Board σ ρ α ε}
  {issued : List (Call ρ α ε)} {aborts : List Abort} {name : String} {id : CallId}
  {call : Call ρ α ε} {op : Op ρ}

/-! ## What operations ask for -/

/-- The call that an operation issues. -/
def Op.issued? (svc : Service σ ρ α ε) (b : Board σ ρ α ε) : Op ρ → Option (Call ρ α ε)
  | .issue _ payload => some (.start b.now payload (svc.issue b.service payload).1)
  | .wait _ | .cancel _ | .drop _ | .elapsed _ | .sleep _ => none

/-- The request to abort a call that an operation makes. -/
def Op.abort? (b : Board σ ρ α ε) : Op ρ → Option Abort
  | .issue name _ => (b.names.lookup name).map (⟨·, b.now, .replaced⟩)
  | .cancel name => (b.names.lookup name).map (⟨·, b.now, .cancelled⟩)
  | .drop name => (b.names.lookup name).map (⟨·, b.now, .dropped⟩)
  | .wait _ | .elapsed _ | .sleep _ => none

/-- All calls issued, the first one first. -/
def issues (svc : Service σ ρ α ε) (b : Board σ ρ α ε) (ops : List (Op ρ)) : List (Call ρ α ε) :=
  (b.trace svc ops).flatMap fun (b, op) => (op.issued? svc b).toList

/-- All requests to abort a call, the first one first. -/
def abortRequests (svc : Service σ ρ α ε) (b : Board σ ρ α ε) (ops : List (Op ρ)) : List Abort :=
  (b.trace svc ops).flatMap fun (b, op) => (op.abort? b).toList

theorem issues_concat (b : Board σ ρ α ε) (ops : List (Op ρ)) (op : Op ρ) :
    b.issues svc (ops ++ [op]) = b.issues svc ops ++ (op.issued? svc (b.play svc ops)).toList := by
  unfold issues
  rw [trace_concat, List.flatMap_append, List.flatMap_singleton]

theorem abortRequests_concat (b : Board σ ρ α ε) (ops : List (Op ρ)) (op : Op ρ) :
    b.abortRequests svc (ops ++ [op]) =
      b.abortRequests svc ops ++ (op.abort? (b.play svc ops)).toList := by
  unfold abortRequests
  rw [trace_concat, List.flatMap_append, List.flatMap_singleton]

/-- A request to abort a call goes to the call of a name, at the present instant. A call that is
cancelled keeps its name, any other loses it. -/
theorem lookup_of_abort? {abort : Abort} (h : op.abort? b = some abort) :
    ∃ name, b.names.lookup name = some abort.id ∧ abort.instant = b.now ∧
      (op = .cancel name ∧ abort.kind = .cancelled ∨ ¬ op.Keeps name) := by
  cases op with
  | issue name payload =>
    obtain ⟨id, hid, rfl⟩ := Option.map_eq_some_iff.mp h
    exact ⟨name, hid, rfl, .inr fun hne => hne rfl⟩
  | cancel name =>
    obtain ⟨id, hid, rfl⟩ := Option.map_eq_some_iff.mp h
    exact ⟨name, hid, rfl, .inl ⟨rfl, rfl⟩⟩
  | drop name =>
    obtain ⟨id, hid, rfl⟩ := Option.map_eq_some_iff.mp h
    exact ⟨name, hid, rfl, .inr fun hne => hne rfl⟩
  | wait name => cases h
  | elapsed name => cases h
  | sleep d => cases h

/-! ## What a board keeps -/

/-- A board on which every call stands as these issues and these requests to abort make it stand. A
call that still has its name has been cancelled at most. -/
structure Faithful (b : Board σ ρ α ε) (issued : List (Call ρ α ε)) (aborts : List Abort) :
    Prop where
  tidy : b.Tidy
  calls : b.calls = Ledger.standing issued aborts b.now
  known : ∀ abort ∈ aborts, abort.id < issued.length
  named : ∀ entry ∈ b.names, ∀ abort ∈ aborts, abort.id = entry.2 → abort.kind = .cancelled

theorem new_faithful (service : σ) : (new service : Board σ ρ α ε).Faithful [] [] :=
  ⟨new_tidy service, rfl, nofun, nofun⟩

theorem Faithful.length (h : b.Faithful issued aborts) : b.calls.length = issued.length := by
  rw [h.calls, Ledger.length_standing]

theorem Faithful.find? (h : b.Faithful issued aborts) (hfound : b.names.lookup name = some id) :
    ∃ call, issued[id]? = some call ∧
      b.find? name = some (id, call.standing aborts b.now id) := by
  obtain ⟨held, hheld, hfind⟩ := find?_of_lookup h.tidy hfound
  rw [h.calls, Ledger.getElem?_standing] at hheld
  obtain ⟨call, hcall, rfl⟩ := Option.map_eq_some_iff.mp hheld
  exact ⟨call, hcall, hfind⟩

theorem Faithful.find?_issued (h : b.Faithful issued aborts)
    (hfound : b.names.lookup name = some id) (hissued : issued[id]? = some call) :
    b.find? name = some (id, call.standing aborts b.now id) := by
  obtain ⟨found, hcall, hfind⟩ := h.find? hfound
  obtain rfl := Option.some.inj (hissued.symm.trans hcall)
  exact hfind

/-- Time may pass. -/
theorem calls_passTo (h : b.calls = Ledger.standing issued aborts b.now) (t : Instant) :
    (b.passTo t).calls = Ledger.standing issued aborts (b.passTo t).now := by
  show b.calls.finishDue _ = _
  rw [h]
  exact Ledger.finishDue_standing issued aborts (Nat.le_max_left ..)

theorem known_step (h : b.Faithful issued aborts) (op : Op ρ) :
    ∀ abort ∈ aborts ++ (op.abort? b).toList, abort.id < issued.length := by
  intro abort hmem
  rcases List.mem_append.mp hmem with hold | hnew
  · exact h.known abort hold
  · obtain ⟨name, hfound, -⟩ := lookup_of_abort? (Option.mem_toList.mp hnew)
    rw [← h.length]
    exact h.tidy.known _ (mem_of_lookup hfound)

/-- Where nothing is done but to abort the call of a name, if that is known, every call stands
accordingly. -/
theorem calls_abort (h : b.Faithful issued aborts) (name : String) (kind : AbortKind)
    {after : Board σ ρ α ε} (hunknown : b.names.lookup name = none → after = b)
    (hknown : ∀ id call, b.names.lookup name = some id → b.find? name = some (id, call) →
      after.calls = b.calls.drop id ∧ after.now = b.now) :
    after.calls = Ledger.standing issued
      (aborts ++ ((b.names.lookup name).map (⟨·, b.now, kind⟩ : CallId → Abort)).toList)
      after.now := by
  cases hfound : b.names.lookup name with
  | none =>
    rw [hunknown hfound, Option.map_none, Option.toList_none, List.append_nil]
    exact h.calls
  | some id =>
    obtain ⟨call, -, hfind⟩ := h.find? hfound
    obtain ⟨hcalls, hnow⟩ := hknown id _ hfound hfind
    rw [hcalls, hnow, h.calls]
    exact Ledger.drop_standing ..

theorem calls_issue (h : b.Faithful issued aborts) (svc : Service σ ρ α ε) (name : String)
    (payload : ρ) :
    (b.step svc (.issue name payload)).2.calls =
      Ledger.standing (issued ++ ((Op.issue name payload).issued? svc b).toList)
        (aborts ++ ((Op.issue name payload).abort? b).toList)
        (b.step svc (.issue name payload)).2.now := by
  let replaced : Board σ ρ α ε :=
    { b with calls := (b.names.lookup name).elim b.calls b.calls.drop }
  have hreplaced : replaced.calls = Ledger.standing issued
      (aborts ++ ((Op.issue name payload).abort? b).toList) replaced.now := by
    refine calls_abort h name .replaced (fun hfound => ?_)
      fun id call hfound _ => ⟨?_, rfl⟩
    · simp only [replaced, hfound, Option.elim_none]
    · simp only [replaced, hfound, Option.elim_some]
  show (Ledger.issue replaced.calls b.now payload _).finishDue (max b.now b.now) =
    Ledger.standing (issued ++ [_]) _ (max b.now b.now)
  rw [hreplaced, Nat.max_self]
  exact Ledger.finishDue_issue_standing (known_step h _) ..

/-- An operation that issues no call adds at most its request. -/
theorem calls_act (h : b.Faithful issued aborts) (svc : Service σ ρ α ε)
    (hop : ∀ name payload, op ≠ .issue name payload) :
    (b.act svc op).2.calls =
      Ledger.standing issued (aborts ++ (op.abort? b).toList) (b.act svc op).2.now := by
  have hkept : b.calls = Ledger.standing issued (aborts ++ []) b.now := by
    rw [List.append_nil]
    exact h.calls
  cases op with
  | issue name payload => exact absurd rfl (hop name payload)
  | wait name =>
    cases hfound : b.names.lookup name with
    | none =>
      rw [act_unknown svc hfound (.inl rfl)]
      exact hkept
    | some id =>
      obtain ⟨call, -, hfind⟩ := h.find? hfound
      simp only [act, hfind]
      show (ite _ _ _ : Board σ ρ α ε).calls = Ledger.standing issued (aborts ++ []) _
      rw [List.append_nil]
      split
      · exact calls_passTo h.calls _
      · exact h.calls
  | cancel name =>
    refine calls_abort h name .cancelled (fun hfound => ?_) fun id call _ hfind => ?_
    · rw [act_unknown svc hfound (.inr (.inl rfl))]
    · simp only [act, hfind]
      exact ⟨rfl, rfl⟩
  | drop name =>
    refine calls_abort h name .dropped (fun hfound => ?_) fun id call _ hfind => ?_
    · rw [act_unknown svc hfound (.inr (.inr (.inl rfl)))]
    · simp only [act, hfind]
      exact ⟨rfl, rfl⟩
  | elapsed name =>
    simp only [act]
    split <;> exact hkept
  | sleep d => exact calls_passTo hkept _

theorem calls_step (h : b.Faithful issued aborts) (svc : Service σ ρ α ε) (op : Op ρ) :
    (b.step svc op).2.calls =
      Ledger.standing (issued ++ (op.issued? svc b).toList) (aborts ++ (op.abort? b).toList)
        (b.step svc op).2.now := by
  have hothers (hop : ∀ name payload, op ≠ .issue name payload) (hnone : op.issued? svc b = none) :
      (b.step svc op).2.calls =
        Ledger.standing (issued ++ (op.issued? svc b).toList) (aborts ++ (op.abort? b).toList)
          (b.step svc op).2.now := by
    rw [hnone, Option.toList_none, List.append_nil]
    exact calls_passTo (calls_act h svc hop) _
  cases op with
  | issue name payload => exact calls_issue h svc name payload
  | wait name | cancel name | drop name | elapsed name | sleep d => exact hothers nofun rfl

/-- **An operation adds its own call and its own request**, and every call stands accordingly. -/
theorem faithful_step (h : b.Faithful issued aborts) (svc : Service σ ρ α ε) (op : Op ρ) :
    (b.step svc op).2.Faithful (issued ++ (op.issued? svc b).toList)
      (aborts ++ (op.abort? b).toList) := by
  have hcalls := calls_step h svc op
  have hlength : (b.step svc op).2.calls.length =
      b.calls.length + (op.issued? svc b).toList.length := by
    rw [hcalls, Ledger.length_standing, List.length_append, h.length]
  refine ⟨h.tidy.step svc op (hlength ▸ Nat.le_add_right ..) ?_, hcalls, ?_, ?_⟩
  · rintro name payload rfl
    rw [hlength]
    exact Nat.lt_succ_self _
  · intro abort hmem
    rw [List.length_append]
    exact Nat.lt_of_lt_of_le (known_step h op abort hmem) (Nat.le_add_right ..)
  · intro entry hentry abort hmem hid
    rw [names_step h.tidy] at hentry
    rcases mem_names hentry with ⟨hold, hkeeps⟩ | ⟨hnew, -⟩
    · rcases List.mem_append.mp hmem with hmem | hmem
      · exact h.named entry hold abort hmem hid
      · -- two names would stand for the call, unless it is this one that is cancelled
        obtain ⟨name, hfound, -, hkind⟩ := lookup_of_abort? (Option.mem_toList.mp hmem)
        obtain rfl := h.tidy.apart _ (mem_of_lookup hfound) entry hold hid
        rcases hkind with ⟨-, hcancelled⟩ | hforgets
        · exact hcancelled
        · exact absurd hkeeps hforgets
    · have hlt := known_step h op abort hmem
      rw [← h.length, hid, hnew] at hlt
      exact absurd hlt (Nat.lt_irrefl _)

theorem faithful_play (svc : Service σ ρ α ε) (service : σ) (ops : List (Op ρ)) :
    ((new service : Board σ ρ α ε).play svc ops).Faithful ((new service).issues svc ops)
      ((new service : Board σ ρ α ε).abortRequests svc ops) := by
  induction ops using List.reverseRecOn with
  | nil => exact new_faithful service
  | append_singleton before op ih =>
    rw [play_concat, issues_concat, abortRequests_concat]
    exact faithful_step ih svc op

/-! ## What a wait answers -/

/-- What a call answers that was left to run its time. -/
def scripted (reply : Reply α ε) (elapsed : Duration) : Answer α ε :=
  match reply with
  | .value a => .completed (.succeeded a) elapsed
  | .error e => .completed (.failed e) elapsed
  | .crash message => .crashed message

/-- The same answer after another time. -/
def Answer.retimed (elapsed : Duration) : Answer α ε → Answer α ε
  | .completed completion _ => .completed completion elapsed
  | answer => answer

theorem scripted_ne_cancelled (reply : Reply α ε) (elapsed elapsed' : Duration) :
    scripted reply elapsed ≠ .completed .cancelled elapsed' := by
  cases reply <;> exact nofun

theorem retimed_scripted (reply : Reply α ε) (elapsed elapsed' : Duration) :
    (scripted reply elapsed).retimed elapsed' = scripted reply elapsed' := by
  cases reply <;> rfl

theorem ending_standing (call : Call ρ α ε) (aborts : List Abort) (now : Instant) (id : CallId)
    (elapsed : Duration) :
    ending (call.standing aborts now id) elapsed =
      if call.Cut aborts id then .completed .cancelled elapsed
      else scripted call.reply elapsed := by
  by_cases hcut : call.Cut aborts id
  · have hstate : (call.standing aborts now id).state = .dropped := if_pos hcut
    rw [if_pos hcut]
    exact if_pos hstate
  · have hstate : (call.standing aborts now id).state ≠ .dropped := by
      unfold Call.standing
      simp only [if_neg hcut]
      split <;> exact nofun
    rw [if_neg hcut]
    refine (if_neg hstate).trans ?_
    show _ = scripted (call.standing aborts now id).reply elapsed
    cases (call.standing aborts now id).reply <;> rfl

theorem isRunning_standing (call : Call ρ α ε) (aborts : List Abort) (now : Instant)
    (id : CallId) :
    (call.standing aborts now id).isRunning = true ↔ ¬ call.Cut aborts id ∧ now < call.due := by
  unfold Call.standing Call.isRunning
  by_cases hcut : call.Cut aborts id
  · simp [hcut]
  · by_cases hdue : call.due ≤ now
    · simp [hcut, hdue]
    · simp [hcut, hdue, Nat.lt_of_not_le hdue]

/-- The instant at which a wait ends that begins now. -/
def waitEnd (aborts : List Abort) (now : Instant) (id : CallId) (call : Call ρ α ε) : Instant :=
  if call.Cut aborts id then now else max now call.due

theorem step_wait (h : b.Faithful issued aborts) (hfound : b.names.lookup name = some id)
    (hissued : issued[id]? = some call) (svc : Service σ ρ α ε) :
    let t := waitEnd aborts b.now id call
    (b.step svc (.wait name)).1 =
        (if call.Cut aborts id then .completed .cancelled (t.since call.issued)
          else scripted call.reply (t.since call.issued)) ∧
      (b.step svc (.wait name)).2.now = t := by
  intro t
  have hfind := h.find?_issued hfound hissued
  have hpassed : (if (call.standing aborts b.now id).isRunning
      then b.passTo (call.standing aborts b.now id).due else b).now = t := by
    show _ = waitEnd aborts b.now id call
    unfold waitEnd
    by_cases hrunning : (call.standing aborts b.now id).isRunning = true
    · obtain ⟨hcut, -⟩ := (isRunning_standing ..).mp hrunning
      rw [if_pos hrunning, if_neg hcut]
      rfl
    · rw [if_neg hrunning]
      by_cases hcut : call.Cut aborts id
      · rw [if_pos hcut]
      · have hdue : call.due ≤ b.now := Nat.not_lt.mp fun hlt =>
          hrunning ((isRunning_standing ..).mpr ⟨hcut, hlt⟩)
        rw [if_neg hcut, Nat.max_eq_left hdue]
  constructor
  · simp only [step, act, hfind]
    rw [ending_standing, hpassed]
    rfl
  · simp only [step, act, hfind]
    show max (ite _ _ _ : Board σ ρ α ε).now (ite _ _ _ : Board σ ρ α ε).now = t
    rw [Nat.max_self, hpassed]

theorem step_elapsed (h : b.Faithful issued aborts) (hfound : b.names.lookup name = some id)
    (hissued : issued[id]? = some call) (svc : Service σ ρ α ε) :
    (b.step svc (.elapsed name)).1 =
      .elapsed (b.now.since call.issued) (.ofMillis call.issued) := by
  have hfind := h.find?_issued hfound hissued
  simp only [step, act, hfind]
  rfl

/-! ## Operations that make no difference -/

/-- What makes no difference to the call of a name: to look at it, to cancel it when it has ended
already, whatever is done with other calls, and to let time pass. -/
def Op.Spares (b : Board σ ρ α ε) (name : String) (op : Op ρ) : Prop :=
  op.Keeps name ∧
    (op = .cancel name → ∀ id call, b.find? name = some (id, call) → call.isRunning = false)

theorem now_le_step (b : Board σ ρ α ε) (svc : Service σ ρ α ε) (op : Op ρ) :
    b.now ≤ (b.step svc op).2.now := by
  have hact : b.now ≤ (b.act svc op).2.now := by
    cases op with
    | issue name payload => exact Nat.le_refl _
    | wait name =>
      simp only [act]
      split
      · exact Nat.le_refl _
      · show _ ≤ (ite _ _ _ : Board σ ρ α ε).now
        split
        · exact Nat.le_max_left ..
        · exact Nat.le_refl _
    | cancel name | drop name | elapsed name =>
      simp only [act]
      split <;> exact Nat.le_refl _
    | sleep d => exact Nat.le_max_left ..
  exact Nat.le_trans hact (Nat.le_max_left ..)

theorem cut_step_iff (h : b.Faithful issued aborts) (hfound : b.names.lookup name = some id)
    (hissued : issued[id]? = some call) (hop : op.Spares b name) :
    call.Cut (aborts ++ (op.abort? b).toList) id ↔ call.Cut aborts id := by
  obtain ⟨hkeeps, hmoot⟩ := hop
  cases habort : op.abort? b with
  | none => rw [Option.toList_none, List.append_nil]
  | some abort =>
    refine Call.cut_concat_iff.trans (or_iff_left_of_imp ?_)
    rintro ⟨rfl, hearly⟩
    obtain ⟨other, hother, hnow, hkind⟩ := lookup_of_abort? habort
    obtain rfl : other = name := congrArg Prod.fst
      (h.tidy.apart _ (mem_of_lookup hother) _ (mem_of_lookup hfound) rfl)
    rcases hkind with ⟨hcancel, -⟩ | hforgets
    · obtain ⟨call', hcall', hfind⟩ := h.find? hfound
      obtain rfl := Option.some.inj (hissued.symm.trans hcall')
      have hended := hmoot hcancel _ _ hfind
      by_contra hcut
      rw [hnow] at hearly
      rw [(isRunning_standing ..).mpr ⟨hcut, hearly⟩] at hended
      cases hended
    · exact absurd hkeeps hforgets

theorem step_spared (h : b.Faithful issued aborts) (hfound : b.names.lookup name = some id)
    (hissued : issued[id]? = some call) (svc : Service σ ρ α ε) (hop : op.Spares b name) :
    let after := (b.step svc op).2
    let t := (after.step svc (.wait name)).2.now
    after.names.lookup name = some id ∧
      t = max after.now (b.step svc (.wait name)).2.now ∧
      (after.step svc (.wait name)).1 =
        (b.step svc (.wait name)).1.retimed (t.since call.issued) := by
  intro after t
  have hafter := faithful_step h svc op
  have hfound' := lookup_step h.tidy svc hfound hop.1
  have hissued' : (issued ++ (op.issued? svc b).toList)[id]? = some call := by
    rw [List.getElem?_append_left (List.getElem?_eq_some_iff.mp hissued).1]
    exact hissued
  have hcut := cut_step_iff h hfound hissued hop
  have hle := now_le_step b svc op
  obtain ⟨hanswer, hnow⟩ := step_wait h hfound hissued svc
  obtain ⟨hanswer', hnow'⟩ := step_wait hafter hfound' hissued' svc
  refine ⟨hfound', ?_, ?_⟩
  · show (after.step svc (.wait name)).2.now = _
    rw [hnow', hnow]
    unfold waitEnd
    by_cases hc : call.Cut aborts id
    · rw [if_pos hc, if_pos (hcut.mpr hc), Nat.max_eq_left hle]
    · rw [if_neg hc, if_neg fun h => hc (hcut.mp h), ← Nat.max_assoc, Nat.max_eq_left hle]
  · show (after.step svc (.wait name)).1 = _
    rw [hanswer', hanswer, ← hnow']
    by_cases hc : call.Cut aborts id
    · rw [if_pos hc, if_pos (hcut.mpr hc)]
      rfl
    · rw [if_neg hc, if_neg fun h => hc (hcut.mp h), retimed_scripted]

/-! ## The whole account -/

/-- Somebody cancelled the call with this number before it had finished. -/
def CancelledInTime (aborts : List Abort) (id : CallId) (call : Call ρ α ε) : Prop :=
  ∃ abort ∈ aborts, abort.kind = .cancelled ∧ abort.id = id ∧ abort.instant < call.due

/-- A call that still has its name is aborted by being cancelled, or not at all. -/
theorem cut_iff_cancelledInTime (h : b.Faithful issued aborts)
    (hfound : b.names.lookup name = some id) (call : Call ρ α ε) :
    call.Cut aborts id ↔ CancelledInTime aborts id call := by
  constructor
  · rintro ⟨abort, hmem, hid, hearly⟩
    exact ⟨abort, hmem, h.named _ (mem_of_lookup hfound) abort hmem hid, hid, hearly⟩
  · rintro ⟨abort, hmem, -, hid, hearly⟩
    exact ⟨abort, hmem, hid, hearly⟩

/-- How the call of a name ends, given all requests to abort a call. -/
structure Ends (svc : Service σ ρ α ε) (b : Board σ ρ α ε) (aborts : List Abort) (name : String)
    (id : CallId) (call : Call ρ α ε) : Prop where
  /-- A wait tells of a cancellation just if the call was cancelled before it had finished. -/
  cancelled_iff : (∃ elapsed, (b.step svc (.wait name)).1 = .completed .cancelled elapsed) ↔
    CancelledInTime aborts id call
  cancelled : CancelledInTime aborts id call →
    (b.step svc (.wait name)).1 = .completed .cancelled (b.now.since call.issued) ∧
      (b.step svc (.wait name)).2.now = b.now
  /-- Otherwise it tells what the service planned, once the time of the call is up. -/
  scripted : ¬ CancelledInTime aborts id call →
    (b.step svc (.wait name)).1 =
        scripted call.reply (Instant.since (max b.now call.due) call.issued) ∧
      (b.step svc (.wait name)).2.now = max b.now call.due
  elapsed : (b.step svc (.elapsed name)).1 =
    .elapsed (b.now.since call.issued) (.ofMillis call.issued)
  /-- A wait afterwards tells the same, no sooner than the operation allows. -/
  spared : ∀ op : Op ρ, op.Spares b name →
    let after := (b.step svc op).2
    let t := (after.step svc (.wait name)).2.now
    after.names.lookup name = some id ∧
      t = max after.now (b.step svc (.wait name)).2.now ∧
      (after.step svc (.wait name)).1 =
        (b.step svc (.wait name)).1.retimed (t.since call.issued)

theorem Faithful.ends (h : b.Faithful issued aborts) (hfound : b.names.lookup name = some id)
    (hissued : issued[id]? = some call) (svc : Service σ ρ α ε) :
    Ends svc b aborts name id call := by
  obtain ⟨hanswer, hnow⟩ := step_wait h hfound hissued svc
  unfold waitEnd at hanswer hnow
  have hiff := cut_iff_cancelledInTime h hfound call
  refine ⟨⟨?_, ?_⟩, ?_, ?_, step_elapsed h hfound hissued svc,
    fun op hop => step_spared h hfound hissued svc hop⟩
  · rintro ⟨elapsed, htold⟩
    by_contra hnot
    rw [hanswer, if_neg (mt hiff.mp hnot)] at htold
    exact scripted_ne_cancelled _ _ _ htold
  · intro hcancelled
    rw [if_pos (hiff.mpr hcancelled)] at hanswer
    exact ⟨_, hanswer⟩
  · intro hcancelled
    rw [if_pos (hiff.mpr hcancelled)] at hanswer hnow
    rw [if_pos (hiff.mpr hcancelled)] at hanswer
    exact ⟨hanswer, hnow⟩
  · intro hnot
    rw [if_neg (mt hiff.mp hnot)] at hanswer hnow
    rw [if_neg (mt hiff.mp hnot)] at hanswer
    exact ⟨hanswer, hnow⟩

/-- **A call completes once, with the outcome fixed by what came first.**

Whatever operations have been carried out, a wait for a call tells of a cancellation just if the call
was cancelled before its finishing instant, and else what the service had planned for it, at that
instant or now if that is later. To cancel a call that has ended changes nothing of this, nor does
anything done with other calls. The time since the issue is told right at any time. The calls dropped
are those that were cancelled, dropped or replaced before they had finished, each of them once.

The finishing instant is the instant of issue and the duration planned, or thirty years from the issue
if more was planned. -/
theorem calls_complete_once (svc : Service σ ρ α ε) (service : σ) (ops : List (Op ρ)) :
    let b : Board σ ρ α ε := (new service).play svc ops
    let issued : List (Call ρ α ε) := (new service).issues svc ops
    let aborts := (new service : Board σ ρ α ε).abortRequests svc ops
    (∀ (name : String) (id : CallId), b.names.lookup name = some id →
      ∃ call : Call ρ α ε, issued[id]? = some call ∧ Ends svc b aborts name id call) ∧
    b.calls.length = issued.length ∧
    (∀ (id : CallId) (call : Call ρ α ε), issued[id]? = some call →
      ∃ held : Call ρ α ε, b.calls[id]? = some held ∧
        (held.state = .dropped ↔ call.Cut aborts id)) ∧
    b.calls.droppedCount = issued.zipIdx.countP fun (call, id) => decide (call.Cut aborts id) := by
  intro b issued aborts
  have h : b.Faithful issued aborts := faithful_play svc service ops
  refine ⟨fun name id hfound => ?_, h.length, fun id call hissued => ?_, ?_⟩
  · obtain ⟨call, hissued, -⟩ := h.find? hfound
    exact ⟨call, hissued, h.ends hfound hissued svc⟩
  · refine ⟨call.standing aborts b.now id, ?_, ?_⟩
    · rw [h.calls, Ledger.getElem?_standing, hissued]
      rfl
    · unfold Call.standing
      by_cases hcut : call.Cut aborts id
      · simp [hcut]
      · simp only [hcut, if_false, iff_false]
        split <;> exact nofun
  · rw [h.calls]
    exact Ledger.droppedCount_standing issued aborts b.now

/-- Two calls; the first one is cancelled, and time goes on until the second has failed. -/
def twoCalls : List (Op String) :=
  [.issue "a" "first", .issue "b" "second", .sleep (.ofMillis 10), .cancel "a",
    .sleep (.ofMillis 30)]

/-- One call was cancelled in time. To cancel the other, which has failed, makes no difference. -/
theorem calls_complete_once_of_two :
    let script : Script := ⟨[⟨50, .value, some "slow"⟩, ⟨20, .error, none⟩], Script.defaultFallback⟩
    let b : Board Script String String String := (new script).play Script.service twoCalls
    let later := (b.step Script.service (.cancel "b")).2
    (b.step Script.service (.wait "a")).1 = .completed .cancelled (.ofMillis 40) ∧
      (b.step Script.service (.wait "b")).1 = .completed (.failed "second") (.ofMillis 40) ∧
      (later.step Script.service (.wait "b")).1 =
        .completed (.failed "second") (.ofMillis 40) ∧
      b.calls.droppedCount = 1 := by
  intro script b later
  let aborts := (new script : Board Script String String String).abortRequests Script.service twoCalls
  obtain ⟨hends, -, -, hdropped⟩ := calls_complete_once Script.service script twoCalls
  obtain ⟨first, hfirst, hendsFirst⟩ := hends "a" 0 (by decide +kernel)
  obtain ⟨second, hsecond, hendsSecond⟩ := hends "b" 1 (by decide +kernel)
  have hissues : (new script : Board Script String String String).issues Script.service twoCalls =
      [.start 0 "first" ⟨.ofMillis 50, .value "slow"⟩,
        .start 0 "second" ⟨.ofMillis 20, .error "second"⟩] := by decide +kernel
  have haborts : aborts = [⟨0, 10, .cancelled⟩] := by decide +kernel
  have hnow : b.now = 40 := by decide +kernel
  rw [hissues] at hfirst hsecond hdropped
  obtain rfl := Option.some.inj hfirst
  obtain rfl := Option.some.inj hsecond
  have hearly : CancelledInTime aborts 0
      (.start 0 "first" ⟨.ofMillis 50, .value "slow"⟩ : Call String String String) :=
    ⟨⟨0, 10, .cancelled⟩, by rw [haborts]; decide, rfl, rfl, by decide⟩
  have hlate : ¬ CancelledInTime aborts 1
      (.start 0 "second" ⟨.ofMillis 20, .error "second"⟩ : Call String String String) := by
    unfold CancelledInTime
    rw [haborts]
    decide
  obtain ⟨hcancelled, -⟩ := hendsFirst.cancelled hearly
  obtain ⟨hfailed, -⟩ := hendsSecond.scripted hlate
  have hended : (b.find? "b").all (fun found => !found.2.isRunning) = true := by decide +kernel
  obtain ⟨-, -, hsame⟩ := hendsSecond.spared (.cancel "b") ⟨trivial, fun _ id call hfind => by
    rw [hfind] at hended
    simpa using hended⟩
  have hlater : ((((new script : Board Script String String String).play Script.service
      twoCalls).step Script.service (.cancel "b")).2.step Script.service (.wait "b")).2.now = 40 := by
    decide +kernel
  have htold : (b.step Script.service (.wait "b")).1 =
      .completed (.failed "second") (.ofMillis 40) := by
    rw [hfailed, hnow]
    rfl
  refine ⟨?_, htold, hsame.trans ?_, hdropped.trans ?_⟩
  · rw [hcancelled, hnow]
    rfl
  · rw [htold, hlater]
    rfl
  · show List.countP (fun entry : Call String String String × CallId =>
      decide (entry.1.Cut aborts entry.2)) _ = 1
    rw [haborts]
    decide +kernel

/-- No timer of the service reaches farther than thirty years: a call that is to take a millisecond
longer ends when the thirty years are over. -/
theorem call_ends_after_thirty_years :
    let script : Script := ⟨[⟨Instant.farOff + 1, .value, some "v"⟩], Script.defaultFallback⟩
    let b : Board Script String String String :=
      (new script).play Script.service [.issue "a" "r"]
    b.calls = [.start 0 "r" ⟨.ofMillis (Instant.farOff + 1), .value "v"⟩] ∧
      (b.step Script.service (.wait "a")).2.now = Instant.farOff ∧
      Instant.farOff < 0 + (Instant.farOff + 1) := by
  decide +kernel

end Board

end Hedging
