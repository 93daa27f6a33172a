import Hedging.Run.Shutdown
import Hedging.Proofs.Race.Loop

/-!
# The moves of a resolver

Everything that can happen to a resolver is a `Move`: a request arrives, an event comes that lies
ahead, a request is given up, a call is cancelled under its request, or time passes. `play` carries
out moves one after another.

There are two kinds of run. In a run of `Possible` moves the events that lie ahead come in any order
whatever, as late as they like, and between any two of them anything else may happen; what holds of
every such run holds however requests are interleaved. In a run of `Timely` moves the clock does not
pass an event that lies ahead, so every event comes at its instant, and only events of one instant
may change places. Each of the two is a list of moves that `Along` allows one by one, and `Leads`
forgets the list.

> `ahead_of_mem_pending`: an event that lies ahead is the timer of a racing request, or the end of a
> call that it waits for.
-/

namespace Hedging

/-- What can happen to a resolver and its requests. -/
inductive Move (ρ : Type)
  /-- A request arrives. -/
  | start (payload : ρ) (inPlace : Bool)
  /-- An event comes. -/
  | fire (due : Due)
  /-- A request is given up: it was cancelled, its handle was dropped or replaced, or its time is
  over. -/
  | abandon (id : RequestId)
  /-- A call is cancelled under the request that waits for it. -/
  | cut (id : RequestId) (branch : Branch)
  /-- Time passes. -/
  | wind (t : Instant)
deriving DecidableEq, Repr

/-- The request that a move concerns, if it concerns one that is there already. -/
def Move.subject {ρ : Type} : Move ρ → Option RequestId
  | .fire due => some due.request
  | .abandon id | .cut id _ => some id
  | .start .. | .wind _ => none

namespace Run

section Ahead

variable {δ β σ ρ α ε : Type} {run : Run δ β σ ρ α ε}

/-! ## What lies ahead -/

/-- An event that lies ahead of a run. -/
inductive Ahead (run : Run δ β σ ρ α ε) : Due → Prop
  /-- The timer of a request that is still armed. -/
  | timer {t : Instant} {id : RequestId} {turn : Nat} {request : Request ρ α ε}
    {race : Race ρ α ε} (there : run.requests[id]? = some request)
    (racing : request.stage = .racing race) (armed : race.timerArmed = true)
    (set : request.timer = some t) : Ahead run ⟨t, id, .timer, turn⟩
  /-- The end of a call that a request waits for. -/
  | call {id : RequestId} {branch : Branch} {turn : Nat} {request : Request ρ α ε}
    {race : Race ρ α ε} {c : CallId} {call : Call ρ α ε}
    (there : run.requests[id]? = some request) (racing : request.stage = .racing race)
    (waited : race.call branch = some c) (held : run.calls[c]? = some call) :
    Ahead run ⟨call.due, id, .call branch, turn⟩

theorem mem_pendingCall {request : Request ρ α ε} {calls : Ledger ρ α ε} {id : RequestId}
    {race : Race ρ α ε} {branch : Branch} {due : Due}
    (h : due ∈ (request.pendingCall calls id race branch).toList) :
    ∃ c call, race.call branch = some c ∧ calls[c]? = some call ∧
      due = ⟨call.due, id, .call branch, request.callTurn calls c⟩ := by
  rw [Option.mem_toList, Request.pendingCall, Option.bind_eq_some_iff] at h
  obtain ⟨c, hc, hmap⟩ := h
  obtain ⟨call, hcall, rfl⟩ := Option.map_eq_some_iff.mp hmap
  exact ⟨c, call, hc, hcall, rfl⟩

/-- What lies ahead of a run lies ahead of one of its requests. -/
theorem mem_pending_iff {due : Due} :
    due ∈ run.pending ↔ ∃ id, ∃ request : Request ρ α ε, run.requests[id]? = some request ∧
      due ∈ request.pending run.calls id := by
  unfold pending
  rw [List.mem_flatMap]
  constructor
  · rintro ⟨⟨request, id⟩, hmem, hdue⟩
    exact ⟨id, request, List.mem_zipIdx_iff_getElem?.mp hmem, hdue⟩
  · rintro ⟨id, request, hmem, hdue⟩
    exact ⟨(request, id), List.mem_zipIdx_iff_getElem?.mpr hmem, hdue⟩

theorem ahead_of_mem_pending {due : Due} (h : due ∈ run.pending) : run.Ahead due := by
  obtain ⟨id, request, hthere, hdue⟩ := mem_pending_iff.mp h
  unfold Request.pending at hdue
  split at hdue
  next race hracing =>
    rw [List.mem_append, List.mem_append] at hdue
    -- the three parts of the list: timer, primary, backup
    rcases hdue with (htimer | hprimary) | hbackup
    · split at htimer
      next harmed =>
        obtain ⟨t, ht, rfl⟩ := List.mem_map.mp htimer
        exact .timer hthere hracing harmed (Option.mem_toList.mp ht)
      next => cases htimer
    · obtain ⟨c, call, hc, hcall, rfl⟩ := mem_pendingCall hprimary
      exact .call hthere hracing hc hcall
    · obtain ⟨c, call, hc, hcall, rfl⟩ := mem_pendingCall hbackup
      exact .call hthere hracing hc hcall
  next => cases hdue

/-- The timer of a racing request lies ahead as long as it is armed. -/
theorem timer_mem_pending {id : RequestId} {request : Request ρ α ε} {race : Race ρ α ε}
    {t : Instant} (there : run.requests[id]? = some request)
    (racing : request.stage = .racing race) (armed : race.timerArmed = true)
    (set : request.timer = some t) : ⟨t, id, .timer, request.timerTurn⟩ ∈ run.pending := by
  refine mem_pending_iff.mpr ⟨id, request, there, ?_⟩
  unfold Request.pending
  rw [racing, set]
  simp [armed]

/-- The end of a call lies ahead as long as a racing request waits for it. -/
theorem call_mem_pending {id : RequestId} {request : Request ρ α ε} {race : Race ρ α ε}
    {branch : Branch} {c : CallId} {call : Call ρ α ε} (there : run.requests[id]? = some request)
    (racing : request.stage = .racing race) (waited : race.call branch = some c)
    (held : run.calls[c]? = some call) :
    ⟨call.due, id, .call branch, request.callTurn run.calls c⟩ ∈ run.pending := by
  refine mem_pending_iff.mpr ⟨id, request, there, ?_⟩
  have hcall : request.pendingCall run.calls id race branch =
      some ⟨call.due, id, .call branch, request.callTurn run.calls c⟩ := by
    unfold Request.pendingCall
    rw [waited, Option.bind_some, held]
    rfl
  unfold Request.pending
  rw [racing]
  cases branch <;> simp [hcall]

/-! ## What can come next -/

/-- Any event that lies ahead can come, and everything else is possible at all times. -/
def Possible (run : Run δ β σ ρ α ε) : Move ρ → Prop
  | .fire due => due ∈ run.pending
  | _ => True

/-- An event comes before all later ones, and the clock does not pass what lies ahead. -/
def Timely (run : Run δ β σ ρ α ε) : Move ρ → Prop
  | .fire due => due ∈ run.pending ∧ ∀ e ∈ run.pending, due.instant ≤ e.instant
  | .wind t => ∀ e ∈ run.pending, t ≤ e.instant
  | _ => True

/-- A timely move that cuts off no call. -/
def Regular (run : Run δ β σ ρ α ε) (m : Move ρ) : Prop :=
  run.Timely m ∧ ∀ id branch, m ≠ .cut id branch

instance (run : Run δ β σ ρ α ε) : DecidablePred run.Possible
  | .fire due => inferInstanceAs (Decidable (due ∈ run.pending))
  | .start .. | .abandon _ | .cut .. | .wind _ => isTrue trivial

instance (run : Run δ β σ ρ α ε) : DecidablePred run.Timely
  | .fire due =>
    inferInstanceAs (Decidable (due ∈ run.pending ∧ ∀ e ∈ run.pending, due.instant ≤ e.instant))
  | .wind t => inferInstanceAs (Decidable (∀ e ∈ run.pending, t ≤ e.instant))
  | .start .. | .abandon _ | .cut .. => isTrue trivial

theorem Timely.possible {m : Move ρ} (h : run.Timely m) : run.Possible m := by
  cases m with
  | fire due => exact h.1
  | start payload inPlace => trivial
  | abandon id => trivial
  | cut id branch => trivial
  | wind t => trivial

end Ahead

/-! ## Runs -/

section Moves

variable {δ β σ ρ α ε : Type} [DelayEstimator δ] [AdmissionBudget β]

/-- Carries out a move. -/
def apply (svc : Service σ ρ α ε) (run : Run δ β σ ρ α ε) : Move ρ → Run δ β σ ρ α ε
  | .start payload inPlace => run.start svc payload inPlace
  | .fire due => run.fire svc due
  | .abandon id => run.abandon id
  | .cut id branch => run.cancelBranch svc id branch
  | .wind t => run.wind t

/-- The run after some moves. -/
def play (svc : Service σ ρ α ε) (run : Run δ β σ ρ α ε) (moves : List (Move ρ)) :
    Run δ β σ ρ α ε :=
  moves.foldl (apply svc) run

/-- Every move is allowed when it comes. -/
def Along (svc : Service σ ρ α ε) (allowed : Run δ β σ ρ α ε → Move ρ → Prop) :
    Run δ β σ ρ α ε → List (Move ρ) → Prop
  | _, [] => True
  | run, m :: moves => allowed run m ∧ Along svc allowed (run.apply svc m) moves

instance decidableAlong (svc : Service σ ρ α ε) (allowed : Run δ β σ ρ α ε → Move ρ → Prop)
    [∀ run, DecidablePred (allowed run)] :
    ∀ run moves, Decidable (Along svc allowed run moves)
  | _, [] => isTrue trivial
  | run, m :: moves =>
    have := decidableAlong svc allowed (run.apply svc m) moves
    inferInstanceAs (Decidable (allowed run m ∧ Along svc allowed (run.apply svc m) moves))

/-- One run leads to another by moves that are allowed. -/
def Leads (svc : Service σ ρ α ε) (allowed : Run δ β σ ρ α ε → Move ρ → Prop)
    (run later : Run δ β σ ρ α ε) : Prop :=
  ∃ moves, Along svc allowed run moves ∧ run.play svc moves = later

/-- One run leads to another by possible moves. -/
abbrev Reaches (svc : Service σ ρ α ε) (run later : Run δ β σ ρ α ε) : Prop :=
  Leads svc Possible run later

variable {svc : Service σ ρ α ε} {run later : Run δ β σ ρ α ε}
  {allowed : Run δ β σ ρ α ε → Move ρ → Prop}

theorem play_append (before later : List (Move ρ)) :
    run.play svc (before ++ later) = (run.play svc before).play svc later :=
  List.foldl_append ..

theorem along_append {before later : List (Move ρ)} :
    Along svc allowed run (before ++ later) ↔
      Along svc allowed run before ∧ Along svc allowed (run.play svc before) later := by
  induction before generalizing run with
  | nil => simp [Along, play]
  | cons m rest ih =>
    rw [List.cons_append, Along, Along, ih, and_assoc]
    rfl

theorem Along.mono {other : Run δ β σ ρ α ε → Move ρ → Prop} {moves : List (Move ρ)}
    (hle : ∀ run m, allowed run m → other run m) (h : Along svc allowed run moves) :
    Along svc other run moves := by
  induction moves generalizing run with
  | nil => trivial
  | cons m rest ih => exact ⟨hle _ _ h.1, ih h.2⟩

/-- What every move keeps is kept by every run. -/
theorem Along.invariant {P : Run δ β σ ρ α ε → Prop} {moves : List (Move ρ)}
    (hstep : ∀ run m, P run → allowed run m → P (run.apply svc m))
    (h : Along svc allowed run moves) (hp : P run) : P (run.play svc moves) := by
  induction moves generalizing run with
  | nil => exact hp
  | cons m rest ih => exact ih h.2 (hstep _ _ hp h.1)

theorem Leads.refl (svc : Service σ ρ α ε) (allowed : Run δ β σ ρ α ε → Move ρ → Prop)
    (run : Run δ β σ ρ α ε) : Leads svc allowed run run := ⟨[], trivial, rfl⟩

theorem Leads.single {m : Move ρ} (h : allowed run m) : Leads svc allowed run (run.apply svc m) :=
  ⟨[m], ⟨h, trivial⟩, rfl⟩

theorem Leads.trans {a b c : Run δ β σ ρ α ε} (hab : Leads svc allowed a b)
    (hbc : Leads svc allowed b c) : Leads svc allowed a c := by
  obtain ⟨before, hbefore, rfl⟩ := hab
  obtain ⟨later, hlater, rfl⟩ := hbc
  exact ⟨before ++ later, along_append.mpr ⟨hbefore, hlater⟩, play_append before later⟩

theorem Leads.mono {other : Run δ β σ ρ α ε → Move ρ → Prop}
    (hle : ∀ run m, allowed run m → other run m) (h : Leads svc allowed run later) :
    Leads svc other run later := by
  obtain ⟨moves, hmoves, rfl⟩ := h
  exact ⟨moves, hmoves.mono hle, rfl⟩

/-- What every allowed move keeps holds wherever a run leads. -/
theorem Leads.invariant {P : Run δ β σ ρ α ε → Prop}
    (hstep : ∀ run m, P run → allowed run m → P (run.apply svc m))
    (h : Leads svc allowed run later) (hp : P run) : P later := by
  obtain ⟨moves, hmoves, rfl⟩ := h
  exact hmoves.invariant hstep hp

theorem Reaches.of_timely {moves : List (Move ρ)} (h : Along svc Timely run moves) :
    Reaches svc run (run.play svc moves) :=
  ⟨moves, h.mono fun _ _ => Timely.possible, rfl⟩

end Moves

end Run

end Hedging
