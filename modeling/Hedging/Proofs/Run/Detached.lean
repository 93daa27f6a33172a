import Hedging.Proofs.Run.Abandonment
import Hedging.Proofs.Run.Waiting

/-!
# In place, or in a task of its own

Who drives a request makes a difference only to when its turn comes among the events of one instant.
`detach` takes a request for one that has a task of its own. Everything that can happen to a run comes
to the same with and without it (`fire_detach`, `start_detach`, `abandon_detach`), and so does a whole
drive, as long as no event of the request falls on one instant with another event (`Undisturbed`).

> `Undisturbed.drive_detach`: an undisturbed request is driven in the same way by itself as by the one
> who waits for it.
> `drive_detach_of_ended`: when the request has ended, nothing tells the two any more.
-/

namespace Hedging

/-! ## Events of one instant -/

/-- What comes and when, but for its turn. -/
def Due.withoutTurn (d : Due) : Due := { d with turn := 0 }

theorem Due.isBefore_iff {d e : Due} : d.isBefore e = true ↔
    @LT.lt Nat _ d.instant e.instant ∨ (@LE.le Nat _ d.instant e.instant ∧ d.turn < e.turn) := by
  unfold isBefore
  rw [Bool.or_eq_true, Bool.and_eq_true, decide_eq_true_eq, decide_eq_true_eq, beq_iff_eq]
  constructor
  · rintro (hlt | ⟨heq, hturn⟩)
    · exact Or.inl hlt
    · exact Or.inr ⟨Nat.le_of_eq heq, hturn⟩
  · rintro (hlt | ⟨hle, hturn⟩)
    · exact Or.inl hlt
    · rcases Nat.lt_or_eq_of_le hle with hlt | heq
      · exact Or.inl hlt
      · exact Or.inr ⟨heq, hturn⟩

/-- No event comes before the earliest. -/
theorem not_isBefore_earliest {ds : List Due} {d : Due} (h : earliest ds = some d) :
    ∀ e ∈ ds, ¬ e.isBefore d = true := by
  induction ds generalizing d with
  | nil => cases h
  | cons d₁ rest ih =>
    unfold earliest at h
    split at h
    next hnone =>
      obtain rfl := Option.some.inj h
      rw [earliest_eq_none hnone]
      intro e he
      rw [List.mem_singleton.mp he, Due.isBefore_iff]
      omega
    next e₁ hsome =>
      have hrest := ih hsome
      split at h
      next hbefore =>
        obtain rfl := Option.some.inj h
        intro e he
        rcases List.mem_cons.mp he with rfl | he
        · rw [Due.isBefore_iff] at hbefore ⊢
          omega
        · exact hrest e he
      next hnot =>
        obtain rfl := Option.some.inj h
        intro e he
        rcases List.mem_cons.mp he with rfl | he
        · rw [Due.isBefore_iff]
          omega
        · have hle := hrest e he
          rw [Due.isBefore_iff] at hnot hle ⊢
          omega

/-- The earliest event stays the earliest when some are left out that come at later instants. -/
theorem earliest_filter {p : Due → Bool} {ds : List Due} {d : Due} (h : earliest ds = some d)
    (hlate : ∀ e ∈ ds, p e = false → d.instant < e.instant) :
    earliest (ds.filter p) = some d := by
  induction ds generalizing d with
  | nil => cases h
  | cons d₁ rest ih =>
    have hkept : d₁ = d → p d₁ = true := by
      rintro rfl
      cases hp : p d₁ with
      | true => rfl
      | false => exact absurd (hlate d₁ (List.mem_cons_self ..) hp) (Nat.lt_irrefl _)
    unfold earliest at h
    split at h
    next hnone =>
      obtain rfl := Option.some.inj h
      rw [earliest_eq_none hnone, List.filter_cons_of_pos (hkept rfl)]
      rfl
    next e₁ hsome =>
      split at h
      next hbefore =>
        obtain rfl := Option.some.inj h
        have hrest := ih hsome fun e he => hlate e (List.mem_cons_of_mem _ he)
        rw [List.filter_cons]
        split
        · unfold earliest
          rw [hrest]
          exact if_pos hbefore
        · exact hrest
      next hnot =>
        obtain rfl := Option.some.inj h
        rw [List.filter_cons_of_pos (hkept rfl)]
        unfold earliest
        split
        next => rfl
        next e hfiltered =>
          -- what is left of the others comes no earlier than their earliest
          have hmem := (earliest_le hfiltered).1
          have hle := not_isBefore_earliest hsome e (List.mem_filter.mp hmem).1
          rw [Due.isBefore_iff] at hnot hle
          refine if_neg ?_
          rw [Due.isBefore_iff]
          omega

/-- An event of a request that comes next comes at an instant of its own, if it comes by `limit`. -/
def Untied (id : RequestId) (limit : Option Instant) (ds : List Due) : Prop :=
  ∀ d ∈ ds, d.request = id → d.noLaterThan limit = true → (∀ e ∈ ds, d.instant ≤ e.instant) →
    ∀ e ∈ ds, e.instant = d.instant → e = d

instance (id : RequestId) (limit : Option Instant) (ds : List Due) :
    Decidable (Untied id limit ds) := by
  unfold Untied
  infer_instance

theorem earliest_instant {ds ds' : List Due} (hsame : ds'.map Due.withoutTurn = ds.map Due.withoutTurn)
    {d d' : Due} (h : earliest ds = some d) (h' : earliest ds' = some d') :
    d'.instant = d.instant := by
  have hle : ∀ {as bs : List Due} {a b : Due}, as.map Due.withoutTurn = bs.map Due.withoutTurn →
      earliest as = some a → earliest bs = some b → a.instant ≤ b.instant := by
    intro as bs a b hmap ha hb
    have hmem : b.withoutTurn ∈ as.map Due.withoutTurn := by
      rw [hmap]
      exact List.mem_map_of_mem (earliest_le hb).1
    obtain ⟨c, hc, hcb⟩ := List.mem_map.mp hmem
    have hinstant : c.instant = b.instant := (Due.mk.inj hcb).1
    exact hinstant ▸ (earliest_le ha).2 c hc
  exact Nat.le_antisymm (hle hsame h' h) (hle hsame.symm h h')

/-- **Which event comes next does not depend on the turns of an untied request.** -/
theorem earliest_of_untied {id : RequestId} {limit : Option Instant} {ds ds' : List Due}
    (hsame : ds'.map Due.withoutTurn = ds.map Due.withoutTurn)
    (hothers : ds'.filter (·.request != id) = ds.filter (·.request != id))
    (huntied : Untied id limit ds) {d d' : Due} (h : earliest ds = some d)
    (h' : earliest ds' = some d') (hlimit : d.noLaterThan limit = true) :
    d'.withoutTurn = d.withoutTurn := by
  have hinstant := earliest_instant hsame h h'
  -- an event of the request that comes at this instant is the only one
  have halone : ∀ e ∈ ds, e.request = id → e.instant = d.instant →
      ∀ e' ∈ ds, e'.instant = d.instant → e' = e := by
    intro e he hid heq e' he' heq'
    have hmin : ∀ x ∈ ds, e.instant ≤ x.instant := fun x hx => heq ▸ (earliest_le h).2 x hx
    have hlimit' : e.noLaterThan limit = true := by
      unfold Due.noLaterThan at hlimit ⊢
      rw [heq]
      exact hlimit
    exact huntied e he hid hlimit' hmin e' he' (heq'.trans heq.symm)
  by_cases hid : d.request = id
  · have hmem : d'.withoutTurn ∈ ds.map Due.withoutTurn := by
      rw [← hsame]
      exact List.mem_map_of_mem (earliest_le h').1
    obtain ⟨e, he, hed⟩ := List.mem_map.mp hmem
    have heq : e.instant = d.instant := ((Due.mk.inj hed).1).trans hinstant
    rw [← hed, halone d (earliest_le h).1 hid rfl e he heq]
  · -- the request has nothing at this instant, and the others are the same in both
    have hlate : ∀ e ∈ ds, e.request = id → d.instant < e.instant := by
      intro e he heid
      have hle := (earliest_le h).2 e he
      refine Nat.lt_of_le_of_ne hle fun heq => hid ?_
      rw [halone e he heid heq.symm d (earliest_le h).1 rfl]
      exact heid
    have hlate' : ∀ e ∈ ds', e.request = id → d'.instant < e.instant := by
      intro e he heid
      have hmem : e.withoutTurn ∈ ds.map Due.withoutTurn := by
        rw [← hsame]
        exact List.mem_map_of_mem he
      obtain ⟨x, hx, hxe⟩ := List.mem_map.mp hmem
      obtain ⟨hxi, hxr, -⟩ := Due.mk.inj hxe
      rw [hinstant]
      exact hxi ▸ hlate x hx (hxr.trans heid)
    have hmine : ∀ e : Due, (e.request != id) = false → e.request = id := fun e he => by
      simpa using he
    have hfiltered := earliest_filter h fun e he hp => hlate e he (hmine e hp)
    have hfiltered' := earliest_filter h' fun e he hp => hlate' e he (hmine e hp)
    rw [hothers] at hfiltered'
    rw [Option.some.inj (hfiltered'.symm.trans hfiltered)]

/-- Changes to a list that commute may be made in either order. -/
theorem modify_comm {γ : Type} {f g : γ → γ} (h : ∀ x, g (f x) = f (g x)) (l : List γ) (i j : Nat) :
    (l.modify i f).modify j g = (l.modify j g).modify i f := by
  by_cases hij : i = j
  · subst hij
    rw [List.modify_modify_eq, List.modify_modify_eq]
    exact congrArg _ (funext h)
  · exact List.modify_modify_ne f g l hij

theorem modify_append_left {γ : Type} {l : List γ} {i : Nat} (h : i < l.length) (f : γ → γ)
    (k : List γ) : (l ++ k).modify i f = l.modify i f ++ k := by
  induction l generalizing i with
  | nil => cases h
  | cons x rest ih =>
    cases i with
    | zero => rfl
    | succ i =>
      rw [List.cons_append, List.modify_succ_cons, List.modify_succ_cons, List.cons_append,
        ih (Nat.lt_of_succ_lt_succ h)]

theorem modify_concat_length {γ : Type} (l : List γ) (x : γ) (f : γ → γ) :
    (l ++ [x]).modify l.length f = l ++ [f x] := by
  induction l with
  | nil => rfl
  | cons y rest ih =>
    rw [List.cons_append, List.length_cons, List.modify_succ_cons, ih, List.cons_append]

namespace Run

variable {δ β σ ρ α ε : Type} {run : Run δ β σ ρ α ε} {id i : RequestId} {limit : Option Instant}

/-! ## One request in a task of its own -/

/-- The run in which a request has a task of its own. -/
def detach (id : RequestId) (run : Run δ β σ ρ α ε) : Run δ β σ ρ α ε :=
  { run with requests := run.requests.modify id fun r => { r with inPlace := false } }

theorem getElem?_detach (id : RequestId) (run : Run δ β σ ρ α ε) (i : RequestId) :
    (run.detach id).requests[i]? =
      (run.requests[i]?).map fun r => if id = i then { r with inPlace := false } else r := by
  unfold detach
  rw [List.getElem?_modify]
  rfl

theorem isRacing_detach (id : RequestId) (run : Run δ β σ ρ α ε) (i : RequestId) :
    (run.detach id).isRacing i = run.isRacing i := by
  unfold isRacing
  rw [getElem?_detach]
  cases run.requests[i]? with
  | none => rfl
  | some request =>
    show (if id = i then _ else request).isRacing = request.isRacing
    split <;> rfl

theorem Sound.detach (hs : run.Sound) (id : RequestId) : (run.detach id).Sound := by
  intro i request race there racing
  rw [getElem?_detach] at there
  obtain ⟨before, hthere, rfl⟩ := Option.map_eq_some_iff.mp there
  split at racing
  next hid =>
    have hrace := hs i before race hthere racing
    rw [if_pos hid]
    exact hrace
  next hid =>
    have hrace := hs i before race hthere racing
    rw [if_neg hid]
    exact hrace

theorem setStage_detach (id : RequestId) (run : Run δ β σ ρ α ε) (i : RequestId)
    (stage : Stage ρ α ε) :
    (run.detach id).setStage i stage = (run.setStage i stage).detach id := by
  have hrequests := modify_comm (f := fun r : Request ρ α ε => { r with inPlace := false })
    (g := fun r => { r with stage }) (fun _ => rfl) run.requests id i
  exact congrArg (fun requests => { run with requests }) hrequests

theorem dropCalls_detach (id : RequestId) (run : Run δ β σ ρ α ε) (race : Race ρ α ε) :
    (run.detach id).dropCalls race = (run.dropCalls race).detach id := by
  rw [dropCalls_eq, dropCalls_eq]
  rfl

theorem abandon_detach (id : RequestId) (run : Run δ β σ ρ α ε) (i : RequestId) :
    (run.detach id).abandon i = (run.abandon i).detach id := by
  unfold abandon
  rw [getElem?_detach]
  cases run.requests[i]? with
  | none => rfl
  | some request =>
    have hstage : (if id = i then { request with inPlace := false } else request).stage =
        request.stage := by
      split <;> rfl
    simp only [Option.map_some, hstage]
    split
    next race _ =>
      rw [dropCalls_detach]
      exact setStage_detach ..
    next => rfl

/-! ## What lies ahead -/

/-- Requests that stand at the same stage and have the same timer wait for the same, but their turns
may come at different times. -/
theorem pending_withoutTurn {request request' : Request ρ α ε}
    (hstage : request'.stage = request.stage) (htimer : request'.timer = request.timer)
    (calls : Ledger ρ α ε) (id : RequestId) :
    (request'.pending calls id).map Due.withoutTurn =
      (request.pending calls id).map Due.withoutTurn := by
  have hcall : ∀ race branch, (request'.pendingCall calls id race branch).toList.map Due.withoutTurn =
      (request.pendingCall calls id race branch).toList.map Due.withoutTurn := by
    intro race branch
    unfold Request.pendingCall
    cases race.call branch with
    | none => rfl
    | some c =>
      rw [Option.bind_some, Option.bind_some]
      cases calls[c]? <;> rfl
  unfold Request.pending
  rw [hstage, htimer]
  split
  next race _ =>
    rw [List.map_append, List.map_append, List.map_append, List.map_append, hcall race .primary,
      hcall race .backup]
    congr 2
    split
    · rw [List.map_map, List.map_map]
      rfl
    · rfl
  next => rfl

theorem pending_detach (id : RequestId) (run : Run δ β σ ρ α ε) :
    (run.detach id).pending.map Due.withoutTurn = run.pending.map Due.withoutTurn := by
  unfold pending
  rw [List.map_flatMap, List.map_flatMap]
  refine flatMap_zipIdx_modify 0 fun request _ => ?_
  have hstage : ({ request with inPlace := false } : Request ρ α ε).stage = request.stage := rfl
  exact pending_withoutTurn hstage rfl run.calls (0 + id)

theorem pending_detach_others (id : RequestId) (run : Run δ β σ ρ α ε) :
    (run.detach id).pending.filter (·.request != id) = run.pending.filter (·.request != id) :=
  pending_filter_ne rfl rfl

theorem pending_detach_of_ended (h : run.isRacing id = false) :
    (run.detach id).pending = run.pending := by
  unfold pending
  refine flatMap_zipIdx_modify 0 fun request there => ?_
  have hended : request.isRacing = false := by
    rw [isRacing_of_there there] at h
    exact h
  have hended' : ({ request with inPlace := false } : Request ρ α ε).isRacing = false := hended
  exact (pending_of_ended hended' run.calls _).trans (pending_of_ended hended run.calls _).symm

/-- The event that a drive goes on with is the same in both runs. -/
def Tracks (allowed : Due → Bool) (id : RequestId) (run : Run δ β σ ρ α ε) : Prop :=
  ((run.detach id).next?.filter allowed).map Due.withoutTurn =
    (run.next?.filter allowed).map Due.withoutTurn

theorem tracks_of_ended (h : run.isRacing id = false) (allowed : Due → Bool) :
    Tracks allowed id run := by
  unfold Tracks next?
  rw [pending_detach_of_ended h]

theorem tracks_of_untied {allowed : Due → Bool} (h : Untied id limit run.pending)
    (hlimit : ∀ due, allowed due = true → due.noLaterThan limit = true)
    (hinstant : ∀ due due' : Due, due'.instant = due.instant → allowed due' = allowed due) :
    Tracks allowed id run := by
  have hsame := pending_detach id run
  unfold Tracks next?
  cases hnext : earliest run.pending with
  | none =>
    rw [earliest_eq_none hnext] at hsame
    rw [List.map_eq_nil_iff.mp hsame]
    rfl
  | some due =>
    cases hnext' : earliest (run.detach id).pending with
    | none =>
      rw [earliest_eq_none hnext'] at hsame
      rw [List.map_eq_nil_iff.mp hsame.symm] at hnext
      cases hnext
    | some due' =>
      have hallowed := hinstant due due' (earliest_instant hsame hnext hnext')
      rw [Option.filter_some, Option.filter_some, hallowed]
      cases hdue : allowed due with
      | false => rfl
      | true =>
        have heq := earliest_of_untied hsame (pending_detach_others id run) h hnext hnext'
          (hlimit due hdue)
        exact congrArg some heq

/-! ## Moves -/

theorem settle_detach (id : RequestId) (run : Run δ β σ ρ α ε) (i : RequestId)
    (started : Instant) (race : Race ρ α ε) :
    (run.detach id).settle i started race = (run.settle i started race).detach id := by
  unfold settle
  simp only
  rw [dropCalls_detach, setStage_detach]
  rfl

section Moves

variable [DelayEstimator δ]

theorem perform_detach (svc : Service σ ρ α ε) (delay : Option Duration) (id : RequestId)
    (run : Run δ β σ ρ α ε) (action : Race.Action ρ) :
    (run.detach id).perform svc delay action = (run.perform svc delay action).detach id := by
  cases action <;> rfl

theorem foldl_perform_detach (svc : Service σ ρ α ε) (delay : Option Duration) (id : RequestId)
    (actions : List (Race.Action ρ)) (run : Run δ β σ ρ α ε) :
    actions.foldl (perform svc delay) (run.detach id) =
      (actions.foldl (perform svc delay) run).detach id := by
  induction actions generalizing run with
  | nil => rfl
  | cons action rest ih =>
    rw [List.foldl_cons, List.foldl_cons, perform_detach, ih]

/-- A race goes on in the same way, whoever drives its request. -/
theorem deliver_detach (svc : Service σ ρ α ε) (id : RequestId) (run : Run δ β σ ρ α ε)
    (i : RequestId) {request request' : Request ρ α ε} (hdelay : request'.delay = request.delay)
    (hstarted : request'.started = request.started) (race : Race ρ α ε)
    (event : Race.Event α ε) :
    (run.detach id).deliver svc i request' race event =
      (run.deliver svc i request race event).detach id := by
  obtain ⟨race', actions, hstep⟩ :
      ∃ race' actions, race.step run.calls.length event = (race', actions) := ⟨_, _, rfl⟩
  have hstep' : race.step (run.detach id).calls.length event = (race', actions) := hstep
  rw [deliver_of_step svc run i request hstep, deliver_of_step svc (run.detach id) i request' hstep',
    hdelay, hstarted, foldl_perform_detach, settle_detach, setStage_detach]
  split <;> rfl

theorem fireCall_detach (svc : Service σ ρ α ε) (id : RequestId) (run : Run δ β σ ρ α ε)
    (i : RequestId) {request request' : Request ρ α ε} (hdelay : request'.delay = request.delay)
    (hstarted : request'.started = request.started) (race : Race ρ α ε) (branch : Branch) :
    (run.detach id).fireCall svc i request' race branch =
      (run.fireCall svc i request race branch).detach id := by
  have hcalls : (run.detach id).calls = run.calls := rfl
  unfold fireCall
  rw [hcalls]
  split
  next => rfl
  next c call _ =>
    have hdeliver := deliver_detach svc id { run with calls := run.calls.finish c } i hdelay hstarted
      race
    simp only
    split
    next => exact hdeliver _
    next => exact hdeliver _
    next message _ =>
      have hdrop := dropCalls_detach id { run with calls := run.calls.finish c } race
      exact (congrArg (·.setStage i (.crashed run.now message)) hdrop).trans (setStage_detach ..)

variable [AdmissionBudget β]

theorem fireTimer_detach (svc : Service σ ρ α ε) (id : RequestId) (run : Run δ β σ ρ α ε)
    (i : RequestId) {request request' : Request ρ α ε} (hdelay : request'.delay = request.delay)
    (hstarted : request'.started = request.started) (race : Race ρ α ε) :
    (run.detach id).fireTimer svc i request' race =
      (run.fireTimer svc i request race).detach id := by
  unfold fireTimer
  split
  · exact deliver_detach svc id run i hdelay hstarted race _
  · exact deliver_detach svc id { run with budget := (AdmissionBudget.tryConsume run.budget).2 } i
      hdelay hstarted race _

/-- **An event does the same, whoever drives a request.** -/
theorem fire_detach (svc : Service σ ρ α ε) (id : RequestId) (run : Run δ β σ ρ α ε) (due : Due) :
    (run.detach id).fire svc due = (run.fire svc due).detach id := by
  obtain ⟨t, i, source, turn⟩ := due
  have hdetached := getElem?_detach id run i
  cases there : run.requests[i]? with
  | none =>
    rw [there] at hdetached
    have hnone : ∀ run : Run δ β σ ρ α ε, run.requests[i]? = none →
        run.fire svc ⟨t, i, source, turn⟩ = run.wind t := by
      intro run hnot
      unfold fire
      simp only [hnot]
      rfl
    rw [hnone _ hdetached, hnone run there]
    rfl
  | some request =>
    rw [there, Option.map_some] at hdetached
    -- of the request only the flag has changed
    generalize hrequest : (if id = i then { request with inPlace := false } else request) = request'
      at hdetached
    obtain ⟨hstage, hdelay, hstarted⟩ : request'.stage = request.stage ∧
        request'.delay = request.delay ∧ request'.started = request.started := by
      rw [← hrequest]
      split <;> exact ⟨rfl, rfl, rfl⟩
    cases hracing : request.stage with
    | racing race =>
      have hracing' := hstage.trans hracing
      cases source with
      | timer =>
        rw [fire_timer_eq svc t turn hdetached hracing', fire_timer_eq svc t turn there hracing]
        exact fireTimer_detach svc id (run.wind t) i hdelay hstarted race
      | call branch =>
        rw [fire_call_eq svc t branch turn hdetached hracing',
          fire_call_eq svc t branch turn there hracing]
        exact fireCall_detach svc id (run.wind t) i hdelay hstarted race branch
    | settled | crashed | abandoned =>
      have hended : request.isRacing = false := by
        unfold Request.isRacing
        rw [hracing]
      have hended' : request'.isRacing = false := by
        unfold Request.isRacing
        rw [hstage, hracing]
      have hfire : run.fire svc ⟨t, i, source, turn⟩ = run.wind t := fire_of_ended svc there hended
      have hfire' : (run.detach id).fire svc ⟨t, i, source, turn⟩ = (run.detach id).wind t :=
        fire_of_ended svc hdetached hended'
      rw [hfire, hfire']
      rfl

theorem start_detach (svc : Service σ ρ α ε) (hlt : id < run.requests.length) (payload : ρ)
    (inPlace : Bool) :
    (run.detach id).start svc payload inPlace = (run.start svc payload inPlace).detach id := by
  have hrequests := modify_append_left hlt (fun r : Request ρ α ε => { r with inPlace := false })
    [{ payload, inPlace, started := run.now, delay := DelayEstimator.currentDelay run.estimator
       stage := .racing (.start payload run.calls.length
        (DelayEstimator.currentDelay run.estimator).isSome) }]
  exact congrArg (fun requests => { run.start svc payload inPlace with requests }) hrequests.symm

/-- To make a request in place and to take it for one with a task of its own is to spawn it. -/
theorem start_detach_new (svc : Service σ ρ α ε) (run : Run δ β σ ρ α ε) (payload : ρ) :
    (run.start svc payload true).detach run.requests.length = run.start svc payload false := by
  have hrequests := modify_concat_length run.requests
    { payload, inPlace := true, started := run.now
      delay := DelayEstimator.currentDelay run.estimator
      stage := .racing (.start payload run.calls.length
        (DelayEstimator.currentDelay run.estimator).isSome) }
    fun r : Request ρ α ε => { r with inPlace := false }
  exact congrArg (fun requests => { run.start svc payload true with requests }) hrequests

end Moves

section Drives

variable [DelayEstimator δ] [AdmissionBudget β] {svc : Service σ ρ α ε} {allowed : Due → Bool}
  {waiting : Run δ β σ ρ α ε → Bool}

/-! ## Drives -/

/-- As long as a request is waited for until `limit`, whenever an event of it comes next, no other
event lies ahead at that instant. -/
def Undisturbed (svc : Service σ ρ α ε) (run : Run δ β σ ρ α ε) (id : RequestId)
    (limit : Option Instant) : Prop :=
  ∀ n, n ≤ run.potential →
    Untied id limit (run.driveFuel svc (Due.noLaterThan limit) (·.isRacing id) n).pending

instance (svc : Service σ ρ α ε) (run : Run δ β σ ρ α ε) (id : RequestId)
    (limit : Option Instant) : Decidable (Undisturbed svc run id limit) :=
  Nat.decidableBallLE _ _

theorem Undisturbed.untied (h : Undisturbed svc run id limit) : Untied id limit run.pending :=
  h 0 (Nat.zero_le _)

/-- Nothing disturbs a request that has ended. -/
theorem Undisturbed.of_ended (svc : Service σ ρ α ε) (hlt : id < run.requests.length)
    (h : run.isRacing id = false) (limit : Option Instant) : Undisturbed svc run id limit := by
  intro n _
  rw [driveFuel_of_stopped svc (Or.inl h)]
  intro due hdue hid
  have hthere := List.getElem?_eq_getElem hlt
  rw [isRacing_of_there hthere] at h
  exact absurd hid (request_ne_of_ended hthere h hdue)

theorem Undisturbed.fire (h : Undisturbed svc run id limit) (hs : run.Sound)
    (hlt : id < run.requests.length) {due : Due} (hnext : run.next? = some due)
    (hlimit : due.noLaterThan limit = true) : Undisturbed svc (run.fire svc due) id limit := by
  cases hracing : run.isRacing id with
  | true =>
    intro n hn
    have hlower := potential_fire_lt svc hs (earliest_le hnext).1
    have huntied := h (n + 1) (by omega)
    rw [driveFuel_succ svc hracing hnext hlimit] at huntied
    exact huntied
  | false =>
    have hfire : Leads svc Regular run (run.fire svc due) := .single (regular_fire hnext)
    exact .of_ended svc (hfire.lt_length hs hlt) (hfire.ended hs hlt hracing).2 limit

/-- An undisturbed request stays undisturbed by whatever drives the run up to the limit. -/
theorem Undisturbed.drive (h : Undisturbed svc run id limit) (hs : run.Sound)
    (hlt : id < run.requests.length)
    (hlimit : ∀ due, allowed due = true → due.noLaterThan limit = true) :
    Undisturbed svc (run.drive svc allowed waiting) id limit := by
  refine drive_induction svc allowed waiting (P := fun run =>
    id < run.requests.length → Undisturbed svc run id limit →
      Undisturbed svc (run.drive svc allowed waiting) id limit) ?_ ?_ hs hlt h
  · intro run _ hstop _ h
    rw [drive_of_stopped svc hstop]
    exact h
  · intro run due hs hwaits hnext hdue ih hlt h
    have hfire : Leads svc Regular run (run.fire svc due) := .single (regular_fire hnext)
    rw [drive_of_next svc hs hwaits hnext hdue]
    exact ih (hfire.lt_length hs hlt) (h.fire hs hlt hnext (hlimit due hdue))

/-- Two runs that go on with the same events are driven in the same way. -/
theorem drive_detach {P : Run δ β σ ρ α ε → Prop} (hs : run.Sound)
    (htracks : ∀ run, P run → Tracks allowed id run)
    (hfire : ∀ run due, run.Sound → run.next? = some due → allowed due = true → P run →
      P (run.fire svc due))
    (hwaiting : ∀ run, waiting (run.detach id) = waiting run) (h : P run) :
    (run.detach id).drive svc allowed waiting = (run.drive svc allowed waiting).detach id := by
  refine drive_induction svc allowed waiting (P := fun run => P run →
    (run.detach id).drive svc allowed waiting = (run.drive svc allowed waiting).detach id)
    ?_ ?_ hs h
  · intro run _ hstop h
    have hstop' : Stopped allowed waiting (run.detach id) := by
      rcases hstop with hwaits | hrefused
      · exact Or.inl ((hwaiting run).trans hwaits)
      · refine Or.inr fun due hdue => ?_
        have hnone : run.next?.filter allowed = none :=
          Option.filter_eq_none_iff.mpr fun due' hdue' => by
            rw [hrefused due' hdue']
            exact Bool.false_ne_true
        have hsame := htracks run h
        unfold Tracks at hsame
        rw [hnone, Option.map_none, Option.map_eq_none_iff, Option.filter_eq_none_iff] at hsame
        exact Bool.not_eq_true _ ▸ hsame due hdue
    rw [drive_of_stopped svc hstop, drive_of_stopped svc hstop']
  · intro run due hs hwaits hnext hdue ih h
    have hsame := htracks run h
    unfold Tracks at hsame
    rw [hnext, Option.filter_some, if_pos hdue, Option.map_some] at hsame
    obtain ⟨due', hfound, hturn⟩ := Option.map_eq_some_iff.mp hsame
    obtain ⟨hnext', hdue'⟩ := Option.filter_eq_some_iff.mp hfound
    -- what an event does, it does whenever its turn comes
    have hfired : (run.detach id).fire svc due' = (run.fire svc due).detach id := by
      rw [← fire_detach]
      show (run.detach id).fire svc due'.withoutTurn = (run.detach id).fire svc due.withoutTurn
      rw [hturn]
    rw [drive_of_next svc hs hwaits hnext hdue,
      drive_of_next svc (hs.detach id) ((hwaiting run).trans hwaits) hnext' hdue', hfired]
    exact ih (hfire run due hs hnext hdue h)

/-- **An undisturbed request is driven in the same way, whoever drives it**, up to the limit. -/
theorem Undisturbed.drive_detach (h : Undisturbed svc run id limit) (hs : run.Sound)
    (hlt : id < run.requests.length)
    (hlimit : ∀ due, allowed due = true → due.noLaterThan limit = true)
    (hinstant : ∀ due due' : Due, due'.instant = due.instant → allowed due' = allowed due)
    (hwaiting : ∀ run, waiting (run.detach id) = waiting run) :
    (run.detach id).drive svc allowed waiting = (run.drive svc allowed waiting).detach id := by
  refine Run.drive_detach (P := fun run => id < run.requests.length ∧
    Undisturbed svc run id limit) hs ?_ ?_ hwaiting ⟨hlt, h⟩
  · intro run h
    exact tracks_of_untied h.2.untied hlimit hinstant
  · intro run due hs hnext hdue h
    have hfire : Leads svc Regular run (run.fire svc due) := .single (regular_fire hnext)
    exact ⟨hfire.lt_length hs h.1, h.2.fire hs h.1 hnext (hlimit due hdue)⟩

/-- When a request has ended, it makes no difference any more who has driven it. -/
theorem drive_detach_of_ended (svc : Service σ ρ α ε) (hs : run.Sound)
    (hlt : id < run.requests.length) (hended : run.isRacing id = false) (allowed : Due → Bool)
    (hwaiting : ∀ run, waiting (run.detach id) = waiting run) :
    (run.detach id).drive svc allowed waiting = (run.drive svc allowed waiting).detach id := by
  refine Run.drive_detach (P := fun run => id < run.requests.length ∧ run.isRacing id = false) hs
    (fun run h => tracks_of_ended h.2 allowed) ?_ hwaiting ⟨hlt, hended⟩
  intro run due hs hnext _ h
  have hfire : Leads svc Regular run (run.fire svc due) := .single (regular_fire hnext)
  exact ⟨hfire.lt_length hs h.1, (hfire.ended hs h.1 h.2).2⟩

end Drives

end Run

end Hedging
