import Hedging.Proofs.Run.Prompt
import Hedging.Service.Script

/-!
# The log and the counters

Entries of the log, counters and latencies fed to the estimator are written in different places of a
run. `Notes` says for every change which entries it adds and what else goes with them: a backup that
is sent is counted and its entry tells the delay of its request, a refusal is counted, a call that
answers has its latency noted and fed, and if it is a backup its victory comes right before that.
Carried along every run this makes the log an account of the run, `Told`.

> `log_tells`: the log of every run has one entry for each sample, backup and refusal that the
> counters tell of, and one for each request that a backup settled, in the order in which they came
> about and with their milliseconds; no timer goes off that has lost its purpose.

An entry holds its milliseconds in a 64-bit word. As long as every event comes in its time no latency
is too long for that (`Prompt.play`).
-/

namespace Hedging

namespace LogEntry

/-- The milliseconds of a sample. -/
def sampled? : LogEntry → Option Nat
  | .sampled ms => some ms
  | _ => none

/-- The delay of a backup that was sent. -/
def hedged? : LogEntry → Option (Option Nat)
  | .hedged delay => some delay
  | _ => none

/-- The milliseconds of a backup that settled its request. -/
def backupWon? : LogEntry → Option Nat
  | .backupWon ms => some ms
  | _ => none

/-- What is not too long for its word is told exactly. -/
theorem millisWord_of_lt {d : Duration} (h : d.millis < 0x10000000000000000) :
    millisWord d = d.millis :=
  Nat.mod_eq_of_lt h

end LogEntry

/-- Has the backup of a request settled it, with a value or with a failure? -/
def Stage.isBackups {ρ α ε : Type} : Stage ρ α ε → Bool
  | .settled _ (.ok h) => h.branch == .backup
  | .settled _ (.error (.failed branch _)) => branch == .backup
  | _ => false

/-- The requests whose backups are on a list of owners, in its order. -/
def hedgers (who : List (RequestId × Branch)) : List RequestId :=
  who.filterMap fun owner => if owner.2 = .backup then some owner.1 else none

theorem hedgers_append (who more : List (RequestId × Branch)) :
    hedgers (who ++ more) = hedgers who ++ hedgers more :=
  List.filterMap_append ..

theorem mem_of_mem_hedgers {who : List (RequestId × Branch)} {id : RequestId}
    (h : id ∈ hedgers who) : (id, Branch.backup) ∈ who := by
  obtain ⟨⟨i, branch⟩, hmem, howner⟩ := List.mem_filterMap.mp h
  by_cases hb : branch = .backup
  · subst hb
    rw [if_pos rfl] at howner
    rwa [← Option.some.inj howner]
  · rw [if_neg hb] at howner
    cases howner

namespace Run

section Notes

variable {δ β σ ρ α ε : Type} {run run' : Run δ β σ ρ α ε} {who : List (RequestId × Branch)}

/-! ## What a change notes -/

/-- The delay that a request read when it arrived. -/
def delayOf (run : Run δ β σ ρ α ε) (id : RequestId) : Option Duration :=
  (run.requests[id]?).bind (·.delay)

/-- The number of requests that their backups have settled. -/
def backupEnds (run : Run δ β σ ρ α ε) : Nat := run.requests.countP (·.stage.isBackups)

/-- The requests for which a change sends a backup. -/
def hedging (run run' : Run δ β σ ρ α ε) (subject : Option RequestId) : List RequestId :=
  hedgers (List.replicate (run'.calls.length - run.calls.length) (run.issuer subject))

/-- The entries that a change adds to the log, and what goes with them. -/
inductive Notes (run run' : Run δ β σ ρ α ε) (subject : Option RequestId) : List LogEntry → Prop
  | nothing (fed : run'.fed = run.fed)
    (issued : run'.counters.backupsIssued = run.counters.backupsIssued)
    (denied : run'.counters.backupsDenied = run.counters.backupsDenied)
    (ends : run'.backupEnds = run.backupEnds) (hedging : run.hedging run' subject = []) :
    Notes run run' subject []
  /-- A backup was sent. -/
  | hedged {id : RequestId} {delay : Duration} (read : run.delayOf id = some delay)
    (fed : run'.fed = run.fed)
    (issued : run'.counters.backupsIssued = run.counters.backupsIssued + 1)
    (denied : run'.counters.backupsDenied = run.counters.backupsDenied)
    (ends : run'.backupEnds = run.backupEnds) (hedging : run.hedging run' subject = [id]) :
    Notes run run' subject [.hedged (some (LogEntry.millisWord delay))]
  /-- A backup was refused. -/
  | denied (fed : run'.fed = run.fed)
    (issued : run'.counters.backupsIssued = run.counters.backupsIssued)
    (denied : run'.counters.backupsDenied = run.counters.backupsDenied + 1)
    (ends : run'.backupEnds = run.backupEnds) (hedging : run.hedging run' subject = []) :
    Notes run run' subject [.denied]
  /-- A primary has answered. -/
  | sampled (latency : Duration) (fed : run'.fed = run.fed.push latency)
    (issued : run'.counters.backupsIssued = run.counters.backupsIssued)
    (denied : run'.counters.backupsDenied = run.counters.backupsDenied)
    (ends : run'.backupEnds = run.backupEnds) (hedging : run.hedging run' subject = []) :
    Notes run run' subject [.sampled (LogEntry.millisWord latency)]
  /-- A backup has answered. -/
  | won (latency : Duration) (fed : run'.fed = run.fed.push latency)
    (issued : run'.counters.backupsIssued = run.counters.backupsIssued)
    (denied : run'.counters.backupsDenied = run.counters.backupsDenied)
    (ends : run'.backupEnds = run.backupEnds + 1) (hedging : run.hedging run' subject = []) :
    Notes run run' subject
      [.backupWon (LogEntry.millisWord latency), .sampled (LogEntry.millisWord latency)]

theorem hedging_of_issues {subject : Option RequestId}
    (h : run'.calls.issues = run.calls.issues) : run.hedging run' subject = [] := by
  unfold hedging
  rw [Ledger.length_of_issues h, Nat.sub_self]
  rfl

/-- A racing request that goes to another stage was settled by its backup if the stage says so. -/
theorem backupEnds_of_stage {id : RequestId} {request : Request ρ α ε} {race : Race ρ α ε}
    {stage : Stage ρ α ε} (there : run.requests[id]? = some request)
    (racing : request.stage = .racing race)
    (hrequests : run'.requests = run.requests.modify id fun r => { r with stage }) :
    run'.backupEnds = run.backupEnds + stage.isBackups.toNat := by
  have hcount := countP_modify (p := fun r => r.stage.isBackups)
    (fun r : Request ρ α ε => { r with stage }) there
  have hbefore : request.stage.isBackups = false := by rw [racing]; rfl
  simp only [hbefore, Bool.toNat_false, Nat.add_zero] at hcount
  unfold backupEnds
  rw [hrequests]
  exact hcount

theorem backupEnds_kept {id : RequestId} {request : Request ρ α ε} {race : Race ρ α ε}
    {stage : Stage ρ α ε} (there : run.requests[id]? = some request)
    (racing : request.stage = .racing race)
    (hrequests : run'.requests = run.requests.modify id fun r => { r with stage })
    (hstage : stage.isBackups = false) : run'.backupEnds = run.backupEnds := by
  rw [backupEnds_of_stage there racing hrequests, hstage]
  rfl

theorem isBackups_resultOf (t : Instant) (latency : Duration) (branch : Branch)
    {completion : Completion α ε} (ended : completion.isCancelled = false) :
    (Stage.settled t (resultOf latency (some (branch, completion))) : Stage ρ α ε).isBackups
      = (branch == .backup) := by
  cases completion with
  | succeeded value => rfl
  | failed error => rfl
  | cancelled => cases ended

end Notes

section Change

variable {δ β σ ρ α ε : Type} [DelayEstimator δ] [AdmissionBudget β] {svc : Service σ ρ α ε}
  {run run' : Run δ β σ ρ α ε} {subject : Option RequestId}

/-- Timers are set for requests with a delay only. -/
def Delayed (run : Run δ β σ ρ α ε) : Prop :=
  ∀ (id : RequestId) (request : Request ρ α ε), run.requests[id]? = some request →
    request.isArmed = true → request.delay.isSome = true

omit [DelayEstimator δ] [AdmissionBudget β] in
theorem new_delayed (service : σ) (estimator : δ) (budget : β) :
    (Run.new service estimator budget : Run δ β σ ρ α ε).Delayed :=
  fun _ _ there => by cases there

omit [DelayEstimator δ] [AdmissionBudget β] in
theorem Delayed.of_stage (h : run.Delayed) {id : RequestId} {request : Request ρ α ε}
    {stage : Stage ρ α ε} (there : run.requests[id]? = some request)
    (hrequests : run'.requests = run.requests.modify id fun r => { r with stage })
    (hstage : ({ request with stage } : Request ρ α ε).isArmed = true → request.isArmed = true) :
    run'.Delayed := by
  intro i r there' armed
  rcases there_of_stage hrequests there' with ⟨rfl, before, hbefore, rfl⟩ | ⟨-, hkept⟩
  · obtain rfl := Option.some.inj (there.symm.trans hbefore)
    exact h id request there (hstage armed)
  · exact h i r hkept armed

theorem Change.delayed (hc : Change svc run subject run') (h : run.Delayed) : run'.Delayed := by
  cases hc with
  | started payload inPlace =>
    intro id request there armed
    rcases getElem?_concat_cases there with ⟨there', -⟩ | ⟨-, rfl⟩
    · exact h id request there' armed
    · exact armed
  | wound _ t => exact h
  | hedged there racing => exact h.of_stage there rfl nofun
  | denied there racing => exact h.of_stage there rfl nofun
  | answered there racing => exact h.of_stage there (requests_answer ..) nofun
  | crashed there racing =>
    rw [dropCalls_eq]
    exact h.of_stage there rfl nofun
  | @bereft _ _ _ branch _ _ there racing =>
    refine h.of_stage there rfl fun armed => ?_
    rw [Request.isArmed_of_racing racing]
    cases branch <;> exact armed
  | lost there racing => exact h.of_stage there rfl nofun
  | abandoned there racing =>
    rw [dropCalls_eq]
    exact h.of_stage there rfl nofun

/-- **Every change notes what it does**, in the log as in the counters. -/
theorem Change.notes (hc : Change svc run subject run') (h : run.Delayed) :
    ∃ entries, run'.log.toList = run.log.toList ++ entries ∧ Notes run run' subject entries := by
  cases hc with
  | started payload inPlace =>
    refine ⟨[], (List.append_nil _).symm, .nothing rfl rfl rfl ?_ ?_⟩
    · show (run.requests ++ [_]).countP _ = _
      rw [List.countP_append]
      rfl
    · have hlength : (run.start svc payload inPlace).calls.length = run.calls.length + 1 :=
        Ledger.length_issue ..
      unfold hedging
      rw [hlength, Nat.add_sub_cancel_left]
      rfl
  | wound _ t =>
    exact ⟨[], (List.append_nil _).symm, .nothing rfl rfl rfl rfl (hedging_of_issues rfl)⟩
  | @hedged t id request race there racing armed granted =>
    obtain ⟨delay, hdelay⟩ := Option.isSome_iff_exists.mp
      (h id request there ((Request.isArmed_of_racing racing).trans armed))
    have hread : run.delayOf id = some delay := by
      unfold delayOf
      rw [there, Option.bind_some, hdelay]
    have hlength : ((run.wind t).hedge svc id request race).calls.length = run.calls.length + 1 :=
      Ledger.length_issue ..
    refine ⟨[.hedged (some (LogEntry.millisWord delay))], ?_,
      .hedged hread rfl rfl rfl (backupEnds_kept there racing rfl rfl) ?_⟩
    · show (run.log.push (.hedged (request.delay.map LogEntry.millisWord))).toList = _
      rw [hdelay, Array.toList_push]
      rfl
    · unfold hedging
      rw [hlength, Nat.add_sub_cancel_left]
      rfl
  | denied there racing =>
    exact ⟨[.denied], Array.toList_push .., .denied rfl rfl rfl (backupEnds_kept there racing rfl rfl)
      (hedging_of_issues rfl)⟩
  | @answered t id request race branch c call completion there racing waited held said =>
    have hended := Reply.isCancelled_of_completion? said
    have hissues := (Ledger.issues_foldl_drop (race.without branch).calls
      (Ledger.finish run.calls c)).trans (Ledger.issues_finish ..)
    have hends : (answer { run.wind t with calls := run.calls.finish c } id request race branch
        (call.elapsed (max run.now t)) completion).backupEnds =
        run.backupEnds + (branch == .backup).toNat := by
      rw [← isBackups_resultOf _ _ branch hended]
      refine backupEnds_of_stage there racing ?_
      exact requests_answer ..
    cases branch with
    | primary =>
      exact ⟨[.sampled _], Array.toList_push .., .sampled _ rfl (Counters.backupsIssued_settle ..)
        (Counters.backupsDenied_settle ..) hends (hedging_of_issues hissues)⟩
    | backup =>
      refine ⟨[.backupWon _, .sampled _], ?_, .won _ rfl (Counters.backupsIssued_settle ..)
        (Counters.backupsDenied_settle ..) hends (hedging_of_issues hissues)⟩
      show ((run.log.push _).push _).toList = _
      rw [Array.toList_push, Array.toList_push, List.append_assoc]
      rfl
  | @crashed _ _ _ race _ c _ _ there racing waited held said =>
    have hissues := (Ledger.issues_foldl_drop race.calls (Ledger.finish run.calls c)).trans
      (Ledger.issues_finish ..)
    rw [dropCalls_eq]
    exact ⟨[], (List.append_nil _).symm, .nothing rfl rfl rfl (backupEnds_kept there racing rfl rfl)
      (hedging_of_issues hissues)⟩
  | @bereft _ _ _ _ c _ there racing =>
    exact ⟨[], (List.append_nil _).symm, .nothing rfl rfl rfl (backupEnds_kept there racing rfl rfl)
      (hedging_of_issues (Ledger.issues_foldl_drop [c] _))⟩
  | @lost _ _ _ _ c there racing =>
    exact ⟨[], (List.append_nil _).symm, .nothing rfl rfl rfl (backupEnds_kept there racing rfl rfl)
      (hedging_of_issues (Ledger.issues_foldl_drop [c] _))⟩
  | @abandoned _ _ race there racing =>
    have hissues := Ledger.issues_foldl_drop race.calls run.calls
    rw [dropCalls_eq]
    exact ⟨[], (List.append_nil _).symm, .nothing rfl rfl rfl (backupEnds_kept there racing rfl rfl)
      (hedging_of_issues hissues)⟩

/-! ## The log of a run -/

/-- Every victory of a backup comes right before the sample of its latency. -/
def Followed (log : List LogEntry) : Prop :=
  ∀ i ms, log[i]? = some (.backupWon ms) → log[i + 1]? = some (.sampled ms)

theorem Followed.append {log entries : List LogEntry} (h : Followed log) (he : Followed entries) :
    Followed (log ++ entries) := by
  intro i ms hi
  rcases Nat.lt_or_ge i log.length with hlt | hge
  · rw [List.getElem?_append_left hlt] at hi
    have hnext := h i ms hi
    rw [List.getElem?_append_left (List.getElem?_eq_some_iff.mp hnext).1]
    exact hnext
  · rw [List.getElem?_append_right hge] at hi
    rw [List.getElem?_append_right (Nat.le_succ_of_le hge), Nat.succ_sub hge]
    exact he _ ms hi

/-- The log of a run, as its counters and the owners of its calls have it. -/
structure Told (run : Run δ β σ ρ α ε) (who : List (RequestId × Branch)) : Prop where
  sampled : run.log.toList.filterMap LogEntry.sampled? =
    run.fed.toList.map LogEntry.millisWord
  hedged : run.log.toList.filterMap LogEntry.hedged? =
    (hedgers who).map fun id => (run.delayOf id).map LogEntry.millisWord
  delayed : ∀ id ∈ hedgers who, (run.delayOf id).isSome = true
  issued : (hedgers who).length = run.counters.backupsIssued
  denied : run.log.toList.count .denied = run.counters.backupsDenied
  won : (run.log.toList.filterMap LogEntry.backupWon?).length = run.backupEnds
  followed : Followed run.log.toList
  fresh : .staleTimer ∉ run.log.toList

omit [DelayEstimator δ] [AdmissionBudget β] in
theorem new_told (service : σ) (estimator : δ) (budget : β) :
    (Run.new service estimator budget : Run δ β σ ρ α ε).Told [] :=
  { sampled := rfl
    hedged := rfl
    delayed := nofun
    issued := rfl
    denied := rfl
    won := rfl
    followed := nofun
    fresh := nofun }

/-- A request reads its delay once. -/
theorem Change.delayOf (hc : Change svc run subject run') {id : RequestId}
    (hlt : id < run.requests.length) : run'.delayOf id = run.delayOf id := by
  obtain ⟨stage, hthere⟩ := hc.request (List.getElem?_eq_getElem hlt)
  unfold Run.delayOf
  rw [hthere, List.getElem?_eq_getElem hlt]
  rfl

omit [DelayEstimator δ] [AdmissionBudget β] in
theorem Notes.followed {entries : List LogEntry} (hn : Notes run run' subject entries) :
    Followed entries := by
  intro i ms hi
  cases hn with
  | won latency =>
    match i with
    | 0 =>
      obtain rfl := LogEntry.backupWon.inj (Option.some.inj hi)
      rfl
    | 1 => cases hi
    | i + 2 => cases hi
  | nothing => cases hi
  | hedged => cases i <;> cases hi
  | denied => cases i <;> cases hi
  | sampled => cases i <;> cases hi

/-- What a change notes keeps the log an account of the run. -/
theorem Change.told (hc : Change svc run subject run') (hd : run.Delayed)
    {who : List (RequestId × Branch)} (hknown : ∀ owner ∈ who, owner.1 < run.requests.length)
    (h : run.Told who) :
    run'.Told (who ++
      List.replicate (run'.calls.length - run.calls.length) (run.issuer subject)) := by
  obtain ⟨entries, hlog, hn⟩ := hc.notes hd
  have hdelay : ∀ id ∈ hedgers who, run'.delayOf id = run.delayOf id := fun id hid =>
    hc.delayOf (hknown _ (mem_of_mem_hedgers hid))
  -- a backup is sent for a request that is there
  have hread : ∀ id ∈ run.hedging run' subject, run'.delayOf id = run.delayOf id := by
    intro id hid
    cases hn with
    | hedged read _ _ _ _ hedging =>
      rw [hedging, List.mem_singleton] at hid
      subst hid
      refine hc.delayOf (Nat.lt_of_not_le fun hle => ?_)
      unfold Run.delayOf at read
      rw [List.getElem?_eq_none hle] at read
      cases read
    | nothing _ _ _ _ hedging | denied _ _ _ _ hedging | sampled _ _ _ _ _ hedging
    | won _ _ _ _ _ hedging =>
      rw [hedging] at hid
      cases hid
  have hall : ∀ id ∈ hedgers who ++ run.hedging run' subject, run'.delayOf id = run.delayOf id :=
    fun id hid => (List.mem_append.mp hid).elim (hdelay id) (hread id)
  refine
    { sampled := ?_
      hedged := ?_
      delayed := ?_
      issued := ?_
      denied := ?_
      won := ?_
      followed := hlog ▸ h.followed.append hn.followed
      fresh := ?_ }
  · rw [hlog, List.filterMap_append, h.sampled]
    cases hn <;> simp_all [LogEntry.sampled?, List.filterMap_cons]
  · rw [hlog, List.filterMap_append, h.hedged, hedgers_append]
    show _ = (hedgers who ++ run.hedging run' subject).map _
    rw [List.map_congr_left fun id hid => congrArg _ (hall id hid), List.map_append]
    cases hn <;> simp_all [LogEntry.hedged?]
  · rw [hedgers_append]
    show ∀ id ∈ hedgers who ++ run.hedging run' subject, _
    intro id hid
    rw [hall id hid]
    rcases List.mem_append.mp hid with hid | hid
    · exact h.delayed id hid
    · cases hn <;> simp_all
  · rw [hedgers_append, List.length_append, h.issued]
    show _ + (run.hedging run' subject).length = _
    cases hn <;> simp_all
  · rw [hlog, List.count_append, h.denied]
    cases hn <;> simp_all
  · rw [hlog, List.filterMap_append, List.length_append, h.won]
    cases hn <;> simp_all [LogEntry.backupWon?]
  · rw [hlog, List.mem_append, not_or]
    refine ⟨h.fresh, ?_⟩
    cases hn <;> simp

theorem told_play {who : List (RequestId × Branch)} {moves : List (Move ρ)}
    (hmoves : Along svc Possible run moves) (hs : run.Sound) (hd : run.Delayed)
    (ho : run.Owned who) (h : run.Told who) :
    (run.play svc moves).Told (who ++ owners svc run moves) := by
  induction moves generalizing run who with
  | nil =>
    rw [owners, List.append_nil]
    exact h
  | cons m rest ih =>
    have hc : Change svc run m.subject (run.apply svc m) := apply_change hs hmoves.1
    have hrest := ih hmoves.2 (hc.sound hs) (hc.delayed hd) (hc.owned hs ho)
      (hc.told hd ho.known h)
    rw [List.append_assoc] at hrest
    exact hrest

/-- A request has the delay that the estimator had when it arrived. -/
theorem delayOf_play {before after : List (Move ρ)} {payload : ρ} {inPlace : Bool}
    (hmoves : Along svc Possible run (before ++ .start payload inPlace :: after))
    (hs : run.Sound) :
    (run.play svc (before ++ .start payload inPlace :: after)).delayOf
        (run.play svc before).requests.length =
      DelayEstimator.currentDelay (run.play svc before).estimator := by
  obtain ⟨hbefore, -, hafter⟩ := along_append.mp hmoves
  have hreach : Reaches svc run (run.play svc before) := ⟨before, hbefore, rfl⟩
  rw [play_append]
  generalize run.play svc before = here at hafter hreach ⊢
  have hsound : (here.start svc payload inPlace).Sound := (hreach.sound hs).start svc payload inPlace
  have hthere : (here.start svc payload inPlace).requests[here.requests.length]? = some _ :=
    List.getElem?_concat_length
  have hlater : Reaches svc (here.start svc payload inPlace)
      (here.play svc (.start payload inPlace :: after)) := ⟨after, hafter, rfl⟩
  obtain ⟨stage, hkept⟩ := hlater.request hsound hthere
  unfold Run.delayOf
  rw [hkept]
  rfl

/-- **The log tells what the counters tell**, in every run and whatever its order. The samples are
those fed to the estimator, one entry each and in order; the backups are those on the ledger, in
order and each with the delay that its request had on arrival; and every request that a backup has
settled was announced right before its sample. In a timely run the latencies are told to the
millisecond, and the delays are if they fit into a word. -/
theorem log_tells {s : σ} {estimator : δ} {budget : β} {moves : List (Move ρ)}
    (hmoves : Along svc Possible (.new s estimator budget) moves) :
    let new : Run δ β σ ρ α ε := .new s estimator budget
    let run := new.play svc moves
    run.Told (owners svc new moves) ∧
    (run.log.toList.filterMap LogEntry.sampled?).length = run.counters.samples ∧
    (run.log.toList.filterMap LogEntry.hedged?).length = run.counters.backupsIssued ∧
    (∀ before payload inPlace after, moves = before ++ .start payload inPlace :: after →
      run.delayOf (new.play svc before).requests.length =
        DelayEstimator.currentDelay (new.play svc before).estimator) ∧
    (Along svc Timely new moves →
      run.log.toList.filterMap LogEntry.sampled? = run.fed.toList.map Duration.millis) ∧
    ((∀ id ∈ hedgers (owners svc new moves), ∀ delay, run.delayOf id = some delay →
        delay.millis < 0x10000000000000000) →
      run.log.toList.filterMap LogEntry.hedged? =
        (hedgers (owners svc new moves)).map fun id => (run.delayOf id).map Duration.millis) := by
  intro new run
  have hsound : new.Sound := new_sound s estimator budget
  have hreach : Reaches svc new run := ⟨moves, hmoves, rfl⟩
  have hcounted : run.Counted estimator := hreach.counted
  have htold : run.Told (owners svc new moves) := by
    have h := told_play hmoves hsound (new_delayed s estimator budget)
      (new_owned s estimator budget) (new_told s estimator budget)
    rw [List.nil_append] at h
    exact h
  refine ⟨htold, ?_, ?_, ?_, ?_, ?_⟩
  · rw [htold.sampled, List.length_map, hcounted.fed, Array.length_toList]
  · rw [htold.hedged, List.length_map, htold.issued]
  · rintro before payload inPlace after rfl
    exact delayOf_play hmoves hsound
  · intro htimely
    have hprompt : run.Prompt := (new_prompt s estimator budget).play hsound htimely
    rw [htold.sampled]
    refine List.map_congr_left fun latency hmem => LogEntry.millisWord_of_lt ?_
    exact Nat.lt_of_le_of_lt (hprompt.fed latency hmem) (by decide)
  · intro hfit
    rw [htold.hedged]
    refine List.map_congr_left fun id hmem => ?_
    cases hdelay : run.delayOf id with
    | none => rfl
    | some delay => exact congrArg some (LogEntry.millisWord_of_lt (hfit id hmem delay hdelay))

/-- Three requests are slow, and there are tokens for two backups: the first one succeeds, the second
one fails, and the third request goes on with its primary. -/
theorem log_tells_of_script :
    let script : Script :=
      ⟨[⟨50, .value, none⟩, ⟨60, .value, none⟩, ⟨70, .value, none⟩, ⟨5, .value, none⟩,
        ⟨7, .error, none⟩], ⟨40, .error, none⟩⟩
    let new : Run ConstantEstimator TokenBudget Script String String String :=
      .new script ⟨some (.ofMillis 10)⟩ (.new 0 1 2 2)
    let moves : List (Move String) :=
      [.start "a" false, .start "b" false, .start "c" false, .fire ⟨10, 0, .timer, 1⟩,
        .fire ⟨10, 1, .timer, 1⟩, .fire ⟨10, 2, .timer, 1⟩, .fire ⟨15, 0, .call .backup, 5⟩,
        .fire ⟨17, 1, .call .backup, 6⟩, .fire ⟨70, 2, .call .primary, 4⟩]
    let run := new.play Script.service moves
    Along Script.service Possible new moves ∧ Along Script.service Timely new moves ∧
      run.Told (owners Script.service new moves) ∧
      run.log.toList =
        [.hedged (some 10), .hedged (some 10), .denied, .backupWon 5, .sampled 5, .backupWon 7,
          .sampled 7, .sampled 70] ∧
      run.backupEnds = 2 ∧ hedgers (owners Script.service new moves) = [0, 1] := by
  intro script new moves run
  have hmoves : Along Script.service Possible new moves := by decide
  exact ⟨hmoves, by decide, (log_tells hmoves).1, by decide, by decide, by decide⟩

end Change

end Run

end Hedging
