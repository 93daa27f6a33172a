import Hedging.Proofs.Run.Drive

/-!
# Sessions are runs

Whatever is done with a resolver and the handles to its requests comes down to moves of its run: a
request that is made arrives, whoever waits drives the run, and a handle that is cancelled, dropped
or replaced gives its request up, as does a limit on the time.

> `Session.steps_leads`: the operations of a session are a regular run.
> `shutdownAfter_reaches`: a shutdown is made of possible moves.

What holds of every run that possible moves lead to, or of every timely one, therefore holds after
every sequence of operations.
-/

namespace Hedging

variable {δ β σ ρ α ε : Type} [DelayEstimator δ] [AdmissionBudget β]

namespace Run

theorem leads_start (svc : Service σ ρ α ε) (run : Run δ β σ ρ α ε) (payload : ρ)
    (inPlace : Bool) : Leads svc Regular run (run.start svc payload inPlace) :=
  Leads.single (m := .start payload inPlace) ⟨trivial, nofun⟩

theorem leads_abandon (svc : Service σ ρ α ε) (run : Run δ β σ ρ α ε) (id : RequestId) :
    Leads svc Regular run (run.abandon id) :=
  Leads.single (m := .abandon id) ⟨trivial, nofun⟩

end Run

namespace Session

variable {svc : Service σ ρ α ε} {s : Session δ β σ ρ α ε}

open Run (Leads Regular leads_start leads_abandon await_leads passTo_leads)

/-! ## Operations -/

/-- A request that is made and waited for ends, or is given up when its time is over. -/
theorem resolveIn_leads {run : Run δ β σ ρ α ε} (hs : run.Sound) (payload : ρ)
    (timeout : Option Duration) :
    Leads svc Regular run (resolveIn svc run payload timeout).2 := by
  have hstart := leads_start svc run payload true
  have hawait := await_leads svc (hstart.sound hs) run.requests.length
    (timeout.map run.now.within)
  unfold resolveIn
  simp only
  split
  · exact (hstart.trans hawait).trans (leads_abandon ..)
  · exact hstart.trans hawait

theorem dropHandle_leads (svc : Service σ ρ α ε) (s : Session δ β σ ρ α ε) (handle : String) :
    Leads svc Regular s.run (s.dropHandle handle).run := by
  unfold dropHandle
  split
  · exact .refl ..
  · exact leads_abandon ..

theorem act_leads (svc : Service σ ρ α ε) (hs : s.run.Sound) (op : SessionOp ρ) :
    Leads svc Regular s.run (s.act svc op).2.run := by
  cases op with
  | resolve payload timeout => exact resolveIn_leads hs payload timeout
  | resolveDetailed payload timeout => exact resolveIn_leads hs payload timeout
  | spawn handle payload => exact (dropHandle_leads svc s handle).trans (leads_start ..)
  | wait handle =>
    cases hfound : s.handles.lookup handle with
    | none =>
      simp only [act, hfound]
      exact .refl ..
    | some id =>
      simp only [act, hfound]
      exact await_leads svc hs id none
  | cancel handle =>
    cases hfound : s.handles.lookup handle with
    | none =>
      simp only [act, hfound]
      exact .refl ..
    | some id =>
      simp only [act, hfound]
      exact leads_abandon ..
  | drop handle => exact dropHandle_leads svc s handle
  | sleep d => exact passTo_leads svc hs _
  | clone => exact .refl ..

theorem step_leads (svc : Service σ ρ α ε) (hs : s.run.Sound) (op : SessionOp ρ) :
    Leads svc Regular s.run (s.step svc op).2.run := by
  have hact := act_leads svc hs op
  exact hact.trans (passTo_leads svc (hact.sound hs) _)

/-- **The operations of a session are a regular run.** -/
theorem steps_leads (svc : Service σ ρ α ε) (hs : s.run.Sound) (ops : List (SessionOp ρ)) :
    Leads svc Regular s.run (s.steps svc ops).2.run := by
  induction ops generalizing s with
  | nil => exact .refl ..
  | cons op rest ih =>
    have hstep := step_leads svc hs op
    exact hstep.trans (ih (hstep.sound hs))

/-- Every session of a resolver that has not been used yet is a run of it. -/
theorem steps_reaches (svc : Service σ ρ α ε) (service : σ) (estimator : δ) (budget : β)
    (ops : List (SessionOp ρ)) :
    Run.Reaches svc (.new service estimator budget)
      ((Session.new service estimator budget).steps svc ops).2.run := by
  have hnew : (Session.new service estimator budget : Session δ β σ ρ α ε).run.Sound :=
    Run.new_sound service estimator budget
  exact (steps_leads svc hnew ops).reaches

end Session

namespace Run

/-! ## Shutdown -/

/-- A shutdown in the middle of a request is made of possible moves, whichever call is seen to end
first. -/
theorem shutdownAfter_reaches (svc : Service σ ρ α ε) {run : Run δ β σ ρ α ε} (hs : run.Sound)
    (payload : ρ) (runFor : Duration) (spawned : Bool) (first : Branch) :
    Reaches svc run (run.shutdownAfter svc payload runFor spawned first).run := by
  have hstart := leads_start svc run payload !spawned
  unfold shutdownAfter
  simp only
  split
  · exact .refl ..
  · -- which events still count makes no difference to what is possible
    generalize (if spawned then fun due : Due => decide (due.instant < run.now.within runFor)
      else Due.inTime run.requests.length (some (run.now.within runFor))) = inTime
    have hdrive := drive_leads svc (hstart.sound hs) inTime (·.isRacing run.requests.length)
    have hdriven : Reaches svc run _ := (hstart.trans hdrive).reaches
    have hwind : Reaches svc run _ :=
      hdriven.trans (.single (m := .wind (run.now.within runFor)) trivial)
    split
    · exact hwind.trans (.single (m := .abandon run.requests.length) trivial)
    · exact (hwind.trans (.single (m := .cut run.requests.length first) trivial)).trans
        (.single (m := .cut run.requests.length first.other) trivial)

end Run

end Hedging
