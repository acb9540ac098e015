import JobChain.Proofs.Run.Relating

/-!
# Hosts that mimic others, and hosts that keep a record

Which nodes a run asks about, and when it reads the clock, shows only in the state of its host.  A
host can be made to write all of it down.  Its runs come to the same as before, because every
collaborator does to the state under the record what it did without one.

* `Host.Mimics`: hosts whose collaborators mimic those of another, with `run_mimics`.
* `Exchange`, `Recorded`: what a run asked for and what it was answered.
* `Host.recorded`: the host that keeps a record, with `run_recorded`.
-/

namespace JobChain

open Act (Mimics)

variable {σ τ : Type}

/-! ## Hosts that mimic others -/

/-- The state of a host under an image, beside the same log. -/
def Logged.map (image : σ → τ) (s : Logged σ) : Logged τ where
  state := image s.state
  log := s.log

/-- A runner that mimics another on every node. -/
def Runner.Mimics (image : σ → τ) (runner : Runner σ) (runner' : Runner τ) : Prop :=
  ∀ n, Act.Mimics (ε := Failure) (α := Verdict) image (runner.invoke n) (runner'.invoke n)

/-- A host whose collaborators mimic those of another. -/
structure Host.Mimics (image : σ → τ) (host : Host σ) (host' : Host τ) : Prop where
  runner : Option.Rel (Runner.Mimics image) host.runner host'.runner
  clock : Option.Rel (Act.Mimics image) host.clock host'.clock
  runIds : Option.Rel (Act.Mimics image) host.runIds host'.runIds

section Mimics

variable {image : σ → τ} {α : Type}

theorem mimics_lift {x : Act Failure σ α} {y : Act Failure τ α} (h : Mimics image x y) :
    Mimics (Logged.map image) (Logged.lift x) (Logged.lift y) := by
  intro s
  show (_, _) = (_, _)
  rw [show (s.map image).state = image s.state from rfl, h s.state]
  rfl

theorem mimics_note (event : Log.Event) :
    Mimics (ε := Failure) (Logged.map image) (Logged.note event) (Logged.note event) := fun _ => rfl

/-- What acts mimic can be followed along a run. -/
theorem runRelation_mimics (image : σ → τ) :
    RunRelation (fun {_} x y => Mimics (Logged.map image) x y) where
  pure := .pure
  fail := .fail
  note := mimics_note
  bind := .bind

theorem Host.Mimics.related {host : Host σ} {host' : Host τ} (h : host.Mimics image host')
    (nodes : List Node) :
    host.Related (fun {_} x y => Act.Mimics (Logged.map image) x y) nodes host' where
  runner := optionRel_mono (fun _ _ hrunner n _ => mimics_lift fun s => by
    rw [Runner.ask_apply, Runner.ask_apply, hrunner n s]) h.runner
  clock := optionRel_mono (fun _ _ => mimics_lift) h.clock
  runIds := optionRel_mono (fun _ _ => mimics_lift) h.runIds

/-- Hosts that mimic each other have the same runs. -/
theorem run_mimics {host : Host σ} {host' : Host τ} (h : host.Mimics image host')
    (jobId : String) (plan : Option Plan) :
    Mimics (Logged.map image) (run host jobId plan) (run host' jobId plan) := by
  cases plan with
  | none => exact fun _ => rfl
  | some plan => exact related_run (runRelation_mimics image) (h.related plan.order) jobId

end Mimics

/-! ## Records -/

/-- Something that a run asks its host for, or is answered. -/
inductive Exchange where
  | runId (answer : Except Failure Json)
  | time (answer : Except Failure Json)
  | asked (n : Node)
  | answered (outcome : Outcome)

/-- The state of a host with the record of all exchanges so far. -/
structure Recorded (σ : Type) where
  state : σ
  history : List Exchange := []

namespace Recorded

/-- The nodes that the runner was asked about, in order. -/
def asked (r : Recorded σ) : List Node :=
  r.history.filterMap fun
    | .asked n => some n
    | _ => none

/-- The outcomes that the runner answered with, in order. -/
def outcomes (r : Recorded σ) : List Outcome :=
  r.history.filterMap fun
    | .answered outcome => some outcome
    | _ => none

end Recorded

/-- The act with a record of its value. -/
def Act.recorded (exchange : Except Failure Json → Exchange) (act : Act Failure σ Json) :
    Act Failure (Recorded σ) Json := fun r =>
  ((act r.state).1,
    { state := (act r.state).2, history := r.history ++ [exchange (act r.state).1] })

/-- The work of a reply with a record of its outcome. -/
def Reply.recordedWork (work : σ → Outcome × σ) (r : Recorded σ) : Outcome × Recorded σ :=
  ((work r.state).1,
    { state := (work r.state).2, history := r.history ++ [.answered (work r.state).1] })

/-- The runner with a record of what it is asked, and of its outcomes once they are there. -/
def Runner.recorded (runner : Runner σ) : Runner (Recorded σ) := fun n r =>
  match runner n r.state with
  | (.now outcome, s) =>
    (.now outcome, { state := s, history := r.history ++ [.asked n, .answered outcome] })
  | (.later work, s) =>
    (.later (Reply.recordedWork work), { state := s, history := r.history ++ [.asked n] })

/-- The host with a record of all exchanges. -/
def Host.recorded (host : Host σ) : Host (Recorded σ) where
  runner := host.runner.map .recorded
  clock := host.clock.map (.recorded .time)
  runIds := host.runIds.map (.recorded .runId)

/-- What a recorded runner adds to the record: the node, and the outcome that gives its verdict. -/
theorem Runner.invoke_recorded (runner : Runner σ) (n : Node) (r : Recorded σ) :
    ∃ outcome : Outcome, outcome.toVerdict = (runner.invoke n r.state).1 ∧
      runner.recorded.invoke n r = (outcome.toVerdict,
        { state := (runner.invoke n r.state).2
          history := r.history ++ [.asked n, .answered outcome] }) := by
  unfold Runner.invoke Runner.recorded
  rcases runner n r.state with ⟨outcome | work, s⟩
  · exact ⟨outcome, rfl, rfl⟩
  · refine ⟨(work s).1, rfl, ?_⟩
    simp [Reply.recordedWork]

theorem Host.mimics_recorded (host : Host σ) : host.recorded.Mimics Recorded.state host := by
  obtain ⟨runner, clock, runIds⟩ := host
  refine ⟨?_, ?_, ?_⟩
  · cases runner with
    | none => exact .none
    | some runner =>
      refine .some fun n r => ?_
      obtain ⟨outcome, hverdict, hrecorded⟩ := runner.invoke_recorded n r
      rw [hrecorded, hverdict]
  · cases clock with
    | none => exact .none
    | some clock => exact .some fun _ => rfl
  · cases runIds with
    | none => exact .none
    | some runIds => exact .some fun _ => rfl

/-- Keeping a record changes nothing: the run comes to the same, leaves the host in the same state
and writes the same log. -/
theorem run_recorded (host : Host σ) (jobId : String) (plan : Option Plan)
    (s : Logged (Recorded σ)) :
    run host jobId plan (s.map Recorded.state) =
      ((run host.recorded jobId plan s).1,
        (run host.recorded jobId plan s).2.map Recorded.state) :=
  run_mimics host.mimics_recorded jobId plan s

/-- A run has a record. -/
theorem exists_record {host : Host σ} {jobId : String} {plan : Option Plan} {s s' : Logged σ}
    {r : RunResult} (h : run host jobId plan s = (.ok r, s')) :
    ∃ record : Recorded σ, record.state = s'.state ∧
      run host.recorded jobId plan ⟨{ state := s.state }, s.log⟩ = (.ok r, ⟨record, s'.log⟩) := by
  have hrecorded := run_recorded host jobId plan ⟨{ state := s.state }, s.log⟩
  change run host jobId plan s = _ at hrecorded
  rw [h] at hrecorded
  rcases hrun : run host.recorded jobId plan ⟨{ state := s.state }, s.log⟩ with
    ⟨result, record, log⟩
  rw [hrun] at hrecorded
  obtain ⟨rfl, rfl⟩ := Prod.mk.inj hrecorded
  exact ⟨record, rfl, rfl⟩

end JobChain
