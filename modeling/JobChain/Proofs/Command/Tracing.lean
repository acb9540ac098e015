import JobChain.Proofs.Command.Printing
import JobChain.Proofs.Plan.Stops
import JobChain.Proofs.Run.Ending
import JobChain.Proofs.Service.EndToEnd

/-!
# Runs of the program up to their trace

A run of the program executes a job and then shows what came of it.  Whether texts are echoed on the
way makes no difference to the execution: on a console that honours its markup an echo shows, and
nothing looks at what has been printed.  If waits are not broken off, then the execution of a job
whose workflow has a plan is ended early only by the clock, at a time that has no text.

* `Session.unprinted`: a session without what was printed, and `Alike`, ends that are the same then.
* `alike_execute`: executions with and without echoes are alike.
* `Surroundings.IsUninterrupted`: waits are not broken off, and `ClockFails`, the
  failures of the clock.
* `Traces`: what a run leaves behind, and `ends_execute`, that a run leaves it or the clock fails.
* `execute_of_refused`: a job whose workflow is refused.
-/

namespace JobChain.Command

open Act (Mimics Ends)

variable {w : Surroundings}

/-! ## Sessions without what was printed -/

/-- Whether an effect is that of printing. -/
def Effect.isShown : Effect → Bool
  | showed _ => true
  | _ => false

/-- A session without what was printed. -/
def Session.unprinted (s : Session) : Session :=
  { s with effects := s.effects.filter fun effect => !effect.isShown }

theorem unprinted_withEffects_shownLine (text : String) (s : Logged Session) :
    (withEffects [shownLine w text] s).map Session.unprinted = s.map Session.unprinted := by
  simp [withEffects, shownLine, Logged.map, Session.unprinted, Effect.isShown]

/-- Ends that are the same but for what was printed before. -/
def Alike {ε α : Type} (p q : Except ε α × Logged Session) : Prop :=
  p.1 = q.1 ∧ p.2.map Session.unprinted = q.2.map Session.unprinted

theorem Alike.refl {ε α : Type} (p : Except ε α × Logged Session) : Alike p p := ⟨rfl, rfl⟩

/-! ## Echoes -/

/-- What an effect that does an act comes to. -/
theorem settleIgnoring_act {σ : Type} (act : Act Failure σ Unit) (s : σ) :
    settleIgnoring (fun s => (.act act, s)) s =
      ((Outcome.ofUnit (act s).1).ignoringValue, (act s).2) := rfl

theorem toVerdict_ignoringValue_ofUnit (result : Except Failure Unit) :
    (Outcome.ofUnit result).ignoringValue.toVerdict = result.map fun _ => {} := by
  cases result <;> rfl

/-- Echoing a text, or not, leaves a session as it is but for what is printed. -/
theorem settleIgnoring_echo (honours : w.console.Honours) (echoes : Bool) (j : Job) (text : String)
    (s : Session) :
    (settleIgnoring (echo w echoes j text) s).1 = .verdict {} ∧
      (settleIgnoring (echo w echoes j text) s).2.unprinted = s.unprinted ∧
      settleIgnoring (echo w false j text) s.unprinted = (.verdict {}, s.unprinted) := by
  have hshows := shows_deliveryLine honours j text
  refine ⟨?_, ?_, rfl⟩ <;> unfold echo <;> rw [settleIgnoring_act] <;> cases echoes
  · rfl
  · rw [if_pos rfl, Session.print_of_shows hshows]
    rfl
  · rfl
  · rw [if_pos rfl, Session.print_of_shows hshows]
    simp [Session.unprinted, Effect.isShown]

/-- A reading of the clock does not look at what has been printed. -/
theorem mimics_readClock : Mimics Session.unprinted (readClock w) (readClock w) := by
  intro s
  unfold readClock
  dsimp only [Session.unprinted]
  cases Clock.timeText s.time <;> rfl

/-- A wait does not look at it either. -/
theorem mimics_wait (seconds : Int) :
    Mimics Session.unprinted (wait w seconds) (wait w seconds) := by
  unfold wait
  split
  · exact .fail _
  refine .bind (fun s => ?_) fun _ => ?_
  · simp [Session.note, Session.unprinted, Effect.isShown]
  · cases w.waitFailure with
    | some failure => exact .fail failure
    | none =>
      show Mimics _ (if w.waitsTakeTime then _ else _) (if w.waitsTakeTime then _ else _)
      split
      · exact fun _ => rfl
      · exact .pure ()

theorem mimics_sleepDelay (seconds : Int) :
    Mimics Session.unprinted (sleepDelay (wait w) seconds) (sleepDelay (wait w) seconds) := by
  unfold sleepDelay
  split
  · exact .fail _
  · split
    · exact .pure ()
    · exact mimics_wait seconds

theorem service_eq (w : Surroundings) (echoes : Bool) :
    service w echoes = .ofBuiltins (echo w echoes) (waitDelay w) (readClock w) (newRunId w) := rfl

theorem plan_service (w : Surroundings) (echoes : Bool) (payload : Option (Payload Workflow)) :
    (service w echoes).plan payload = (service w true).plan payload := by
  refine Service.plan_congr (fun type => ?_) payload
  rw [service_eq, service_eq, Service.registry_ofBuiltins, Service.registry_ofBuiltins,
    Registry.isSome_resolve_withBuiltins, Registry.isSome_resolve_withBuiltins]

/-- A node is run with echoes as it is run without. -/
theorem mimics_runNode (honours : w.console.Honours) (echoes : Bool) (j : Job) (n : Node) :
    Mimics Session.unprinted ((service w echoes).runNode j n) ((service w false).runNode j n) := by
  intro s
  rw [service_eq, service_eq, Service.runNode_ofBuiltins, Service.runNode_ofBuiltins]
  by_cases hcondition : normalType (.string n.type) = "if_event"
  · rw [if_pos hcondition, if_pos hcondition, testCondition_evaluateEffect,
      testCondition_evaluateEffect]
  rw [if_neg hcondition, if_neg hcondition]
  by_cases hdelay : normalType (.string n.type) = "delay"
  · rw [if_pos hdelay, if_pos hdelay]
    unfold waitDelay sleepEffect
    rw [settleIgnoring_act, settleIgnoring_act, mimics_sleepDelay]
  rw [if_neg hdelay, if_neg hdelay]
  by_cases htext : normalType (.string n.type) = "text_event"
  · rw [if_pos htext, if_pos htext]
    unfold deliver
    by_cases hempty : Text.trim n.text = ""
    · simp only [if_pos hempty]
      rfl
    · obtain ⟨houtcome, hstate, hsilent⟩ :=
        settleIgnoring_echo honours echoes j (Text.trim n.text) s
      simp only [if_neg hempty, houtcome, hstate, hsilent]
  · rw [if_neg htext, if_neg htext]

/-- Executing a job with echoes does to a session what executing it without echoes does to the
session without what was printed. -/
theorem mimics_execute (honours : w.console.Honours) (echoes : Bool) (j : Job) :
    Mimics (Logged.map Session.unprinted) ((service w echoes).execute j)
      ((service w false).execute j) := by
  have hhost : ((service w echoes).host j).Mimics Session.unprinted ((service w false).host j) :=
    { runner := .some fun n s => by
        rw [Service.invoke_runner, Service.invoke_runner]
        exact mimics_runNode honours echoes j n s
      clock := .some mimics_readClock
      runIds := .some fun _ => rfl }
  unfold Service.execute
  rw [plan_service w echoes, plan_service w false]
  cases (service w true).plan (j.workflow.map .ready) with
  | ok p => exact run_mimics hhost j.id (some p)
  | error stop =>
    cases stop with
    | refused reason => exact .bind (mimics_note _) fun _ => .fail _
    | _ => exact .fail _

/-- A command that gives up comes to nothing. -/
theorem giveUp_ne_ok {α : Type} (reason : String) (s : Logged Session) (a : α) :
    ((giveUp w reason : Commanding α) s).1 ≠ .ok a := by
  unfold giveUp
  rw [Act.bind_apply]
  rcases say w _ s with ⟨exit | _, t⟩ <;> exact fun h => by cases h

/-- A command that gives up does nothing after it. -/
theorem giveUp_bind {α β : Type} (reason : String) (f : α → Commanding β) :
    (giveUp w reason : Commanding α) >>= f = giveUp w reason := by
  unfold giveUp
  rw [Act.bind_assoc]
  rfl

theorem giveUp_of_honours {α : Type} (honours : w.console.Honours) (reason : String)
    (s : Logged Session) :
    (giveUp w reason : Commanding α) s =
      (.error (.status 1), withEffects [shownLine w (refusalLine w reason)] s) := by
  have hsay := say_of_shows (shows_refusalLine honours reason) s
  unfold refusalLine at hsay ⊢
  rw [giveUp, Act.bind_of_ok hsay]
  rfl

/-- What a command makes of the end of an execution. -/
def tell (w : Surroundings) : Except Failure RunResult → Commanding RunResult
  | .ok r => pure r
  | .error f =>
    if f.kind.isOfWorkflows then
      match f.said with
      | .ok text => giveUp w text
      | .error other => Act.fail (.unhandled other)
    else Act.fail (.unhandled f)

theorem execute_eq (echoes : Bool) (j : Job) :
    execute w echoes j = Act.attempt ((service w echoes).execute j) >>= tell w := by
  unfold execute
  refine congrArg _ (funext fun result => ?_)
  cases result <;> rfl

theorem execute_apply (echoes : Bool) (j : Job) (s : Logged Session) :
    execute w echoes j s =
      tell w ((service w echoes).execute j s).1 ((service w echoes).execute j s).2 := by
  rw [execute_eq, Act.bind_apply, Act.attempt_apply]

theorem tell_of_said {f : Failure} {text : String} (h : f.kind.isOfWorkflows = true)
    (htext : f.said = .ok text) : tell w (.error f) = giveUp w text := by
  unfold tell
  dsimp only
  rw [if_pos h, htext]

theorem tell_of_not_isOfWorkflows {f : Failure} (h : f.kind.isOfWorkflows = false) :
    tell w (.error f) = Act.fail (.unhandled f) := if_neg (by simp [h])

/-- A failure is told by giving up, or a failure is left unhandled. -/
theorem tell_error (w : Surroundings) (f : Failure) :
    (∃ text, tell w (.error f) = giveUp w text) ∨
      ∃ g, tell w (.error f) = Act.fail (.unhandled g) := by
  unfold tell
  dsimp only
  split
  · cases f.said with
    | ok text => exact .inl ⟨text, rfl⟩
    | error other => exact .inr ⟨other, rfl⟩
  · exact .inr ⟨f, rfl⟩

/-- What is told does not depend on what has been printed. -/
theorem alike_tell (honours : w.console.Honours) (result : Except Failure RunResult)
    {s t : Logged Session} (h : s.map Session.unprinted = t.map Session.unprinted) :
    Alike (tell w result s) (tell w result t) := by
  cases result with
  | ok r => exact ⟨rfl, h⟩
  | error f =>
    rcases tell_error w f with ⟨text, htell⟩ | ⟨g, htell⟩ <;> rw [htell]
    · rw [giveUp_of_honours honours, giveUp_of_honours honours]
      exact ⟨rfl, by rw [unprinted_withEffects_shownLine, unprinted_withEffects_shownLine, h]⟩
    · exact ⟨rfl, h⟩

/-- Executions with and without echoes are alike. -/
theorem alike_execute (honours : w.console.Honours) (j : Job) (s : Logged Session) :
    Alike (execute w true j s) (execute w false j s) := by
  have hsilent := mimics_execute honours false j s
  rw [mimics_execute honours true j s] at hsilent
  obtain ⟨hresult, hstate⟩ := Prod.mk.inj hsilent
  rw [execute_apply, execute_apply, hresult]
  exact alike_tell honours _ hstate

/-! ## How executions end -/

/-- Waits are not broken off: if they fail, then the failure is one of the node that waits, and it
tells its text. -/
def Surroundings.IsUninterrupted (w : Surroundings) : Prop :=
  ∀ f, w.waitFailure = some f → f.kind.endsRun = false ∧ ∃ text, f.said = .ok text

/-- The clock failed at a time that has no text. -/
def ClockFails (f : Failure) (s : Session) : Prop :=
  ∃ error, Clock.timeText s.time = .error error ∧ f = .of .value error.message

/-- How runs end early: if waits are not broken off, then the clock failed. -/
def Surroundings.EndsEarly (w : Surroundings) (f : Failure) (s : Session) : Prop :=
  w.IsUninterrupted → ClockFails f s

/-- The id of the runs of a command. -/
def Surroundings.runId (w : Surroundings) : String :=
  Clock.runIdText w.settings.idPrefix w.process w.token

/-- A text that the clock tells. -/
def IsTime (text : String) : Prop := ∃ time, Clock.timeText time = .ok text

theorem tells_readClock : (readClock w).Tells IsTime w.EndsEarly := by
  intro s
  unfold readClock
  cases htime : Clock.timeText s.time with
  | ok text =>
    refine ⟨fun a ha => ?_, fun e he => ?_⟩
    · cases ha
      exact ⟨text, rfl, s.time, htime⟩
    · cases he
  | error error =>
    refine ⟨fun a ha => ?_, fun e he _ => ?_⟩
    · cases ha
    · cases he
      exact ⟨error, htime, rfl⟩

theorem tells_newRunId : (newRunId w).Tells (· = w.runId) w.EndsEarly :=
  .pure ⟨w.runId, rfl, rfl⟩

/-- A failure that a node can have in these surroundings: that of waits, or one of its own, which
does not end a run. -/
def Surroundings.FailsNode (w : Surroundings) (f : Failure) : Prop :=
  w.waitFailure = some f ∨ ∃ kind text, f = .of kind text ∧ kind.endsRun = false

/-- A wait fails as the surroundings say, or because it is too long. -/
theorem failsNode_of_wait {seconds : Int} {s : Session} {f : Failure}
    (h : (wait w seconds s).1 = .error f) : w.FailsNode f := by
  unfold wait at h
  split at h
  · cases h
    exact .inr ⟨.overflow, _, rfl, rfl⟩
  cases hwait : w.waitFailure with
  | some failure =>
    simp only [hwait] at h
    cases h
    exact .inl hwait
  | none =>
    simp only [hwait, Act.bind_apply, Session.note, Act.modify_apply] at h
    split at h <;> cases h

/-- A delay fails as the wait does, or because it is negative. -/
theorem failsNode_of_sleepDelay {seconds : Int} {s : Session} {f : Failure}
    (h : (sleepDelay (wait w) seconds s).1 = .error f) : w.FailsNode f := by
  unfold sleepDelay at h
  split at h
  · cases h
    exact .inr ⟨.execution, _, rfl, rfl⟩
  split at h
  · cases h
  · exact failsNode_of_wait h

/-- The delivery of a text fails for want of a text only. -/
theorem failsNode_of_deliver (honours : w.console.Honours) {echoes : Bool} {j : Job} {n : Node}
    {s : Session} {f : Failure}
    (h : (deliver (some (echo w echoes)) j n s).1.toVerdict = .error f) : w.FailsNode f := by
  unfold deliver at h
  by_cases hempty : Text.trim n.text = ""
  · simp only [if_pos hempty] at h
    cases h
    exact .inr ⟨.execution, _, rfl, rfl⟩
  · simp only [if_neg hempty, (settleIgnoring_echo honours echoes j (Text.trim n.text) s).1] at h
    cases h

/-- The failures of nodes. -/
theorem failsNode_of_runNode (honours : w.console.Honours) {echoes : Bool} {j : Job} {n : Node}
    {s : Session} {f : Failure} (h : ((service w echoes).runNode j n s).1 = .error f) :
    w.FailsNode f := by
  rw [service_eq, Service.runNode_ofBuiltins] at h
  split at h
  · rw [testCondition_evaluateEffect] at h
    cases heval : Condition.evaluate n.ifCondition j with
    | ok holds => rw [heval] at h; cases h
    | error e =>
      rw [heval] at h
      cases h
      exact .inr ⟨.condition, _, rfl, rfl⟩
  split at h
  · unfold waitDelay sleepEffect at h
    rw [settleIgnoring_act, toVerdict_ignoringValue_ofUnit] at h
    rcases hresult : (sleepDelay (wait w) (w.settings.cutDelay n.delaySeconds) s).1 with g | _
    · rw [hresult] at h
      cases h
      exact failsNode_of_sleepDelay hresult
    · rw [hresult] at h
      cases h
  split at h
  · exact failsNode_of_deliver honours h
  · cases h
    exact .inr ⟨.execution, _, rfl, rfl⟩

/-- Only a wait that is broken off ends a run, or has no description. -/
theorem endsRuns_runner (honours : w.console.Honours) (echoes : Bool) (j : Job) (n : Node) :
    ((service w echoes).runner j).EndsRuns w.EndsEarly n := by
  constructor
  case ends =>
    intro s f hf hends huninterrupted
    rw [Service.invoke_runner] at hf
    rcases failsNode_of_runNode honours hf with hwait | ⟨kind, text, rfl, hkind⟩
    · rw [(huninterrupted f hwait).1] at hends
      cases hends
    · rw [Failure.kind_of, hkind] at hends
      cases hends
  case silent =>
    intro s f g hf hg t huninterrupted
    rw [Service.invoke_runner] at hf
    unfold Failure.description at hg
    rcases failsNode_of_runNode honours hf with hwait | ⟨kind, text, rfl, -⟩
    · obtain ⟨text, htext⟩ := (huninterrupted f hwait).2
      rw [htext] at hg
      cases hg
    · rw [Failure.said_of] at hg
      cases hg

/-! ## Compilations of a service -/

/-- The check of conditions fails with failures of its own. -/
theorem exists_of_raises {echoes : Bool} {f : Failure}
    (h : (service w echoes).callbacks.Raises f) : ∃ text, f = .of .condition text := by
  obtain ⟨validate, hvalidate, condition, hf⟩ := h
  cases hvalidate
  unfold Service.validateCondition at hf
  cases hread : Condition.read condition with
  | ok c =>
    rw [hread] at hf
    cases hf
  | error e =>
    rw [hread] at hf
    cases hf
    exact ⟨_, rfl⟩

/-- A service lets no failure out of a compilation. -/
theorem not_letsOut {echoes : Bool} {f : Failure} : ¬(service w echoes).callbacks.LetsOut f := by
  intro h
  have htells : (service w echoes).callbacks.TellsFailures := fun g hg _ => by
    obtain ⟨text, rfl⟩ := exists_of_raises hg
    exact ⟨text, rfl⟩
  obtain ⟨hraised, hordinary⟩ := h.raises htells
  obtain ⟨text, rfl⟩ := exists_of_raises hraised
  cases hordinary

theorem plan_of_load {payload : Payload Workflow} {workflow : Workflow}
    (h : payload.load Workflow.subject = .ok workflow) (echoes : Bool) :
    (service w echoes).plan (some payload) = (service w echoes).plan (some (.ready workflow)) := by
  rw [Service.plan, Service.plan, compilePayload, h]
  rfl

theorem plan_of_not_load {payload : Payload Workflow} {error : PayloadError}
    (h : payload.load Workflow.subject = .error error) (echoes : Bool) :
    (service w echoes).plan (some payload) = .error (.refused (.payload error)) := by
  rw [Service.plan, compilePayload, h]
  rfl

/-- What stops the compilation of a workflow is a refusal. -/
theorem exists_refused_of_plan {workflow : Workflow} {echoes : Bool} {stop : CompileStop}
    (h : (service w echoes).plan (some (.ready workflow)) = .error stop) :
    ∃ reason, stop = .refused reason := by
  have htold : stop.IsTold (service w echoes).callbacks := isTold_of_planOf h
  cases stop with
  | refused reason => exact ⟨reason, rfl⟩
  | missingNode id => exact htold.elim
  | escaped f => exact absurd htold not_letsOut

/-! ## Executions -/

theorem object_refusedJob (reason : Refusal) :
    (Service.refusedJob reason).kind = .validation ∧
      (Service.refusedJob reason).said = .ok ("invalid cron workflow: " ++ reason.message) := by
  simp [Service.refusedJob, Failure.withLinks, Failure.kind, Failure.said, Failure.text,
    Failure.object, Failure.objectAt, Failure.shifted]

/-- The execution of a job whose workflow is refused is given up, in the words of the refusal. -/
theorem execute_of_refused {echoes : Bool} {j : Job} {reason : Refusal}
    (h : (service w echoes).plan (j.workflow.map .ready) = .error (.refused reason))
    (s : Logged Session) :
    execute w echoes j s =
      (giveUp w ("invalid cron workflow: " ++ reason.message) : Commanding RunResult)
        { s with log := s.log ++ [.workflowInvalid j.id reason.message] } := by
  have hexecute : (service w echoes).execute j s =
      (.error (Service.refusedJob reason),
        { s with log := s.log ++ [.workflowInvalid j.id reason.message] }) := by
    unfold Service.execute
    rw [h]
    rfl
  obtain ⟨hkind, hsaid⟩ := object_refusedJob reason
  rw [execute_apply, hexecute, tell_of_said (by rw [hkind]; rfl) hsaid]

/-- What a run of the nodes of a plan leaves behind. -/
structure Traces (w : Surroundings) (plan : Plan) (r : RunResult) : Prop where
  run_id : r.trace.runId = w.runId
  times : ∀ e ∈ r.trace.entries, e.TimesIn IsTime
  entries : List.Forall₂ Entry.IsOf plan.order r.trace.entries
  had_failures : r.trace.hadFailures = true ↔ ∃ e ∈ r.trace.entries, e.status = .failed
  error : r.error.isSome = r.trace.hadFailures

/-- The execution of a job whose workflow has a plan leaves a trace of the plan, unless a wait is
broken off or the clock fails. -/
theorem ends_execute (honours : w.console.Honours) {echoes : Bool} {j : Job} {plan : Plan}
    (h : (service w echoes).plan (j.workflow.map .ready) = .ok plan) :
    Ends (Traces w plan)
      (fun exit s => w.IsUninterrupted → ∃ f, exit = .unhandled f ∧ ClockFails f s.state)
      (execute w echoes j) := by
  intro s
  have hends := ends_run (rfl : ((service w echoes).host j).runner = _) rfl rfl
    (fun n (_ : n ∈ plan.order) => endsRuns_runner honours echoes j n) tells_readClock
    tells_newRunId j.id s
  have hexecute : (service w echoes).execute j =
      JobChain.run ((service w echoes).host j) j.id (some plan) := by
    unfold Service.execute
    rw [h]
  rw [execute_apply, hexecute]
  rcases hrun : JobChain.run ((service w echoes).host j) j.id (some plan) s with ⟨f | r, t⟩
  · rw [hrun] at hends
    refine ⟨fun r hr => ?_, fun exit hexit huninterrupted => ?_⟩
    · rcases tell_error w f with ⟨text, htell⟩ | ⟨g, htell⟩
      · exact absurd (htell ▸ hr) (giveUp_ne_ok text t r)
      · rw [htell] at hr
        cases hr
    · obtain ⟨error, htime, rfl⟩ : ClockFails f t.state := hends.2 f rfl huninterrupted
      rw [tell_of_not_isOfWorkflows rfl] at hexit ⊢
      cases hexit
      exact ⟨_, rfl, error, htime, rfl⟩
  · rw [hrun] at hends
    obtain ⟨hrunId, htimes⟩ := hends.1 r rfl
    obtain ⟨hentries, hfailures, herror⟩ := trace_of_run hrun
    refine ⟨fun r' hr' => ?_, fun exit hexit => ?_⟩
    · cases hr'
      exact ⟨hrunId, htimes, hentries, hfailures, herror⟩
    · cases hexit

end JobChain.Command
