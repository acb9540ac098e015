import JobChain.Proofs.Registry.LastWrite
import JobChain.Proofs.Service.Demands

/-!
# What dispatching adds

A service does not hand the handlers of its registry to the run.  It hands over a runner of its own,
which looks up the handler of a node by the normal form of the type, does the work of its reply, and
makes a verdict of the outcome; and the run makes a verdict of what it is given once more.  None of
this shows.  The type of a node in a plan is its own normal form, so the handler is the one that is
registered for the type, and a verdict stands for itself, as does a failure.

* `run_congr`: a run depends on what its runner comes to, not on how it replies.
* `Service.execute_eq_run_of_handlers`: a job is executed as if the handlers ran the nodes
  themselves.
-/

namespace JobChain

variable {σ : Type}

/-! ## Runners that come to the same -/

/-- Equality can be followed along a run. -/
theorem runRelation_eq : RunRelation (σ := σ) fun {_} x y => x = y where
  pure _ := rfl
  fail _ := rfl
  note _ := rfl
  bind := by
    rintro _ _ x _ f g rfl hf
    rw [funext hf]

/-- Runners that come to the same with the nodes of a plan, however they reply, make for the same
run. -/
theorem run_congr {runner runner' : Runner σ} {plan : Plan}
    (h : ∀ n ∈ plan.order, runner.invoke n = runner'.invoke n)
    (clock runIds : Option (Act Failure σ Json)) (jobId : String) :
    run ⟨some runner, clock, runIds⟩ jobId (some plan) =
      run ⟨some runner', clock, runIds⟩ jobId (some plan) := by
  have hask (n : Node) (hn : n ∈ plan.order) : runner.ask n = runner'.ask n := by
    unfold Runner.ask
    rw [h n hn]
  have hrelated : Host.Related (fun {_} x y => x = y) plan.order
      ⟨some runner, clock, runIds⟩ ⟨some runner', clock, runIds⟩ :=
    { runner := .some fun n hn => congrArg Logged.lift (hask n hn)
      clock := optionRel_self fun _ _ => rfl
      runIds := optionRel_self fun _ _ => rfl }
  exact related_run runRelation_eq hrelated jobId

/-! ## Services and their handlers -/

namespace Service

variable {service : Service σ} {payload : Option (Payload Workflow)} {p : Plan} {n : Node}
  {handler : Handler (Action σ)}

/-- For a type in normal form a service finds the handler that its registry holds under the type. -/
theorem resolve_of_isNormal (hnormal : n.IsNormal) :
    service.registry.resolve (.string n.type) = service.registry.get? n.type := by
  rw [Registry.resolve, hnormal.normalType_type]

/-- For the nodes of its plans a service has handlers. -/
theorem exists_handler_of_mem_order (h : service.plan payload = .ok p) (hn : n ∈ p.order) :
    ∃ handler, service.registry.get? n.type = some handler := by
  obtain ⟨hnormal, -, hserved⟩ := isNormal_and_isSound_of_mem_order h hn
  rw [resolve_of_isNormal hnormal] at hserved
  exact Option.isSome_iff_exists.mp hserved

/-- The handler for a node of a plan is the last that was registered for its type. -/
theorem isLastOffer_of_get? {calls : List (Option (Handler (Action σ)))}
    (hcalls : service.registry = .ofCalls calls) (h : service.plan payload = .ok p)
    (hn : n ∈ p.order) (hget : service.registry.get? n.type = some handler) :
    Registry.IsLastOffer calls n.type handler := by
  obtain ⟨hnormal, -, -⟩ := isNormal_and_isSound_of_mem_order h hn
  rw [← resolve_of_isNormal hnormal, hcalls, Registry.resolve_ofCalls_eq_some_iff,
    hnormal.normalType_type] at hget
  exact hget.2

/-- The runner of a service comes to what the handler of the node comes to when it is asked
directly. -/
theorem invoke_runner_of_get? (hnormal : n.IsNormal)
    (hget : service.registry.get? n.type = some handler) (j : Job) :
    (service.runner j).invoke n = Runner.invoke (handler.action j) n := by
  funext s
  rw [invoke_runner, runNode, resolve_of_isNormal hnormal, hget]

/-- A job whose workflow is accepted is executed as if a runner that asks the handlers directly ran
the nodes of its plan: the same comes of it, and the same is done and logged.  Each of the nodes has
a handler, the last that was registered for its type. -/
theorem execute_eq_run_of_handlers (service : Service σ) {j : Job}
    (h : service.plan (j.workflow.map .ready) = .ok p) {direct : Runner σ}
    (hdirect : ∀ n ∈ p.order, ∀ handler, service.registry.get? n.type = some handler →
      direct n = handler.action j n) :
    (∀ n ∈ p.order, ∃ handler, service.registry.get? n.type = some handler ∧
      direct n = handler.action j n ∧
      ∀ calls, service.registry = .ofCalls calls → Registry.IsLastOffer calls n.type handler) ∧
    service.execute j = run { service.host j with runner := some direct } j.id (some p) := by
  constructor
  · intro n hn
    obtain ⟨handler, hget⟩ := exists_handler_of_mem_order h hn
    exact ⟨handler, hget, hdirect n hn handler hget, fun calls hcalls =>
      isLastOffer_of_get? hcalls h hn hget⟩
  · have hinvoke (n : Node) (hn : n ∈ p.order) :
        (service.runner j).invoke n = direct.invoke n := by
      obtain ⟨hnormal, -, -⟩ := isNormal_and_isSound_of_mem_order h hn
      obtain ⟨handler, hget⟩ := exists_handler_of_mem_order h hn
      rw [invoke_runner_of_get? hnormal hget]
      unfold Runner.invoke
      rw [hdirect n hn handler hget]
    rw [execute, h]
    exact run_congr hinvoke _ _ j.id

/-- Registrations of handlers that reply in every way: one is replaced by another that hands out an
object, one hands out a text, and one is cancelled while it works. -/
def unrulyCalls : List (Option (Handler (Action Unit))) :=
  [some { type? := some (.string "hook"), action := fun _ _ s =>
      (.now (.failure (.of .runtime "replaced")), s) },
    some { type? := some (.string " Hook "), action := fun _ _ s =>
      (.later fun s => (.value (.object [("stop", .bool false)]), s), s) },
    some { type? := some (.string "PROBE"), action := fun _ _ s =>
      (.now (.value (.string "?")), s) },
    some { type? := some (.string "halt"), action := fun _ _ s =>
      (.later fun s => (.failure (.of .cancelled ""), s), s) }]

/-- A service with these registrations. -/
def unrulyService : Service Unit where
  registry := .ofCalls unrulyCalls
  clock := pure (.string "2026-01-02T03:04:05Z")
  runIds := pure (.string "run-1")

/-- A job whose workflow has a node for each of the handlers, and one more. -/
def unrulyJob : Job where
  workflow := some {
    version := "v1"
    nodes := [
      { id := "s", type := "start" },
      { id := "a", type := "HOOK" },
      { id := "b", type := "probe", continueOnError := true },
      { id := "c", type := " Halt ", continueOnError := true },
      { id := "d", type := "hook" }]
    edges := [
      { id := "e1", source := "s", target := "a" },
      { id := "e2", source := "a", target := "b" },
      { id := "e3", source := "b", target := "c" },
      { id := "e4", source := "c", target := "d" }] }

/-- The runner that asks the handlers of a registry directly. -/
def directRunner (r : Registry (Action Unit)) (j : Job) : Runner Unit := fun n =>
  match r.get? n.type with
  | some handler => handler.action j n
  | none => fun s => (.now (.value .null), s)

theorem execute_eq_run_of_handlers_unrulyJob :
    ∃ p, unrulyService.plan (unrulyJob.workflow.map .ready) = .ok p ∧
      ((unrulyService.execute unrulyJob ⟨(), []⟩).1.toOption.map fun r =>
          r.trace.entries.map fun e => (e.nodeId, e.error)) =
        some [("a", none), ("b", some "node runner returned str; expected NodeResult"),
          ("c", some "CancelledError"), ("d", none)] ∧
      (∀ n ∈ p.order, ∃ handler, unrulyService.registry.get? n.type = some handler ∧
        directRunner unrulyService.registry unrulyJob n = handler.action unrulyJob n ∧
        ∀ calls, unrulyService.registry = .ofCalls calls →
          Registry.IsLastOffer calls n.type handler) ∧
      unrulyService.execute unrulyJob =
        run { unrulyService.host unrulyJob with
          runner := some (directRunner unrulyService.registry unrulyJob) } "" (some p) := by
  have hentries : ((unrulyService.execute unrulyJob ⟨(), []⟩).1.toOption.map fun r =>
      r.trace.entries.map fun e => (e.nodeId, e.error)) =
        some [("a", none), ("b", some "node runner returned str; expected NodeResult"),
          ("c", some "CancelledError"), ("d", none)] := by decide +kernel
  have hplans : (unrulyService.plan (unrulyJob.workflow.map .ready)).toOption.isSome = true := by
    decide +kernel
  cases hp : unrulyService.plan (unrulyJob.workflow.map .ready) with
  | error stop =>
    rw [hp] at hplans
    cases hplans
  | ok p =>
    have hdirect (n : Node) (_ : n ∈ p.order) (handler : Handler (Action Unit))
        (hget : unrulyService.registry.get? n.type = some handler) :
        directRunner unrulyService.registry unrulyJob n = handler.action unrulyJob n := by
      rw [directRunner, hget]
    exact ⟨p, rfl, hentries, execute_eq_run_of_handlers unrulyService hp hdirect⟩

end Service

end JobChain
