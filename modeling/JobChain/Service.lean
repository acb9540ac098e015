import JobChain.Plan.Compile
import JobChain.Registry.Builtin
import JobChain.Run.Chain

/-!
# Services

A service compiles the workflow of a job against a registry and runs the plan with the handlers of
the same registry.

* `Service.plan`: the plan of a workflow.
* `Service.runNode`: one node.
* `Service.execute`: a whole job.
-/

namespace JobChain

/-- A service: its registry, and the collaborators of its runs. -/
structure Service (σ : Type) where
  registry : Registry (Action σ) := []
  clock : Act Failure σ Json
  runIds : Act Failure σ Json

namespace Service

variable {σ : Type} (service : Service σ)

/-- The check of conditions while compiling. -/
def validateCondition (raw : String) : Except Failure Unit :=
  ((Condition.read raw).map fun _ => ()).mapError ConditionError.toFailure

/-- The callbacks of a compilation: the types of the registry, and the check of conditions. -/
def callbacks : Callbacks where
  supports := some fun type => service.registry.supports (.string type)
  validate := some validateCondition

/-- The plan of a workflow. -/
def plan (payload : Option (Payload Workflow)) : Except CompileStop Plan :=
  (compilePayload service.callbacks payload {}).1

/-- Runs one node for a job. -/
def runNode (j : Job) (n : Node) (s : σ) : Except Failure Verdict × σ :=
  match service.registry.resolve (.string n.type) with
  | none =>
    (.error (.of .execution ("unsupported workflow node type=" ++ Text.quoted n.type)), s)
  | some handler => Runner.invoke (handler.action j) n s

/-- The runner of the nodes of a job. -/
def runner (j : Job) : Runner σ := fun n s =>
  (.later fun s => (.ofVerdict (service.runNode j n s).1, (service.runNode j n s).2), s)

/-- What the runs of a job ask their host for. -/
def host (j : Job) : Host σ where
  runner := some (service.runner j)
  clock := some service.clock
  runIds := some service.runIds

/-- The failure of a job whose workflow is refused. -/
def refusedJob (reason : Refusal) : Failure :=
  .withLinks .validation ("invalid cron workflow: " ++ reason.message) (some reason.toFailure) none

/-- Executes a job: compiles its workflow and runs the plan. -/
def execute (j : Job) : Running σ RunResult :=
  match service.plan (j.workflow.map .ready) with
  | .ok plan => run (service.host j) j.id (some plan)
  | .error (.refused reason) => do
    Logged.note (.workflowInvalid j.id reason.message)
    Act.fail (refusedJob reason)
  | .error stop => Act.fail stop.toFailure

end Service

end JobChain
