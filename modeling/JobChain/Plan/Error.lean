import JobChain.Failure.Basic
import JobChain.Payload
import JobChain.Text.Quoted

/-!
# Why a workflow has no plan

The reasons for which a workflow is refused, each naming the node or edge that it is about, and the
sentences that tell them.

* `Refusal`: the reasons.
* `CompileStop`: what ends a compilation: a refusal, or a failure of a callback that is none.
-/

namespace JobChain

/-- Why a workflow is refused. -/
inductive Refusal where
  | noWorkflow
  | payload (error : PayloadError)
  | version (written : String)
  | tooFewNodes
  | noEdges
  | nodeWithoutId
  | nodeRepeated (id : String)
  | nodeUnsupported (id type : String)
  | nodeWithoutText (id : String)
  | nodeNegativeDelay (id : String)
  | nodeCondition (id reason : String)
  | startNotUnique
  | edgeWithoutId
  | edgeRepeated (id : String)
  | edgeOpen (id : String)
  | edgeLoop (id : String)
  | edgeSource (id source : String)
  | edgeTarget (id target : String)
  | outgoingRepeated (id : String)
  | incomingRepeated (id : String)
  | startHasIncoming
  | startHasNoOutgoing
  | cycle
  | startInChain
  | emptyChain
  | unreachable (id : String)
deriving DecidableEq, Repr

/-- The reason in words. -/
def Refusal.message : Refusal → String
  | noWorkflow => "workflow is required for task_type=workflow"
  | payload error => error.message
  | version written => "unsupported workflow version=" ++ Text.quoted written
  | tooFewNodes => "workflow requires at least 2 nodes"
  | noEdges => "workflow requires at least 1 edge"
  | nodeWithoutId => "workflow node id is required"
  | nodeRepeated id => "workflow node id duplicated: " ++ id
  | nodeUnsupported id type =>
    "workflow node " ++ id ++ " has unsupported type=" ++ Text.quoted type
  | nodeWithoutText id => "workflow node " ++ id ++ " requires non-empty text"
  | nodeNegativeDelay id =>
    "workflow node " ++ id ++ " delay_seconds must be greater than or equal to 0"
  | nodeCondition id reason => "workflow node " ++ id ++ " if_condition invalid: " ++ reason
  | startNotUnique => "workflow requires exactly one start node"
  | edgeWithoutId => "workflow edge id is required"
  | edgeRepeated id => "workflow edge id duplicated: " ++ id
  | edgeOpen id => "workflow edge " ++ id ++ " requires source and target"
  | edgeLoop id => "workflow edge " ++ id ++ " cannot link node to itself"
  | edgeSource id source => "workflow edge " ++ id ++ " source not found: " ++ source
  | edgeTarget id target => "workflow edge " ++ id ++ " target not found: " ++ target
  | outgoingRepeated id => "workflow node " ++ id ++ " has more than one outgoing edge"
  | incomingRepeated id => "workflow node " ++ id ++ " has more than one incoming edge"
  | startHasIncoming => "workflow start node cannot have incoming edge"
  | startHasNoOutgoing => "workflow start node must connect to at least one executable node"
  | cycle => "workflow graph must be acyclic"
  | startInChain => "workflow start node cannot be targeted by execution path"
  | emptyChain => "workflow requires at least one executable node"
  | unreachable id => "workflow node " ++ id ++ " is not reachable from start"

/-- What ends a compilation without a plan.  A name that is missing from the nodes is a fault of the
maps that a chain is walked on, not of a workflow. -/
inductive CompileStop where
  | refused (reason : Refusal)
  | missingNode (id : String)
  | escaped (failure : Failure)
deriving DecidableEq, Repr

/-- The failure that tells why a workflow is refused. -/
def Refusal.toFailure : Refusal → Failure
  | payload error => error.toFailure
  | reason => .of .validation reason.message

/-- What ended a compilation, as a failure. -/
def CompileStop.toFailure : CompileStop → Failure
  | refused reason => reason.toFailure
  | missingNode id => .of .lookup (Text.quoted id)
  | escaped failure => failure

@[simp] theorem Refusal.text_toFailure (r : Refusal) : r.toFailure.text = r.message := by
  cases r with
  | payload e => exact e.text_toFailure
  | _ => rfl

end JobChain
