import JobChain.Table
import JobChain.Workflow.Basic

/-!
# Plans

A plan is what a workflow is compiled to: the workflow in normal form, its nodes by id, the
successor of every node that has one, and the nodes of the chain in the order in which they run.
The start is not among them.
-/

namespace JobChain

/-- A compiled workflow. -/
structure Plan where
  workflow : Workflow
  startId : String
  nodes : Table Node
  next : Table String
  order : List Node
deriving DecidableEq, Repr

/-- The ids of the nodes that run, in order. -/
def Plan.orderIds (p : Plan) : List String := p.order.map (·.id)

end JobChain
