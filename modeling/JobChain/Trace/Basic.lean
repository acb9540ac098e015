/-!
# Traces of runs

What a run leaves behind: one entry for each node of the chain, in order, with the times at which
the node was entered and left, and the times of the run itself.  A runner answers for a node by a
verdict.
-/

namespace JobChain

/-- How a node of a run ended. -/
inductive Status where
  | succeeded
  | failed
  | skipped
deriving DecidableEq, Repr

/-- What a trace says about one node. -/
structure Entry where
  nodeId : String
  nodeType : String
  status : Status
  continueOnError : Bool := false
  startedAt : String
  finishedAt : Option String := none
  error : Option String := none
deriving DecidableEq, Repr

/-- The trace of a run. -/
structure Trace where
  runId : String
  startedAt : String
  finishedAt : Option String := none
  hadFailures : Bool := false
  entries : List Entry := []
deriving DecidableEq, Repr

/-- The answer of a runner: whether the chain stops after the node. -/
structure Verdict where
  stop : Bool := false
deriving DecidableEq, Repr

end JobChain
