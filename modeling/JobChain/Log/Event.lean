import JobChain.Log.Severity

/-!
# Events

What is worth a line in the log of a run, and the line itself.

* `Event.severity`, `Event.message`: the two parts of a line.
* `shown`: the lines that a level lets through.
-/

namespace JobChain.Log

/-- An event of a run, or of what precedes one. -/
inductive Event where
  | runStarted (runId jobId : String) (nodes : Nat)
  | nodeFailed (runId nodeId nodeType error : String)
  | nodeSkipped (runId nodeId : String)
  | runFinished (runId : String) (hadFailures : Bool)
  | workflowInvalid (jobId reason : String)
deriving DecidableEq, Repr

namespace Event

/-- How much an event matters. -/
def severity : Event → Severity
  | runStarted .. => .info
  | nodeFailed .. => .warning
  | nodeSkipped .. => .debug
  | runFinished .. => .info
  | workflowInvalid .. => .warning

/-- An event in words. -/
def message : Event → String
  | runStarted runId jobId nodes =>
    "workflow run " ++ runId ++ " started job=" ++ jobId ++ " nodes=" ++ toString nodes
  | nodeFailed runId nodeId nodeType error =>
    "workflow run " ++ runId ++ " node " ++ nodeId ++ " (" ++ nodeType ++ ") failed: " ++ error
  | nodeSkipped runId nodeId => "workflow run " ++ runId ++ " node " ++ nodeId ++ " skipped"
  | runFinished runId hadFailures =>
    "workflow run " ++ runId ++ " finished had_failures=" ++ (Json.bool hadFailures).display
  | workflowInvalid jobId reason => "cron job " ++ jobId ++ " has an invalid workflow: " ++ reason

end Event

/-- The events that a level lets through. -/
def shown (level : Int) (events : List Event) : List Event :=
  events.filter fun e => decide (level ≤ e.severity.rank)

@[simp] theorem shown_nil (level : Int) : shown level [] = [] := rfl

end JobChain.Log
