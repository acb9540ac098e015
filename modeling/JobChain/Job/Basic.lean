import JobChain.Json.Basic
import JobChain.Workflow.Basic

/-!
# Jobs

A job is what a schedule triggers: a task of some type, a text, a workflow, and where results are
dispatched.  Jobs come from a wider store, so a job keeps free-form members of its own in
`metadata`.
-/

namespace JobChain

/-- Whom a dispatch addresses. -/
structure DispatchTarget where
  userId : String := ""
  sessionId : String := ""
deriving DecidableEq, Repr

/-- How the results of a job are dispatched. -/
structure Dispatch where
  type : String := ""
  channel : String := ""
  target : DispatchTarget := {}
  mode : String := ""
  metadata : List (String × Json) := []

/-- A job. -/
structure Job where
  id : String := ""
  name : String := ""
  enabled : Bool := true
  taskType : String := ""
  text : String := ""
  workflow : Option Workflow := none
  dispatch : Dispatch := {}
  metadata : List (String × Json) := []

end JobChain
