import JobChain.Job.Basic
import JobChain.Text.Blank
import JobChain.Text.Lowercase

/-!
# Conditions

A condition compares one aspect of a job with a literal.

* `Job.aspect`: the aspects of a job, trimmed, two of them in lower case.
* `Condition.holds`: the value of a condition for a job.
-/

namespace JobChain

/-- The aspects of a job that conditions can compare. -/
inductive Aspect where
  | jobId
  | jobName
  | channel
  | userId
  | sessionId
  | taskType
deriving DecidableEq, Repr

/-- The two comparisons. -/
inductive Comparison where
  | equal
  | unequal
deriving DecidableEq, Repr

/-- A condition: an aspect, a comparison and a literal. -/
structure Condition where
  aspect : Aspect
  comparison : Comparison
  value : String
deriving DecidableEq, Repr

namespace Aspect

/-- All aspects. -/
def all : List Aspect := [jobId, jobName, channel, userId, sessionId, taskType]

/-- The name of an aspect. -/
def name : Aspect → String
  | jobId => "job_id"
  | jobName => "job_name"
  | channel => "channel"
  | userId => "user_id"
  | sessionId => "session_id"
  | taskType => "task_type"

/-- The aspect of a name. -/
def ofName? (s : String) : Option Aspect := all.find? fun a => a.name == s

@[simp] theorem ofName?_name (a : Aspect) : ofName? a.name = some a := by
  cases a <;> decide

end Aspect

/-- The sign of a comparison. -/
def Comparison.sign : Comparison → String
  | equal => "=="
  | unequal => "!="

/-! ## Contexts -/

/-- The channel of a job that names none. -/
def defaultChannel : String := "console"

/-- The channel on which a job dispatches: its own, or the default if that is blank. -/
def Job.channel (j : Job) : String :=
  let own := Text.trim j.dispatch.channel
  if own = "" then defaultChannel else own

/-- The aspects of a job as conditions see them. -/
def Job.aspect (j : Job) : Aspect → String
  | .jobId => Text.trim j.id
  | .jobName => Text.trim j.name
  | .channel => Text.lower j.channel
  | .userId => Text.trim j.dispatch.target.userId
  | .sessionId => Text.trim j.dispatch.target.sessionId
  | .taskType => Text.lower (Text.trim j.taskType)

/-- Whether a condition holds for a job. -/
def Condition.holds (c : Condition) (j : Job) : Bool :=
  match c.comparison with
  | .equal => j.aspect c.aspect == c.value
  | .unequal => j.aspect c.aspect != c.value

end JobChain
