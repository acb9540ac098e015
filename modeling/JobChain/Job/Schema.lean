import JobChain.Job.Basic
import JobChain.Workflow.Schema

/-!
# Jobs as values

The reading of a job and of its parts from JSON values, and their form as values with every field
written out.  The three records are lenient: members that they do not declare are passed over.  A
workflow inside a job is as strict as anywhere.
-/

namespace JobChain

open Schema (Checked field readText readTruth readDictionary)
open Schema.Checked (take)

/-- A target from the members of an object. -/
def DispatchTarget.ofMembers (ms : Table Json) : Checked DispatchTarget :=
  (Except.ok DispatchTarget.mk : Checked _)
    |> take (field ms "user_id" readText "")
    |> take (field ms "session_id" readText "")

/-- A target from a value. -/
def DispatchTarget.read : Json → Checked DispatchTarget :=
  Schema.record "CronDispatchTarget" DispatchTarget.ofMembers

/-- The value of a target. -/
def DispatchTarget.toJson (t : DispatchTarget) : Json :=
  .object [("user_id", .string t.userId), ("session_id", .string t.sessionId)]

/-- A dispatch from the members of an object. -/
def Dispatch.ofMembers (ms : Table Json) : Checked Dispatch :=
  (Except.ok Dispatch.mk : Checked _)
    |> take (field ms "type" readText "")
    |> take (field ms "channel" readText "")
    |> take (field ms "target" DispatchTarget.read {})
    |> take (field ms "mode" readText "")
    |> take (field ms "meta" readDictionary [])

/-- A dispatch from a value. -/
def Dispatch.read : Json → Checked Dispatch := Schema.record "CronDispatchSpec" Dispatch.ofMembers

/-- The value of a dispatch. -/
def Dispatch.toJson (d : Dispatch) : Json :=
  .object [("type", .string d.type), ("channel", .string d.channel), ("target", d.target.toJson),
    ("mode", .string d.mode), ("meta", .object d.metadata)]

/-- A job from the members of an object. -/
def Job.ofMembers (ms : Table Json) : Checked Job :=
  (Except.ok Job.mk : Checked _)
    |> take (field ms "id" readText "")
    |> take (field ms "name" readText "")
    |> take (field ms "enabled" readTruth true)
    |> take (field ms "task_type" readText "")
    |> take (field ms "text" readText "")
    |> take (field ms "workflow" (Schema.readOptional Workflow.read) none)
    |> take (field ms "dispatch" Dispatch.read {})
    |> take (field ms "meta" readDictionary [])

/-- A job from a value. -/
def Job.read : Json → Checked Job := Schema.record "CronJobSpec" Job.ofMembers

/-- The value of a job. -/
def Job.toJson (j : Job) : Json :=
  .object [("id", .string j.id), ("name", .string j.name), ("enabled", .bool j.enabled),
    ("task_type", .string j.taskType), ("text", .string j.text),
    ("workflow", (j.workflow.map Workflow.toJson).getD .null), ("dispatch", j.dispatch.toJson),
    ("meta", .object j.metadata)]

end JobChain
