import JobChain.Schema.Record
import JobChain.Schema.Scalar
import JobChain.Trace.Basic

/-!
# Traces as values

The reading of traces, their entries and verdicts from JSON values, and their two forms as values:
`toJson` writes every field out, and `payload` leaves absent fields away, which is the form in which
traces are stored.  All three records are strict.

* `Trace.read`, `Entry.read`, `Verdict.read`: the readings.
* `Trace.payload`: the stored form.
-/

namespace JobChain

open Schema (Checked field required readText readTruth readOptional)
open Schema.Checked (take withIssues)

/-! ## Statuses -/

/-- The name of a status. -/
def Status.name : Status → String
  | succeeded => "succeeded"
  | failed => "failed"
  | skipped => "skipped"

/-- The status of a name. -/
def Status.ofName? (s : String) : Option Status :=
  [succeeded, failed, skipped].find? fun st => st.name == s

/-- A status from a value. -/
def Status.read : Json → Checked Status
  | .string s => Checked.ofOption .status (Status.ofName? s)
  | _ => .fault .status

@[simp] theorem Status.ofName?_name (s : Status) : Status.ofName? s.name = some s := by
  cases s <;> decide

/-! ## Entries -/

/-- The fields of an entry. -/
def Entry.fields : List String :=
  ["node_id", "node_type", "status", "continue_on_error", "started_at", "finished_at", "error"]

/-- An entry from the members of an object. -/
def Entry.ofMembers (ms : Table Json) : Checked Entry :=
  (Except.ok Entry.mk : Checked _)
    |> take (required ms "node_id" readText)
    |> take (required ms "node_type" readText)
    |> take (required ms "status" Status.read)
    |> take (field ms "continue_on_error" readTruth false)
    |> take (required ms "started_at" readText)
    |> take (field ms "finished_at" (readOptional readText) none)
    |> take (field ms "error" (readOptional readText) none)
    |> withIssues (Schema.undeclared fields ms)

/-- The name of the record of an entry. -/
def Entry.recordName : String := "WorkflowNodeExecution"

/-- An entry from a value. -/
def Entry.read : Json → Checked Entry := Schema.record Entry.recordName Entry.ofMembers

/-- The members of an entry, every field written out. -/
def Entry.members (e : Entry) : List (String × Json) :=
  [("node_id", .string e.nodeId), ("node_type", .string e.nodeType),
    ("status", .string e.status.name), ("continue_on_error", .bool e.continueOnError),
    ("started_at", .string e.startedAt), ("finished_at", .ofText? e.finishedAt),
    ("error", .ofText? e.error)]

/-- The value of an entry. -/
def Entry.toJson (e : Entry) : Json := .object e.members

/-- The members that are present. -/
def presentMembers (ms : List (String × Json)) : List (String × Json) :=
  ms.filter fun m => match m.2 with
    | .null => false
    | _ => true

/-- The stored form of an entry. -/
def Entry.payload (e : Entry) : Json := .object (presentMembers e.members)

/-! ## Traces -/

/-- The fields of a trace. -/
def Trace.fields : List String := ["run_id", "started_at", "finished_at", "had_failures", "nodes"]

/-- A trace from the members of an object. -/
def Trace.ofMembers (ms : Table Json) : Checked Trace :=
  (Except.ok Trace.mk : Checked _)
    |> take (required ms "run_id" readText)
    |> take (required ms "started_at" readText)
    |> take (field ms "finished_at" (readOptional readText) none)
    |> take (field ms "had_failures" readTruth false)
    |> take (field ms "nodes" (Schema.readEach .list Entry.read) [])
    |> withIssues (Schema.undeclared fields ms)

/-- The name of the record of a trace. -/
def Trace.recordName : String := "WorkflowExecution"

/-- A trace from a value. -/
def Trace.read : Json → Checked Trace := Schema.record Trace.recordName Trace.ofMembers

/-- The members of a trace, every field written out; `entry` gives the form of an entry. -/
def Trace.members (entry : Entry → Json) (t : Trace) : List (String × Json) :=
  [("run_id", .string t.runId), ("started_at", .string t.startedAt),
    ("finished_at", .ofText? t.finishedAt), ("had_failures", .bool t.hadFailures),
    ("nodes", .array (t.entries.map entry))]

/-- The value of a trace. -/
def Trace.toJson (t : Trace) : Json := .object (t.members Entry.toJson)

/-- The stored form of a trace. -/
def Trace.payload (t : Trace) : Json := .object (presentMembers (t.members Entry.payload))

/-! ## Verdicts -/

/-- The fields of a verdict. -/
def Verdict.fields : List String := ["stop"]

/-- A verdict from the members of an object. -/
def Verdict.ofMembers (ms : Table Json) : Checked Verdict :=
  (Except.ok Verdict.mk : Checked _)
    |> take (field ms "stop" readTruth false)
    |> withIssues (Schema.undeclared fields ms)

/-- The name of the record of a verdict. -/
def Verdict.recordName : String := "NodeResult"

/-- A verdict from a value. -/
def Verdict.read : Json → Checked Verdict := Schema.record Verdict.recordName Verdict.ofMembers

/-- The value of a verdict. -/
def Verdict.toJson (v : Verdict) : Json := .object [("stop", .bool v.stop)]

end JobChain
