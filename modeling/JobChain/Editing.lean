import JobChain.Job.Schema
import JobChain.Trace.Schema
import JobChain.Workflow.Schema

/-!
# Editing records

A record can be seen as the table of its fields, and a field of it can be given another value.
Whether that is allowed, and whether the value is read like one that arrives from outside, depends
on the kind of the record.

* `RecordKind.load`: the fields of a record that a value is.
* `RecordKind.assign`: the fields after one has been given a value.
-/

namespace JobChain

/-- The kinds of records. -/
inductive RecordKind where
  | viewport
  | node
  | edge
  | workflow
  | target
  | dispatch
  | job
  | entry
  | trace
  | verdict
deriving DecidableEq, Repr

/-- What happens when a field is given a value: nothing may change, the value is read, or the value
is taken as it is. -/
inductive Discipline where
  | frozen
  | checked
  | free
deriving DecidableEq, Repr

/-- Why a field keeps its value. -/
inductive AssignError where
  | invalid (recordName : String) (issues : List Schema.Issue)
  | noField (recordName field : String)
deriving DecidableEq, Repr

/-- The reason in words. -/
def AssignError.message : AssignError → String
  | invalid recordName issues => Schema.report recordName issues
  | noField recordName field =>
    "\"" ++ recordName ++ "\" object has no field \"" ++ field ++ "\""

namespace RecordKind

/-- All kinds. -/
def all : List RecordKind :=
  [viewport, node, edge, workflow, target, dispatch, job, entry, trace, verdict]

/-- The name of the records of a kind. -/
def name : RecordKind → String
  | viewport => "WorkflowViewport"
  | node => "WorkflowNode"
  | edge => "WorkflowEdge"
  | workflow => "WorkflowSpec"
  | target => "CronDispatchTarget"
  | dispatch => "CronDispatchSpec"
  | job => "CronJobSpec"
  | entry => Entry.recordName
  | trace => Trace.recordName
  | verdict => Verdict.recordName

/-- The kind whose records have a name. -/
def ofName? (s : String) : Option RecordKind := all.find? fun k => k.name == s

/-- What happens when a field of a record is given a value.  The parts of a workflow are shared, so
they stay as they are; the parts of a trace are kept valid; jobs belong to others. -/
def discipline : RecordKind → Discipline
  | viewport | node | edge | workflow => .frozen
  | target | dispatch | job => .free
  | entry | trace | verdict => .checked

/-- The record that a value is, every field written out. -/
def readValue (k : RecordKind) (value : Json) : Schema.Checked Json :=
  match k with
  | viewport => (Viewport.read value).map Viewport.toJson
  | node => (Node.read value).map Node.toJson
  | edge => (Edge.read value).map Edge.toJson
  | workflow => (Workflow.read value).map Workflow.toJson
  | target => (DispatchTarget.read value).map DispatchTarget.toJson
  | dispatch => (Dispatch.read value).map Dispatch.toJson
  | job => (Job.read value).map Job.toJson
  | entry => (Entry.read value).map Entry.toJson
  | trace => (Trace.read value).map Trace.toJson
  | verdict => (Verdict.read value).map Verdict.toJson

/-- The members of an object. -/
def membersOf : Json → Table Json
  | .object members => members
  | _ => []

/-- The fields of the record that a value is. -/
def load (k : RecordKind) (value : Json) : Schema.Checked (Table Json) :=
  (k.readValue value).map membersOf

/-- The fields of a record after one has been given a value. -/
def assign (k : RecordKind) (fields : Table Json) (field : String) (value : Json) :
    Except AssignError (Table Json) :=
  match k.discipline with
  | .frozen => .error (.invalid k.name [⟨[.name field], .frozen⟩])
  | .checked =>
    if fields.has field then
      (k.load (.object (fields.put field value))).mapError (.invalid k.name)
    else .error (.invalid k.name [⟨[.name field], .noAttribute field⟩])
  | .free =>
    if fields.has field then .ok (fields.put field value) else .error (.noField k.name field)

@[simp] theorem assign_of_frozen {k : RecordKind} (h : k.discipline = .frozen)
    (fields : Table Json) (field : String) (value : Json) :
    k.assign fields field value = .error (.invalid k.name [⟨[.name field], .frozen⟩]) := by
  simp [assign, h]

end RecordKind

end JobChain
