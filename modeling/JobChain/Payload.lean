import JobChain.Failure.Basic
import JobChain.Job.Schema
import JobChain.Json.Reader
import JobChain.Workflow.Schema

/-!
# Payloads

A workflow or a job arrives as a payload: a record that has been read already, a JSON value, or
bytes.  A value that is a text holds JSON text, and bytes hold JSON text in an encoding that their
front gives away.  Either way the text has to be that of an object.

* `Payload.load`: the record of a payload, or why there is none.
* `PayloadError.message`: that reason in words.
-/

namespace JobChain

/-- What arrives where a record of type `α` is wanted. -/
inductive Payload (α : Type) where
  | ready (record : α)
  | value (json : Json)
  | bytes (content : List UInt8)

/-- A kind of record that arrives as a payload: the nouns of messages, and the reading. -/
structure Subject (α : Type) where
  noun : String
  title : String
  recordName : String
  read : Json → Schema.Checked α

/-- Workflows. -/
def Workflow.subject : Subject Workflow := ⟨"workflow", "Workflow", "WorkflowSpec", Workflow.read⟩

/-- Jobs. -/
def Job.subject : Subject Job := ⟨"job", "Job", "CronJobSpec", Job.read⟩

/-- Why a payload holds no record. -/
inductive PayloadError where
  | malformed (noun : String) (error : Json.ReadError)
  | notObject (title : String)
  | unsupported (kindName : String)
  | invalid (title recordName : String) (issues : List Schema.Issue)
  | undecodable (error : Text.DecodeError)
deriving DecidableEq, Repr

/-- The reason in words. -/
def PayloadError.message : PayloadError → String
  | malformed noun error => "Invalid " ++ noun ++ " JSON payload: " ++ error.message
  | notObject title => title ++ " JSON payload must be an object"
  | unsupported kindName => "Unsupported payload type " ++ kindName ++ "; expected str or Mapping"
  | invalid title recordName issues =>
    title ++ " spec validation failed: " ++ Schema.report recordName issues
  | undecodable error => error.message

/-- The failure that tells why a payload holds no record. -/
def PayloadError.toFailure : PayloadError → Failure
  | undecodable error => .of .decoding error.message
  | error => .of .validation error.message

@[simp] theorem PayloadError.text_toFailure (e : PayloadError) : e.toFailure.text = e.message := by
  cases e <;> rfl

namespace Subject

variable {α : Type} (subject : Subject α)

/-- The record that a value is. -/
def ofValue (value : Json) : Except PayloadError α :=
  (subject.read value).mapError (.invalid subject.title subject.recordName)

/-- The record in a JSON text that has been read. -/
def ofRead : Except Json.ReadError Json → Except PayloadError α
  | .error e => .error (.malformed subject.noun e)
  | .ok (.object members) => subject.ofValue (.object members)
  | .ok _ => .error (.notObject subject.title)

end Subject

/-- The record of a payload. -/
def Payload.load {α : Type} (subject : Subject α) : Payload α → Except PayloadError α
  | ready record => .ok record
  | value (.string s) => subject.ofRead (Json.read s)
  | value (.object members) => subject.ofValue (.object members)
  | value other => .error (.unsupported other.kindName)
  | bytes content =>
    match Text.decodeDetected content with
    | .ok cs => subject.ofRead ((Json.readText cs).mapError (Json.Stop.locate cs))
    | .error e => .error (.undecodable e)

end JobChain
