import JobChain.Schema.Issue

/-!
# Failures

A failure is an object of some class with a text.  It may name a cause, the failure that it was
raised from, and a context, the failure that was being handled at the time.  Some objects do not
tell their text: whoever asks for it meets another failure instead.  Causes, contexts and what is
met are other objects, and nothing keeps them from forming a cycle, so a failure is a collection of
objects that refer to each other by their places, with one object singled out.

* `FailureClass`: the classes, their names, and what sets them apart.
* `Failure.said`: what asking for the text of a failure comes to.
* `Failure.description`: the text of a failure, or the name of its class if the text is empty.
* `Failure.ofNode`: the failure of a node, raised from what the node failed with.
-/

namespace JobChain

/-- The classes of failures: those with a name of their own here, and any class of any name that is
put below two others, or below one if these are the same. -/
inductive FailureClass where
  | general
  | runtime
  | value
  | connection
  | timeout
  | deadline
  | cancelled
  | poolCancelled
  | compiler
  | validation
  | condition
  | execution
  | nodeExecution
  | record
  | lookup
  | decoding
  | markup
  | overflow
  | abort
  | derived (name : String) (base other : FailureClass)
deriving DecidableEq, Repr

namespace FailureClass

/-- The name of a class. -/
def name : FailureClass → String
  | general => "Exception"
  | runtime => "RuntimeError"
  | value => "ValueError"
  | connection => "ConnectionError"
  | timeout => "TimeoutError"
  | deadline => "DeadlineExceeded"
  | cancelled => "CancelledError"
  | poolCancelled => "CancelledError"
  | compiler => "WorkflowCompilerError"
  | validation => "ValidationPhaseError"
  | condition => "ConditionError"
  | execution => "ExecutionError"
  | nodeExecution => "NodeExecutionError"
  | record => "ValidationError"
  | lookup => "KeyError"
  | decoding => "UnicodeDecodeError"
  | markup => "MarkupError"
  | overflow => "OverflowError"
  | abort => "Abort"
  | derived name _ _ => name

/-- Whether failures of the class are cancellations or timeouts.  The cancellation of work in a pool
is neither. -/
def isInterruption : FailureClass → Bool
  | timeout | deadline | cancelled => true
  | derived _ base other => base.isInterruption || other.isInterruption
  | _ => false

/-- Whether failures of the class are about workflows. -/
def isOfWorkflows : FailureClass → Bool
  | compiler | validation | condition | execution | nodeExecution => true
  | derived _ base other => base.isOfWorkflows || other.isOfWorkflows
  | _ => false

/-- Whether failures of the class are ordinary: anyone may handle them. -/
def isOrdinary : FailureClass → Bool
  | cancelled | abort => false
  | derived _ base other => base.isOrdinary || other.isOrdinary
  | _ => true

/-- Whether failures of the class end a whole run instead of failing one node. -/
def endsRun : FailureClass → Bool
  | abort => true
  | derived _ base other => base.endsRun && other.endsRun
  | _ => false

end FailureClass

/-- One object of a failure: its class, its text, the places of its cause and its context, and the
place of what comes up when it is asked for its text, if it does not tell it. -/
structure FailureObject where
  kind : FailureClass
  text : String := ""
  cause : Option Nat := none
  context : Option Nat := none
  silence : Option Nat := none
deriving DecidableEq, Repr

/-- A failure: objects that refer to each other by their places, and the place of the one that was
raised. -/
structure Failure where
  objects : List FailureObject
  root : Nat
deriving DecidableEq, Repr

namespace Failure

/-- The object at a place.  A place outside the collection holds an object without text. -/
def objectAt (f : Failure) (place : Nat) : FailureObject :=
  f.objects.getD place { kind := .general }

/-- The object that was raised. -/
def object (f : Failure) : FailureObject := f.objectAt f.root

/-- The class of a failure. -/
def kind (f : Failure) : FailureClass := f.object.kind

/-- The text of a failure. -/
def text (f : Failure) : String := f.object.text

/-- What asking for the text of a failure comes to: the text, or the failure that comes up
instead. -/
def said (f : Failure) : Except Failure String :=
  match f.object.silence with
  | none => .ok f.text
  | some place => .error ⟨f.objects, place⟩

/-- The text of a failure, or the name of its class if the text is empty. -/
def describe (f : Failure) : String := if f.text = "" then f.kind.name else f.text

/-- What asking for the description of a failure comes to: the text that it tells, or the name of
its class if that is empty. -/
def description (f : Failure) : Except Failure String :=
  f.said.map fun text => if text = "" then f.kind.name else text

/-- The description of a failure, if there is one, is what its text and its class make of it. -/
theorem eq_describe_of_description {f : Failure} {text : String}
    (h : f.description = .ok text) : text = f.describe := by
  unfold description said at h
  split at h
  · exact (Except.ok.inj h).symm
  · cases h

/-- A failure without cause or context. -/
def of (kind : FailureClass) (text : String) : Failure := ⟨[{ kind, text }], 0⟩

@[simp] theorem kind_of (kind : FailureClass) (text : String) : (of kind text).kind = kind := rfl

@[simp] theorem text_of (kind : FailureClass) (text : String) : (of kind text).text = text := rfl

@[simp] theorem said_of (kind : FailureClass) (text : String) :
    (of kind text).said = .ok text := rfl

/-- The objects of a failure, their references moved by `offset` places. -/
def shifted (offset : Nat) (objects : List FailureObject) : List FailureObject :=
  objects.map fun o =>
    { o with
      cause := o.cause.map (· + offset)
      context := o.context.map (· + offset)
      silence := o.silence.map (· + offset) }

/-- A failure with a cause, a context, or both. -/
def withLinks (kind : FailureClass) (text : String) (cause context : Option Failure) : Failure :=
  let causes := (cause.map (·.objects)).getD []
  let contexts := shifted causes.length ((context.map (·.objects)).getD [])
  let top : FailureObject :=
    { kind, text, cause := cause.map (·.root), context := context.map (·.root + causes.length) }
  ⟨causes ++ contexts ++ [top], causes.length + contexts.length⟩

/-- The text of the failure of a node. -/
def nodeText (nodeId : String) (cause : Failure) : String :=
  "workflow node " ++ nodeId ++ " failed: " ++ cause.describe

/-- The failure of a node, raised from what the node failed with. -/
def ofNode (nodeId : String) (cause : Failure) : Failure :=
  ⟨cause.objects ++
    [{ kind := .nodeExecution, text := nodeText nodeId cause, cause := cause.root }],
    cause.objects.length⟩

/-- The failure of a record that cannot be read. -/
def ofIssues (recordName : String) (issues : List Schema.Issue) : Failure :=
  of .record (Schema.report recordName issues)

end Failure

end JobChain
