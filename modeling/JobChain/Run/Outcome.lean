import JobChain.Act
import JobChain.Failure.Basic
import JobChain.Trace.Schema
import JobChain.Workflow.Basic

/-!
# Outcomes

A runner is asked about a node and replies, either with an outcome at once or with work that yields
one.  An outcome is a verdict, a value that should stand for a verdict, or a failure.

* `Reply.settle`: the outcome of a reply.
* `Outcome.toVerdict`: the verdict of an outcome, or the failure in its place.
-/

namespace JobChain

/-- What a node came to. -/
inductive Outcome where
  | verdict (v : Verdict)
  | value (json : Json)
  | failure (f : Failure)

/-- The verdict that a value stands for: null lets the chain go on, and an object has to be that of
a verdict. -/
def Verdict.ofValue : Json → Except Failure Verdict
  | .null => .ok {}
  | .object members =>
    (Verdict.read (.object members)).mapError (Failure.ofIssues Verdict.recordName)
  | other =>
    .error (.of .execution ("node runner returned " ++ other.kindName ++ "; expected NodeResult"))

namespace Outcome

/-- The verdict of an outcome, or the failure in its place. -/
def toVerdict : Outcome → Except Failure Verdict
  | verdict v => .ok v
  | value json => Verdict.ofValue json
  | failure f => .error f

/-- The outcome that a verdict or a failure is. -/
def ofVerdict : Except Failure Verdict → Outcome
  | .ok v => verdict v
  | .error f => failure f

@[simp] theorem toVerdict_verdict (v : Verdict) : (verdict v).toVerdict = .ok v := rfl

@[simp] theorem toVerdict_failure (f : Failure) : (failure f).toVerdict = .error f := rfl

@[simp] theorem toVerdict_ofVerdict (r : Except Failure Verdict) : (ofVerdict r).toVerdict = r := by
  cases r <;> rfl

end Outcome

/-- A reply: an outcome, or work on the state of the host that yields one. -/
inductive Reply (σ : Type) where
  | now (outcome : Outcome)
  | later (work : σ → Outcome × σ)

/-- The outcome of a reply, and the state of the host then. -/
def Reply.settle {σ : Type} : Reply σ → σ → Outcome × σ
  | now outcome, s => (outcome, s)
  | later work, s => work s

/-- The outcome of an act without a value. -/
def Outcome.ofUnit : Except Failure Unit → Outcome
  | .ok () => value .null
  | .error f => failure f

/-- The reply that does an act. -/
def Reply.act {σ : Type} (act : Act Failure σ Unit) : Reply σ :=
  later fun s => (.ofUnit (act s).1, (act s).2)

@[simp] theorem Reply.settle_now {σ : Type} (o : Outcome) (s : σ) :
    (Reply.now o).settle s = (o, s) := rfl

@[simp] theorem Reply.settle_later {σ : Type} (work : σ → Outcome × σ) (s : σ) :
    (Reply.later work).settle s = work s := rfl

/-- What runs a node: it acts on the state of the host and replies. -/
abbrev Runner (σ : Type) := Node → σ → Reply σ × σ

/-- The verdict of a runner on a node, or the failure in its place. -/
def Runner.invoke {σ : Type} (runner : Runner σ) (n : Node) (s : σ) : Except Failure Verdict × σ :=
  let (reply, s) := runner n s
  let (outcome, s) := reply.settle s
  (outcome.toVerdict, s)

end JobChain
