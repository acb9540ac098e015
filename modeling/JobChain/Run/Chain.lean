import JobChain.Failure.Cancellation
import JobChain.Plan.Basic
import JobChain.Run.Logged
import JobChain.Run.Outcome

/-!
# Running a chain

The nodes of a plan run one after another.  Every node leaves an entry in the trace, with the time
before it ran and the time after.  A node whose verdict is to stop ends the chain, as does a node
that fails, unless it lets the chain go on after an error; a cancellation or timeout ends the chain
in any case.  The nodes after the end of the chain are skipped: each leaves an entry too, with one
time.

The failure of a node is part of the trace and no failure of the run.  A run fails without a plan or
a collaborator, when its clock or its source of ids does, when a node's failure is of a class that
ends runs, and when such a failure cannot be described.

* `visit`: one node.
* `Progress`: what a chain has come to so far, with `Progress.add` for one more node.
* `runNodes`: the nodes of a chain.
* `run`: a whole run.
-/

namespace JobChain

open Schema (Checked readText readOptional)
open Schema.Checked (take)

/-- What a run asks its host for: a runner of nodes, a clock and a source of run ids.  The values of
the last two should be texts. -/
structure Host (σ : Type) where
  runner : Option (Runner σ)
  clock : Option (Act Failure σ Json)
  runIds : Option (Act Failure σ Json)

/-- The failure of a node, by the id of the node. -/
structure NodeFailure where
  nodeId : String
  cause : Failure
deriving DecidableEq, Repr

/-- The failure of a node as a failure of its own, raised from that of the node. -/
def NodeFailure.toFailure (f : NodeFailure) : Failure := .ofNode f.nodeId f.cause

/-- What comes of a run: its trace, and the first failure of a node, if any. -/
structure RunResult where
  trace : Trace
  error : Option NodeFailure := none
deriving DecidableEq, Repr

namespace RunResult

/-- Whether no node failed. -/
def isOk (r : RunResult) : Bool := r.error.isNone

/-- The trace, unless a node failed. -/
def raiseForError (r : RunResult) : Except NodeFailure Trace :=
  match r.error with
  | some f => .error f
  | none => .ok r.trace

end RunResult

/-! ## Entries -/

variable {σ : Type}

/-- The entry of a node with its two times, if they are texts; the second may be null. -/
def entryAt (n : Node) (status : Status) (error : Option String) (started finished : Json) :
    Checked Entry :=
  (Except.ok fun startedAt finishedAt =>
      { nodeId := n.id, nodeType := n.type, status, continueOnError := n.continueOnError
        startedAt, finishedAt, error } : Checked (String → Option String → Entry))
    |> take ((readText started).at (.name "started_at"))
    |> take ((readOptional readText finished).at (.name "finished_at"))

/-- A record of a name that has been checked. -/
def checkedAs {α : Type} (recordName : String) (x : Checked α) : Running σ α :=
  Act.ofExcept (x.mapError (Failure.ofIssues recordName))

/-! ## Nodes -/

/-- What comes of one node. -/
structure Visit where
  entry : Entry
  failure? : Option Failure
  stops : Bool

/-- Whether the chain ends with a node, after its verdict or its failure. -/
def endsChain (n : Node) : Except Failure Verdict → Bool
  | .ok v => v.stop
  | .error f => !n.continueOnError || f.isCancellation

/-- The failure of a node, if it failed. -/
def failureOf? : Except Failure Verdict → Option Failure
  | .ok _ => none
  | .error f => some f

/-- The verdict of a runner on a node, or the failure in its place.  A failure of a class that ends
runs is one of the act. -/
def invoke (runner : Runner σ) (n : Node) : Running σ (Except Failure Verdict) := do
  let result ← Logged.lift fun s => (.ok (runner.invoke n s).1, (runner.invoke n s).2)
  match result with
  | .ok v => pure (.ok v)
  | .error f => if f.kind.endsRun then Act.fail f else pure (.error f)

/-- The entry of a node, marked as failed if it failed.  Its failure has to be described for that.
-/
def mark (runId : String) (n : Node) (entry : Entry) : Option Failure → Running σ Entry
  | none => pure entry
  | some f => do
    let error ← Act.ofExcept f.description
    Logged.note (.nodeFailed runId n.id n.type error)
    return { entry with status := .failed, error := some error }

/-- Runs one node. -/
def visit (runner : Runner σ) (clock : Act Failure σ Json) (runId : String) (n : Node) :
    Running σ Visit := do
  let started ← Logged.lift clock
  let result ← invoke runner n
  let finished ← Logged.lift clock
  let entry ← checkedAs Entry.recordName (entryAt n .succeeded none started finished)
  let failure? := failureOf? result
  let entry ← mark runId n entry failure?
  return { entry, failure?, stops := endsChain n result }

/-- Skips one node. -/
def skip (clock : Act Failure σ Json) (runId : String) (n : Node) : Running σ Entry := do
  let time ← Logged.lift clock
  let entry ← checkedAs Entry.recordName (entryAt n .skipped none time time)
  Logged.note (.nodeSkipped runId n.id)
  return entry

/-- Skips nodes. -/
def skipNodes (clock : Act Failure σ Json) (runId : String) : List Node → Running σ (List Entry)
  | [] => pure []
  | n :: rest => do
    let entry ← skip clock runId n
    let entries ← skipNodes clock runId rest
    return entry :: entries

@[simp] theorem skipNodes_nil (clock : Act Failure σ Json) (runId : String) :
    skipNodes clock runId [] = pure [] := rfl

theorem skipNodes_cons (clock : Act Failure σ Json) (runId : String) (n : Node) (rest : List Node) :
    skipNodes clock runId (n :: rest) = do
      let entry ← skip clock runId n
      let entries ← skipNodes clock runId rest
      return entry :: entries := rfl

/-- What a chain has come to so far: the entries, whether a node has failed, and the first failure
of a node. -/
structure Progress where
  entries : List Entry := []
  hadFailures : Bool := false
  error : Option NodeFailure := none

/-- What a chain has come to after one more node. -/
def Progress.add (p : Progress) (n : Node) (v : Visit) : Progress :=
  match v.failure? with
  | none => { p with entries := p.entries ++ [v.entry] }
  | some f =>
    { entries := p.entries ++ [v.entry]
      hadFailures := true
      error := if p.error.isNone then some ⟨n.id, f⟩ else p.error }

/-- What a chain has come to after some more entries. -/
def Progress.extend (p : Progress) (entries : List Entry) : Progress :=
  { p with entries := p.entries ++ entries }

/-- Runs the nodes of a chain up to its end and skips the others, after what it has come to. -/
def runNodes (runner : Runner σ) (clock : Act Failure σ Json) (runId : String) (p : Progress) :
    List Node → Running σ Progress
  | [] => pure p
  | n :: rest => do
    let v ← visit runner clock runId n
    if v.stops then
      return (p.add n v).extend (← skipNodes clock runId rest)
    else
      runNodes runner clock runId (p.add n v) rest

@[simp] theorem runNodes_nil (runner : Runner σ) (clock : Act Failure σ Json) (runId : String)
    (p : Progress) : runNodes runner clock runId p [] = pure p := rfl

/-! ## Runs -/

/-- A trace that begins with a run id and a time, if they are texts. -/
def traceAt (runId started : Json) : Checked Trace :=
  (Except.ok fun runId startedAt => { runId, startedAt } : Checked (String → String → Trace))
    |> take ((readText runId).at (.name "run_id"))
    |> take ((readText started).at (.name "started_at"))

/-- A run with every collaborator at hand. -/
def runWith (runner : Runner σ) (clock runIds : Act Failure σ Json) (jobId : String) (plan : Plan) :
    Running σ RunResult := do
  let runId ← Logged.lift runIds
  let started ← Logged.lift clock
  let begun ← checkedAs Trace.recordName (traceAt runId started)
  Logged.note (.runStarted begun.runId jobId plan.order.length)
  let p ← runNodes runner clock begun.runId {} plan.order
  let finished ← Logged.lift clock
  let finishedAt ← checkedAs Trace.recordName
    ((readOptional readText finished).at (.name "finished_at"))
  Logged.note (.runFinished begun.runId p.hadFailures)
  return {
    trace := { begun with finishedAt, hadFailures := p.hadFailures, entries := p.entries }
    error := p.error }

/-- A collaborator that has to be there. -/
def present {α : Type} (what : String) : Option α → Running σ α
  | some a => pure a
  | none => Act.fail (.of .execution what)

/-- A run of a plan for a job.  The job counts by its id alone; without a job the id is empty. -/
def run (host : Host σ) (jobId : String) (plan : Option Plan) : Running σ RunResult := do
  let plan ← present "workflow plan is required" plan
  let runner ← present "workflow node runner is unavailable" host.runner
  let clock ← present "workflow clock helper is unavailable" host.clock
  let runIds ← present "workflow run id generator is unavailable" host.runIds
  runWith runner clock runIds jobId plan

end JobChain
