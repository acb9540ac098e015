import JobChain.Act
import JobChain.Plan.Basic
import JobChain.Plan.Chain

/-!
# Compiling workflows

A workflow has a plan when it is one chain: one start, at most one edge into and out of every node,
and every other node on the way from the start.  Compiling it reads nodes and edges in the order in
which they are listed and refuses the workflow at the first thing that is wrong.  What has been read
is kept in tables: the nodes by their ids, and for the edges the successors and how many edges lead
out of and into each node.

Two callbacks take part.  One decides which types are supported; without it only the three kinds
with a meaning of their own are.  The other checks conditions.  A compilation is told for any two
checks first, and then for those that callbacks make; these keep the arguments that the callbacks
are called with, on success and on failure.

* `Checks.indexNodes`, `indexEdges`: the nodes and the edges, one after another.
* `Checks.compile`: the plan of a workflow, with any checks.
* `compile`, `compilePayload`: with callbacks, and the plan of a payload.
-/

namespace JobChain

/-- What a compilation leaves to its callbacks: the check of the type of a node, that of its
condition, and whether types without a meaning of their own are ruled out. -/
structure Checks (ς : Type) where
  support : Node → Act CompileStop ς Unit
  condition : Node → Act CompileStop ς Unit
  closed : Bool

section Steps

variable {ς α : Type}

/-- Refuses the workflow. -/
def refuse (reason : Refusal) : Act CompileStop ς α := Act.fail (.refused reason)

/-- Refuses the workflow if something is wrong. -/
def refuseIf (wrong : Bool) (reason : Refusal) : Act CompileStop ς Unit :=
  if wrong then refuse reason else pure ()

end Steps

/-! ## Nodes -/

/-- What is known of some nodes: they themselves by their ids, and the id of their start, which is
empty as long as there is none. -/
structure NodeIndex where
  nodes : Table Node := []
  startId : String := ""

/-- What is known after one more node. -/
def NodeIndex.add (index : NodeIndex) (n : Node) : NodeIndex where
  nodes := index.nodes.put n.id n
  startId := if n.kind = .start then n.id else index.startId

section Nodes

variable {ς : Type} (checks : Checks ς)

/-- Checks what the kind of a node asks for. -/
def Checks.checkFields (n : Node) : Act CompileStop ς Unit :=
  match n.kind with
  | .start => pure ()
  | .textEvent => refuseIf (n.text == "") (.nodeWithoutText n.id)
  | .delay => refuseIf (decide (n.delaySeconds < 0)) (.nodeNegativeDelay n.id)
  | .ifEvent => checks.condition n
  | .custom => refuseIf checks.closed (.nodeUnsupported n.id n.type)

/-- The normal form of a node, given the nodes before it. -/
def Checks.normalizeNode (seen : Table Node) (raw : Node) : Act CompileStop ς Node := do
  let n := raw.normalized
  refuseIf (n.id == "") .nodeWithoutId
  refuseIf (seen.has n.id) (.nodeRepeated n.id)
  if n.kind ≠ .start then
    checks.support n
  checks.checkFields n
  return n

/-- What is known of nodes, given what is known of those before them. -/
def Checks.indexNodes (index : NodeIndex) : List Node → Act CompileStop ς NodeIndex
  | [] => pure index
  | raw :: rest => do
    let n ← checks.normalizeNode index.nodes raw
    refuseIf (n.kind == .start && index.startId != "") .startNotUnique
    indexNodes (index.add n) rest

end Nodes

/-! ## Edges -/

/-- How often something has been counted. -/
def Table.count (t : Table Nat) (name : String) : Nat := (t.get? name).getD 0

/-- What is known of some edges: they themselves, their ids, the successor of every node that has
one, and how many edges lead out of and into each node. -/
structure EdgeIndex where
  edges : List Edge := []
  ids : List String := []
  next : Table String := []
  outDegree : Table Nat := []
  inDegree : Table Nat := []

/-- What is known after one more edge in normal form, between some nodes. -/
def EdgeIndex.add (index : EdgeIndex) (nodes : Table Node) (e : Edge) :
    Except Refusal EdgeIndex :=
  let outDegree := index.outDegree.put e.source (index.outDegree.count e.source + 1)
  let inDegree := index.inDegree.put e.target (index.inDegree.count e.target + 1)
  if e.id = "" then .error .edgeWithoutId
  else if e.id ∈ index.ids then .error (.edgeRepeated e.id)
  else if e.source = "" ∨ e.target = "" then .error (.edgeOpen e.id)
  else if e.source = e.target then .error (.edgeLoop e.id)
  else if !nodes.has e.source then .error (.edgeSource e.id e.source)
  else if !nodes.has e.target then .error (.edgeTarget e.id e.target)
  else if 1 < outDegree.count e.source then .error (.outgoingRepeated e.source)
  else if 1 < inDegree.count e.target then .error (.incomingRepeated e.target)
  else
    .ok {
      edges := index.edges ++ [e]
      ids := index.ids ++ [e.id]
      next := index.next.put e.source e.target
      outDegree
      inDegree }

/-- What is known of edges between some nodes, given what is known of those before them. -/
def indexEdges (nodes : Table Node) (index : EdgeIndex) : List Edge → Except Refusal EdgeIndex
  | [] => .ok index
  | raw :: rest => do
    let index ← index.add nodes raw.normalized
    indexEdges nodes index rest

/-! ## Plans -/

/-- The first node, other than a start, that is not in the chain. -/
def unreachedNode? (nodes : Table Node) (order : List Node) : Option String :=
  let reachable := order.map (·.id)
  (nodes.find? fun e => e.2.kind != .start && !reachable.contains e.1).map (·.1)

/-- The version of workflows that this library compiles. -/
def supportedVersion : String := "v1"

/-- The plan of a workflow. -/
def Checks.compile {ς : Type} (checks : Checks ς) (w : Workflow) : Act CompileStop ς Plan := do
  refuseIf (Text.normal w.version != supportedVersion) (.version w.version)
  refuseIf (decide (w.nodes.length < 2)) .tooFewNodes
  refuseIf (decide (w.edges.length < 1)) .noEdges
  let index ← checks.indexNodes {} w.nodes
  refuseIf (index.startId == "") .startNotUnique
  let links ← Act.ofExcept ((indexEdges index.nodes {} w.edges).mapError .refused)
  refuseIf (decide (0 < links.inDegree.count index.startId)) .startHasIncoming
  refuseIf (links.outDegree.count index.startId == 0) .startHasNoOutgoing
  let order ← Act.ofExcept (walkChain index.nodes links.next index.startId)
  refuseIf order.isEmpty .emptyChain
  match unreachedNode? index.nodes order with
  | some id => refuse (.unreachable id)
  | none =>
    return {
      workflow :=
        { version := supportedVersion
          viewport := w.viewport.map Viewport.normalized
          nodes := index.nodes.map (·.2)
          edges := links.edges }
      startId := index.startId
      nodes := index.nodes
      next := links.next
      order }

/-! ## Callbacks -/

/-- The callbacks of a compilation. -/
structure Callbacks where
  supports : Option (String → Bool) := none
  validate : Option (String → Except Failure Unit) := none

/-- The arguments that the callbacks were called with, in order. -/
structure Calls where
  supports : List String := []
  validate : List String := []
deriving DecidableEq, Repr

/-- A step of a compilation with callbacks. -/
abbrev Compiling (α : Type) := Act CompileStop Calls α

/-- Asks whether a type is supported. -/
def askSupport (supports : String → Bool) (type : String) : Compiling Bool := do
  Act.modify fun calls => { calls with supports := calls.supports ++ [type] }
  return supports type

/-- Checks the type of a node against the supported ones. -/
def checkSupport (callbacks : Callbacks) (n : Node) : Compiling Unit :=
  match callbacks.supports with
  | none => pure ()
  | some supports => do
    refuseIf (!(← askSupport supports n.type)) (.nodeUnsupported n.id n.type)

/-- What a failure of the check of a condition ends the compilation with.  If it is ordinary, the
node is refused in its words, or what comes up in place of these ends the compilation; otherwise it
does so itself. -/
def conditionStop (nodeId : String) (failure : Failure) : CompileStop :=
  if failure.kind.isOrdinary then
    match failure.said with
    | .ok text => .refused (.nodeCondition nodeId text)
    | .error silence => .escaped silence
  else .escaped failure

/-- Checks the condition of a node. -/
def checkCondition (callbacks : Callbacks) (n : Node) : Compiling Unit :=
  match callbacks.validate with
  | none => pure ()
  | some validate => do
    Act.modify fun calls => { calls with validate := calls.validate ++ [n.ifCondition] }
    match validate n.ifCondition with
    | .ok () => pure ()
    | .error failure => Act.fail (conditionStop n.id failure)

/-- The checks that callbacks make. -/
def Callbacks.checks (callbacks : Callbacks) : Checks Calls where
  support := checkSupport callbacks
  condition := checkCondition callbacks
  closed := callbacks.supports.isNone

/-- The plan of a workflow. -/
def compile (callbacks : Callbacks) (w : Workflow) : Compiling Plan := callbacks.checks.compile w

/-- The plan of the workflow in a payload, if there is a payload. -/
def compilePayload (callbacks : Callbacks) : Option (Payload Workflow) → Compiling Plan
  | none => refuse .noWorkflow
  | some payload =>
    match payload.load Workflow.subject with
    | .error error => refuse (.payload error)
    | .ok w => compile callbacks w

end JobChain
