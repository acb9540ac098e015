import JobChain.Schema.Record
import JobChain.Schema.Scalar
import JobChain.Workflow.Basic

/-!
# Workflows as values

The reading of a workflow and of its parts from JSON values, and their form as values with every
field written out.  All four records are strict: a member that they do not declare is an issue.

* `Workflow.read`, `Node.read`, `Edge.read`, `Viewport.read`: the readings.
* `Workflow.toJson` and its like: the values.
-/

namespace JobChain

open Schema (Checked field readText readInteger readNumber readTruth)
open Schema.Checked (take withIssues)

/-! ## Viewports -/

/-- The fields of a viewport. -/
def Viewport.fields : List String := ["pan_x", "pan_y", "zoom"]

/-- A viewport from the members of an object. -/
def Viewport.ofMembers (ms : Table Json) : Checked Viewport :=
  (Except.ok Viewport.mk : Checked _)
    |> take (field ms "pan_x" readNumber .zero)
    |> take (field ms "pan_y" readNumber .zero)
    |> take (field ms "zoom" readNumber .zero)
    |> withIssues (Schema.undeclared fields ms)

/-- A viewport from a value. -/
def Viewport.read : Json → Checked Viewport := Schema.record "WorkflowViewport" Viewport.ofMembers

/-- The value of a viewport. -/
def Viewport.toJson (v : Viewport) : Json :=
  .object [("pan_x", .float v.panX), ("pan_y", .float v.panY), ("zoom", .float v.zoom)]

/-! ## Nodes -/

/-- The fields of a node. -/
def Node.fields : List String :=
  ["id", "type", "title", "x", "y", "text", "delay_seconds", "if_condition", "continue_on_error"]

/-- A node from the members of an object. -/
def Node.ofMembers (ms : Table Json) : Checked Node :=
  (Except.ok Node.mk : Checked _)
    |> take (field ms "id" readText "")
    |> take (field ms "type" readText "")
    |> take (field ms "title" readText "")
    |> take (field ms "x" readNumber .zero)
    |> take (field ms "y" readNumber .zero)
    |> take (field ms "text" readText "")
    |> take (field ms "delay_seconds" readInteger 0)
    |> take (field ms "if_condition" readText "")
    |> take (field ms "continue_on_error" readTruth false)
    |> withIssues (Schema.undeclared fields ms)

/-- A node from a value. -/
def Node.read : Json → Checked Node := Schema.record "WorkflowNode" Node.ofMembers

/-- The value of a node. -/
def Node.toJson (n : Node) : Json :=
  .object [("id", .string n.id), ("type", .string n.type), ("title", .string n.title),
    ("x", .float n.x), ("y", .float n.y), ("text", .string n.text),
    ("delay_seconds", .int n.delaySeconds), ("if_condition", .string n.ifCondition),
    ("continue_on_error", .bool n.continueOnError)]

/-! ## Edges -/

/-- The fields of an edge. -/
def Edge.fields : List String := ["id", "source", "target"]

/-- An edge from the members of an object. -/
def Edge.ofMembers (ms : Table Json) : Checked Edge :=
  (Except.ok Edge.mk : Checked _)
    |> take (field ms "id" readText "")
    |> take (field ms "source" readText "")
    |> take (field ms "target" readText "")
    |> withIssues (Schema.undeclared fields ms)

/-- An edge from a value. -/
def Edge.read : Json → Checked Edge := Schema.record "WorkflowEdge" Edge.ofMembers

/-- The value of an edge. -/
def Edge.toJson (e : Edge) : Json :=
  .object [("id", .string e.id), ("source", .string e.source), ("target", .string e.target)]

/-! ## Workflows -/

/-- The fields of a workflow. -/
def Workflow.fields : List String := ["version", "viewport", "nodes", "edges"]

/-- A workflow from the members of an object. -/
def Workflow.ofMembers (ms : Table Json) : Checked Workflow :=
  (Except.ok Workflow.mk : Checked _)
    |> take (field ms "version" readText "")
    |> take (field ms "viewport" (Schema.readOptional Viewport.read) none)
    |> take (field ms "nodes" (Schema.readEach .tuple Node.read) [])
    |> take (field ms "edges" (Schema.readEach .tuple Edge.read) [])
    |> withIssues (Schema.undeclared fields ms)

/-- A workflow from a value. -/
def Workflow.read : Json → Checked Workflow := Schema.record "WorkflowSpec" Workflow.ofMembers

/-- The value of a workflow. -/
def Workflow.toJson (w : Workflow) : Json :=
  .object [("version", .string w.version),
    ("viewport", (w.viewport.map Viewport.toJson).getD .null),
    ("nodes", .array (w.nodes.map Node.toJson)), ("edges", .array (w.edges.map Edge.toJson))]

end JobChain
