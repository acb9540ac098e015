import JobChain.Text.Blank
import JobChain.Text.Lowercase
import JobChain.Workflow.Basic

/-!
# Normal forms

Compiling a workflow first brings its parts into a normal form.  Texts are trimmed, types are put in
lower case as well, and a node loses the fields that mean nothing for its type.

* `Node.normalized`: the normal form of a node.
* `Edge.normalized`, `Viewport.normalized`: those of edges and viewports.
-/

namespace JobChain

/-- A text trimmed and in lower case. -/
def Text.normal (s : String) : String := lower (trim s)

/-- The kinds of nodes: four with a meaning of their own, and all others. -/
inductive NodeKind where
  | start
  | textEvent
  | delay
  | ifEvent
  | custom
deriving DecidableEq, Repr

/-- The type that begins a chain. -/
def startType : String := "start"

/-- The type of nodes that deliver a text. -/
def textEventType : String := "text_event"

/-- The type of nodes that wait. -/
def delayType : String := "delay"

/-- The type of nodes that test a condition. -/
def ifEventType : String := "if_event"

/-- The kind of the nodes of a type. -/
def NodeKind.ofType (type : String) : NodeKind :=
  if type = startType then start
  else if type = textEventType then textEvent
  else if type = delayType then delay
  else if type = ifEventType then ifEvent
  else custom

/-- The kind of a node in normal form. -/
def Node.kind (n : Node) : NodeKind := NodeKind.ofType n.type

/-- A node with its texts trimmed and its type in lower case. -/
def Node.trimmed (n : Node) : Node :=
  { n with
    id := Text.trim n.id
    type := Text.normal n.type
    title := Text.trim n.title
    text := Text.trim n.text
    ifCondition := Text.trim n.ifCondition }

/-- A node without the fields that mean nothing for its kind. -/
def Node.cleared (n : Node) : Node :=
  match n.kind with
  | .start => { n with continueOnError := false, delaySeconds := 0, text := "", ifCondition := "" }
  | .textEvent => { n with delaySeconds := 0, ifCondition := "" }
  | .delay => { n with text := "", ifCondition := "" }
  | .ifEvent => { n with text := "", delaySeconds := 0 }
  | .custom => n

/-- The normal form of a node. -/
def Node.normalized (n : Node) : Node := n.trimmed.cleared

/-- The normal form of an edge. -/
def Edge.normalized (e : Edge) : Edge :=
  { id := Text.trim e.id, source := Text.trim e.source, target := Text.trim e.target }

/-- The normal form of a viewport: a scale that is not positive becomes one. -/
def Viewport.normalized (v : Viewport) : Viewport :=
  if v.zoom.isNonPositive then { v with zoom := .one } else v

@[simp] theorem Node.id_cleared (n : Node) : n.cleared.id = n.id := by
  unfold Node.cleared
  split <;> rfl

@[simp] theorem Node.type_cleared (n : Node) : n.cleared.type = n.type := by
  unfold Node.cleared
  split <;> rfl

@[simp] theorem Node.id_normalized (n : Node) : n.normalized.id = Text.trim n.id := by
  simp [Node.normalized, Node.trimmed]

@[simp] theorem Node.type_normalized (n : Node) : n.normalized.type = Text.normal n.type := by
  simp [Node.normalized, Node.trimmed]

end JobChain
