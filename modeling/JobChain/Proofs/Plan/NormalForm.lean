import JobChain.Proofs.Plan.Admission

/-!
# Normal forms, field by field

Compiling a node clears the fields that mean nothing for its kind, one kind at a time.  Read the
other way, each field is kept by some types and cleared by the others, and this is the form in which
the fields of a compiled node are looked up.

* `Node.fieldwise`: the normal form of a node, told by its fields.
* `Node.normalized_eq_fieldwise`: it is what compiling a node makes of it.
-/

namespace JobChain

/-- The normal form of a node, told by its fields: texts are trimmed, the type is in lower case as
well, and a field is cleared for the types that it is foreign to. -/
def Node.fieldwise (n : Node) : Node where
  id := Text.trim n.id
  type := Text.normal n.type
  title := Text.trim n.title
  x := n.x
  y := n.y
  text := if Text.normal n.type ∈ ["start", "delay", "if_event"] then "" else Text.trim n.text
  delaySeconds :=
    if Text.normal n.type ∈ ["start", "text_event", "if_event"] then 0 else n.delaySeconds
  ifCondition :=
    if Text.normal n.type ∈ ["start", "text_event", "delay"] then "" else Text.trim n.ifCondition
  continueOnError := if Text.normal n.type = "start" then false else n.continueOnError

theorem Node.kind_normalized (n : Node) : n.normalized.kind = .ofType (Text.normal n.type) := by
  rw [Node.kind, Node.type_normalized]

/-- Clearing by kind and clearing by field come to the same. -/
theorem Node.normalized_eq_fieldwise (n : Node) : n.normalized = n.fieldwise := by
  unfold Node.normalized Node.cleared Node.fieldwise
  have hkind : n.trimmed.kind = .ofType (Text.normal n.type) := rfl
  cases h : n.trimmed.kind with
  | start =>
    have htype := NodeKind.ofType_eq_start_iff.mp (hkind.symm.trans h)
    simp [Node.trimmed, htype]
  | textEvent =>
    have htype := NodeKind.ofType_eq_textEvent_iff.mp (hkind.symm.trans h)
    simp [Node.trimmed, htype]
  | delay =>
    have htype := NodeKind.ofType_eq_delay_iff.mp (hkind.symm.trans h)
    simp [Node.trimmed, htype]
  | ifEvent =>
    have htype := NodeKind.ofType_eq_ifEvent_iff.mp (hkind.symm.trans h)
    simp [Node.trimmed, htype]
  | custom =>
    have htype := mt NodeKind.ofType_ne_custom_iff.mpr (not_not_intro (hkind.symm.trans h))
    simp only [not_or] at htype
    simp [Node.trimmed, htype]

/-- The text of a node that delivers one is only trimmed. -/
theorem Node.text_normalized {n : Node} (h : Text.normal n.type = "text_event") :
    n.normalized.text = Text.trim n.text := by
  rw [n.normalized_eq_fieldwise]
  simp [Node.fieldwise, h]

/-- The delay of a node that waits is kept. -/
theorem Node.delaySeconds_normalized {n : Node} (h : Text.normal n.type = "delay") :
    n.normalized.delaySeconds = n.delaySeconds := by
  rw [n.normalized_eq_fieldwise]
  simp [Node.fieldwise, h]

/-- The condition of a node that tests one is only trimmed. -/
theorem Node.ifCondition_normalized {n : Node} (h : Text.normal n.type = "if_event") :
    n.normalized.ifCondition = Text.trim n.ifCondition := by
  rw [n.normalized_eq_fieldwise]
  simp [Node.fieldwise, h]

/-! ## The nodes and edges of a workflow -/

section Workflow

variable {callbacks : Callbacks} {w : Workflow}

theorem map_id_normalNodes :
    w.normalNodes.map (·.id) = w.nodes.map fun n => Text.trim n.id := by
  simp [Workflow.normalNodes]

theorem nextTable_normalEdges :
    nextTable w.normalEdges = w.edges.map fun e => (Text.trim e.source, Text.trim e.target) := by
  simp [nextTable, Workflow.normalEdges, Edge.normalized]

/-- When the normal form of a node is sound, told of the node as it was written. -/
theorem Node.isSound_normalized_iff {n : Node} :
    n.normalized.IsSound callbacks ↔ Text.trim n.id ≠ "" ∧
      (Text.normal n.type ≠ "start" → callbacks.Accepts (Text.normal n.type)) ∧
      (Text.normal n.type = "text_event" → Text.trim n.text ≠ "") ∧
      (Text.normal n.type = "delay" → 0 ≤ n.delaySeconds) ∧
      (Text.normal n.type = "if_event" → callbacks.Approves (Text.trim n.ifCondition)) := by
  rw [Node.isSound_iff, Node.id_normalized, Node.type_normalized, Node.kind_normalized,
    ne_eq (NodeKind.ofType _), NodeKind.ofType_eq_start_iff, NodeKind.ofType_eq_textEvent_iff,
    NodeKind.ofType_eq_delay_iff, NodeKind.ofType_eq_ifEvent_iff]
  refine and_congr_right fun _ => and_congr_right fun _ => and_congr ?_ (and_congr ?_ ?_)
  · exact forall_congr' fun h => by rw [Node.text_normalized h]
  · exact forall_congr' fun h => by rw [Node.delaySeconds_normalized h]
  · exact forall_congr' fun h => by rw [Node.ifCondition_normalized h]

end Workflow

end JobChain
