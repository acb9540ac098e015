import JobChain.Proofs.Plan.Consistency
import JobChain.Proofs.Text.Normal

/-!
# Compiling a compiled workflow

The workflow in a plan is in normal form, and compiling looks at a workflow in normal form only.  So
compiling the workflow of a plan goes the way that compiling the first workflow has gone, step by
step: it asks the callbacks the same questions in the same order and comes to the same plan.

* `Node.normalized_normalized`, `Edge.normalized_normalized`, `Viewport.normalized_normalized`:
  normal forms are their own normal forms.
* `Workflow.Agrees`: two workflows have the same normal form, and `compile_congr`: they are compiled
  alike.
* `compilePayload_workflow`: the workflow of a plan is compiled to that plan.
-/

namespace JobChain

/-! ## Normal forms of normal forms -/

/-- The normal form of a node is its own normal form: its texts are trimmed, its type is in lower
case, and the fields that its type clears are clear. -/
@[simp] theorem Node.normalized_normalized (n : Node) : n.normalized.normalized = n.normalized := by
  have hclear {c : Prop} [Decidable c] (s : String) :
      (if c then "" else Text.trim (if c then "" else Text.trim s)) =
        if c then "" else Text.trim s := by
    split_ifs <;> simp
  have hzero {c : Prop} [Decidable c] (d : Int) :
      (if c then 0 else if c then 0 else d) = if c then 0 else d := by
    split_ifs <;> rfl
  have hoff {c : Prop} [Decidable c] (b : Bool) :
      (if c then false else if c then false else b) = if c then false else b := by
    split_ifs <;> rfl
  rw [Node.normalized_eq_fieldwise n, Node.normalized_eq_fieldwise]
  simp only [Node.fieldwise, Text.trim_trim, Text.normal_normal, hclear, hzero, hoff]

@[simp] theorem Edge.normalized_normalized (e : Edge) : e.normalized.normalized = e.normalized := by
  simp [Edge.normalized]

/-- A scale that has become one is positive, and any other is left alone. -/
@[simp] theorem Viewport.normalized_normalized (v : Viewport) :
    v.normalized.normalized = v.normalized := by
  have hone : Binary64.one.isNonPositive = false := by decide
  cases hzoom : v.zoom.isNonPositive with
  | true => simp [Viewport.normalized, hzoom, hone]
  | false => simp [Viewport.normalized, hzoom]

/-! ## Workflows with the same normal form -/

/-- Two workflows have the same normal form. -/
structure Workflow.Agrees (w w' : Workflow) : Prop where
  version : Text.normal w.version = Text.normal w'.version
  viewport : w.viewport.map Viewport.normalized = w'.viewport.map Viewport.normalized
  nodes : w.normalNodes = w'.normalNodes
  edges : w.normalEdges = w'.normalEdges

section Congruence

variable {callbacks : Callbacks}

/-- Compiling a node looks at its normal form only. -/
theorem admitNode_congr {raw raw' : Node} (h : raw.normalized = raw'.normalized)
    (earlier : List Node) :
    callbacks.checks.admitNode earlier raw = callbacks.checks.admitNode earlier raw' := by
  unfold Checks.admitNode
  rw [h]

theorem admitNodes_congr {raws raws' : List Node}
    (h : raws.map Node.normalized = raws'.map Node.normalized) (earlier : List Node) :
    callbacks.checks.admitNodes earlier raws = callbacks.checks.admitNodes earlier raws' := by
  induction raws generalizing raws' earlier with
  | nil =>
    have hnil : raws' = [] := List.map_eq_nil_iff.mp h.symm
    rw [hnil]
  | cons raw rest ih =>
    obtain ⟨raw', rest', rfl, hraw, hrest⟩ := List.map_eq_cons_iff.mp h.symm
    rw [Checks.admitNodes, Checks.admitNodes, admitNode_congr hraw.symm earlier]
    exact congrArg _ (funext fun n => ih hrest.symm _)

/-- Workflows with the same normal form are compiled alike, if their version is supported.  The
refusal of another version would show it as it was written. -/
theorem compile_congr {w w' : Workflow} (h : w.Agrees w')
    (hversion : Text.normal w.version = supportedVersion) :
    compile callbacks w = compile callbacks w' := by
  have hversion' : Text.normal w'.version = supportedVersion := by rw [← h.version, hversion]
  have hlength : w.nodes.length = w'.nodes.length := by
    have hnodes := congrArg List.length h.nodes
    rwa [Workflow.normalNodes, Workflow.normalNodes, List.length_map, List.length_map] at hnodes
  have hempty : w.edges.isEmpty = w'.edges.isEmpty := by
    have hedges := congrArg List.isEmpty h.edges
    rwa [Workflow.normalEdges, Workflow.normalEdges, List.isEmpty_map, List.isEmpty_map] at hedges
  have hnodes : callbacks.checks.admitNodes [] w.nodes = callbacks.checks.admitNodes [] w'.nodes :=
    admitNodes_congr h.nodes []
  have hedges (nodes : List Node) : admitEdges nodes [] w.edges = admitEdges nodes [] w'.edges := by
    have hnormal : w.edges.map Edge.normalized = w'.edges.map Edge.normalized := h.edges
    rw [admitEdges_eq, admitEdges_eq, hnormal]
  rw [compile, compile, Checks.compile_eq, Checks.compile_eq, hversion, hversion', hlength, hempty,
    hnodes, h.viewport]
  simp only [hedges, bne_self_eq_false, refuseIf, Bool.false_eq_true, if_false]

end Congruence

/-! ## Plans -/

section Plan

variable {callbacks : Callbacks} {w : Workflow} {p : Plan}

/-- The workflow in a plan has the normal form of the one that was compiled. -/
theorem Compiles.agrees (h : Compiles callbacks w p) : w.Agrees p.workflow := by
  rw [h.parts]
  constructor
  case version =>
    have hnormal : Text.normal supportedVersion = supportedVersion := by decide +kernel
    exact h.version.trans hnormal.symm
  case viewport =>
    show w.viewport.map Viewport.normalized =
      (w.viewport.map Viewport.normalized).map Viewport.normalized
    simp [Function.comp_def]
  case nodes =>
    show w.normalNodes = (w.nodes.map Node.normalized).map Node.normalized
    simp [Workflow.normalNodes]
  case edges =>
    show w.normalEdges = (w.edges.map Edge.normalized).map Edge.normalized
    simp [Workflow.normalEdges]

/-- The workflow of a plan is compiled to that plan, and the callbacks are asked what they were
asked before, whether the plan came from a workflow or from what is read as one. -/
theorem compilePayload_workflow {payload : Option (Payload Workflow)} {calls : Calls}
    (h : compilePayload callbacks payload {} = (.ok p, calls)) :
    compilePayload callbacks (some (.ready p.workflow)) {} = (.ok p, calls) := by
  have hfst : (compilePayload callbacks payload {}).1 = .ok p := congrArg Prod.fst h
  obtain ⟨input, w, rfl, hload, hp⟩ := exists_planOf_of_compilePayload hfst
  have hcompiles := planOf_eq_ok_iff.mp hp
  have hcompile : compilePayload callbacks (some input) = compile callbacks w := by
    rw [compilePayload, hload]
  rw [hcompile, compile_congr hcompiles.agrees hcompiles.version] at h
  exact h

end Plan

theorem compilePayload_workflow_scrambledWorkflow :
    ∃ p calls, calls.supports = ["if_event", "delay", "text_event"] ∧
      compilePayload { supports := some fun _ => true } (some (.ready scrambledWorkflow)) {} =
        (.ok p, calls) ∧
      compilePayload { supports := some fun _ => true } (some (.ready p.workflow)) {} =
        (.ok p, calls) := by
  have hok : (compilePayload { supports := some fun _ => true } (some (.ready scrambledWorkflow))
      {}).1.toOption.isSome = true := by decide +kernel
  have hcalls : (compilePayload { supports := some fun _ => true }
      (some (.ready scrambledWorkflow)) {}).2.supports = ["if_event", "delay", "text_event"] := by
    decide +kernel
  cases hrun : compilePayload { supports := some fun _ => true }
      (some (.ready scrambledWorkflow)) {} with
  | mk result calls =>
    rw [hrun] at hok hcalls
    cases result with
    | error stop => cases hok
    | ok p => exact ⟨p, calls, hcalls, rfl, compilePayload_workflow hrun⟩

end JobChain
