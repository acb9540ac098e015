import JobChain.Proofs.Plan.FirstFault
import Mathlib.Tactic.MkIffOfInductiveProp

/-!
# What a compilation accepts

A compilation has no fault to find in the nodes and edges of a workflow when each is sound by itself
and any two are apart: two nodes differ in their ids and are not both starts, two edges differ in
their ids, sources and targets.  What is left to check then is the chain.

* `Node.IsSound`, `Node.Apart`, `Edge.IsSound`, `Edge.Apart`: the conditions on nodes and edges.
* `planOf`: the plan of a workflow, without the record of what the callbacks were asked.
* `Compiles`: all that has to hold of a plan, and `planOf_eq_ok_iff`, that it is enough.
-/

namespace JobChain

/-! ## Types and conditions -/

/-- The types that are accepted beside that of a start: those that the callback supports, or the
three with a meaning of their own if there is no callback. -/
def Callbacks.Accepts (callbacks : Callbacks) (type : String) : Prop :=
  match callbacks.supports with
  | some supports => supports type = true
  | none => type = "text_event" ∨ type = "delay" ∨ type = "if_event"

/-- The conditions that the callback lets pass, which are all if there is none. -/
def Callbacks.Approves (callbacks : Callbacks) (condition : String) : Prop :=
  ∀ validate, callbacks.validate = some validate → validate condition = .ok ()

namespace NodeKind

theorem ofType_eq_start_iff {type : String} : ofType type = start ↔ type = "start" := by
  unfold ofType startType
  split_ifs with h <;> simp [h]

theorem ofType_eq_textEvent_iff {type : String} :
    ofType type = textEvent ↔ type = "text_event" := by
  unfold ofType startType textEventType
  split_ifs with h₁ h₂ <;> simp_all

theorem ofType_eq_delay_iff {type : String} : ofType type = delay ↔ type = "delay" := by
  unfold ofType startType textEventType delayType
  split_ifs with h₁ h₂ h₃ <;> simp_all

theorem ofType_eq_ifEvent_iff {type : String} : ofType type = ifEvent ↔ type = "if_event" := by
  unfold ofType startType textEventType delayType ifEventType
  split_ifs with h₁ h₂ h₃ h₄ <;> simp_all

theorem ofType_ne_custom_iff {type : String} :
    ofType type ≠ custom ↔
      type = "start" ∨ type = "text_event" ∨ type = "delay" ∨ type = "if_event" := by
  unfold ofType startType textEventType delayType ifEventType
  split_ifs with h₁ h₂ h₃ h₄ <;> simp_all

end NodeKind

/-! ## Nodes -/

/-- A node in normal form that is right by itself. -/
@[mk_iff]
structure Node.IsSound (callbacks : Callbacks) (n : Node) : Prop where
  id_ne : n.id ≠ ""
  accepted : n.kind ≠ .start → callbacks.Accepts n.type
  text_ne : n.kind = .textEvent → n.text ≠ ""
  delay_nonneg : n.kind = .delay → 0 ≤ n.delaySeconds
  approved : n.kind = .ifEvent → callbacks.Approves n.ifCondition

/-- Two nodes that can be in one workflow. -/
def Node.Apart (m n : Node) : Prop := m.id ≠ n.id ∧ ¬(m.kind = .start ∧ n.kind = .start)

section Nodes

variable {callbacks : Callbacks}

theorem conditionFault?_eq_none_iff {n : Node} :
    conditionFault? callbacks n = none ↔ callbacks.Approves n.ifCondition := by
  unfold conditionFault? Callbacks.Approves
  cases callbacks.validate with
  | none => simp
  | some validate =>
    cases h : validate n.ifCondition with
    | ok => simp [h]
    | error failure => simp [h]

/-- The supported types and the kind of a node accept its type together. -/
theorem supportFault?_eq_none_iff {n : Node} (hn : n.kind ≠ .start) :
    supportFault? callbacks n = none ∧ (n.kind = .custom → callbacks.supports.isNone = false) ↔
      callbacks.Accepts n.type := by
  unfold supportFault? Callbacks.Accepts
  cases callbacks.supports with
  | some supports => simp
  | none =>
    have h : n.type = "start" ∨ n.type = "text_event" ∨ n.type = "delay" ∨ n.type = "if_event" ↔
        NodeKind.ofType n.type ≠ .custom := NodeKind.ofType_ne_custom_iff.symm
    have hs : n.type ≠ "start" := fun hs => hn (NodeKind.ofType_eq_start_iff.mpr hs)
    simp only [hs, false_or] at h
    simp only [true_and, Option.isNone_none, Bool.true_eq_false, imp_false, h]
    rfl

/-- What the kind of a node asks for, its type aside. -/
theorem kindFault?_eq_none_iff {earlier : List Node} {n : Node} :
    kindFault? callbacks earlier n = none ↔
      (n.kind = .start → ∀ m ∈ earlier, m.kind ≠ .start) ∧
      (n.kind = .textEvent → n.text ≠ "") ∧ (n.kind = .delay → 0 ≤ n.delaySeconds) ∧
      (n.kind = .ifEvent → callbacks.Approves n.ifCondition) ∧
      (n.kind = .custom → callbacks.supports.isNone = false) := by
  unfold kindFault?
  cases n.kind with
  | ifEvent => simp [conditionFault?_eq_none_iff]
  | custom => cases callbacks.supports <;> simp
  | _ => simp

theorem nodeFault?_eq_none_iff {earlier : List Node} {n : Node} :
    nodeFault? callbacks earlier n = none ↔
      n.IsSound callbacks ∧ ∀ m ∈ earlier, m.Apart n := by
  have hnew : (earlier.any fun m => m.id == n.id) ≠ true ↔ ∀ m ∈ earlier, m.id ≠ n.id := by
    simp
  rw [nodeFault?, ite_some_eq_none_iff, ite_some_eq_none_iff, Option.or_eq_none_iff,
    kindFault?_eq_none_iff, ← ne_eq, ← ne_eq, hnew]
  by_cases hstart : n.kind = .start
  · rw [if_pos hstart]
    have hcustom : n.kind ≠ .custom := by rw [hstart]; exact NodeKind.noConfusion
    constructor
    · rintro ⟨hid, hids, -, hone, htext, hdelay, happroved, -⟩
      exact ⟨⟨hid, fun h => absurd hstart h, htext, hdelay, happroved⟩,
        fun m hm => ⟨hids m hm, fun h => hone hstart m hm h.1⟩⟩
    · rintro ⟨⟨hid, -, htext, hdelay, happroved⟩, hapart⟩
      exact ⟨hid, fun m hm => (hapart m hm).1, rfl,
        fun _ m hm hmstart => (hapart m hm).2 ⟨hmstart, hstart⟩, htext, hdelay, happroved,
        fun h => absurd h hcustom⟩
  · rw [if_neg hstart]
    constructor
    · rintro ⟨hid, hids, hsupport, -, htext, hdelay, happroved, hcustom⟩
      exact ⟨⟨hid, fun _ => (supportFault?_eq_none_iff hstart).mp ⟨hsupport, hcustom⟩, htext,
        hdelay, happroved⟩, fun m hm => ⟨hids m hm, fun h => hstart h.2⟩⟩
    · rintro ⟨⟨hid, haccepted, htext, hdelay, happroved⟩, hapart⟩
      obtain ⟨hsupport, hcustom⟩ := (supportFault?_eq_none_iff hstart).mpr (haccepted hstart)
      exact ⟨hid, fun m hm => (hapart m hm).1, hsupport, fun h => absurd h hstart, htext, hdelay,
        happroved, hcustom⟩

end Nodes

/-! ## Edges -/

/-- An edge in normal form that is right by itself, between two of the nodes. -/
structure Edge.IsSound (nodes : List Node) (e : Edge) : Prop where
  id_ne : e.id ≠ ""
  source_ne : e.source ≠ ""
  target_ne : e.target ≠ ""
  not_loop : e.source ≠ e.target
  source_mem : e.source ∈ nodes.map (·.id)
  target_mem : e.target ∈ nodes.map (·.id)

/-- Two edges that can be in one workflow. -/
def Edge.Apart (e f : Edge) : Prop := e.id ≠ f.id ∧ e.source ≠ f.source ∧ e.target ≠ f.target

theorem hasNode_iff {nodes : List Node} {id : String} :
    hasNode nodes id = true ↔ id ∈ nodes.map (·.id) := by
  simp [hasNode]

theorem edgeFault?_eq_none_iff {nodes : List Node} {earlier : List Edge} {e : Edge} :
    edgeFault? nodes earlier e = none ↔ e.IsSound nodes ∧ ∀ f ∈ earlier, f.Apart e := by
  have hnone (field : Edge → String) (s : String) :
      (earlier.any fun f => field f == s) ≠ true ↔ ∀ f ∈ earlier, field f ≠ s := by
    simp
  simp only [edgeFault?, ite_some_eq_none_iff, ← ne_eq, hnone Edge.id, hnone Edge.source,
    hnone Edge.target, not_or, Bool.not_eq_true', Bool.not_eq_false, hasNode_iff, and_true]
  constructor
  · rintro ⟨hid, hids, ⟨hsource, htarget⟩, hloop, hfrom, hto, hsources, htargets⟩
    exact ⟨⟨hid, hsource, htarget, hloop, hfrom, hto⟩,
      fun f hf => ⟨hids f hf, hsources f hf, htargets f hf⟩⟩
  · rintro ⟨⟨hid, hsource, htarget, hloop, hfrom, hto⟩, hapart⟩
    exact ⟨hid, fun f hf => (hapart f hf).1, ⟨hsource, htarget⟩, hloop, hfrom, hto,
      fun f hf => (hapart f hf).2.1, fun f hf => (hapart f hf).2.2⟩

/-! ## Plans -/

/-- The nodes of a workflow in normal form. -/
def Workflow.normalNodes (w : Workflow) : List Node := w.nodes.map Node.normalized

/-- The edges of a workflow in normal form. -/
def Workflow.normalEdges (w : Workflow) : List Edge := w.edges.map Edge.normalized

/-- The plan of a workflow that has a given start and chain. -/
def Workflow.planWith (w : Workflow) (startId : String) (order : List Node) : Plan where
  workflow :=
    { version := supportedVersion
      viewport := w.viewport.map Viewport.normalized
      nodes := w.normalNodes
      edges := w.normalEdges }
  startId := startId
  nodes := nodeTable w.normalNodes
  next := nextTable w.normalEdges
  order := order

/-- The plan of a workflow, without the record of what the callbacks were asked. -/
def planOf (callbacks : Callbacks) (w : Workflow) : Except CompileStop Plan :=
  (compilePayload callbacks (some (.ready w)) {}).1

/-- The checks of a compilation in their order, on the normal forms of nodes and edges. -/
theorem planOf_eq (callbacks : Callbacks) (w : Workflow) :
    planOf callbacks w =
      if Text.normal w.version ≠ supportedVersion then .error (.refused (.version w.version))
      else if w.nodes.length < 2 then .error (.refused .tooFewNodes)
      else if w.edges = [] then .error (.refused .noEdges)
      else (unlessFault (firstFault? (nodeFault? callbacks) [] w.normalNodes) ()).bind fun _ =>
        match w.normalNodes.find? fun n => n.kind == .start with
        | none => .error (.refused .startNotUnique)
        | some start =>
          (unlessFault ((firstFault? (edgeFault? w.normalNodes) [] w.normalEdges).map
            CompileStop.refused) ()).bind fun _ =>
              (chainOf w.normalNodes w.normalEdges start.id).map (w.planWith start.id) := by
  have hnodes : (callbacks.checks.admitNodes [] w.nodes {}).1 =
      unlessFault (firstFault? (nodeFault? callbacks) [] w.normalNodes) w.normalNodes :=
    fst_admitNodes callbacks [] w.nodes {}
  have hedges : admitEdges w.normalNodes [] w.edges =
      unlessFault (firstFault? (edgeFault? w.normalNodes) [] w.normalEdges) w.normalEdges :=
    admitEdges_eq w.normalNodes [] w.edges
  show (compile callbacks w {}).1 = _
  rw [compile, Checks.compile_eq]
  simp only [fst_refuseIf_bind, bne_iff_ne, decide_eq_true_eq, List.isEmpty_iff]
  refine if_congr Iff.rfl rfl (if_congr Iff.rfl rfl (if_congr Iff.rfl rfl ?_))
  rw [fst_bind hnodes]
  cases firstFault? (nodeFault? callbacks) [] w.normalNodes with
  | some stop => rfl
  | none =>
    simp only [unlessFault_none, Except.bind]
    cases w.normalNodes.find? fun n => n.kind == .start with
    | none => rfl
    | some start =>
      simp only [hedges]
      cases firstFault? (edgeFault? w.normalNodes) [] w.normalEdges with
      | some reason => rfl
      | none =>
        simp only [Option.map_none, unlessFault_none, Except.mapError]
        show ((Act.ofExcept (chainOf w.normalNodes w.normalEdges start.id) >>= fun order =>
          pure (w.planWith start.id order)) (callbacks.checks.admitNodes [] w.nodes {}).2).1 = _
        cases chainOf w.normalNodes w.normalEdges start.id <;> rfl

instance : Std.Symm Node.Apart where
  symm _ _ h := ⟨h.1.symm, fun hstart => h.2 hstart.symm⟩

/-- Nodes that are apart have one start at most. -/
theorem eq_of_isStart {nodes : List Node} (h : nodes.Pairwise Node.Apart) {m n : Node}
    (hm : m ∈ nodes) (hn : n ∈ nodes) (hmstart : m.kind = .start) (hnstart : n.kind = .start) :
    m = n := by
  by_contra hne
  exact (h.forall hm hn hne).2 ⟨hmstart, hnstart⟩

/-- All that has to hold of a plan for a workflow to be compiled to it. -/
structure Compiles (callbacks : Callbacks) (w : Workflow) (p : Plan) : Prop where
  version : Text.normal w.version = supportedVersion
  two_le : 2 ≤ w.nodes.length
  edges_ne : w.edges ≠ []
  node_sound : ∀ n ∈ w.normalNodes, n.IsSound callbacks
  node_apart : w.normalNodes.Pairwise Node.Apart
  start : ∃ s ∈ w.normalNodes, s.kind = .start ∧ s.id = p.startId
  edge_sound : ∀ e ∈ w.normalEdges, e.IsSound w.normalNodes
  edge_apart : w.normalEdges.Pairwise Edge.Apart
  chain : chainOf w.normalNodes w.normalEdges p.startId = .ok p.order
  parts : p = w.planWith p.startId p.order

theorem Compiles.workflow_nodes {callbacks : Callbacks} {w : Workflow} {p : Plan}
    (h : Compiles callbacks w p) : p.workflow.nodes = w.normalNodes :=
  congrArg (fun p : Plan => p.workflow.nodes) h.parts

/-- A workflow is compiled to a plan iff all of it is sound and apart and the plan is its chain. -/
theorem planOf_eq_ok_iff {callbacks : Callbacks} {w : Workflow} {p : Plan} :
    planOf callbacks w = .ok p ↔ Compiles callbacks w p := by
  have hnodes := firstFault?_eq_none_iff
    (fun earlier n => @nodeFault?_eq_none_iff callbacks earlier n) w.normalNodes
  have hedges := firstFault?_eq_none_iff
    (fun earlier e => @edgeFault?_eq_none_iff w.normalNodes earlier e) w.normalEdges
  rw [planOf_eq, ite_error_eq_ok_iff, ite_error_eq_ok_iff, ite_error_eq_ok_iff,
    unlessFault_bind_eq_ok_iff, hnodes, not_not, Nat.not_lt]
  constructor
  · rintro ⟨hversion, htwo, hne, ⟨hsound, hapart⟩, h⟩
    cases hfind : w.normalNodes.find? fun n => n.kind == .start with
    | none => rw [hfind] at h; cases h
    | some s =>
      rw [hfind] at h
      obtain ⟨hfault, h⟩ := unlessFault_bind_eq_ok_iff.mp h
      obtain ⟨hesound, heapart⟩ := hedges.mp (Option.map_eq_none_iff.mp hfault)
      cases hchain : chainOf w.normalNodes w.normalEdges s.id with
      | error stop => rw [hchain] at h; cases h
      | ok order =>
        rw [hchain] at h
        cases h
        exact ⟨hversion, htwo, hne, hsound, hapart,
          ⟨s, List.mem_of_find?_eq_some hfind, by simpa using List.find?_some hfind, rfl⟩,
          hesound, heapart, hchain, rfl⟩
  · rintro ⟨hversion, htwo, hne, hsound, hapart, ⟨s, hs, hstart, hid⟩, hesound, heapart, hchain,
      hparts⟩
    refine ⟨hversion, htwo, hne, ⟨hsound, hapart⟩, ?_⟩
    cases hfind : w.normalNodes.find? fun n => n.kind == .start with
    | none => exact absurd hstart (by simpa using List.find?_eq_none.mp hfind s hs)
    | some s' =>
      have hs' : s' = s := eq_of_isStart hapart (List.mem_of_find?_eq_some hfind) hs
        (by simpa using List.find?_some hfind) hstart
      have hfault := Option.map_eq_none_iff (f := CompileStop.refused) |>.mpr
        (hedges.mpr ⟨hesound, heapart⟩)
      refine unlessFault_bind_eq_ok_iff.mpr ⟨hfault, ?_⟩
      rw [hs', hid, hchain]
      exact congrArg Except.ok hparts.symm

end JobChain
