import JobChain.Proofs.Plan.SingleChain

/-!
# Compiled plans

A plan shows its chain in five ways: as nodes, as edges, as nodes by their ids, as successors and as
an order.  They come from different loops of the compilation, over lists that may be in any order,
and they agree.  Nothing of the workflow is lost on the way: nodes and edges stay in their places
and change only as their normal forms do.

* `Plan.Keeps`: the workflow in a plan is the one that was compiled, in normal form.
* `Plan.IsConsistent`: the views of a plan agree.
* `keeps_and_isConsistent_of_compilePayload`: both hold of every plan that a compilation yields.
-/

namespace JobChain

/-- The workflow in a plan is the one that was compiled, in normal form. -/
structure Plan.Keeps (p : Plan) (w : Workflow) : Prop where
  version : p.workflow.version = "v1"
  viewport : p.workflow.viewport = w.viewport.map fun v =>
    { panX := v.panX, panY := v.panY, zoom := if v.zoom.isNonPositive then .one else v.zoom }
  nodes : p.workflow.nodes = w.nodes.map Node.fieldwise
  edges : p.workflow.edges = w.edges.map fun e =>
    { id := Text.trim e.id, source := Text.trim e.source, target := Text.trim e.target }

/-- The views of a plan agree: its nodes and edges, its nodes by their ids, its successors, its
start and its order. -/
structure Plan.IsConsistent (p : Plan) : Prop where
  names_nodes : p.nodes.names = p.workflow.nodes.map (·.id)
  nodup_ids : (p.workflow.nodes.map (·.id)).Nodup
  node : ∀ n ∈ p.workflow.nodes, p.nodes.get? n.id = some n
  start : ∃ s ∈ p.workflow.nodes, s.id = p.startId ∧
    ∀ n ∈ p.workflow.nodes, n.type = "start" ↔ n = s
  order_ne : p.order ≠ []
  nodup_order : p.orderIds.Nodup
  mem_order : ∀ n, n ∈ p.order ↔ n ∈ p.workflow.nodes ∧ n.type ≠ "start"
  node_order : ∀ n ∈ p.order, p.nodes.get? n.id = some n
  next_edges : p.next = p.workflow.edges.map fun e => (e.source, e.target)
  nodup_sources : p.next.names.Nodup
  length_next : p.next.length = p.order.length
  next_start : p.next.get? p.startId = p.orderIds.head?
  next_order : ∀ i id, p.orderIds[i]? = some id → p.next.get? id = p.orderIds[i + 1]?

/-- If the successors are the links of a path, then each member of the path is followed by the next,
and the last by none. -/
theorem get?_of_perm_links {next : Table String} {path : List String} (hpath : path.Nodup)
    (hperm : next.Perm (links path)) {i : Nat} {id : String} (hid : path[i]? = some id) :
    next.get? id = path[i + 1]? := by
  have hfronts : next.names.Perm path.dropLast := by
    have h := hperm.map Prod.fst
    rwa [map_fst_links] at h
  have hnames : next.names.Nodup :=
    hfronts.nodup_iff.mpr (hpath.sublist (List.dropLast_sublist path))
  cases hnext : path[i + 1]? with
  | some id' =>
    rw [Table.get?_eq_some_iff hnames]
    exact hperm.mem_iff.mpr (mem_links_of_getElem? hid hnext)
  | none =>
    rw [Table.get?_eq_none_iff, hfronts.mem_iff]
    refine notMem_dropLast_of_getLast? hpath ?_
    have hlength := (List.getElem?_eq_some_iff.mp hid).1
    have hend := List.getElem?_eq_none_iff.mp hnext
    have hlast : path.length - 1 = i := by omega
    rw [List.getLast?_eq_getElem?, hlast, hid]

section Plan

variable {callbacks : Callbacks} {w : Workflow} {p : Plan}

theorem Compiles.keeps (h : Compiles callbacks w p) : p.Keeps w := by
  rw [h.parts]
  constructor
  case version => rfl
  case viewport =>
    refine congrArg (Option.map · w.viewport) (funext fun v => ?_)
    unfold Viewport.normalized
    split <;> rfl
  case nodes => exact List.map_congr_left fun n _ => n.normalized_eq_fieldwise
  case edges => rfl

theorem Compiles.isConsistent (h : Compiles callbacks w p) : p.IsConsistent := by
  obtain ⟨s, hs, hstart, hid, hne, hnodup, hmem, hperm⟩ := h.start_and_order
  have hids := nodup_ids h.node_apart
  obtain ⟨hline, -, -⟩ := h.line
  have hnode (n : Node) (hn : n ∈ w.normalNodes) : (nodeTable w.normalNodes).get? n.id = some n :=
    (get?_nodeTable_eq_some_iff hids).mpr ⟨hn, rfl⟩
  have hnodes : p.nodes = nodeTable w.normalNodes := congrArg Plan.nodes h.parts
  have hnext : p.next = nextTable w.normalEdges := congrArg Plan.next h.parts
  have hworkflow := h.workflow_nodes
  have hedges : p.workflow.edges = w.normalEdges :=
    congrArg (fun p : Plan => p.workflow.edges) h.parts
  rw [← hnext] at hperm
  have hfollows (i : Nat) (id : String) (hi : (p.startId :: p.orderIds)[i]? = some id) :
      p.next.get? id = (p.startId :: p.orderIds)[i + 1]? := get?_of_perm_links hline hperm hi
  refine
    { names_nodes := by rw [hnodes, hworkflow, names_nodeTable]
      nodup_ids := by rwa [hworkflow]
      node := by rwa [hnodes, hworkflow]
      start := ?start
      order_ne := hne
      nodup_order := (List.nodup_cons.mp hline).2
      mem_order := ?mem_order
      node_order := fun n hn => by rw [hnodes]; exact hnode n ((hmem n).mp hn).1
      next_edges := by rw [hnext, hedges, nextTable]
      nodup_sources := by
        rw [hnext, names_nextTable]
        exact nodup_sources h.edge_apart
      length_next := ?length_next
      next_start := ?next_start
      next_order := fun i id hi => hfollows (i + 1) id hi }
  case start =>
    rw [hworkflow]
    refine ⟨s, hs, hid, fun n hn => ?_⟩
    rw [← NodeKind.ofType_eq_start_iff]
    constructor
    · intro hkind
      exact eq_of_isStart h.node_apart hn hs hkind hstart
    · rintro rfl
      exact hstart
  case mem_order =>
    intro n
    rw [hmem, hworkflow, Node.kind, ne_eq, NodeKind.ofType_eq_start_iff]
  case length_next =>
    have hlength := (hperm.map Prod.snd).length_eq
    rw [map_snd_links, List.length_map, List.tail_cons, Plan.orderIds, List.length_map] at hlength
    exact hlength
  case next_start =>
    rw [hfollows 0 p.startId rfl, List.head?_eq_getElem?]
    rfl

/-- Whatever is compiled to a plan is a workflow that is. -/
theorem exists_planOf_of_compilePayload {payload : Option (Payload Workflow)}
    (h : (compilePayload callbacks payload {}).1 = .ok p) :
    ∃ input w, payload = some input ∧ input.load Workflow.subject = .ok w ∧
      planOf callbacks w = .ok p := by
  cases payload with
  | none => cases h
  | some input =>
    unfold compilePayload at h
    cases hload : input.load Workflow.subject with
    | error e =>
      simp only [hload] at h
      cases h
    | ok w =>
      simp only [hload] at h
      exact ⟨input, w, rfl, hload, h⟩

/-- Every plan that a compilation yields, from a workflow or from what is read as one, keeps the
workflow, and its views agree. -/
theorem keeps_and_isConsistent_of_compilePayload {payload : Option (Payload Workflow)}
    (h : (compilePayload callbacks payload {}).1 = .ok p) :
    ∃ input w, payload = some input ∧ input.load Workflow.subject = .ok w ∧
      p.Keeps w ∧ p.IsConsistent := by
  obtain ⟨input, w, hpayload, hload, hp⟩ := exists_planOf_of_compilePayload h
  have hcompiles := planOf_eq_ok_iff.mp hp
  exact ⟨input, w, hpayload, hload, hcompiles.keeps, hcompiles.isConsistent⟩

end Plan

/-- A workflow whose nodes and edges are listed against the order of its chain, untrimmed and with
fields that are foreign to their types. -/
def scrambledWorkflow : Workflow where
  version := " V1 "
  viewport := some {}
  nodes := [
    { id := "last", type := "if_event", text := "gone", ifCondition := " job_id == 1 " },
    { id := " wait", type := "Delay", delaySeconds := 3, ifCondition := "gone" },
    { id := "begin", type := " START", text := "gone", continueOnError := true },
    { id := "say ", type := "text_event", text := " hello", delaySeconds := -1 }]
  edges := [
    { id := "e3", source := "wait", target := "last" },
    { id := " e1", source := " begin ", target := "say" },
    { id := "e2", source := "say", target := " wait" }]

theorem compilePayload_scrambledWorkflow :
    ∃ p, (compilePayload {} (some (.ready scrambledWorkflow)) {}).1 = .ok p ∧
      p.orderIds = ["say", "wait", "last"] ∧
      ∃ input w, some (Payload.ready scrambledWorkflow) = some input ∧
        input.load Workflow.subject = .ok w ∧ p.Keeps w ∧ p.IsConsistent := by
  have hids : (compilePayload {} (some (.ready scrambledWorkflow)) {}).1.toOption.map
      Plan.orderIds = some ["say", "wait", "last"] := by decide +kernel
  cases hp : (compilePayload {} (some (.ready scrambledWorkflow)) {}).1 with
  | error stop => rw [hp] at hids; cases hids
  | ok p =>
    rw [hp] at hids
    exact ⟨p, rfl, Option.some.inj hids, keeps_and_isConsistent_of_compilePayload hp⟩

end JobChain
