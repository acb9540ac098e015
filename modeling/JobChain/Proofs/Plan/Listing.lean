import JobChain.Proofs.Plan.Consistency

/-!
# Workflows that differ in how they are written

An editor may list the nodes and edges of a graph in any order, put blanks around texts and write
types in capitals.  What a compilation checks of single nodes and edges, and of pairs of them, does
not depend on the order of the lists, because every check of a pair looks the same from both sides.
The chain is told by its start and by its links, listed in any order.  So two workflows that show
the same graph have plans together, and their plans run the same chain.

* `Workflow.SameGraph`: two workflows show the same graph.
* `Plan.SameChain`: two plans run the same chain.
* `Compiles.of_sameGraph`: the plan of the one has a counterpart that is the plan of the other.
* `planOf_of_sameGraph`: what this says of compilations.
-/

namespace JobChain

/-- Two workflows show the same graph: once texts are trimmed, and the version and types put in
lower case, they have the same version and the same nodes and edges, listed in any order.  Where and
how large they are drawn does not matter. -/
structure Workflow.SameGraph (w w' : Workflow) : Prop where
  version : Text.normal w.version = Text.normal w'.version
  nodes : (w.nodes.map Node.trimmed).Perm (w'.nodes.map Node.trimmed)
  edges : (w.edges.map Edge.normalized).Perm (w'.edges.map Edge.normalized)

/-- Two plans run the same chain: they have the same start, the same nodes in the same order, and
under every id the same node and the same successor. -/
structure Plan.SameChain (p p' : Plan) : Prop where
  startId : p.startId = p'.startId
  order : p.order = p'.order
  nodes : ∀ id, p.nodes.get? id = p'.nodes.get? id
  next : ∀ id, p.next.get? id = p'.next.get? id

section SameGraph

variable {callbacks : Callbacks} {w w' : Workflow} {p : Plan}

namespace Workflow.SameGraph

theorem symm (h : w.SameGraph w') : w'.SameGraph w where
  version := h.version.symm
  nodes := h.nodes.symm
  edges := h.edges.symm

/-- The normal form of a node is made of the trimmed node. -/
theorem normalNodes (h : w.SameGraph w') : w.normalNodes.Perm w'.normalNodes := by
  have hnormal (nodes : List Node) :
      (nodes.map Node.trimmed).map Node.cleared = nodes.map Node.normalized := by
    simp [Node.normalized]
  have hcleared := h.nodes.map Node.cleared
  rw [hnormal, hnormal] at hcleared
  exact hcleared

theorem normalEdges (h : w.SameGraph w') : w.normalEdges.Perm w'.normalEdges := h.edges

theorem length_nodes (h : w.SameGraph w') : w.nodes.length = w'.nodes.length := by
  have hlength := h.nodes.length_eq
  rwa [List.length_map, List.length_map] at hlength

theorem length_edges (h : w.SameGraph w') : w.edges.length = w'.edges.length := by
  have hlength := h.edges.length_eq
  rwa [List.length_map, List.length_map] at hlength

end Workflow.SameGraph

instance : Std.Symm Edge.Apart where
  symm _ _ h := ⟨h.1.symm, h.2.1.symm, h.2.2.symm⟩

theorem Edge.IsSound.of_perm {nodes nodes' : List Node} {e : Edge} (h : e.IsSound nodes)
    (hperm : nodes.Perm nodes') : e.IsSound nodes' :=
  { h with
    source_mem := (hperm.map Node.id).mem_iff.mp h.source_mem
    target_mem := (hperm.map Node.id).mem_iff.mp h.target_mem }

/-- A workflow that shows the graph of a compiled one is compiled to a plan of the same chain. -/
theorem Compiles.of_sameGraph (h : Compiles callbacks w p) (hw : w.SameGraph w') :
    Compiles callbacks w' (w'.planWith p.startId p.order) := by
  have hnodes := hw.normalNodes
  have hedges := hw.normalEdges
  obtain ⟨s, hs, hstart, hid, hne, hnodup, hmem, hlinks⟩ := h.start_and_order
  have hs' : s ∈ w'.normalNodes := hnodes.mem_iff.mp hs
  have hnodeApart : w'.normalNodes.Pairwise Node.Apart :=
    (hnodes.pairwise_iff (Std.Symm.symm _ _)).mp h.node_apart
  have hedgeSound : ∀ e ∈ w'.normalEdges, e.IsSound w'.normalNodes := fun e he =>
    (h.edge_sound e (hedges.mem_iff.mpr he)).of_perm hnodes
  have hedgeApart : w'.normalEdges.Pairwise Edge.Apart :=
    (hedges.pairwise_iff (Std.Symm.symm _ _)).mp h.edge_apart
  have hmem' : ∀ n, n ∈ p.order ↔ n ∈ w'.normalNodes ∧ n.kind ≠ .start := fun n => by
    rw [hmem, hnodes.mem_iff]
  have hnext : (nextTable w.normalEdges).Perm (nextTable w'.normalEdges) := hedges.map _
  have hlinks' := hnext.symm.trans hlinks
  have hchain : chainOf w'.normalNodes w'.normalEdges p.startId = .ok p.order := by
    rw [← hid] at hlinks' ⊢
    exact (chainOf_eq_ok_iff hnodeApart hs' hstart hedgeSound hedgeApart).mpr
      ⟨hne, hnodup, hmem', hlinks'⟩
  exact
    { version := hw.version ▸ h.version
      two_le := hw.length_nodes ▸ h.two_le
      edges_ne := List.ne_nil_of_length_pos
        (hw.length_edges ▸ List.length_pos_of_ne_nil h.edges_ne)
      node_sound := fun n hn => h.node_sound n (hnodes.mem_iff.mpr hn)
      node_apart := hnodeApart
      start := ⟨s, hs', hstart, hid⟩
      edge_sound := hedgeSound
      edge_apart := hedgeApart
      chain := hchain
      parts := rfl }

/-- Plans with the same start and order, of workflows that show the same graph, run the same
chain. -/
theorem Compiles.sameChain (h : Compiles callbacks w p) (hw : w.SameGraph w') :
    p.SameChain (w'.planWith p.startId p.order) := by
  constructor
  case startId => rfl
  case order => rfl
  case nodes =>
    intro id
    rw [h.parts]
    refine Table.get?_eq_of_perm ?_ (hw.normalNodes.map fun n => (n.id, n)) id
    exact names_nodeTable ▸ nodup_ids h.node_apart
  case next =>
    intro id
    rw [h.parts]
    refine Table.get?_eq_of_perm ?_ (hw.normalEdges.map fun e => (e.source, e.target)) id
    exact names_nextTable ▸ nodup_sources h.edge_apart

end SameGraph

/-- Of two workflows that show the same graph both have a plan or neither has, and the plans run the
same chain. -/
theorem planOf_of_sameGraph {w w' : Workflow} (h : w.SameGraph w') (callbacks : Callbacks) :
    ((∃ p, planOf callbacks w = .ok p) ↔ ∃ p', planOf callbacks w' = .ok p') ∧
      ∀ p p', planOf callbacks w = .ok p → planOf callbacks w' = .ok p' → p.SameChain p' := by
  refine ⟨⟨?_, ?_⟩, ?_⟩
  · rintro ⟨p, hp⟩
    exact ⟨_, planOf_eq_ok_iff.mpr ((planOf_eq_ok_iff.mp hp).of_sameGraph h)⟩
  · rintro ⟨p', hp'⟩
    exact ⟨_, planOf_eq_ok_iff.mpr ((planOf_eq_ok_iff.mp hp').of_sameGraph h.symm)⟩
  · intro p p' hp hp'
    have hcompiles := planOf_eq_ok_iff.mp hp
    have hother := planOf_eq_ok_iff.mpr (hcompiles.of_sameGraph h)
    rw [hp'] at hother
    rw [Except.ok.inj hother]
    exact hcompiles.sameChain h

/-- The graph of the scrambled workflow, drawn along its chain and without needless blanks. -/
def straightWorkflow : Workflow where
  version := "v1"
  nodes := [
    { id := "begin", type := "start", text := "gone", continueOnError := true },
    { id := "say", type := "text_event", text := "hello", delaySeconds := -1 },
    { id := "wait", type := "delay", delaySeconds := 3, ifCondition := "gone" },
    { id := "last", type := "if_event", text := "gone", ifCondition := "job_id == 1" }]
  edges := [
    { id := "e1", source := "begin", target := "say" },
    { id := "e2", source := "say", target := "wait" },
    { id := "e3", source := "wait", target := "last" }]

theorem planOf_of_sameGraph_straightWorkflow :
    scrambledWorkflow.SameGraph straightWorkflow ∧
      (planOf {} scrambledWorkflow).toOption.map Plan.orderIds = some ["say", "wait", "last"] ∧
      ((∃ p, planOf {} scrambledWorkflow = .ok p) ↔ ∃ p', planOf {} straightWorkflow = .ok p') ∧
      ∀ p p', planOf {} scrambledWorkflow = .ok p → planOf {} straightWorkflow = .ok p' →
        p.SameChain p' := by
  have hsame : scrambledWorkflow.SameGraph straightWorkflow :=
    ⟨by decide +kernel, by decide +kernel, by decide +kernel⟩
  exact ⟨hsame, by decide +kernel, planOf_of_sameGraph hsame {}⟩

end JobChain
