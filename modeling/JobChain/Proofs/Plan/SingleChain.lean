import JobChain.Proofs.Plan.Chain
import JobChain.Proofs.Plan.NormalForm

/-!
# Workflows that are a single chain

Which workflows have a plan, told without the compilation: what its texts have to be once they are
trimmed, and that the nodes can be put in one line, from the start, so that the edges are the links
of this line, listed in any order.  The compilation never looks for such a line.  It counts what
goes out of and into each node while it reads the edges, walks along successors, and looks for nodes
that the walk has left out.

* `Workflow.IsSingleChain`: the condition.
* `exists_planOf_iff_isSingleChain`: it is what a compilation decides.
-/

namespace JobChain

/-- A workflow that is one chain from its only start through all other nodes.  Texts are compared
once they are trimmed, the version and types in lower case. -/
structure Workflow.IsSingleChain (callbacks : Callbacks) (w : Workflow) : Prop where
  version : Text.normal w.version = "v1"
  two_nodes : 2 ≤ w.nodes.length
  one_edge : 1 ≤ w.edges.length
  node_ids : ∀ n ∈ w.nodes, Text.trim n.id ≠ ""
  nodup_node_ids : (w.nodes.map fun n => Text.trim n.id).Nodup
  one_start : (w.nodes.countP fun n => Text.normal n.type = "start") = 1
  accepted : ∀ n ∈ w.nodes, Text.normal n.type ≠ "start" →
    callbacks.Accepts (Text.normal n.type)
  texts : ∀ n ∈ w.nodes, Text.normal n.type = "text_event" → Text.trim n.text ≠ ""
  delays : ∀ n ∈ w.nodes, Text.normal n.type = "delay" → 0 ≤ n.delaySeconds
  conditions : ∀ n ∈ w.nodes, Text.normal n.type = "if_event" →
    callbacks.Approves (Text.trim n.ifCondition)
  edge_ids : ∀ e ∈ w.edges, Text.trim e.id ≠ ""
  nodup_edge_ids : (w.edges.map fun e => Text.trim e.id).Nodup
  line : ∃ first rest, (first :: rest).Nodup ∧
    (first :: rest).Perm (w.nodes.map fun n => Text.trim n.id) ∧
    (∃ s ∈ w.nodes, Text.normal s.type = "start" ∧ Text.trim s.id = first) ∧
    (w.edges.map fun e => (Text.trim e.source, Text.trim e.target)).Perm (links (first :: rest))

/-! ## Nodes -/

section Nodes

variable {callbacks : Callbacks} {w : Workflow}

/-- At most one member of a list has a property iff no two have. -/
theorem pairwise_not_and_iff {α : Type} {p : α → Bool} {l : List α} :
    (l.Pairwise fun a b => ¬(p a = true ∧ p b = true)) ↔ l.countP p ≤ 1 := by
  induction l with
  | nil => simp
  | cons a l ih =>
    rw [List.pairwise_cons, List.countP_cons, ih]
    cases ha : p a with
    | false => simp
    | true =>
      have hzero : (∀ b ∈ l, ¬(true = true ∧ p b = true)) ↔ l.countP p = 0 := by
        simp [List.countP_eq_zero]
      rw [hzero, if_pos rfl]
      omega

/-- Nodes are apart iff their ids differ and at most one of them is a start. -/
theorem pairwise_apart_normalNodes_iff :
    w.normalNodes.Pairwise Node.Apart ↔
      (w.nodes.map fun n => Text.trim n.id).Nodup ∧
      (w.nodes.countP fun n => Text.normal n.type = "start") ≤ 1 := by
  rw [← pairwise_not_and_iff, Workflow.normalNodes, List.pairwise_map, List.Nodup,
    List.pairwise_map, ← List.pairwise_and_iff]
  refine iff_of_eq (congrArg (fun R => List.Pairwise R w.nodes) ?_)
  funext m n
  simp only [Node.Apart, Node.id_normalized, Node.kind_normalized, NodeKind.ofType_eq_start_iff,
    decide_eq_true_eq]

theorem exists_start_iff :
    (∃ s ∈ w.normalNodes, s.kind = .start) ↔
      0 < w.nodes.countP fun n => Text.normal n.type = "start" := by
  simp only [Workflow.normalNodes, List.mem_map, exists_exists_and_eq_and, Node.kind_normalized,
    NodeKind.ofType_eq_start_iff, List.countP_pos_iff, decide_eq_true_eq]

end Nodes

/-! ## Edges -/

/-- Edges that are the links of a line through the nodes are sound and apart. -/
theorem isSound_and_apart_of_perm_links {nodes : List Node} {edges : List Edge}
    {line : List String} (hline : line.Nodup) (hmem : ∀ i ∈ line, i ∈ nodes.map (·.id))
    (hne : ∀ i ∈ line, i ≠ "") (hids : ∀ e ∈ edges, e.id ≠ "")
    (hnodup : (edges.map (·.id)).Nodup) (hperm : (nextTable edges).Perm (links line)) :
    (∀ e ∈ edges, e.IsSound nodes) ∧ edges.Pairwise Edge.Apart := by
  constructor
  · intro e he
    have hlink : (e.source, e.target) ∈ links line :=
      hperm.mem_iff.mp (List.mem_map_of_mem he)
    have hsource := fst_mem_of_mem_links hlink
    have htarget := snd_mem_of_mem_links hlink
    exact ⟨hids e he, hne _ hsource, hne _ htarget, fst_ne_snd_of_mem_links hline _ hlink,
      hmem _ hsource, hmem _ htarget⟩
  · have hsources : (edges.map (·.source)).Nodup := by
      have h : (nextTable edges).names.Nodup := by
        refine (hperm.map Prod.fst).nodup_iff.mpr ?_
        rw [map_fst_links]
        exact hline.sublist (List.dropLast_sublist line)
      rwa [names_nextTable] at h
    have htargets : (edges.map (·.target)).Nodup := by
      have h : ((nextTable edges).map Prod.snd).Nodup := by
        refine (hperm.map Prod.snd).nodup_iff.mpr ?_
        rw [map_snd_links]
        exact hline.sublist (List.tail_sublist line)
      rwa [nextTable, List.map_map] at h
    exact ((List.pairwise_map.mp hnodup).and
      ((List.pairwise_map.mp hsources).and (List.pairwise_map.mp htargets)))

/-! ## Chains -/

section Chains

variable {callbacks : Callbacks} {w : Workflow}

/-- The line of a compiled workflow: its start, then the nodes of its plan in their order. -/
theorem Compiles.line {p : Plan} (h : Compiles callbacks w p) :
    (p.startId :: p.orderIds).Nodup ∧
      (p.startId :: p.orderIds).Perm (w.normalNodes.map (·.id)) ∧
      (nextTable w.normalEdges).Perm (links (p.startId :: p.orderIds)) := by
  obtain ⟨s, hs, hstart, hid, -, hnodup, hmem, hperm⟩ := h.start_and_order
  rw [← hid] at hperm ⊢
  have hnodes : (s :: p.order).Perm w.normalNodes := by
    have hnew : s ∉ p.order := fun hsp => ((hmem s).mp hsp).2 hstart
    refine (List.perm_ext_iff_of_nodup (List.nodup_cons.mpr ⟨hnew, hnodup⟩)
      (nodup_ids h.node_apart).of_map).mpr fun n => ?_
    rw [List.mem_cons, hmem]
    constructor
    · rintro (rfl | ⟨hn, -⟩)
      · exact hs
      · exact hn
    · intro hn
      by_cases hkind : n.kind = .start
      · exact .inl (eq_of_isStart h.node_apart hn hs hkind hstart)
      · exact .inr ⟨hn, hkind⟩
  have hids : (s.id :: p.orderIds).Perm (w.normalNodes.map (·.id)) := hnodes.map Node.id
  exact ⟨hids.nodup_iff.mpr (nodup_ids h.node_apart), hids, hperm⟩

/-- The nodes of a line that begins with the start: the start, and the others in the order of the
line. -/
theorem exists_order_of_line {s : Node} {rest : List String}
    (hapart : w.normalNodes.Pairwise Node.Apart) (hs : s ∈ w.normalNodes) (hstart : s.kind = .start)
    (hline : (s.id :: rest).Perm (w.normalNodes.map (·.id))) :
    ∃ order : List Node, rest = order.map (·.id) ∧ order.Nodup ∧
      ∀ n, n ∈ order ↔ n ∈ w.normalNodes ∧ n.kind ≠ .start := by
  have hcomp : Relation.Comp (· = List.map (·.id) ·) List.Perm (s.id :: rest) w.normalNodes := by
    rw [List.eq_map_comp_perm]
    exact hline
  obtain ⟨all, hall, hperm⟩ := hcomp
  cases all with
  | nil => cases hall
  | cons first order =>
    obtain ⟨hfirst, hrest⟩ := List.cons.inj hall
    have hsame : first = s := List.inj_on_of_nodup_map (nodup_ids hapart)
      (hperm.subset List.mem_cons_self) hs hfirst.symm
    rw [hsame] at hperm
    obtain ⟨hnew, hnodup⟩ :=
      List.nodup_cons.mp (hperm.nodup_iff.mpr (nodup_ids hapart).of_map)
    refine ⟨order, hrest, hnodup, fun n => ⟨fun hn => ?_, fun ⟨hn, hkind⟩ => ?_⟩⟩
    · have hmem := hperm.subset (List.mem_cons_of_mem s hn)
      refine ⟨hmem, fun hkind => hnew ?_⟩
      rwa [eq_of_isStart hapart hs hmem hstart hkind]
    · rcases List.mem_cons.mp (hperm.symm.subset hn) with rfl | hmem
      · exact absurd hstart hkind
      · exact hmem

/-- A workflow that is compiled to a plan is a single chain. -/
theorem Compiles.isSingleChain {p : Plan} (h : Compiles callbacks w p) :
    w.IsSingleChain callbacks := by
  obtain ⟨hids, hone⟩ := pairwise_apart_normalNodes_iff.mp h.node_apart
  obtain ⟨s, hs, hstart, hid⟩ := h.start
  obtain ⟨raw, hraw, rfl⟩ := List.mem_map.mp hs
  have hpos := exists_start_iff.mp ⟨_, hs, hstart⟩
  have hnode (n : Node) (hn : n ∈ w.nodes) :=
    Node.isSound_normalized_iff.mp (h.node_sound _ (List.mem_map_of_mem hn))
  obtain ⟨hnodup, hperm, hlinks⟩ := h.line
  rw [map_id_normalNodes] at hperm
  rw [nextTable_normalEdges] at hlinks
  rw [Node.kind_normalized, NodeKind.ofType_eq_start_iff] at hstart
  rw [Node.id_normalized] at hid
  exact
    { version := h.version
      two_nodes := h.two_le
      one_edge := List.length_pos_of_ne_nil h.edges_ne
      node_ids := fun n hn => (hnode n hn).1
      nodup_node_ids := hids
      one_start := by omega
      accepted := fun n hn => (hnode n hn).2.1
      texts := fun n hn => (hnode n hn).2.2.1
      delays := fun n hn => (hnode n hn).2.2.2.1
      conditions := fun n hn => (hnode n hn).2.2.2.2
      edge_ids := fun e he => (h.edge_sound e.normalized (List.mem_map_of_mem he)).id_ne
      nodup_edge_ids :=
        List.pairwise_map.mpr ((List.pairwise_map.mp h.edge_apart).imp fun h => h.1)
      line := ⟨p.startId, p.orderIds, hnodup, hperm, ⟨raw, hraw, hstart, hid⟩, hlinks⟩ }

namespace Workflow.IsSingleChain

/-- The nodes of a single chain are sound and apart. -/
theorem nodes (h : w.IsSingleChain callbacks) :
    (∀ n ∈ w.normalNodes, n.IsSound callbacks) ∧ w.normalNodes.Pairwise Node.Apart := by
  constructor
  · refine List.forall_mem_map.mpr fun n hn => Node.isSound_normalized_iff.mpr ?_
    exact ⟨h.node_ids n hn, h.accepted n hn, h.texts n hn, h.delays n hn, h.conditions n hn⟩
  · exact pairwise_apart_normalNodes_iff.mpr ⟨h.nodup_node_ids, Nat.le_of_eq h.one_start⟩

/-- The line of a single chain, on the normal forms of its nodes and edges. -/
theorem exists_line (h : w.IsSingleChain callbacks) :
    ∃ s ∈ w.normalNodes, s.kind = .start ∧ ∃ rest, (s.id :: rest).Nodup ∧
      (s.id :: rest).Perm (w.normalNodes.map (·.id)) ∧
      (nextTable w.normalEdges).Perm (links (s.id :: rest)) := by
  obtain ⟨first, rest, hnodup, hperm, ⟨raw, hraw, hstart, rfl⟩, hlinks⟩ := h.line
  refine ⟨raw.normalized, List.mem_map_of_mem hraw, ?_, rest, ?_⟩
  · rw [Node.kind_normalized, NodeKind.ofType_eq_start_iff]
    exact hstart
  · rw [Node.id_normalized, map_id_normalNodes, nextTable_normalEdges]
    exact ⟨hnodup, hperm, hlinks⟩

/-- A single chain is compiled to a plan. -/
theorem exists_compiles (h : w.IsSingleChain callbacks) : ∃ p, Compiles callbacks w p := by
  obtain ⟨hsound, hapart⟩ := h.nodes
  obtain ⟨s, hs, hkind, rest, hnodup, hperm, hlinks⟩ := h.exists_line
  have hids : ∀ i ∈ s.id :: rest, i ≠ "" := by
    intro i hi
    obtain ⟨n, hn, rfl⟩ := List.mem_map.mp (hperm.subset hi)
    exact (hsound n hn).id_ne
  have hedges : (w.normalEdges.map (·.id)).Nodup := by
    rw [Workflow.normalEdges, List.map_map]
    exact h.nodup_edge_ids
  obtain ⟨hesound, heapart⟩ := isSound_and_apart_of_perm_links hnodup
    (fun i hi => hperm.subset hi) hids (List.forall_mem_map.mpr h.edge_ids) hedges hlinks
  obtain ⟨order, rfl, horder, hmem⟩ := exists_order_of_line hapart hs hkind hperm
  have hne : order ≠ [] := by
    rintro rfl
    have hlength := hperm.length_eq
    rw [List.length_map, Workflow.normalNodes, List.length_map] at hlength
    have htwo := h.two_nodes
    simp only [List.map_nil, List.length_cons, List.length_nil] at hlength
    omega
  have hchain := (chainOf_eq_ok_iff hapart hs hkind hesound heapart).mpr
    ⟨hne, horder, hmem, hlinks⟩
  exact ⟨w.planWith s.id order,
    { version := h.version
      two_le := h.two_nodes
      edges_ne := List.ne_nil_of_length_pos h.one_edge
      node_sound := hsound
      node_apart := hapart
      start := ⟨s, hs, hkind, rfl⟩
      edge_sound := hesound
      edge_apart := heapart
      chain := hchain
      parts := rfl }⟩

end Workflow.IsSingleChain

end Chains

/-- A workflow has a plan iff it is a single chain. -/
theorem exists_planOf_iff_isSingleChain (callbacks : Callbacks) (w : Workflow) :
    (∃ p, planOf callbacks w = .ok p) ↔ w.IsSingleChain callbacks := by
  constructor
  · rintro ⟨p, hp⟩
    exact (planOf_eq_ok_iff.mp hp).isSingleChain
  · intro h
    obtain ⟨p, hp⟩ := h.exists_compiles
    exact ⟨p, planOf_eq_ok_iff.mpr hp⟩

end JobChain
