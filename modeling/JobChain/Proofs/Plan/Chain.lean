import JobChain.Proofs.Plan.Links

/-!
# The chain of a compiled workflow

Once the nodes and edges of a workflow are sound and apart, its edges are a successor for some of
the nodes, and no node is the successor of two.  The walk from the start then either leaves nodes
out or passes through all of them, and in the second case the edges are the links of the walk and
nothing else: an edge that is no link would start at a member of the walk that has another
successor, or at its end, which has none.

* `get?_nodeTable_eq_some_iff`: the nodes of a plan by their ids.
* `chainOf_eq_ok_iff`: the chain is found iff its links are the edges, listed in any order.
* `Compiles.start_and_order`: what this says of the order of a plan.
-/

namespace JobChain

section Tables

variable {nodes : List Node} {edges : List Edge}

theorem names_nodeTable : (nodeTable nodes).names = nodes.map (·.id) := by
  simp [nodeTable, Table.names]

theorem names_nextTable : (nextTable edges).names = edges.map (·.source) := by
  simp [nextTable, Table.names]

/-- Nodes that are apart have different ids. -/
theorem nodup_ids (h : nodes.Pairwise Node.Apart) : (nodes.map (·.id)).Nodup :=
  List.pairwise_map.mpr (h.imp And.left)

theorem nodup_sources (h : edges.Pairwise Edge.Apart) : (edges.map (·.source)).Nodup :=
  List.pairwise_map.mpr (h.imp fun h => h.2.1)

/-- Under an id stands the node of that id. -/
theorem get?_nodeTable_eq_some_iff (h : (nodes.map (·.id)).Nodup) {id : String} {n : Node} :
    (nodeTable nodes).get? id = some n ↔ n ∈ nodes ∧ n.id = id := by
  rw [← names_nodeTable] at h
  rw [Table.get?_eq_some_iff h, nodeTable, List.mem_map]
  constructor
  · rintro ⟨m, hm, hmn⟩
    cases hmn
    exact ⟨hm, rfl⟩
  · rintro ⟨hn, rfl⟩
    exact ⟨n, hn, rfl⟩

/-- A path of nodes that can be entered is the list of their ids. -/
theorem forall₂_nodeTable_iff (h : (nodes.map (·.id)).Nodup) {path : List String}
    {order : List Node} :
    List.Forall₂ (fun i n => (nodeTable nodes).get? i = some n ∧ n.kind ≠ .start) path order ↔
      path = order.map (·.id) ∧ ∀ n ∈ order, n ∈ nodes ∧ n.kind ≠ .start := by
  simp only [get?_nodeTable_eq_some_iff h]
  constructor
  · intro hall
    induction hall with
    | nil => simp
    | cons hn _ ih =>
      obtain ⟨⟨hmem, rfl⟩, hkind⟩ := hn
      exact ⟨by rw [ih.1, List.map_cons], List.forall_mem_cons.mpr ⟨⟨hmem, hkind⟩, ih.2⟩⟩
  · rintro ⟨rfl, hall⟩
    induction order with
    | nil => exact .nil
    | cons n rest ih =>
      obtain ⟨hn, hrest⟩ := List.forall_mem_cons.mp hall
      exact .cons ⟨⟨hn.1, rfl⟩, hn.2⟩ (ih hrest)

end Tables

/-! ## The chain -/

section Chain

variable {nodes : List Node} {edges : List Edge} {startId : String} {order : List Node}

theorem firstUnreached?_eq_none_iff :
    firstUnreached? nodes order = none ↔
      ∀ n ∈ nodes, n.kind ≠ .start → n.id ∈ order.map (·.id) := by
  simp [firstUnreached?]

/-- The chain is found iff the start is where a walk through all other nodes begins. -/
theorem chainOf_eq_ok_iff_walk :
    chainOf nodes edges startId = .ok order ↔
      (∀ e ∈ edges, e.target ≠ startId) ∧ (∃ e ∈ edges, e.source = startId) ∧
      walkChain (nodeTable nodes) (nextTable edges) startId = .ok order ∧ order ≠ [] ∧
      ∀ n ∈ nodes, n.kind ≠ .start → n.id ∈ order.map (·.id) := by
  have hin : (edges.any fun e => e.target == startId) ≠ true ↔ ∀ e ∈ edges, e.target ≠ startId := by
    simp
  have hout : (!edges.any fun e => e.source == startId) ≠ true ↔
      ∃ e ∈ edges, e.source = startId := by
    simp
  rw [chainOf, ite_error_eq_ok_iff, ite_error_eq_ok_iff, ← ne_eq, ← ne_eq, hin, hout]
  refine and_congr_right fun _ => and_congr_right fun _ => ?_
  cases walkChain (nodeTable nodes) (nextTable edges) startId with
  | error stop => simp [Except.bind]
  | ok found =>
    show (if found.isEmpty then _ else _) = _ ↔ _
    rw [ite_error_eq_ok_iff, List.isEmpty_iff, unlessFault_eq_ok_iff, Option.map_eq_none_iff,
      firstUnreached?_eq_none_iff, Except.ok.injEq]
    constructor
    · rintro ⟨hne, hall, rfl⟩
      exact ⟨rfl, hne, hall⟩
    · rintro ⟨rfl, hne, hall⟩
      exact ⟨hne, hall, rfl⟩

/-- With a single start and edges that are sound and apart, the chain from the start lists the other
nodes, and its links are the edges. -/
theorem chainOf_eq_ok_iff {s : Node} (hnodes : nodes.Pairwise Node.Apart) (hs : s ∈ nodes)
    (hstart : s.kind = .start) (hsound : ∀ e ∈ edges, e.IsSound nodes)
    (hedges : edges.Pairwise Edge.Apart) :
    chainOf nodes edges s.id = .ok order ↔
      order ≠ [] ∧ order.Nodup ∧ (∀ n, n ∈ order ↔ n ∈ nodes ∧ n.kind ≠ .start) ∧
      (nextTable edges).Perm (links (s.id :: order.map (·.id))) := by
  have hids := nodup_ids hnodes
  have hsources : (nextTable edges).names.Nodup := by
    rw [names_nextTable]
    exact nodup_sources hedges
  rw [chainOf_eq_ok_iff_walk, walkChain, walkFrom_eq_ok_iff]
  simp only [walk_iff, forall₂_nodeTable_iff hids, Table.get?_eq_some_iff hsources,
    Table.get?_eq_none_iff]
  constructor
  · rintro ⟨-, -, ⟨path, ⟨hlinks, hlast, rfl, horder⟩, hnodup, hseen⟩, hne, hall⟩
    have hmem (n : Node) : n ∈ order ↔ n ∈ nodes ∧ n.kind ≠ .start := by
      refine ⟨horder n, fun ⟨hn, hkind⟩ => ?_⟩
      obtain ⟨m, hm, hmn⟩ := List.mem_map.mp (hall n hn hkind)
      rwa [← List.inj_on_of_nodup_map hids (horder m hm).1 hn hmn]
    refine ⟨hne, hnodup.of_map, hmem, perm_links ?_ hsources hlinks ?_ ?_⟩
    · exact List.nodup_cons.mpr ⟨fun h => hseen _ h List.mem_cons_self, hnodup⟩
    · -- an edge starts at a node, which is the start or on the way
      rintro pair hpair
      obtain ⟨e, he, rfl⟩ := List.mem_map.mp hpair
      obtain ⟨n, hn, hne⟩ := List.mem_map.mp (hsound e he).source_mem
      show e.source ∈ _
      rw [← hne]
      by_cases hkind : n.kind = .start
      · rw [eq_of_isStart hnodes hn hs hkind hstart]
        exact List.mem_cons_self
      · exact List.mem_cons_of_mem _ (List.mem_map_of_mem ((hmem n).mpr ⟨hn, hkind⟩))
    · exact fun pair hpair h => hlast _ h (List.mem_map_of_mem hpair)
  · rintro ⟨hne, hnodup, hmem, hperm⟩
    have hnew : s.id ∉ order.map (·.id) := by
      intro h
      obtain ⟨n, hn, hid⟩ := List.mem_map.mp h
      obtain ⟨hnmem, hkind⟩ := (hmem n).mp hn
      exact hkind (List.inj_on_of_nodup_map hids hnmem hs hid ▸ hstart)
    have hordered : (order.map (·.id)).Nodup := hnodup.map_on fun m hm n hn =>
      List.inj_on_of_nodup_map hids ((hmem m).mp hm).1 ((hmem n).mp hn).1
    have htargets : (nextTable edges).map Prod.snd ⊆ order.map (·.id) := by
      have h := (hperm.map Prod.snd).subset
      rwa [map_snd_links] at h
    refine ⟨fun e he htarget => ?_, ?_, ⟨order.map (·.id), ⟨?_, ?_, rfl, fun n => (hmem n).mp⟩,
      hordered, ?_⟩, hne, fun n hn hkind => List.mem_map_of_mem ((hmem n).mpr ⟨hn, hkind⟩)⟩
    · have he' : (e.source, e.target) ∈ nextTable edges := List.mem_map_of_mem he
      exact hnew (htarget ▸ htargets (List.mem_map_of_mem he'))
    · cases order with
      | nil => exact absurd rfl hne
      | cons n rest =>
        have hfirst : (s.id, n.id) ∈ nextTable edges := hperm.mem_iff.mpr List.mem_cons_self
        obtain ⟨e, he, hpair⟩ := List.mem_map.mp hfirst
        exact ⟨e, he, (Prod.mk.inj hpair).1⟩
    · exact fun link hlink => hperm.mem_iff.mpr hlink
    · intro last hlast hsource
      have hpath : (s.id :: order.map (·.id)).Nodup := List.nodup_cons.mpr ⟨hnew, hordered⟩
      have hfront := (hperm.map Prod.fst).subset hsource
      rw [map_fst_links] at hfront
      exact notMem_dropLast_of_getLast? hpath hlast hfront
    · rintro i hi hstartId
      exact hnew (List.mem_singleton.mp hstartId ▸ hi)

/-- The order of a plan lists the nodes beside its start, and its links are the edges. -/
theorem Compiles.start_and_order {callbacks : Callbacks} {w : Workflow} {p : Plan}
    (h : Compiles callbacks w p) :
    ∃ s ∈ w.normalNodes, s.kind = .start ∧ s.id = p.startId ∧ p.order ≠ [] ∧ p.order.Nodup ∧
      (∀ n, n ∈ p.order ↔ n ∈ w.normalNodes ∧ n.kind ≠ .start) ∧
      (nextTable w.normalEdges).Perm (links (p.startId :: p.orderIds)) := by
  obtain ⟨s, hs, hstart, hid⟩ := h.start
  have hchain := h.chain
  rw [← hid] at hchain ⊢
  exact ⟨s, hs, hstart, rfl,
    (chainOf_eq_ok_iff h.node_apart hs hstart h.edge_sound h.edge_apart).mp hchain⟩

end Chain

end JobChain
