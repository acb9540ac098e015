import JobChain.Proofs.Plan.Chain
import JobChain.Proofs.Plan.Path
import JobChain.Proofs.Plan.Violations

/-!
# What the checks leave to be found

Once the nodes and edges of a workflow have been checked, there is one start, every edge leads to a
node, and no two edges lead to the same.  If moreover no edge leads to the start, then nothing can
be wrong on the path from it.  An id that is met twice could be traced back from both places, edge
by edge, until the earlier place is the start, and there would be an edge that leads to it.  A cycle
of edges can only lie beside the path, and its nodes are then not reached.

So the walk is never what ends a compilation.  What is left to be found, after the checks, are edges
into the start, no edge out of it, and a node that the path does not come to.

* `Workflow.Passes`: the checks let a workflow pass.
* `not_offends_of_apart`: nothing is wrong on the path from its start.
* `Remains`: what can be left to be found, and what a compilation then comes to.
* `planOf_after_checks`: the compilation of what passes the checks, and the reasons for which no
  compilation stops.
-/

namespace JobChain

/-! ## Tables that can be traced back -/

/-- If no two names have the same successor and none has the start as its successor, then no id is
at two places of the path. -/
theorem eq_of_pathAt_eq_some {next : Table String} {start : String}
    (hback : ∀ a b id, next.get? a = some id → next.get? b = some id → a = b)
    (hstart : ∀ a, next.get? a ≠ some start) {i j : Nat} {id : String}
    (hi : pathAt next start i = some id) (hj : pathAt next start j = some id) : i = j := by
  -- from the start there is no way back, and from elsewhere one
  have hfirst (k : Nat) : pathAt next start (k + 1) ≠ some start := by
    intro h
    obtain ⟨a, -, hnext⟩ := Option.bind_eq_some_iff.mp h
    exact hstart a hnext
  induction i generalizing j id with
  | zero =>
    cases hi
    cases j with
    | zero => rfl
    | succ j => exact absurd hj (hfirst j)
  | succ i ih =>
    cases j with
    | zero =>
      cases hj
      exact absurd hi (hfirst i)
    | succ j =>
      obtain ⟨a, ha, hnext⟩ := Option.bind_eq_some_iff.mp hi
      obtain ⟨b, hb, hnext'⟩ := Option.bind_eq_some_iff.mp hj
      rw [← hback a b id hnext hnext'] at hb
      rw [ih ha hb]

/-! ## The path along edges that have been checked -/

section Edges

variable {nodes : List Node} {edges : List Edge} {s : Node}

theorem exists_edge_of_get? {id id' : String} (h : (nextTable edges).get? id = some id') :
    ∃ e ∈ edges, e.source = id ∧ e.target = id' := by
  obtain ⟨e, he, hpair⟩ := List.mem_map.mp (Table.mem_of_get?_eq_some h)
  exact ⟨e, he, congrArg Prod.fst hpair, congrArg Prod.snd hpair⟩

theorem nodup_targets (h : edges.Pairwise Edge.Apart) : (edges.map (·.target)).Nodup :=
  List.pairwise_map.mpr (h.imp fun h => h.2.2)

/-- Along edges that are apart, an id is the successor of one at most. -/
theorem eq_of_get?_nextTable (h : edges.Pairwise Edge.Apart) {a b id : String}
    (ha : (nextTable edges).get? a = some id) (hb : (nextTable edges).get? b = some id) :
    a = b := by
  obtain ⟨e, he, rfl, htarget⟩ := exists_edge_of_get? ha
  obtain ⟨f, hf, rfl, htarget'⟩ := exists_edge_of_get? hb
  rw [List.inj_on_of_nodup_map (nodup_targets h) he hf (htarget.trans htarget'.symm)]

/-- Nothing is wrong on the path from a single start that no edge leads to. -/
theorem not_offends_of_apart (hnodes : nodes.Pairwise Node.Apart) (hs : s ∈ nodes)
    (hstart : s.kind = .start) (hsound : ∀ e ∈ edges, e.IsSound nodes)
    (hedges : edges.Pairwise Edge.Apart) (hin : ∀ e ∈ edges, e.target ≠ s.id) (i : Nat)
    (stop : CompileStop) : ¬Offends (nodeTable nodes) (nextTable edges) s.id i stop := by
  have hfirst (a : String) : (nextTable edges).get? a ≠ some s.id := by
    intro h
    obtain ⟨e, he, -, htarget⟩ := exists_edge_of_get? h
    exact hin e he htarget
  have htarget {id : String} (hid : pathAt (nextTable edges) s.id (i + 1) = some id) :
      id ∈ nodes.map (·.id) ∧ id ≠ s.id := by
    obtain ⟨a, -, hnext⟩ := Option.bind_eq_some_iff.mp hid
    obtain ⟨e, he, -, rfl⟩ := exists_edge_of_get? hnext
    exact ⟨(hsound e he).target_mem, hin e he⟩
  intro h
  cases h with
  | @met id j hid hj hmet =>
    have hsame := eq_of_pathAt_eq_some (fun a b id => eq_of_get?_nextTable hedges) hfirst hid hmet
    omega
  | unknown hid _ hnode =>
    rw [Table.get?_eq_none_iff, names_nodeTable] at hnode
    exact hnode (htarget hid).1
  | start hid _ hnode htype =>
    obtain ⟨hmem, rfl⟩ := (get?_nodeTable_eq_some_iff (nodup_ids hnodes)).mp hnode
    have hkind := NodeKind.ofType_eq_start_iff.mpr htype
    exact (htarget hid).2 (congrArg Node.id (eq_of_isStart hnodes hmem hs hkind hstart))

/-- Whether the path along edges comes to an id. -/
def OnPath (edges : List Edge) (startId id : String) : Prop :=
  ∃ i, pathAt (nextTable edges) startId i = some id

/-- The nodes of a path that ends are those to which it comes after its start. -/
theorem PathEnds.mem_map_id_iff {order : List Node} (hids : (nodes.map (·.id)).Nodup)
    (h : PathEnds (nodeTable nodes) (nextTable edges) s.id order) {id : String} (hne : id ≠ s.id) :
    id ∈ order.map (·.id) ↔ OnPath edges s.id id := by
  constructor
  · intro hmem
    obtain ⟨n, hn, rfl⟩ := List.mem_map.mp hmem
    obtain ⟨i, hi⟩ := List.mem_iff_getElem?.mp hn
    rw [h.nodes i] at hi
    obtain ⟨id', hid', hnode⟩ := Option.bind_eq_some_iff.mp hi
    obtain ⟨-, rfl⟩ := (get?_nodeTable_eq_some_iff hids).mp hnode
    exact ⟨i + 1, hid'⟩
  · rintro ⟨i, hi⟩
    cases i with
    | zero => exact absurd (Option.some.inj hi).symm hne
    | succ i =>
      obtain ⟨-, n, hnode, -⟩ := enters_of_not_offends hi (h.clear i)
      have hn : order[i]? = some n := by rw [h.nodes i, hi, Option.bind_some, hnode]
      obtain ⟨-, rfl⟩ := (get?_nodeTable_eq_some_iff hids).mp hnode
      exact List.mem_map_of_mem (List.mem_of_getElem? hn)

end Edges

/-! ## What is left to be found -/

/-- The checks of a workflow as a whole, of its nodes and of its edges let it pass.  They leave what
is known of nodes and edges, a start among it. -/
structure Workflow.Passes (callbacks : Callbacks) (w : Workflow) (index : NodeIndex)
    (links : EdgeIndex) : Prop where
  version : Text.normal w.version = supportedVersion
  two_nodes : 2 ≤ w.nodes.length
  one_edge : w.edges ≠ []
  nodes : (callbacks.checks.indexNodes {} w.nodes {}).1 = .ok index
  start : index.startId ≠ ""
  edges : indexEdges index.nodes {} w.edges = .ok links

/-- What can be left to be found after the checks, and what a compilation then comes to: an edge
into the start, or else no edge out of it, or else a first node that the path from the start does
not come to, or else nothing. -/
inductive Remains (nodes : List Node) (edges : List Edge) (startId : String) :
    Except CompileStop Plan → Prop
  | incoming {e : Edge} (he : e ∈ edges) (htarget : e.target = startId) :
      Remains nodes edges startId (.error (.refused .startHasIncoming))
  | noOutgoing (hin : ∀ e ∈ edges, e.target ≠ startId) (hout : ∀ e ∈ edges, e.source ≠ startId) :
      Remains nodes edges startId (.error (.refused .startHasNoOutgoing))
  | unreached {front back : List Node} {n : Node} (hin : ∀ e ∈ edges, e.target ≠ startId)
      (hout : ∃ e ∈ edges, e.source = startId) (hnodes : nodes = front ++ n :: back)
      (htype : n.type ≠ "start") (hn : ¬OnPath edges startId n.id)
      (hfront : ∀ m ∈ front, m.type ≠ "start" → OnPath edges startId m.id) :
      Remains nodes edges startId (.error (.refused (.unreachable n.id)))
  | nothing {p : Plan} (hin : ∀ e ∈ edges, e.target ≠ startId)
      (hout : ∃ e ∈ edges, e.source = startId)
      (hall : ∀ n ∈ nodes, n.type ≠ "start" → OnPath edges startId n.id)
      (hend : PathEnds (nodeTable nodes) (nextTable edges) startId p.order) :
      Remains nodes edges startId (.ok p)

section Remaining

variable {callbacks : Callbacks} {w : Workflow} {nodes : List Node} {edges : List Edge} {s : Node}
  {index : NodeIndex} {links : EdgeIndex}

/-- The chain of nodes and edges that have been checked, with any plan made of it. -/
theorem remains_chainOf (hnodes : nodes.Pairwise Node.Apart) (hs : s ∈ nodes)
    (hstart : s.kind = .start) (hsound : ∀ e ∈ edges, e.IsSound nodes)
    (hedges : edges.Pairwise Edge.Apart) {plan : List Node → Plan}
    (hplan : ∀ order, (plan order).order = order) :
    Remains nodes edges s.id ((chainOf nodes edges s.id).map plan) := by
  unfold chainOf
  by_cases hin : (edges.any fun e => e.target == s.id) = true
  · rw [if_pos hin]
    obtain ⟨e, he, htarget⟩ := List.any_eq_true.mp hin
    exact .incoming he (beq_iff_eq.mp htarget)
  rw [if_neg hin]
  replace hin : ∀ e ∈ edges, e.target ≠ s.id := by simpa using hin
  by_cases hout : (!edges.any fun e => e.source == s.id) = true
  · rw [if_pos hout]
    exact .noOutgoing hin (by simpa using hout)
  rw [if_neg hout]
  replace hout : ∃ e ∈ edges, e.source = s.id := by simpa using hout
  have hclear := not_offends_of_apart hnodes hs hstart hsound hedges hin
  rcases decided_walkChain (nodeTable nodes) (nextTable edges) s.id with
    ⟨order, hwalk, hends⟩ | ⟨i, stop, -, hoffends, -⟩
  swap
  · exact absurd hoffends (hclear i stop)
  have hne : order.isEmpty = false := by
    -- the edge out of the start leads to a place of the path
    rw [List.isEmpty_eq_false_iff]
    rintro rfl
    obtain ⟨e, he, hsource⟩ := hout
    have hend : (nextTable edges).get? s.id = none := hends.ends
    rw [Table.get?_eq_none_iff, names_nextTable] at hend
    exact hend (hsource ▸ List.mem_map_of_mem he)
  have hreached {n : Node} (hn : n ∈ nodes) (htype : n.type ≠ "start") :
      n.id ∈ order.map (·.id) ↔ OnPath edges s.id n.id := by
    refine hends.mem_map_id_iff (nodup_ids hnodes) fun hid => htype ?_
    rw [List.inj_on_of_nodup_map (nodup_ids hnodes) hn hs hid]
    exact NodeKind.ofType_eq_start_iff.mp hstart
  simp only [hwalk, Except.bind, hne, Bool.false_eq_true, if_false]
  cases hfirst : firstUnreached? nodes order with
  | none =>
    refine .nothing hin hout (fun n hn htype => (hreached hn htype).mp ?_) (by rwa [hplan])
    exact firstUnreached?_eq_none_iff.mp hfirst n hn (mt NodeKind.ofType_eq_start_iff.mp htype)
  | some n =>
    obtain ⟨hmissed, front, back, rfl, hfront⟩ := List.find?_eq_some_iff_append.mp hfirst
    have hmissed' : n.kind ≠ .start ∧ n.id ∉ order.map (·.id) := by simpa using hmissed
    have htype := mt NodeKind.ofType_eq_start_iff.mpr hmissed'.1
    refine .unreached hin hout rfl htype ?_ fun m hm hmtype => ?_
    · rw [← hreached (List.mem_append_right front List.mem_cons_self) htype]
      exact hmissed'.2
    · refine (hreached (List.mem_append_left _ hm) hmtype).mp ?_
      have hpassed := hfront m hm
      have hkind : m.kind ≠ .start := mt NodeKind.ofType_eq_start_iff.mp hmtype
      simpa [hkind] using hpassed

/-- Indexing nodes leaves their normal forms, or it finds a fault in these. -/
theorem fst_indexNodes (callbacks : Callbacks) (raws : List Node) (calls : Calls) :
    (callbacks.checks.indexNodes {} raws calls).1 =
      unlessFault (firstFault? (nodeFault? callbacks) [] (raws.map Node.normalized))
        (.of (raws.map Node.normalized)) := by
  have hindex : callbacks.checks.indexNodes {} raws =
      callbacks.checks.admitNodes [] raws >>= fun nodes => pure (.of nodes) := by
    rw [← indexNodes_bind_eq (f := pure) (by simp) raws fun nodes _ => rfl, Act.bind_pure]
    rfl
  rw [hindex, fst_bind (fst_admitNodes callbacks [] raws calls), List.nil_append]
  cases firstFault? (nodeFault? callbacks) [] (raws.map Node.normalized) <;> rfl

/-- What the checks leave when they let a workflow pass: its normal forms without a fault. -/
theorem Workflow.passes_iff :
    w.Passes callbacks index links ↔
      Text.normal w.version = supportedVersion ∧ 2 ≤ w.nodes.length ∧ w.edges ≠ [] ∧
      firstFault? (nodeFault? callbacks) [] w.normalNodes = none ∧ index = .of w.normalNodes ∧
      (w.normalNodes.find? fun n => n.kind == .start) ≠ none ∧
      firstFault? (edgeFault? w.normalNodes) [] w.normalEdges = none ∧
      links = .of w.normalEdges := by
  have hnodes : (callbacks.checks.indexNodes {} w.nodes {}).1 = .ok index ↔
      firstFault? (nodeFault? callbacks) [] w.normalNodes = none ∧ index = .of w.normalNodes := by
    rw [fst_indexNodes, unlessFault_eq_ok_iff, eq_comm (a := index)]
    rfl
  have hedges : indexEdges (nodeTable w.normalNodes) {} w.edges = .ok links ↔
      firstFault? (edgeFault? w.normalNodes) [] w.normalEdges = none ∧
        links = .of w.normalEdges := by
    have hlinks : indexEdges (nodeTable w.normalNodes) {} w.edges = _ :=
      indexEdges_of w.normalNodes [] w.edges
    rw [hlinks, admitEdges_eq, eq_comm (a := links)]
    unfold Workflow.normalEdges
    cases firstFault? (edgeFault? w.normalNodes) [] (w.edges.map Edge.normalized) with
    | some reason => simp [Except.map]
    | none => simp [Except.map]
  have hstart (h : firstFault? (nodeFault? callbacks) [] w.normalNodes = none) :
      (NodeIndex.of w.normalNodes).startId ≠ "" ↔
        (w.normalNodes.find? fun n => n.kind == .start) ≠ none := by
    obtain ⟨hsound, -⟩ := (firstFault?_eq_none_iff
      (fun earlier n => @nodeFault?_eq_none_iff callbacks earlier n) _).mp h
    rw [ne_eq, startId_of_eq_empty_iff fun m hm => (hsound m hm).id_ne]
    simp
  constructor
  · rintro ⟨hversion, htwo, hone, hindex, hs, hforms⟩
    obtain ⟨hfault, rfl⟩ := hnodes.mp hindex
    obtain ⟨hedgeFault, rfl⟩ := hedges.mp hforms
    exact ⟨hversion, htwo, hone, hfault, rfl, (hstart hfault).mp hs, hedgeFault, rfl⟩
  · rintro ⟨hversion, htwo, hone, hfault, rfl, hs, hedgeFault, rfl⟩
    exact ⟨hversion, htwo, hone, hnodes.mpr ⟨hfault, rfl⟩, (hstart hfault).mpr hs,
      hedges.mpr ⟨hedgeFault, rfl⟩⟩

/-- The checks let pass what is sound and apart, and the compilation goes on to the chain. -/
theorem Workflow.Passes.remains (h : w.Passes callbacks index links) :
    Remains (index.nodes.map (·.2)) links.edges index.startId (planOf callbacks w) := by
  obtain ⟨hversion, htwo, hone, hnodeFault, rfl, hstart, hedgeFault, rfl⟩ :=
    Workflow.passes_iff.mp h
  obtain ⟨s, hs⟩ := Option.ne_none_iff_exists'.mp hstart
  have hplan : planOf callbacks w =
      (chainOf w.normalNodes w.normalEdges s.id).map (w.planWith s.id) := by
    rw [planOf_eq, if_neg (not_not_intro hversion), if_neg (Nat.not_lt.mpr htwo), if_neg hone,
      hnodeFault, hs, hedgeFault]
    rfl
  have hnodes : (NodeIndex.of w.normalNodes).nodes.map (·.2) = w.normalNodes := by
    simp [NodeIndex.of, nodeTable, Function.comp_def]
  have hstartId : (NodeIndex.of w.normalNodes).startId = s.id := by
    rw [NodeIndex.of, hs]
    rfl
  obtain ⟨-, hapart⟩ := (firstFault?_eq_none_iff
    (fun earlier n => @nodeFault?_eq_none_iff callbacks earlier n) _).mp hnodeFault
  obtain ⟨hsound, hedges⟩ := (firstFault?_eq_none_iff
    (fun earlier e => @edgeFault?_eq_none_iff w.normalNodes earlier e) _).mp hedgeFault
  rw [hplan, hnodes, hstartId]
  exact remains_chainOf hapart (List.mem_of_find?_eq_some hs)
    (by simpa using List.find?_some hs) hsound hedges fun _ => rfl

/-- The checks let a workflow pass that has no violations. -/
theorem Workflow.passes_of_head?_violations (h : (w.violations callbacks).head? = none) :
    w.Passes callbacks (.of w.normalNodes) (.of w.normalEdges) := by
  rw [Workflow.head?_violations, ite_some_eq_none_iff, ite_some_eq_none_iff, ite_some_eq_none_iff,
    Option.or_eq_none_iff, ite_some_eq_none_iff, Option.map_eq_none_iff] at h
  obtain ⟨hversion, htwo, hone, hnodeFault, hstart, hedgeFault⟩ := h
  exact Workflow.passes_iff.mpr ⟨not_not.mp hversion, Nat.not_lt.mp htwo, hone, hnodeFault, rfl,
    hstart, hedgeFault, rfl⟩

/-- A compilation that stops has found a violation, or what the checks leave to be found. -/
theorem planOf_error_cases {stop : CompileStop} (h : planOf callbacks w = .error stop) :
    stop.IsOfChecks callbacks ∨ stop = .refused .startHasIncoming ∨
      stop = .refused .startHasNoOutgoing ∨ ∃ id, stop = .refused (.unreachable id) := by
  cases hviolations : (w.violations callbacks).head? with
  | some violation =>
    rw [planOf_eq_head?_violations, hviolations] at h
    cases h
    exact .inl (Workflow.isOfChecks_of_mem_violations stop (List.mem_of_head? hviolations))
  | none =>
    have hremains := (Workflow.passes_of_head?_violations hviolations).remains
    rw [h] at hremains
    cases hremains with
    | incoming => exact .inr (.inl rfl)
    | noOutgoing => exact .inr (.inr (.inl rfl))
    | unreached => exact .inr (.inr (.inr ⟨_, rfl⟩))

/-- Whether a compilation stops for what a walk finds: something that is wrong on the path, or no
nodes on it. -/
inductive CompileStop.IsOfWalk : CompileStop → Prop
  | cycle : IsOfWalk (.refused .cycle)
  | startInChain : IsOfWalk (.refused .startInChain)
  | emptyChain : IsOfWalk (.refused .emptyChain)
  | missingNode (id : String) : IsOfWalk (.missingNode id)

theorem CompileStop.IsOfWalk.not_isOfChecks {stop : CompileStop} (h : stop.IsOfWalk) :
    ¬stop.IsOfChecks callbacks := by
  intro hchecks
  cases h <;> exact hchecks

/-- No compilation stops for what a walk finds. -/
theorem not_isOfWalk_of_compilePayload {payload : Option (Payload Workflow)} {stop : CompileStop}
    (h : (compilePayload callbacks payload {}).1 = .error stop) : ¬stop.IsOfWalk := by
  cases payload with
  | none =>
    cases h
    rintro ⟨⟩
  | some input =>
    unfold compilePayload at h
    cases hload : input.load Workflow.subject with
    | error error =>
      simp only [hload] at h
      cases h
      rintro ⟨⟩
    | ok w =>
      simp only [hload] at h
      have hplan : planOf callbacks w = .error stop := h
      rcases planOf_error_cases hplan with hchecks | rfl | rfl | ⟨id, rfl⟩
      · exact fun hwalk => hwalk.not_isOfChecks hchecks
      · rintro ⟨⟩
      · rintro ⟨⟩
      · rintro ⟨⟩

end Remaining

/-- What is left to be found once the checks have let a workflow pass decides what its compilation
comes to: a plan or one of three refusals.  No compilation at all stops because a walk meets an id
again, comes to a start or to an id that is no node, or finds no node. -/
theorem planOf_after_checks (callbacks : Callbacks) :
    (∀ w index links, Workflow.Passes callbacks w index links →
      Remains (index.nodes.map (·.2)) links.edges index.startId (planOf callbacks w)) ∧
    ∀ payload stop, (compilePayload callbacks payload {}).1 = .error stop →
      stop ≠ .refused .cycle ∧ stop ≠ .refused .startInChain ∧ stop ≠ .refused .emptyChain ∧
        ∀ id, stop ≠ .missingNode id := by
  refine ⟨fun w index links h => h.remains, fun payload stop h => ?_⟩
  have hwalk := not_isOfWalk_of_compilePayload h
  refine ⟨?_, ?_, ?_, fun id => ?_⟩
  · rintro rfl
    exact hwalk .cycle
  · rintro rfl
    exact hwalk .startInChain
  · rintro rfl
    exact hwalk .emptyChain
  · rintro rfl
    exact hwalk (.missingNode id)

/-- A workflow with a cycle of edges beside the path from its start. -/
def detachedWorkflow : Workflow where
  version := "v1"
  nodes := [
    { id := "again", type := "if_event" },
    { id := "wait", type := "delay" },
    { id := "begin", type := "start" },
    { id := "turn ", type := "delay" }]
  edges := [
    { id := "e1", source := "again", target := "turn" },
    { id := "e2", source := " begin", target := "wait" },
    { id := "e3", source := "turn", target := "again" }]

theorem planOf_after_checks_detachedWorkflow :
    ∃ index links, Workflow.Passes {} detachedWorkflow index links ∧
      Remains (index.nodes.map (·.2)) links.edges index.startId (planOf {} detachedWorkflow) ∧
      planOf {} detachedWorkflow = .error (.refused (.unreachable "again")) := by
  have hnone : (detachedWorkflow.violations {}).head? = none := by decide +kernel
  have hpasses := Workflow.passes_of_head?_violations hnone
  refine ⟨_, _, hpasses, (planOf_after_checks {}).1 _ _ _ hpasses, ?_⟩
  decide +kernel

end JobChain
