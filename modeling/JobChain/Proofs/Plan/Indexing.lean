import JobChain.Plan.Compile
import JobChain.Proofs.Act
import JobChain.Proofs.Table
import Mathlib.Tactic.SplitIfs

/-!
# Compilations told by lists

A compilation keeps what it has read in tables: the nodes by their ids, the id of the start, the ids
of the edges, the successors, and how often each node has been a source and a target.  All of this
can be seen from the lists of the nodes and edges that have been read.  That a name is in a table
says that there is a member with that id; that something has been counted says that there is a
member that counts; and since no id, source or target occurs twice, each table lists its members in
order.  So a compilation can be told without tables, by tests on the members before each.

* `Checks.admitNodes`, `admitEdges`, `chainOf`: nodes, edges and chain without tables.
* `indexNodes_bind_eq`, `indexEdges_of`: reading nodes and edges with the tables and without.
* `Checks.compile_eq`: the compilation.
-/

namespace JobChain

variable {ς : Type}

/-- A result that is at hand unless there is a fault. -/
def unlessFault {ε α : Type} (fault? : Option ε) (a : α) : Except ε α :=
  match fault? with
  | some e => .error e
  | none => .ok a

@[simp] theorem unlessFault_none {ε α : Type} (a : α) :
    unlessFault (none : Option ε) a = .ok a := rfl

@[simp] theorem unlessFault_some {ε α : Type} (e : ε) (a : α) :
    unlessFault (some e) a = .error e := rfl

/-- The first of several faults comes up before anything else. -/
theorem unlessFault_ite {ε α : Type} (p : Prop) [Decidable p] (e : ε) (fault? : Option ε) (a : α) :
    unlessFault (if p then some e else fault?) a =
      if p then .error e else unlessFault fault? a := by
  split <;> rfl

/-! ## Nodes -/

section Nodes

variable (checks : Checks ς)

/-- Checks what the kind of a node asks for, given the nodes before it. -/
def Checks.checkKind (earlier : List Node) (n : Node) : Act CompileStop ς Unit :=
  match n.kind with
  | .start => refuseIf (earlier.any fun m => m.kind == .start) .startNotUnique
  | .textEvent => refuseIf (n.text == "") (.nodeWithoutText n.id)
  | .delay => refuseIf (decide (n.delaySeconds < 0)) (.nodeNegativeDelay n.id)
  | .ifEvent => checks.condition n
  | .custom => refuseIf checks.closed (.nodeUnsupported n.id n.type)

/-- The normal form of a node, given those of the nodes before it. -/
def Checks.admitNode (earlier : List Node) (raw : Node) : Act CompileStop ς Node := do
  let n := raw.normalized
  refuseIf (n.id == "") .nodeWithoutId
  refuseIf (earlier.any fun m => m.id == n.id) (.nodeRepeated n.id)
  if n.kind ≠ .start then
    checks.support n
  checks.checkKind earlier n
  return n

/-- The normal forms of nodes, given those of the nodes before them. -/
def Checks.admitNodes (earlier : List Node) : List Node → Act CompileStop ς (List Node)
  | [] => pure earlier
  | raw :: rest => do
    let n ← checks.admitNode earlier raw
    admitNodes (earlier ++ [n]) rest

end Nodes

/-! ## Edges -/

/-- Whether a node has an id. -/
def hasNode (nodes : List Node) (id : String) : Bool := nodes.any fun n => n.id == id

/-- What is wrong with an edge in normal form, given the nodes and the edges before it. -/
def edgeFault? (nodes : List Node) (earlier : List Edge) (e : Edge) : Option Refusal :=
  if e.id = "" then some .edgeWithoutId
  else if earlier.any (fun f => f.id == e.id) then some (.edgeRepeated e.id)
  else if e.source = "" ∨ e.target = "" then some (.edgeOpen e.id)
  else if e.source = e.target then some (.edgeLoop e.id)
  else if !hasNode nodes e.source then some (.edgeSource e.id e.source)
  else if !hasNode nodes e.target then some (.edgeTarget e.id e.target)
  else if earlier.any (fun f => f.source == e.source) then some (.outgoingRepeated e.source)
  else if earlier.any (fun f => f.target == e.target) then some (.incomingRepeated e.target)
  else none

/-- The normal forms of edges, given those of the edges before them. -/
def admitEdges (nodes : List Node) (earlier : List Edge) : List Edge → Except Refusal (List Edge)
  | [] => .ok earlier
  | raw :: rest => do
    let e ← unlessFault (edgeFault? nodes earlier raw.normalized) raw.normalized
    admitEdges nodes (earlier ++ [e]) rest

/-! ## Chains -/

/-- Nodes by their ids. -/
def nodeTable (nodes : List Node) : Table Node := nodes.map fun n => (n.id, n)

/-- The successor of every node that has one. -/
def nextTable (edges : List Edge) : Table String := edges.map fun e => (e.source, e.target)

/-- The first node, other than a start, that is not in the chain. -/
def firstUnreached? (nodes order : List Node) : Option Node :=
  nodes.find? fun n => n.kind != .start && !order.any fun m => m.id == n.id

/-- The chain from the start through all other nodes. -/
def chainOf (nodes : List Node) (edges : List Edge) (startId : String) :
    Except CompileStop (List Node) :=
  if edges.any fun e => e.target == startId then .error (.refused .startHasIncoming)
  else if !edges.any fun e => e.source == startId then .error (.refused .startHasNoOutgoing)
  else (walkChain (nodeTable nodes) (nextTable edges) startId).bind fun order =>
    if order.isEmpty then .error (.refused .emptyChain)
    else unlessFault ((firstUnreached? nodes order).map fun n => .refused (.unreachable n.id)) order

/-! ## Tables of members -/

section Tables

variable {α β : Type}

theorem Table.has_map_iff (key : α → String) (value : α → β) (l : List α) (name : String) :
    Table.has (l.map fun a => (key a, value a)) name = l.any fun a => key a == name := by
  rw [Bool.eq_iff_iff, Table.has, Option.isSome_iff_ne_none, ne_eq, Table.get?_eq_none_iff]
  simp [Table.names]

/-- A member with a new key goes to the end of the table. -/
theorem Table.put_map (key : α → String) (value : α → β) {l : List α} {a : α}
    (h : (l.any fun b => key b == key a) = false) :
    Table.put (l.map fun a => (key a, value a)) (key a) (value a) =
      (l ++ [a]).map fun a => (key a, value a) := by
  rw [Table.put_eq_append, List.map_append, List.map_singleton]
  simpa [Table.names] using h

/-- If every member has been counted once, a name is counted once or not at all. -/
theorem Table.count_map (key : α → String) (l : List α) (name : String) :
    Table.count (l.map fun a => (key a, 1)) name =
      if l.any fun a => key a == name then 1 else 0 := by
  unfold Table.count
  induction l with
  | nil => rfl
  | cons a rest ih =>
    rw [List.map_cons, Table.get?_cons, List.any_cons]
    by_cases h : key a = name
    · simp [h]
    · rw [if_neg h, ih]
      simp [h]

/-- One more member counts a name twice iff it has been counted before. -/
theorem Table.one_lt_count_put (key : α → String) (l : List α) (name : String) :
    1 < Table.count (Table.put (l.map fun a => (key a, 1)) name
        (Table.count (l.map fun a => (key a, 1)) name + 1)) name ↔
      (l.any fun a => key a == name) = true := by
  rw [Table.count, Table.get?_put, if_pos rfl, Option.getD_some, Table.count_map]
  split_ifs with h <;> simp [h]

end Tables

/-! ## Nodes, indexed -/

/-- What is known of nodes that have been admitted. -/
def NodeIndex.of (nodes : List Node) : NodeIndex where
  nodes := nodeTable nodes
  startId := ((nodes.find? fun n => n.kind == .start).map (·.id)).getD ""

theorem refuseIf_apply (wrong : Bool) (reason : Refusal) (s : ς) :
    refuseIf wrong reason s = (if wrong then .error (.refused reason) else .ok (), s) := by
  cases wrong <;> rfl

theorem refuseIf_false (reason : Refusal) :
    (refuseIf false reason : Act CompileStop ς Unit) = pure () := rfl

/-- What follows a refusal matters only if nothing is wrong. -/
theorem refuseIf_bind_congr {α : Type} {wrong : Bool} {reason : Refusal}
    {f g : Unit → Act CompileStop ς α} (h : wrong = false → f () = g ()) :
    refuseIf wrong reason >>= f = refuseIf wrong reason >>= g := by
  cases wrong with
  | true => rfl
  | false =>
    funext s
    exact congrFun (h rfl) s

section NodeIndex

variable {earlier : List Node} {n : Node}

/-- There is no id of a start iff there is no start, since ids are not empty. -/
theorem startId_of_eq_empty_iff (h : ∀ m ∈ earlier, m.id ≠ "") :
    (NodeIndex.of earlier).startId = "" ↔ (earlier.any fun m => m.kind == .start) = false := by
  unfold NodeIndex.of
  cases hfind : earlier.find? fun m => m.kind == .start with
  | none => simpa using hfind
  | some s =>
    refine iff_of_false (h s (List.mem_of_find?_eq_some hfind)) ?_
    simp only [Bool.not_eq_false, List.any_eq_true]
    exact ⟨s, List.mem_of_find?_eq_some hfind, by simpa using List.find?_some hfind⟩

/-- One more node that has a new id and is not a second start. -/
theorem NodeIndex.add_of (hid : (earlier.any fun m => m.id == n.id) = false)
    (hstart : n.kind = .start → (earlier.any fun m => m.kind == .start) = false) :
    (NodeIndex.of earlier).add n = .of (earlier ++ [n]) := by
  have hnodes : (nodeTable earlier).put n.id n = nodeTable (earlier ++ [n]) :=
    Table.put_map Node.id id hid
  have hid' : (if n.kind = .start then n.id else (NodeIndex.of earlier).startId) =
      (NodeIndex.of (earlier ++ [n])).startId := by
    unfold NodeIndex.of
    rw [List.find?_append]
    by_cases hkind : n.kind = .start
    · have hnone : (earlier.find? fun m => m.kind == .start) = none := by
        simpa using hstart hkind
      simp [hkind, hnone]
    · cases hfind : earlier.find? fun m => m.kind == .start <;> simp [hkind]
  show NodeIndex.mk _ _ = NodeIndex.mk _ _
  rw [hid', ← hnodes]
  rfl

end NodeIndex

/-- Only a start has to be the first. -/
theorem checkFields_eq {checks : Checks ς} (earlier : List Node) {n : Node}
    (h : n.kind ≠ .start) : checks.checkFields n = checks.checkKind earlier n := by
  unfold Checks.checkFields Checks.checkKind
  cases hkind : n.kind with
  | start => exact absurd hkind h
  | _ => rfl

/-- Checking a node against a table and a start is checking it against the nodes before it. -/
theorem normalizeNode_bind_eq {checks : Checks ς} {α : Type} {earlier : List Node} {raw : Node}
    (hids : ∀ m ∈ earlier, m.id ≠ "") {f g : Node → Act CompileStop ς α}
    (hfg : raw.normalized.id ≠ "" →
      (earlier.any fun m => m.id == raw.normalized.id) = false →
      (raw.normalized.kind = .start → (earlier.any fun m => m.kind == .start) = false) →
        f raw.normalized = g raw.normalized) :
    (checks.normalizeNode (NodeIndex.of earlier).nodes raw >>= fun n =>
        refuseIf (n.kind == .start && (NodeIndex.of earlier).startId != "") .startNotUnique >>=
          fun _ => f n) =
      checks.admitNode earlier raw >>= g := by
  have hhas (id : String) : (NodeIndex.of earlier).nodes.has id = earlier.any fun m => m.id == id :=
    Table.has_map_iff Node.id (fun n => n) earlier id
  unfold Checks.normalizeNode Checks.admitNode
  dsimp only
  simp only [hhas]
  generalize raw.normalized = n at hfg ⊢
  by_cases hstart : n.kind = .start
  · have hwrong : ((NodeIndex.of earlier).startId != "") =
        earlier.any fun m => m.kind == .start := by
      rw [Bool.eq_iff_iff, bne_iff_ne, ne_eq, startId_of_eq_empty_iff hids, Bool.not_eq_false]
    have hfields : checks.checkFields n = pure () := by rw [Checks.checkFields, hstart]
    have hkind : checks.checkKind earlier n =
        refuseIf (earlier.any fun m => m.kind == .start) .startNotUnique := by
      rw [Checks.checkKind, hstart]
    simp only [hstart, ne_eq, not_true_eq_false, if_false, Act.bind_assoc, Act.pure_bind, hfields,
      hkind, hwrong, beq_self_eq_true, Bool.true_and]
    refine refuseIf_bind_congr fun hid => refuseIf_bind_congr fun hrepeated => ?_
    exact refuseIf_bind_congr fun hfirst => hfg (by simpa using hid) hrepeated fun _ => hfirst
  · simp only [hstart, ne_eq, not_false_eq_true, if_true, Act.bind_assoc, Act.pure_bind,
      checkFields_eq earlier hstart, beq_eq_false_iff_ne.mpr hstart, Bool.false_and,
      refuseIf_false]
    refine refuseIf_bind_congr fun hid => refuseIf_bind_congr fun hrepeated => ?_
    rw [hfg (by simpa using hid) hrepeated fun h => absurd h hstart]

/-- Indexing nodes is admitting them one after another.  All of them have an id then. -/
theorem indexNodes_bind_eq {checks : Checks ς} {α : Type} {earlier : List Node}
    (hids : ∀ m ∈ earlier, m.id ≠ "") (raws : List Node) {f : NodeIndex → Act CompileStop ς α}
    {g : List Node → Act CompileStop ς α}
    (hfg : ∀ nodes, (∀ n ∈ nodes, n.id ≠ "") → f (.of nodes) = g nodes) :
    checks.indexNodes (.of earlier) raws >>= f = checks.admitNodes earlier raws >>= g := by
  induction raws generalizing earlier with
  | nil => exact hfg earlier hids
  | cons raw rest ih =>
    rw [Checks.indexNodes, Checks.admitNodes, Act.bind_assoc, Act.bind_assoc]
    simp only [Act.bind_assoc]
    refine normalizeNode_bind_eq hids fun hid hrepeated hstart => ?_
    rw [NodeIndex.add_of hrepeated hstart]
    refine ih (List.forall_mem_append.mpr ⟨hids, ?_⟩)
    simpa using hid

/-! ## Edges, indexed -/

/-- What is known of edges that have been admitted. -/
def EdgeIndex.of (edges : List Edge) : EdgeIndex where
  edges := edges
  ids := edges.map (·.id)
  next := nextTable edges
  outDegree := edges.map fun e => (e.source, 1)
  inDegree := edges.map fun e => (e.target, 1)

/-- Checking an edge against the tables is checking it against the nodes and the edges before it. -/
theorem EdgeIndex.add_of (nodes : List Node) (earlier : List Edge) (e : Edge) :
    (EdgeIndex.of earlier).add (nodeTable nodes) e =
      unlessFault (edgeFault? nodes earlier e) (.of (earlier ++ [e])) := by
  have hhas (id : String) : (nodeTable nodes).has id = hasNode nodes id :=
    Table.has_map_iff Node.id (fun n => n) nodes id
  have hids : e.id ∈ (EdgeIndex.of earlier).ids ↔ (earlier.any fun f => f.id == e.id) = true := by
    simp [EdgeIndex.of]
  have hout : 1 < Table.count ((EdgeIndex.of earlier).outDegree.put e.source
        ((EdgeIndex.of earlier).outDegree.count e.source + 1)) e.source ↔
      (earlier.any fun f => f.source == e.source) = true :=
    Table.one_lt_count_put Edge.source earlier e.source
  have hin : 1 < Table.count ((EdgeIndex.of earlier).inDegree.put e.target
        ((EdgeIndex.of earlier).inDegree.count e.target + 1)) e.target ↔
      (earlier.any fun f => f.target == e.target) = true :=
    Table.one_lt_count_put Edge.target earlier e.target
  unfold EdgeIndex.add edgeFault?
  simp only [hhas, hids, hout, hin, unlessFault_ite]
  -- the tests are the same, and an edge that passes them all is new to every table
  refine ite_congr rfl (fun _ => rfl) fun _ => ite_congr rfl (fun _ => rfl) fun _ => ?_
  refine ite_congr rfl (fun _ => rfl) fun _ => ite_congr rfl (fun _ => rfl) fun _ => ?_
  refine ite_congr rfl (fun _ => rfl) fun _ => ite_congr rfl (fun _ => rfl) fun _ => ?_
  refine ite_congr rfl (fun _ => rfl) fun hsource => ite_congr rfl (fun _ => rfl) fun htarget => ?_
  rw [Bool.not_eq_true] at hsource htarget
  have hcountSource : (EdgeIndex.of earlier).outDegree.count e.source = 0 := by
    rw [EdgeIndex.of, Table.count_map Edge.source, hsource]
    rfl
  have hcountTarget : (EdgeIndex.of earlier).inDegree.count e.target = 0 := by
    rw [EdgeIndex.of, Table.count_map Edge.target, htarget]
    rfl
  rw [hcountSource, hcountTarget, unlessFault_none]
  simp only [EdgeIndex.of, nextTable, Nat.zero_add, List.map_append, List.map_singleton]
  rw [Table.put_map Edge.source Edge.target hsource,
    Table.put_map Edge.source (fun _ => 1) hsource,
    Table.put_map Edge.target (fun _ => 1) htarget]
  simp only [List.map_append, List.map_singleton]

/-- Indexing edges is admitting them one after another. -/
theorem indexEdges_of (nodes : List Node) (earlier raws : List Edge) :
    indexEdges (nodeTable nodes) (.of earlier) raws =
      (admitEdges nodes earlier raws).map EdgeIndex.of := by
  induction raws generalizing earlier with
  | nil => rfl
  | cons raw rest ih =>
    rw [indexEdges, admitEdges, EdgeIndex.add_of]
    cases edgeFault? nodes earlier raw.normalized with
    | some reason => rfl
    | none => exact ih _

/-! ## Compilations -/

/-- The first unreached node is the same in a table of nodes and in their list. -/
theorem unreachedNode?_nodeTable (nodes order : List Node) :
    unreachedNode? (nodeTable nodes) order = (firstUnreached? nodes order).map (·.id) := by
  have hreached (n : Node) :
      (order.map (·.id)).contains n.id = order.any fun m => m.id == n.id := by
    rw [Bool.eq_iff_iff]
    simp
  unfold unreachedNode? firstUnreached? nodeTable
  dsimp only
  rw [List.find?_map, Option.map_map]
  simp only [Function.comp_def, hreached]

/-- What is looked for after the edges is what can be wrong with the chain. -/
theorem chainOf_bind_eq {α : Type} (nodes : List Node) (edges : List Edge) (startId : String)
    (f : List Node → Act CompileStop ς α) :
    (do
      refuseIf (decide (0 < (EdgeIndex.of edges).inDegree.count startId)) .startHasIncoming
      refuseIf ((EdgeIndex.of edges).outDegree.count startId == 0) .startHasNoOutgoing
      let order ← Act.ofExcept (walkChain (nodeTable nodes) (EdgeIndex.of edges).next startId)
      refuseIf order.isEmpty .emptyChain
      match unreachedNode? (nodeTable nodes) order with
      | some id => refuse (.unreachable id)
      | none => f order) =
        (Act.ofExcept (chainOf nodes edges startId) >>= f) := by
  have hin : decide (0 < (EdgeIndex.of edges).inDegree.count startId) =
      edges.any fun e => e.target == startId := by
    rw [EdgeIndex.of, Table.count_map Edge.target]
    split_ifs with h <;> simp [h]
  have hout : ((EdgeIndex.of edges).outDegree.count startId == 0) =
      !edges.any fun e => e.source == startId := by
    rw [EdgeIndex.of, Table.count_map Edge.source]
    split_ifs with h <;> simp [h]
  have hnext : (EdgeIndex.of edges).next = nextTable edges := rfl
  unfold chainOf
  rw [hin, hout, hnext]
  cases edges.any fun e => e.target == startId with
  | true => rfl
  | false =>
    cases edges.any fun e => e.source == startId with
    | false => rfl
    | true =>
      cases walkChain (nodeTable nodes) (nextTable edges) startId with
      | error stop => rfl
      | ok order =>
        cases order with
        | nil => rfl
        | cons m rest =>
          show (match unreachedNode? (nodeTable nodes) (m :: rest) with
            | some id => refuse (.unreachable id)
            | none => f (m :: rest)) = Act.ofExcept (unlessFault _ (m :: rest)) >>= f
          rw [unreachedNode?_nodeTable]
          cases firstUnreached? nodes (m :: rest) <;> rfl

/-- A compilation, told by lists. -/
theorem Checks.compile_eq (checks : Checks ς) (w : Workflow) :
    checks.compile w = do
      refuseIf (Text.normal w.version != supportedVersion) (.version w.version)
      refuseIf (decide (w.nodes.length < 2)) .tooFewNodes
      refuseIf w.edges.isEmpty .noEdges
      let nodes ← checks.admitNodes [] w.nodes
      match nodes.find? fun n => n.kind == .start with
      | none => refuse .startNotUnique
      | some start => do
        let edges ← Act.ofExcept ((admitEdges nodes [] w.edges).mapError .refused)
        let order ← Act.ofExcept (chainOf nodes edges start.id)
        return {
          workflow :=
            { version := supportedVersion
              viewport := w.viewport.map Viewport.normalized
              nodes
              edges }
          startId := start.id
          nodes := nodeTable nodes
          next := nextTable edges
          order } := by
  have hedges : decide (w.edges.length < 1) = w.edges.isEmpty := by
    cases w.edges <;> simp
  have hindex : ({} : NodeIndex) = .of [] := rfl
  have hlinks : ({} : EdgeIndex) = .of [] := rfl
  unfold Checks.compile
  rw [hedges, hindex]
  refine refuseIf_bind_congr fun _ => refuseIf_bind_congr fun _ => refuseIf_bind_congr fun _ => ?_
  refine indexNodes_bind_eq (by simp) w.nodes fun nodes hids => ?_
  have hstart : (NodeIndex.of nodes).startId =
      ((nodes.find? fun n => n.kind == .start).map (·.id)).getD "" := rfl
  have hnodes : (NodeIndex.of nodes).nodes = nodeTable nodes := rfl
  rw [hstart, hnodes, hlinks, indexEdges_of]
  cases hfind : nodes.find? fun n => n.kind == .start with
  | none => rfl
  | some start =>
    have hid : (start.id == "") = false := by
      simpa using hids start (List.mem_of_find?_eq_some hfind)
    simp only [Option.map_some, Option.getD_some, hid, refuseIf_false, Act.pure_bind]
    cases admitEdges nodes [] w.edges with
    | error reason => rfl
    | ok edges =>
      have hnodes' : (nodeTable nodes).map (·.2) = nodes := by simp [nodeTable, Function.comp_def]
      rw [hnodes']
      exact chainOf_bind_eq nodes edges start.id _

end JobChain
