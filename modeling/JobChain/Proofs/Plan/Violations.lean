import JobChain.Proofs.Plan.NormalForm

/-!
# The violations of a workflow

All that can be held against the nodes and edges of a workflow, one violation after another: those
of the workflow as a whole, then those of each node given the nodes that are listed before it, then
those of each edge given the nodes and the edges before it.  Each is told by what is written at a
place of the lists and at the places before, and none depends on whether there are others.  A
compilation is over at the first of them.

* `Node.violations`, `Edge.violations`, `Workflow.violations`: the violations, in the order in which
  they are looked for.
* `head?_violations`: the first of them, for a node, an edge and a workflow, is what a compilation
  finds wrong with it.
* `planOf_of_violations`: a workflow that has violations is refused for the first.
-/

namespace JobChain

/-- The violation that there is under a condition. -/
def violationIf {ε : Type} (p : Prop) [Decidable p] (violation : ε) : List ε :=
  if p then [violation] else []

theorem head?_violationIf {ε : Type} {p : Prop} [Decidable p] {violation : ε} :
    (violationIf p violation).head? = if p then some violation else none := by
  unfold violationIf
  split <;> rfl

theorem forall_mem_violationIf {ε : Type} {p : Prop} [Decidable p] {violation : ε}
    {told : ε → Prop} : (∀ stop ∈ violationIf p violation, told stop) ↔ (p → told violation) := by
  unfold violationIf
  split <;> simp_all

/-! ## Nodes -/

/-- What the check of conditions holds against the condition of a node: its failure in words, if it
is ordinary and tells these, and otherwise a failure that is let out. -/
def Callbacks.conditionViolations (callbacks : Callbacks) (id condition : String) :
    List CompileStop :=
  match callbacks.validate with
  | none => []
  | some validate =>
    match validate condition with
    | .ok () => []
    | .error failure =>
      if failure.kind.isOrdinary then
        match failure.said with
        | .ok text => [.refused (.nodeCondition id text)]
        | .error silence => [.escaped silence]
      else [.escaped failure]

/-- What the type of a node asks for and the node does not give: a text, a delay that is not
negative, a condition, a type with a meaning if there is no other way to tell, and to be the first
start. -/
def Node.typeViolations (callbacks : Callbacks) (earlier : List Node) (n : Node) :
    List CompileStop :=
  let id := Text.trim n.id
  let type := Text.normal n.type
  violationIf (type = "text_event" ∧ Text.trim n.text = "") (.refused (.nodeWithoutText id)) ++
  violationIf (type = "delay" ∧ n.delaySeconds < 0) (.refused (.nodeNegativeDelay id)) ++
  (if type = "if_event" then callbacks.conditionViolations id (Text.trim n.ifCondition) else []) ++
  violationIf (type ∉ ["start", "text_event", "delay", "if_event"] ∧ callbacks.supports.isNone)
    (.refused (.nodeUnsupported id type)) ++
  violationIf (type = "start" ∧ ∃ m ∈ earlier, Text.normal m.type = "start")
    (.refused .startNotUnique)

/-- What can be held against a node, given the nodes that are listed before it. -/
def Node.violations (callbacks : Callbacks) (earlier : List Node) (n : Node) : List CompileStop :=
  let id := Text.trim n.id
  let type := Text.normal n.type
  violationIf (id = "") (.refused .nodeWithoutId) ++
  violationIf (∃ m ∈ earlier, Text.trim m.id = id) (.refused (.nodeRepeated id)) ++
  violationIf (type ≠ "start" ∧ callbacks.supports.any fun supports => !supports type)
    (.refused (.nodeUnsupported id type)) ++
  n.typeViolations callbacks earlier

section Nodes

variable {callbacks : Callbacks} {earlier : List Node} {n : Node}

theorem head?_conditionViolations (htype : Text.normal n.type = "if_event") :
    (callbacks.conditionViolations (Text.trim n.id) (Text.trim n.ifCondition)).head? =
      conditionFault? callbacks n.normalized := by
  unfold Callbacks.conditionViolations conditionFault?
  rw [Node.ifCondition_normalized htype, Node.id_normalized]
  cases callbacks.validate with
  | none => rfl
  | some validate =>
    cases h : validate (Text.trim n.ifCondition) with
    | ok => simp [h]
    | error failure =>
      simp only [h, conditionStop]
      cases failure.kind.isOrdinary with
      | false => rfl
      | true => cases failure.said <;> rfl

/-- What the supported types find wrong with a node is a violation by itself. -/
theorem supportFault?_normalized :
    supportFault? callbacks n.normalized =
      if callbacks.supports.any fun supports => !supports (Text.normal n.type) then
        some (.refused (.nodeUnsupported (Text.trim n.id) (Text.normal n.type)))
      else none := by
  unfold supportFault?
  rw [Node.type_normalized, Node.id_normalized]
  cases callbacks.supports with
  | none => rfl
  | some supports => cases h : supports (Text.normal n.type) <;> simp [h]

theorem Node.head?_typeViolations :
    (n.typeViolations callbacks earlier).head? =
      kindFault? callbacks (earlier.map Node.normalized) n.normalized := by
  have hkind : n.normalized.kind = .ofType (Text.normal n.type) := n.kind_normalized
  have hstarts : ((earlier.map Node.normalized).any fun m => m.kind == .start) = true ↔
      ∃ m ∈ earlier, Text.normal m.type = "start" := by
    simp [Node.kind_normalized, NodeKind.ofType_eq_start_iff]
  unfold Node.typeViolations kindFault?
  simp only [List.head?_append, head?_violationIf, Option.or_assoc, Node.id_normalized]
  rw [hkind]
  cases h : NodeKind.ofType (Text.normal n.type) with
  | start =>
    have htype := NodeKind.ofType_eq_start_iff.mp h
    simp only [htype, hstarts]
    simp
  | textEvent =>
    have htype := NodeKind.ofType_eq_textEvent_iff.mp h
    rw [Node.text_normalized htype]
    simp [htype]
  | delay =>
    have htype := NodeKind.ofType_eq_delay_iff.mp h
    rw [Node.delaySeconds_normalized htype]
    simp [htype]
  | ifEvent =>
    have htype := NodeKind.ofType_eq_ifEvent_iff.mp h
    rw [← head?_conditionViolations htype]
    simp [htype]
  | custom =>
    have htype := mt NodeKind.ofType_ne_custom_iff.mpr (not_not_intro h)
    simp only [not_or] at htype
    simp [htype]

/-- The first violation of a node is what a compilation finds wrong with it. -/
theorem Node.head?_violations :
    (n.violations callbacks earlier).head? =
      nodeFault? callbacks (earlier.map Node.normalized) n.normalized := by
  have hrepeated : ((earlier.map Node.normalized).any fun m => m.id == Text.trim n.id) = true ↔
      ∃ m ∈ earlier, Text.trim m.id = Text.trim n.id := by
    simp
  have hstart : n.normalized.kind = .start ↔ Text.normal n.type = "start" := by
    rw [Node.kind_normalized, NodeKind.ofType_eq_start_iff]
  unfold Node.violations nodeFault?
  simp only [List.head?_append, head?_violationIf, Option.or_assoc, Node.head?_typeViolations,
    supportFault?_normalized, Node.id_normalized, hrepeated, hstart]
  by_cases hid : Text.trim n.id = ""
  · simp [hid]
  by_cases hrep : ∃ m ∈ earlier, Text.trim m.id = Text.trim n.id
  · rw [if_neg hid, Option.none_or, if_pos hrep, if_neg hid, if_pos hrep, Option.some_or]
  rw [if_neg hid, Option.none_or, if_neg hrep, Option.none_or, if_neg hid, if_neg hrep]
  by_cases htype : Text.normal n.type = "start" <;> simp [htype]

end Nodes

/-! ## Edges -/

/-- What can be held against an edge, given the nodes of the workflow and the edges that are listed
before it: against its id, against its ends, and against a second edge out of or into a node. -/
def Edge.violations (nodes : List Node) (earlier : List Edge) (e : Edge) : List Refusal :=
  let id := Text.trim e.id
  let source := Text.trim e.source
  let target := Text.trim e.target
  violationIf (id = "") .edgeWithoutId ++
  violationIf (∃ f ∈ earlier, Text.trim f.id = id) (.edgeRepeated id) ++
  violationIf (source = "" ∨ target = "") (.edgeOpen id) ++
  violationIf (source = target) (.edgeLoop id) ++
  violationIf (∀ n ∈ nodes, Text.trim n.id ≠ source) (.edgeSource id source) ++
  violationIf (∀ n ∈ nodes, Text.trim n.id ≠ target) (.edgeTarget id target) ++
  violationIf (∃ f ∈ earlier, Text.trim f.source = source) (.outgoingRepeated source) ++
  violationIf (∃ f ∈ earlier, Text.trim f.target = target) (.incomingRepeated target)

/-- A condition whose violation is the first that there is. -/
theorem ite_some_or {ε : Type} {p : Prop} [Decidable p] {violation : ε} {later : Option ε} :
    (if p then some violation else none).or later = if p then some violation else later := by
  split <;> rfl

/-- The first violation of an edge is what a compilation finds wrong with it. -/
theorem Edge.head?_violations {nodes : List Node} {earlier : List Edge} {e : Edge} :
    (e.violations nodes earlier).head? =
      edgeFault? (nodes.map Node.normalized) (earlier.map Edge.normalized) e.normalized := by
  have hmissing (id : String) : (!hasNode (nodes.map Node.normalized) id) = true ↔
      ∀ n ∈ nodes, Text.trim n.id ≠ id := by
    simp [hasNode]
  have hearlier (field : Edge → String) (text : String) :
      ((earlier.map Edge.normalized).any fun f => field f == text) = true ↔
        ∃ f ∈ earlier, field f.normalized = text := by
    simp
  unfold Edge.violations edgeFault?
  simp only [List.head?_append, head?_violationIf, Option.or_assoc, hmissing, hearlier Edge.id,
    hearlier Edge.source, hearlier Edge.target]
  simp only [ite_some_or]
  rfl

/-! ## Workflows -/

/-- What is held against the members of a list, each given those before it. -/
def violationsOf {α ε : Type} (violations : List α → α → List ε) (l : List α) : List ε :=
  l.zipIdx.flatMap fun place => violations (l.take place.2) place.1

/-- What can be held against a workflow, in the order in which it is looked for. -/
def Workflow.violations (callbacks : Callbacks) (w : Workflow) : List CompileStop :=
  violationIf (Text.normal w.version ≠ "v1") (.refused (.version w.version)) ++
  violationIf (w.nodes.length < 2) (.refused .tooFewNodes) ++
  violationIf (w.edges.length < 1) (.refused .noEdges) ++
  violationsOf (Node.violations callbacks) w.nodes ++
  violationIf (∀ n ∈ w.nodes, Text.normal n.type ≠ "start") (.refused .startNotUnique) ++
  (violationsOf (Edge.violations w.nodes) w.edges).map .refused

/-- The first of all that is held against the members of a list is their first fault. -/
theorem head?_violationsOf {α β ε : Type} {violations : List α → α → List ε}
    {fault? : List β → β → Option ε} {normal : α → β}
    (h : ∀ earlier a, (violations earlier a).head? = fault? (earlier.map normal) (normal a))
    (l : List α) : (violationsOf violations l).head? = firstFault? fault? [] (l.map normal) := by
  -- the places are counted from the members that have been passed
  suffices hpassed : ∀ passed rest, l = passed ++ rest →
      ((rest.zipIdx passed.length).flatMap fun place => violations (l.take place.2) place.1).head? =
        firstFault? fault? (passed.map normal) (rest.map normal) from hpassed [] l rfl
  intro passed rest hl
  induction rest generalizing passed with
  | nil => rfl
  | cons a rest ih =>
    have hpassed : l.take passed.length = passed := by rw [hl, List.take_left]
    have hrest := ih (passed ++ [a]) (by rw [hl, List.append_assoc, List.singleton_append])
    rw [List.length_append, List.length_singleton, List.map_append, List.map_singleton] at hrest
    rw [List.zipIdx_cons, List.flatMap_cons, List.head?_append, hrest, hpassed, h, List.map_cons,
      firstFault?_cons]

/-- The first violation of a workflow, told by the scans of the normal forms. -/
theorem Workflow.head?_violations (callbacks : Callbacks) (w : Workflow) :
    (w.violations callbacks).head? =
      if Text.normal w.version ≠ supportedVersion then some (.refused (.version w.version))
      else if w.nodes.length < 2 then some (.refused .tooFewNodes)
      else if w.edges = [] then some (.refused .noEdges)
      else (firstFault? (nodeFault? callbacks) [] w.normalNodes).or
        (if (w.normalNodes.find? fun n => n.kind == .start) = none then
            some (.refused .startNotUnique)
          else (firstFault? (edgeFault? w.normalNodes) [] w.normalEdges).map .refused) := by
  have hnodes : (violationsOf (Node.violations callbacks) w.nodes).head? =
      firstFault? (nodeFault? callbacks) [] w.normalNodes := by
    have hfault (earlier : List Node) (n : Node) : (n.violations callbacks earlier).head? =
        nodeFault? callbacks (earlier.map Node.normalized) n.normalized :=
      Node.head?_violations
    exact head?_violationsOf hfault w.nodes
  have hedges : (violationsOf (Edge.violations w.nodes) w.edges).head? =
      firstFault? (edgeFault? w.normalNodes) [] w.normalEdges := by
    have hfault (earlier : List Edge) (e : Edge) : (e.violations w.nodes earlier).head? =
        edgeFault? w.normalNodes (earlier.map Edge.normalized) e.normalized :=
      Edge.head?_violations
    exact head?_violationsOf hfault w.edges
  have hstart : (w.normalNodes.find? fun n => n.kind == .start) = none ↔
      ∀ n ∈ w.nodes, Text.normal n.type ≠ "start" := by
    simp [Workflow.normalNodes, Node.kind_normalized, NodeKind.ofType_eq_start_iff]
  have hnoEdges : w.edges.length < 1 ↔ w.edges = [] := by
    simp
  have hversion : supportedVersion = "v1" := rfl
  simp only [Workflow.violations, List.head?_append, head?_violationIf, List.head?_map, hnodes,
    hedges, ← hstart, hnoEdges, Option.or_assoc, hversion]
  simp only [ite_some_or]

/-- A compilation is over at the first violation.  If there is none, what is left to be found is the
chain from the start. -/
theorem planOf_eq_head?_violations (callbacks : Callbacks) (w : Workflow) :
    planOf callbacks w =
      match (w.violations callbacks).head? with
      | some stop => .error stop
      | none =>
        match w.normalNodes.find? fun n => n.kind == .start with
        | none => .error (.refused .startNotUnique)
        | some start =>
          (chainOf w.normalNodes w.normalEdges start.id).map (w.planWith start.id) := by
  rw [planOf_eq, Workflow.head?_violations]
  by_cases hversion : Text.normal w.version ≠ supportedVersion
  · rw [if_pos hversion, if_pos hversion]
  by_cases htwo : w.nodes.length < 2
  · rw [if_neg hversion, if_pos htwo, if_neg hversion, if_pos htwo]
  by_cases hne : w.edges = []
  · rw [if_neg hversion, if_neg htwo, if_pos hne, if_neg hversion, if_neg htwo, if_pos hne]
  rw [if_neg hversion, if_neg htwo, if_neg hne, if_neg hversion, if_neg htwo, if_neg hne]
  cases firstFault? (nodeFault? callbacks) [] w.normalNodes with
  | some stop => rfl
  | none =>
    cases w.normalNodes.find? fun n => n.kind == .start with
    | none => rfl
    | some start => cases firstFault? (edgeFault? w.normalNodes) [] w.normalEdges <;> rfl

/-! ## How violations are told -/

/-- Whether a reason is told by a sentence of its own, as those for which a payload has no content
are not. -/
def Refusal.IsTold (reason : Refusal) : Prop :=
  reason.toFailure = .of .validation reason.message

/-- The failures that the check of conditions ends with. -/
def Callbacks.Raises (callbacks : Callbacks) (failure : Failure) : Prop :=
  ∃ validate, callbacks.validate = some validate ∧ ∃ condition, validate condition = .error failure

/-- The failures that a compilation lets out: those of the check of conditions that are not
ordinary, and what comes up when an ordinary one does not tell its text. -/
inductive Callbacks.LetsOut (callbacks : Callbacks) : Failure → Prop
  | raised {failure : Failure} (hraised : callbacks.Raises failure)
      (hordinary : failure.kind.isOrdinary = false) : LetsOut callbacks failure
  | silent {failure silence : Failure} (hraised : callbacks.Raises failure)
      (hordinary : failure.kind.isOrdinary = true) (hsilent : failure.said = .error silence) :
      LetsOut callbacks silence

/-- The ordinary failures of the check of conditions tell their texts. -/
def Callbacks.TellsFailures (callbacks : Callbacks) : Prop :=
  ∀ failure, callbacks.Raises failure → failure.kind.isOrdinary = true →
    ∃ text, failure.said = .ok text

/-- If ordinary failures tell their texts, then only others are let out. -/
theorem Callbacks.LetsOut.raises {callbacks : Callbacks} {failure : Failure}
    (h : callbacks.LetsOut failure) (htells : callbacks.TellsFailures) :
    callbacks.Raises failure ∧ failure.kind.isOrdinary = false := by
  cases h with
  | raised hraised hordinary => exact ⟨hraised, hordinary⟩
  | silent hraised hordinary hsilent =>
    obtain ⟨text, htext⟩ := htells _ hraised hordinary
    cases hsilent.symm.trans htext

/-- A compilation that stops tells why by a sentence of its own, or lets a failure out. -/
def CompileStop.IsTold (callbacks : Callbacks) : CompileStop → Prop
  | .refused reason => reason.IsTold
  | .missingNode _ => False
  | .escaped failure => callbacks.LetsOut failure

/-- Whether a reason is one for which the checks of a workflow, of its nodes and of its edges refuse
it, and not one for which there is no workflow or no chain. -/
def Refusal.IsOfChecks : Refusal → Prop
  | noWorkflow | payload _ | startHasIncoming | startHasNoOutgoing | cycle | startInChain
  | emptyChain | unreachable _ => False
  | _ => True

/-- Whether a compilation can be over for a violation: a refusal of the checks, or a failure that is
let out. -/
def CompileStop.IsOfChecks (callbacks : Callbacks) : CompileStop → Prop
  | .refused reason => reason.IsOfChecks
  | .missingNode _ => False
  | .escaped failure => callbacks.LetsOut failure

theorem forall_mem_violationsOf {α ε : Type} {violations : List α → α → List ε} {told : ε → Prop}
    (h : ∀ earlier a, ∀ stop ∈ violations earlier a, told stop) (l : List α) :
    ∀ stop ∈ violationsOf violations l, told stop := by
  intro stop hstop
  obtain ⟨place, -, hmem⟩ := List.mem_flatMap.mp hstop
  exact h _ _ stop hmem

section Told

variable {callbacks : Callbacks}

/-- The refusals of the checks are told by their own sentences. -/
theorem CompileStop.IsOfChecks.isTold {stop : CompileStop} (h : stop.IsOfChecks callbacks) :
    stop.IsTold callbacks := by
  cases stop with
  | refused reason =>
    cases reason with
    | payload error => exact h.elim
    | _ => rfl
  | missingNode id => exact h
  | escaped failure => exact h

theorem Callbacks.isOfChecks_of_mem_conditionViolations {id condition : String} :
    ∀ stop ∈ callbacks.conditionViolations id condition, stop.IsOfChecks callbacks := by
  intro stop hstop
  unfold Callbacks.conditionViolations at hstop
  split at hstop
  · cases hstop
  case h_2 validate hvalidate =>
    split at hstop
    · cases hstop
    case h_2 failure hfailure =>
      have hraised : callbacks.Raises failure := ⟨validate, hvalidate, condition, hfailure⟩
      split at hstop
      case isTrue hkind =>
        split at hstop
        case h_1 text htext =>
          rw [List.mem_singleton.mp hstop]
          trivial
        case h_2 silence hsilent =>
          rw [List.mem_singleton.mp hstop]
          exact .silent hraised hkind hsilent
      case isFalse hkind =>
        rw [List.mem_singleton.mp hstop]
        exact .raised hraised (Bool.eq_false_iff.mpr hkind)

theorem Node.isOfChecks_of_mem_violations (earlier : List Node) (n : Node) :
    ∀ stop ∈ n.violations callbacks earlier, stop.IsOfChecks callbacks := by
  have hcondition : ∀ stop ∈ (if Text.normal n.type = "if_event" then
      callbacks.conditionViolations (Text.trim n.id) (Text.trim n.ifCondition) else []),
      stop.IsOfChecks callbacks := by
    split
    · exact Callbacks.isOfChecks_of_mem_conditionViolations
    · simp
  simp only [Node.violations, Node.typeViolations, List.forall_mem_append, forall_mem_violationIf]
  exact ⟨⟨⟨fun _ => trivial, fun _ => trivial⟩, fun _ => trivial⟩,
    ⟨⟨⟨fun _ => trivial, fun _ => trivial⟩, hcondition⟩, fun _ => trivial⟩, fun _ => trivial⟩

theorem Edge.isOfChecks_of_mem_violations {nodes : List Node} (earlier : List Edge) (e : Edge) :
    ∀ reason ∈ e.violations nodes earlier, reason.IsOfChecks := by
  simp only [Edge.violations, List.forall_mem_append, forall_mem_violationIf]
  simp [Refusal.IsOfChecks]

theorem Workflow.isOfChecks_of_mem_violations {w : Workflow} :
    ∀ stop ∈ w.violations callbacks, stop.IsOfChecks callbacks := by
  have hnodes : ∀ stop ∈ violationsOf (Node.violations callbacks) w.nodes,
      stop.IsOfChecks callbacks :=
    forall_mem_violationsOf Node.isOfChecks_of_mem_violations w.nodes
  have hedges : ∀ reason ∈ violationsOf (Edge.violations w.nodes) w.edges, reason.IsOfChecks :=
    forall_mem_violationsOf Edge.isOfChecks_of_mem_violations w.edges
  simp only [Workflow.violations, List.forall_mem_append, forall_mem_violationIf,
    List.forall_mem_map]
  exact ⟨⟨⟨⟨⟨fun _ => trivial, fun _ => trivial⟩, fun _ => trivial⟩, hnodes⟩, fun _ => trivial⟩,
    hedges⟩

theorem Workflow.isTold_of_mem_violations {w : Workflow} :
    ∀ stop ∈ w.violations callbacks, stop.IsTold callbacks :=
  fun stop hstop => (Workflow.isOfChecks_of_mem_violations stop hstop).isTold

end Told

/-- The compilation of a workflow that has violations ends at the first.  It is told by a failure of
validation in the words of that violation, or it is a failure that is let out; and if the ordinary
failures of the check of conditions tell their texts, then this is one that is not ordinary. -/
theorem planOf_of_violations {callbacks : Callbacks} {w : Workflow} {stop : CompileStop}
    {later : List CompileStop} (h : w.violations callbacks = stop :: later) :
    planOf callbacks w = .error stop ∧
      ((∃ reason, stop = .refused reason ∧ stop.toFailure = .of .validation reason.message) ∨
        ∃ failure, stop = .escaped failure ∧ stop.toFailure = failure ∧
          callbacks.LetsOut failure ∧
          (callbacks.TellsFailures →
            callbacks.Raises failure ∧ failure.kind.isOrdinary = false)) := by
  have hplan : planOf callbacks w = .error stop := by
    rw [planOf_eq_head?_violations, h]
    rfl
  have htold : stop.IsTold callbacks :=
    Workflow.isTold_of_mem_violations stop (h ▸ List.mem_cons_self)
  refine ⟨hplan, ?_⟩
  cases stop with
  | refused reason => exact .inl ⟨reason, rfl, htold⟩
  | missingNode id => exact htold.elim
  | escaped failure => exact .inr ⟨failure, rfl, rfl, htold, htold.raises⟩

/-- A drawing with something wrong at most of its places. -/
def brokenWorkflow : Workflow where
  version := " V1"
  nodes := [
    { id := "begin", type := "start" },
    { id := " ask", type := "if_event", ifCondition := " job_id " },
    { id := "ask ", type := " Delay", delaySeconds := -1 },
    { id := " ", type := "mail" },
    { id := "again", type := "START", text := "gone" }]
  edges := [
    { id := "e1", source := "begin", target := " ask" },
    { id := " e1 ", source := "ask", target := "ask " },
    { id := "e2", source := " ask", target := "lost" },
    { id := "", source := "begin ", target := "ask" }]

/-- Callbacks of which one rejects every condition and the other knows no mail. -/
def strictCallbacks : Callbacks where
  supports := some fun type => type ≠ "mail"
  validate := some fun condition => .error (.of .condition ("no operator in " ++ condition))

theorem planOf_of_violations_brokenWorkflow :
    brokenWorkflow.violations strictCallbacks =
        ([.nodeCondition "ask" "no operator in job_id", .nodeRepeated "ask",
          .nodeNegativeDelay "ask", .nodeWithoutId, .nodeUnsupported "" "mail", .startNotUnique,
          .edgeRepeated "e1", .edgeLoop "e1", .incomingRepeated "ask", .edgeTarget "e2" "lost",
          .outgoingRepeated "ask", .edgeWithoutId, .outgoingRepeated "begin",
          .incomingRepeated "ask"] : List Refusal).map .refused ∧
      planOf strictCallbacks brokenWorkflow =
        .error (.refused (.nodeCondition "ask" "no operator in job_id")) := by
  refine (and_iff_left_of_imp fun h => (planOf_of_violations h).1).mpr ?_
  decide +kernel

end JobChain
