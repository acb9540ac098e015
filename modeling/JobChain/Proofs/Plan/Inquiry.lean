import JobChain.Proofs.Plan.Inspection

/-!
# When callbacks are asked

A compilation asks its callbacks about one node after another, until it comes to a plan or stops.
What it asks about a node does not depend on anything that comes later.  So from the workflow and
the answers it can be told which questions there were, also if the compilation fails: those about
the nodes that have passed, and then those about the first that does not pass, as far as it gets.

* `Inspected`: nodes that are looked at one after another, up to the first that does not pass.
* `Workflow.IsQuestioned`: what a compilation asks, told from the workflow.
* `isQuestioned_compile`: it asks that, whatever callbacks do.
-/

namespace JobChain

/-! ## Nodes one after another -/

/-- The types of all nodes but starts, in normal form. -/
def executableTypes (nodes : List Node) : List String :=
  (nodes.filter fun n => Text.normal n.type ≠ "start").map fun n => Text.normal n.type

/-- The conditions of the nodes that test one, trimmed. -/
def testedConditions (nodes : List Node) : List String :=
  (nodes.filter fun n => Text.normal n.type = "if_event").map fun n => Text.trim n.ifCondition

/-- What is asked about the types of nodes that pass, which are accepted. -/
def acceptedTypes (supported : Bool) (nodes : List Node) : List (String × Except Failure Bool) :=
  if supported then (executableTypes nodes).map fun type => (type, .ok true) else []

/-- What is asked about the conditions of nodes that pass, which are approved. -/
def approvedConditions (validated : Bool) (nodes : List Node) :
    List (String × Except Failure Unit) :=
  if validated then (testedConditions nodes).map fun condition => (condition, .ok ()) else []

/-- Nodes are looked at one after another, given those before them.  The first of them pass; the
next does not, if there is a next, and those after it are not looked at. -/
structure Inspected (supported validated : Bool) (earlier nodes passed : List Node)
    (failing? : Option Inspection) : Prop where
  nodes : ∃ later, nodes = passed ++ (failing?.map (·.node)).toList ++ later ∧
    (failing? = none → later = [])
  passes : ∀ front n back, passed = front ++ n :: back →
    n.IsNew (earlier ++ front) ∧ n.SuitsType supported (earlier ++ front)
  fails : ∀ i, failing? = some i →
    i.IsDue supported validated (earlier ++ passed) ∧ ¬i.Passes supported (earlier ++ passed)

/-- The dialogue after questions about nodes that pass and about one that does not, if there is
one. -/
def Dialogue.through (supported validated : Bool) (passed : List Node)
    (failing? : Option Inspection) (d : Dialogue) : Dialogue where
  types := d.types ++ acceptedTypes supported passed ++
    (failing?.bind Inspection.typeExchange?).toList
  conditions := d.conditions ++ approvedConditions validated passed ++
    (failing?.bind Inspection.conditionExchange?).toList

section Nodes

variable {supported validated : Bool} {earlier : List Node} {i : Inspection}

theorem executableTypes_append (front back : List Node) :
    executableTypes (front ++ back) = executableTypes front ++ executableTypes back := by
  rw [executableTypes, List.filter_append, List.map_append, executableTypes, executableTypes]

theorem testedConditions_append (front back : List Node) :
    testedConditions (front ++ back) = testedConditions front ++ testedConditions back := by
  rw [testedConditions, List.filter_append, List.map_append, testedConditions, testedConditions]

theorem acceptedTypes_cons (n : Node) (nodes : List Node) :
    acceptedTypes supported (n :: nodes) =
      acceptedTypes supported [n] ++ acceptedTypes supported nodes := by
  unfold acceptedTypes
  split_ifs
  · rw [← List.map_append, ← executableTypes_append, List.singleton_append]
  · rfl

theorem approvedConditions_cons (n : Node) (nodes : List Node) :
    approvedConditions validated (n :: nodes) =
      approvedConditions validated [n] ++ approvedConditions validated nodes := by
  unfold approvedConditions
  split_ifs
  · rw [← List.map_append, ← testedConditions_append, List.singleton_append]
  · rfl

theorem map_fst_acceptedTypes (nodes : List Node) :
    (acceptedTypes supported nodes).map Prod.fst =
      if supported then executableTypes nodes else [] := by
  cases supported <;> simp [acceptedTypes, Function.comp_def]

theorem map_fst_approvedConditions (nodes : List Node) :
    (approvedConditions validated nodes).map Prod.fst =
      if validated then testedConditions nodes else [] := by
  cases validated <;> simp [approvedConditions, Function.comp_def]

/-- What is asked about a node that passes. -/
theorem Inspection.Passes.exchanges (hpasses : i.Passes supported earlier)
    (hdue : i.IsDue supported validated earlier) :
    i.typeExchange?.toList = acceptedTypes supported [i.node] ∧
      i.conditionExchange?.toList = approvedConditions validated [i.node] := by
  have htype : i.type? =
      if supported = true ∧ Text.normal i.node.type ≠ "start" then some (.ok true) else none := by
    split_ifs with hasked
    · have hsome := hdue.type_iff.mpr ⟨hasked.1, hpasses.isNew, hasked.2⟩
      obtain ⟨answer, hanswer⟩ := Option.isSome_iff_exists.mp hsome
      rw [hanswer, hpasses.accepted answer hanswer]
    · exact Option.not_isSome_iff_eq_none.mp fun hsome =>
        hasked ((hdue.type_iff.mp hsome).imp_right And.right)
  have hcondition : i.condition? =
      if validated = true ∧ Text.normal i.node.type = "if_event" then some (.ok ()) else none := by
    split_ifs with hasked
    · have hyes (hsupported : supported = true) : i.type? = some (.ok true) := by
        rw [htype, if_pos ⟨hsupported, by simp [hasked.2]⟩]
      have hsome := hdue.condition_iff.mpr ⟨hasked.1, hpasses.isNew, hasked.2, hyes⟩
      obtain ⟨answer, hanswer⟩ := Option.isSome_iff_exists.mp hsome
      rw [hanswer, hpasses.approved answer hanswer]
    · exact Option.not_isSome_iff_eq_none.mp fun hsome =>
        hasked ((hdue.condition_iff.mp hsome).imp_right fun hrest => hrest.2.1)
  constructor
  · unfold Inspection.typeExchange? acceptedTypes executableTypes
    rw [htype]
    cases supported <;> by_cases hstart : Text.normal i.node.type = "start" <;> simp [hstart]
  · unfold Inspection.conditionExchange? approvedConditions testedConditions
    rw [hcondition]
    cases validated <;> by_cases hif : Text.normal i.node.type = "if_event" <;> simp [hif]

theorem Dialogue.through_nil (d : Dialogue) : d.through supported validated [] none = d := by
  simp [through, acceptedTypes, approvedConditions, executableTypes, testedConditions]

/-- Where the first node does not pass, the questions are those about it. -/
theorem Dialogue.through_some (d : Dialogue) (i : Inspection) :
    d.through supported validated [] (some i) = d.after i := by
  simp [through, after, acceptedTypes, approvedConditions, executableTypes, testedConditions]

/-- Where the first node passes, the questions about it come before those about the others. -/
theorem Dialogue.through_cons (d : Dialogue) (hpasses : i.Passes supported earlier)
    (hdue : i.IsDue supported validated earlier) (passed : List Node)
    (failing? : Option Inspection) :
    d.through supported validated (i.node :: passed) failing? =
      (d.after i).through supported validated passed failing? := by
  obtain ⟨htypes, hconditions⟩ := hpasses.exchanges hdue
  unfold through after
  rw [acceptedTypes_cons, approvedConditions_cons, htypes, hconditions]
  simp only [List.append_assoc]

namespace Inspected

variable {rest passed : List Node} {failing? : Option Inspection}

theorem nil : Inspected supported validated earlier [] [] none where
  nodes := ⟨[], rfl, fun _ => rfl⟩
  passes := by simp
  fails := by simp

theorem of_not_passes (hdue : i.IsDue supported validated earlier)
    (hfails : ¬i.Passes supported earlier) (later : List Node) :
    Inspected supported validated earlier (i.node :: later) [] (some i) where
  nodes := ⟨later, rfl, fun hnone => by cases hnone⟩
  passes := by simp
  fails := by
    rintro _ ⟨⟩
    rw [List.append_nil]
    exact ⟨hdue, hfails⟩

theorem cons (hpasses : i.Passes supported earlier)
    (h : Inspected supported validated (earlier ++ [i.node]) rest passed failing?) :
    Inspected supported validated earlier (i.node :: rest) (i.node :: passed) failing? where
  nodes := by
    obtain ⟨later, hrest, hlater⟩ := h.nodes
    exact ⟨later, by rw [hrest]; rfl, hlater⟩
  passes := by
    intro front n back hsplit
    cases front with
    | nil =>
      obtain ⟨rfl, -⟩ := List.cons.inj hsplit
      rw [List.append_nil]
      exact ⟨hpasses.isNew, hpasses.suits⟩
    | cons m front =>
      obtain ⟨rfl, hpassed⟩ := List.cons.inj hsplit
      rw [← List.singleton_append, ← List.append_assoc]
      exact h.passes front n back hpassed
  fails := by
    rw [← List.singleton_append, ← List.append_assoc]
    exact h.fails

end Inspected

end Nodes

namespace Respondents

variable {σ : Type}

/-- Nodes are inspected one after another, and admitted iff all of them pass. -/
theorem exists_inspected (r : Respondents σ) (earlier nodes : List Node) (heard : Heard σ) :
    ∃ passed failing?,
      Inspected r.supports.isSome r.validate.isSome earlier nodes passed failing? ∧
      (r.checks.admitNodes (earlier.map Node.normalized) nodes heard).2.dialogue =
        heard.dialogue.through r.supports.isSome r.validate.isSome passed failing? ∧
      TellsWhether (failing? = none) ((earlier ++ nodes).map Node.normalized)
        (r.checks.admitNodes (earlier.map Node.normalized) nodes heard).1 := by
  induction nodes generalizing earlier heard with
  | nil =>
    refine ⟨[], none, .nil, (Dialogue.through_nil _).symm, ?_⟩
    rw [List.append_nil]
    exact ⟨fun _ => rfl, fun hnone => absurd rfl hnone⟩
  | cons n rest ih =>
    obtain ⟨i, rfl, hdue, hdialogue, htells⟩ := r.exists_inspection earlier n heard
    rw [Checks.admitNodes]
    generalize r.checks.admitNode (earlier.map Node.normalized) i.node = check
      at hdialogue htells ⊢
    by_cases hpasses : i.Passes r.supports.isSome earlier
    case neg =>
      obtain ⟨stop, hstop⟩ := htells.bind_of_not hpasses fun n =>
        r.checks.admitNodes (earlier.map Node.normalized ++ [n]) rest
      rw [hstop]
      refine ⟨[], some i, .of_not_passes hdue hpasses rest, ?_, ⟨?_, fun _ => ⟨stop, rfl⟩⟩⟩
      · rw [Dialogue.through_some]
        exact hdialogue
      · intro hnone
        cases hnone
    rw [htells.bind_of hpasses]
    obtain ⟨passed, failing?, hinspected, hdialogue', htells'⟩ :=
      ih (earlier ++ [i.node]) (check heard).2
    have hearlier : (earlier ++ [i.node]).map Node.normalized =
        earlier.map Node.normalized ++ [i.node.normalized] := List.map_append
    rw [hearlier] at hdialogue' htells'
    rw [List.append_assoc, List.singleton_append] at htells'
    refine ⟨i.node :: passed, failing?, hinspected.cons hpasses, ?_, htells'⟩
    rw [hdialogue', hdialogue, Dialogue.through_cons _ hpasses hdue]

end Respondents

/-! ## Workflows -/

/-- The workflow has the version that is compiled, and nodes and edges enough to be looked at. -/
def Workflow.HasParts (w : Workflow) : Prop :=
  Text.normal w.version = "v1" ∧ 2 ≤ w.nodes.length ∧ 1 ≤ w.edges.length

/-- What is asked while a workflow is compiled, told from the workflow and the answers.  Nothing is
asked if its version or the number of its nodes or edges is wrong.  Otherwise there are questions
about the nodes that pass and about the first that does not, with which the compilation stops, and
no others.  They are asked in the order of the nodes, once about each, and never about the type of a
start; and if there is a plan, about all nodes. -/
structure Workflow.IsQuestioned (supported validated : Bool) (w : Workflow)
    (outcome : Except CompileStop Plan) (d : Dialogue) : Prop where
  unfit : ¬w.HasParts → d = {} ∧ ∃ stop, outcome = .error stop
  inTurn : w.HasParts → ∃ passed failing?,
    Inspected supported validated [] w.nodes passed failing? ∧
    (∀ i, failing? = some i → ∃ stop, outcome = .error stop) ∧
    d.types = acceptedTypes supported passed ++ (failing?.bind Inspection.typeExchange?).toList ∧
    d.conditions = approvedConditions validated passed ++
      (failing?.bind Inspection.conditionExchange?).toList
  types_sublist : d.calls.supports.Sublist (executableTypes w.nodes)
  conditions_sublist : d.calls.validate.Sublist (testedConditions w.nodes)
  complete : ∀ p, outcome = .ok p →
    d.calls.supports = (if supported then executableTypes w.nodes else []) ∧
    d.calls.validate = if validated then testedConditions w.nodes else []

section Workflow

variable {supported validated : Bool} {w : Workflow} {outcome : Except CompileStop Plan}
  {d : Dialogue} {ς : Type}

/-- A workflow without the parts is refused before anything is asked. -/
theorem Checks.compile_of_not_hasParts (checks : Checks ς) (hparts : ¬w.HasParts) (s : ς) :
    ∃ stop, checks.compile w s = (.error stop, s) := by
  rw [Checks.compile_eq]
  simp only [Act.bind_apply, refuseIf_apply]
  by_cases hversion : Text.normal w.version = "v1"
  case neg => exact ⟨.refused (.version w.version), by simp [hversion, supportedVersion]⟩
  by_cases htwo : w.nodes.length < 2
  case pos => exact ⟨.refused .tooFewNodes, by simp [hversion, supportedVersion, htwo]⟩
  have hedges : w.edges = [] := by
    by_contra hne
    exact hparts ⟨hversion, Nat.not_lt.mp htwo, List.length_pos_iff.mpr hne⟩
  exact ⟨.refused .noEdges, by simp [hversion, supportedVersion, htwo, hedges]⟩

/-- A workflow with the parts has its nodes admitted, and nothing is asked after that. -/
theorem Checks.compile_of_hasParts (checks : Checks ς) (hparts : w.HasParts) :
    ∃ finish : List Node → Act CompileStop ς Plan, (∀ nodes s, (finish nodes s).2 = s) ∧
      checks.compile w = checks.admitNodes [] w.nodes >>= finish := by
  obtain ⟨hversion, htwo, hedges⟩ := hparts
  have hversion' : (Text.normal w.version != supportedVersion) = false := by
    simp [hversion, supportedVersion]
  have htwo' : decide (w.nodes.length < 2) = false := decide_eq_false (Nat.not_lt.mpr htwo)
  have hedges' : w.edges.isEmpty = false := by
    rw [List.isEmpty_eq_false_iff]
    exact List.length_pos_iff.mp hedges
  rw [Checks.compile_eq]
  simp only [hversion', htwo', hedges', refuseIf_false, Act.pure_bind]
  refine ⟨_, fun nodes s => ?_, rfl⟩
  cases nodes.find? fun n => n.kind == .start with
  | none => rfl
  | some start =>
    exact Act.snd_ofExcept_bind (fun edges s => Act.snd_ofExcept_bind (fun order s => rfl) s) s

/-- The questions of a compilation are those that its nodes give rise to, one after another,
whatever the callbacks do. -/
theorem inTurn_compile {σ : Type} (r : Respondents σ) (hparts : w.HasParts) (s : σ) :
    ∃ passed failing?,
      Inspected r.supports.isSome r.validate.isSome [] w.nodes passed failing? ∧
      (∀ i, failing? = some i → ∃ stop, (r.compile w ⟨s, {}⟩).1 = .error stop) ∧
      (r.compile w ⟨s, {}⟩).2.dialogue =
        ({} : Dialogue).through r.supports.isSome r.validate.isSome passed failing? := by
  obtain ⟨finish, hfinish, hcompile⟩ := r.checks.compile_of_hasParts hparts
  obtain ⟨passed, failing?, hinspected, hdialogue, htells⟩ := r.exists_inspected [] w.nodes ⟨s, {}⟩
  rw [List.map_nil] at hdialogue htells
  refine ⟨passed, failing?, hinspected, ?_⟩
  rw [Respondents.compile, hcompile, ← hdialogue]
  by_cases hnone : failing? = none
  case pos =>
    rw [htells.bind_of hnone, hfinish]
    refine ⟨fun i hsome => ?_, rfl⟩
    rw [hnone] at hsome
    cases hsome
  obtain ⟨stop, hstop⟩ := htells.bind_of_not hnone finish
  rw [hstop]
  exact ⟨fun _ _ => ⟨stop, rfl⟩, rfl⟩

namespace Inspected

variable {nodes passed : List Node} {failing? : Option Inspection}

/-- What is taken from the nodes that pass, or nothing, and perhaps from the next one is taken from
nodes in their order. -/
theorem sublist_of_append {f : List Node → List String}
    (happend : ∀ front back, f (front ++ back) = f front ++ f back)
    (h : Inspected supported validated [] nodes passed failing?) (asked : Bool)
    {back : List String} (hback : back.Sublist (f (failing?.map (·.node)).toList)) :
    ((if asked then f passed else []) ++ back).Sublist (f nodes) := by
  obtain ⟨later, hnodes, -⟩ := h.nodes
  have hfront : (if asked then f passed else []).Sublist (f passed) := by
    split_ifs
    · exact .refl _
    · exact List.nil_sublist _
  rw [hnodes, happend, happend]
  exact (hfront.append hback).trans (List.sublist_append_left _ _)

/-- The types that are asked about are those of nodes in their order, starts left out. -/
theorem types_sublist (h : Inspected supported validated [] nodes passed failing?) :
    (({} : Dialogue).through supported validated passed failing?).calls.supports.Sublist
      (executableTypes nodes) := by
  show (List.map Prod.fst ([] ++ _ ++ _)).Sublist _
  rw [List.nil_append, List.map_append, map_fst_acceptedTypes]
  refine h.sublist_of_append executableTypes_append _ ?_
  cases failing? with
  | none => exact List.nil_sublist _
  | some i =>
    obtain ⟨hdue, -⟩ := h.fails i rfl
    cases hasked : i.type? with
    | none => simp [Inspection.typeExchange?, hasked]
    | some answer =>
      have hstart := (hdue.type_iff.mp (Option.isSome_of_eq_some hasked)).2.2
      simp [Inspection.typeExchange?, hasked, executableTypes, hstart]

/-- The conditions that are asked about are those of nodes in their order. -/
theorem conditions_sublist (h : Inspected supported validated [] nodes passed failing?) :
    (({} : Dialogue).through supported validated passed failing?).calls.validate.Sublist
      (testedConditions nodes) := by
  show (List.map Prod.fst ([] ++ _ ++ _)).Sublist _
  rw [List.nil_append, List.map_append, map_fst_approvedConditions]
  refine h.sublist_of_append testedConditions_append _ ?_
  cases failing? with
  | none => exact List.nil_sublist _
  | some i =>
    obtain ⟨hdue, -⟩ := h.fails i rfl
    cases hasked : i.condition? with
    | none => simp [Inspection.conditionExchange?, hasked]
    | some answer =>
      have htype := (hdue.condition_iff.mp (Option.isSome_of_eq_some hasked)).2.2.1
      simp [Inspection.conditionExchange?, hasked, testedConditions, htype]

/-- Where no node fails, all of them pass. -/
theorem eq_of_none (h : Inspected supported validated [] nodes passed none) : passed = nodes := by
  obtain ⟨later, hnodes, hlater⟩ := h.nodes
  rw [hnodes, hlater rfl]
  simp

end Inspected

/-- Whatever callbacks do, they are asked what the workflow and their answers give rise to. -/
theorem isQuestioned_compile {σ : Type} (r : Respondents σ) (w : Workflow) (s : σ) :
    w.IsQuestioned r.supports.isSome r.validate.isSome (r.compile w ⟨s, {}⟩).1
      (r.compile w ⟨s, {}⟩).2.dialogue := by
  by_cases hparts : w.HasParts
  case neg =>
    obtain ⟨stop, hstop⟩ := r.checks.compile_of_not_hasParts hparts ⟨s, {}⟩
    rw [Respondents.compile, hstop]
    exact
      { unfit := fun _ => ⟨rfl, stop, rfl⟩
        inTurn := fun h => absurd h hparts
        types_sublist := List.nil_sublist _
        conditions_sublist := List.nil_sublist _
        complete := fun p hp => by cases hp }
  obtain ⟨passed, failing?, hinspected, hfails, hdialogue⟩ := inTurn_compile r hparts s
  rw [hdialogue]
  refine
    { unfit := fun h => absurd hparts h
      inTurn := fun _ => ⟨passed, failing?, hinspected, hfails, rfl, rfl⟩
      types_sublist := hinspected.types_sublist
      conditions_sublist := hinspected.conditions_sublist
      complete := fun p hp => ?_ }
  cases failing? with
  | some i =>
    obtain ⟨stop, hstop⟩ := hfails i rfl
    rw [hstop] at hp
    cases hp
  | none =>
    obtain rfl := hinspected.eq_of_none
    rw [← map_fst_acceptedTypes, ← map_fst_approvedConditions]
    simp [Dialogue.through, Dialogue.calls]

/-- The questions of a compilation are those that the workflow and the answers give rise to.  This
holds for the callbacks with values, whose compilation is the same as that with callbacks that give
these values, and also for callbacks whose answers change and that fail. -/
theorem isQuestioned_compilePayload (w : Workflow) :
    (∀ callbacks : Callbacks,
      w.IsQuestioned callbacks.supports.isSome callbacks.validate.isSome
        (compilePayload callbacks (some (.ready w)) {}).1
        (callbacks.answers (compilePayload callbacks (some (.ready w)) {}).2) ∧
      (callbacks.answers (compilePayload callbacks (some (.ready w)) {}).2).calls =
        (compilePayload callbacks (some (.ready w)) {}).2 ∧
      callbacks.respondents.compile w ⟨(), {}⟩ =
        ((compilePayload callbacks (some (.ready w)) {}).1,
          ⟨(), callbacks.answers (compilePayload callbacks (some (.ready w)) {}).2⟩)) ∧
    ∀ (σ : Type) (r : Respondents σ) (s : σ),
      w.IsQuestioned r.supports.isSome r.validate.isSome (r.compile w ⟨s, {}⟩).1
        (r.compile w ⟨s, {}⟩).2.dialogue := by
  refine ⟨fun callbacks => ?_, fun σ r s => isQuestioned_compile r w s⟩
  have hquestioned := isQuestioned_compile callbacks.respondents w ()
  have hsupports : callbacks.respondents.supports.isSome = callbacks.supports.isSome :=
    Option.isSome_map
  have hvalidate : callbacks.respondents.validate.isSome = callbacks.validate.isSome :=
    Option.isSome_map
  have hcompile : callbacks.respondents.compile w ⟨(), {}⟩ =
      ((compilePayload callbacks (some (.ready w)) {}).1,
        ⟨(), callbacks.answers (compilePayload callbacks (some (.ready w)) {}).2⟩) :=
    compile_respondents callbacks w
  rw [hsupports, hvalidate, hcompile] at hquestioned
  dsimp only at hquestioned
  exact ⟨hquestioned, callbacks.calls_answers _, hcompile⟩

end Workflow

/-- Callbacks that accept the type that they are asked about first and fail after that. -/
def wearyRespondents : Respondents Bool where
  supports := some fun type weary =>
    (if weary then .error (.of .connection type) else .ok true, true)

example : (wearyRespondents.compile scrambledWorkflow ⟨false, {}⟩).2.dialogue.calls =
    { supports := ["if_event", "delay"] } := by decide +kernel

end JobChain
