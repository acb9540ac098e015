import JobChain.Proofs.Plan.NormalForm
import JobChain.Proofs.Plan.Respondents

/-!
# What is asked about a node

While a node is looked at, a callback can be asked about its type and another about its condition.
Whether they are depends on the node, on those before it and on what has been said of it so far: a
type is of no interest if the id is no good, and a condition is of none if the type was not
accepted.  After a check that finds something wrong nothing is asked any more.

* `Inspection`: a node that is looked at, with the answers about it.
* `Inspection.IsDue`, `Inspection.Passes`: when there have to be answers, and when the node passes.
* `Respondents.exists_inspection`: the questions are asked when they are due, and the node is
  admitted iff it passes.
-/

namespace JobChain

/-! ## Nodes that are looked at -/

/-- The node has an id, and no earlier node has it. -/
def Node.IsNew (earlier : List Node) (n : Node) : Prop :=
  Text.trim n.id ≠ "" ∧ ∀ m ∈ earlier, Text.trim m.id ≠ Text.trim n.id

/-- The node has what its type asks for, as far as no callback is needed to see it, given the nodes
before it.  Where a callback decides which types are supported, any type can be. -/
@[mk_iff]
structure Node.SuitsType (supported : Bool) (earlier : List Node) (n : Node) : Prop where
  text_ne : Text.normal n.type = "text_event" → Text.trim n.text ≠ ""
  delay_nonneg : Text.normal n.type = "delay" → 0 ≤ n.delaySeconds
  start_unique : Text.normal n.type = "start" → ∀ m ∈ earlier, Text.normal m.type ≠ "start"
  known : supported = true ∨ Text.normal n.type ∈ ["start", "text_event", "delay", "if_event"]

/-- A node that is looked at, with what the callbacks say of its type and of its condition when they
are asked. -/
structure Inspection where
  node : Node
  type? : Option (Except Failure Bool) := none
  condition? : Option (Except Failure Unit) := none

namespace Inspection

/-- The callbacks are asked about the node when they have to be, given the nodes before it: about
the type if the node is new and no start, and about the condition if the node tests one, is new and
has a type that was accepted. -/
structure IsDue (supported validated : Bool) (earlier : List Node) (i : Inspection) : Prop where
  type_iff : i.type?.isSome = true ↔
    supported = true ∧ i.node.IsNew earlier ∧ Text.normal i.node.type ≠ "start"
  condition_iff : i.condition?.isSome = true ↔
    validated = true ∧ i.node.IsNew earlier ∧ Text.normal i.node.type = "if_event" ∧
      (supported = true → i.type? = some (.ok true))

/-- There is nothing wrong with the node, given the nodes before it. -/
structure Passes (supported : Bool) (earlier : List Node) (i : Inspection) : Prop where
  isNew : i.node.IsNew earlier
  accepted : ∀ answer, i.type? = some answer → answer = .ok true
  suits : i.node.SuitsType supported earlier
  approved : ∀ answer, i.condition? = some answer → answer = .ok ()

/-- The question about the type, with its answer. -/
def typeExchange? (i : Inspection) : Option (String × Except Failure Bool) :=
  i.type?.map fun answer => (Text.normal i.node.type, answer)

/-- The question about the condition, with its answer. -/
def conditionExchange? (i : Inspection) : Option (String × Except Failure Unit) :=
  i.condition?.map fun answer => (Text.trim i.node.ifCondition, answer)

end Inspection

/-- The dialogue with the questions and answers about one more node. -/
def Dialogue.after (d : Dialogue) (i : Inspection) : Dialogue where
  types := d.types ++ i.typeExchange?.toList
  conditions := d.conditions ++ i.conditionExchange?.toList

/-- Without questions a dialogue stays as it is. -/
@[simp] theorem Dialogue.after_node (d : Dialogue) (n : Node) : d.after { node := n } = d := by
  simp [after, Inspection.typeExchange?, Inspection.conditionExchange?]

/-- The question about a type and the one about a condition follow each other. -/
theorem Dialogue.after_after (d : Dialogue) (n : Node) (type? : Option (Except Failure Bool))
    (condition? : Option (Except Failure Unit)) :
    (d.after { node := n, type? }).after { node := n, condition? } =
      d.after { node := n, type?, condition? } := by
  simp [after, Inspection.typeExchange?, Inspection.conditionExchange?]

/-! ## Checks that tell whether something holds -/

section Checks

variable {σ ς α β : Type}

/-- The result is the one given if something holds, and otherwise the compilation stops. -/
structure TellsWhether (p : Prop) (a : α) (result : Except CompileStop α) : Prop where
  ok : p → result = .ok a
  error : ¬p → ∃ stop, result = .error stop

namespace TellsWhether

variable {p : Prop} {a : α} {x : Act CompileStop ς α} {s : ς}

theorem congr {q : Prop} {result : Except CompileStop α} (h : TellsWhether p a result)
    (hpq : p ↔ q) : TellsWhether q a result :=
  ⟨fun hq => h.ok (hpq.mpr hq), fun hq => h.error (mt hpq.mp hq)⟩

/-- What follows a check that finds nothing wrong goes on where the check ended. -/
theorem bind_of (h : TellsWhether p a (x s).1) (hp : p) (f : α → Act CompileStop ς β) :
    (x >>= f) s = f a (x s).2 :=
  Act.bind_of_ok (Prod.ext (h.ok hp) rfl) f

/-- After a check that finds something wrong nothing else is done. -/
theorem bind_of_not (h : TellsWhether p a (x s).1) (hp : ¬p) (f : α → Act CompileStop ς β) :
    ∃ stop, (x >>= f) s = (.error stop, (x s).2) := by
  obtain ⟨stop, hstop⟩ := h.error hp
  exact ⟨stop, Act.bind_of_error (Prod.ext hstop rfl) f⟩

end TellsWhether

/-- Where nothing was asked, no answer is against what is checked. -/
theorem tellsWhether_of_unasked (q : β → Prop) (a : α) :
    TellsWhether (∀ answer, (none : Option β) = some answer → q answer) a (.ok a) where
  ok _ := rfl
  error hq := absurd (fun _ hnone => by cases hnone) hq

theorem tellsWhether_refuseIf {p : Prop} {wrong : Bool} (h : wrong = true ↔ ¬p) (reason : Refusal)
    (s : ς) : TellsWhether p () (refuseIf wrong reason s).1 := by
  rw [refuseIf_apply]
  constructor
  · intro hp
    rw [if_neg fun hwrong => h.mp hwrong hp]
  · intro hp
    rw [if_pos (h.mpr hp)]
    exact ⟨_, rfl⟩

end Checks

/-! ## Single checks -/

theorem Act.ofExcept_apply {ε σ α : Type} (x : Except ε α) (s : σ) :
    (Act.ofExcept x : Act ε σ α) s = (x, s) := by
  cases x <;> rfl

theorem Act.snd_ofExcept_bind {ε σ α β : Type} {x : Except ε α} {f : α → Act ε σ β}
    (hf : ∀ a s, (f a s).2 = s) (s : σ) : ((Act.ofExcept x >>= f) s).2 = s := by
  rw [Act.bind_apply, Act.ofExcept_apply]
  cases x with
  | error e => rfl
  | ok a => exact hf a s

namespace Respondents

variable {σ : Type}

theorem tellsWhether_supportStop? (n : Node) (answer : Except Failure Bool) :
    TellsWhether (answer = .ok true) () (unlessFault (supportStop? n answer) ()) := by
  constructor
  · rintro rfl
    rfl
  · intro hanswer
    rcases answer with failure | _ | _
    · exact ⟨_, rfl⟩
    · exact ⟨_, rfl⟩
    · exact absurd rfl hanswer

theorem tellsWhether_conditionStop? (n : Node) (answer : Except Failure Unit) :
    TellsWhether (answer = .ok ()) () (unlessFault (conditionStop? n answer) ()) := by
  constructor
  · rintro rfl
    rfl
  · intro hanswer
    rcases answer with failure | _
    · exact ⟨_, rfl⟩
    · exact absurd rfl hanswer

/-- The type of a node is asked about if there is a callback to ask. -/
theorem exists_support (r : Respondents σ) (n : Node) (heard : Heard σ) :
    ∃ type? : Option (Except Failure Bool), (type?.isSome = true ↔ r.supports.isSome = true) ∧
      (r.checks.support n.normalized heard).2.dialogue =
        heard.dialogue.after { node := n, type? } ∧
      TellsWhether (∀ answer, type? = some answer → answer = .ok true) ()
        (r.checks.support n.normalized heard).1 := by
  unfold checks
  cases r.supports with
  | none =>
    exact ⟨none, by simp, (Dialogue.after_node _ n).symm, tellsWhether_of_unasked _ ()⟩
  | some supports =>
    refine ⟨some (supports n.normalized.type heard.state).1, by simp, ?_, ?_⟩
    · simp only [Act.bind_apply, askType, Act.ofExcept_apply]
      simp [Dialogue.after, Inspection.typeExchange?, Inspection.conditionExchange?]
    · simp only [Act.bind_apply, askType, Act.ofExcept_apply]
      exact (tellsWhether_supportStop? _ _).congr (by simp)

/-- The condition of a node is asked about if there is a callback to ask. -/
theorem exists_condition (r : Respondents σ) {n : Node} (htype : Text.normal n.type = "if_event")
    (heard : Heard σ) :
    ∃ condition? : Option (Except Failure Unit),
      (condition?.isSome = true ↔ r.validate.isSome = true) ∧
      (r.checks.condition n.normalized heard).2.dialogue =
        heard.dialogue.after { node := n, condition? } ∧
      TellsWhether (∀ answer, condition? = some answer → answer = .ok ()) ()
        (r.checks.condition n.normalized heard).1 := by
  unfold checks
  cases r.validate with
  | none =>
    exact ⟨none, by simp, (Dialogue.after_node _ n).symm, tellsWhether_of_unasked _ ()⟩
  | some validate =>
    refine ⟨some (validate n.normalized.ifCondition heard.state).1, by simp, ?_, ?_⟩
    · simp only [Act.bind_apply, askCondition, Act.ofExcept_apply]
      simp [Dialogue.after, Inspection.typeExchange?, Inspection.conditionExchange?,
        Node.ifCondition_normalized htype]
    · simp only [Act.bind_apply, askCondition, Act.ofExcept_apply]
      exact (tellsWhether_conditionStop? _ _).congr (by simp)

end Respondents

/-- The check of a node by its kind, unless the kind tests a condition: the node suits its type or
is refused. -/
theorem exists_refuseIf_of_type_ne {ς : Type} (checks : Checks ς) {supported : Bool}
    (hclosed : checks.closed = !supported) (earlier : List Node) {n : Node}
    (htype : Text.normal n.type ≠ "if_event") :
    ∃ wrong reason,
      checks.checkKind (earlier.map Node.normalized) n.normalized = refuseIf wrong reason ∧
        (wrong = true ↔ ¬n.SuitsType supported earlier) := by
  have hkind : n.normalized.kind = .ofType (Text.normal n.type) := n.kind_normalized
  unfold Checks.checkKind
  rw [hkind]
  cases h : NodeKind.ofType (Text.normal n.type) with
  | start =>
    have hstart := NodeKind.ofType_eq_start_iff.mp h
    refine ⟨_, _, rfl, ?_⟩
    rw [Node.suitsType_iff]
    simp [hstart, Node.kind_normalized, NodeKind.ofType_eq_start_iff]
  | textEvent =>
    have htext := NodeKind.ofType_eq_textEvent_iff.mp h
    refine ⟨_, _, rfl, ?_⟩
    rw [Node.suitsType_iff]
    simp [htext, Node.text_normalized htext]
  | delay =>
    have hdelay := NodeKind.ofType_eq_delay_iff.mp h
    refine ⟨_, _, rfl, ?_⟩
    rw [Node.suitsType_iff]
    simp [hdelay, Node.delaySeconds_normalized hdelay]
  | ifEvent => exact absurd (NodeKind.ofType_eq_ifEvent_iff.mp h) htype
  | custom =>
    have hcustom := mt NodeKind.ofType_ne_custom_iff.mpr (not_not_intro h)
    simp only [not_or] at hcustom
    refine ⟨_, _, rfl, ?_⟩
    rw [Node.suitsType_iff, hclosed]
    simp [hcustom]

/-- A node that tests a condition suits its type. -/
theorem Node.suitsType_of_ifEvent {n : Node} (htype : Text.normal n.type = "if_event")
    (supported : Bool) (earlier : List Node) : n.SuitsType supported earlier := by
  rw [Node.suitsType_iff, htype]
  simp

namespace Respondents

variable {σ : Type}

/-- What the kind of a node asks for is told by its type, and only the kind that tests a condition
asks about it. -/
theorem exists_checkKind (r : Respondents σ) (earlier : List Node) (n : Node) (heard : Heard σ) :
    ∃ condition? : Option (Except Failure Unit),
      (condition?.isSome = true ↔
        r.validate.isSome = true ∧ Text.normal n.type = "if_event") ∧
      (r.checks.checkKind (earlier.map Node.normalized) n.normalized heard).2.dialogue =
        heard.dialogue.after { node := n, condition? } ∧
      TellsWhether (n.SuitsType r.supports.isSome earlier ∧
          ∀ answer, condition? = some answer → answer = .ok ()) ()
        (r.checks.checkKind (earlier.map Node.normalized) n.normalized heard).1 := by
  by_cases htype : Text.normal n.type = "if_event"
  · have hcheck : r.checks.checkKind (earlier.map Node.normalized) n.normalized =
        r.checks.condition n.normalized := by
      unfold Checks.checkKind
      rw [n.kind_normalized, NodeKind.ofType_eq_ifEvent_iff.mpr htype]
    obtain ⟨condition?, hasked, hdialogue, htells⟩ := r.exists_condition htype heard
    rw [hcheck]
    refine ⟨condition?, by rw [hasked, and_iff_left htype], hdialogue, htells.congr ?_⟩
    rw [and_iff_right (n.suitsType_of_ifEvent htype _ _)]
  · have hclosed : r.checks.closed = !r.supports.isSome := by
      rw [checks, Option.not_isSome]
    obtain ⟨wrong, reason, hcheck, hwrong⟩ :=
      exists_refuseIf_of_type_ne r.checks hclosed earlier htype
    rw [hcheck]
    refine ⟨none, by simp [htype], ?_, (tellsWhether_refuseIf hwrong reason heard).congr ?_⟩
    · rw [refuseIf_apply, Dialogue.after_node]
    · simp

end Respondents

/-! ## One node -/

section Nodes

variable {ς : Type} {earlier : List Node} {n : Node}

/-- A node without a new id is refused before anything is asked. -/
theorem Checks.admitNode_of_not_isNew (checks : Checks ς) (hnew : ¬n.IsNew earlier) (s : ς) :
    ∃ stop, checks.admitNode (earlier.map Node.normalized) n s = (.error stop, s) := by
  unfold Checks.admitNode
  simp only [Act.bind_apply, refuseIf_apply]
  by_cases hid : Text.trim n.id = ""
  · exact ⟨.refused .nodeWithoutId, by simp [hid]⟩
  · have hrepeated : ∃ m ∈ earlier, Text.trim m.id = Text.trim n.id := by
      by_contra hnone
      exact hnew ⟨hid, fun m hm heq => hnone ⟨m, hm, heq⟩⟩
    exact ⟨.refused (.nodeRepeated (Text.trim n.id)), by simp [hid, hrepeated]⟩

/-- A node with a new id is checked by its type, unless it is a start, and by its kind. -/
theorem Checks.admitNode_of_isNew (checks : Checks ς) (hnew : n.IsNew earlier) :
    checks.admitNode (earlier.map Node.normalized) n =
      (if Text.normal n.type = "start" then pure () else checks.support n.normalized) >>= fun _ =>
        checks.checkKind (earlier.map Node.normalized) n.normalized >>= fun _ =>
          pure n.normalized := by
  have hid : (n.normalized.id == "") = false := by simp [hnew.1]
  have hids : ((earlier.map Node.normalized).any fun m => m.id == n.normalized.id) = false := by
    simpa using hnew.2
  have hkind : n.normalized.kind = .start ↔ Text.normal n.type = "start" := by
    rw [Node.kind_normalized, NodeKind.ofType_eq_start_iff]
  unfold Checks.admitNode
  simp only [hid, hids, refuseIf_false, Act.pure_bind, ne_eq, hkind]
  by_cases hstart : Text.normal n.type = "start"
  · rw [if_neg (not_not_intro hstart), if_pos hstart, Act.pure_bind]
  · rw [if_pos hstart, if_neg hstart]

end Nodes

namespace Respondents

variable {σ : Type}

/-- The type of a node that is no start is asked about if there is a callback to ask. -/
theorem exists_checkType (r : Respondents σ) (n : Node) (heard : Heard σ) :
    ∃ type? : Option (Except Failure Bool),
      (type?.isSome = true ↔ r.supports.isSome = true ∧ Text.normal n.type ≠ "start") ∧
      ((if Text.normal n.type = "start" then pure ()
        else r.checks.support n.normalized) heard).2.dialogue =
          heard.dialogue.after { node := n, type? } ∧
      TellsWhether (∀ answer, type? = some answer → answer = .ok true) ()
        ((if Text.normal n.type = "start" then pure ()
          else r.checks.support n.normalized) heard).1 := by
  by_cases hstart : Text.normal n.type = "start"
  · rw [if_pos hstart]
    exact ⟨none, by simp [hstart], (Dialogue.after_node _ n).symm, tellsWhether_of_unasked _ ()⟩
  · rw [if_neg hstart]
    obtain ⟨type?, hasked, htold⟩ := r.exists_support n heard
    exact ⟨type?, by rw [hasked, and_iff_left hstart], htold⟩

/-- The questions about a node are asked when they are due, and the node is admitted iff it
passes. -/
theorem exists_inspection (r : Respondents σ) (earlier : List Node) (n : Node) (heard : Heard σ) :
    ∃ i : Inspection, i.node = n ∧ i.IsDue r.supports.isSome r.validate.isSome earlier ∧
      (r.checks.admitNode (earlier.map Node.normalized) n heard).2.dialogue =
        heard.dialogue.after i ∧
      TellsWhether (i.Passes r.supports.isSome earlier) n.normalized
        (r.checks.admitNode (earlier.map Node.normalized) n heard).1 := by
  by_cases hnew : n.IsNew earlier
  case neg =>
    obtain ⟨stop, hrefused⟩ := r.checks.admitNode_of_not_isNew hnew heard
    rw [hrefused]
    exact ⟨{ node := n }, rfl, ⟨by simp [hnew], by simp [hnew]⟩, (Dialogue.after_node _ n).symm,
      fun hpasses => absurd hpasses.isNew hnew, fun _ => ⟨stop, rfl⟩⟩
  rw [r.checks.admitNode_of_isNew hnew]
  obtain ⟨type?, htype, hdialogue, htells⟩ := r.exists_checkType n heard
  generalize (ite (Text.normal n.type = "start") _ _ : Act CompileStop (Heard σ) Unit) = check
    at hdialogue htells ⊢
  have hdue {condition? : Option (Except Failure Unit)}
      (hcondition : condition?.isSome = true ↔
        r.validate.isSome = true ∧ Text.normal n.type = "if_event" ∧
          (r.supports.isSome = true → type? = some (.ok true))) :
      Inspection.IsDue r.supports.isSome r.validate.isSome earlier
        { node := n, type?, condition? } :=
    ⟨by rw [htype, and_iff_right hnew], by rw [hcondition, and_iff_right hnew]⟩
  by_cases haccepted : ∀ answer, type? = some answer → answer = .ok true
  case neg =>
    obtain ⟨stop, hrefused⟩ := htells.bind_of_not haccepted fun _ =>
      r.checks.checkKind (earlier.map Node.normalized) n.normalized >>= fun _ => pure n.normalized
    have hnone : ¬(Text.normal n.type = "if_event" ∧
        (r.supports.isSome = true → type? = some (.ok true))) := by
      rintro ⟨-, hyes⟩
      refine haccepted fun answer hanswer => ?_
      have hsupported := (htype.mp (Option.isSome_of_eq_some hanswer)).1
      exact Option.some.inj (hanswer.symm.trans (hyes hsupported))
    rw [hrefused]
    exact ⟨{ node := n, type? }, rfl, hdue (by simp [hnone]), hdialogue,
      fun hpasses => absurd hpasses.accepted haccepted, fun _ => ⟨stop, rfl⟩⟩
  rw [htells.bind_of haccepted]
  obtain ⟨condition?, hcondition, hdialogue', htells'⟩ :=
    r.exists_checkKind earlier n (check heard).2
  generalize r.checks.checkKind (earlier.map Node.normalized) n.normalized = check'
    at hdialogue' htells' ⊢
  rw [hdialogue, Dialogue.after_after] at hdialogue'
  have hyes (hif : Text.normal n.type = "if_event") (hsupported : r.supports.isSome = true) :
      type? = some (.ok true) := by
    have hne : Text.normal n.type ≠ "start" := by simp [hif]
    obtain ⟨answer, hanswer⟩ := Option.isSome_iff_exists.mp (htype.mpr ⟨hsupported, hne⟩)
    rw [hanswer, haccepted answer hanswer]
  refine ⟨{ node := n, type?, condition? }, rfl, hdue ?_, ?_⟩
  · rw [hcondition, and_iff_left_of_imp hyes]
  by_cases hkind : n.SuitsType r.supports.isSome earlier ∧
      ∀ answer, condition? = some answer → answer = .ok ()
  case neg =>
    obtain ⟨stop, hrefused⟩ := htells'.bind_of_not hkind fun _ => pure n.normalized
    rw [hrefused]
    exact ⟨hdialogue', fun hpasses => absurd ⟨hpasses.suits, hpasses.approved⟩ hkind,
      fun _ => ⟨stop, rfl⟩⟩
  rw [htells'.bind_of hkind]
  exact ⟨hdialogue', fun _ => rfl, fun hnot => absurd ⟨hnew, haccepted, hkind.1, hkind.2⟩ hnot⟩

end Respondents

end JobChain
