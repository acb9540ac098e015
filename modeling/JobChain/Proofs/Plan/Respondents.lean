import JobChain.Proofs.Plan.Questions

/-!
# Callbacks of any behaviour

The callbacks of a compilation are told by their values: what the one says of a type and the other
of a condition.  Whoever writes callbacks can do more.  What a callback says may depend on what it
was asked before or on the time of day, and a question about a type can fail as one about a
condition can.  A compilation goes the same way with these, since nothing in it but the two checks
depends on what callbacks are.  So it can be told with the checks that such callbacks make; those
with values are the case of callbacks that give them.

* `Checks.Mimics.compile`: a compilation does nothing to the state but what its checks do.
* `Respondents.compile`: the compilation with callbacks that act, and the dialogue with them.
* `compile_respondents`: callbacks with values act by giving them.
-/

namespace JobChain

/-! ## Checks that mimic others -/

namespace Checks

section Mimics

variable {ς τ : Type} {image : ς → τ} {checks : Checks ς} {checks' : Checks τ}

/-- Checks that do to a state what others do to an image of it, and come to the same. -/
structure Mimics (image : ς → τ) (checks : Checks ς) (checks' : Checks τ) : Prop where
  support : ∀ n, Act.Mimics image (checks.support n) (checks'.support n)
  condition : ∀ n, Act.Mimics image (checks.condition n) (checks'.condition n)
  closed : checks.closed = checks'.closed

theorem mimics_refuseIf (image : ς → τ) (wrong : Bool) (reason : Refusal) :
    Act.Mimics image (refuseIf wrong reason) (refuseIf wrong reason) := by
  cases wrong
  · exact .pure ()
  · exact .fail _

theorem mimics_ofExcept {α : Type} (image : ς → τ) (x : Except CompileStop α) :
    Act.Mimics image (Act.ofExcept x) (Act.ofExcept x) := by
  cases x with
  | error stop => exact .fail stop
  | ok a => exact .pure a

theorem Mimics.checkFields (h : checks.Mimics image checks') (n : Node) :
    Act.Mimics image (checks.checkFields n) (checks'.checkFields n) := by
  unfold Checks.checkFields
  cases n.kind with
  | start => exact .pure ()
  | ifEvent => exact h.condition n
  | custom =>
    simp only [h.closed]
    exact mimics_refuseIf _ _ _
  | _ => exact mimics_refuseIf _ _ _

theorem Mimics.normalizeNode (h : checks.Mimics image checks') (seen : Table Node) (raw : Node) :
    Act.Mimics image (checks.normalizeNode seen raw) (checks'.normalizeNode seen raw) := by
  unfold Checks.normalizeNode
  refine .bind (mimics_refuseIf _ _ _) fun _ => .bind (mimics_refuseIf _ _ _) fun _ => ?_
  have hfields := h.checkFields raw.normalized
  split
  · exact .bind (h.support _) fun _ => .bind hfields fun _ => .pure _
  · exact .bind hfields fun _ => .pure _

theorem Mimics.indexNodes (h : checks.Mimics image checks') (index : NodeIndex)
    (raws : List Node) :
    Act.Mimics image (checks.indexNodes index raws) (checks'.indexNodes index raws) := by
  induction raws generalizing index with
  | nil => exact .pure _
  | cons raw rest ih =>
    exact .bind (h.normalizeNode index.nodes raw) fun n => .bind (mimics_refuseIf _ _ _) fun _ =>
      ih _

/-- A compilation does nothing to the state but what its checks do. -/
theorem Mimics.compile (h : checks.Mimics image checks') (w : Workflow) :
    Act.Mimics image (checks.compile w) (checks'.compile w) := by
  unfold Checks.compile
  refine .bind (mimics_refuseIf _ _ _) fun _ => .bind (mimics_refuseIf _ _ _) fun _ => ?_
  refine .bind (mimics_refuseIf _ _ _) fun _ => .bind (h.indexNodes {} w.nodes) fun index => ?_
  refine .bind (mimics_refuseIf _ _ _) fun _ => .bind (mimics_ofExcept _ _) fun links => ?_
  refine .bind (mimics_refuseIf _ _ _) fun _ => .bind (mimics_refuseIf _ _ _) fun _ => ?_
  refine .bind (mimics_ofExcept _ _) fun order => .bind (mimics_refuseIf _ _ _) fun _ => ?_
  cases unreachedNode? index.nodes order with
  | none => exact .pure _
  | some id => exact .fail _

end Mimics

end Checks

/-! ## Callbacks that act -/

/-- What callbacks were asked, in order, and what they said. -/
structure Dialogue where
  types : List (String × Except Failure Bool) := []
  conditions : List (String × Except Failure Unit) := []

/-- The questions of a dialogue. -/
def Dialogue.calls (d : Dialogue) : Calls where
  supports := d.types.map Prod.fst
  validate := d.conditions.map Prod.fst

/-- Callbacks that act on a state.  The one says whether a type is supported, the other finds no
fault with a condition, and each can fail instead. -/
structure Respondents (σ : Type) where
  supports : Option (String → Act Failure σ Bool) := none
  validate : Option (String → Act Failure σ Unit) := none

/-- The state of callbacks, with the dialogue so far. -/
structure Heard (σ : Type) where
  state : σ
  dialogue : Dialogue := {}

namespace Respondents

variable {σ : Type}

/-- Asks whether a type is supported. -/
def askType (supports : String → Act Failure σ Bool) (type : String) :
    Act CompileStop (Heard σ) (Except Failure Bool) := fun h =>
  (.ok (supports type h.state).1,
    { state := (supports type h.state).2
      dialogue :=
        { h.dialogue with types := h.dialogue.types ++ [(type, (supports type h.state).1)] } })

/-- Asks what is wrong with a condition. -/
def askCondition (validate : String → Act Failure σ Unit) (condition : String) :
    Act CompileStop (Heard σ) (Except Failure Unit) := fun h =>
  (.ok (validate condition h.state).1,
    { state := (validate condition h.state).2
      dialogue :=
        { h.dialogue with
          conditions := h.dialogue.conditions ++ [(condition, (validate condition h.state).1)] } })

/-- What an answer about the type of a node means.  A failure ends the compilation. -/
def supportStop? (n : Node) : Except Failure Bool → Option CompileStop
  | .ok true => none
  | .ok false => some (.refused (.nodeUnsupported n.id n.type))
  | .error failure => some (.escaped failure)

/-- What an answer about the condition of a node means. -/
def conditionStop? (n : Node) : Except Failure Unit → Option CompileStop
  | .ok () => none
  | .error failure => some (conditionStop n.id failure)

/-- The checks that callbacks make which act. -/
def checks (r : Respondents σ) : Checks (Heard σ) where
  support n :=
    match r.supports with
    | none => pure ()
    | some supports => do
      Act.ofExcept (unlessFault (supportStop? n (← askType supports n.type)) ())
  condition n :=
    match r.validate with
    | none => pure ()
    | some validate => do
      Act.ofExcept (unlessFault (conditionStop? n (← askCondition validate n.ifCondition)) ())
  closed := r.supports.isNone

/-- The plan of a workflow. -/
def compile (r : Respondents σ) (w : Workflow) : Act CompileStop (Heard σ) Plan :=
  r.checks.compile w

end Respondents

/-- Callbacks with values act by giving them. -/
def Callbacks.respondents (callbacks : Callbacks) : Respondents Unit where
  supports := callbacks.supports.map fun supports type => pure (supports type)
  validate := callbacks.validate.map fun validate condition => Act.ofExcept (validate condition)

/-- The dialogue that consists of some questions and the answers of callbacks with values.  Where
there is no callback there are no questions, and it does not matter what the answers would be. -/
def Callbacks.answers (callbacks : Callbacks) (calls : Calls) : Dialogue where
  types := calls.supports.map fun type =>
    (type, .ok ((callbacks.supports.getD fun _ => false) type))
  conditions := calls.validate.map fun condition =>
    (condition, (callbacks.validate.getD fun _ => .ok ()) condition)

@[simp] theorem Callbacks.calls_answers (callbacks : Callbacks) (calls : Calls) :
    (callbacks.answers calls).calls = calls := by
  simp [answers, Dialogue.calls, Function.comp_def]

/-- Callbacks with values are asked the same about a type when they act, and give their answer. -/
theorem mimics_support (callbacks : Callbacks) (n : Node) :
    Act.Mimics (fun calls => ⟨(), callbacks.answers calls⟩) (checkSupport callbacks n)
      (callbacks.respondents.checks.support n) := by
  intro calls
  obtain ⟨_ | supports, validate?⟩ := callbacks
  · rfl
  · simp only [checkSupport, Respondents.checks, Callbacks.respondents, Callbacks.answers,
      Option.map_some, Option.getD_some]
    cases hanswer : supports n.type <;>
      simp [askSupport, Act.bind_apply, refuseIf_apply, hanswer, Respondents.askType,
        Respondents.supportStop?, Act.ofExcept, Act.done, Act.fail]

/-- They are asked the same about a condition. -/
theorem mimics_condition (callbacks : Callbacks) (n : Node) :
    Act.Mimics (fun calls => ⟨(), callbacks.answers calls⟩) (checkCondition callbacks n)
      (callbacks.respondents.checks.condition n) := by
  intro calls
  obtain ⟨supports?, _ | validate⟩ := callbacks
  · rfl
  · simp only [checkCondition, Respondents.checks, Callbacks.respondents, Callbacks.answers,
      Option.map_some, Option.getD_some]
    cases hanswer : validate n.ifCondition <;>
      simp [Act.bind_apply, hanswer, Respondents.askCondition, Respondents.conditionStop?,
        Act.ofExcept, Act.done, Act.fail]

theorem mimics_respondents (callbacks : Callbacks) :
    callbacks.checks.Mimics (fun calls => ⟨(), callbacks.answers calls⟩)
      callbacks.respondents.checks where
  support := mimics_support callbacks
  condition := mimics_condition callbacks
  closed := by
    show callbacks.supports.isNone = (callbacks.supports.map _).isNone
    rw [Option.isNone_map]

/-- Callbacks that give their values make for the compilation that there is. -/
theorem compile_respondents (callbacks : Callbacks) (w : Workflow) :
    callbacks.respondents.compile w ⟨(), {}⟩ =
      ((compile callbacks w {}).1, ⟨(), callbacks.answers (compile callbacks w {}).2⟩) := by
  have hmimics := (mimics_respondents callbacks).compile w {}
  have hempty : callbacks.answers {} = {} := rfl
  rw [hempty] at hmimics
  exact hmimics

end JobChain
