import JobChain.Proofs.Condition.Holding
import JobChain.Proofs.Plan.Recompilation
import JobChain.Proofs.Registry.History
import JobChain.Proofs.Run.Frame
import JobChain.Service
import JobChain.Settings.Basic

/-!
# What a service compiles it can run

A service asks the same registry twice: whether a type is supported, when it compiles a workflow,
and which handler serves the type, when it runs a node.  In between the type has been brought into
normal form, and so has everything else that a handler looks at.  Since normal forms are their own
normal forms, what was found in order while compiling is in order while running.

* `Node.IsNormal`: a node in normal form, and `Compiles.of_mem_order`: those of a plan are.
* `Service.CanRun`: a service has a handler for a node, and none of the three handlers with a
  meaning finds fault with it.
* `Service.canRun_of_mem_order`: a service can run the nodes of its plans.
* `Service.execute_asks_what_it_can_run`: no execution asks for another.
-/

namespace JobChain

variable {σ : Type}

/-! ## Nodes of plans -/

/-- A node in normal form. -/
def Node.IsNormal (n : Node) : Prop := n.normalized = n

namespace Node.IsNormal

variable {n : Node}

theorem normal_type (h : n.IsNormal) : Text.normal n.type = n.type := by
  rw [← type_normalized, h]

/-- The type of a node in normal form stands for itself. -/
theorem normalType_type (h : n.IsNormal) : normalType (.string n.type) = n.type := by
  rw [← h.normal_type, normalType_normal]

/-- The text of a node that delivers one has been trimmed. -/
theorem trim_text (h : n.IsNormal) (htype : n.type = "text_event") : Text.trim n.text = n.text := by
  have htext : n.normalized.text = Text.trim n.text := text_normalized (h.normal_type.trans htype)
  rw [← htext, h]

end Node.IsNormal

/-- The nodes of a plan are in normal form and sound, and none is a start. -/
theorem Compiles.of_mem_order {callbacks : Callbacks} {w : Workflow} {p : Plan} {n : Node}
    (h : Compiles callbacks w p) (hn : n ∈ p.order) :
    n.IsNormal ∧ n.IsSound callbacks ∧ n.kind ≠ .start := by
  obtain ⟨hmem, hstart⟩ := (h.isConsistent.mem_order n).mp hn
  rw [h.workflow_nodes] at hmem
  obtain ⟨raw, -, hraw⟩ := List.mem_map.mp hmem
  have hnormal : n.normalized = n := by rw [← hraw, Node.normalized_normalized]
  exact ⟨hnormal, h.node_sound n hmem, fun hkind => hstart (NodeKind.ofType_eq_start_iff.mp hkind)⟩

/-- The check of conditions lets those pass that can be read. -/
theorem Service.validateCondition_eq_ok_iff {raw : String} :
    validateCondition raw = .ok () ↔ ∃ c, Condition.read raw = .ok c := by
  unfold validateCondition
  cases Condition.read raw <;> simp [Except.map, Except.mapError]

namespace Node.IsSound

variable {callbacks : Callbacks} {n : Node}

/-- A sound node in normal form that delivers a text has one. -/
theorem trim_text_ne (h : n.IsSound callbacks) (hnormal : n.IsNormal)
    (htype : n.type = "text_event") : Text.trim n.text ≠ "" := by
  rw [hnormal.trim_text htype]
  exact h.text_ne (NodeKind.ofType_eq_textEvent_iff.mpr htype)

/-- The delay of a sound node that waits is not negative. -/
theorem delaySeconds_nonneg (h : n.IsSound callbacks) (htype : n.type = "delay") :
    0 ≤ n.delaySeconds :=
  h.delay_nonneg (NodeKind.ofType_eq_delay_iff.mpr htype)

/-- The condition of a sound node that tests one can be read. -/
theorem exists_read (h : n.IsSound callbacks)
    (hvalidate : callbacks.validate = some Service.validateCondition)
    (htype : n.type = "if_event") : ∃ c, Condition.read n.ifCondition = .ok c := by
  have happroved := h.approved (NodeKind.ofType_eq_ifEvent_iff.mpr htype)
  exact Service.validateCondition_eq_ok_iff.mp (happroved _ hvalidate)

end Node.IsSound

/-! ## Handlers and nodes -/

/-- The handler of texts finds no fault with a node that has one. -/
theorem deliver_of_trim_ne {n : Node} (h : Text.trim n.text ≠ "") (effect : TextEffect σ)
    (j : Job) : deliver (some effect) j n = settleIgnoring (effect j (Text.trim n.text)) := by
  unfold deliver
  exact if_neg h

/-- The usual test of a condition comes to its value, and leaves the state alone. -/
theorem testCondition_evaluateEffect (j : Job) (n : Node) (s : σ) :
    testCondition (some evaluateEffect) j n s =
      (match Condition.evaluate n.ifCondition j with
        | .ok holds => .verdict { stop := !holds }
        | .error e => .failure e.toFailure, s) := by
  cases heval : Condition.evaluate n.ifCondition j with
  | error e =>
    have heffect : evaluateEffect n.ifCondition j s = (.error e.toFailure, s) := by
      rw [evaluateEffect, heval]
      rfl
    simp only [testCondition, heffect]
  | ok holds =>
    have heffect : evaluateEffect n.ifCondition j s = (.ok (.bool holds), s) := by
      rw [evaluateEffect, heval]
      rfl
    have hvalue : (Json.bool holds).isEmpty = !holds := rfl
    simp only [testCondition, heffect, hvalue]

/-! ## Services and nodes -/

namespace Service

variable {service : Service σ} {n : Node}

/-- A service can run a node: it has a handler for the type of the node and leaves the node to it,
and if the handler is one of the three with a meaning, the node is as this one wants it.  There is a
text to deliver, the usual test of the condition comes to a verdict for every job and leaves the
state alone, and the delay is not negative, be it cut or not. -/
structure CanRun (service : Service σ) (n : Node) : Prop where
  served : ∃ h, service.registry.resolve (.string n.type) = some h ∧
    ∀ j s, service.runNode j n s = Runner.invoke (h.action j) n s
  text : ∀ effect, service.registry.resolve (.string n.type) = some (textHandler (some effect)) →
    Text.trim n.text ≠ "" ∧
      ∀ j, deliver (some effect) j n = settleIgnoring (effect j (Text.trim n.text))
  condition :
    service.registry.resolve (.string n.type) = some (conditionHandler (some evaluateEffect)) →
      ∀ j (s : σ), ∃ stop, testCondition (some evaluateEffect) j n s = (.verdict { stop }, s)
  delay : ∀ effect, service.registry.resolve (.string n.type) = some (delayHandler effect) →
    0 ≤ n.delaySeconds ∧ ∀ settings : Settings, 0 ≤ settings.cutDelay n.delaySeconds

/-- A handler that serves a node in normal form offers its type. -/
theorem offer_eq_type (hindexed : service.registry.IsIndexed) (hnormal : n.IsNormal)
    {h : Handler (Action σ)} (hresolve : service.registry.resolve (.string n.type) = some h) :
    h.offer = n.type := by
  rw [hindexed _ _ hresolve, hnormal.normalType_type]

/-- A service can run a sound node in normal form whose type is served. -/
theorem canRun_of_isSome_resolve (hindexed : service.registry.IsIndexed) (hnormal : n.IsNormal)
    {callbacks : Callbacks} (hvalidate : callbacks.validate = some validateCondition)
    (hsound : n.IsSound callbacks)
    (hserved : (service.registry.resolve (.string n.type)).isSome = true) : service.CanRun n where
  served := by
    obtain ⟨h, hresolve⟩ := Option.isSome_iff_exists.mp hserved
    refine ⟨h, hresolve, fun j s => ?_⟩
    rw [runNode, hresolve]
  text effect hresolve := by
    have htype := offer_eq_type hindexed hnormal hresolve
    rw [Registry.offer_textHandler] at htype
    have htrim := hsound.trim_text_ne hnormal htype.symm
    exact ⟨htrim, deliver_of_trim_ne htrim effect⟩
  condition hresolve := by
    have htype := offer_eq_type hindexed hnormal hresolve
    rw [Registry.offer_conditionHandler] at htype
    obtain ⟨c, hc⟩ := hsound.exists_read hvalidate htype.symm
    refine fun j s => ⟨!c.holds j, ?_⟩
    rw [testCondition_evaluateEffect, evaluate_of_read hc]
  delay effect hresolve := by
    have htype := offer_eq_type hindexed hnormal hresolve
    rw [Registry.offer_delayHandler] at htype
    have hdelay := hsound.delaySeconds_nonneg htype.symm
    exact ⟨hdelay, fun settings => settings.cutDelay_nonneg hdelay⟩

/-- A type in normal form that a service accepts while compiling is served. -/
theorem isSome_resolve_of_accepts (hnormal : n.IsNormal) (hstart : n.kind ≠ .start)
    (h : service.callbacks.Accepts n.type) :
    (service.registry.resolve (.string n.type)).isSome = true := by
  have hsupports : service.registry.supports (.string n.type) = true := h
  rw [Registry.supports_eq_true_iff, hnormal.normalType_type] at hsupports
  refine hsupports.resolve_left fun htype => hstart ?_
  exact NodeKind.ofType_eq_start_iff.mpr htype

variable {service' : Service σ} {calls later : List (Option (Handler (Action σ)))}
  {payload : Option (Payload Workflow)} {p : Plan}

/-- The nodes of the plans of a service are in normal form and sound, and their types are served. -/
theorem isNormal_and_isSound_of_mem_order (h : service.plan payload = .ok p) (hn : n ∈ p.order) :
    n.IsNormal ∧ n.IsSound service.callbacks ∧
      (service.registry.resolve (.string n.type)).isSome = true := by
  obtain ⟨_, w, -, -, hp⟩ := exists_planOf_of_compilePayload h
  obtain ⟨hnormal, hsound, hstart⟩ := (planOf_eq_ok_iff.mp hp).of_mem_order hn
  exact ⟨hnormal, hsound, isSome_resolve_of_accepts hnormal hstart (hsound.accepted hstart)⟩

/-- A service can run the nodes of its plans, also after more handlers have been registered. -/
theorem canRun_of_mem_order (hregistry : service.registry = .ofCalls calls)
    (hlater : service'.registry = .ofCalls (calls ++ later)) (h : service.plan payload = .ok p)
    (hn : n ∈ p.order) : service'.CanRun n := by
  obtain ⟨hnormal, hsound, hserved⟩ := isNormal_and_isSound_of_mem_order h hn
  have hindexed : service'.registry.IsIndexed := by
    rw [hlater]
    exact Registry.isIndexed_ofCalls _
  refine canRun_of_isSome_resolve hindexed hnormal rfl hsound ?_
  rw [hregistry] at hserved
  rw [hlater]
  exact Registry.isSome_resolve_append hserved later

/-- A job whose workflow is accepted is executed by running its plan.  Whatever handlers do and
however the run ends, they are asked about nodes of the plan only.  The service can run all of
these, at any time: also after more handlers have been registered. -/
theorem execute_asks_what_it_can_run (service : Service σ)
    (hregistry : service.registry = .ofCalls calls) {j : Job}
    (h : service.plan (j.workflow.map .ready) = .ok p) :
    service.execute j = run (service.host j) j.id (some p) ∧
    (∀ s log, ∀ n ∈ (run (service.host j).recorded j.id (some p)
      ⟨{ state := s }, log⟩).2.state.asked, n ∈ p.order) ∧
    ∀ n ∈ p.order, ∀ later, { service with registry := .ofCalls (calls ++ later) }.CanRun n := by
  refine ⟨?_, fun s log n hn => mem_order_of_mem_asked hn,
    fun n hn later => canRun_of_mem_order hregistry rfl h hn⟩
  rw [execute, h]

/-- Registrations of the three handlers, among others that change nothing. -/
def sampleCalls : List (Option (Handler (Action Unit))) :=
  [some (delayHandler none), none, some (textHandler (some fun _ _ s => (.now (.value .null), s))),
    some { type? := some (.string " Start "), action := fun _ _ s => (.now (.value .null), s) },
    some (conditionHandler (some evaluateEffect)),
    some (delayHandler (some fun _ s => (.now (.value .null), s)))]

/-- A service with these registrations. -/
def sampleService : Service Unit where
  registry := .ofCalls sampleCalls
  clock := pure (.string "2026-01-02T03:04:05Z")
  runIds := pure (.string "run-1")

theorem execute_asks_what_it_can_run_scrambledWorkflow :
    ∃ p, sampleService.plan (some (.ready scrambledWorkflow)) = .ok p ∧
      p.orderIds = ["say", "wait", "last"] ∧
      sampleService.execute { workflow := some scrambledWorkflow } =
        run (sampleService.host { workflow := some scrambledWorkflow }) "" (some p) ∧
      (∀ s log, ∀ n ∈ (run (sampleService.host { workflow := some scrambledWorkflow }).recorded ""
        (some p) ⟨{ state := s }, log⟩).2.state.asked, n ∈ p.order) ∧
      ∀ n ∈ p.order, ∀ later,
        { sampleService with registry := .ofCalls (sampleCalls ++ later) }.CanRun n := by
  have hids : (sampleService.plan (some (.ready scrambledWorkflow))).toOption.map Plan.orderIds =
      some ["say", "wait", "last"] := by decide +kernel
  cases hp : sampleService.plan (some (.ready scrambledWorkflow)) with
  | error stop =>
    rw [hp] at hids
    cases hids
  | ok p =>
    rw [hp] at hids
    exact ⟨p, rfl, Option.some.inj hids, execute_asks_what_it_can_run sampleService rfl hp⟩

end Service

end JobChain
