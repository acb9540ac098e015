import JobChain.Proofs.Run.Performing
import JobChain.Proofs.Service.Demands

/-!
# What a workflow of the three handlers means

A service whose registry holds the three handlers with a meaning, and whose effects never fail, does
with a job what its workflow says.  The nodes of the plan succeed one after another up to the first
that tests a condition which does not hold for the job, and the others are skipped.  What the nodes
before that one ask for is delivered and waited for, each once and in their order, and nothing else
is.

* `Node.IsClosed`, `Plan.before`: where the chain ends for a job, and the nodes before.
* `Service.performs_of_mem_order`: what the service does with a node of its plan.
* `Service.exists_execute_of_builtins`: what it does with a job.
-/

namespace JobChain

variable {σ : Type}

/-! ## Where a chain ends -/

/-- For the job the chain ends at the node: the node tests a condition that does not hold. -/
def Node.IsClosed (j : Job) (n : Node) : Prop :=
  n.type = "if_event" ∧ Condition.evaluate n.ifCondition j = .ok false

instance (j : Job) (n : Node) : Decidable (n.IsClosed j) := inferInstanceAs (Decidable (_ ∧ _))

/-- The nodes of a plan before the first at which the chain ends for the job, or all if it does not
end early. -/
def Plan.before (p : Plan) (j : Job) : List Node :=
  p.order.takeWhile fun n => !decide (n.IsClosed j)

/-- An effect that never fails. -/
def NeverFails (effect : σ → Reply σ × σ) : Prop :=
  ∀ s f, (settleIgnoring effect s).1 ≠ .failure f

theorem NeverFails.fst_settleIgnoring {effect : σ → Reply σ × σ} (h : NeverFails effect) (s : σ) :
    (settleIgnoring effect s).1 = .verdict {} := by
  have hne := h s
  unfold settleIgnoring at hne ⊢
  cases houtcome : ((effect s).1.settle (effect s).2).1 with
  | failure f => exact absurd (congrArg Outcome.ignoringValue houtcome) (hne f)
  | verdict v => exact congrArg Outcome.ignoringValue houtcome
  | value json => exact congrArg Outcome.ignoringValue houtcome

namespace Service

section Builtins

variable {text : TextEffect σ} {delay : DelayEffect σ} {clock runIds : Act Failure σ Json}
  {payload : Option (Payload Workflow)} {p : Plan} {n : Node} {j : Job}

/-! ## Nodes -/

/-- A service of the three handlers plans nodes of their three types only. -/
theorem type_of_mem_order (h : (ofBuiltins text delay clock runIds).plan payload = .ok p)
    (hn : n ∈ p.order) : n.type = "if_event" ∨ n.type = "delay" ∨ n.type = "text_event" := by
  obtain ⟨hnormal, -, hserved⟩ := isNormal_and_isSound_of_mem_order h hn
  rw [registry_ofBuiltins, Registry.isSome_resolve_withBuiltins, hnormal.normalType_type] at hserved
  simpa using hserved

theorem not_isClosed_of_type_ne (h : n.type ≠ "if_event") : decide (n.IsClosed j) = false :=
  decide_eq_false fun hclosed => h hclosed.1

/-- The nodes of its plans succeed, and the verdict is to stop at those where the chain ends for the
job. -/
theorem fst_runNode_of_mem_order (h : (ofBuiltins text delay clock runIds).plan payload = .ok p)
    (hn : n ∈ p.order) (htext : ∀ t, NeverFails (text j t))
    (hdelay : ∀ seconds, 0 ≤ seconds → NeverFails (delay seconds)) (s : σ) :
    ((ofBuiltins text delay clock runIds).runNode j n s).1 =
      .ok { stop := decide (n.IsClosed j) } := by
  obtain ⟨hnormal, hsound, -⟩ := isNormal_and_isSound_of_mem_order h hn
  rw [runNode_ofBuiltins, hnormal.normalType_type]
  rcases type_of_mem_order h hn with htype | htype | htype
  · obtain ⟨c, hc⟩ := hsound.exists_read rfl htype
    have hevaluate := evaluate_of_read hc j
    have hclosed : n.IsClosed j ↔ c.holds j = false := by
      unfold Node.IsClosed
      rw [hevaluate, Except.ok.injEq]
      exact and_iff_right htype
    have hstop : decide (n.IsClosed j) = !c.holds j := by
      rw [Bool.eq_iff_iff, decide_eq_true_iff, hclosed, Bool.not_eq_true']
    rw [if_pos htype, testCondition_evaluateEffect, hevaluate, hstop]
    rfl
  · have hne : n.type ≠ "if_event" := by
      rw [htype]
      decide
    have hnever := hdelay _ (hsound.delaySeconds_nonneg htype)
    rw [if_neg hne, if_pos htype, hnever.fst_settleIgnoring, not_isClosed_of_type_ne hne]
    rfl
  · have hne : n.type ≠ "if_event" := by
      rw [htype]
      decide
    have hne' : n.type ≠ "delay" := by
      rw [htype]
      decide
    have hdeliver := deliver_of_trim_ne (hsound.trim_text_ne hnormal htype) text j
    rw [if_neg hne, if_neg hne', if_pos htype, hdeliver, (htext _).fst_settleIgnoring,
      not_isClosed_of_type_ne hne]
    rfl

/-- What a node of a plan asks for: its type decides. -/
theorem demand?_of_mem_order (h : (ofBuiltins text delay clock runIds).plan payload = .ok p)
    (hn : n ∈ p.order) :
    n.demand? j =
      if n.type = "delay" then some (.wait n.delaySeconds)
      else if n.type = "text_event" then some (.deliver j (Text.trim n.text))
      else none := by
  obtain ⟨hnormal, hsound, -⟩ := isNormal_and_isSound_of_mem_order h hn
  have htrim : n.type = "text_event" → Text.trim n.text ≠ "" := hsound.trim_text_ne hnormal
  rw [Node.demand?, hnormal.normalType_type, if_congr (and_iff_left_of_imp htrim) rfl rfl]

theorem text?_demand?_of_mem_order
    (h : (ofBuiltins text delay clock runIds).plan payload = .ok p) (hn : n ∈ p.order) :
    (n.demand? j).bind Demand.text? =
      if n.type == "text_event" then some (j, Text.trim n.text) else none := by
  rw [demand?_of_mem_order h hn]
  rcases type_of_mem_order h hn with htype | htype | htype <;> rw [htype] <;> rfl

theorem delay?_demand?_of_mem_order
    (h : (ofBuiltins text delay clock runIds).plan payload = .ok p) (hn : n ∈ p.order) :
    (n.demand? j).bind Demand.delay? =
      if n.type == "delay" then some n.delaySeconds else none := by
  rw [demand?_of_mem_order h hn]
  rcases type_of_mem_order h hn with htype | htype | htype <;> rw [htype] <;> rfl

/-! ## Jobs -/

/-- With a record of what the effects are given, the service performs the nodes of its plans. -/
theorem performs_of_mem_order (h : (ofBuiltins text delay clock runIds).plan payload = .ok p)
    (hn : n ∈ p.order) (htext : ∀ t, NeverFails (text j t))
    (hdelay : ∀ seconds, 0 ≤ seconds → NeverFails (delay seconds)) :
    ((ofBuiltinsServed text delay clock runIds).runner j).Performs Served.demands
      (fun n => decide (n.IsClosed j)) (Node.demand? j) n := by
  intro r
  rw [invoke_runner, runNode_ofBuiltinsServed, fst_runNode_of_mem_order h hn htext hdelay]
  exact ⟨_, rfl, rfl⟩

theorem tellsUnseen_served {act : Act Failure σ Json} (h : act.IsTextual) :
    act.served.TellsUnseen Served.demands := by
  intro r
  obtain ⟨t, ht⟩ := h r.state
  exact ⟨t, { r with state := (act r.state).2 }, by rw [Act.served, ht], rfl⟩

end Builtins

end Service

/-- What is made of the members of a list that have a property, and of no others. -/
theorem filterMap_eq_map_filter {α β : Type} {l : List α} {f : α → Option β} {q : α → Bool}
    {g : α → β} (h : ∀ a ∈ l, f a = if q a then some (g a) else none) :
    l.filterMap f = (l.filter q).map g := by
  induction l with
  | nil => rfl
  | cons a l ih =>
    obtain ⟨ha, hl⟩ := List.forall_mem_cons.mp h
    cases hq : q a <;> simp [ha, hq, ih hl]

namespace Service

variable {service : Service σ} {text : TextEffect σ} {delay : DelayEffect σ}
  {clock runIds : Act Failure σ Json} {p : Plan} {j : Job}

/-- With a record of what the effects are given, a job with a plan is executed by performing the
nodes of the plan. -/
theorem reaches_execute_ofBuiltinsServed (hclock : clock.IsTextual) (hids : runIds.IsTextual)
    (htext : ∀ t, NeverFails (text j t))
    (hdelay : ∀ seconds, 0 ≤ seconds → NeverFails (delay seconds))
    (h : (ofBuiltins text delay clock runIds).plan (j.workflow.map .ready) = .ok p)
    (s : Logged (Served σ)) :
    Act.Reaches ((ofBuiltinsServed text delay clock runIds).execute j) s fun r s' =>
      r.trace.hadFailures = false ∧ r.error = none ∧
        Performed Served.demands (fun n => decide (n.IsClosed j)) (Node.demand? j) p.order s.state
          s'.state r.trace.entries := by
  have hstop : ∀ n ∈ p.order, decide (n.IsClosed j) = true → n.demand? j = none := by
    intro n hn hclosed
    have htype := (of_decide_eq_true hclosed).1
    rw [demand?_of_mem_order h hn, htype]
    rfl
  rw [execute, plan_ofBuiltinsServed, h]
  dsimp only
  rw [host_ofBuiltinsServed]
  exact reaches_run (fun n hn => performs_of_mem_order h hn htext hdelay) hstop
    (tellsUnseen_served hclock) (tellsUnseen_served hids) j.id s

/-- A job with a plan is executed without a failure.  The nodes up to and including the first at
which the chain ends for the job succeed, and the others are skipped.  The effects are given the
texts and the delays of the nodes before that one, in their order and each once. -/
theorem exists_execute_of_builtins
    (hregistry : ∀ type, service.registry.resolve type =
      (Registry.withBuiltins [] (some text) (some delay)).resolve type)
    (hclock : service.clock.IsTextual) (hids : service.runIds.IsTextual)
    (htext : ∀ t, NeverFails (text j t))
    (hdelay : ∀ seconds, 0 ≤ seconds → NeverFails (delay seconds))
    (h : service.plan (j.workflow.map .ready) = .ok p) (s : Logged σ) :
    ∃ r record log,
      service.execute j s = (.ok r, ⟨record.state, log⟩) ∧
      (ofBuiltinsServed text delay service.clock service.runIds).execute j
        ⟨{ state := s.state }, s.log⟩ = (.ok r, ⟨record, log⟩) ∧
      r.error = none ∧ r.trace.hadFailures = false ∧
      List.Forall₂ Entry.IsOf p.order r.trace.entries ∧
      (∀ e ∈ r.trace.entries.take ((p.before j).length + 1), e.IsSucceeded) ∧
      (∀ e ∈ r.trace.entries.drop ((p.before j).length + 1), e.IsSkipped) ∧
      record.texts = ((p.before j).filter fun n => n.type == "text_event").map
        (fun n => (j, Text.trim n.text)) ∧
      record.delays = ((p.before j).filter fun n => n.type == "delay").map (·.delaySeconds) := by
  -- only what the registry resolves counts, so the service may be taken to be the usual one
  have hresolve (type : Json) : service.registry.resolve type =
      (ofBuiltins text delay service.clock service.runIds).registry.resolve type := by
    rw [registry_ofBuiltins, hregistry]
  have hexecute : service.execute j =
      (ofBuiltins text delay service.clock service.runIds).execute j :=
    execute_congr hresolve (by rw [ofBuiltins]) (by rw [ofBuiltins]) j
  have hplan : (ofBuiltins text delay service.clock service.runIds).plan (j.workflow.map .ready) =
      .ok p := by
    rw [← plan_congr (fun type => congrArg Option.isSome (hresolve type)), h]
  -- what is known of the execution with a record carries over to the one without
  obtain ⟨r, ⟨record, log⟩, hrun, hfailures, herror, hperformed⟩ :=
    reaches_execute_ofBuiltinsServed hclock hids htext hdelay hplan ⟨{ state := s.state }, s.log⟩
  have hmimics : (ofBuiltins text delay service.clock service.runIds).execute j s =
      (.ok r, ⟨record.state, log⟩) := by
    have hserved := execute_ofBuiltinsServed text delay service.clock service.runIds j
      ⟨{ state := s.state }, s.log⟩
    rw [hrun] at hserved
    exact hserved
  have hdemands : record.demands = (p.before j).filterMap (Node.demand? j) := hperformed.adds
  have hbefore : ∀ n ∈ p.before j, n ∈ p.order := fun n hn => (List.takeWhile_prefix _).subset hn
  refine ⟨r, record, log, ?_, hrun, herror, hfailures, hperformed.are_of,
    hperformed.succeeded, hperformed.skipped, ?_, ?_⟩
  · rw [hexecute]
    exact hmimics
  · rw [Served.texts, hdemands, List.filterMap_filterMap]
    exact filterMap_eq_map_filter fun n hn => text?_demand?_of_mem_order hplan (hbefore n hn)
  · rw [Served.delays, hdemands, List.filterMap_filterMap]
    exact filterMap_eq_map_filter fun n hn => delay?_demand?_of_mem_order hplan (hbefore n hn)

/-- A job whose workflow tests, halfway, a condition that does not hold for it. -/
def gatedJob : Job where
  id := "2"
  workflow := some {
    version := "v1"
    nodes := [
      { id := "never", type := "text_event", text := "bye" },
      { id := "gate", type := "if_event", ifCondition := "job_id == 1" },
      { id := "wait", type := "delay", delaySeconds := 3 },
      { id := "begin", type := "start" },
      { id := "say", type := "text_event", text := " hello " }]
    edges := [
      { id := "e1", source := "begin", target := "say" },
      { id := "e2", source := "say", target := "wait" },
      { id := "e3", source := "wait", target := "gate" },
      { id := "e4", source := "gate", target := "never" }] }

/-- A service that collects the texts it delivers. -/
def collectingService : Service (List String) :=
  ofBuiltins (fun _ t s => (.now (.value .null), s ++ [t])) (fun _ s => (.now (.value .null), s))
    (pure (.string "2026-01-02T03:04:05Z")) (pure (.string "run-1"))

theorem exists_execute_of_builtins_gatedJob :
    ∃ p, collectingService.plan (gatedJob.workflow.map .ready) = .ok p ∧
      p.orderIds = ["say", "wait", "gate", "never"] ∧
      (p.before gatedJob).map (·.id) = ["say", "wait"] ∧
      ∃ r record log,
        collectingService.execute gatedJob ⟨[], []⟩ = (.ok r, ⟨record.state, log⟩) ∧
        (ofBuiltinsServed (fun _ t s => (.now (.value .null), s ++ [t]))
          (fun _ s => (.now (.value .null), s)) collectingService.clock
          collectingService.runIds).execute gatedJob ⟨{ state := [] }, []⟩ =
            (.ok r, ⟨record, log⟩) ∧
        r.error = none ∧ r.trace.hadFailures = false ∧
        List.Forall₂ Entry.IsOf p.order r.trace.entries ∧
        (∀ e ∈ r.trace.entries.take ((p.before gatedJob).length + 1), e.IsSucceeded) ∧
        (∀ e ∈ r.trace.entries.drop ((p.before gatedJob).length + 1), e.IsSkipped) ∧
        record.texts = ((p.before gatedJob).filter fun n => n.type == "text_event").map
          (fun n => (gatedJob, Text.trim n.text)) ∧
        record.delays =
          ((p.before gatedJob).filter fun n => n.type == "delay").map (·.delaySeconds) := by
  have hids : (collectingService.plan (gatedJob.workflow.map .ready)).toOption.map
      (fun p => (p.orderIds, (p.before gatedJob).map (·.id))) =
        some (["say", "wait", "gate", "never"], ["say", "wait"]) := by decide +kernel
  cases hp : collectingService.plan (gatedJob.workflow.map .ready) with
  | error stop =>
    rw [hp] at hids
    cases hids
  | ok p =>
    rw [hp] at hids
    obtain ⟨horder, hbefore⟩ := Prod.mk.inj (Option.some.inj hids)
    have hregistry (type : Json) := congrArg (fun r => Registry.resolve r type)
      (registry_ofBuiltins (fun _ t s => (.now (.value .null), s ++ [t]))
        (fun _ s => (.now (.value .null), s)) (pure (.string "2026-01-02T03:04:05Z"))
        (pure (.string "run-1")))
    refine ⟨p, rfl, horder, hbefore, exists_execute_of_builtins hregistry (fun _ => ⟨_, rfl⟩)
      (fun _ => ⟨_, rfl⟩) (fun t s f h => ?_) (fun seconds _ s f h => ?_) hp ⟨[], []⟩⟩
    · cases h
    · cases h

end Service

end JobChain
