import JobChain.Proofs.Service.Soundness

/-!
# What handlers ask of the world

The handlers of texts and delays pass what they find in a node on to effects that the host supplies.
What these effects are given shows only in what they do.  But the host can supply effects that write
down what they are given before they do what they did anyway.  A service with these comes to the
same in every execution.

* `Demand`: something that an effect is given, and `Served`, a state with the demands so far.
* `TextEffect.served`, `DelayEffect.served`: effects that write down what they are given.
* `Service.ofBuiltins`: the service of the three handlers with a meaning.
* `Service.execute_ofBuiltinsServed`: writing down what effects are given changes nothing.
-/

namespace JobChain

variable {σ : Type}

/-! ## Effects that keep a record -/

/-- What an effect is given: a text to deliver for a job, or seconds to wait. -/
inductive Demand where
  | deliver (j : Job) (text : String)
  | wait (seconds : Int)

/-- The text that a demand is to deliver, with the job. -/
def Demand.text? : Demand → Option (Job × String)
  | deliver j text => some (j, text)
  | wait _ => none

/-- The seconds that a demand is to wait. -/
def Demand.delay? : Demand → Option Int
  | deliver _ _ => none
  | wait seconds => some seconds

/-- The state of a host with all demands so far, in order. -/
structure Served (σ : Type) where
  state : σ
  demands : List Demand := []

namespace Served

/-- The texts that were delivered, with their jobs. -/
def texts (r : Served σ) : List (Job × String) := r.demands.filterMap Demand.text?

/-- The seconds that were waited. -/
def delays (r : Served σ) : List Int := r.demands.filterMap Demand.delay?

end Served

/-- The act beside the record, which it leaves alone. -/
def Act.served {ε α : Type} (act : Act ε σ α) : Act ε (Served σ) α := fun r =>
  ((act r.state).1, { r with state := (act r.state).2 })

/-- The reply beside the record, which its work leaves alone. -/
def Reply.served : Reply σ → Reply (Served σ)
  | now outcome => .now outcome
  | later work => .later fun r => ((work r.state).1, { r with state := (work r.state).2 })

/-- The effect with a record of what it is given. -/
def servedEffect (demand : Demand) (effect : σ → Reply σ × σ) (r : Served σ) :
    Reply (Served σ) × Served σ :=
  ((effect r.state).1.served,
    { state := (effect r.state).2, demands := r.demands ++ [demand] })

/-- The delivery of texts with a record of them. -/
def TextEffect.served (text : TextEffect σ) : TextEffect (Served σ) := fun j t =>
  servedEffect (.deliver j t) (text j t)

/-- The waits with a record of them. -/
def DelayEffect.served (delay : DelayEffect σ) : DelayEffect (Served σ) := fun seconds =>
  servedEffect (.wait seconds) (delay seconds)

/-- An effect with a record comes to what it came to without one, and its demand is on record. -/
theorem settleIgnoring_servedEffect (demand : Demand) (effect : σ → Reply σ × σ) (r : Served σ) :
    settleIgnoring (servedEffect demand effect) r =
      ((settleIgnoring effect r.state).1,
        { state := (settleIgnoring effect r.state).2, demands := r.demands ++ [demand] }) := by
  unfold settleIgnoring servedEffect
  rcases effect r.state with ⟨outcome | work, s⟩
  · rfl
  · rfl

/-- The verdict of a runner whose reply is work to be done. -/
theorem Runner.invoke_of_later {runner : Runner σ} {n : Node} {s s' : σ} {work : σ → Outcome × σ}
    (h : runner n s = (.later work, s')) :
    runner.invoke n s = ((work s').1.toVerdict, (work s').2) := by
  unfold invoke
  rw [h]
  rfl

/-! ## Services of the three handlers -/

namespace Service

/-- The service whose registry holds the three handlers with a meaning and no other. -/
def ofBuiltins (text : TextEffect σ) (delay : DelayEffect σ) (clock runIds : Act Failure σ Json) :
    Service σ where
  registry := Registry.withBuiltins [] (some text) (some delay)
  clock := clock
  runIds := runIds

/-- The same service with a record of what the effects are given. -/
def ofBuiltinsServed (text : TextEffect σ) (delay : DelayEffect σ)
    (clock runIds : Act Failure σ Json) : Service (Served σ) :=
  ofBuiltins text.served delay.served clock.served runIds.served

theorem registry_ofBuiltins (text : TextEffect σ) (delay : DelayEffect σ)
    (clock runIds : Act Failure σ Json) :
    (ofBuiltins text delay clock runIds).registry =
      Registry.withBuiltins [] (some text) (some delay) := by
  rw [ofBuiltins]

/-- The collaborators of an execution with a record. -/
theorem host_ofBuiltinsServed (text : TextEffect σ) (delay : DelayEffect σ)
    (clock runIds : Act Failure σ Json) (j : Job) :
    (ofBuiltinsServed text delay clock runIds).host j =
      ⟨some ((ofBuiltinsServed text delay clock runIds).runner j), some clock.served,
        some runIds.served⟩ := by
  rw [host, ofBuiltinsServed, ofBuiltins]

section Congruence

variable {service service' : Service σ}

/-- What a service plans depends on which types its registry serves. -/
theorem plan_congr {τ : Type} {service : Service σ} {service' : Service τ}
    (h : ∀ type, (service.registry.resolve type).isSome = (service'.registry.resolve type).isSome)
    (payload : Option (Payload Workflow)) : service.plan payload = service'.plan payload := by
  have hcallbacks : service.callbacks = service'.callbacks := by
    unfold callbacks Registry.supports
    simp only [h]
  rw [plan, plan, hcallbacks]

/-- What a service does depends on the handlers in its registry, not on how they are stored. -/
theorem execute_congr
    (h : ∀ type, service.registry.resolve type = service'.registry.resolve type)
    (hclock : service.clock = service'.clock) (hids : service.runIds = service'.runIds) (j : Job) :
    service.execute j = service'.execute j := by
  have hplan := plan_congr (fun type => congrArg Option.isSome (h type)) (j.workflow.map .ready)
  have hhost : service.host j = service'.host j := by
    unfold host runner runNode
    simp only [h, hclock, hids]
  unfold execute
  rw [hplan, hhost]

end Congruence

/-- A service runs a node as the runner of its host does. -/
theorem invoke_runner (service : Service σ) (j : Job) (n : Node) (s : σ) :
    (service.runner j).invoke n s = service.runNode j n s := by
  unfold Runner.invoke runner
  simp

section Served

variable {text : TextEffect σ} {delay : DelayEffect σ} {clock runIds : Act Failure σ Json}

/-- The type of a node decides what the service of the three handlers does with it. -/
theorem runNode_ofBuiltins (j : Job) (n : Node) (s : σ) :
    (ofBuiltins text delay clock runIds).runNode j n s =
      if normalType (.string n.type) = "if_event" then
        ((testCondition (some evaluateEffect) j n s).1.toVerdict, s)
      else if normalType (.string n.type) = "delay" then
        ((settleIgnoring (delay n.delaySeconds) s).1.toVerdict,
          (settleIgnoring (delay n.delaySeconds) s).2)
      else if normalType (.string n.type) = "text_event" then
        ((deliver (some text) j n s).1.toVerdict, (deliver (some text) j n s).2)
      else
        (.error (.of .execution ("unsupported workflow node type=" ++ Text.quoted n.type)), s) := by
  unfold runNode ofBuiltins
  simp only [Registry.resolve_withBuiltins]
  split_ifs
  · show Runner.invoke ((conditionHandler (some evaluateEffect)).action j) n s = _
    rw [Runner.invoke_of_later rfl, testCondition_evaluateEffect]
  · exact Runner.invoke_of_later rfl
  · exact Runner.invoke_of_later rfl
  · rfl

/-- A text is delivered with its record. -/
theorem deliver_served (j : Job) (n : Node) (r : Served σ) :
    deliver (some text.served) j n r =
      ((deliver (some text) j n r.state).1,
        { state := (deliver (some text) j n r.state).2
          demands := r.demands ++ if Text.trim n.text = "" then [] else
            [.deliver j (Text.trim n.text)] }) := by
  unfold deliver
  simp only
  split_ifs with htext
  · simp [failing]
  · exact settleIgnoring_servedEffect _ _ _

end Served

end Service

/-- What a node asks of the world when it is run for a job: to deliver its text, or to wait for its
delay. -/
def Node.demand? (j : Job) (n : Node) : Option Demand :=
  if normalType (.string n.type) = "delay" then some (.wait n.delaySeconds)
  else if normalType (.string n.type) = "text_event" ∧ Text.trim n.text ≠ "" then
    some (.deliver j (Text.trim n.text))
  else none

namespace Service

section Served

variable {text : TextEffect σ} {delay : DelayEffect σ} {clock runIds : Act Failure σ Json}

/-- A node is run with its demand on record as it is run without. -/
theorem runNode_ofBuiltinsServed (j : Job) (n : Node) (r : Served σ) :
    (ofBuiltinsServed text delay clock runIds).runNode j n r =
      (((ofBuiltins text delay clock runIds).runNode j n r.state).1,
        { state := ((ofBuiltins text delay clock runIds).runNode j n r.state).2
          demands := r.demands ++ (n.demand? j).toList }) := by
  unfold ofBuiltinsServed Node.demand?
  rw [runNode_ofBuiltins, runNode_ofBuiltins]
  generalize normalType (.string n.type) = type
  by_cases hcondition : type = "if_event"
  · rw [if_pos hcondition, if_pos hcondition, hcondition, testCondition_evaluateEffect,
      testCondition_evaluateEffect]
    simp
  rw [if_neg hcondition, if_neg hcondition]
  by_cases hdelay : type = "delay"
  · simp only [if_pos hdelay]
    rw [DelayEffect.served, settleIgnoring_servedEffect]
    rfl
  simp only [if_neg hdelay]
  by_cases htype : type = "text_event"
  · simp only [htype, true_and, deliver_served]
    by_cases htext : Text.trim n.text = "" <;> simp [htext]
  · simp [htype]

/-- The host of a service with a record mimics that of the service without. -/
theorem mimics_host_ofBuiltinsServed (j : Job) :
    ((ofBuiltinsServed text delay clock runIds).host j).Mimics Served.state
      ((ofBuiltins text delay clock runIds).host j) where
  runner := .some fun n r => by
    rw [invoke_runner, invoke_runner, runNode_ofBuiltinsServed]
  clock := .some fun _ => rfl
  runIds := .some fun _ => rfl

theorem plan_ofBuiltinsServed (payload : Option (Payload Workflow)) :
    (ofBuiltinsServed text delay clock runIds).plan payload =
      (ofBuiltins text delay clock runIds).plan payload := by
  refine plan_congr (fun type => ?_) payload
  rw [ofBuiltinsServed, registry_ofBuiltins, registry_ofBuiltins,
    Registry.isSome_resolve_withBuiltins, Registry.isSome_resolve_withBuiltins]

variable (text delay clock runIds) in
/-- Writing down what effects are given changes nothing: the execution comes to the same, leaves the
host in the same state and writes the same log. -/
theorem execute_ofBuiltinsServed (j : Job) :
    Act.Mimics (Logged.map Served.state) ((ofBuiltinsServed text delay clock runIds).execute j)
      ((ofBuiltins text delay clock runIds).execute j) := by
  unfold execute
  rw [plan_ofBuiltinsServed]
  cases (ofBuiltins text delay clock runIds).plan (j.workflow.map .ready) with
  | ok p => exact run_mimics (mimics_host_ofBuiltinsServed j) j.id (some p)
  | error stop =>
    cases stop with
    | refused reason => exact .bind (mimics_note _) fun _ => .fail _
    | _ => exact .fail _

end Served

end Service

end JobChain
